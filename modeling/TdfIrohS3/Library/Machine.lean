import Mathlib.Data.List.Basic

namespace TdfIrohS3.Library

/-- A transition system whose inputs carry every choice of the environment: which task moves,
what a clock reads, what a remote party answers. A step that the state does not offer is `none`;
a step that is taken says what an observer sees of it. -/
structure Machine (State Input Notice : Type) where
  next : State → Input → Option (State × List Notice)

namespace Machine

variable {State Input Notice : Type}

/-- `Run machine allowed before first after last`: the machine goes from the state `first` with the
history `before` to `last` with the history `after`. Histories are newest first. `allowed` restricts
the steps, by the history and the state they are taken in: it is where an assumption about the
environment, or a condition under which a property is proved, enters. -/
inductive Run (machine : Machine State Input Notice)
    (allowed : List Notice → State → Input → Prop) (before : List Notice) (first : State) :
    List Notice → State → Prop
  | refl : Run machine allowed before first before first
  | step {log : List Notice} {state last : State} {input : Input} {notices : List Notice}
      (earlier : Run machine allowed before first log state) (permitted : allowed log state input)
      (taken : machine.next state input = some (last, notices)) :
      Run machine allowed before first (notices ++ log) last

variable {machine : Machine State Input Notice} {allowed : List Notice → State → Input → Prop}
variable {before middle after : List Notice} {first second last : State}

theorem Run.trans (front : Run machine allowed before first middle second)
    (back : Run machine allowed middle second after last) :
    Run machine allowed before first after last := by
  induction back with
  | refl => exact front
  | step _ permitted taken ih => exact Run.step ih permitted taken

theorem Run.mono {wider : List Notice → State → Input → Prop}
    (weaker : ∀ log state input, allowed log state input → wider log state input)
    (run : Run machine allowed before first after last) :
    Run machine wider before first after last := by
  induction run with
  | refl => exact Run.refl
  | step _ permitted taken ih => exact Run.step ih (weaker _ _ _ permitted) taken

theorem Run.invariant (Invariant : List Notice → State → Prop)
    (run : Run machine allowed before first after last) (initial : Invariant before first)
    (preserved : ∀ log state input next notices, Invariant log state → allowed log state input →
      machine.next state input = some (next, notices) → Invariant (notices ++ log) next) :
    Invariant after last := by
  induction run with
  | refl => exact initial
  | step _ permitted taken ih => exact preserved _ _ _ _ _ ih permitted taken

theorem Run.state_invariant (Invariant : State → Prop)
    (run : Run machine allowed before first after last) (initial : Invariant first)
    (preserved : ∀ log state input next notices, Invariant state → allowed log state input →
      machine.next state input = some (next, notices) → Invariant next) : Invariant last :=
  run.invariant (fun _ state => Invariant state) initial preserved

theorem Run.split {notice : Notice} (run : Run machine allowed before first after last)
    (seen : notice ∈ after) (fresh : notice ∉ before) :
    ∃ log state input next notices,
      Run machine allowed before first log state ∧ allowed log state input ∧
      machine.next state input = some (next, notices) ∧ notice ∈ notices ∧
      Run machine allowed (notices ++ log) next after last := by
  induction run with
  | refl => exact absurd seen fresh
  | @step log state last input notices earlier permitted taken ih =>
      rcases List.mem_append.mp seen with here | there
      · exact ⟨log, state, input, last, notices, earlier, permitted, taken, here, Run.refl⟩
      · obtain ⟨log', state', input', next, notices', front, granted, moved, member, back⟩ :=
          ih there
        exact ⟨log', state', input', next, notices', front, granted, moved, member,
          Run.step back permitted taken⟩

/-- Where each step says at most one thing, a notice of the history is what one step said, taken
with the history before it. -/
theorem Run.at_notice {newer older : List Notice} {notice : Notice}
    (single : ∀ state input next notices, machine.next state input = some (next, notices) →
      notices.length ≤ 1)
    (run : Run machine allowed [] first after last) (history : after = newer ++ notice :: older) :
    ∃ state input next, Run machine allowed [] first older state ∧
      allowed older state input ∧ machine.next state input = some (next, [notice]) := by
  induction run generalizing newer with
  | refl => simp at history
  | @step log state last input notices earlier permitted taken ih =>
      match notices, single _ _ _ _ taken with
      | [], _ => exact ih history
      | [said], _ =>
          cases newer with
          | nil =>
              obtain ⟨rfl, rfl⟩ := List.cons.inj history
              exact ⟨state, input, last, earlier, permitted, taken⟩
          | cons newest newer => exact ih (List.cons.inj history).2

/-- Run a list of inputs, refusing one that `check` refuses. -/
def execute (machine : Machine State Input Notice) (check : List Notice → State → Input → Bool) :
    List Input → List Notice → State → Option (List Notice × State)
  | [], log, state => some (log, state)
  | input :: rest, log, state =>
      if check log state input then
        match machine.next state input with
        | none => none
        | some (next, notices) => execute machine check rest (notices ++ log) next
      else none

theorem execute_run {check : List Notice → State → Input → Bool}
    (sound : ∀ log state input, check log state input = true → allowed log state input)
    (inputs : List Input)
    (executed : machine.execute check inputs before first = some (after, last)) :
    Run machine allowed before first after last := by
  induction inputs generalizing before first with
  | nil =>
      simp only [execute, Option.some.injEq, Prod.mk.injEq] at executed
      obtain ⟨rfl, rfl⟩ := executed
      exact Run.refl
  | cons input rest ih =>
      simp only [execute] at executed
      split at executed
      · rename_i checked
        split at executed
        · cases executed
        · rename_i next notices taken
          exact (Run.step Run.refl (sound _ _ _ checked) taken).trans (ih executed)
      · cases executed

/-- A list of inputs that ends in a state with a decidable property shows a run to such a state. -/
theorem execute_reaches {check : List Notice → State → Input → Bool}
    (sound : ∀ log state input, check log state input = true → allowed log state input)
    (inputs : List Input) (holds : List Notice → State → Bool)
    (executed : (machine.execute check inputs before first).map
      (fun ended => holds ended.1 ended.2) = some true) :
    ∃ after last, Run machine allowed before first after last ∧ holds after last = true := by
  obtain ⟨⟨after, last⟩, reached, shown⟩ := Option.map_eq_some_iff.mp executed
  exact ⟨after, last, execute_run sound inputs reached, shown⟩

/-- The machine with its past: the state and the input of every step taken, newest first. -/
def traced (machine : Machine State Input Notice) :
    Machine (State × List (State × Input)) Input Notice where
  next moment input := (machine.next moment.1 input).map fun moved =>
    ((moved.1, (moment.1, input) :: moment.2), moved.2)

theorem traced_next {state next : State} {past trace : List (State × Input)} {input : Input}
    {notices : List Notice}
    (taken : machine.traced.next (state, past) input = some ((next, trace), notices)) :
    machine.next state input = some (next, notices) ∧ trace = (state, input) :: past := by
  obtain ⟨⟨moved, said⟩, step, same⟩ := Option.map_eq_some_iff.mp taken
  cases same
  exact ⟨step, rfl⟩

/-- An invariant of the states with their past, step by step. -/
theorem Run.traced_invariant {allowed : List Notice → State × List (State × Input) → Input → Prop}
    {first last : State × List (State × Input)}
    (Invariant : List Notice → State × List (State × Input) → Prop)
    (run : Run machine.traced allowed before first after last) (initial : Invariant before first)
    (preserved : ∀ log state past input next notices, Invariant log (state, past) →
      allowed log (state, past) input → machine.next state input = some (next, notices) →
      Invariant (notices ++ log) (next, (state, input) :: past)) : Invariant after last := by
  refine run.invariant Invariant initial ?_
  intro log moment input after notices holds permitted taken
  obtain ⟨state, past⟩ := moment
  obtain ⟨next, trace⟩ := after
  obtain ⟨moved, rfl⟩ := traced_next taken
  exact preserved log state past input next notices holds permitted moved

def moments (moment : State × List (State × Input)) : List State :=
  moment.1 :: moment.2.map Prod.fst

theorem Run.traced (run : Run machine allowed before first after last)
    (past : List (State × Input)) :
    ∃ trace, Run machine.traced (fun log moment input => allowed log moment.1 input) before
      (first, past) after (last, trace) := by
  induction run with
  | refl => exact ⟨past, Run.refl⟩
  | @step log state last input notices earlier permitted taken ih =>
      obtain ⟨trace, reached⟩ := ih
      refine ⟨(state, input) :: trace, Run.step reached permitted ?_⟩
      change (machine.next state input).map _ = _
      rw [taken]
      rfl

end Machine

theorem order_of_two {α : Type} {one two : α} (different : one ≠ two)
    {newer older later earlier : List α}
    (history : newer ++ one :: older = later ++ two :: earlier) :
    one ∈ later ∨ ∃ between, newer = later ++ two :: between ∧ earlier = between ++ one :: older := by
  rcases List.append_eq_append_iff.mp history with ⟨between, rfl, rest⟩ | ⟨between, rfl, rest⟩
  · cases between with
    | nil => exact absurd (List.cons.inj rest).1 different
    | cons first between =>
        obtain ⟨rfl, -⟩ := List.cons.inj rest
        exact .inl (by simp)
  · cases between with
    | nil => exact absurd (List.cons.inj rest).1.symm different
    | cons first between =>
        obtain ⟨rfl, rfl⟩ := List.cons.inj rest
        exact .inr ⟨between, rfl, rfl⟩

end TdfIrohS3.Library
