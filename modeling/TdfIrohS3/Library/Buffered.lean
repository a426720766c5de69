import Mathlib.Data.List.Basic
import TdfIrohS3.Library.Fallible

namespace TdfIrohS3.Library

/-- A stream of jobs run some at a time: those not started, those in flight, with the answer of each
that is complete, and the values taken. Answers are taken in the order of the jobs, up to the first
refusal. -/
structure Buffered (Job Refusal Found : Type) where
  waiting : List Job
  flight : List (Job × Option (Except Refusal Found))
  taken : List (Job × Found)

namespace Buffered

inductive Move
  | start
  | complete (place : Nat)
  | take

variable {Job Refusal Found : Type}

def unanswered (inFlight : Job × Option (Except Refusal Found)) : Bool := inFlight.2.isNone

def moves (limit : Nat) (stream : Buffered Job Refusal Found) : List Move :=
  (if !stream.waiting.isEmpty && decide (stream.flight.length < limit) then [.start] else []) ++
    ((List.range stream.flight.length).filter fun place =>
      stream.flight[place]?.any unanswered).map .complete ++
    (if stream.flight.head?.any fun entry => !unanswered entry then [.take] else [])

def step (answer : Job → Except Refusal Found) (stream : Buffered Job Refusal Found) :
    Move → Except Refusal (Buffered Job Refusal Found)
  | .start =>
      match stream.waiting with
      | [] => .ok stream
      | job :: rest => .ok { stream with waiting := rest, flight := stream.flight ++ [(job, none)] }
  | .complete place =>
      .ok { stream with
        flight := stream.flight.modify place fun entry => (entry.1, some (answer entry.1)) }
  | .take =>
      match stream.flight with
      | (job, some (.ok found)) :: rest =>
          .ok { stream with flight := rest, taken := stream.taken ++ [(job, found)] }
      | (_, some (.error refusal)) :: _ => .error refusal
      | _ => .ok stream

/-- Run the stream to its end. What happens next is any of the moves there are: the schedule picks
it. -/
def run (limit : Nat) (answer : Job → Except Refusal Found) (schedule : Nat → Nat) :
    Nat → Buffered Job Refusal Found → Option (Except Refusal (List (Job × Found)))
  | 0, _ => none
  | fuel + 1, stream =>
      if stream.waiting.isEmpty && stream.flight.isEmpty then some (.ok stream.taken)
      else
        match (stream.moves limit)[schedule fuel % (stream.moves limit).length]? with
        | none => none
        | some move =>
            match stream.step answer move with
            | .error refusal => some (.error refusal)
            | .ok next => run limit answer schedule fuel next

def collect (limit : Nat) (answer : Job → Except Refusal Found) (schedule : Nat → Nat)
    (jobs : List Job) : Option (Except Refusal (List (Job × Found))) :=
  run limit answer schedule (3 * jobs.length + 1) ⟨jobs, [], []⟩

section Spec

variable (answer : Job → Except Refusal Found) {limit : Nat} {stream next : Buffered Job Refusal Found}

def ask (job : Job) : Except Refusal (Job × Found) := do
  let found ← answer job
  return (job, found)

def left (stream : Buffered Job Refusal Found) : List Job :=
  stream.flight.map Prod.fst ++ stream.waiting

def outcome (stream : Buffered Job Refusal Found) : Except Refusal (List (Job × Found)) := do
  let rest ← stream.left.mapM (ask answer)
  .ok (stream.taken ++ rest)

def Honest (stream : Buffered Job Refusal Found) : Prop :=
  ∀ job result, (job, some result) ∈ stream.flight → result = answer job

def pending (stream : Buffered Job Refusal Found) : Nat :=
  3 * stream.waiting.length + stream.flight.length + stream.flight.countP unanswered

inductive Offered (limit : Nat) (stream : Buffered Job Refusal Found) : Move → Prop
  | start {job : Job} {rest : List Job} (waits : stream.waiting = job :: rest)
      (room : stream.flight.length < limit) : Offered limit stream .start
  | complete {place : Nat} {job : Job} (runs : stream.flight[place]? = some (job, none)) :
      Offered limit stream (.complete place)
  | take {job : Job} {result : Except Refusal Found}
      {rest : List (Job × Option (Except Refusal Found))}
      (answered : stream.flight = (job, some result) :: rest) : Offered limit stream .take

theorem offered_of_mem {move : Move} (member : move ∈ stream.moves limit) :
    Offered limit stream move := by
  unfold moves at member
  rcases List.mem_append.mp member with front | taken
  · rcases List.mem_append.mp front with started | completed
    · split at started
      · rename_i both
        simp only [Bool.and_eq_true, decide_eq_true_eq] at both
        cases List.mem_singleton.mp started
        cases waits : stream.waiting with
        | nil => simp [waits] at both
        | cons job rest => exact .start waits both.2
      · cases started
    · obtain ⟨place, inRange, rfl⟩ := List.mem_map.mp completed
      have runs := (List.mem_filter.mp inRange).2
      cases entry : stream.flight[place]? with
      | none => simp [entry] at runs
      | some pair =>
          obtain ⟨job, result⟩ := pair
          cases result with
          | none => exact .complete entry
          | some result => simp [entry, unanswered] at runs
  · split at taken
    · rename_i answered
      cases List.mem_singleton.mp taken
      cases flight : stream.flight with
      | nil => simp [flight] at answered
      | cons entry rest =>
          obtain ⟨job, result⟩ := entry
          cases result with
          | none => simp [flight, unanswered] at answered
          | some result => exact .take flight
    · cases taken

theorem moves_ne_nil (room : 0 < limit)
    (going : ¬(stream.waiting.isEmpty && stream.flight.isEmpty) = true) :
    stream.moves limit ≠ [] := by
  intro stuck
  unfold moves at stuck
  simp only [List.append_eq_nil_iff] at stuck
  obtain ⟨⟨noStart, noComplete⟩, noTake⟩ := stuck
  cases flight : stream.flight with
  | nil =>
      cases waits : stream.waiting with
      | nil => simp [flight, waits] at going
      | cons job rest => simp [flight, waits, room] at noStart
  | cons entry rest =>
      obtain ⟨job, result⟩ := entry
      cases result with
      | none =>
          have first : 0 ∈ (List.range stream.flight.length).filter fun place =>
              stream.flight[place]?.any unanswered := by
            simp [flight, unanswered]
          rw [List.map_eq_nil_iff.mp noComplete] at first
          cases first
      | some result => simp [flight, unanswered] at noTake

variable {answer}

theorem complete_splits {place : Nat} {job : Job} (runs : stream.flight[place]? = some (job, none)) :
    ∃ front back, stream.flight = front ++ (job, none) :: back ∧
      stream.flight.modify place (fun entry => (entry.1, some (answer entry.1))) =
        front ++ (job, some (answer job)) :: back := by
  obtain ⟨inRange, found⟩ := List.getElem?_eq_some_iff.mp runs
  obtain ⟨front, entry, back, split, atPlace, modified⟩ :=
    List.exists_of_modify (fun entry => (entry.1, some (answer entry.1))) inRange
  have same : entry = (job, none) := by
    subst atPlace
    rw [split] at runs
    simpa using runs
  subst same
  exact ⟨front, back, split, modified⟩

theorem step_outcome {move : Move} (offered : Offered limit stream move)
    (honest : Honest answer stream) :
    (∃ next, stream.step answer move = .ok next ∧ Honest answer next ∧
      outcome answer next = outcome answer stream ∧ pending next < pending stream) ∨
    ∃ refusal, stream.step answer move = .error refusal ∧
      outcome answer stream = .error refusal := by
  cases offered with
  | @start job rest waits room =>
      refine .inl ⟨_, by rw [step, waits], ?_, ?_, ?_⟩
      · intro other result member
        rcases List.mem_append.mp member with earlier | started
        · exact honest other result earlier
        · simp at started
      · simp [outcome, left, waits]
      · simp [pending, unanswered, waits]
        omega
  | @complete place job runs =>
      obtain ⟨front, back, split, modified⟩ :=
        @complete_splits Job Refusal Found answer stream place job runs
      refine .inl ⟨_, rfl, ?_, ?_, ?_⟩
      · intro other result member
        simp only [modified, List.mem_append, List.mem_cons, Prod.mk.injEq, Option.some.injEq] at member
        rcases member with earlier | ⟨rfl, rfl⟩ | later
        · exact honest other result (by simp [split, earlier])
        · rfl
        · exact honest other result (by simp [split, later])
      · simp only [outcome, left, modified]
        simp [split]
      · simp only [pending, modified]
        simp [split, unanswered, List.countP_cons]
  | @take job result rest answered =>
      have known : result = answer job := honest job result (by simp [answered])
      cases result with
      | ok found =>
          refine .inl ⟨{ stream with flight := rest, taken := stream.taken ++ [(job, found)] },
            by simp [step, answered], ?_, ?_, ?_⟩
          · intro other result member
            exact honest other result (by simp [answered, member])
          · have asked : stream.left = job :: (rest.map Prod.fst ++ stream.waiting) := by
              simp [left, answered]
            unfold outcome
            rw [asked, List.mapM_cons, ask, ← known]
            simp [left]
          · simp [pending, answered, unanswered]
      | error refusal =>
          refine .inr ⟨refusal, by simp [step, answered], ?_⟩
          have asked : stream.left = job :: (rest.map Prod.fst ++ stream.waiting) := by
            simp [left, answered]
          rw [outcome, asked, List.mapM_cons, ask, ← known]
          rfl

theorem run_eq (room : 0 < limit) (schedule : Nat → Nat) :
    ∀ fuel (stream : Buffered Job Refusal Found), Honest answer stream → pending stream < fuel →
      run limit answer schedule fuel stream = some (outcome answer stream) := by
  intro fuel
  induction fuel with
  | zero =>
      intro stream _ enough
      cases enough
  | succ fuel ih =>
      intro stream honest enough
      unfold run
      by_cases ended : (stream.waiting.isEmpty && stream.flight.isEmpty) = true
      · rw [if_pos ended]
        obtain ⟨noneWait, noneFly⟩ := Bool.and_eq_true_iff.mp ended
        have nothing : stream.left = [] := by
          rw [left, List.isEmpty_iff.mp noneWait, List.isEmpty_iff.mp noneFly]
          rfl
        rw [outcome, nothing, List.mapM_nil]
        exact congrArg (some ∘ Except.ok) (List.append_nil _).symm
      · rw [if_neg ended]
        have offers : 0 < (stream.moves limit).length :=
          List.length_pos_iff.mpr (moves_ne_nil room ended)
        have inRange := Nat.mod_lt (schedule fuel) offers
        rw [List.getElem?_eq_getElem inRange]
        rcases step_outcome (offered_of_mem (List.getElem_mem inRange)) honest with
          ⟨next, stepped, honest', same, closer⟩ | ⟨refusal, stepped, refused⟩
        · simp only [stepped]
          rw [ih next honest' (by omega), same]
        · simp only [stepped, refused]

/-- Whatever the order in which the jobs complete, the result is that of asking one after the
other. -/
theorem collect_eq (room : 0 < limit) (schedule : Nat → Nat) (jobs : List Job) :
    collect limit answer schedule jobs = some (jobs.mapM (ask answer)) := by
  have honest : Honest answer (⟨jobs, [], []⟩ : Buffered Job Refusal Found) := by
    intro job result member
    cases member
  rw [collect, run_eq room schedule _ _ honest (by simp [pending])]
  change some (jobs.mapM (ask answer) >>= fun rest => .ok ([] ++ rest)) = _
  cases jobs.mapM (ask answer) with
  | error refusal => rfl
  | ok found => rfl

end Spec

section Asked

variable [DecidableEq Job] {answer : Job → Except Refusal Found}

def refusalOf : Except Refusal Found → Option Refusal
  | .error refusal => some refusal
  | .ok _ => none

theorem mapM_ask (jobs : List Job) :
    (∃ refusal, jobs.mapM (ask answer) = .error refusal ∧
      jobs.findSome? (fun job => refusalOf (answer job)) = some refusal) ∨
    ∃ found, jobs.mapM (ask answer) = .ok found ∧
      jobs.findSome? (fun job => refusalOf (answer job)) = none ∧
      ∀ job ∈ jobs, ∃ value, answer job = .ok value ∧ found.lookup job = some value := by
  induction jobs with
  | nil => exact .inr ⟨[], rfl, rfl, by simp⟩
  | cons job rest ih =>
      rw [List.mapM_cons, List.findSome?_cons, ask]
      cases answered : answer job with
      | error refusal => exact .inl ⟨refusal, rfl, rfl⟩
      | ok value =>
          rcases ih with ⟨refusal, refused, first⟩ | ⟨found, all, noRefusal, each⟩
          · refine .inl ⟨refusal, ?_, first⟩
            rw [refused]
            rfl
          · refine .inr ⟨(job, value) :: found, ?_, noRefusal, ?_⟩
            · rw [all]
              rfl
            · intro other member
              rw [List.lookup_cons]
              by_cases same : other = job
              · subst same
                exact ⟨value, answered, by simp⟩
              · rw [beq_false_of_ne same]
                exact each other ((List.mem_cons.mp member).resolve_left same)

theorem findSome_filter_ne {Out : Type} {look : Job → Option Out} {job : Job}
    (nothing : look job = none) (jobs : List Job) :
    (jobs.filter fun other => !other == job).findSome? look = jobs.findSome? look := by
  induction jobs with
  | nil => rfl
  | cons other rest ih =>
      by_cases same : other = job
      · rw [List.filter_cons_of_neg (by simp [same]), ih, List.findSome?_cons, same, nothing]
      · rw [List.filter_cons_of_pos (by simp [same]), List.findSome?_cons, List.findSome?_cons, ih]

theorem findSome_eraseDups {Out : Type} (look : Job → Option Out) (jobs : List Job) :
    jobs.eraseDups.findSome? look = jobs.findSome? look := by
  match jobs with
  | [] => simp
  | job :: rest =>
      rw [List.eraseDups_cons, List.findSome?_cons, List.findSome?_cons]
      cases looked : look job with
      | some out => rfl
      | none =>
          have once := findSome_eraseDups look (rest.filter fun other => !other == job)
          exact once.trans (findSome_filter_ne looked rest)
termination_by jobs.length
decreasing_by
  have kept := List.length_filter_le (fun other => !other == job) rest
  rw [List.length_cons]
  omega

theorem findSome_eq_find {Item Out : Type} {look : Item → Option Out} {holds : Item → Bool}
    {out : Item → Out} {items : List Item}
    (each : ∀ item ∈ items, look item = if holds item then some (out item) else none) :
    items.findSome? look = (items.find? holds).map out := by
  induction items with
  | nil => rfl
  | cons item rest ih =>
      have later := ih fun other member => each other (List.mem_cons_of_mem _ member)
      rw [List.findSome?_cons, List.find?_cons, each item List.mem_cons_self]
      cases holds item with
      | true => rfl
      | false => exact later

end Asked

end Buffered

end TdfIrohS3.Library
