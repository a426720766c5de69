import TdfIrohS3.Library.Machine

namespace TdfIrohS3.Library

/-- A machine with a clock. `due` is the instant of the timer the task under study sleeps on, where it
sleeps on one. -/
structure Timed (State Input Notice : Type) extends Machine State Input Notice where
  now : State → Nat
  due : State → Option Nat
  /-- A timer is set for an instant to come. -/
  due_ahead : ∀ state input after notices, next state input = some (after, notices) →
    ∀ instant, due after = some instant → due state = some instant ∨ now after ≤ instant

namespace Timed

variable {State Input Notice : Type} (timed : Timed State Input Notice)

/-- A step that does not take the clock further than `lag` past a timer that is slept on: a timer
goes off late, but not later than that. -/
def Punctual (lag : Nat) (state : State) (input : Input) : Prop :=
  ∀ after notices, timed.next state input = some (after, notices) →
    ∀ instant, timed.due state = some instant → timed.now after ≤ instant + lag

def punctual (lag : Nat) (state : State) (input : Input) : Bool :=
  (timed.next state input).all fun moved =>
    (timed.due state).all fun instant => timed.now moved.1 ≤ instant + lag

theorem punctual_iff (lag : Nat) (state : State) (input : Input) :
    timed.punctual lag state input = true ↔ timed.Punctual lag state input := by
  simp [punctual, Punctual, Option.all_eq_true]

variable {timed} {lag : Nat} {allowed : List Notice → State → Input → Prop}
  {before log : List Notice} {first last : State}

def OnTime (timed : Timed State Input Notice) (lag : Nat) (state : State) : Prop :=
  ∀ instant, timed.due state = some instant → timed.now state ≤ instant + lag

theorem onTime_step {state after : State} {input : Input} {notices : List Notice}
    (punctual : timed.Punctual lag state input)
    (taken : timed.next state input = some (after, notices)) : timed.OnTime lag after := by
  intro instant waits
  rcases timed.due_ahead _ _ _ _ taken instant waits with same | ahead
  · exact punctual _ _ taken instant same
  · exact Nat.le_trans ahead (Nat.le_add_right _ _)

/-- Where timers go off in time, an invariant may be proved with the clock bounded by them. -/
theorem timely_invariant (Invariant : State → Prop)
    (run : timed.toMachine.Run allowed before first log last)
    (punctual : ∀ log state input, allowed log state input → timed.Punctual lag state input)
    (onTime : timed.OnTime lag first) (initial : Invariant first)
    (preserved : ∀ log state input after notices, Invariant state → timed.OnTime lag state →
      allowed log state input → timed.next state input = some (after, notices) →
      Invariant after) :
    Invariant last ∧ timed.OnTime lag last := by
  refine run.state_invariant (fun state => Invariant state ∧ timed.OnTime lag state)
    ⟨initial, onTime⟩ ?_
  intro log state input after notices both permitted taken
  exact ⟨preserved _ _ _ _ _ both.1 both.2 permitted taken,
    onTime_step (punctual _ _ _ permitted) taken⟩

end Timed

end TdfIrohS3.Library
