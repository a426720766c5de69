import TdfIrohS3.Library.Timed

namespace TdfIrohS3

open Library

structure PushWatchConfig where
  maxBlobBytes : Nat
  pushStallSecs : Nat

def PushWatchConfig.stall (config : PushWatchConfig) : Nat := max config.pushStallSecs 1 * 1000000000

def pushStallMinBytes : Nat := 64 * 1024

def transferEndWait : Nat := 30 * 1000000000

inductive SizeWatch
  | looking
  | settled
  deriving DecidableEq, Repr

/-- The other half of `watch_push`: it sleeps a window after it has read the bytes its connection
received (`none`: the connection was not open), or never resolves. -/
inductive StallWatch
  | measuring (last : Option Nat) (wake : Nat)
  | gone
  deriving DecidableEq, Repr

inductive PushTrouble
  | oversize (size : Nat)
  | stalled
  deriving DecidableEq, Repr

/-- Where `wait_and_ingest` is: the transfer runs and is watched; its connection was closed and the
transfer is given time to end; the blob goes on to `ingest_stored`; or the push is given up. -/
inductive PushWatchPhase
  | running (size : SizeWatch) (stall : StallWatch)
  | ending (oversize : Bool) (deadline : Nat)
  | ingesting (completed : Bool)
  | refused
  deriving DecidableEq, Repr

/-- A push being received, with the clock and the bytes its connection has received while that is
open. -/
structure PushWatch where
  now : Nat
  received : Option Nat
  phase : PushWatchPhase
  deriving DecidableEq, Repr

inductive RequestUpdate
  | started (size : Nat)
  | progress
  | completed
  | aborted
  | closed
  deriving DecidableEq, Repr

inductive PushWatchEvent
  | tick (instant : Nat)
  | receive (bytes : Nat)
  /-- The connection is closed, by either side. -/
  | disconnect
  /-- The store knows the size the push declared, or its stream of sizes ends. -/
  | sized (size : Option Nat)
  | wake
  | update (update : RequestUpdate)
  /-- The time to end is over. -/
  | giveUp
  deriving DecidableEq, Repr

inductive PushWatchNotice
  | stopped (why : PushTrouble)
  | ingests
  | refused
  deriving DecidableEq, Repr

namespace PushWatch

variable (config : PushWatchConfig)

def accept (now : Nat) (received : Option Nat) : PushWatch :=
  { now, received, phase := .running .looking (.measuring received (now + config.stall)) }

def stop (push : PushWatch) (why : PushTrouble) : PushWatch × List PushWatchNotice :=
  let oversize := match why with | .oversize _ => true | .stalled => false
  ({ push with phase := .ending oversize (push.now + transferEndWait) }, [.stopped why])

def ingest (push : PushWatch) (completed : Bool) : PushWatch × List PushWatchNotice :=
  ({ push with phase := .ingesting completed }, [.ingests])

def ended (push : PushWatch) (oversize : Bool) : PushWatch × List PushWatchNotice :=
  if oversize then ({ push with phase := .refused }, [.refused]) else push.ingest false

/-- The stream of sizes in `oversize_push`: 0 is not known yet. -/
def sized (push : PushWatch) (stall : StallWatch) : Option Nat → PushWatch × List PushWatchNotice
  | none => ({ push with phase := .running .settled stall }, [])
  | some 0 => (push, [])
  | some size =>
      if config.maxBlobBytes < size then push.stop (.oversize size)
      else ({ push with phase := .running .settled stall }, [])

def measured (push : PushWatch) (size : SizeWatch) (last : Option Nat) :
    PushWatch × List PushWatchNotice :=
  match last, push.received with
  | _, none => ({ push with phase := .running size .gone }, [])
  | some before, some after =>
      if after - before < pushStallMinBytes then push.stop .stalled
      else
        ({ push with
          phase := .running size (.measuring (some after) (push.now + config.stall)) }, [])
  | none, some after =>
      ({ push with
        phase := .running size (.measuring (some after) (push.now + config.stall)) }, [])

def next (push : PushWatch) : PushWatchEvent → Option (PushWatch × List PushWatchNotice)
  | .tick instant => if push.now ≤ instant then some ({ push with now := instant }, []) else none
  | .receive bytes =>
      push.received.map fun received => ({ push with received := some (received + bytes) }, [])
  | .disconnect => some ({ push with received := none }, [])
  | .sized size =>
      match push.phase with
      | .running .looking stall => some (push.sized config stall size)
      | _ => none
  | .wake =>
      match push.phase with
      | .running size (.measuring last wake) =>
          if wake ≤ push.now then some (push.measured config size last) else none
      | _ => none
  | .update update =>
      match push.phase with
      | .running _ _ =>
          match update with
          | .started _ | .progress => some (push, [])
          | .completed => some (push.ingest true)
          | .aborted | .closed => some (push.ingest false)
      | .ending oversize _ =>
          match update with
          | .closed => some (push.ended oversize)
          | _ => some (push, [])
      | _ => none
  | .giveUp =>
      match push.phase with
      | .ending oversize deadline =>
          if deadline ≤ push.now then some (push.ended oversize) else none
      | _ => none

def due (push : PushWatch) : Option Nat :=
  match push.phase with
  | .running _ (.measuring _ wake) => some wake
  | .ending _ deadline => some deadline
  | _ => none

inductive Effect (push : PushWatch) : PushWatchEvent → PushWatch → List PushWatchNotice → Prop
  | tick (instant : Nat) (later : push.now ≤ instant) :
      Effect push (.tick instant) { push with now := instant } []
  | received (bytes before : Nat) (known : push.received = some before) :
      Effect push (.receive bytes) { push with received := some (before + bytes) } []
  | disconnected : Effect push .disconnect { push with received := none } []
  | same (event : PushWatchEvent) : Effect push event push []
  | settled (stall : StallWatch) (size : Option Nat) (phase : push.phase = .running .looking stall) :
      Effect push (.sized size) { push with phase := .running .settled stall } []
  | oversize (stall : StallWatch) (size : Nat) (phase : push.phase = .running .looking stall)
      (large : config.maxBlobBytes < size) :
      Effect push (.sized (some size))
        { push with phase := .ending true (push.now + transferEndWait) } [.stopped (.oversize size)]
  | gone (size : SizeWatch) (last : Option Nat) (wake : Nat)
      (phase : push.phase = .running size (.measuring last wake)) (left : push.received = none) :
      Effect push .wake { push with phase := .running size .gone } []
  | stalled (size : SizeWatch) (before after wake : Nat)
      (phase : push.phase = .running size (.measuring (some before) wake))
      (later : wake ≤ push.now) (known : push.received = some after)
      (slow : after - before < pushStallMinBytes) :
      Effect push .wake { push with phase := .ending false (push.now + transferEndWait) }
        [.stopped .stalled]
  | moving (size : SizeWatch) (last : Option Nat) (after wake : Nat)
      (phase : push.phase = .running size (.measuring last wake))
      (known : push.received = some after)
      (fast : ∀ before, last = some before → pushStallMinBytes ≤ after - before) :
      Effect push .wake
        { push with phase := .running size (.measuring (some after) (push.now + config.stall)) } []
  | ingests (size : SizeWatch) (stall : StallWatch) (update : RequestUpdate) (completed : Bool)
      (phase : push.phase = .running size stall) :
      Effect push (.update update) { push with phase := .ingesting completed } [.ingests]
  | released (event : PushWatchEvent) (deadline : Nat) (phase : push.phase = .ending false deadline) :
      Effect push event { push with phase := .ingesting false } [.ingests]
  | refused (event : PushWatchEvent) (deadline : Nat) (phase : push.phase = .ending true deadline) :
      Effect push event { push with phase := .refused } [.refused]

section Steps

variable {config} {push after : PushWatch} {event : PushWatchEvent} {notices : List PushWatchNotice}

theorem ended_effect {oversize : Bool} {deadline : Nat}
    (phase : push.phase = .ending oversize deadline)
    (taken : push.ended oversize = (after, notices)) : Effect config push event after notices := by
  cases oversize with
  | true =>
      cases taken
      exact Effect.refused event deadline phase
  | false =>
      cases taken
      exact Effect.released event deadline phase

theorem sized_effect {stall : StallWatch} {size : Option Nat}
    (phase : push.phase = .running .looking stall)
    (taken : push.sized config stall size = (after, notices)) :
    Effect config push (.sized size) after notices := by
  match size with
  | none =>
      cases taken
      exact Effect.settled stall none phase
  | some 0 =>
      cases taken
      exact Effect.same _
  | some (size + 1) =>
      simp only [PushWatch.sized] at taken
      split at taken
      · rename_i large
        cases taken
        exact Effect.oversize stall (size + 1) phase large
      · cases taken
        exact Effect.settled stall (some (size + 1)) phase

theorem measured_effect {size : SizeWatch} {last : Option Nat} {wake : Nat}
    (phase : push.phase = .running size (.measuring last wake)) (later : wake ≤ push.now)
    (taken : push.measured config size last = (after, notices)) :
    Effect config push .wake after notices := by
  unfold measured at taken
  split at taken
  · rename_i left
    cases taken
    exact Effect.gone size _ wake phase left
  · rename_i before bytes known
    split at taken
    · rename_i slow
      cases taken
      exact Effect.stalled size before bytes wake phase later known slow
    · rename_i fast
      cases taken
      refine Effect.moving size (some before) bytes wake phase known ?_
      rintro other ⟨⟩
      exact Nat.le_of_not_lt fast
  · rename_i bytes known
    cases taken
    exact Effect.moving size none bytes wake phase known (by intro before none; cases none)

theorem update_effect {update : RequestUpdate}
    (taken : next config push (.update update) = some (after, notices)) :
    Effect config push (.update update) after notices := by
  simp only [next] at taken
  split at taken
  · rename_i size stall phase
    split at taken <;> cases taken
    · exact Effect.same _
    · exact Effect.same _
    · exact Effect.ingests size stall _ true phase
    · exact Effect.ingests size stall _ false phase
    · exact Effect.ingests size stall _ false phase
  · rename_i oversize deadline phase
    split at taken
    · exact ended_effect phase (Option.some.inj taken)
    · cases taken
      exact Effect.same _
  · cases taken

theorem effect_of_next (taken : next config push event = some (after, notices)) :
    Effect config push event after notices := by
  cases event with
  | tick instant =>
      simp only [next] at taken
      split at taken
      · rename_i later
        cases taken
        exact Effect.tick instant later
      · cases taken
  | receive bytes =>
      obtain ⟨before, known, moved⟩ := Option.map_eq_some_iff.mp taken
      cases moved
      exact Effect.received bytes before known
  | disconnect =>
      cases taken
      exact Effect.disconnected
  | sized size =>
      simp only [next] at taken
      split at taken
      · rename_i stall phase
        exact sized_effect phase (Option.some.inj taken)
      · cases taken
  | wake =>
      simp only [next] at taken
      split at taken
      · rename_i size last wake phase
        split at taken
        · rename_i later
          exact measured_effect phase later (Option.some.inj taken)
        · cases taken
      · cases taken
  | update update => exact update_effect taken
  | giveUp =>
      simp only [next] at taken
      split at taken
      · rename_i oversize deadline phase
        split at taken
        · exact ended_effect phase (Option.some.inj taken)
        · cases taken
      · cases taken

end Steps

def machine : Timed PushWatch PushWatchEvent PushWatchNotice where
  next := next config
  now := now
  due := due
  due_ahead := by
    intro push event after notices taken instant waits
    cases effect_of_next taken with
    | settled stall size phase =>
        refine .inl ?_
        rw [← waits]
        simp only [due, phase]
        cases stall <;> rfl
    | oversize | stalled | moving =>
        cases waits
        exact .inr (Nat.le_add_right _ _)
    | gone | ingests | released | refused => cases waits
    | _ => exact .inl waits

section Causes

variable {config} {push after : PushWatch} {event : PushWatchEvent} {notices : List PushWatchNotice}

/-- The bytes a window is measured from were the connection's a window before its end, and have not
become fewer. -/
def Measured (config : PushWatchConfig) (moment : PushWatch × List (PushWatch × PushWatchEvent)) :
    Prop :=
  ∀ size before wake, moment.1.phase = .running size (.measuring (some before) wake) →
    (∃ earlier ∈ Machine.moments moment,
      earlier.now + config.stall ≤ wake ∧ earlier.received = some before) ∧
    ∀ received, moment.1.received = some received → before ≤ received

/-- A connection that is open was open at every moment before. -/
def OpenBefore (moment : PushWatch × List (PushWatch × PushWatchEvent)) : Prop :=
  moment.1.received ≠ none → ∀ earlier ∈ Machine.moments moment, earlier.received ≠ none

theorem measured_step {past : List (PushWatch × PushWatchEvent)}
    (measured : Measured config (push, past)) (effect : Effect config push event after notices) :
    Measured config (after, (push, event) :: past) := by
  intro size before wake phase
  have kept : ∀ size', push.phase = .running size' (.measuring (some before) wake) →
      (∃ earlier ∈ Machine.moments (after, (push, event) :: past),
        earlier.now + config.stall ≤ wake ∧ earlier.received = some before) ∧
      ∀ received, push.received = some received → before ≤ received := by
    intro size' same
    obtain ⟨⟨earlier, member, facts⟩, grows⟩ := measured size' before wake same
    exact ⟨⟨earlier, List.mem_cons_of_mem _ member, facts⟩, grows⟩
  cases effect with
  | received more bytes known =>
      refine ⟨(kept size phase).1, ?_⟩
      rintro _ ⟨⟩
      exact Nat.le_add_right_of_le ((kept size phase).2 bytes known)
  | disconnected => exact ⟨(kept size phase).1, nofun⟩
  | settled stall declared old =>
      cases phase
      exact kept _ old
  | moving declared last bytes woke old known fast =>
      cases phase
      refine ⟨⟨push, List.mem_cons_of_mem _ List.mem_cons_self, Nat.le_refl _, known⟩, ?_⟩
      intro received now
      cases known.symm.trans now
      exact Nat.le_refl _
  | oversize | gone | stalled | ingests | released | refused => cases phase
  | _ => exact kept size phase

theorem openBefore_step {past : List (PushWatch × PushWatchEvent)} (open_ : OpenBefore (push, past))
    (effect : Effect config push event after notices) :
    OpenBefore (after, (push, event) :: past) := by
  intro still earlier member
  have was : push.received ≠ none := by
    cases effect with
    | received bytes before known => simp [known]
    | disconnected => exact absurd rfl still
    | _ => exact still
  rcases List.mem_cons.mp member with rfl | member
  · exact still
  · exact open_ was earlier member

def GivenUp (push : PushWatch) : Prop :=
  push.phase = .refused ∨ ∃ deadline, push.phase = .ending true deadline

theorem givenUp_step (givenUp : GivenUp push) (effect : Effect config push event after notices) :
    GivenUp after := by
  have stopped : ∀ size stall, push.phase ≠ .running size stall := by
    intro size stall running
    rcases givenUp with phase | ⟨deadline, phase⟩ <;> cases running.symm.trans phase
  cases effect with
  | settled stall size phase => exact absurd phase (stopped _ _)
  | oversize stall size phase large => exact absurd phase (stopped _ _)
  | gone size last wake phase left => exact absurd phase (stopped _ _)
  | stalled size before bytes wake phase later known slow => exact absurd phase (stopped _ _)
  | moving size last bytes wake phase known fast => exact absurd phase (stopped _ _)
  | ingests size stall update completed phase => exact absurd phase (stopped _ _)
  | released event deadline phase =>
      rcases givenUp with other | ⟨deadline, other⟩ <;> cases phase.symm.trans other
  | refused => exact .inl rfl
  | _ => exact givenUp

end Causes

section Silence

variable {config} {lag : Nat} {first push after : PushWatch} {event : PushWatchEvent}
  {notices : List PushWatchNotice}

def Watched (config : PushWatchConfig) (push : PushWatch) : Prop :=
  match push.phase with
  | .running _ (.measuring _ wake) => wake ≤ push.now + config.stall
  | .running _ .gone => push.received = none
  | .ending _ deadline => deadline ≤ push.now + transferEndWait
  | .ingesting _ | .refused => True

theorem watched_step (watched : Watched config push)
    (effect : Effect config push event after notices) : Watched config after := by
  obtain ⟨now, open_, phase⟩ := push
  cases effect with
  | tick instant later =>
      match phase, watched with
      | .running _ (.measuring _ wake), window =>
          exact Nat.le_trans window (Nat.add_le_add_right later _)
      | .running _ .gone, left => exact left
      | .ending _ deadline, grace => exact Nat.le_trans grace (Nat.add_le_add_right later _)
      | .ingesting _, _ | .refused, _ => trivial
  | received bytes before known =>
      match phase, watched with
      | .running _ .gone, left => cases known.symm.trans left
      | .running _ (.measuring _ _), window => exact window
      | .ending _ _, grace => exact grace
      | .ingesting _, _ | .refused, _ => trivial
  | disconnected =>
      match phase, watched with
      | .running _ .gone, _ => rfl
      | .running _ (.measuring _ _), window => exact window
      | .ending _ _, grace => exact grace
      | .ingesting _, _ | .refused, _ => trivial
  | same event => exact watched
  | settled stall declared old =>
      cases old
      cases stall <;> exact watched
  | gone size last wake old left => exact left
  | oversize | stalled | moving => exact Nat.le_refl _
  | ingests | released | refused => trivial

/-- A step in which the connection, while the transfer runs, stays open and receives nothing. Once the
node has stopped the transfer, the connection may do anything. -/
def Silent (push : PushWatch) (event : PushWatchEvent) : Prop :=
  ∀ size stall, push.phase = .running size stall →
    event ≠ .disconnect ∧ ∀ bytes, event ≠ .receive bytes

/-- A silent connection is measured at most twice: at the end of the window that was running when
it fell silent, and of the one after it. -/
structure Stalling (config : PushWatchConfig) (lag bytes : Nat) (first push : PushWatch) : Prop where
  received : ∀ size stall, push.phase = .running size stall → push.received = some bytes
  sleeps : match push.phase with
    | .running _ (.measuring last wake) => wake ≤ first.now + config.stall ∨
        last = some bytes ∧ wake ≤ first.now + config.stall + lag + config.stall
    | .running _ .gone => False
    | .ending _ deadline => deadline ≤ first.now + 2 * (config.stall + lag) + transferEndWait
    | .ingesting _ | .refused => True

theorem due_measuring {size : SizeWatch} {last : Option Nat} {wake : Nat}
    (phase : push.phase = .running size (.measuring last wake)) :
    (machine config).due push = some wake := by
  change push.due = some wake
  simp only [due, phase]

theorem due_ending {oversize : Bool} {deadline : Nat}
    (phase : push.phase = .ending oversize deadline) :
    (machine config).due push = some deadline := by
  change push.due = some deadline
  simp only [due, phase]

theorem Stalling.now_le {bytes : Nat} (stalling : Stalling config lag bytes first push)
    (onTime : (machine config).OnTime lag push) {size : SizeWatch} {stall : StallWatch}
    (phase : push.phase = .running size stall) :
    push.now ≤ first.now + 2 * (config.stall + lag) := by
  have sleeps := stalling.sleeps
  rw [phase] at sleeps
  cases stall with
  | gone => cases sleeps
  | measuring last wake =>
      have clock : push.now ≤ wake + lag := onTime wake (due_measuring phase)
      rcases sleeps with window | ⟨-, window⟩ <;> omega

theorem Stalling.stopped {bytes : Nat} (stalling : Stalling config lag bytes first push)
    (onTime : (machine config).OnTime lag push) {size : SizeWatch} {stall : StallWatch}
    (phase : push.phase = .running size stall) (oversize : Bool) :
    Stalling config lag bytes first
      { push with phase := .ending oversize (push.now + transferEndWait) } :=
  ⟨nofun, Nat.add_le_add_right (stalling.now_le onTime phase) _⟩

theorem stalling_step {bytes : Nat} (stalling : Stalling config lag bytes first push)
    (onTime : (machine config).OnTime lag push) (silent : Silent push event)
    (effect : Effect config push event after notices) :
    Stalling config lag bytes first after := by
  have received := stalling.received
  have sleeps := stalling.sleeps
  cases effect with
  | tick instant later => exact ⟨received, sleeps⟩
  | received more before known =>
      exact ⟨fun size stall phase => absurd rfl ((silent size stall phase).2 more), sleeps⟩
  | disconnected => exact ⟨fun size stall phase => absurd rfl (silent size stall phase).1, sleeps⟩
  | same event => exact stalling
  | settled stall declared old =>
      rw [old] at sleeps
      have open_ := received _ _ old
      cases stall <;> exact ⟨fun _ _ _ => open_, sleeps⟩
  | oversize stall size old large => exact stalling.stopped onTime old true
  | gone size last wake old left => cases (received _ _ old).symm.trans left
  | stalled size before bytes wake old later known slow => exact stalling.stopped onTime old false
  | moving size last more wake old known fast =>
      cases (received _ _ old).symm.trans known
      refine ⟨fun _ _ _ => known, .inr ⟨rfl, ?_⟩⟩
      have clock : push.now ≤ wake + lag := onTime wake (due_measuring old)
      rw [old] at sleeps
      rcases sleeps with window | ⟨rfl, -⟩
      · omega
      · -- nothing came in since the last look, so this one finds a stall
        have moved := fast bytes rfl
        rw [Nat.sub_self] at moved
        cases moved
  | ingests | released | refused => exact ⟨nofun, trivial⟩

end Silence

end PushWatch

open PushWatch

/-- A push is stopped only for cause: because the store saw it declare more than the largest size
allowed, and then it is never ingested; or because its connection, open all the while, received less
than 64 KiB in a stretch at least as long as the stall window. -/
theorem push_stopped_only_for_cause (config : PushWatchConfig) (began : Nat) (bytes : Option Nat)
    (push after : PushWatch) (trace : List (PushWatch × PushWatchEvent))
    (log notices : List PushWatchNotice) (event : PushWatchEvent) (why : PushTrouble)
    (run : (machine config).toMachine.traced.Run (fun _ _ _ => True) []
      (accept config began bytes, []) log (push, trace))
    (taken : (machine config).next push event = some (after, notices))
    (stopped : .stopped why ∈ notices) :
    (∃ size, why = .oversize size ∧ event = .sized (some size) ∧ config.maxBlobBytes < size ∧
      ∀ later history, (machine config).toMachine.Run (fun _ _ _ => True) (notices ++ log) after
        history later → ∀ completed, later.phase ≠ .ingesting completed) ∨
    why = .stalled ∧ (∀ moment ∈ Machine.moments (push, trace), moment.received ≠ none) ∧
      ∃ earlier ∈ Machine.moments (push, trace), ∃ before received,
        earlier.now + config.stall ≤ push.now ∧ earlier.received = some before ∧
        push.received = some received ∧ before ≤ received ∧
        received - before < pushStallMinBytes := by
  have moved : next config push event = some (after, notices) := taken
  cases effect_of_next moved with
  | oversize stall size phase large =>
      obtain rfl : why = .oversize size := by simpa using stopped
      refine .inl ⟨size, rfl, rfl, large, ?_⟩
      intro later history further completed ingesting
      have givenUp : GivenUp later := by
        refine further.state_invariant GivenUp (.inr ⟨_, rfl⟩) ?_
        intro log push event after notices givenUp _ step
        exact givenUp_step givenUp (effect_of_next step)
      rcases givenUp with done | ⟨deadline, done⟩ <;> cases ingesting.symm.trans done
  | stalled size before received wake phase later known slow =>
      obtain rfl : why = .stalled := by simpa using stopped
      have measured : Measured config (push, trace) := by
        refine run.traced_invariant (fun _ => Measured config) ?_ ?_
        · intro size before wake phase
          cases phase
          exact ⟨⟨_, List.mem_cons_self, Nat.le_refl _, rfl⟩,
            fun _ same => Nat.le_of_eq (Option.some.inj same)⟩
        · intro log push past event after notices measured _ step
          exact measured_step measured (effect_of_next step)
      have opened : OpenBefore (push, trace) := by
        refine run.traced_invariant (fun _ => OpenBefore) ?_ ?_
        · intro still earlier member
          rwa [List.mem_singleton.mp member]
        · intro log push past event after notices opened _ step
          exact openBefore_step opened (effect_of_next step)
      obtain ⟨⟨earlier, member, window, held⟩, grows⟩ := measured size before wake phase
      exact .inr ⟨rfl, opened (by simp [known]), earlier, member, before, received,
        Nat.le_trans window later, held, known, grows received known, slow⟩
  | _ => simp at stopped

private def oneSecond : PushWatchConfig := ⟨100, 1⟩

private def afterOneSecond : PushWatch := { accept oneSecond 0 (some 0) with now := 1000000000 }

theorem push_stopped_only_for_cause_in_first_window :
    (machine oneSecond).next afterOneSecond .wake =
        some ({ afterOneSecond with phase := .ending false 31000000000 }, [.stopped .stalled]) ∧
      ∃ earlier ∈ Machine.moments
          (afterOneSecond, [(accept oneSecond 0 (some 0), PushWatchEvent.tick 1000000000)]),
        earlier.now + oneSecond.stall ≤ afterOneSecond.now := by
  have passes : (machine oneSecond).toMachine.traced.next (accept oneSecond 0 (some 0), [])
      (.tick 1000000000) =
        some ((afterOneSecond, [(accept oneSecond 0 (some 0), .tick 1000000000)]), []) := rfl
  have run : (machine oneSecond).toMachine.traced.Run (fun _ _ _ => True) []
      (accept oneSecond 0 (some 0), []) ([] ++ [])
      (afterOneSecond, [(accept oneSecond 0 (some 0), .tick 1000000000)]) :=
    Machine.Run.step Machine.Run.refl trivial passes
  have stops : (machine oneSecond).next afterOneSecond .wake =
      some ({ afterOneSecond with phase := .ending false 31000000000 }, [.stopped .stalled]) := by
    decide +kernel
  refine ⟨stops, ?_⟩
  rcases push_stopped_only_for_cause oneSecond 0 (some 0) _ _ _ _ _ _ .stalled run stops
    List.mem_cons_self with ⟨size, other, -⟩ | ⟨-, -, earlier, member, -, -, window, -⟩
  · cases other
  · exact ⟨earlier, member, window⟩

/-- A push whose connection stays open and falls silent does not hold its hash pending: where
sleeps end with at most `lag` delay, two stall windows and the 30 s a stopped transfer is given
later, it has gone on to be ingested or has been given up. -/
theorem silent_push_ends (config : PushWatchConfig) (lag began received : Nat)
    (bytes : Option Nat) (first last : PushWatch) (log history : List PushWatchNotice)
    (earlier : (machine config).toMachine.Run
      (fun _ push event => (machine config).Punctual lag push event) []
      (accept config began bytes) log first)
    (known : first.received = some received)
    (silence : (machine config).toMachine.Run
      (fun _ push event => (machine config).Punctual lag push event ∧ Silent push event) log first
      history last)
    (late : first.now + 2 * (config.stall + lag) + transferEndWait + lag < last.now) :
    last.phase = .refused ∨ ∃ completed, last.phase = .ingesting completed := by
  have begun : (machine config).OnTime lag (accept config began bytes) := by
    intro instant waits
    rw [due_measuring rfl] at waits
    cases waits
    exact Nat.le_add_right_of_le (Nat.le_add_right _ _)
  obtain ⟨watched, onTime⟩ := Timed.timely_invariant (Watched config) earlier
    (fun _ _ _ permitted => permitted) begun (Nat.le_refl _)
    (fun _ _ _ _ _ watched _ _ taken => watched_step watched (effect_of_next taken))
  have start : Stalling config lag received first first := by
    refine ⟨fun _ _ _ => known, ?_⟩
    unfold Watched at watched
    split at watched
    · exact .inl watched
    · cases known.symm.trans watched
    · omega
    · trivial
    · trivial
  obtain ⟨stalling, clock⟩ := Timed.timely_invariant (Stalling config lag received first) silence
    (fun _ _ _ permitted => permitted.1) onTime start
    (fun _ _ _ _ _ stalling onTime permitted taken =>
      stalling_step stalling onTime permitted.2 (effect_of_next taken))
  cases phase : last.phase with
  | refused => exact .inl rfl
  | ingesting completed => exact .inr ⟨completed, rfl⟩
  | running size stall =>
      have bound := stalling.now_le clock phase
      omega
  | ending oversize deadline =>
      have bound := stalling.sleeps
      rw [phase] at bound
      have now : last.now ≤ deadline + lag := clock deadline (due_ending phase)
      omega

private def silentSecond : List PushWatchEvent :=
  [.tick 1000000000, .wake, .disconnect, .tick 32000000000, .giveUp, .tick 100000000000]

private def silentCheck (push : PushWatch) (event : PushWatchEvent) : Bool :=
  match push.phase, event with
  | .running _ _, .receive _ | .running _ _, .disconnect => false
  | _, _ => true

private def punctualCheck (push : PushWatch) (event : PushWatchEvent) : Bool :=
  silentCheck push event && (machine oneSecond).punctual 1000000000 push event

private theorem punctual_of_check (push : PushWatch) (event : PushWatchEvent)
    (checked : punctualCheck push event = true) :
    (machine oneSecond).Punctual 1000000000 push event ∧ Silent push event := by
  rw [punctualCheck, Bool.and_eq_true, Timed.punctual_iff] at checked
  refine ⟨checked.2, fun size stall phase => ⟨?_, ?_⟩⟩
  · rintro rfl
    simp [silentCheck, phase] at checked
  · rintro bytes rfl
    simp [silentCheck, phase] at checked

private def longOver (_ : List PushWatchNotice) (push : PushWatch) : Bool :=
  push.now == 100000000000

private theorem silentSecond_executed :
    ((machine oneSecond).toMachine.execute (fun _ => punctualCheck) silentSecond []
      (accept oneSecond 0 (some 0))).map (fun ended => longOver ended.1 ended.2) = some true := by
  decide +kernel

theorem silent_push_ends_after_accept :
    ∃ last : PushWatch, last.now = 100000000000 ∧
      (last.phase = .refused ∨ ∃ completed, last.phase = .ingesting completed) := by
  obtain ⟨history, last, silence, shown⟩ := Machine.execute_reaches (fun _ => punctual_of_check)
    silentSecond longOver silentSecond_executed
  refine ⟨last, eq_of_beq shown, ?_⟩
  refine silent_push_ends oneSecond 1000000000 0 0 (some 0) _ last [] history Machine.Run.refl rfl
    silence ?_
  rw [eq_of_beq shown]
  decide

end TdfIrohS3
