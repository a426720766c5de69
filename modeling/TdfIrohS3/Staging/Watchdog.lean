import TdfIrohS3.Library.Timed
import TdfIrohS3.Staging.Collector

namespace TdfIrohS3

open Library

/-- Where `collector_stopped` is: it sleeps before it looks at the collector's last run again, or
before it looks at the pending pushes again; or it has returned. -/
inductive WatchPhase
  | polling (wake : Nat)
  | draining (deadline wake : Nat)
  | reported
  deriving DecidableEq, Repr

/-- A node's staging with the clock, in nanoseconds, the last sign of life of the collector, and the
task that watches for it. -/
structure Watchdog (Hash : Type) where
  staging : Staging Hash
  now : Nat
  lastRun : Nat
  phase : WatchPhase

inductive WatchEvent (Hash : Type)
  | tick (instant : Nat)
  | staging (event : StagingEvent Hash)
  /-- The sleep of `collector_stopped` ends. -/
  | wake
  deriving DecidableEq, Repr

inductive WatchNotice
  /-- The collector started a run, or the store was attached. -/
  | ran (at_ : Nat)
  /-- No run started for too long. -/
  | silent (at_ : Nat)
  | reported (at_ : Nat)
  deriving DecidableEq, Repr

structure WatchConfig where
  gcIntervalSecs : Nat

namespace WatchConfig

def second : Nat := 1000000000

def interval (config : WatchConfig) : Nat := max config.gcIntervalSecs 1 * second

def deadAfter (config : WatchConfig) : Nat := config.interval * 5 + 60 * second

end WatchConfig

def drainLimit : Nat := 15 * 60 * WatchConfig.second

namespace Watchdog

variable {Hash : Type} [DecidableEq Hash] (config : WatchConfig)

def drain (watch : Watchdog Hash) (deadline : Nat) : Watchdog Hash × List WatchNotice :=
  if watch.staging.pending.len ≠ 0 ∧ watch.now < deadline then
    ({ watch with phase := .draining deadline (watch.now + config.interval) }, [])
  else ({ watch with phase := .reported }, [.reported watch.now])

def poll (watch : Watchdog Hash) : Watchdog Hash × List WatchNotice :=
  if watch.now - watch.lastRun < config.deadAfter then
    ({ watch with phase := .polling (watch.now + config.interval) }, [])
  else
    let (after, notices) := watch.drain config (watch.now + drainLimit)
    (after, notices ++ [.silent watch.now])

def signs : StagingEvent Hash → Bool
  | .start | .attach => true
  | _ => false

def next (watch : Watchdog Hash) :
    WatchEvent Hash → Option (Watchdog Hash × List WatchNotice)
  | .tick instant => if watch.now ≤ instant then some ({ watch with now := instant }, []) else none
  | .staging event =>
      match (stagingMachine Hash).next watch.staging event with
      | none => none
      | some (staging, _) =>
          if signs event then
            some ({ watch with staging, lastRun := watch.now }, [.ran watch.now])
          else some ({ watch with staging }, [])
  | .wake =>
      match watch.phase with
      | .polling wake => if wake ≤ watch.now then some (watch.poll config) else none
      | .draining deadline wake =>
          if wake ≤ watch.now then some (watch.drain config deadline) else none
      | .reported => none

def due (watch : Watchdog Hash) : Option Nat :=
  match watch.phase with
  | .polling wake => some wake
  | .draining _ wake => some wake
  | .reported => none

inductive Effect (watch : Watchdog Hash) :
    WatchEvent Hash → Watchdog Hash → List WatchNotice → Prop
  | tick (instant : Nat) (later : watch.now ≤ instant) :
      Effect watch (.tick instant) { watch with now := instant } []
  | signed (event : StagingEvent Hash) (staging : Staging Hash)
      (notices : List (StagingNotice Hash)) (sign : signs event = true)
      (taken : (stagingMachine Hash).next watch.staging event = some (staging, notices)) :
      Effect watch (.staging event) { watch with staging, lastRun := watch.now } [.ran watch.now]
  | moved (event : StagingEvent Hash) (staging : Staging Hash)
      (notices : List (StagingNotice Hash)) (quiet : signs event = false)
      (taken : (stagingMachine Hash).next watch.staging event = some (staging, notices)) :
      Effect watch (.staging event) { watch with staging } []
  | slept (wake : Nat) (phase : watch.phase = .polling wake)
      (alive : watch.now - watch.lastRun < config.deadAfter) :
      Effect watch .wake { watch with phase := .polling (watch.now + config.interval) } []
  | silent (wake : Nat) (phase : watch.phase = .polling wake)
      (dead : config.deadAfter ≤ watch.now - watch.lastRun) :
      Effect watch .wake
        { watch with
          phase := .draining (watch.now + drainLimit) (watch.now + config.interval) }
        [.silent watch.now]
  | stopped (wake : Nat) (phase : watch.phase = .polling wake)
      (dead : config.deadAfter ≤ watch.now - watch.lastRun)
      (drained : watch.staging.pending.len = 0) :
      Effect watch .wake { watch with phase := .reported } [.reported watch.now, .silent watch.now]
  | waited (deadline wake : Nat) (phase : watch.phase = .draining deadline wake)
      (early : watch.now < deadline) :
      Effect watch .wake
        { watch with phase := .draining deadline (watch.now + config.interval) } []
  | drained (deadline wake : Nat) (phase : watch.phase = .draining deadline wake)
      (enough : watch.staging.pending.len = 0 ∨ deadline ≤ watch.now) :
      Effect watch .wake { watch with phase := .reported } [.reported watch.now]

section Steps

variable {config} {watch after : Watchdog Hash} {event : WatchEvent Hash}
  {notices : List WatchNotice}

theorem effect_of_next (taken : next config watch event = some (after, notices)) :
    Effect config watch event after notices := by
  cases event with
  | tick instant =>
      simp only [next] at taken
      split at taken
      · rename_i later
        cases taken
        exact Effect.tick instant later
      · cases taken
  | staging event =>
      simp only [next] at taken
      split at taken
      · cases taken
      · rename_i staging said moved
        split at taken
        · rename_i sign
          cases taken
          exact Effect.signed event staging said sign moved
        · rename_i quiet
          cases taken
          exact Effect.moved event staging said (Bool.not_eq_true _ ▸ quiet) moved
  | wake =>
      simp only [next] at taken
      split at taken
      · rename_i wake phase
        split at taken
        · simp only [poll, drain, Option.some.injEq] at taken
          split at taken
          · rename_i alive
            cases taken
            exact Effect.slept wake phase alive
          · rename_i dead
            split at taken
            · cases taken
              exact Effect.silent wake phase (Nat.le_of_not_lt dead)
            · rename_i ends
              cases taken
              refine Effect.stopped wake phase (Nat.le_of_not_lt dead) ?_
              by_contra pending
              refine ends ⟨pending, Nat.lt_add_of_pos_right (by decide)⟩
        · cases taken
      · rename_i deadline wake phase
        split at taken
        · simp only [drain, Option.some.injEq] at taken
          split at taken
          · rename_i waits
            cases taken
            exact Effect.waited deadline wake phase waits.2
          · rename_i ends
            cases taken
            refine Effect.drained deadline wake phase ?_
            by_contra neither
            simp only [not_or, Nat.not_le] at neither
            exact ends neither
        · cases taken
      · cases taken

end Steps

def machine : Timed (Watchdog Hash) (WatchEvent Hash) WatchNotice where
  next := next config
  now := now
  due := due
  due_ahead := by
    intro watch event after notices taken instant waits
    cases effect_of_next taken with
    | slept | silent | waited =>
        cases waits
        exact .inr (Nat.le_add_right _ _)
    | stopped | drained => cases waits
    | _ => exact .inl waits

section Report

variable {config} {log : List WatchNotice} {first watch after : Watchdog Hash}
  {event : WatchEvent Hash} {notices : List WatchNotice}

def SilentAt (config : WatchConfig) (first : Watchdog Hash) (log : List WatchNotice)
    (instant : Nat) : Prop :=
  first.lastRun + config.deadAfter ≤ instant ∧
    ∀ at_, .ran at_ ∈ log → at_ + config.deadAfter ≤ instant ∨ instant ≤ at_

structure Told (config : WatchConfig) (first : Watchdog Hash) (log : List WatchNotice)
    (watch : Watchdog Hash) : Prop where
  counted : watch.staging.Counted
  began : first.lastRun ≤ watch.lastRun
  past : watch.lastRun ≤ watch.now
  ran : ∀ at_, .ran at_ ∈ log → at_ ≤ watch.lastRun
  silent : ∀ instant, .silent instant ∈ log → instant ≤ watch.now ∧ SilentAt config first log instant
  draining : ∀ deadline wake, watch.phase = .draining deadline wake →
    ∃ instant, .silent instant ∈ log ∧ deadline = instant + drainLimit

theorem silentAt_now (told : Told config first log watch)
    (dead : config.deadAfter ≤ watch.now - watch.lastRun) :
    SilentAt config first log watch.now := by
  have began := told.began
  have positive : 0 < config.deadAfter := Nat.add_pos_right _ (by decide)
  refine ⟨by omega, ?_⟩
  intro at_ member
  have earlier := told.ran at_ member
  omega

theorem counted_next {staging : Staging Hash} {inner : StagingEvent Hash}
    {said : List (StagingNotice Hash)} (counted : watch.staging.Counted)
    (taken : (stagingMachine Hash).next watch.staging inner = some (staging, said)) :
    staging.Counted :=
  (Staging.counted_step counted (Staging.machine_effect taken)).1

theorem Told.signed (told : Told config first log watch) :
    Told config first (.ran watch.now :: log) { watch with lastRun := watch.now } := by
  refine ⟨told.counted, Nat.le_trans told.began told.past, Nat.le_refl _, ?_, ?_, ?_⟩
  · intro at_ member
    rcases List.mem_cons.mp member with same | old
    · exact Nat.le_of_eq (WatchNotice.ran.inj same)
    · exact Nat.le_trans (told.ran at_ old) told.past
  · intro instant member
    have known := told.silent instant (by simpa using member)
    refine ⟨known.1, known.2.1, ?_⟩
    intro at_ ran
    rcases List.mem_cons.mp ran with same | before
    · exact .inr (WatchNotice.ran.inj same ▸ known.1)
    · exact known.2.2 at_ before
  · intro deadline wake phase
    obtain ⟨instant, member, same⟩ := told.draining deadline wake phase
    exact ⟨instant, List.mem_cons_of_mem _ member, same⟩

theorem Told.woke (told : Told config first log watch)
    (only : ∀ notice ∈ notices, notice = .reported watch.now ∨
      notice = .silent watch.now ∧ config.deadAfter ≤ watch.now - watch.lastRun)
    (phase : WatchPhase)
    (draining : ∀ deadline wake, phase = .draining deadline wake →
      ∃ instant, .silent instant ∈ notices ++ log ∧ deadline = instant + drainLimit) :
    Told config first (notices ++ log) { watch with phase } := by
  have ran : ∀ at_, .ran at_ ∈ notices ++ log → .ran at_ ∈ log := by
    intro at_ member
    rcases List.mem_append.mp member with new | old
    · rcases only _ new with same | ⟨same, -⟩ <;> cases same
    · exact old
  refine ⟨told.counted, told.began, told.past, fun at_ member => told.ran at_ (ran at_ member), ?_,
    draining⟩
  intro instant member
  have known : instant ≤ watch.now ∧ SilentAt config first log instant := by
    rcases List.mem_append.mp member with new | old
    · rcases only _ new with same | ⟨same, dead⟩
      · cases same
      · cases same
        exact ⟨Nat.le_refl _, silentAt_now told dead⟩
    · exact told.silent instant old
  exact ⟨known.1, known.2.1, fun at_ member => known.2.2 at_ (ran at_ member)⟩

theorem told_step (told : Told config first log watch)
    (effect : Effect config watch event after notices) :
    Told config first (notices ++ log) after := by
  have past := told.past
  cases effect with
  | tick instant later =>
      refine ⟨told.counted, told.began, Nat.le_trans past later, told.ran, ?_, told.draining⟩
      intro at_ member
      have known := told.silent at_ member
      exact ⟨Nat.le_trans known.1 later, known.2⟩
  | signed inner staging said sign taken =>
      exact { told.signed with counted := counted_next told.counted taken }
  | moved inner staging said quiet taken =>
      exact { told with counted := counted_next told.counted taken }
  | slept wake phase alive =>
      refine told.woke (by simp) _ ?_
      intro deadline other polling
      cases polling
  | silent wake phase dead =>
      refine told.woke ?_ _ ?_
      · intro notice member
        exact .inr ⟨List.mem_singleton.mp member, dead⟩
      · intro deadline other same
        cases same
        exact ⟨watch.now, List.mem_cons_self, rfl⟩
  | stopped wake phase dead drained =>
      refine told.woke ?_ _ ?_
      · intro notice member
        rcases List.mem_cons.mp member with same | rest
        · exact .inl same
        · exact .inr ⟨List.mem_singleton.mp rest, dead⟩
      · intro deadline other same
        cases same
  | waited deadline wake phase early =>
      refine told.woke (by simp) _ ?_
      intro other later same
      cases same
      exact told.draining deadline wake phase
  | drained deadline wake phase enough =>
      refine told.woke ?_ _ ?_
      · intro notice member
        exact .inl (List.mem_singleton.mp member)
      · intro deadline other same
        cases same

theorem told_of_start (counted : first.staging.Counted)
    (past : first.lastRun ≤ first.now) (begun : first.phase = .polling first.now) :
    Told config first [] first where
  counted := counted
  began := Nat.le_refl _
  past := past
  ran := by intro at_ member; cases member
  silent := by intro instant member; cases member
  draining := by
    intro deadline wake phase
    rw [begun] at phase
    cases phase

theorem guards_nil_of_len (counted : watch.staging.Counted)
    (drained : watch.staging.pending.len = 0) : watch.staging.guards = [] := by
  rw [List.eq_nil_iff_forall_not_mem]
  intro guard held
  have entry := Staging.pending_of_guard counted held
  rw [Table.len_eq_length_keys, List.length_eq_zero_iff] at drained
  rw [drained] at entry
  cases entry

end Report

section Timely

variable {config} {first watch after : Watchdog Hash} {event : WatchEvent Hash}
  {notices : List WatchNotice}

/-- The latest instant the watch looks at the collector again after its last sign of life. -/
def lastLook (config : WatchConfig) (began life : Nat) : Nat :=
  max began (life + config.deadAfter + config.interval)

theorem lastLook_mono {began life later : Nat} (le : life ≤ later) :
    lastLook config began life ≤ lastLook config began later := by
  unfold lastLook
  omega

structure Sleeping (config : WatchConfig) (lag : Nat) (first watch : Watchdog Hash) : Prop where
  past : watch.lastRun ≤ watch.now
  sleeps : match watch.phase with
    | .polling wake => wake ≤ lastLook config first.now watch.lastRun
    | .draining deadline wake =>
        deadline ≤ lastLook config first.now watch.lastRun + lag + drainLimit ∧
          wake ≤ deadline + config.interval
    | .reported => True

structure Signed (first : Watchdog Hash) (log : List WatchNotice) (watch : Watchdog Hash) : Prop where
  lastRun : watch.lastRun = first.lastRun ∨ .ran watch.lastRun ∈ log
  reported : watch.phase = .reported → ∃ at_, .reported at_ ∈ log

theorem due_polling {wake : Nat} (phase : watch.phase = .polling wake) :
    (machine config).due watch = some wake := by
  change watch.due = some wake
  simp only [due, phase]

theorem due_draining {deadline wake : Nat} (phase : watch.phase = .draining deadline wake) :
    (machine config).due watch = some wake := by
  change watch.due = some wake
  simp only [due, phase]

theorem sleeping_step {lag : Nat} (sleeping : Sleeping config lag first watch)
    (onTime : (machine config).OnTime lag watch)
    (effect : Effect config watch event after notices) : Sleeping config lag first after := by
  have past := sleeping.past
  have sleeps := sleeping.sleeps
  cases effect with
  | tick instant later => exact ⟨Nat.le_trans past later, sleeps⟩
  | signed inner staging said sign taken =>
      -- the bounds move on with the sign of life
      have moves := @lastLook_mono config first.now _ _ past
      refine ⟨Nat.le_refl _, ?_⟩
      cases phase : watch.phase with
      | polling wake =>
          rw [phase] at sleeps
          exact Nat.le_trans sleeps moves
      | draining deadline wake =>
          rw [phase] at sleeps
          have limit : deadline ≤ lastLook config first.now watch.now + lag + drainLimit := by omega
          exact ⟨limit, sleeps.2⟩
      | reported => trivial
  | moved inner staging said quiet taken => exact ⟨past, sleeps⟩
  | slept wake phase alive =>
      have soon : watch.now + config.interval ≤ watch.lastRun + config.deadAfter + config.interval := by
        omega
      exact ⟨past, Nat.le_trans soon (Nat.le_max_right _ _)⟩
  | silent wake phase dead =>
      rw [phase] at sleeps
      have now : watch.now ≤ wake + lag := onTime wake (due_polling phase)
      have limit : watch.now + drainLimit ≤
          lastLook config first.now watch.lastRun + lag + drainLimit := by omega
      exact ⟨past, limit, by omega⟩
  | waited deadline wake phase early =>
      rw [phase] at sleeps
      exact ⟨past, sleeps.1, by omega⟩
  | stopped | drained => exact ⟨past, trivial⟩

theorem signed_step {log : List WatchNotice} (signed : Signed first log watch)
    (effect : Effect config watch event after notices) : Signed first (notices ++ log) after := by
  have kept : watch.lastRun = first.lastRun ∨ .ran watch.lastRun ∈ notices ++ log :=
    signed.lastRun.imp_right (List.mem_append_right _)
  have told : watch.phase = .reported → ∃ at_, .reported at_ ∈ notices ++ log := fun phase =>
    (signed.reported phase).imp fun _ => List.mem_append_right _
  cases effect with
  | signed inner staging said sign taken => exact ⟨.inr List.mem_cons_self, told⟩
  | slept | silent | waited => exact ⟨kept, nofun⟩
  | stopped wake phase dead drained => exact ⟨kept, fun _ => ⟨watch.now, List.mem_cons_self⟩⟩
  | drained deadline wake phase enough => exact ⟨kept, fun _ => ⟨watch.now, List.mem_cons_self⟩⟩
  | tick | moved => exact ⟨kept, told⟩

end Timely

end Watchdog

open Watchdog

variable {Hash : Type} [DecidableEq Hash]

/-- `collector_stopped` returns only when the store's collector has started no run for five
intervals and a minute, and then only when no push is pending, unless it has waited a quarter of an
hour for those that are: the restart cuts off no push before that. -/
theorem collector_report_justified (config : WatchConfig) (first watch after : Watchdog Hash)
    (log notices : List WatchNotice) (counted : first.staging.Counted)
    (past : first.lastRun ≤ first.now) (begun : first.phase = .polling first.now)
    (run : (machine config).toMachine.Run (fun _ _ _ => True) [] first log watch)
    (returned : (machine config).next watch .wake = some (after, notices))
    (reported : after.phase = .reported) :
    ∃ instant, .silent instant ∈ notices ++ log ∧ instant ≤ watch.now ∧
      first.lastRun + config.deadAfter ≤ instant ∧
      (∀ at_, .ran at_ ∈ log → at_ + config.deadAfter ≤ instant ∨ instant ≤ at_) ∧
      (watch.staging.guards = [] ∨ instant + drainLimit ≤ watch.now) := by
  have told : Told config first log watch := by
    refine run.invariant (Told config first) (told_of_start counted past begun) ?_
    intro log watch event after notices told _ taken
    exact told_step told (effect_of_next taken)
  have taken : next config watch .wake = some (after, notices) := returned
  cases effect_of_next taken with
  | slept => cases reported
  | silent => cases reported
  | waited => cases reported
  | stopped wake phase dead drained =>
      have silent := silentAt_now told dead
      exact ⟨watch.now, by simp, Nat.le_refl _, silent.1, silent.2,
        .inl (guards_nil_of_len told.counted drained)⟩
  | drained deadline wake phase enough =>
      obtain ⟨instant, member, rfl⟩ := told.draining deadline wake phase
      have known := told.silent instant member
      refine ⟨instant, List.mem_append_right _ member, known.1, known.2.1, known.2.2, ?_⟩
      exact enough.imp (guards_nil_of_len told.counted) id

private def everySecond : WatchConfig := ⟨1⟩

private def startOfWatch : Watchdog String := ⟨Staging.new [], 0, 0, .polling 0⟩

private def pushAtSilence : List (WatchEvent String) :=
  [.wake, .staging (.track "h"), .tick (70 * WatchConfig.second), .wake,
    .tick (72 * WatchConfig.second), .staging (.drop 0)]

private def returnsNow (_ : List WatchNotice) (watch : Watchdog String) : Bool :=
  (next everySecond watch .wake).any fun moved => decide (moved.1.phase = .reported)

private theorem pushAtSilence_executed :
    ((machine everySecond).toMachine.execute (fun _ _ _ => true) pushAtSilence []
      startOfWatch).map (fun ended => returnsNow ended.1 ended.2) = some true := by
  decide +kernel

private theorem startOfWatch_counted : startOfWatch.staging.Counted := fun _ => rfl

theorem collector_report_justified_after_push :
    ∃ (watch : Watchdog String) (log : List WatchNotice) (instant : Nat), .silent instant ∈ log ∧
      startOfWatch.lastRun + everySecond.deadAfter ≤ instant ∧
      (watch.staging.guards = [] ∨ instant + drainLimit ≤ watch.now) := by
  obtain ⟨log, watch, run, shown⟩ := Machine.execute_reaches
    (fun _ _ _ _ => trivial) pushAtSilence returnsNow pushAtSilence_executed
  simp only [returnsNow, Option.any_eq_true, decide_eq_true_eq] at shown
  obtain ⟨⟨after, notices⟩, returned, ended⟩ := shown
  obtain ⟨instant, told, -, began, -, drained⟩ := collector_report_justified everySecond startOfWatch
    watch after log notices startOfWatch_counted (Nat.le_refl _) rfl run returned ended
  exact ⟨watch, notices ++ log, instant, told, began, drained⟩

/-- A collector that has stopped is noticed. In every state reached while the sleeps of the watch end
with at most `lag` delay: once the silence limit, two intervals, two lags and the quarter of an hour
have passed since the collector's last sign of life, the watch has returned, whatever is pending. -/
theorem stopped_collector_is_reported (config : WatchConfig) (lag life : Nat)
    (first last : Watchdog Hash) (log : List WatchNotice)
    (past : first.lastRun ≤ first.now) (begun : first.phase = .polling first.now)
    (run : (machine config).toMachine.Run
      (fun _ watch event => (machine config).Punctual lag watch event) [] first log last)
    (since : first.lastRun ≤ life ∧ ∀ at_, .ran at_ ∈ log → at_ ≤ life)
    (late : max first.now (life + config.deadAfter + config.interval) + lag + drainLimit +
      config.interval + lag < last.now) :
    last.phase = .reported ∧ ∃ at_, .reported at_ ∈ log := by
  have start : Sleeping config lag first first := by
    refine ⟨past, ?_⟩
    rw [begun]
    exact Nat.le_max_left _ _
  have onTime : (machine config).OnTime lag first := by
    intro instant waits
    rw [due_polling begun] at waits
    cases waits
    exact Nat.le_add_right _ _
  obtain ⟨sleeping, clock⟩ := Timed.timely_invariant (Sleeping config lag first) run
    (fun _ _ _ permitted => permitted) onTime start
    (fun _ watch event after notices sleeping onTime _ taken =>
      sleeping_step sleeping onTime (effect_of_next taken))
  have signed : Signed first log last := by
    refine run.invariant (Signed first) ⟨.inl rfl, fun phase => ?_⟩ ?_
    · cases begun.symm.trans phase
    · intro log watch event after notices signed _ taken
      exact signed_step signed (effect_of_next taken)
  have recent : last.lastRun ≤ life := by
    rcases signed.lastRun with same | told
    · exact same ▸ since.1
    · exact since.2 _ told
  have look := @lastLook_mono config first.now _ _ recent
  have returned : last.phase = .reported := by
    have bound := sleeping.sleeps
    cases phase : last.phase with
    | reported => rfl
    | polling wake =>
        rw [phase] at bound
        have now : last.now ≤ wake + lag := clock wake (due_polling phase)
        unfold lastLook at bound look
        omega
    | draining deadline wake =>
        rw [phase] at bound
        have now : last.now ≤ wake + lag := clock wake (due_draining phase)
        unfold lastLook at bound look
        omega
  exact ⟨returned, signed.reported returned⟩

private def silentAfterRun : List (WatchEvent String) :=
  [.wake, .staging .attach, .tick (10 * WatchConfig.second), .staging .start,
    .tick (75 * WatchConfig.second), .wake, .tick (6000 * WatchConfig.second)]

private def runAtTen (log : List WatchNotice) (watch : Watchdog String) : Bool :=
  watch.now == 6000 * WatchConfig.second && log.all fun notice =>
    match notice with
    | .ran at_ => decide (at_ ≤ 10 * WatchConfig.second)
    | _ => true

private theorem silentAfterRun_executed :
    ((machine everySecond).toMachine.execute
      (fun _ => (machine everySecond).punctual (2000 * WatchConfig.second)) silentAfterRun []
      startOfWatch).map (fun ended => runAtTen ended.1 ended.2) = some true := by
  decide +kernel

theorem stopped_collector_is_reported_after_run :
    ∃ log last, (machine everySecond).toMachine.Run
        (fun _ watch event =>
          (machine everySecond).Punctual (2000 * WatchConfig.second) watch event)
        [] startOfWatch log last ∧
      last.phase = .reported ∧ ∃ at_, .reported at_ ∈ log := by
  obtain ⟨log, last, run, shown⟩ := Machine.execute_reaches
    (fun _ watch event => (Timed.punctual_iff _ _ watch event).mp) silentAfterRun runAtTen
    silentAfterRun_executed
  rw [runAtTen, Bool.and_eq_true, List.all_eq_true] at shown
  refine ⟨log, last, run, ?_⟩
  refine stopped_collector_is_reported everySecond (2000 * WatchConfig.second)
    (10 * WatchConfig.second) startOfWatch last log (Nat.le_refl _) rfl run ⟨Nat.zero_le _, ?_⟩ ?_
  · intro at_ told
    simpa using shown.2 _ told
  · rw [eq_of_beq shown.1]
    decide

end TdfIrohS3
