import TdfIrohS3.Fetch.Repair
import TdfIrohS3.Library.Decimal
import TdfIrohS3.Library.Recent

namespace TdfIrohS3

open Library

namespace S3Server

variable {server : S3Server} {hash : String} {servable : Servable} {now : Nat}

structure ClearedInTime (server : S3Server) : Prop where
  servable : server.servable.len ≤ 100000
  corrupt : server.corrupt.len ≤ 10000

structure WithinLimits (server : S3Server) : Prop extends server.ClearedInTime where
  failed : server.backfillFailed.len ≤ 10000

def recentFailures (server : S3Server) (now : Nat) : Table String Nat :=
  Recent.young backfillCooldown now server.backfillFailed

theorem ClearedInTime.remember (cleared : server.ClearedInTime) :
    (server.remember hash servable).ClearedInTime where
  servable := Table.len_insert_cleared (by decide) hash servable
  corrupt := cleared.corrupt

theorem ClearedInTime.markCorrupt (cleared : server.ClearedInTime) :
    (server.markCorrupt hash).ClearedInTime where
  servable := Nat.le_trans (Table.len_remove_le _ _) cleared.servable
  corrupt := Table.len_insert_cleared (by decide) hash ()

theorem ClearedInTime.forget (cleared : server.ClearedInTime) :
    (server.forget hash).ClearedInTime where
  servable := Nat.le_trans (Table.len_remove_le _ _) cleared.servable
  corrupt := cleared.corrupt

/-- A failure is recorded with no eviction: only those past the cooldown make room. -/
theorem len_recordFailure_le_iff :
    (server.recordFailure hash now).backfillFailed.len ≤ 10000 ↔
      ((server.recentFailures now).remove hash).len < 10000 :=
  Recent.len_record_none_le_iff

end S3Server

namespace Repairs

variable {tree : BaoTree} {state after : Repairs} {event : RepairEvent}
variable {notices log : List RepairNotice}

/-- Where the step records a failed computation, fewer than 10,000 other hashes have failed within
the cooldown. -/
def Spared (_ : List RepairNotice) (state : Repairs) (event : RepairEvent) : Prop :=
  ∀ id computation error, event = .advance id → state.computations.get id = some computation →
    computation.stage = .failing error →
    ((state.server.recentFailures state.now).remove computation.hash).len < 10000

theorem cleared_effect (cleared : state.server.ClearedInTime)
    (effect : Effect state event after notices) : after.server.ClearedInTime := by
  cases effect with
  | remembered quiet => exact cleared.remember
  | mismatched hash => exact cleared.markCorrupt
  | forgot hash => exact cleared.forget
  | marked held stage => exact cleared.markCorrupt
  | waited | looked | started | computed | failed | recorded | left | ended =>
      exact ⟨cleared.servable, cleared.corrupt⟩

theorem spared_of_stage {id : Nat} {computation : Computation}
    (held : state.computations.get id = some computation)
    (sound : ∀ error, computation.stage ≠ .failing error) : Spared log state (.advance id) := by
  intro other found error same got failing
  cases same
  cases held.symm.trans got
  exact absurd failing (sound error)

theorem spared_of_other (other : ∀ id, event ≠ .advance id) : Spared log state event :=
  fun id _ _ same => absurd same (other id)

theorem failed_effect (within : state.server.backfillFailed.len ≤ 10000)
    (effect : Effect state event after notices) :
    after.server.backfillFailed.len ≤ 10000 ↔ Spared log state event := by
  cases effect with
  | waited => exact iff_of_true within (spared_of_other (by simp))
  | looked later quiet other => exact iff_of_true within (spared_of_other other)
  | remembered => exact iff_of_true within (spared_of_other (by simp))
  | mismatched => exact iff_of_true within (spared_of_other (by simp))
  | forgot => exact iff_of_true within (spared_of_other (by simp))
  | started => exact iff_of_true within (spared_of_other (by simp))
  | computed held running done other => exact iff_of_true within (spared_of_other other)
  | failed held running other => exact iff_of_true within (spared_of_other other)
  | marked held stage => exact iff_of_true within (spared_of_stage held (by simp [stage]))
  | left held stage => exact iff_of_true within (spared_of_stage held (by simp [stage]))
  | ended held stage => exact iff_of_true within (spared_of_stage held (by simp [stage]))
  | @recorded id computation error held stage =>
      refine S3Server.len_recordFailure_le_iff.trans ?_
      constructor
      · intro room other found why same got failing
        cases same
        cases held.symm.trans got
        exact room
      · intro spared
        exact spared id computation error rfl held stage

theorem within_effect (within : state.server.WithinLimits)
    (effect : Effect state event after notices) :
    after.server.WithinLimits ↔ Spared log state event := by
  have cleared := cleared_effect within.toClearedInTime effect
  constructor
  · intro kept
    exact (failed_effect within.failed effect).mp kept.failed
  · intro spared
    exact ⟨cleared, (failed_effect within.failed effect).mpr spared⟩

theorem cleared_starting (now : Nat) : (starting now).server.ClearedInTime :=
  ⟨Nat.zero_le _, Nat.zero_le _⟩

/-- The memory of servable and of corrupt hashes keeps its limits in every run. That of failures
keeps its own in every run that records none while 10,000 others are recent, and leaves it with the
first step that does. -/
theorem memory_within_limits_iff (tree : BaoTree) (now : Nat) :
    (∀ log state, (repairMachine tree).Run (fun _ _ _ => True) [] (starting now) log state →
      state.server.ClearedInTime) ∧
    ∀ log state, (repairMachine tree).Run Spared [] (starting now) log state →
      state.server.WithinLimits ∧
      ∀ event next notices, (repairMachine tree).next state event = some (next, notices) →
        (next.server.WithinLimits ↔ Spared log state event) := by
  constructor
  · intro log state run
    exact run.state_invariant (fun state => state.server.ClearedInTime) (cleared_starting now)
      fun _ _ _ _ _ cleared _ taken => cleared_effect cleared (next_effect taken)
  · intro log state run
    have within : state.server.WithinLimits :=
      run.state_invariant (fun state => state.server.WithinLimits)
        ⟨cleared_starting now, Nat.zero_le _⟩
        fun _ _ _ _ _ within spared taken => (within_effect within (next_effect taken)).mpr spared
    exact ⟨within, fun event next notices taken => within_effect within (next_effect taken)⟩

section Burst

def hashOf (n : Nat) : String := String.ofList (Decimal.fixed 64 n)

theorem hashOf_injective {m n : Nat} (fits : m < Nat.pow 10 64) (fits' : n < Nat.pow 10 64)
    (same : hashOf m = hashOf n) : m = n := by
  have digits := congrArg String.toList same
  rw [hashOf, hashOf, String.toList_ofList, String.toList_ofList] at digits
  exact Decimal.fixed_injective 64 fits fits' digits

/-- No task is under way, and the first `count` hashes have failed, all at this instant. -/
structure Burst (state : Repairs) (count : Nat) : Prop where
  permits : 0 < state.permits
  unlisted : ∀ hash, state.server.backfilling.contains hash = false
  sound : ∀ hash, state.server.corrupt.contains hash = false
  unknown : ∀ hash, state.server.servable.get hash = none
  recent : ∀ hash at_, state.server.backfillFailed.get hash = some at_ → at_ = state.now
  failures : state.server.backfillFailed.len = count
  others : ∀ n, count ≤ n → n < Nat.pow 10 64 →
    state.server.backfillFailed.contains (hashOf n) = false

theorem burst_starting (now : Nat) : (starting now).Burst 0 where
  permits := Nat.zero_lt_two
  unlisted _ := rfl
  sound _ := rfl
  unknown _ := rfl
  recent := by
    intro hash at_ impossible
    cases impossible
  failures := rfl
  others _ _ _ := rfl

section Steps

variable {hash : String}

theorem leads_to_probe (sound : state.server.corrupt.contains hash = false)
    (unknown : state.server.servable.get hash = none) :
    Leads pairedTree log state log (state.checkingAt hash (.outboard 20000 .blob)) := by
  have finds : (state.checkingAt hash .blob).next pairedTree
      (.blobAnswered state.nextId (.ok (some 20000))) =
      some (state.checkingAt hash (.outboard 20000 .blob), []) := by
    simp only [next, checks_checkingAt, blobAnswered, found, setCheck_checkingAt]
    rfl
  exact Leads.andThen (leads_to_blob sound unknown) finds

theorem leads_to_failure {id : Nat} (probing : state.checks id = some ⟨hash, .outboard 20000 .blob⟩)
    (permit : 0 < state.permits) (unlisted : state.server.backfilling.contains hash = false)
    (warm : state.server.cooling hash state.now = false) :
    ∃ later after, Leads pairedTree log state later after ∧ after.permits = state.permits ∧
      after.now = state.now ∧ after.server =
        ((state.server.beginBackfill hash).recordFailure hash state.now).endBackfill hash := by
  let task : Computation := ⟨hash, 20000, .blob, .computing⟩
  let started := (state.start hash 20000 .blob).setCheck id none
  let failed := started.setStage state.nextId task (.failing "reset")
  let recorded := (failed.setServer (failed.server.recordFailure hash state.now)).setStage
    state.nextId task .leaving
  let left := (recorded.setServer (recorded.server.endBackfill hash)).setStage state.nextId task
    .dropping
  have starts : state.next pairedTree (.outboardAnswered id (.ok none)) = some (started,
      [.answered id hash (.error .busy), .started state.nextId hash state.now]) := by
    simp [next, probing, outboardAnswered, backfillBusy, backfill, warm, unlisted,
      Nat.pos_iff_ne_zero.mp permit, answer, started]
  have fails : started.next pairedTree (.computed state.nextId (.error "reset") (.ok ())) =
      some (failed, [.failed state.nextId hash state.now]) := by
    have held : started.computations.get state.nextId = some task := Table.get_insert_self _ _ _
    simp only [next, held]
    rfl
  have records : failed.next pairedTree (.advance state.nextId) =
      some (recorded, [.recorded state.nextId hash state.now]) := by
    rw [next_advance (Table.get_insert_self _ _ _)]
    rfl
  have leaves : recorded.next pairedTree (.advance state.nextId) = some (left, []) := by
    rw [next_advance (Table.get_insert_self _ _ _)]
    rfl
  have ends : left.next pairedTree (.advance state.nextId) = some ({ left with
      permits := left.permits + 1
      computations := left.computations.remove state.nextId }, [.ended state.nextId hash]) := by
    rw [next_advance (Table.get_insert_self _ _ _)]
    rfl
  have first := Leads.andThen (Leads.nothing log state) starts
  have second := Leads.andThen first fails
  have third := Leads.andThen second records
  have fourth := Leads.andThen third leaves
  exact ⟨_, _, Leads.andThen fourth ends, Nat.sub_add_cancel permit, rfl, rfl⟩

end Steps

theorem Burst.failed {count : Nat} (burst : state.Burst count) (hash : String) {server : S3Server}
    (left : server =
      ((state.server.beginBackfill hash).recordFailure hash state.now).endBackfill hash) :
    server.corrupt = state.server.corrupt ∧ server.servable = state.server.servable ∧
      server.backfilling = (state.server.backfilling.insert hash ()).remove hash ∧
      server.backfillFailed = state.server.backfillFailed.insert hash state.now := by
  have young : (state.server.backfillFailed.retain fun _ failed =>
      state.now - failed < S3Server.backfillCooldown) = state.server.backfillFailed := by
    apply Table.retain_eq_self
    intro other at_ found
    rw [burst.recent other at_ found, Nat.sub_self]
    rfl
  subst left
  refine ⟨rfl, rfl, rfl, ?_⟩
  change (if _ then _ else _ : Table String Nat).insert hash state.now = _
  simp only [S3Server.beginBackfill, young, ite_self]

theorem Burst.grown {count : Nat} (burst : state.Burst count) (fits : count < Nat.pow 10 64)
    (permits : after.permits = state.permits) (now : after.now = state.now)
    (server : after.server = ((state.server.beginBackfill (hashOf count)).recordFailure
      (hashOf count) state.now).endBackfill (hashOf count)) : after.Burst (count + 1) := by
  obtain ⟨corrupt, servable, backfilling, failures⟩ := burst.failed (hashOf count) server
  exact {
    permits := by
      rw [permits]
      exact burst.permits
    unlisted := by
      intro hash
      rw [backfilling, Table.contains, Table.get_remove, Table.get_insert]
      split
      · rfl
      · exact burst.unlisted hash
    sound := by
      rw [corrupt]
      exact burst.sound
    unknown := by
      rw [servable]
      exact burst.unknown
    recent := by
      intro hash at_ found
      rw [failures, Table.get_insert] at found
      rw [now]
      split at found
      · exact (Option.some.inj found).symm
      · exact burst.recent hash at_ found
    failures := by
      rw [failures, Table.len_insert_of_absent _ (burst.others count (Nat.le_refl _) fits),
        burst.failures]
    others := by
      intro n above small
      have different : hashOf n ≠ hashOf count := by
        intro same
        exact absurd (hashOf_injective small fits same) (Nat.ne_of_gt above)
      rw [failures, Table.contains_insert_of_ne _ _ different]
      exact burst.others n (Nat.le_of_succ_le above) small }

theorem Burst.more {count : Nat} (burst : state.Burst count) (fits : count < Nat.pow 10 64) :
    ∃ later after, Leads pairedTree log state later after ∧ after.Burst (count + 1) := by
  have warm : state.server.cooling (hashOf count) state.now = false := by
    have none : state.server.backfillFailed.get (hashOf count) = none := by
      simpa [Table.contains] using burst.others count (Nat.le_refl _) fits
    rw [S3Server.cooling, none]
    rfl
  have probes : Leads pairedTree log state log _ :=
    leads_to_probe (burst.sound (hashOf count)) (burst.unknown (hashOf count))
  obtain ⟨later, after, fails, permits, now, server⟩ :=
    leads_to_failure (checks_checkingAt _) burst.permits (burst.unlisted (hashOf count)) warm
  exact ⟨later, after, probes.trans fails, burst.grown fits permits now server⟩

theorem burst_reached (now : Nat) {count : Nat} (fits : count ≤ Nat.pow 10 64) :
    ∃ log state, Leads pairedTree [] (starting now) log state ∧ state.Burst count := by
  induction count with
  | zero => exact ⟨[], starting now, Machine.Run.refl, burst_starting now⟩
  | succ count ih =>
      obtain ⟨log, state, leads, burst⟩ := ih (Nat.le_of_succ_le fits)
      obtain ⟨later, after, more, larger⟩ := burst.more fits
      exact ⟨later, after, leads.trans more, larger⟩

/-- Where 10,001 hashes fail within the cooldown, all of them are remembered. -/
theorem failures_beyond_limit : ∃ log state,
    (repairMachine pairedTree).Run (fun _ _ _ => True) [] (starting 0) log state ∧
      state.server.backfillFailed.len = 10001 ∧ ¬state.server.WithinLimits := by
  have fits : 10001 ≤ Nat.pow 10 64 := by
    have power : Nat.pow 10 5 ≤ Nat.pow 10 64 := Nat.pow_le_pow_right (by omega) (by omega)
    have small : 10001 ≤ Nat.pow 10 5 := by decide
    exact Nat.le_trans small power
  obtain ⟨log, state, leads, burst⟩ := burst_reached 0 fits
  refine ⟨log, state, leads, burst.failures, ?_⟩
  intro within
  have limit := within.failed
  rw [burst.failures] at limit
  omega

end Burst

end Repairs

end TdfIrohS3
