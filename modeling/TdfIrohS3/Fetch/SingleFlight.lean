import TdfIrohS3.Fetch.Repair
import TdfIrohS3.Library.Registry

namespace TdfIrohS3

open Library

namespace Repairs

variable {tree : BaoTree} {state after : Repairs} {event : RepairEvent}
variable {notices log later : List RepairNotice}
variable {id other : Nat} {hash : String} {computation : Computation} {stage : ComputationStage}

def Runs (state : Repairs) (hash : String) (id : Nat) : Prop :=
  ∃ computation, state.computations.get id = some computation ∧ computation.stage ≠ .dropping ∧
    computation.hash = hash

def Listed (state : Repairs) (hash : String) : Prop :=
  state.server.backfilling.contains hash = true

structure SingleFlight (state : Repairs) : Prop where
  permits : state.permits + state.computations.len = S3Server.backfills
  unused : ∀ id, state.nextId ≤ id → state.computations.get id = none
  registry : Registry state.Listed state.Runs

section Stages

theorem get_setStage (other : Nat) :
    (state.setStage id computation stage).computations.get other =
      if other = id then some { computation with stage := stage }
      else state.computations.get other :=
  Table.get_insert _ _ _ _

variable (held : state.computations.get id = some computation)
include held

theorem len_setStage : (state.setStage id computation stage).computations.len =
    state.computations.len :=
  Table.len_insert_of_contains _ (Table.contains_of_get held)

theorem runs_of_held (running : computation.stage ≠ .dropping) : state.Runs computation.hash id :=
  ⟨computation, held, running, rfl⟩

theorem runs_only (runs : state.Runs hash id) : hash = computation.hash := by
  obtain ⟨found, got, -, rfl⟩ := runs
  cases held.symm.trans got
  rfl

theorem runs_setStage (before : computation.stage ≠ .dropping) (running : stage ≠ .dropping) :
    (state.setStage id computation stage).Runs hash other ↔ state.Runs hash other := by
  unfold Runs
  simp only [get_setStage]
  by_cases same : other = id
  · subst same
    simp only [if_pos, held, Option.some.injEq]
    constructor
    · rintro ⟨_, rfl, -, hashed⟩
      exact ⟨computation, rfl, before, hashed⟩
    · rintro ⟨_, rfl, -, hashed⟩
      exact ⟨_, rfl, running, hashed⟩
  · simp only [if_neg same]

theorem runs_dropping :
    (state.setStage id computation .dropping).Runs hash other ↔ other ≠ id ∧ state.Runs hash other := by
  unfold Runs
  simp only [get_setStage]
  by_cases same : other = id
  · subst same
    simp
  · simp [same]

theorem unused_setStage (unused : ∀ id, state.nextId ≤ id → state.computations.get id = none)
    (fresh : Nat) (above : state.nextId ≤ fresh) :
    (state.setStage id computation stage).computations.get fresh = none := by
  rw [get_setStage]
  split
  · rename_i same
    cases held.symm.trans (same ▸ unused fresh above)
  · exact unused fresh above

end Stages

section Steps

theorem SingleFlight.same (flight : state.SingleFlight) (permits : after.permits = state.permits)
    (computations : after.computations = state.computations)
    (backfilling : after.server.backfilling = state.server.backfilling)
    (later : state.nextId ≤ after.nextId) : after.SingleFlight where
  permits := by
    rw [permits, computations]
    exact flight.permits
  unused := by
    intro id above
    rw [computations]
    exact flight.unused id (Nat.le_trans later above)
  registry := by
    apply flight.registry.congr
    · intro other
      rw [Listed, backfilling]
      rfl
    · intro other owner
      rw [Runs, computations]
      rfl

theorem SingleFlight.setStage (flight : state.SingleFlight)
    (held : state.computations.get id = some computation) (before : computation.stage ≠ .dropping)
    (running : stage ≠ .dropping) : (state.setStage id computation stage).SingleFlight where
  permits := by
    rw [len_setStage held]
    exact flight.permits
  unused := unused_setStage held flight.unused
  registry := flight.registry.congr (fun _ => Iff.rfl) fun _ _ => runs_setStage held before running

theorem SingleFlight.start {size : Nat} {object : Object} (flight : state.SingleFlight)
    (permit : 0 < state.permits) (alone : state.server.backfilling.contains hash = false) :
    (state.start hash size object).SingleFlight where
  permits := by
    have absent : state.computations.contains state.nextId = false := by
      rw [Table.contains, flight.unused state.nextId (Nat.le_refl _)]
      rfl
    have counted := flight.permits
    change state.permits - 1 + (state.computations.insert _ _).len = _
    rw [Table.len_insert_of_absent _ absent]
    omega
  unused := by
    intro id above
    have beyond : id ≠ state.nextId := by
      intro same
      exact absurd (same ▸ above) (Nat.not_succ_le_self _)
    change (state.computations.insert _ _).get id = none
    rw [Table.get_insert_of_ne _ _ beyond]
    exact flight.unused id (Nat.le_of_succ_le above)
  registry := by
    have free : ¬state.Listed hash := by
      rw [Listed, alone]
      exact Bool.false_ne_true
    apply flight.registry.enter state.nextId free
    · exact fun other => Table.contains_insert_iff _ _ _ _
    · intro other owner
      change (∃ found, (state.computations.insert state.nextId _).get owner = some found ∧ _) ↔ _
      rw [Table.get_insert]
      by_cases same : owner = state.nextId
      · have none : ¬state.Runs other owner := by
          rintro ⟨found, got, -⟩
          cases (flight.unused owner (Nat.le_of_eq same.symm)).symm.trans got
        rw [if_pos same, or_iff_left none]
        simp [same, eq_comm]
      · rw [if_neg same, or_iff_right fun both => same both.2]
        rfl

theorem SingleFlight.left (flight : state.SingleFlight)
    (held : state.computations.get id = some computation)
    (running : computation.stage ≠ .dropping) :
    ((state.setServer (state.server.endBackfill computation.hash)).setStage id computation
      .dropping).SingleFlight := by
  have heldToo : (state.setServer (state.server.endBackfill computation.hash)).computations.get id =
      some computation := held
  constructor
  · rw [len_setStage heldToo]
    exact flight.permits
  · exact unused_setStage heldToo flight.unused
  · apply flight.registry.leave (runs_of_held held running) fun other => runs_only held
    · exact fun other => Table.contains_remove_iff _ _ _
    · intro other owner
      exact runs_dropping heldToo

theorem SingleFlight.ended (flight : state.SingleFlight)
    (held : state.computations.get id = some computation)
    (dropping : computation.stage = .dropping) :
    SingleFlight { state with
      permits := state.permits + 1
      computations := state.computations.remove id } where
  permits := by
    have counted := flight.permits
    have removed := Table.len_remove_of_contains (Table.contains_of_get held)
    change state.permits + 1 + (state.computations.remove id).len = _
    omega
  unused := by
    intro other above
    change (state.computations.remove id).get other = none
    rw [Table.get_remove]
    split
    · rfl
    · exact flight.unused other above
  registry := by
    apply flight.registry.congr (fun _ => Iff.rfl)
    intro other owner
    change (∃ found, (state.computations.remove id).get owner = some found ∧ _) ↔ _
    rw [Table.get_remove]
    by_cases same : owner = id
    · rw [if_pos same]
      constructor
      · rintro ⟨_, impossible, -⟩
        cases impossible
      · rintro ⟨found, got, running, -⟩
        cases held.symm.trans (same ▸ got)
        exact absurd dropping running
    · rw [if_neg same]
      rfl

theorem SingleFlight.effect (flight : state.SingleFlight)
    (effect : Effect state event after notices) : after.SingleFlight := by
  cases effect with
  | waited duration => exact flight.same rfl rfl rfl (Nat.le_refl _)
  | looked later quiet other => exact flight.same rfl rfl rfl later
  | remembered quiet => exact flight.same rfl rfl rfl (Nat.le_refl _)
  | mismatched hash => exact flight.same rfl rfl rfl (Nat.le_refl _)
  | forgot hash => exact flight.same rfl rfl rfl (Nat.le_refl _)
  | started warm permit alone quiet =>
      exact (flight.start permit alone).same rfl rfl rfl (Nat.le_refl _)
  | computed held running done other =>
      apply flight.setStage held (by simp [running])
      rcases done with rfl | ⟨actual, rfl⟩ <;> simp
  | failed held running other => exact flight.setStage held (by simp [running]) (by simp)
  | @marked id computation actual held stage =>
      have marked : (state.setServer (state.server.markCorrupt computation.hash)).SingleFlight :=
        flight.same rfl rfl rfl (Nat.le_refl _)
      exact marked.setStage held (by simp [stage]) (by simp)
  | @recorded id computation error held stage =>
      have recorded : (state.setServer
          (state.server.recordFailure computation.hash state.now)).SingleFlight :=
        flight.same rfl rfl rfl (Nat.le_refl _)
      exact recorded.setStage held (by simp [stage]) (by simp)
  | left held stage => exact flight.left held (by simp [stage])
  | ended held stage => exact flight.ended held stage

end Steps

section Permits

/-- No computation is between leaving the set and dropping its permit. -/
def Settled (state : Repairs) : Prop :=
  ∀ id computation, state.computations.get id = some computation → computation.stage ≠ .dropping

theorem SingleFlight.len_backfilling (flight : state.SingleFlight) (settled : state.Settled) :
    state.server.backfilling.len = state.computations.len := by
  have runs : ∀ entry ∈ state.computations.entries, state.Runs entry.2.hash entry.1 := by
    intro entry member
    have found := (Table.get_eq_some_iff _ _ _).mpr member
    exact ⟨entry.2, found, settled entry.1 entry.2 found, rfl⟩
  have distinct : (state.computations.entries.map fun entry => entry.2.hash).Nodup := by
    apply List.Nodup.map_on _ state.computations.nodupKeys.nodup
    rintro ⟨one, first⟩ member ⟨two, second⟩ member' same
    have sameId := flight.registry.single _ one two (runs _ member) (by rw [same]; exact runs _ member')
    subst sameId
    have found := (Table.get_eq_some_iff _ _ _).mpr member
    cases found.symm.trans ((Table.get_eq_some_iff _ _ _).mpr member')
    rfl
  have listed : ∀ hash, hash ∈ state.server.backfilling.keys ↔
      hash ∈ state.computations.entries.map fun entry => entry.2.hash := by
    intro hash
    rw [Table.mem_keys_iff]
    refine (flight.registry.listed_iff hash).trans ?_
    constructor
    · rintro ⟨id, computation, found, -, rfl⟩
      exact List.mem_map.mpr ⟨⟨id, computation⟩, (Table.get_eq_some_iff _ _ _).mp found, rfl⟩
    · intro member
      obtain ⟨entry, inside, rfl⟩ := List.mem_map.mp member
      exact ⟨entry.1, runs entry inside⟩
  have same := (List.perm_ext_iff_of_nodup (AList.keys_nodup _) distinct).mpr listed
  calc state.server.backfilling.len
      = state.server.backfilling.keys.length := Table.len_eq_length_keys _
    _ = (state.computations.entries.map fun entry => entry.2.hash).length := same.length_eq
    _ = state.computations.len := List.length_map _

/-- In a settled state `backfill` does to the server what it does where the size of the set stands
for the permits. -/
theorem SingleFlight.backfill_server {size : Nat} {object : Object} (flight : state.SingleFlight)
    (settled : state.Settled) :
    (state.backfill hash size object).1.server =
      (state.server.backfill hash state.now).getD state.server := by
  have permits := flight.permits
  rw [← flight.len_backfilling settled] at permits
  have busy : state.permits = 0 ↔ state.server.backfilling.len ≥ S3Server.backfills := by omega
  unfold backfill S3Server.backfill S3Server.cooling
  simp only [busy]
  split
  · rfl
  · split
    · rfl
    · split
      · rfl
      · rfl

end Permits

section Cooldown

def Fails (hash : String) (at_ : Nat) (notice : RepairNotice) : Prop :=
  (∃ id, notice = .failed id hash at_) ∨ ∃ id, notice = .recorded id hash at_

def Spaced (newer older : RepairNotice) : Prop :=
  ∀ id hash now at_, newer = .started id hash now → Fails hash at_ older →
    at_ + S3Server.backfillCooldown ≤ now

def Pending (state : Repairs) (hash : String) : Prop :=
  ∃ id computation error, state.computations.get id = some computation ∧
    computation.stage = .failing error ∧ computation.hash = hash

/-- Nothing of a failure is forgotten before the cooldown is over. -/
def Minded (state : Repairs) (hash : String) (at_ : Nat) : Prop :=
  (∃ last, state.server.backfillFailed.get hash = some last ∧ at_ ≤ last) ∨
    at_ + S3Server.backfillCooldown ≤ state.now

structure Cooled (log : List RepairNotice) (state : Repairs) : Prop where
  spaced : log.Pairwise Spaced
  past : ∀ hash at_, ∀ notice ∈ log, Fails hash at_ notice → at_ ≤ state.now
  minded : ∀ hash at_, ∀ notice ∈ log, Fails hash at_ notice →
    state.Pending hash ∨ state.Minded hash at_

theorem pending_runs (pending : state.Pending hash) : ∃ id, state.Runs hash id := by
  obtain ⟨id, computation, error, held, failing, rfl⟩ := pending
  exact ⟨id, computation, held, by simp [failing], rfl⟩

theorem not_fails_of_quiet {hash : String} {at_ : Nat} (quiet : Quiet notices) :
    ∀ notice ∈ notices, ¬Fails hash at_ notice := by
  intro notice said fails
  have silent := quiet notice said
  rcases fails with ⟨_, rfl⟩ | ⟨_, rfl⟩
  · exact silent
  · exact silent

theorem pending_setStage (held : state.computations.get id = some computation)
    (sound : ∀ error, computation.stage ≠ .failing error) (pending : state.Pending hash) :
    (state.setStage id computation stage).Pending hash := by
  obtain ⟨other, failed, error, found, failing, rfl⟩ := pending
  refine ⟨other, failed, error, ?_, failing, rfl⟩
  rw [get_setStage, if_neg]
  · exact found
  · rintro rfl
    cases held.symm.trans found
    exact sound error failing

theorem elapsed_of_not_young {now last at_ : Nat}
    (old : ¬now - last < S3Server.backfillCooldown) (since : at_ ≤ last) :
    at_ + S3Server.backfillCooldown ≤ now := by
  have positive : 0 < S3Server.backfillCooldown := by decide
  omega

theorem minded_recordFailure {at_ : Nat} (own : hash = computation.hash → at_ ≤ state.now)
    (minded : state.Minded hash at_) :
    (state.setServer (state.server.recordFailure computation.hash state.now)).Minded hash at_ := by
  by_cases same : hash = computation.hash
  · refine .inl ⟨state.now, ?_, own same⟩
    rw [same]
    exact Table.get_insert_self _ _ _
  · rcases minded with ⟨last, found, since⟩ | over_
    · by_cases young : state.now - last < S3Server.backfillCooldown
      · refine .inl ⟨last, ?_, since⟩
        change ((if _ then _ else _ : Table String Nat).insert computation.hash state.now).get hash = _
        rw [Table.get_insert_of_ne _ _ same]
        split
        · exact Table.get_retain_of_keep _ found (by simpa using young)
        · exact found
      · exact .inr (elapsed_of_not_young young since)
    · exact .inr over_

/-- A hash of which no computation runs is started only after the cooldown of every failure. -/
theorem elapsed_of_start {at_ : Nat} (flight : state.SingleFlight)
    (warm : state.server.cooling hash state.now = false)
    (alone : state.server.backfilling.contains hash = false)
    (minded : state.Pending hash ∨ state.Minded hash at_) :
    at_ + S3Server.backfillCooldown ≤ state.now := by
  rcases minded with pending | ⟨last, found, since⟩ | elapsed
  · have listed := (flight.registry.listed_iff hash).mpr (pending_runs pending)
    rw [Listed, alone] at listed
    cases listed
  · apply elapsed_of_not_young _ since
    intro young
    rw [S3Server.cooling, found] at warm
    simp only [Option.any_some, decide_eq_false_iff_not] at warm
    exact warm young
  · exact elapsed

theorem Cooled.quiet (cooled : Cooled log state) (said : Quiet notices)
    (later : state.now ≤ after.now)
    (kept : ∀ hash at_, state.Pending hash ∨ state.Minded hash at_ →
      after.Pending hash ∨ after.Minded hash at_) : Cooled (notices ++ log) after where
  spaced := by
    rw [List.pairwise_append]
    refine ⟨?_, cooled.spaced, ?_⟩
    · apply List.pairwise_of_forall_mem_list
      rintro newer first older - id hash now at_ rfl
      exact (said _ first).elim
    · rintro newer first older - id hash now at_ rfl
      exact (said _ first).elim
  past := by
    intro hash at_ notice member fails
    rcases List.mem_append.mp member with new | old
    · exact absurd fails (not_fails_of_quiet said notice new)
    · exact Nat.le_trans (cooled.past hash at_ notice old fails) later
  minded := by
    intro hash at_ notice member fails
    rcases List.mem_append.mp member with new | old
    · exact absurd fails (not_fails_of_quiet said notice new)
    · exact kept hash at_ (cooled.minded hash at_ notice old fails)

theorem Cooled.fails {notice : RepairNotice} (cooled : Cooled log state)
    (fails : Fails hash state.now notice) (same : after.now = state.now)
    (own : after.Pending hash ∨ after.Minded hash state.now)
    (kept : ∀ other at_, at_ ≤ state.now → state.Pending other ∨ state.Minded other at_ →
      after.Pending other ∨ after.Minded other at_) : Cooled (notice :: log) after := by
  have unique : ∀ other at_, Fails other at_ notice → other = hash ∧ at_ = state.now := by
    intro other at_ too
    rcases fails with ⟨_, rfl⟩ | ⟨_, rfl⟩ <;> rcases too with ⟨_, shown⟩ | ⟨_, shown⟩ <;>
      cases shown <;> exact ⟨rfl, rfl⟩
  constructor
  · rw [List.pairwise_cons]
    refine ⟨?_, cooled.spaced⟩
    intro older _ id other now at_ starts
    rcases fails with ⟨_, rfl⟩ | ⟨_, rfl⟩ <;> cases starts
  · intro other at_ one member shown
    rw [same]
    rcases List.mem_cons.mp member with rfl | old
    · exact Nat.le_of_eq (unique other at_ shown).2
    · exact cooled.past other at_ one old shown
  · intro other at_ one member shown
    rcases List.mem_cons.mp member with rfl | old
    · obtain ⟨rfl, rfl⟩ := unique other at_ shown
      exact own
    · exact kept other at_ (cooled.past other at_ one old shown)
        (cooled.minded other at_ one old shown)

theorem Cooled.start {size : Nat} {object : Object} (cooled : Cooled log state)
    (flight : state.SingleFlight) (warm : state.server.cooling hash state.now = false)
    (alone : state.server.backfilling.contains hash = false) :
    Cooled (.started state.nextId hash state.now :: log) (state.start hash size object) := by
  have silent : ∀ other at_, ¬Fails other at_ (.started state.nextId hash state.now) := by
    rintro other at_ (⟨_, impossible⟩ | ⟨_, impossible⟩) <;> cases impossible
  constructor
  · rw [List.pairwise_cons]
    refine ⟨?_, cooled.spaced⟩
    intro older member id other now at_ starts fails
    cases starts
    exact elapsed_of_start flight warm alone (cooled.minded hash at_ older member fails)
  · intro other at_ notice member fails
    rcases List.mem_cons.mp member with rfl | old
    · exact absurd fails (silent other at_)
    · exact cooled.past other at_ notice old fails
  · intro other at_ notice member fails
    rcases List.mem_cons.mp member with rfl | old
    · exact absurd fails (silent other at_)
    · rcases cooled.minded other at_ notice old fails with pending | minded
      · left
        obtain ⟨id, failed, error, found, failing, rfl⟩ := pending
        refine ⟨id, failed, error, ?_, failing, rfl⟩
        change (state.computations.insert state.nextId _).get id = some failed
        rw [Table.get_insert_of_ne]
        · exact found
        · rintro rfl
          cases (flight.unused _ (Nat.le_refl _)).symm.trans found
      · exact .inr minded

theorem pending_remove (held : state.computations.get id = some computation)
    (sound : ∀ error, computation.stage ≠ .failing error) (pending : state.Pending hash)
    (removed : after.computations = state.computations.remove id) : after.Pending hash := by
  obtain ⟨other, failed, error, found, failing, rfl⟩ := pending
  refine ⟨other, failed, error, ?_, failing, rfl⟩
  rw [removed, Table.get_remove, if_neg]
  · exact found
  · rintro rfl
    cases held.symm.trans found
    exact sound error failing

theorem Cooled.recorded (cooled : Cooled log state)
    (held : state.computations.get id = some computation) :
    Cooled (.recorded id computation.hash state.now :: log)
      ((state.setServer (state.server.recordFailure computation.hash state.now)).setStage id
        computation .leaving) := by
  have own : ∀ other at_, other = computation.hash → at_ ≤ state.now →
      (state.setServer (state.server.recordFailure computation.hash state.now)).Minded other at_ := by
    rintro other at_ rfl past
    exact .inl ⟨state.now, Table.get_insert_self _ _ _, past⟩
  refine cooled.fails (.inr ⟨id, rfl⟩) ?_ ?_ ?_
  · rfl
  · exact .inr (own _ _ rfl (Nat.le_refl _))
  · intro other at_ past minded
    by_cases same : other = computation.hash
    · exact .inr (own other at_ same past)
    · rcases minded with ⟨task, failed, why, found, fails, hashed⟩ | minded
      · -- another computation's failure: it is still to be recorded
        refine .inl ⟨task, failed, why, ?_, fails, hashed⟩
        rw [get_setStage, if_neg]
        · exact found
        · rintro rfl
          cases held.symm.trans found
          exact same hashed.symm
      · exact .inr (minded_recordFailure (fun hashed => absurd hashed same) minded)

theorem Cooled.going (cooled : Cooled log state) (held : state.computations.get id = some computation)
    (sound : ∀ error, computation.stage ≠ .failing error)
    (computations : after.computations = (state.setStage id computation stage).computations)
    (failed : after.server.backfillFailed = state.server.backfillFailed)
    (now : after.now = state.now) : Cooled ([] ++ log) after := by
  apply cooled.quiet quiet_nil (Nat.le_of_eq now.symm)
  rintro hash at_ (pending | minded)
  · left
    rw [Pending, computations]
    exact pending_setStage held sound pending
  · right
    rw [Minded, failed, now]
    exact minded

theorem quiet_ended : Quiet [.ended id hash] := by
  intro notice said
  rw [List.mem_singleton.mp said]
  exact trivial

theorem Cooled.effect (cooled : Cooled log state) (flight : state.SingleFlight)
    (effect : Effect state event after notices) : Cooled (notices ++ log) after := by
  cases effect with
  | waited duration =>
      apply cooled.quiet quiet_nil (Nat.le_add_right _ _)
      rintro hash at_ (pending | remembered | elapsed)
      · exact .inl pending
      · exact .inr (.inl remembered)
      · exact .inr (.inr (Nat.le_trans elapsed (Nat.le_add_right _ _)))
  | looked later quiet other => exact cooled.quiet quiet (Nat.le_refl _) fun _ _ minded => minded
  | remembered quiet => exact cooled.quiet quiet (Nat.le_refl _) fun _ _ minded => minded
  | mismatched hash => exact cooled.quiet quiet_nil (Nat.le_refl _) fun _ _ minded => minded
  | forgot hash => exact cooled.quiet quiet_nil (Nat.le_refl _) fun _ _ minded => minded
  | started warm permit alone quiet =>
      rw [List.append_assoc]
      exact (cooled.start flight warm alone).quiet quiet (Nat.le_refl _) fun _ _ minded => minded
  | computed held running done other =>
      exact cooled.going held (by simp [running]) rfl rfl rfl
  | @failed _ id computation error held running other =>
      refine cooled.fails (.inl ⟨id, rfl⟩) ?_ ?_ ?_
      · rfl
      · exact .inl ⟨id, { computation with stage := .failing error }, error,
          by rw [get_setStage, if_pos rfl], rfl, rfl⟩
      · rintro hash at_ - (pending | minded)
        · exact .inl (pending_setStage held (by simp [running]) pending)
        · exact .inr minded
  | marked held stage =>
      exact cooled.going held (by simp [stage]) rfl rfl rfl
  | recorded held stage => exact cooled.recorded held
  | left held stage =>
      exact cooled.going held (by simp [stage]) rfl rfl rfl
  | ended held stage =>
      refine cooled.quiet quiet_ended ?_ ?_
      · exact Nat.le_refl _
      · rintro hash at_ (pending | minded)
        · exact .inl (pending_remove held (by simp [stage]) pending rfl)
        · exact .inr minded

end Cooldown

section Ends

def Alone (id : Nat) (_ : List RepairNotice) (_ : Repairs) (event : RepairEvent) : Prop :=
  event = .advance id

def Returns (tree : BaoTree) (log : List RepairNotice) (state : Repairs) (id : Nat) : Prop :=
  ∃ later after, (repairMachine tree).Run (Alone id) log state later after ∧
    after.computations.get id = none ∧ after.permits = state.permits + 1

theorem advances {moved : Repairs × List RepairNotice}
    (held : state.computations.get id = some computation)
    (step : state.advance id computation = some moved) :
    (repairMachine tree).Run (Alone id) log state (moved.2 ++ log) moved.1 := by
  have taken : state.next tree (.advance id) = some moved := (next_advance held).trans step
  exact Machine.Run.step Machine.Run.refl rfl taken

theorem Returns.step {moved : Repairs × List RepairNotice}
    (held : state.computations.get id = some computation)
    (step : state.advance id computation = some moved) (permits : moved.1.permits = state.permits)
    (returns : Returns tree (moved.2 ++ log) moved.1 id) : Returns tree log state id := by
  obtain ⟨later, after, run, gone, back⟩ := returns
  exact ⟨later, after, (advances held step).trans run, gone, by rw [back, permits]⟩

theorem returns_dropping (held : state.computations.get id = some computation)
    (dropping : computation.stage = .dropping) : Returns tree log state id := by
  have step : state.advance id computation = some ({ state with
      permits := state.permits + 1
      computations := state.computations.remove id }, [.ended id computation.hash]) := by
    rw [advance, dropping]
  exact ⟨_, _, advances held step, Table.get_remove_self _ _, rfl⟩

theorem returns_leaving (held : state.computations.get id = some computation)
    (leaving : computation.stage = .leaving) : Returns tree log state id := by
  have step : state.advance id computation = some
      ((state.setServer (state.server.endBackfill computation.hash)).setStage id computation
        .dropping, []) := by
    rw [advance, leaving]
  apply Returns.step held step rfl
  exact returns_dropping (Table.get_insert_self _ _ _) rfl

theorem returns_of_computed (held : state.computations.get id = some computation)
    (done : computation.stage ≠ .computing) : Returns tree log state id := by
  cases stage : computation.stage with
  | computing => exact absurd stage done
  | marking actual =>
      apply Returns.step held (by rw [advance, stage]) rfl
      exact returns_leaving (Table.get_insert_self _ _ _) rfl
  | failing error =>
      apply Returns.step held (by rw [advance, stage]) rfl
      exact returns_leaving (Table.get_insert_self _ _ _) rfl
  | leaving => exact returns_leaving held stage
  | dropping => exact returns_dropping held stage

end Ends

section Runs

theorem singleFlight_starting (now : Nat) : (starting now).SingleFlight where
  permits := rfl
  unused _ _ := rfl
  registry := by
    constructor
    · intro hash
      constructor
      · intro impossible
        cases impossible
      · rintro ⟨id, computation, impossible, -⟩
        cases impossible
    · rintro hash one two ⟨computation, impossible, -⟩
      cases impossible

theorem cooled_starting (now : Nat) : Cooled [] (starting now) where
  spaced := List.Pairwise.nil
  past := by
    intro hash at_ notice impossible
    cases impossible
  minded := by
    intro hash at_ notice impossible
    cases impossible

theorem sound_of_run {allowed : List RepairNotice → Repairs → RepairEvent → Prop} {now : Nat}
    (run : (repairMachine tree).Run allowed [] (starting now) log state) :
    state.SingleFlight ∧ Cooled log state := by
  apply run.invariant (fun log state => state.SingleFlight ∧ Cooled log state)
    ⟨singleFlight_starting now, cooled_starting now⟩
  rintro log state event next notices ⟨flight, cooled⟩ - taken
  have effect := next_effect taken
  exact ⟨flight.effect effect, cooled.effect flight effect⟩

/-- Of any checks and computations, in any interleaving of their steps: at most two computations are
in flight and at most one runs for a hash; the set lists the hashes of those that run; each in flight
has one permit, which is back when it has ended; and after a failure of a hash no computation of it
starts before the cooldown is over. -/
theorem repair_single_flight {now : Nat} {log : List RepairNotice} {state : Repairs}
    (run : (repairMachine tree).Run (fun _ _ _ => True) [] (starting now) log state) :
    state.computations.len ≤ 2 ∧
      (∀ hash one two, state.Runs hash one → state.Runs hash two → one = two) ∧
      (∀ hash, state.server.backfilling.contains hash = true ↔ ∃ id, state.Runs hash id) ∧
      state.permits + state.computations.len = 2 ∧
      (∀ id computation, state.computations.get id = some computation →
        computation.stage ≠ .computing → Returns tree log state id) ∧
      ∀ newer older id hash at_ failed, log = newer ++ .started id hash at_ :: older →
        (∃ notice ∈ older, Fails hash failed notice) →
        failed + S3Server.backfillCooldown ≤ at_ := by
  obtain ⟨flight, cooled⟩ := sound_of_run run
  have permits : state.permits + state.computations.len = 2 := flight.permits
  refine ⟨by omega, flight.registry.single, flight.registry.listed_iff, permits,
    fun id computation held done => returns_of_computed held done, ?_⟩
  rintro newer older id hash at_ failed rfl ⟨notice, member, fails⟩
  have spaced := (List.pairwise_append.mp cooled.spaced).2.1
  exact (List.pairwise_cons.mp spaced).1 notice member id hash at_ failed rfl fails

def retried : List RepairEvent :=
  [.check "h", .proceed 0, .proceed 0, .blobAnswered 0 (.ok (some 20000)),
    .outboardAnswered 0 (.ok none), .computed 1 (.error "reset") (.ok ()), .advance 1, .advance 1,
    .advance 1, .tick 600000000000, .check "h", .proceed 2, .proceed 2,
    .blobAnswered 2 (.ok (some 20000)), .outboardAnswered 2 (.ok none)]

def retriedLog : List RepairNotice :=
  [.answered 2 "h" (.error .busy), .started 3 "h" 600000000000, .ended 1 "h", .recorded 1 "h" 0,
    .failed 1 "h" 0, .answered 0 "h" (.error .busy), .started 1 "h" 0]

theorem retried_run : ∃ state,
    (repairMachine pairedTree).Run (fun _ _ _ => True) [] (starting 0) retriedLog state := by
  have executed : ((repairMachine pairedTree).execute (fun _ _ _ => true) retried [] (starting 0)).map
      (fun ended => decide (ended.1 = retriedLog)) = some true := by
    decide +kernel
  obtain ⟨log, state, run, same⟩ := Machine.execute_reaches (fun _ _ _ _ => trivial) retried
    (fun log _ => decide (log = retriedLog)) executed
  exact ⟨state, of_decide_eq_true same ▸ run⟩

theorem retried_after_cooldown :
    ∃ state, (repairMachine pairedTree).Run (fun _ _ _ => True) [] (starting 0) retriedLog state ∧
      state.permits + state.computations.len = 2 ∧ 0 + S3Server.backfillCooldown ≤ 600000000000 := by
  obtain ⟨state, run⟩ := retried_run
  obtain ⟨-, -, -, permits, -, cooled⟩ := repair_single_flight run
  have first : ∃ notice ∈ retriedLog.drop 2, Fails "h" 0 notice :=
    ⟨.failed 1 "h" 0, by decide, .inl ⟨1, rfl⟩⟩
  exact ⟨state, run, permits, cooled (retriedLog.take 1) (retriedLog.drop 2) 3 "h" _ 0 rfl first⟩

end Runs

end Repairs

end TdfIrohS3
