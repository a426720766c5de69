import TdfIrohS3.Library.Machine
import TdfIrohS3.Library.Recent
import TdfIrohS3.Publish.Gate

namespace TdfIrohS3

open Library

namespace PublishGate

variable (gate : PublishGate) (clock : Clock) (endpoint : EndpointId)

def keptMisses : Table EndpointId Nat :=
  Recent.kept sessionMisses sessionMissTtl clock.instant gate.misses

def missedEvicting (evicted : Option EndpointId) : PublishGate :=
  { gate with misses :=
      Recent.record sessionMisses sessionMissTtl clock.instant gate.misses evicted endpoint }

def evictedMiss : Option EndpointId :=
  if (gate.keptMisses clock).len ≥ sessionMisses then oldestMiss (gate.keptMisses clock) else none

theorem keptMisses_eq : gate.keptMisses clock =
    if gate.misses.len ≥ sessionMisses then
      gate.misses.retain fun _ at_ => decide (clock.instant - at_ < sessionMissTtl)
    else gate.misses := rfl

theorem missed_eq :
    gate.missed clock endpoint = gate.missedEvicting clock endpoint (gate.evictedMiss clock) := by
  have recorded : ∀ evicted, gate.missedEvicting clock endpoint evicted = { gate with
      misses := (Recent.without (gate.keptMisses clock) evicted).insert endpoint clock.instant } :=
    fun _ => rfl
  rw [recorded, evictedMiss]
  simp only [missed, ← keptMisses_eq]
  by_cases full : (gate.keptMisses clock).len ≥ sessionMisses
  · simp only [full, if_true]
    cases oldestMiss (gate.keptMisses clock) with
    | none => rfl
    | some oldest => rfl
  · simp only [full, if_false]
    rfl

theorem isOldest_oldestMiss {misses : Table EndpointId Nat} {oldest : EndpointId}
    (least : oldestMiss misses = some oldest) : Recent.isOldest misses oldest = true := by
  obtain ⟨entry, smallest, rfl⟩ := Option.map_eq_some_iff.mp least
  refine Recent.isOldest_iff.mpr ⟨entry.2, (Table.mem_pairs_iff _ _).mp (List.argmin_mem smallest),
    ?_⟩
  intro other since found
  have member : (other, since) ∈ misses.pairs := (Table.mem_pairs_iff _ _).mpr found
  exact List.le_of_mem_argmin member smallest

/-- The choice of `missed` is one that makes room. -/
theorem makesRoom_evictedMiss :
    Recent.makesRoom sessionMisses (gate.keptMisses clock) (gate.evictedMiss clock) = true := by
  unfold evictedMiss
  split
  · rename_i full
    cases least : oldestMiss (gate.keptMisses clock) with
    | none =>
        have empty : (gate.keptMisses clock).pairs = [] := by
          simpa [oldestMiss] using least
        rw [← Table.length_pairs, empty] at full
        exact absurd full (by decide)
    | some oldest =>
        simp only [Recent.makesRoom, isOldest_oldestMiss least, Bool.and_true]
        exact decide_eq_true full
  · rename_i space
    exact decide_eq_true (Nat.lt_of_not_le space)

theorem lookUp_kept (platform : Platform) (answer : StoreAnswer) :
    (gate.lookUp platform clock endpoint answer).1.misses = gate.misses ∧
      (gate.lookUp platform clock endpoint answer).1.lookups = gate.lookups := by
  unfold lookUp
  split
  · exact ⟨rfl, rfl⟩
  · exact ⟨rfl, rfl⟩

end PublishGate

/-! Calls of `stored_session` and of the two functions that keep the misses, one step at a time. -/

inductive EnteringStage
  | checking
  | acquiring

structure Entering where
  endpoint : EndpointId
  stage : EnteringStage

inductive LookupStage
  | asking
  | missing
  | returning (found : Option HeldSession)

structure StoreLookup where
  endpoint : EndpointId
  stage : LookupStage

/-- A gate, the clocks, and the calls: those that have no permit yet, and those that have one until
they return. -/
structure StoredSessions where
  gate : PublishGate
  clock : Clock
  entering : Table Nat Entering
  inFlight : Table Nat StoreLookup
  nextId : Nat

inductive StoredNotice
  | recentlyMissed (endpoint : EndpointId) (answer : Bool)
  | missed (endpoint : EndpointId) (instant : Nat)
  | returned (id : Nat) (endpoint : EndpointId) (found : Option HeldSession)
  deriving DecidableEq

/-- `evicted` is the entry that makes room for a miss: the order in which a map yields the oldest
entries is its own. `cancel` drops a call while it waits for the store. -/
inductive StoredEvent
  | tick (clock : Clock)
  | missed (endpoint : EndpointId) (evicted : Option EndpointId)
  | recentlyMissed (endpoint : EndpointId)
  | storedSession (endpoint : EndpointId)
  | enter (id : Nat)
  | answered (id : Nat) (answer : StoreAnswer)
  | cancel (id : Nat)
  | miss (id : Nat) (evicted : Option EndpointId)
  | finish (id : Nat)

namespace StoredSessions

def starting (gate : PublishGate) (clock : Clock) : StoredSessions where
  gate := { gate with misses := Table.empty, lookups := sessionLookups }
  clock := clock
  entering := Table.empty
  inFlight := Table.empty
  nextId := 0

variable (platform : Platform) (state : StoredSessions)

def setGate (gate : PublishGate) : StoredSessions := { state with gate := gate }

def setEntering (id : Nat) (call : Entering) : StoredSessions :=
  { state with entering := state.entering.insert id call }

def setLookup (id : Nat) (call : StoreLookup) : StoredSessions :=
  { state with inFlight := state.inFlight.insert id call }

def refuse (id : Nat) (call : Entering) : StoredSessions × List StoredNotice :=
  ({ state with entering := state.entering.remove id }, [.returned id call.endpoint none])

def acquire (id : Nat) (call : Entering) : StoredSessions :=
  { state with
    gate := state.gate.acquire
    entering := state.entering.remove id
    inFlight := state.inFlight.insert id ⟨call.endpoint, .asking⟩ }

def release (id : Nat) : StoredSessions :=
  { state with gate := state.gate.release, inFlight := state.inFlight.remove id }

def enter (id : Nat) (call : Entering) : StoredSessions × List StoredNotice :=
  match call.stage with
  | .checking =>
      if state.gate.recentlyMissed state.clock call.endpoint then state.refuse id call
      else (state.setEntering id { call with stage := .acquiring }, [])
  | .acquiring =>
      if state.gate.lookups = 0 then state.refuse id call
      else (state.acquire id call, [])

def answered (id : Nat) (call : StoreLookup) (answer : StoreAnswer) : StoredSessions :=
  let result := state.gate.lookUp platform state.clock call.endpoint answer
  (state.setGate result.1).setLookup id { call with
    stage := match result.2 with
      | none => .missing
      | some held => .returning (some held) }

def recordMiss (endpoint : EndpointId) (evicted : Option EndpointId) :
    Option (StoredSessions × List StoredNotice) :=
  if Recent.makesRoom sessionMisses (state.gate.keptMisses state.clock) evicted then
    some (state.setGate (state.gate.missedEvicting state.clock endpoint evicted),
      [.missed endpoint state.clock.instant])
  else none

def next : StoredEvent → Option (StoredSessions × List StoredNotice)
  | .tick clock =>
      if state.clock.instant ≤ clock.instant then some ({ state with clock := clock }, []) else none
  | .missed endpoint evicted => state.recordMiss endpoint evicted
  | .recentlyMissed endpoint =>
      some (state, [.recentlyMissed endpoint (state.gate.recentlyMissed state.clock endpoint)])
  | .storedSession endpoint =>
      if state.gate.store then
        some ({ state.setEntering state.nextId ⟨endpoint, .checking⟩ with
          nextId := state.nextId + 1 }, [])
      else some ({ state with nextId := state.nextId + 1 }, [.returned state.nextId endpoint none])
  | .enter id => (state.entering.get id).map (state.enter id)
  | .answered id answer =>
      match state.inFlight.get id with
      | some ⟨endpoint, .asking⟩ =>
          some (state.answered platform id ⟨endpoint, .asking⟩ answer, [])
      | _ => none
  | .cancel id =>
      match state.inFlight.get id with
      | some ⟨_, .asking⟩ => some (state.release id, [])
      | _ => none
  | .miss id evicted =>
      match state.inFlight.get id with
      | some ⟨endpoint, .missing⟩ =>
          (state.setLookup id ⟨endpoint, .returning none⟩).recordMiss endpoint evicted
      | _ => none
  | .finish id =>
      match state.inFlight.get id with
      | some ⟨endpoint, .returning found⟩ =>
          some (state.release id, [.returned id endpoint found])
      | _ => none

theorem next_missed (endpoint : EndpointId) :
    state.next platform (.missed endpoint (state.gate.evictedMiss state.clock)) =
      some (state.setGate (state.gate.missed state.clock endpoint),
        [.missed endpoint state.clock.instant]) := by
  rw [next, recordMiss, if_pos (state.gate.makesRoom_evictedMiss state.clock),
    PublishGate.missed_eq]

inductive Effect : StoredSessions → List StoredNotice → Prop
  | looked {clock : Clock} {entering : Table Nat Entering} {nextId : Nat}
      {notices : List StoredNotice} (later : state.nextId ≤ nextId)
      (entered : ∀ id, entering.contains id = true →
        state.entering.contains id = true ∨ id = state.nextId ∧ id < nextId)
      (quiet : ∀ endpoint instant, .missed endpoint instant ∉ notices) :
      Effect { state with clock := clock, entering := entering, nextId := nextId } notices
  | acquired {id : Nat} {call : Entering} (held : state.entering.get id = some call)
      (permit : 0 < state.gate.lookups) : Effect (state.acquire id call) []
  | answered {id : Nat} {call moved : StoreLookup} {gate : PublishGate}
      (held : state.inFlight.get id = some call) (misses : gate.misses = state.gate.misses)
      (lookups : gate.lookups = state.gate.lookups) :
      Effect ((state.setGate gate).setLookup id moved) []
  | released {id : Nat} {call : StoreLookup} {notices : List StoredNotice}
      (held : state.inFlight.get id = some call)
      (quiet : ∀ endpoint instant, .missed endpoint instant ∉ notices) :
      Effect (state.release id) notices
  | missed {endpoint : EndpointId} {evicted : Option EndpointId}
      (room : Recent.makesRoom sessionMisses (state.gate.keptMisses state.clock) evicted = true) :
      Effect (state.setGate (state.gate.missedEvicting state.clock endpoint evicted))
        [.missed endpoint state.clock.instant]
  | missedBy {id : Nat} {call moved : StoreLookup} {endpoint : EndpointId}
      {evicted : Option EndpointId} (held : state.inFlight.get id = some call)
      (room : Recent.makesRoom sessionMisses (state.gate.keptMisses state.clock) evicted = true) :
      Effect ((state.setLookup id moved).setGate
        (state.gate.missedEvicting state.clock endpoint evicted))
        [.missed endpoint state.clock.instant]

section Effects

variable {platform state} {event : StoredEvent} {id : Nat} {after : StoredSessions}
variable {notices : List StoredNotice}

theorem effect_refuse {call : Entering} :
    Effect state (state.refuse id call).1 (state.refuse id call).2 := by
  apply Effect.looked (Nat.le_refl _)
  · intro other still
    exact .inl ((Table.contains_remove_iff _ _ _).mp still).2
  · intro endpoint instant said
    cases List.mem_singleton.mp said

theorem enter_effect {call : Entering} (held : state.entering.get id = some call) :
    Effect state (state.enter id call).1 (state.enter id call).2 := by
  have present := Table.contains_of_get held
  unfold enter
  split
  · by_cases recent : state.gate.recentlyMissed state.clock call.endpoint
    · rw [if_pos recent]
      exact effect_refuse
    · rw [if_neg recent]
      apply Effect.looked (Nat.le_refl _)
      · intro other still
        rcases (Table.contains_insert_iff _ _ _ _).mp still with rfl | before
        · exact .inl present
        · exact .inl before
      · intro endpoint instant said
        cases said
  · by_cases none : state.gate.lookups = 0
    · rw [if_pos none]
      exact effect_refuse
    · rw [if_neg none]
      exact .acquired held (Nat.pos_of_ne_zero none)

theorem recordMiss_effect {endpoint : EndpointId} {evicted : Option EndpointId}
    (taken : state.recordMiss endpoint evicted = some (after, notices)) :
    Effect state after notices := by
  unfold recordMiss at taken
  split at taken
  · rename_i room
    cases taken
    exact .missed room
  · cases taken

theorem next_effect (taken : state.next platform event = some (after, notices)) :
    Effect state after notices := by
  cases event with
  | tick clock =>
      simp only [next] at taken
      split at taken
      · cases taken
        exact .looked (Nat.le_refl _) (fun _ still => .inl still) (by simp)
      · cases taken
  | missed endpoint evicted => exact recordMiss_effect taken
  | recentlyMissed endpoint =>
      cases taken
      exact .looked (Nat.le_refl _) (fun _ still => .inl still) (by simp)
  | storedSession endpoint =>
      simp only [next] at taken
      split at taken
      · cases taken
        apply Effect.looked (Nat.le_succ _)
        · intro other still
          rcases (Table.contains_insert_iff _ _ _ _).mp still with rfl | before
          · exact .inr ⟨rfl, Nat.lt_succ_self _⟩
          · exact .inl before
        · simp
      · cases taken
        exact .looked (Nat.le_succ _) (fun _ still => .inl still) (by simp)
  | enter id =>
      obtain ⟨call, held, moved⟩ := Option.map_eq_some_iff.mp taken
      have effect := enter_effect held
      rw [moved] at effect
      exact effect
  | answered id answer =>
      simp only [next] at taken
      split at taken
      · rename_i endpoint held
        cases taken
        have kept := state.gate.lookUp_kept state.clock endpoint platform answer
        exact .answered held kept.1 kept.2
      · cases taken
  | cancel id =>
      simp only [next] at taken
      split at taken
      · rename_i endpoint held
        cases taken
        exact .released held (by simp)
      · cases taken
  | miss id evicted =>
      simp only [next] at taken
      split at taken
      · rename_i endpoint held
        unfold recordMiss at taken
        split at taken
        · rename_i room
          cases taken
          exact .missedBy held room
        · cases taken
      · cases taken
  | finish id =>
      simp only [next] at taken
      split at taken
      · rename_i endpoint found held
        cases taken
        exact .released held (by simp)
      · cases taken

end Effects

section Invariant

variable {state} {id : Nat} {after : StoredSessions} {notices : List StoredNotice}
variable {endpoint : EndpointId} {evicted : Option EndpointId}

structure Bounded (state : StoredSessions) : Prop where
  misses : state.gate.misses.len ≤ sessionMisses
  permits : state.gate.lookups + state.inFlight.len = sessionLookups
  fresh : ∀ id, state.entering.contains id = true ∨ state.inFlight.contains id = true →
    id < state.nextId
  apart : ∀ id, state.entering.contains id = true → state.inFlight.contains id = false

theorem Bounded.looked {clock : Clock} {entering : Table Nat Entering} {nextId : Nat}
    (bounded : state.Bounded) (later : state.nextId ≤ nextId)
    (entered : ∀ id, entering.contains id = true →
      state.entering.contains id = true ∨ id = state.nextId ∧ id < nextId) :
    Bounded { state with clock := clock, entering := entering, nextId := nextId } where
  misses := bounded.misses
  permits := bounded.permits
  fresh := by
    rintro id (enters | flies)
    · rcases entered id enters with before | ⟨-, below⟩
      · exact Nat.lt_of_lt_of_le (bounded.fresh id (.inl before)) later
      · exact below
    · exact Nat.lt_of_lt_of_le (bounded.fresh id (.inr flies)) later
  apart := by
    intro id enters
    rcases entered id enters with before | ⟨rfl, -⟩
    · exact bounded.apart id before
    · -- the identity is new, so no call in flight has it
      cases flies : state.inFlight.contains state.nextId with
      | false => rfl
      | true => exact absurd (bounded.fresh _ (.inr flies)) (Nat.lt_irrefl _)

theorem Bounded.acquired {call : Entering} (bounded : state.Bounded)
    (held : state.entering.get id = some call) (permit : 0 < state.gate.lookups) :
    (state.acquire id call).Bounded := by
  have enters := Table.contains_of_get held
  have new := Table.len_insert_of_absent (⟨call.endpoint, .asking⟩ : StoreLookup)
    (bounded.apart id enters)
  have counted := bounded.permits
  exact {
    misses := bounded.misses
    permits := by
      change state.gate.lookups - 1 + (state.inFlight.insert id _).len = _
      omega
    fresh := by
      rintro other (waits | flies)
      · exact bounded.fresh other (.inl ((Table.contains_remove_iff _ _ _).mp waits).2)
      · rcases (Table.contains_insert_iff _ _ _ _).mp flies with rfl | before
        · exact bounded.fresh other (.inl enters)
        · exact bounded.fresh other (.inr before)
    apart := by
      intro other waits
      obtain ⟨different, before⟩ := (Table.contains_remove_iff _ _ _).mp waits
      change (state.inFlight.insert id _).contains other = false
      rw [Table.contains_insert_of_ne _ _ different]
      exact bounded.apart other before }

theorem Bounded.setLookup {call moved : StoreLookup} (bounded : state.Bounded)
    (held : state.inFlight.get id = some call) : (state.setLookup id moved).Bounded where
  misses := bounded.misses
  permits := by
    change state.gate.lookups + (state.inFlight.insert id moved).len = _
    rw [Table.len_insert_of_contains _ (Table.contains_of_get held)]
    exact bounded.permits
  fresh := by
    rintro other (waits | flies)
    · exact bounded.fresh other (.inl waits)
    · rcases (Table.contains_insert_iff _ _ _ _).mp flies with rfl | before
      · exact bounded.fresh other (.inr (Table.contains_of_get held))
      · exact bounded.fresh other (.inr before)
  apart := by
    intro other waits
    have different : other ≠ id := by
      rintro rfl
      cases (bounded.apart other waits).symm.trans (Table.contains_of_get held)
    change (state.inFlight.insert id moved).contains other = false
    rw [Table.contains_insert_of_ne _ _ different]
    exact bounded.apart other waits

theorem Bounded.released {call : StoreLookup} (bounded : state.Bounded)
    (held : state.inFlight.get id = some call) : (state.release id).Bounded where
  misses := bounded.misses
  permits := by
    have counted := bounded.permits
    have removed := Table.len_remove_of_contains (Table.contains_of_get held)
    change state.gate.lookups + 1 + (state.inFlight.remove id).len = _
    omega
  fresh := by
    rintro other (waits | flies)
    · exact bounded.fresh other (.inl waits)
    · exact bounded.fresh other (.inr ((Table.contains_remove_iff _ _ _).mp flies).2)
  apart := by
    intro other waits
    change (state.inFlight.remove id).contains other = false
    rw [Table.contains, Table.get_remove]
    split
    · rfl
    · exact bounded.apart other waits

theorem Bounded.setGate {gate : PublishGate} (bounded : state.Bounded)
    (misses : gate.misses.len ≤ sessionMisses) (lookups : gate.lookups = state.gate.lookups) :
    (state.setGate gate).Bounded where
  misses := misses
  permits := by
    change gate.lookups + state.inFlight.len = _
    rw [lookups]
    exact bounded.permits
  fresh := bounded.fresh
  apart := bounded.apart

theorem Bounded.missed (bounded : state.Bounded)
    (room : Recent.makesRoom sessionMisses (state.gate.keptMisses state.clock) evicted = true) :
    (state.setGate (state.gate.missedEvicting state.clock endpoint evicted)).Bounded :=
  bounded.setGate (Recent.len_record_le bounded.misses room) rfl

theorem Bounded.effect (bounded : state.Bounded) (effect : Effect state after notices) :
    after.Bounded := by
  cases effect with
  | looked later entered quiet => exact bounded.looked later entered
  | acquired held permit => exact bounded.acquired held permit
  | @answered id call moved gate held misses lookups =>
      have same : gate.misses.len ≤ sessionMisses := by
        rw [misses]
        exact bounded.misses
      exact (bounded.setGate same lookups).setLookup held
  | released held quiet => exact bounded.released held
  | missed room => exact bounded.missed room
  | missedBy held room => exact (bounded.setLookup held).missed room

end Invariant

section Memory

variable {state} {after : StoredSessions} {notices : List StoredNotice}

def youngMisses (state : StoredSessions) : Table EndpointId Nat :=
  Recent.young sessionMissTtl state.clock.instant state.gate.misses

/-- What one step does to the misses: one that is recorded is there, and a young one goes only where
the map is full of young ones of which none was recorded earlier. -/
structure KeepsYoung (state : StoredSessions) (notices : List StoredNotice)
    (after : StoredSessions) : Prop where
  recorded : ∀ endpoint instant, .missed endpoint instant ∈ notices →
    after.gate.misses.get endpoint = some instant ∧
      after.gate.recentlyMissed after.clock endpoint = true
  evicted : ∀ endpoint at_, state.gate.misses.get endpoint = some at_ →
    state.clock.instant - at_ < sessionMissTtl → after.gate.misses.get endpoint = none →
    state.youngMisses.len = 4096 ∧
      ∀ other since, state.youngMisses.get other = some since → at_ ≤ since

theorem keepsYoung_of_same (misses : after.gate.misses = state.gate.misses)
    (quiet : ∀ endpoint instant, .missed endpoint instant ∉ notices) :
    KeepsYoung state notices after where
  recorded endpoint instant said := absurd said (quiet endpoint instant)
  evicted := by
    intro endpoint at_ found _ gone
    rw [misses, found] at gone
    cases gone

theorem keepsYoung_of_missed {endpoint : EndpointId} {evicted : Option EndpointId}
    (bounded : state.gate.misses.len ≤ sessionMisses)
    (room : Recent.makesRoom sessionMisses (state.gate.keptMisses state.clock) evicted = true)
    (gate : after.gate = state.gate.missedEvicting state.clock endpoint evicted)
    (clock : after.clock = state.clock) :
    KeepsYoung state [.missed endpoint state.clock.instant] after where
  recorded := by
    intro other instant said
    cases List.mem_singleton.mp said
    have there : after.gate.misses.get endpoint = some state.clock.instant := by
      rw [gate]
      exact Recent.get_record_self
    refine ⟨there, ?_⟩
    simp only [PublishGate.recentlyMissed, there, clock, Nat.sub_self]
    rfl
  evicted := by
    intro other at_ found recent gone
    rw [gate] at gone
    exact Recent.full_of_evicted bounded room found recent gone

theorem Bounded.keepsYoung (bounded : state.Bounded) (effect : Effect state after notices) :
    KeepsYoung state notices after := by
  cases effect with
  | looked later entered quiet => exact keepsYoung_of_same rfl quiet
  | acquired held permit => exact keepsYoung_of_same rfl (by simp)
  | answered held misses lookups => exact keepsYoung_of_same misses (by simp)
  | released held quiet => exact keepsYoung_of_same rfl quiet
  | missed room => exact keepsYoung_of_missed bounded.misses room rfl rfl
  | missedBy held room => exact keepsYoung_of_missed bounded.misses room rfl rfl

end Memory

end StoredSessions

def storedMachine (platform : Platform) : Machine StoredSessions StoredEvent StoredNotice where
  next := StoredSessions.next platform

namespace StoredSessions

theorem bounded_starting (gate : PublishGate) (clock : Clock) : (starting gate clock).Bounded where
  misses := Nat.zero_le _
  permits := rfl
  fresh := by
    rintro id (impossible | impossible) <;> cases impossible
  apart := by
    intro id impossible
    cases impossible

/-- Whatever endpoints miss and however the calls interleave: at most 4096 misses are remembered and
at most 16 look-ups are in flight; and every step remembers the endpoint it records, and drops a
young one only from a map full of young ones of which none is older. -/
theorem unknown_endpoints_bounded {platform : Platform} {gate : PublishGate} {clock : Clock}
    {log : List StoredNotice} {state : StoredSessions}
    (run : (storedMachine platform).Run (fun _ _ _ => True) [] (starting gate clock) log state) :
    state.gate.misses.len ≤ 4096 ∧ state.inFlight.len ≤ 16 ∧
      ∀ event next notices, (storedMachine platform).next state event = some (next, notices) →
        KeepsYoung state notices next := by
  have bounded : state.Bounded :=
    run.state_invariant Bounded (bounded_starting gate clock)
      fun _ _ _ _ _ bounded _ taken => bounded.effect (next_effect taken)
  have permits : state.gate.lookups + state.inFlight.len = 16 := bounded.permits
  refine ⟨bounded.misses, by omega, ?_⟩
  intro event next notices taken
  exact bounded.keepsYoung (next_effect taken)

def emptyPlatform : Platform where
  blake3 _ := []
  deriveKey _ _ := []
  keyedHash _ _ := []
  endpointFromStr _ := none
  verify _ _ _ := false
  sessionJson _ := ""
  readSession _ := none
  sealedJson _ := []
  readSealed _ := none

def stranger : EndpointId := ⟨List.replicate 32 5, rfl⟩

def storedGate : PublishGate := (PublishGate.new Moderation.empty).withSessionStore

def askedTwice : List StoredEvent :=
  [.storedSession stranger, .enter 0, .enter 0, .answered 0 .absent, .miss 0 none, .finish 0,
    .tick ⟨9 * nanos, unixAt 0⟩, .storedSession stranger, .enter 1]

def askedTwiceLog : List StoredNotice :=
  [.returned 1 stranger none, .returned 0 stranger none, .missed stranger 0]

theorem stranger_remembered :
    ∃ state, (storedMachine emptyPlatform).Run (fun _ _ _ => True) []
        (starting storedGate ⟨0, unixAt 0⟩) askedTwiceLog state ∧
      state.gate.misses.len ≤ 4096 ∧ state.inFlight.len ≤ 16 := by
  have executed : ((storedMachine emptyPlatform).execute (fun _ _ _ => true) askedTwice []
      (starting storedGate ⟨0, unixAt 0⟩)).map (fun ended => decide (ended.1 = askedTwiceLog)) =
        some true := by
    decide +kernel
  obtain ⟨log, state, run, same⟩ := Machine.execute_reaches (fun _ _ _ _ => trivial) askedTwice
    (fun log _ => decide (log = askedTwiceLog)) executed
  obtain rfl : log = askedTwiceLog := of_decide_eq_true same
  have bounds := unknown_endpoints_bounded run
  exact ⟨state, run, bounds.1, bounds.2.1⟩

end StoredSessions

end TdfIrohS3
