import TdfIrohS3.Moderation.Requests
import TdfIrohS3.Library.Slots

namespace TdfIrohS3

open Library

namespace ModerationNode

def Idle (node : ModerationNode) : Prop :=
  (∀ id, node.changes id = none) ∧ ∀ id, node.reloads id = none

section Writes

def writtenAs (kind : Kind) (key : String) : ModerationNotice → Option Bool
  | .wrote _ kind' key' lifted => if kind' = kind ∧ key' = key then some lifted else none
  | _ => none

def lastWritten (kind : Kind) (key : String) (log : List ModerationNotice) : Option Bool :=
  log.findSome? (writtenAs kind key)

theorem writtenAs_eq_some {kind : Kind} {key : String} {notice : ModerationNotice} {lifted : Bool} :
    writtenAs kind key notice = some lifted ↔ ∃ id, notice = .wrote id kind key lifted := by
  cases notice with
  | wrote id kind' key' lifted' =>
      by_cases same : kind' = kind ∧ key' = key
      · obtain ⟨rfl, rfl⟩ := same
        simp [writtenAs]
      · simp only [writtenAs, if_neg same, reduceCtorEq, false_iff, not_exists]
        intro writer equal
        cases equal
        exact same ⟨rfl, rfl⟩
  | _ => simp [writtenAs]

theorem lastWritten_append (kind : Kind) (key : String) (newer older : List ModerationNotice) :
    lastWritten kind key (newer ++ older) =
      (lastWritten kind key newer).or (lastWritten kind key older) :=
  List.findSome?_append

/-- After an unlifted write, only a lifted one changes what was written last. -/
theorem lastWritten_of_settled {kind : Kind} {key : String} {newer : List ModerationNotice}
    (older : List ModerationNotice) (id : Nat)
    (settled : ∀ lifter, .wrote lifter kind key true ∉ newer) :
    lastWritten kind key (newer ++ .wrote id kind key false :: older) = some false := by
  have here : lastWritten kind key (.wrote id kind key false :: older) = some false := by
    simp [lastWritten, writtenAs]
  rw [lastWritten_append, here]
  cases found : lastWritten kind key newer with
  | none => rfl
  | some lifted =>
      obtain ⟨notice, member, shown⟩ := List.exists_of_findSome?_eq_some found
      obtain ⟨writer, rfl⟩ := writtenAs_eq_some.mp shown
      cases lifted with
      | false => rfl
      | true => exact absurd member (settled writer)

end Writes

section Invariants

def recordOf {kind : Kind} : ChangePhase kind → Option kind.Record
  | .verifying => none
  | .auditing record | .writing record | .applying record => some record

def RecordsPrepared (node : ModerationNode) : Prop :=
  ∀ id task record, node.changes id = some task → recordOf task.phase = some record →
    task.kind.key record = task.kind.keyOf task.path ∧
      (task.kind.liftedAt record).isSome = task.body.isNone

def AppliedWritten (log : List ModerationNotice) (node : ModerationNode) : Prop :=
  ∀ id task record, node.changes id = some task → task.phase = .applying record →
    .wrote id task.kind (task.kind.keyOf task.path) task.body.isNone ∈ log

def StoreCurrent (log : List ModerationNotice) (node : ModerationNode) : Prop :=
  ∀ kind key lifted, lastWritten kind key log = some lifted →
    ∃ record, (node.store kind).get key = some (some record) ∧ kind.key record = key ∧
      (kind.liftedAt record).isSome = lifted

/-- A listing in flight has every key whose newest write, when it was taken, was not lifted. -/
def ListingsCurrent (log : List ModerationNotice) (node : ModerationNode) : Prop :=
  ∀ id task kind active, node.reloads id = some task → task.collected kind = some active →
    ∃ newer older, log = newer ++ .listed id kind :: older ∧
      ∀ key, lastWritten kind key older = some false → active.table.contains key = true

def IdsBelow (node : ModerationNode) : Prop :=
  ∀ id task, node.changes id = some task → id < node.nextId

structure Tracked (log : List ModerationNotice) (node : ModerationNode) : Prop where
  records : RecordsPrepared node
  written : AppliedWritten log node
  store : StoreCurrent log node
  listings : ListingsCurrent log node
  ids : IdsBelow node

variable {log notices : List ModerationNotice} {node after : ModerationNode}
variable {event : ModerationEvent}

theorem prepare_ok {task : ChangeTask} {answer : Except AuthError VerifiedClaims} {now : Int}
    {record : task.kind.Record} (made : node.prepare task answer now = .ok record) :
    task.kind.key record = task.kind.keyOf task.path ∧
      (task.kind.liftedAt record).isSome = task.body.isNone := by
  unfold prepare at made
  split at made
  · cases made
  · split at made
    · rename_i body given
      have facts := imposeRecord_ok made
      exact ⟨facts.1, by rw [facts.2, given]; rfl⟩
    · rename_i given
      have facts := liftRecord_ok made
      exact ⟨facts.1, by rw [facts.2, given]; rfl⟩

inductive Came (node : ModerationNode) (event : ModerationEvent) (notices : List ModerationNotice)
    (id : Nat) : ChangeTask → Prop
  | kept {task : ChangeTask} (held : node.changes id = some task) : Came node event notices id task
  | arrived {kind : Kind} {path : String} {body : Option ActionRequest} {headers : Headers}
      (fresh : id = node.nextId) (received : event = .receive kind path body headers) :
      Came node event notices id { kind, path, body, headers, phase := .verifying }
  | prepared {old : ChangeTask} {record : old.kind.Record} (held : node.changes id = some old)
      (own : old.kind.key record = old.kind.keyOf old.path)
      (lifts : (old.kind.liftedAt record).isSome = old.body.isNone) :
      Came node event notices id { old with phase := .auditing record }
  | audited {old : ChangeTask} {record : old.kind.Record} (held : node.changes id = some old)
      (phase : old.phase = .auditing record) :
      Came node event notices id { old with phase := .writing record }
  | written {old : ChangeTask} {record : old.kind.Record} (held : node.changes id = some old)
      (phase : old.phase = .writing record)
      (noticed : notices =
        [.wrote id old.kind (old.kind.key record) (old.kind.liftedAt record).isSome]) :
      Came node event notices id { old with phase := .applying record }

theorem effect_changes (effect : Effect node event after notices) {id : Nat} {task : ChangeTask}
    (inFlight : after.changes id = some task) : Came node event notices id task := by
  cases effect with
  | received kind path body headers =>
      change (node.setChange node.nextId _).changes id = some task at inFlight
      rcases held_of_fill inFlight with ⟨fresh, rfl⟩ | inFlight
      · exact .arrived fresh rfl
      · exact .kept inFlight
  | prepared other answer now old record held made =>
      rcases held_of_fill inFlight with ⟨same, rfl⟩ | inFlight
      · exact .prepared (same ▸ held) (prepare_ok made).1 (prepare_ok made).2
      · exact .kept inFlight
  | audited other nanos old record held phase =>
      rcases held_of_fill inFlight with ⟨same, rfl⟩ | inFlight
      · exact .audited (same ▸ held) phase
      · exact .kept inFlight
  | written other old record held phase =>
      rcases held_of_fill inFlight with ⟨same, rfl⟩ | inFlight
      · exact .written (same ▸ held) phase (by rw [same])
      · exact .kept inFlight
  | refused other | applied other | putFailed other =>
      exact .kept (held_of_clear inFlight)
  | reloading | listed | installed | listFailed => exact .kept inFlight

theorem recordsPrepared_step (records : RecordsPrepared node)
    (effect : Effect node event after notices) : RecordsPrepared after := by
  intro id task record inFlight made
  cases effect_changes effect inFlight with
  | kept held => exact records id task record held made
  | arrived fresh received => cases made
  | prepared held own lifts =>
      cases made
      exact ⟨own, lifts⟩
  | @audited old _ held phase =>
      cases made
      exact records id old _ held (by rw [phase]; rfl)
  | @written old _ held phase noticed =>
      cases made
      exact records id old _ held (by rw [phase]; rfl)

theorem appliedWritten_step (records : RecordsPrepared node) (written : AppliedWritten log node)
    (effect : Effect node event after notices) : AppliedWritten (notices ++ log) after := by
  intro id task record inFlight applying
  cases effect_changes effect inFlight with
  | kept held => exact List.mem_append_right _ (written id task record held applying)
  | arrived fresh received => cases applying
  | prepared held own lifts => cases applying
  | audited held phase => cases applying
  | @written old kept held phase noticed =>
      have facts := records id old kept held (by rw [phase]; rfl)
      rw [noticed]
      apply List.mem_append_left
      rw [List.mem_singleton, facts.1, facts.2]

theorem effect_store (effect : Effect node event after notices) :
    (after.store = node.store ∧ ∀ kind key, lastWritten kind key notices = none) ∨
      ∃ id task record, node.changes id = some task ∧ task.phase = .writing record ∧
        after.store = (node.putRecord task.kind record).store ∧
        notices =
          [.wrote id task.kind (task.kind.key record) (task.kind.liftedAt record).isSome] := by
  cases effect with
  | written id task record held phase =>
      exact .inr ⟨id, task, record, held, phase, rfl, rfl⟩
  | _ => exact .inl ⟨rfl, fun _ _ => rfl⟩

theorem storeCurrent_step (store : StoreCurrent log node)
    (effect : Effect node event after notices) : StoreCurrent (notices ++ log) after := by
  intro kind key lifted last
  rw [lastWritten_append] at last
  rcases effect_store effect with ⟨same, quiet⟩ | ⟨id, task, record, held, phase, stored, rfl⟩
  · rw [quiet kind key, Option.none_or] at last
    rw [same]
    exact store kind key lifted last
  · rw [stored]
    by_cases target : task.kind = kind ∧ task.kind.key record = key
    · obtain ⟨rfl, rfl⟩ := target
      have newest : (task.kind.liftedAt record).isSome = lifted := by
        simpa [lastWritten, writtenAs] using last
      exact ⟨record, by rw [get_putRecord, if_pos rfl], rfl, newest⟩
    · have skipped : lastWritten kind key log = some lifted := by
        simpa [lastWritten, writtenAs, target] using last
      obtain ⟨old, found, facts⟩ := store kind key lifted skipped
      refine ⟨old, ?_, facts⟩
      by_cases sameKind : kind = task.kind
      · subst sameKind
        have otherKey : key ≠ task.kind.key record := fun equal => target ⟨rfl, equal.symm⟩
        rw [get_putRecord, if_neg otherKey]
        exact found
      · rw [store_putRecord_of_ne node record sameKind]
        exact found

/-- A listing taken now has every key whose newest write was not lifted. -/
theorem list_contains (store : StoreCurrent log node) {kind : Kind} {key : String}
    (last : lastWritten kind key log = some false) :
    (node.list kind).table.contains key = true := by
  obtain ⟨record, found, own, fresh⟩ := store kind key false last
  apply (Active.contains_collect _ key).mpr
  refine ⟨record, (Table.mem_values_iff _ _).mpr ⟨key, found⟩, ?_, own⟩
  simpa using fresh

theorem effect_listings (effect : Effect node event after notices) {id : Nat} {task : ReloadTask}
    {kind : Kind} {active : Active kind} (inFlight : after.reloads id = some task)
    (collected : task.collected kind = some active) :
    (∃ old, node.reloads id = some old ∧ old.collected kind = some active) ∨
      active = node.list kind ∧ notices = [.listed id kind] := by
  have kept : node.reloads id = some task →
      (∃ old, node.reloads id = some old ∧ old.collected kind = some active) ∨
        active = node.list kind ∧ notices = [.listed id kind] :=
    fun held => .inl ⟨task, held, collected⟩
  cases effect with
  | reloading =>
      change (node.setReload node.nextId _).reloads id = some task at inFlight
      rcases held_of_fill inFlight with ⟨-, rfl⟩ | inFlight
      · cases collected
      · exact kept inFlight
  | listed other old listedKind held =>
      rcases held_of_fill inFlight with ⟨same, rfl⟩ | inFlight
      · subst same
        by_cases sameKind : kind = listedKind
        · subst sameKind
          simp only [Function.update_self, Option.some.injEq] at collected
          exact .inr ⟨collected.symm, rfl⟩
        · simp only [Function.update_of_ne sameKind] at collected
          exact .inl ⟨old, held, collected⟩
      · exact kept inFlight
  | installed other old view held complete =>
      change (node.setReload other none).reloads id = some task at inFlight
      exact kept (held_of_clear inFlight)
  | listFailed other =>
      exact kept (held_of_clear inFlight)
  | _ => exact kept inFlight

theorem listingsCurrent_step (store : StoreCurrent log node) (listings : ListingsCurrent log node)
    (effect : Effect node event after notices) : ListingsCurrent (notices ++ log) after := by
  intro id task kind active inFlight collected
  rcases effect_listings effect inFlight collected with ⟨old, held, was⟩ | ⟨rfl, rfl⟩
  · obtain ⟨newer, older, rfl, complete⟩ := listings id old kind active held was
    exact ⟨notices ++ newer, older, by simp, complete⟩
  · exact ⟨[], log, rfl, fun key last => list_contains store last⟩

theorem nextId_le (effect : Effect node event after notices) : node.nextId ≤ after.nextId := by
  cases effect <;> simp [setChange, setReload, putRecord, putAudit]

theorem idsBelow_step (below : IdsBelow node) (effect : Effect node event after notices) :
    IdsBelow after := by
  intro id task inFlight
  have grows := nextId_le effect
  cases effect_changes effect inFlight with
  | kept held => exact Nat.lt_of_lt_of_le (below id task held) grows
  | arrived fresh received =>
      subst received
      cases effect
      rw [fresh]
      exact Nat.lt_succ_self _
  | prepared held own lifts => exact Nat.lt_of_lt_of_le (below id _ held) grows
  | audited held phase => exact Nat.lt_of_lt_of_le (below id _ held) grows
  | written held phase noticed => exact Nat.lt_of_lt_of_le (below id _ held) grows

theorem tracked_step (tracked : Tracked log node) (effect : Effect node event after notices) :
    Tracked (notices ++ log) after where
  records := recordsPrepared_step tracked.records effect
  written := appliedWritten_step tracked.records tracked.written effect
  store := storeCurrent_step tracked.store effect
  listings := listingsCurrent_step tracked.store tracked.listings effect
  ids := idsBelow_step tracked.ids effect

theorem tracked_of_idle (idle : node.Idle) : Tracked [] node where
  records := fun id _ _ inFlight => by rw [idle.1 id] at inFlight; cases inFlight
  written := fun id _ _ inFlight => by rw [idle.1 id] at inFlight; cases inFlight
  store := fun _ _ _ last => by cases last
  listings := fun id _ _ _ inFlight => by rw [idle.2 id] at inFlight; cases inFlight
  ids := fun id _ inFlight => by rw [idle.1 id] at inFlight; cases inFlight

theorem run_tracked {allowed : List ModerationNotice → ModerationNode → ModerationEvent → Prop}
    {before : List ModerationNotice} {first : ModerationNode}
    (run : machine.Run allowed before first log node) (initial : Tracked before first) :
    Tracked log node := by
  apply run.invariant Tracked initial
  intro log state input next notices tracked permitted taken
  exact tracked_step tracked (machine_effect taken)

end Invariants

section InForce

variable {log notices : List ModerationNotice} {node after : ModerationNode}
variable {event : ModerationEvent} {kind : Kind} {key path : String}

/-- Between a request's write and now, a lift of its key wrote too: the store no longer has what
the request is about to put in the view. -/
def Overtaken (log : List ModerationNotice) (id : Nat) (kind : Kind) (key : String) : Prop :=
  ∃ newer older lifter, log = newer ++ .wrote id kind key false :: older ∧
    .wrote lifter kind key true ∈ newer

/-- A reload holds a listing without the key that it took before a request for the key wrote, and
that request has been answered since. -/
def Stale (log : List ModerationNotice) (node : ModerationNode) (id : Nat) (kind : Kind)
    (key : String) : Prop :=
  ∃ task active newer older writer path,
    node.reloads id = some task ∧ task.collected kind = some active ∧
    active.table.contains key = false ∧ log = newer ++ .listed id kind :: older ∧
    .wrote writer kind key false ∈ newer ∧ .answered writer kind path false ∈ newer

def InstallsFresh (kind : Kind) (key : String) (log : List ModerationNotice)
    (node : ModerationNode) : ModerationEvent → Prop
  | .installed id => ¬Stale log node id kind key
  | _ => True

def NoLift (kind : Kind) (key : String) : ModerationEvent → Prop
  | .receive kind' path none _ => ¬(kind' = kind ∧ kind'.keyOf path = key)
  | _ => True

/-- The step in which a request of the kind for the path is answered 200, with no other change of
its key in flight. -/
structure Acknowledged (kind : Kind) (path : String) (id : Nat) (node after : ModerationNode)
    (notices : List ModerationNotice) : Prop where
  taken : machine.next node (.applied id) = some (after, notices)
  answered : .answered id kind path false ∈ notices
  alone : ∀ other task, other ≠ id → node.changes other = some task →
    ¬(task.kind = kind ∧ task.kind.keyOf task.path = kind.keyOf path)

structure Standing (kind : Kind) (key path : String) (id : Nat) (log : List ModerationNotice)
    (node : ModerationNode) : Prop where
  active : (node.view.active kind).table.contains key = true
  last : lastWritten kind key log = some false
  noLift : ∀ other task, node.changes other = some task → task.kind = kind →
    task.kind.keyOf task.path = key → task.body.isNone = false
  listings : ∀ reload task active, node.reloads reload = some task →
    task.collected kind = some active → active.table.contains key = true ∨
      ∃ newer older, log = newer ++ .listed reload kind :: older ∧
        .wrote id kind key false ∈ newer ∧ .answered id kind path false ∈ newer

theorem contains_applyRecord {view : Moderation} {record : kind.Record} {other : Kind}
    (held : (view.active other).table.contains key = true)
    (kept : other = kind → key = kind.key record → kind.liftedAt record = none) :
    ((view.applyRecord kind record).active other).table.contains key = true := by
  rw [Moderation.applyRecord_eq]
  by_cases sameKind : other = kind
  · subst sameKind
    rw [Moderation.set_active_self, Table.contains]
    by_cases lifted : other.liftedAt record = none
    · rw [Active.get_apply_of_unlifted _ lifted]
      split
      · rfl
      · exact held
    · rw [Active.get_apply_of_lifted _ lifted]
      split
      · rename_i sameKey
        exact absurd (kept rfl sameKey) lifted
      · exact held
  · rw [Moderation.set_active_of_ne view _ sameKind]
    exact held

theorem Standing.unlifted {id : Nat} (standing : Standing kind key path id log node)
    (records : RecordsPrepared node) {other : Nat} {task : ChangeTask} {record : task.kind.Record}
    (held : node.changes other = some task) (made : recordOf task.phase = some record)
    (sameKind : task.kind = kind) (sameKey : task.kind.key record = key) :
    (task.kind.liftedAt record).isSome = false := by
  have facts := records other task record held made
  rw [facts.2]
  exact standing.noLift other task held sameKind (facts.1.symm.trans sameKey)

theorem Standing.active_step {id : Nat} (standing : Standing kind key path id log node)
    (tracked : Tracked log node) (fresh : InstallsFresh kind key log node event)
    (effect : Effect node event after notices) :
    (after.view.active kind).table.contains key = true := by
  cases effect with
  | applied other task record held phase =>
      apply contains_applyRecord standing.active
      intro sameKind sameKey
      have unlifted := standing.unlifted tracked.records held (by rw [phase]; rfl) sameKind.symm
        sameKey.symm
      simpa using unlifted
  | installed reload task view held complete =>
      have collected := ReloadTask.view_active complete kind
      rcases standing.listings reload task _ held collected with
        present | ⟨newer, older, history, wrote, answered⟩
      · exact present
      · by_contra absent
        exact fresh ⟨task, _, newer, older, id, path, held, collected, by simpa using absent,
          history, wrote, answered⟩
  | _ => exact standing.active

theorem Standing.last_step {id : Nat} (standing : Standing kind key path id log node)
    (tracked : Tracked log node) (effect : Effect node event after notices) :
    lastWritten kind key (notices ++ log) = some false := by
  rw [lastWritten_append, standing.last]
  rcases effect_store effect with ⟨-, quiet⟩ | ⟨other, task, record, held, phase, -, rfl⟩
  · rw [quiet kind key]
    rfl
  · by_cases target : task.kind = kind ∧ task.kind.key record = key
    · have unlifted := standing.unlifted tracked.records held (by rw [phase]; rfl) target.1 target.2
      simp [lastWritten, writtenAs, target, unlifted]
    · simp [lastWritten, writtenAs, target]

theorem Standing.noLift_step {id : Nat} (standing : Standing kind key path id log node)
    (noLift : NoLift kind key event) (effect : Effect node event after notices) :
    ∀ other task, after.changes other = some task → task.kind = kind →
      task.kind.keyOf task.path = key → task.body.isNone = false := by
  intro other task inFlight sameKind sameKey
  cases effect_changes effect inFlight with
  | kept held => exact standing.noLift other task held sameKind sameKey
  | @arrived kind' path' body headers _ received =>
      subst received
      cases body with
      | some body => rfl
      | none => exact absurd ⟨sameKind, sameKey⟩ noLift
  | @prepared old _ held _ _ => exact standing.noLift other old held sameKind sameKey
  | @audited old _ held _ => exact standing.noLift other old held sameKind sameKey
  | @written old _ held _ _ => exact standing.noLift other old held sameKind sameKey

theorem standing_step {id : Nat} (standing : Standing kind key path id log node)
    (tracked : Tracked log node) (noLift : NoLift kind key event)
    (fresh : InstallsFresh kind key log node event) (effect : Effect node event after notices) :
    Standing kind key path id (notices ++ log) after where
  active := standing.active_step tracked fresh effect
  last := standing.last_step tracked effect
  noLift := standing.noLift_step noLift effect
  listings := by
    intro reload task active inFlight collected
    rcases effect_listings effect inFlight collected with ⟨old, held, was⟩ | ⟨rfl, rfl⟩
    · rcases standing.listings reload old active held was with
        present | ⟨newer, older, rfl, wrote, answered⟩
      · exact .inl present
      · exact .inr ⟨notices ++ newer, older, by simp, List.mem_append_right _ wrote,
          List.mem_append_right _ answered⟩
    · exact .inl (list_contains tracked.store standing.last)

theorem standing_of_answered {id : Nat} (tracked : Tracked log node)
    (acknowledged : Acknowledged kind path id node after notices)
    (settled : ¬Overtaken log id kind (kind.keyOf path)) :
    Standing kind (kind.keyOf path) path id (notices ++ log) after := by
  rcases acknowledged with ⟨taken, answered, alone⟩
  cases machine_effect taken with
  | applied _ task record held phase =>
      have facts := tracked.records id task record held (by rw [phase]; rfl)
      have wrote := tracked.written id task record held phase
      simp only [List.mem_singleton, ModerationNotice.answered.injEq, true_and] at answered
      obtain ⟨rfl, rfl, unlifted⟩ := answered
      rw [← facts.2, ← unlifted] at wrote
      obtain ⟨newer, older, rfl⟩ := List.append_of_mem wrote
      have quiet : ∀ lifter, .wrote lifter task.kind (task.kind.keyOf task.path) true ∉ newer :=
        fun lifter member => settled ⟨newer, older, lifter, rfl, member⟩
      have last := lastWritten_of_settled older id quiet
      refine ⟨?_, ?_, ?_, ?_⟩
      · change ((node.view.applyRecord task.kind record).active task.kind).table.contains _ = true
        rw [Moderation.applyRecord_eq, Moderation.set_active_self, Table.contains,
          Active.get_apply_of_unlifted _ (by simpa using unlifted.symm), facts.1, if_pos rfl]
        rfl
      · rw [lastWritten_append, last]
        rfl
      · intro other change inFlight sameKind sameKey
        rw [show ({ node.setChange id none with
            view := node.view.applyRecord task.kind record } : ModerationNode).changes other =
              (node.setChange id none).changes other from rfl, setChange_changes] at inFlight
        split at inFlight
        · cases inFlight
        · rename_i different
          exact absurd ⟨sameKind, sameKey⟩ (alone other change different inFlight)
      · intro reload change active inFlight collected
        obtain ⟨later, earlier, history, complete⟩ :=
          tracked.listings reload change task.kind active inFlight collected
        rcases order_of_two (by simp) history with newest | ⟨between, rfl, rfl⟩
        · refine .inr ⟨.answered id task.kind task.path false :: later, earlier, ?_, ?_, ?_⟩
          · rw [history, ← unlifted]
            rfl
          · exact List.mem_cons_of_mem _ newest
          · exact List.mem_cons_self
        · have seen := lastWritten_of_settled older id fun lifter member =>
            quiet lifter (List.mem_append_right _ (List.mem_cons_of_mem _ member))
          exact .inl (complete _ seen)

/-- An acknowledged action stays in force until a lift for its key is received: whatever runs
between, if its own write was not overtaken by a lift's before it was answered, and no stale listing
is installed after. -/
theorem acknowledged_action_stays_in_force {start : ModerationNode} (idle : start.Idle)
    (before : machine.Run (fun _ _ _ => True) [] start log node) {id : Nat}
    (acknowledged : Acknowledged kind path id node after notices)
    (settled : ¬Overtaken log id kind (kind.keyOf path))
    {history : List ModerationNotice} {later : ModerationNode}
    (run : machine.Run
      (fun log node event =>
        NoLift kind (kind.keyOf path) event ∧ InstallsFresh kind (kind.keyOf path) log node event)
      (notices ++ log) after history later) :
    later.view.inForce kind path = true := by
  have tracked := run_tracked before (tracked_of_idle idle)
  have answering := tracked_step tracked (machine_effect acknowledged.taken)
  have reached := run.invariant
    (fun log node => Tracked log node ∧ Standing kind (kind.keyOf path) path id log node)
    ⟨answering, standing_of_answered tracked acknowledged settled⟩
    (by
      intro log state input next notices holds permitted moved
      have step := machine_effect moved
      exact ⟨tracked_step holds.1 step,
        standing_step holds.2 holds.1 permitted.1 permitted.2 step⟩)
  exact Moderation.inForce_of_contains _ kind path reached.2.active

end InForce

section Sample

def reliable : ModerationEvent → Bool
  | .putFailed _ | .listFailed _ => false
  | _ => true

def noLiftCheck (kind : Kind) (key : String) : ModerationEvent → Bool
  | .receive kind' path none _ => !(decide (kind' = kind) && decide (kind'.keyOf path = key))
  | _ => true

theorem noLift_of_check {kind : Kind} {key : String} {event : ModerationEvent}
    (checked : noLiftCheck kind key event = true) : NoLift kind key event := by
  cases event with
  | receive kind' path body headers =>
      cases body with
      | some body => trivial
      | none => simpa [noLiftCheck, NoLift, ← not_and_or] using checked
  | _ => trivial

def freshCheck (kind : Kind) (key : String) (log : List ModerationNotice) : ModerationEvent → Bool
  | .installed id => (List.range log.length).all fun n =>
      decide (log[n]? ≠ some (.listed id kind)) ||
        (log.take n).all fun notice => decide (writtenAs kind key notice ≠ some false)
  | _ => true

theorem installsFresh_of_check {kind : Kind} {key : String} {log : List ModerationNotice}
    {node : ModerationNode} {event : ModerationEvent}
    (checked : freshCheck kind key log event = true) : InstallsFresh kind key log node event := by
  cases event with
  | installed id =>
      rintro ⟨task, active, newer, older, writer, path, -, -, -, rfl, wrote, -⟩
      have here := List.all_eq_true.mp checked newer.length (by simp)
      have unwritten : writtenAs kind key (.wrote writer kind key false) ≠ some false := by
        simp only [List.getElem?_append_right le_rfl, Nat.sub_self, List.getElem?_cons_zero, ne_eq,
          not_true_eq_false, decide_false, Bool.false_or, List.take_left, List.all_eq_true] at here
        exact of_decide_eq_true (here _ wrote)
      exact unwritten (by simp [writtenAs])
  | _ => trivial

def acknowledges (kind : Kind) (path : String) (id : Nat) (node : ModerationNode) : Bool :=
  (machine.next node (.applied id)).any
      (fun moved => decide (.answered id kind path false ∈ moved.2)) &&
    (List.range node.nextId).all fun other => decide (other = id) ||
      (node.changes other).all fun task =>
        !(decide (task.kind = kind) && decide (task.kind.keyOf task.path = kind.keyOf path))

def endsWith (kind : Kind) (path : String) (id : Nat) (past : List ModerationNotice → Bool)
    (check : List ModerationNotice → ModerationEvent → Bool) (inputs : List ModerationEvent)
    (inForce : Bool) (log : List ModerationNotice) (node : ModerationNode) : Bool :=
  past log && acknowledges kind path id node &&
    (machine.next node (.applied id)).any fun moved =>
      (machine.execute (fun log _ event => check log event) inputs (moved.2 ++ log) moved.1).any
        fun ended => decide (ended.2.view.inForce kind path = inForce)

theorem endsWith_run {kind : Kind} {path : String} {id : Nat} {past : List ModerationNotice → Bool}
    {check : List ModerationNotice → ModerationEvent → Bool}
    {first rest : List ModerationEvent} {inForce : Bool} {start : ModerationNode} (idle : start.Idle)
    (executed : (machine.execute (fun _ _ event => reliable event) first [] start).map
      (fun ended => endsWith kind path id past check rest inForce ended.1 ended.2) = some true) :
    ∃ log node after notices history later,
      machine.Run (fun _ _ event => reliable event = true) [] start log node ∧ past log = true ∧
      Acknowledged kind path id node after notices ∧
      machine.Run (fun log _ event => check log event = true) (notices ++ log) after history later ∧
      later.view.inForce kind path = inForce := by
  rcases Machine.execute_reaches (fun _ _ _ checked => checked) first
    (endsWith kind path id past check rest inForce) executed with ⟨log, node, run, shown⟩
  simp only [endsWith, acknowledges, Bool.and_eq_true, Option.any_eq_true, decide_eq_true_eq]
    at shown
  rcases shown with ⟨⟨passed, ⟨⟨_, _⟩, taken, answered⟩, alone⟩, ⟨after, notices⟩, moved,
    ⟨history, later⟩, ended, ends⟩
  obtain ⟨rfl, rfl⟩ := Prod.mk.inj (Option.some.inj (taken.symm.trans moved))
  refine ⟨log, node, _, _, history, later, run, passed, ⟨taken, answered, ?_⟩,
    Machine.execute_run (fun _ _ _ checked => checked) rest ended, ends⟩
  intro other task different inFlight
  have below := (run_tracked run (tracked_of_idle idle)).ids other task inFlight
  have checked := List.all_eq_true.mp alone other (List.mem_range.mpr below)
  simpa [different, inFlight, ← not_and_or] using checked

def sampleOperator : VerifiedClaims :=
  { VerifiedClaims.bare "client:trust" "trust" with arkavoRoles := some ["service-account"] }

def sampleHeaders : Headers := [("authorization", "Bearer t")]

def sampleNode : ModerationNode where
  view := Moderation.empty
  policy :=
    { entitlement := none, audience := none, sessionTtl := 0, operatorClientIds := ["trust"],
      decider := { mode := .local, provider := false, entitlement := defaultPublishEntitlement,
                   environment := none } }
  store := fun _ => Table.empty
  audit := Table.empty
  nextId := 0
  changes := fun _ => none
  reloads := fun _ => none

theorem sampleNode_idle : sampleNode.Idle := ⟨fun _ => rfl, fun _ => rfl⟩

def sampleWrite (id : Nat) (body : Option ActionRequest) : List ModerationEvent :=
  [.receive .suspensions "alice" body sampleHeaders, .verified id (.ok sampleOperator) 1000,
    .audited id id, .written id]

def sampleAction : ActionRequest := { reason := "spam", reportId := none, hideCatalog := false }

def sampleReload (id : Nat) : List ModerationEvent := [.listed id, .listed id, .installed id]

def listedBefore : List ModerationEvent :=
  [.reload, .listed 0] ++ sampleWrite 1 (some sampleAction)

def liftedBetween : List ModerationEvent :=
  sampleWrite 0 (some sampleAction) ++ [.applied 0] ++ sampleWrite 1 (some sampleAction) ++
    sampleWrite 2 none ++ [.applied 2]

def followCheck (fresh : Bool) (log : List ModerationNotice) (event : ModerationEvent) : Bool :=
  reliable event && noLiftCheck .suspensions "alice" event &&
    (!fresh || freshCheck .suspensions "alice" log event)

def unliftedCheck (log : List ModerationNotice) : Bool :=
  log.all fun notice => decide (writtenAs .suspensions "alice" notice ≠ some true)

theorem not_overtaken_of_check (id : Nat) {log : List ModerationNotice}
    (checked : unliftedCheck log = true) : ¬Overtaken log id .suspensions "alice" := by
  rintro ⟨newer, older, lifter, rfl, member⟩
  have here := List.all_eq_true.mp checked _ (List.mem_append_left _ member)
  exact of_decide_eq_true here (by simp [writtenAs])

private theorem listedBefore_executed :
    (machine.execute (fun _ _ event => reliable event) listedBefore [] sampleNode).map
      (fun ended => endsWith .suspensions "alice" 1 unliftedCheck (followCheck false)
        (sampleReload 0) false ended.1 ended.2) = some true := by
  decide +kernel

private theorem liftedBetween_executed :
    (machine.execute (fun _ _ event => reliable event) liftedBetween [] sampleNode).map
      (fun ended => endsWith .suspensions "alice" 1 (fun _ => true) (followCheck true)
        ([.reload, .listed 3] ++ sampleReload 3) false ended.1 ended.2) = some true := by
  decide +kernel

private theorem suspended_executed :
    (machine.execute (fun _ _ event => reliable event) (sampleWrite 0 (some sampleAction)) []
      sampleNode).map
      (fun ended => endsWith .suspensions "alice" 0 unliftedCheck (followCheck true)
        ([.reload, .listed 1] ++ sampleReload 1) true ended.1 ended.2) = some true := by
  decide +kernel

theorem follows_of_check (node : ModerationNode) {log : List ModerationNotice}
    {event : ModerationEvent} (checked : followCheck true log event = true) :
    NoLift .suspensions "alice" event ∧ InstallsFresh .suspensions "alice" log node event := by
  simp only [followCheck, Bool.not_true, Bool.false_or, Bool.and_eq_true] at checked
  exact ⟨noLift_of_check checked.1.2, installsFresh_of_check checked.2⟩

/-- The action lapses with no lift received and a store that never fails: when a reload installs what
it listed before the request's write; and, once a lift has overtaken the request's write, when a
reload follows that lists after the answer. -/
theorem acknowledged_action_lapses :
    (∃ log node after notices history later,
      machine.Run (fun _ _ event => reliable event = true) [] sampleNode log node ∧
      ¬Overtaken log 1 .suspensions "alice" ∧
      Acknowledged .suspensions "alice" 1 node after notices ∧
      machine.Run (fun _ _ event => reliable event = true ∧ NoLift .suspensions "alice" event)
        (notices ++ log) after history later ∧
      later.view.isSuspended "alice" = false) ∧
    ∃ log node after notices history later,
      machine.Run (fun _ _ event => reliable event = true) [] sampleNode log node ∧
      Acknowledged .suspensions "alice" 1 node after notices ∧
      machine.Run (fun log node event => reliable event = true ∧ NoLift .suspensions "alice" event ∧
        InstallsFresh .suspensions "alice" log node event) (notices ++ log) after history later ∧
      later.view.isSuspended "alice" = false := by
  constructor
  · rcases endsWith_run sampleNode_idle listedBefore_executed with
      ⟨log, node, after, notices, history, later, before, passed, acknowledged, run, lapsed⟩
    refine ⟨log, node, after, notices, history, later, before, not_overtaken_of_check 1 passed,
      acknowledged, run.mono ?_, lapsed⟩
    intro log node event checked
    simp only [followCheck, Bool.and_eq_true] at checked
    exact ⟨checked.1.1, noLift_of_check checked.1.2⟩
  · rcases endsWith_run sampleNode_idle liftedBetween_executed with
      ⟨log, node, after, notices, history, later, before, -, acknowledged, run, lapsed⟩
    refine ⟨log, node, after, notices, history, later, before, acknowledged, run.mono ?_, lapsed⟩
    intro log node event checked
    have follows := follows_of_check node checked
    simp only [followCheck, Bool.and_eq_true] at checked
    exact ⟨checked.1.1, follows⟩

theorem acknowledged_action_stays_in_force_reloaded :
    ∃ log node after notices history later,
      machine.Run (fun _ _ _ => True) [] sampleNode log node ∧
      Acknowledged .suspensions "alice" 0 node after notices ∧
      ¬Overtaken log 0 .suspensions "alice" ∧
      machine.Run (fun log node event => NoLift .suspensions "alice" event ∧
        InstallsFresh .suspensions "alice" log node event) (notices ++ log) after history later ∧
      later.view.inForce .suspensions "alice" = true := by
  rcases endsWith_run sampleNode_idle suspended_executed with
    ⟨log, node, after, notices, history, later, before, passed, acknowledged, run, -⟩
  have unguarded := before.mono (fun _ _ _ _ => trivial)
  have settled := not_overtaken_of_check 0 passed
  have guarded := run.mono fun log node event checked => follows_of_check node checked
  exact ⟨log, node, after, notices, history, later, unguarded, acknowledged, settled, guarded,
    acknowledged_action_stays_in_force sampleNode_idle unguarded acknowledged settled guarded⟩

end Sample

end ModerationNode

end TdfIrohS3
