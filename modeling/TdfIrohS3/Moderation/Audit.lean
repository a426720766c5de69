import TdfIrohS3.Moderation.Fleet
import TdfIrohS3.Library.Slots

namespace TdfIrohS3

open Library

def auditedRecord {kind : Kind} : ChangePhase kind → Option kind.Record
  | .verifying | .auditing _ => none
  | .writing record | .applying record => some record

namespace ModerationNode

variable {node after : ModerationNode} {event : ModerationEvent}
variable {notices : List ModerationNotice}

inductive AuditCame (node : ModerationNode) (event : ModerationEvent) (id : Nat) :
    ChangeTask → Prop
  | kept {task : ChangeTask} (held : node.changes id = some task) : AuditCame node event id task
  | unaudited {task : ChangeTask} (none : auditedRecord task.phase = none) :
      AuditCame node event id task
  | audited {old : ChangeTask} {record : old.kind.Record} {nanos : Nat}
      (read : event = .audited id nanos) (held : node.changes id = some old)
      (phase : old.phase = .auditing record) :
      AuditCame node event id { old with phase := .writing record }
  | written {old : ChangeTask} {record : old.kind.Record} (held : node.changes id = some old)
      (phase : old.phase = .writing record) :
      AuditCame node event id { old with phase := .applying record }

theorem auditCame_of_set {other id : Nat} {moved task : ChangeTask}
    (new : id = other → AuditCame node event id moved)
    (inFlight : (node.setChange other (some moved)).changes id = some task) :
    AuditCame node event id task := by
  rcases held_of_fill inFlight with ⟨same, rfl⟩ | inFlight
  · exact new same
  · exact .kept inFlight

theorem effect_auditCame (effect : Effect node event after notices) {id : Nat} {task : ChangeTask}
    (inFlight : after.changes id = some task) : AuditCame node event id task := by
  cases effect with
  | received kind path body headers => exact auditCame_of_set (fun _ => .unaudited rfl) inFlight
  | prepared other answer now old record held made =>
      exact auditCame_of_set (fun _ => .unaudited rfl) inFlight
  | audited other nanos old record held phase =>
      refine auditCame_of_set ?_ inFlight
      intro same
      subst same
      exact .audited rfl held phase
  | written other old record held phase =>
      refine auditCame_of_set ?_ inFlight
      intro same
      subst same
      exact .written held phase
  | refused other | applied other | putFailed other =>
      exact .kept (held_of_clear inFlight)
  | _ => exact .kept inFlight

theorem effect_audit (effect : Effect node event after notices) :
    (after.audit = node.audit ∧ ∀ id nanos, event ≠ .audited id nanos) ∨
      ∃ id nanos task record, event = .audited id nanos ∧ node.changes id = some task ∧
        task.phase = .auditing record ∧
        after.audit = (node.putAudit task record nanos).audit := by
  cases effect with
  | audited id nanos task record held phase =>
      exact .inr ⟨id, nanos, task, record, rfl, held, phase, rfl⟩
  | _ => exact .inl ⟨rfl, fun _ _ => nofun⟩

end ModerationNode

namespace Fleet

/-- The assumption on the clocks: no audit write reads a value of `10^20` ns or more, or one that
another write for the same key has read. -/
def ClocksApart (log : List FleetNotice) (fleet : Fleet) : FleetEvent → Prop
  | .node node (.audited id nanos) =>
      nanos < clockLimit ∧ ∀ task record, (fleet.nodes node).changes id = some task →
        task.phase = .auditing record →
        ∀ other id', .audited other id' task.kind (task.kind.key record) nanos ∉ log
  | _ => True

structure Fresh (fleet : Fleet) : Prop where
  store : ∀ kind, fleet.store kind = Table.empty
  audit : fleet.audit = Table.empty
  changes : ∀ node id, (fleet.nodes node).changes id = none

def HasEvent (log : List FleetNotice) (audit : Table String AuditEvent) (node id : Nat)
    (kind : Kind) (record : kind.Record) : Prop :=
  ∃ nanos action, .audited node id kind (kind.key record) nanos ∈ log ∧
    audit.get (auditKey kind (kind.key record) nanos) = some ⟨action, kind, record⟩

structure Recorded (log : List FleetNotice) (fleet : Fleet) : Prop where
  clocks : ∀ node id kind key nanos, .audited node id kind key nanos ∈ log → nanos < clockLimit
  unique : ∀ node id node' id' kind key nanos, .audited node id kind key nanos ∈ log →
    .audited node' id' kind key nanos ∈ log → node' = node ∧ id' = id
  events : ∀ place event, fleet.audit.get place = some event →
    ∃ node id kind key nanos, .audited node id kind key nanos ∈ log ∧
      place = auditKey kind key nanos
  tasks : ∀ node id task record, (fleet.nodes node).changes id = some task →
    auditedRecord task.phase = some record → HasEvent log fleet.audit node id task.kind record
  store : ∀ kind key body, (fleet.store kind).get key = some body →
    ∃ record node id, body = some record ∧ kind.key record = key ∧
      HasEvent log fleet.audit node id kind record
  answered : ∀ node id kind record, .answered node id kind record ∈ log →
    HasEvent log fleet.audit node id kind record

variable {fleet after : Fleet} {log notices : List FleetNotice} {event : FleetEvent}

theorem HasEvent.mono {audit grown : Table String AuditEvent} {node id : Nat} {kind : Kind}
    {record : kind.Record} (has : HasEvent log audit node id kind record)
    (keeps : ∀ place event, audit.get place = some event → grown.get place = some event) :
    HasEvent (notices ++ log) grown node id kind record := by
  obtain ⟨nanos, action, noticed, stored⟩ := has
  exact ⟨nanos, action, List.mem_append_right _ noticed, keeps _ _ stored⟩

theorem recorded_fresh (fresh : Fresh fleet) : Recorded [] fleet := by
  refine ⟨?_, ?_, ?_, ?_, ?_, ?_⟩
  · intro node id kind key nanos seen
    cases seen
  · intro node id node' id' kind key nanos seen
    cases seen
  · intro place event stored
    rw [fresh.audit] at stored
    cases stored
  · intro node id task record held
    rw [fresh.changes] at held
    cases held
  · intro kind key body stored
    rw [fresh.store] at stored
    cases stored
  · intro node id kind record seen
    cases seen

inductive Effect (fleet : Fleet) : FleetEvent → Fleet → List FleetNotice → Prop
  | node {node : Nat} {event : ModerationEvent} {moved : ModerationNode}
      {seen : List ModerationNotice}
      (effect : ModerationNode.Effect (fleet.at_ node) event moved seen) :
      Effect fleet (.node node event) (fleet.set node moved)
        (fleet.told node event ++ seen.map (.node node))
  | stopped (node id : Nat) :
      Effect fleet (.stopped node id) (fleet.set node ((fleet.at_ node).setChange id none)) []

theorem machine_effect (taken : fleetMachine.next fleet event = some (after, notices)) :
    Effect fleet event after notices := by
  cases event with
  | node node nodeEvent =>
      simp only [fleetMachine, next] at taken
      split at taken
      · cases taken
      · rename_i moved seen stepped
        cases taken
        exact .node (ModerationNode.machine_effect stepped)
  | stopped node id =>
      cases taken
      exact .stopped node id

theorem set_nodes (fleet : Fleet) (node other : Nat) (moved : ModerationNode) :
    (fleet.set node moved).nodes other = if other = node then moved else fleet.nodes other :=
  Function.update_apply _ _ _ _

theorem told_cases {node : Nat} {nodeEvent : ModerationEvent} {notice : FleetNotice}
    (here : notice ∈ fleet.told node nodeEvent) :
    (∃ id nanos task record, nodeEvent = .audited id nanos ∧
      (fleet.nodes node).changes id = some task ∧ task.phase = .auditing record ∧
      notice = .audited node id task.kind (task.kind.key record) nanos) ∨
    ∃ id task record, (fleet.nodes node).changes id = some task ∧
      task.phase = .applying record ∧ notice = .answered node id task.kind record := by
  unfold told at here
  split at here
  · split at here
    · rename_i task held
      split at here
      · rename_i record phase
        exact .inl ⟨_, _, task, record, rfl, held, phase, List.mem_singleton.mp here⟩
      · cases here
    · cases here
  · split at here
    · rename_i task held
      split at here
      · rename_i record phase
        exact .inr ⟨_, task, record, held, phase, List.mem_singleton.mp here⟩
      · cases here
    · cases here
  · cases here

theorem audited_told {node node' id : Nat} {kind : Kind} {key : String} {nanos : Nat}
    {nodeEvent : ModerationEvent} {seen : List ModerationNotice}
    (member : .audited node' id kind key nanos ∈
      fleet.told node nodeEvent ++ seen.map (.node node)) :
    node' = node ∧ nodeEvent = .audited id nanos ∧ ∃ task record,
      (fleet.nodes node).changes id = some task ∧ task.phase = .auditing record ∧
      kind = task.kind ∧ key = task.kind.key record := by
  rcases List.mem_append.mp member with here | mapped
  · rcases told_cases here with
      ⟨_, _, task, record, rfl, held, phase, same⟩ | ⟨_, _, _, _, _, other⟩
    · cases same
      exact ⟨rfl, rfl, task, record, held, phase, rfl, rfl⟩
    · cases other
  · simp at mapped

theorem answered_told {node node' id : Nat} {kind : Kind} {record : kind.Record}
    {nodeEvent : ModerationEvent} {seen : List ModerationNotice}
    (member : .answered node' id kind record ∈
      fleet.told node nodeEvent ++ seen.map (.node node)) :
    node' = node ∧ ∃ task made, (fleet.nodes node).changes id = some task ∧
      task.phase = .applying made ∧
      (⟨kind, record⟩ : Sigma Kind.Record) = ⟨task.kind, made⟩ := by
  rcases List.mem_append.mp member with here | mapped
  · rcases told_cases here with
      ⟨_, _, _, _, _, _, _, other⟩ | ⟨_, task, made, held, phase, same⟩
    · cases other
    · cases same
      exact ⟨rfl, task, made, held, phase, rfl⟩
  · simp at mapped

theorem told_audited {node id nanos : Nat} {task : ChangeTask} {record : task.kind.Record}
    (held : (fleet.nodes node).changes id = some task) (phase : task.phase = .auditing record) :
    fleet.told node (.audited id nanos) =
      [.audited node id task.kind (task.kind.key record) nanos] := by
  simp only [told, held]
  rw [phase]

theorem get_putAudit (node : ModerationNode) (task : ChangeTask) (record : task.kind.Record)
    (nanos : Nat) (place : String) :
    (node.putAudit task record nanos).audit.get place =
      if place = auditKey task.kind (task.kind.key record) nanos then
        some ⟨actionName task.kind task.body.isNone, task.kind, record⟩
      else node.audit.get place :=
  Table.get_insert _ _ _ _

theorem audit_cases {node : Nat} {nodeEvent : ModerationEvent} {moved : ModerationNode}
    {seen : List ModerationNotice}
    (effect : ModerationNode.Effect (fleet.at_ node) nodeEvent moved seen) :
    ((fleet.set node moved).audit = fleet.audit ∧ ∀ id nanos, nodeEvent ≠ .audited id nanos) ∨
      ∃ id nanos task record, nodeEvent = .audited id nanos ∧
        (fleet.nodes node).changes id = some task ∧ task.phase = .auditing record ∧
        ∀ place, (fleet.set node moved).audit.get place =
          if place = auditKey task.kind (task.kind.key record) nanos then
            some ⟨actionName task.kind task.body.isNone, task.kind, record⟩
          else fleet.audit.get place := by
  rcases ModerationNode.effect_audit effect with
    ⟨same, other⟩ | ⟨id, nanos, task, record, read, held, phase, put⟩
  · exact .inl ⟨same, other⟩
  · refine .inr ⟨id, nanos, task, record, read, held, phase, ?_⟩
    intro place
    change moved.audit.get place = _
    rw [put]
    exact get_putAudit _ task record nanos place

/-- No event is overwritten: a key that is put is new. -/
theorem keeps_step (recorded : Recorded log fleet) (apart : ClocksApart log fleet event)
    (effect : Effect fleet event after notices) (place : String) (stored : AuditEvent)
    (found : fleet.audit.get place = some stored) : after.audit.get place = some stored := by
  cases effect with
  | stopped node id => exact found
  | node effect =>
      rcases audit_cases effect with
        ⟨same, -⟩ | ⟨id, nanos, task, record, rfl, held, phase, put⟩
      · rw [same]
        exact found
      · have fresh : place ≠ auditKey task.kind (task.kind.key record) nanos := by
          intro reused
          obtain ⟨other, id', kind, key, nanos', noticed, named⟩ :=
            recorded.events place stored found
          obtain ⟨rfl, rfl, rfl⟩ := auditKey_injective (recorded.clocks _ _ _ _ _ noticed) apart.1
            (named.symm.trans reused)
          exact apart.2 task record held phase other id' noticed
        rw [put place, if_neg fresh]
        exact found

section Preserved

variable (recorded : Recorded log fleet) (apart : ClocksApart log fleet event)
variable (effect : Effect fleet event after notices)

include recorded apart effect

theorem clocks_step (node id : Nat) (kind : Kind) (key : String) (nanos : Nat)
    (member : .audited node id kind key nanos ∈ notices ++ log) : nanos < clockLimit := by
  rcases List.mem_append.mp member with new | old
  · cases effect with
    | stopped other id' => cases new
    | node effect =>
        obtain ⟨rfl, rfl, -⟩ := audited_told new
        exact apart.1
  · exact recorded.clocks node id kind key nanos old

theorem unique_step (node id node' id' : Nat) (kind : Kind) (key : String) (nanos : Nat)
    (one : .audited node id kind key nanos ∈ notices ++ log)
    (two : .audited node' id' kind key nanos ∈ notices ++ log) : node' = node ∧ id' = id := by
  -- A new event reads a clock value that no earlier event of its key has read.
  have apart' : ∀ node id node' id', .audited node id kind key nanos ∈ notices →
      .audited node' id' kind key nanos ∉ log := by
    intro node id node' id' new old
    cases effect with
    | stopped other id' => cases new
    | node effect =>
        obtain ⟨rfl, rfl, task, record, held, phase, rfl, rfl⟩ := audited_told new
        exact apart.2 task record held phase node' id' old
  rcases List.mem_append.mp one with new | old
  · rcases List.mem_append.mp two with new' | old'
    · cases effect with
      | stopped other id' => cases new
      | node effect =>
          obtain ⟨rfl, rfl, -⟩ := audited_told new
          obtain ⟨rfl, same, -⟩ := audited_told new'
          cases same
          exact ⟨rfl, rfl⟩
    · exact absurd old' (apart' node id node' id' new)
  · rcases List.mem_append.mp two with new' | old'
    · exact absurd old (apart' node' id' node id new')
    · exact recorded.unique node id node' id' kind key nanos old old'

omit apart in
theorem events_step (place : String) (stored : AuditEvent)
    (found : after.audit.get place = some stored) :
    ∃ node id kind key nanos, .audited node id kind key nanos ∈ notices ++ log ∧
      place = auditKey kind key nanos := by
  have old : fleet.audit.get place = some stored →
      ∃ node id kind key nanos, .audited node id kind key nanos ∈ notices ++ log ∧
        place = auditKey kind key nanos := by
    intro held
    obtain ⟨node, id, kind, key, nanos, noticed, named⟩ := recorded.events place stored held
    exact ⟨node, id, kind, key, nanos, List.mem_append_right _ noticed, named⟩
  cases effect with
  | stopped node id => exact old found
  | @node node nodeEvent moved seen effect =>
      rcases audit_cases effect with
        ⟨same, -⟩ | ⟨id, nanos, task, record, rfl, held, phase, put⟩
      · exact old (same ▸ found)
      · rw [put place] at found
        split at found
        · rename_i named
          refine ⟨node, id, task.kind, task.kind.key record, nanos, ?_, named⟩
          rw [told_audited held phase]
          simp
        · exact old found

theorem stepped_task {node : Nat} {nodeEvent : ModerationEvent} {moved : ModerationNode}
    {seen : List ModerationNotice} (same : event = .node node nodeEvent)
    (reached : after = fleet.set node moved)
    (told : notices = fleet.told node nodeEvent ++ seen.map (.node node))
    (stepped : ModerationNode.Effect (fleet.at_ node) nodeEvent moved seen) {id : Nat}
    {task : ChangeTask} {record : task.kind.Record} (held : moved.changes id = some task)
    (made : auditedRecord task.phase = some record) :
    HasEvent (notices ++ log) after.audit node id task.kind record := by
  have keeps := keeps_step recorded apart effect
  cases ModerationNode.effect_auditCame stepped held with
  | kept before => exact (recorded.tasks node id task record before made).mono keeps
  | unaudited none =>
      rw [none] at made
      cases made
  | @audited old prepared nanos read before phase =>
      cases made
      subst read reached told
      rcases audit_cases stepped with
        ⟨-, other⟩ | ⟨id', nanos', task', record', same', held', phase', put⟩
      · exact absurd rfl (other id nanos)
      · cases same'
        cases before.symm.trans held'
        cases phase.symm.trans phase'
        refine ⟨nanos, actionName old.kind old.body.isNone, ?_, ?_⟩
        · rw [told_audited held' phase']
          simp
        · rw [put, if_pos rfl]
  | @written old prepared before phase =>
      cases made
      exact (recorded.tasks node id old prepared before (by rw [phase]; rfl)).mono keeps

theorem tasks_step (node id : Nat) (task : ChangeTask) (record : task.kind.Record)
    (held : (after.nodes node).changes id = some task)
    (made : auditedRecord task.phase = some record) :
    HasEvent (notices ++ log) after.audit node id task.kind record := by
  have keeps := keeps_step recorded apart effect
  have old : (fleet.nodes node).changes id = some task →
      HasEvent (notices ++ log) after.audit node id task.kind record :=
    fun before => (recorded.tasks node id task record before made).mono keeps
  cases effect with
  | stopped other id' =>
      rw [set_nodes] at held
      split at held
      · rename_i same
        exact old (same ▸ (held_of_clear held))
      · exact old held
  | node stepped =>
      rw [set_nodes] at held
      split at held
      · rename_i same
        subst same
        exact stepped_task recorded apart (.node stepped) rfl rfl rfl stepped held made
      · exact old held

theorem store_step (kind : Kind) (key : String) (body : Option kind.Record)
    (found : (after.store kind).get key = some body) :
    ∃ record node id, body = some record ∧ kind.key record = key ∧
      HasEvent (notices ++ log) after.audit node id kind record := by
  have keeps := keeps_step recorded apart effect
  have old : (fleet.store kind).get key = some body →
      ∃ record node id, body = some record ∧ kind.key record = key ∧
        HasEvent (notices ++ log) after.audit node id kind record := by
    intro held
    obtain ⟨record, node, id, readable, own, has⟩ := recorded.store kind key body held
    exact ⟨record, node, id, readable, own, has.mono keeps⟩
  cases effect with
  | stopped node id => exact old found
  | @node node nodeEvent moved seen stepped =>
      change (moved.store kind).get key = some body at found
      rcases ModerationNode.effect_store stepped with
        ⟨same, -⟩ | ⟨id, task, record, held, phase, put, -⟩
      · rw [same] at found
        exact old found
      · rw [put] at found
        by_cases target : kind = task.kind
        · subst target
          rw [ModerationNode.get_putRecord] at found
          split at found
          · rename_i own
            cases found
            have has := recorded.tasks node id task record held (by rw [phase]; rfl)
            exact ⟨record, node, id, rfl, own.symm, has.mono keeps⟩
          · exact old found
        · rw [ModerationNode.store_putRecord_of_ne _ record target] at found
          exact old found

theorem answered_step (node id : Nat) (kind : Kind) (record : kind.Record)
    (member : .answered node id kind record ∈ notices ++ log) :
    HasEvent (notices ++ log) after.audit node id kind record := by
  have keeps := keeps_step recorded apart effect
  rcases List.mem_append.mp member with new | old
  · cases effect with
    | stopped other id' => cases new
    | node stepped =>
        obtain ⟨rfl, task, made, held, phase, same⟩ := answered_told new
        cases same
        exact (recorded.tasks node id task made held (by rw [phase]; rfl)).mono keeps
  · exact (recorded.answered node id kind record old).mono keeps

theorem recorded_step : Recorded (notices ++ log) after where
  clocks := clocks_step recorded apart effect
  unique := unique_step recorded apart effect
  events := events_step recorded effect
  tasks := tasks_step recorded apart effect
  store := store_step recorded apart effect
  answered := answered_step recorded apart effect

end Preserved

structure AuditComplete (log : List FleetNotice) (fleet : Fleet) : Prop where
  /-- A stored record is the record of an event of its key. -/
  covered : ∀ kind key body, (fleet.store kind).get key = some body →
    ∃ record action nanos, body = some record ∧
      fleet.audit.get (auditKey kind key nanos) = some ⟨action, kind, record⟩
  /-- A change that answered 200 has an event that no other change has. -/
  own : ∀ node id kind record, .answered node id kind record ∈ log →
    ∃ nanos action, fleet.audit.get (auditKey kind (kind.key record) nanos) =
        some ⟨action, kind, record⟩ ∧
      .audited node id kind (kind.key record) nanos ∈ log ∧
      ∀ node' id' kind' key' nanos', .audited node' id' kind' key' nanos' ∈ log →
        auditKey kind' key' nanos' = auditKey kind (kind.key record) nanos →
        node' = node ∧ id' = id
  /-- An event stays as it is. -/
  kept : ∀ place event history last, fleet.audit.get place = some event →
    fleetMachine.Run ClocksApart log fleet history last → last.audit.get place = some event
  /-- The events of a key are listed in clock order. -/
  ordered : ∀ kind key node id nanos node' id' nanos',
    .audited node id kind key nanos ∈ log → .audited node' id' kind key nanos' ∈ log →
    (auditKey kind key nanos < auditKey kind key nanos' ↔ nanos < nanos')

theorem recorded_run {start last : Fleet} {before history : List FleetNotice}
    (first : Recorded before start)
    (run : fleetMachine.Run ClocksApart before start history last) : Recorded history last := by
  refine run.invariant Recorded first ?_
  intro log state event next notices now apart taken
  exact recorded_step now apart (machine_effect taken)

theorem kept_run {start last : Fleet} {before history : List FleetNotice}
    (first : Recorded before start)
    (run : fleetMachine.Run ClocksApart before start history last) {place : String}
    {event : AuditEvent} (stored : start.audit.get place = some event) :
    last.audit.get place = some event := by
  have both := run.invariant
    (fun log fleet => Recorded log fleet ∧ fleet.audit.get place = some event) ⟨first, stored⟩ ?_
  · exact both.2
  intro log state moved next notices ⟨now, held⟩ apart taken
  have effect := machine_effect taken
  exact ⟨recorded_step now apart effect, keeps_step now apart effect place event held⟩

/-- No moderation change escapes the audit history. -/
theorem audit_complete {start fleet : Fleet} {log : List FleetNotice} (fresh : Fresh start)
    (run : fleetMachine.Run ClocksApart [] start log fleet) : AuditComplete log fleet := by
  have recorded := recorded_run (recorded_fresh fresh) run
  refine ⟨?_, ?_, ?_, ?_⟩
  · intro kind key body found
    obtain ⟨record, node, id, readable, own, nanos, action, -, stored⟩ :=
      recorded.store kind key body found
    exact ⟨record, action, nanos, readable, own ▸ stored⟩
  · intro node id kind record answered
    obtain ⟨nanos, action, noticed, stored⟩ := recorded.answered node id kind record answered
    refine ⟨nanos, action, stored, noticed, ?_⟩
    intro node' id' kind' key' nanos' noticed' same
    obtain ⟨rfl, rfl, rfl⟩ := auditKey_injective (recorded.clocks _ _ _ _ _ noticed')
      (recorded.clocks _ _ _ _ _ noticed) same
    exact recorded.unique node id node' id' _ _ _ noticed noticed'
  · intro place event history last stored on
    exact kept_run recorded on stored
  · intro kind key node id nanos node' id' nanos' one two
    exact auditKey_lt_iff kind key (recorded.clocks _ _ _ _ _ one) (recorded.clocks _ _ _ _ _ two)

section Sample

def sampleFleet : Fleet :=
  { nodes := fun _ => ModerationNode.sampleNode, store := fun _ => Table.empty,
    audit := Table.empty }

theorem sampleFleet_fresh : Fresh sampleFleet := ⟨fun _ => rfl, rfl, fun _ _ => rfl⟩

def suspendedTwice : List FleetEvent :=
  (ModerationNode.sampleWrite 0 (some ModerationNode.sampleAction) ++
      [ModerationEvent.applied 0]).map (.node 0) ++
    [.node 1 (.receive .suspensions "arkavo:alice" (some ModerationNode.sampleAction)
      ModerationNode.sampleHeaders),
     .node 1 (.verified 0 (.ok ModerationNode.sampleOperator) 1000), .node 1 (.audited 0 7),
     .stopped 1 0]

def reads (kind : Kind) (key : String) (nanos : Nat) : FleetNotice → Bool
  | .audited _ _ kind' key' nanos' => decide (kind' = kind ∧ key' = key ∧ nanos' = nanos)
  | _ => false

def clocksCheck (log : List FleetNotice) (fleet : Fleet) : FleetEvent → Bool
  | .node node (.audited id nanos) =>
      decide (nanos < clockLimit) &&
        match (fleet.nodes node).changes id with
        | none => true
        | some task =>
            match task.phase with
            | .auditing record =>
                log.all fun notice => !reads task.kind (task.kind.key record) nanos notice
            | _ => true
  | _ => true

theorem clocksApart_of_check (log : List FleetNotice) (fleet : Fleet) (event : FleetEvent)
    (checked : clocksCheck log fleet event = true) : ClocksApart log fleet event := by
  unfold clocksCheck at checked
  split at checked
  · simp only [Bool.and_eq_true, decide_eq_true_eq] at checked
    refine ⟨checked.1, ?_⟩
    intro task record held phase other id' member
    have all := checked.2
    rw [held] at all
    simp only at all
    rw [phase] at all
    have here := List.all_eq_true.mp all _ member
    simp [reads] at here
  · rename_i other
    unfold ClocksApart
    split
    · exact absurd rfl (other _ _ _)
    · trivial

def answers : FleetNotice → Bool
  | .answered 0 0 .suspensions _ => true
  | _ => false

theorem answers_eq_true {notice : FleetNotice} (answered : answers notice = true) :
    ∃ record, notice = .answered 0 0 .suspensions record := by
  unfold answers at answered
  split at answered
  · exact ⟨_, rfl⟩
  · cases answered

def aliceAnswered (log : List FleetNotice) (_ : Fleet) : Bool := log.any answers

theorem suspendedTwice_executed :
    (fleetMachine.execute clocksCheck suspendedTwice [] sampleFleet).map
      (fun ended => aliceAnswered ended.1 ended.2) = some true := by
  decide +kernel

theorem audit_complete_suspended_twice :
    ∃ log fleet, fleetMachine.Run ClocksApart [] sampleFleet log fleet ∧
      ∃ record, .answered 0 0 .suspensions record ∈ log ∧
        ∃ nanos action, fleet.audit.get (auditKey .suspensions (Kind.suspensions.key record) nanos) =
          some ⟨action, .suspensions, record⟩ := by
  obtain ⟨log, fleet, run, shown⟩ := Machine.execute_reaches clocksApart_of_check suspendedTwice
    aliceAnswered suspendedTwice_executed
  obtain ⟨notice, member, answered⟩ := List.any_eq_true.mp shown
  obtain ⟨record, rfl⟩ := answers_eq_true answered
  have complete := audit_complete sampleFleet_fresh run
  obtain ⟨nanos, action, stored, -⟩ := complete.own 0 0 .suspensions record member
  exact ⟨log, fleet, run, record, member, nanos, action, stored⟩

end Sample

end Fleet

end TdfIrohS3
