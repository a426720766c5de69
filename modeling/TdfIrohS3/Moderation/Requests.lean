import TdfIrohS3.Library.Machine
import TdfIrohS3.Publish.Decision

namespace TdfIrohS3

open Library

structure ActionRequest where
  reason : String
  reportId : Option String
  hideCatalog : Bool
  deriving DecidableEq, Repr

def maxReasonChars : Nat := 1000

def checkedReason (r : String) : Except Refusal String :=
  let r := Text.trim r
  if r = "" ∨ r.length > maxReasonChars then
    .error ⟨400, "reason is required (≤ 1000 characters)"⟩
  else .ok r

def checkedReportId : Option String → Except Refusal (Option String)
  | some id => if validSubject id then .ok (some id) else .error ⟨400, "invalid reportId"⟩
  | none => .ok none

def suspendRecord (subject : String) (body : ActionRequest) (by_ : String) (at_ : Int) :
    Except Refusal Suspension :=
  let subject := canonicalSubject subject
  if validSubject subject then do
    let reason ← checkedReason body.reason
    let reportId ← checkedReportId body.reportId
    return { subject, reason, reportId, hideCatalog := body.hideCatalog, by_, at_, liftedBy := none,
             liftedAt := none }
  else .error ⟨400, "invalid subject"⟩

def blockRecord (hash : String) (body : ActionRequest) (by_ : String) (at_ : Int) :
    Except Refusal Block :=
  if !validHash hash then .error ⟨400, "hash must be 64 hex chars"⟩
  else if body.hideCatalog then .error ⟨400, "hideCatalog applies to suspensions"⟩
  else do
    let hash := Text.toAsciiLowercase hash
    let reason ← checkedReason body.reason
    let reportId ← checkedReportId body.reportId
    return { hash, reason, reportId, by_, at_, liftedBy := none, liftedAt := none }

def blockCatalogRecord (subject : String) (body : ActionRequest) (by_ : String) (at_ : Int) :
    Except Refusal CatalogBlock :=
  let subject := canonicalSubject subject
  if !validSubject subject then .error ⟨400, "invalid subject"⟩
  else if body.hideCatalog then .error ⟨400, "hideCatalog applies to suspensions"⟩
  else do
    let reason ← checkedReason body.reason
    let reportId ← checkedReportId body.reportId
    return { subject, reason, reportId, by_, at_, liftedBy := none, liftedAt := none }

def imposeRecord : (kind : Kind) → String → ActionRequest → String → Int →
    Except Refusal kind.Record
  | .suspensions => suspendRecord
  | .blocks => blockRecord
  | .catalogBlocks => blockCatalogRecord

/-- The active record a lift starts from: by its key for suspensions, by search for the others. -/
def activeRecord (view : Moderation) : (kind : Kind) → String → Option kind.Record
  | .suspensions, subject => view.suspension subject
  | .blocks, hash =>
      let hash := Text.toAsciiLowercase hash
      (view.active .blocks).table.values.find? fun b => b.hash == hash
  | .catalogBlocks, subject =>
      let subject := canonicalSubject subject
      (view.active .catalogBlocks).table.values.find? fun b => b.subject == subject

def noActive : Kind → Refusal
  | .suspensions => ⟨404, "no active suspension"⟩
  | .blocks => ⟨404, "no active block"⟩
  | .catalogBlocks => ⟨404, "no active catalog block"⟩

def liftRecord (view : Moderation) (kind : Kind) (path : String) (by_ : String) (at_ : Int) :
    Except Refusal kind.Record :=
  match activeRecord view kind path with
  | some record => .ok (kind.lift record by_ at_)
  | none => .error (noActive kind)

section Specifications

theorem imposeRecord_ok {kind : Kind} {path : String} {body : ActionRequest} {by_ : String}
    {at_ : Int} {record : kind.Record} (made : imposeRecord kind path body by_ at_ = .ok record) :
    kind.key record = kind.keyOf path ∧ kind.liftedAt record = none := by
  cases kind with
  | suspensions =>
      change suspendRecord path body by_ at_ = .ok record at made
      simp only [suspendRecord, when_ok, bind_ok] at made
      rcases made with ⟨-, reason, -, reportId, -, same⟩
      cases same
      exact ⟨rfl, rfl⟩
  | blocks =>
      change blockRecord path body by_ at_ = .ok record at made
      simp only [blockRecord, unless_error_ok, bind_ok] at made
      rcases made with ⟨-, -, reason, -, reportId, -, same⟩
      cases same
      exact ⟨rfl, rfl⟩
  | catalogBlocks =>
      change blockCatalogRecord path body by_ at_ = .ok record at made
      simp only [blockCatalogRecord, unless_error_ok, bind_ok] at made
      rcases made with ⟨-, -, reason, -, reportId, -, same⟩
      cases same
      exact ⟨rfl, rfl⟩

theorem activeRecord_key {view : Moderation} {kind : Kind} {path : String} {record : kind.Record}
    (found : activeRecord view kind path = some record) : kind.key record = kind.keyOf path := by
  cases kind with
  | suspensions => exact (view.active .suspensions).keyed _ _ found
  | blocks =>
      have same : (Kind.blocks.key record == Kind.blocks.keyOf path) = true := by
        exact List.find?_some (p := fun b : Block => b.hash == Kind.blocks.keyOf path) found
      exact beq_iff_eq.mp same
  | catalogBlocks =>
      have same : (Kind.catalogBlocks.key record == Kind.catalogBlocks.keyOf path) = true := by
        exact List.find?_some
          (p := fun b : CatalogBlock => b.subject == Kind.catalogBlocks.keyOf path) found
      exact beq_iff_eq.mp same

theorem liftRecord_ok {view : Moderation} {kind : Kind} {path by_ : String} {at_ : Int}
    {record : kind.Record} (made : liftRecord view kind path by_ at_ = .ok record) :
    kind.key record = kind.keyOf path ∧ kind.liftedAt record = some at_ := by
  unfold liftRecord at made
  split at made
  · rename_i old found
    cases made
    exact ⟨by rw [Kind.key_lift]; exact activeRecord_key found, Kind.liftedAt_lift ..⟩
  · cases made

end Specifications

/-- Where a change request waits: for the token verifier, or for one of its two writes; or its second
write is done and the handler has not gone on. -/
inductive ChangePhase (kind : Kind)
  | verifying
  | auditing (record : kind.Record)
  | writing (record : kind.Record)
  | applying (record : kind.Record)

structure ChangeTask where
  kind : Kind
  path : String
  body : Option ActionRequest
  headers : Headers
  phase : ChangePhase kind

structure ReloadTask where
  collected : (kind : Kind) → Option (Active kind)

def ReloadTask.pending (task : ReloadTask) : Option Kind :=
  [Kind.suspensions, .blocks, .catalogBlocks].find? fun kind => (task.collected kind).isNone

def ReloadTask.view (task : ReloadTask) : Option Moderation :=
  match task.collected .suspensions, task.collected .blocks, task.collected .catalogBlocks with
  | some suspensions, some blocks, some catalogBlocks => some
      (((Moderation.empty.set .suspensions suspensions).set .blocks blocks).set .catalogBlocks
        catalogBlocks)
  | _, _, _ => none

structure AuditEvent where
  action : String
  kind : Kind
  record : kind.Record

def actionName : Kind → Bool → String
  | .suspensions, false => "suspend"
  | .suspensions, true => "lift_suspension"
  | .blocks, false => "block"
  | .blocks, true => "lift_block"
  | .catalogBlocks, false => "block_catalog"
  | .catalogBlocks, true => "lift_catalog_block"

/-- `<kind>/<key>/<nanos>`, the time in at least 20 digits. -/
def auditKey (kind : Kind) (key : String) (nanos : Nat) : String :=
  let digits := toString nanos
  kind.name ++ "/" ++ key ++ "/" ++
    String.ofList (List.replicate (20 - digits.length) '0') ++ digits

/-- One node with its moderation store. A stored body that cannot be read is `none`. -/
structure ModerationNode where
  view : Moderation
  policy : PublishPolicy
  store : (kind : Kind) → Table String (Option kind.Record)
  audit : Table String AuditEvent
  nextId : Nat
  changes : Nat → Option ChangeTask
  reloads : Nat → Option ReloadTask

inductive ModerationEvent
  | receive (kind : Kind) (path : String) (body : Option ActionRequest) (headers : Headers)
  | verified (id : Nat) (answer : Except AuthError VerifiedClaims) (now : Int)
  | audited (id : Nat) (nanos : Nat)
  | written (id : Nat)
  | applied (id : Nat)
  | putFailed (id : Nat)
  | reload
  | listed (id : Nat)
  | installed (id : Nat)
  | listFailed (id : Nat)

inductive ModerationNotice
  | received (id : Nat) (kind : Kind) (path : String) (lifts : Bool)
  | wrote (id : Nat) (kind : Kind) (key : String) (lifted : Bool)
  | answered (id : Nat) (kind : Kind) (path : String) (lifted : Bool)
  | refused (id : Nat) (refusal : Refusal)
  | listed (id : Nat) (kind : Kind)
  | installed (id : Nat)
  deriving DecidableEq, Repr

namespace ModerationNode

def setChange (node : ModerationNode) (id : Nat) (task : Option ChangeTask) : ModerationNode :=
  { node with changes := Function.update node.changes id task }

def setReload (node : ModerationNode) (id : Nat) (task : Option ReloadTask) : ModerationNode :=
  { node with reloads := Function.update node.reloads id task }

def prepare (node : ModerationNode) (task : ChangeTask) (answer : Except AuthError VerifiedClaims)
    (now : Int) : Except Refusal task.kind.Record :=
  match node.policy.operator task.headers answer with
  | .error refusal => .error refusal
  | .ok by_ =>
      match task.body with
      | some body => imposeRecord task.kind task.path body by_ now
      | none => liftRecord node.view task.kind task.path by_ now

def putRecord (node : ModerationNode) (kind : Kind) (record : kind.Record) : ModerationNode :=
  { node with store :=
      Function.update node.store kind ((node.store kind).insert (kind.key record) (some record)) }

def putAudit (node : ModerationNode) (task : ChangeTask) (record : task.kind.Record)
    (nanos : Nat) : ModerationNode :=
  let event : AuditEvent :=
    { action := actionName task.kind task.body.isNone, kind := task.kind, record := record }
  { node with audit := node.audit.insert (auditKey task.kind (task.kind.key record) nanos) event }

def list (node : ModerationNode) (kind : Kind) : Active kind :=
  Active.collect (node.store kind).values

def next (node : ModerationNode) : ModerationEvent → Option (ModerationNode × List ModerationNotice)
  | .receive kind path body headers =>
      some ({ node.setChange node.nextId
                (some { kind, path, body, headers, phase := .verifying }) with
              nextId := node.nextId + 1 },
        [.received node.nextId kind path body.isNone])
  | .verified id answer now =>
      match node.changes id with
      | some task =>
          match task.phase with
          | .verifying =>
              match node.prepare task answer now with
              | .error refusal => some (node.setChange id none, [.refused id refusal])
              | .ok record =>
                  some (node.setChange id (some { task with phase := .auditing record }), [])
          | _ => none
      | none => none
  | .audited id nanos =>
      match node.changes id with
      | some task =>
          match task.phase with
          | .auditing record =>
              some ((node.putAudit task record nanos).setChange id
                (some { task with phase := .writing record }), [])
          | _ => none
      | none => none
  | .written id =>
      match node.changes id with
      | some task =>
          match task.phase with
          | .writing record =>
              some ((node.putRecord task.kind record).setChange id
                  (some { task with phase := .applying record }),
                [.wrote id task.kind (task.kind.key record) (task.kind.liftedAt record).isSome])
          | _ => none
      | none => none
  | .applied id =>
      match node.changes id with
      | some task =>
          match task.phase with
          | .applying record =>
              some ({ node.setChange id none with view := node.view.applyRecord task.kind record },
                [.answered id task.kind task.path (task.kind.liftedAt record).isSome])
          | _ => none
      | none => none
  | .putFailed id =>
      match node.changes id with
      | some task =>
          match task.phase with
          | .auditing _ | .writing _ | .applying _ =>
              some (node.setChange id none, [.refused id ⟨502, "storage unavailable"⟩])
          | .verifying => none
      | none => none
  | .reload =>
      some ({ node.setReload node.nextId (some ⟨fun _ => none⟩) with nextId := node.nextId + 1 }, [])
  | .listed id =>
      match node.reloads id with
      | some task =>
          match task.pending with
          | some kind =>
              some (node.setReload id
                (some ⟨Function.update task.collected kind (some (node.list kind))⟩),
                [.listed id kind])
          | none => none
      | none => none
  | .installed id =>
      match node.reloads id with
      | some task =>
          match task.view with
          | some view => some ({ node.setReload id none with view := view }, [.installed id])
          | none => none
      | none => none
  | .listFailed id =>
      match node.reloads id with
      | some _ => some (node.setReload id none, [])
      | none => none

/-- One node under any interleaving of change requests and reloads, at every await. A put that takes
effect and then reports a failure is `written` followed by `putFailed`. -/
def machine : Machine ModerationNode ModerationEvent ModerationNotice := ⟨next⟩

inductive Effect (node : ModerationNode) :
    ModerationEvent → ModerationNode → List ModerationNotice → Prop
  | received (kind : Kind) (path : String) (body : Option ActionRequest) (headers : Headers) :
      Effect node (.receive kind path body headers)
        { node.setChange node.nextId (some { kind, path, body, headers, phase := .verifying }) with
          nextId := node.nextId + 1 }
        [.received node.nextId kind path body.isNone]
  | refused (id : Nat) (answer : Except AuthError VerifiedClaims) (now : Int) (refusal : Refusal) :
      Effect node (.verified id answer now) (node.setChange id none) [.refused id refusal]
  | prepared (id : Nat) (answer : Except AuthError VerifiedClaims) (now : Int) (task : ChangeTask)
      (record : task.kind.Record) (inFlight : node.changes id = some task)
      (made : node.prepare task answer now = .ok record) :
      Effect node (.verified id answer now)
        (node.setChange id (some { task with phase := .auditing record })) []
  | audited (id nanos : Nat) (task : ChangeTask) (record : task.kind.Record)
      (inFlight : node.changes id = some task) (phase : task.phase = .auditing record) :
      Effect node (.audited id nanos)
        ((node.putAudit task record nanos).setChange id
          (some { task with phase := .writing record })) []
  | written (id : Nat) (task : ChangeTask) (record : task.kind.Record)
      (inFlight : node.changes id = some task) (phase : task.phase = .writing record) :
      Effect node (.written id)
        ((node.putRecord task.kind record).setChange id
          (some { task with phase := .applying record }))
        [.wrote id task.kind (task.kind.key record) (task.kind.liftedAt record).isSome]
  | applied (id : Nat) (task : ChangeTask) (record : task.kind.Record)
      (inFlight : node.changes id = some task) (phase : task.phase = .applying record) :
      Effect node (.applied id)
        { node.setChange id none with view := node.view.applyRecord task.kind record }
        [.answered id task.kind task.path (task.kind.liftedAt record).isSome]
  | putFailed (id : Nat) :
      Effect node (.putFailed id) (node.setChange id none)
        [.refused id ⟨502, "storage unavailable"⟩]
  | reloading :
      Effect node .reload
        { node.setReload node.nextId (some ⟨fun _ => none⟩) with nextId := node.nextId + 1 } []
  | listed (id : Nat) (task : ReloadTask) (kind : Kind) (inFlight : node.reloads id = some task) :
      Effect node (.listed id)
        (node.setReload id (some ⟨Function.update task.collected kind (some (node.list kind))⟩))
        [.listed id kind]
  | installed (id : Nat) (task : ReloadTask) (view : Moderation)
      (inFlight : node.reloads id = some task) (complete : task.view = some view) :
      Effect node (.installed id) { node.setReload id none with view := view } [.installed id]
  | listFailed (id : Nat) : Effect node (.listFailed id) (node.setReload id none) []

private theorem next_effect {node after : ModerationNode} {event : ModerationEvent}
    {notices : List ModerationNotice} (taken : node.next event = some (after, notices)) :
    Effect node event after notices := by
  cases event with
  | receive kind path body headers => cases taken; exact .received ..
  | verified id answer now =>
      simp only [next] at taken
      split at taken
      · rename_i task inFlight
        split at taken
        · split at taken
          · cases taken
            exact .refused ..
          · rename_i record made
            cases taken
            exact .prepared id answer now task record inFlight made
        · cases taken
      · cases taken
  | audited id nanos =>
      simp only [next] at taken
      split at taken
      · rename_i task inFlight
        split at taken
        · rename_i record phase
          cases taken
          exact .audited id nanos task record inFlight phase
        · cases taken
      · cases taken
  | written id =>
      simp only [next] at taken
      split at taken
      · rename_i task inFlight
        split at taken
        · rename_i record phase
          cases taken
          exact .written id task record inFlight phase
        · cases taken
      · cases taken
  | applied id =>
      simp only [next] at taken
      split at taken
      · rename_i task inFlight
        split at taken
        · rename_i record phase
          cases taken
          exact .applied id task record inFlight phase
        · cases taken
      · cases taken
  | putFailed id =>
      simp only [next] at taken
      split at taken
      · split at taken
        · cases taken; exact .putFailed id
        · cases taken; exact .putFailed id
        · cases taken; exact .putFailed id
        · cases taken
      · cases taken
  | reload => cases taken; exact .reloading
  | listed id =>
      simp only [next] at taken
      split at taken
      · rename_i task inFlight
        split at taken
        · rename_i kind _
          cases taken
          exact .listed id task kind inFlight
        · cases taken
      · cases taken
  | installed id =>
      simp only [next] at taken
      split at taken
      · rename_i task inFlight
        split at taken
        · rename_i view complete
          cases taken
          exact .installed id task view inFlight complete
        · cases taken
      · cases taken
  | listFailed id =>
      simp only [next] at taken
      split at taken
      · cases taken
        exact .listFailed id
      · cases taken

theorem machine_effect {node after : ModerationNode} {event : ModerationEvent}
    {notices : List ModerationNotice} (taken : machine.next node event = some (after, notices)) :
    Effect node event after notices :=
  next_effect taken

theorem setChange_changes (node : ModerationNode) (id other : Nat) (task : Option ChangeTask) :
    (node.setChange id task).changes other = if other = id then task else node.changes other := by
  simp [setChange, Function.update_apply]

theorem get_putRecord (node : ModerationNode) (kind : Kind) (record : kind.Record) (key : String) :
    ((node.putRecord kind record).store kind).get key =
      if key = kind.key record then some (some record) else (node.store kind).get key := by
  simp [putRecord, Table.get_insert]

theorem store_putRecord_of_ne (node : ModerationNode) {kind other : Kind} (record : kind.Record)
    (different : other ≠ kind) : (node.putRecord kind record).store other = node.store other := by
  simp [putRecord, Function.update_of_ne different]

end ModerationNode

theorem ReloadTask.view_active {task : ReloadTask} {view : Moderation}
    (complete : task.view = some view) (kind : Kind) :
    task.collected kind = some (view.active kind) := by
  unfold ReloadTask.view at complete
  split at complete
  · rename_i suspensions blocks catalogBlocks first second third
    cases complete
    cases kind with
    | suspensions => rw [first]; rfl
    | blocks => rw [second]; rfl
    | catalogBlocks => rw [third]; rfl
  · cases complete

end TdfIrohS3
