import TdfIrohS3.Moderation.InForce

namespace TdfIrohS3

open Library

/-- How a put ends: it is done, it fails without effect, or it takes effect and reports a failure. -/
inductive PutOutcome
  | done
  | lost
  | unconfirmed
  deriving DecidableEq, Repr

def PutOutcome.took : PutOutcome → Bool
  | .done | .unconfirmed => true
  | .lost => false

structure ChangeCalls where
  answer : Except AuthError VerifiedClaims
  now : Int
  nanos : Nat
  audit : PutOutcome
  write : PutOutcome

def persistFailed : Refusal := ⟨502, "storage unavailable"⟩

namespace ModerationNode

def auditPut (node : ModerationNode) (task : ChangeTask) (record : task.kind.Record) (nanos : Nat)
    (outcome : PutOutcome) : ModerationNode :=
  if outcome.took then node.putAudit task record nanos else node

def statePut (node : ModerationNode) (kind : Kind) (record : kind.Record)
    (outcome : PutOutcome) : ModerationNode :=
  if outcome.took then node.putRecord kind record else node

/-- `suspend`, `lift_suspension`, `block`, `lift_block`, `block_catalog` and `lift_catalog_block` from
the first call to the answer, with nothing else running on the node. -/
def change (node : ModerationNode) (task : ChangeTask) (calls : ChangeCalls) :
    ModerationNode × Except Refusal task.kind.Record :=
  match node.prepare task calls.answer calls.now with
  | .error refusal => (node, .error refusal)
  | .ok record =>
      let audited := node.auditPut task record calls.nanos calls.audit
      if calls.audit ≠ .done then (audited, .error persistFailed)
      else
        let written := audited.statePut task.kind record calls.write
        if calls.write ≠ .done then (written, .error persistFailed)
        else ({ written with view := written.view.applyRecord task.kind record }, .ok record)

end ModerationNode

/-- `Moderation::reload`: the view and whether it returned `Ok`. A listing that fails is `none`. -/
def Moderation.reload (view : Moderation) (suspensions : Option (List (Option Suspension)))
    (blocks : Option (List (Option Block))) (catalogBlocks : Option (List (Option CatalogBlock))) :
    Moderation × Bool :=
  match suspensions with
  | none => (view, false)
  | some suspensions =>
      let suspensions : Active .suspensions := Active.collect suspensions
      match blocks with
      | none => (view, false)
      | some blocks =>
          let blocks : Active .blocks := Active.collect blocks
          match catalogBlocks with
          | none => (view, false)
          | some catalogBlocks =>
              let catalogBlocks : Active .catalogBlocks := Active.collect catalogBlocks
              (((view.set .suspensions suspensions).set .blocks blocks).set .catalogBlocks
                catalogBlocks, true)

namespace ModerationNode

variable {node : ModerationNode} {task : ChangeTask} {calls : ChangeCalls}

@[simp] theorem auditPut_view (node : ModerationNode) (record : task.kind.Record) (nanos : Nat)
    (outcome : PutOutcome) : (node.auditPut task record nanos outcome).view = node.view := by
  cases outcome <;> rfl

@[simp] theorem auditPut_store (node : ModerationNode) (record : task.kind.Record) (nanos : Nat)
    (outcome : PutOutcome) : (node.auditPut task record nanos outcome).store = node.store := by
  cases outcome <;> rfl

@[simp] theorem statePut_view (node : ModerationNode) (kind : Kind) (record : kind.Record)
    (outcome : PutOutcome) : (node.statePut kind record outcome).view = node.view := by
  cases outcome <;> rfl

inductive Ended (node : ModerationNode) (task : ChangeTask) (calls : ChangeCalls) :
    ModerationNode → Except Refusal task.kind.Record → Prop
  | refused (refusal : Refusal)
      (checked : node.prepare task calls.answer calls.now = .error refusal) :
      Ended node task calls node (.error refusal)
  | auditFailed (record : task.kind.Record)
      (made : node.prepare task calls.answer calls.now = .ok record) (failed : calls.audit ≠ .done) :
      Ended node task calls (node.auditPut task record calls.nanos calls.audit)
        (.error persistFailed)
  | writeFailed (record : task.kind.Record)
      (made : node.prepare task calls.answer calls.now = .ok record) (audited : calls.audit = .done)
      (failed : calls.write ≠ .done) :
      Ended node task calls
        ((node.auditPut task record calls.nanos calls.audit).statePut task.kind record calls.write)
        (.error persistFailed)
  | answered (record : task.kind.Record)
      (made : node.prepare task calls.answer calls.now = .ok record) (audited : calls.audit = .done)
      (written : calls.write = .done) :
      Ended node task calls
        { (node.putAudit task record calls.nanos).putRecord task.kind record with
          view := node.view.applyRecord task.kind record }
        (.ok record)

theorem change_ended (node : ModerationNode) (task : ChangeTask) (calls : ChangeCalls) :
    Ended node task calls (node.change task calls).1 (node.change task calls).2 := by
  unfold change
  split
  · rename_i refusal checked
    exact .refused refusal checked
  · rename_i record made
    by_cases audited : calls.audit = .done
    · by_cases written : calls.write = .done
      · simp only [audited, written, ne_eq, not_true_eq_false, if_false]
        exact .answered record made audited written
      · simp only [audited, written, ne_eq, not_true_eq_false, not_false_eq_true, if_false, if_true]
        rw [← audited]
        exact .writeFailed record made audited written
    · simp only [audited, ne_eq, not_false_eq_true, if_true]
      exact .auditFailed record made audited

theorem change_ok {record : task.kind.Record} (answered : (node.change task calls).2 = .ok record) :
    node.prepare task calls.answer calls.now = .ok record ∧
      (node.change task calls).1.view = node.view.applyRecord task.kind record := by
  have ended := change_ended node task calls
  generalize node.change task calls = result at ended answered
  obtain ⟨after, answer⟩ := result
  subst answered
  cases ended with
  | answered _ made _ _ => exact ⟨made, rfl⟩

/-- A request that is not answered 200 leaves the view, and the store too unless its own put of the
current state is what failed. -/
theorem change_error {refusal : Refusal} (refused : (node.change task calls).2 = .error refusal) :
    (node.change task calls).1.view = node.view ∧
      ((node.change task calls).1.store = node.store ∨
        calls.audit = .done ∧ calls.write ≠ .done) := by
  have ended := change_ended node task calls
  generalize node.change task calls = result at ended refused
  obtain ⟨after, answer⟩ := result
  subst refused
  cases ended with
  | refused _ checked => exact ⟨rfl, .inl rfl⟩
  | auditFailed record made failed =>
      exact ⟨auditPut_view node record calls.nanos calls.audit,
        .inl (auditPut_store node record calls.nanos calls.audit)⟩
  | writeFailed record made audited failed =>
      have kept := (statePut_view (node.auditPut task record calls.nanos calls.audit) task.kind record
        calls.write).trans (auditPut_view node record calls.nanos calls.audit)
      exact ⟨kept, .inr ⟨audited, failed⟩⟩

end ModerationNode

theorem Moderation.reload_failed {view : Moderation}
    {suspensions : Option (List (Option Suspension))} {blocks : Option (List (Option Block))}
    {catalogBlocks : Option (List (Option CatalogBlock))}
    (failed : (view.reload suspensions blocks catalogBlocks).2 = false) :
    (view.reload suspensions blocks catalogBlocks).1 = view := by
  cases suspensions with
  | none => rfl
  | some suspensions =>
      cases blocks with
      | none => rfl
      | some blocks =>
          cases catalogBlocks with
          | none => rfl
          | some catalogBlocks => cases failed

section Runs

namespace ModerationNode

variable {node : ModerationNode} {task : ChangeTask} {calls : ChangeCalls}
variable {log : List ModerationNotice} {id : Nat}

def holding (node : ModerationNode) (id : Nat) (task : Option ChangeTask) : ModerationNode :=
  { node with changes := Function.update node.changes id task, nextId := id + 1 }

theorem holding_setChange (node : ModerationNode) (id : Nat) (first second : Option ChangeTask) :
    (node.holding id first).setChange id second = node.holding id second := by
  simp [holding, setChange]

theorem holding_of_free (node : ModerationNode) {id : Nat} (free : node.changes id = none) :
    node.holding id none = { node with nextId := id + 1 } := by
  simp [holding, ← free]

theorem holding_changes (node : ModerationNode) (id : Nat) (task : Option ChangeTask) :
    (node.holding id task).changes id = task := by
  simp [holding]

def waiting (node : ModerationNode) (id : Nat) (task : ChangeTask) (phase : ChangePhase task.kind) :
    ModerationNode :=
  node.holding id (some { task with phase := phase })

theorem received_next (node : ModerationNode) (task : ChangeTask) :
    machine.next node (.receive task.kind task.path task.body task.headers) =
      some (node.waiting node.nextId task .verifying,
        [.received node.nextId task.kind task.path task.body.isNone]) :=
  rfl

theorem refused_next {answer : Except AuthError VerifiedClaims} {now : Int} {refusal : Refusal}
    (checked : node.prepare task answer now = .error refusal) :
    machine.next (node.waiting id task .verifying) (.verified id answer now) =
      some (node.holding id none, [.refused id refusal]) := by
  have same : (node.waiting id task .verifying).prepare { task with phase := .verifying } answer now =
      .error refusal := checked
  simp only [machine, next, waiting, holding_changes, holding_setChange] at same ⊢
  rw [same]

theorem verified_next {answer : Except AuthError VerifiedClaims} {now : Int}
    {record : task.kind.Record} (made : node.prepare task answer now = .ok record) :
    machine.next (node.waiting id task .verifying) (.verified id answer now) =
      some (node.waiting id task (.auditing record), []) := by
  have same : (node.waiting id task .verifying).prepare { task with phase := .verifying } answer now =
      .ok record := made
  simp only [machine, next, waiting, holding_changes, holding_setChange] at same ⊢
  rw [same]

theorem audited_next (node : ModerationNode) (record : task.kind.Record) (nanos : Nat) :
    machine.next (node.waiting id task (.auditing record)) (.audited id nanos) =
      some ((node.putAudit task record nanos).waiting id task (.writing record), []) := by
  simp only [machine, next, waiting, holding_changes]
  exact congrArg (fun after => some (after, []))
    (holding_setChange (node.putAudit task record nanos) id _ _)

theorem written_next (node : ModerationNode) (record : task.kind.Record) :
    machine.next (node.waiting id task (.writing record)) (.written id) =
      some ((node.putRecord task.kind record).waiting id task (.applying record),
        [.wrote id task.kind (task.kind.key record) (task.kind.liftedAt record).isSome]) := by
  simp only [machine, next, waiting, holding_changes]
  exact congrArg (fun after => some (after, _))
    (holding_setChange (node.putRecord task.kind record) id _ _)

theorem applied_next (node : ModerationNode) (record : task.kind.Record) :
    machine.next (node.waiting id task (.applying record)) (.applied id) =
      some ({ node with view := node.view.applyRecord task.kind record }.holding id none,
        [.answered id task.kind task.path (task.kind.liftedAt record).isSome]) := by
  simp only [machine, next, waiting, holding_changes, holding_setChange]
  rfl

theorem putFailed_next (node : ModerationNode) {id : Nat} {task : ChangeTask} {phase : ChangePhase task.kind}
    (putting : (recordOf phase).isSome = true) :
    machine.next (node.waiting id task phase) (.putFailed id) =
      some (node.holding id none, [.refused id persistFailed]) := by
  cases phase with
  | verifying => cases putting
  | auditing record | writing record | applying record =>
      simp only [machine, next, waiting, holding_changes, holding_setChange]
      rfl

def ending (id : Nat) (task : ChangeTask) : Except Refusal task.kind.Record → ModerationNotice
  | .ok record => .answered id task.kind task.path (task.kind.liftedAt record).isSome
  | .error refusal => .refused id refusal

/-- `change` is the machine's run of one request with nothing in between. -/
theorem change_run (node : ModerationNode) (task : ChangeTask) (calls : ChangeCalls)
    (log : List ModerationNotice) (free : node.changes node.nextId = none) :
    ∃ older, machine.Run (fun _ _ _ => True) log node
      (ending node.nextId task (node.change task calls).2 :: older)
      { (node.change task calls).1 with nextId := node.nextId + 1 } := by
  have received : machine.Run (fun _ _ _ => True) log node
      ([.received node.nextId task.kind task.path task.body.isNone] ++ log)
      (node.waiting node.nextId task .verifying) :=
    .step .refl trivial (received_next node task)
  have ended := change_ended node task calls
  generalize node.change task calls = result at ended ⊢
  obtain ⟨after, answer⟩ := result
  -- the last step leaves `holding id none` of a node that has `node`'s requests in flight
  have closed : ∀ {older : List ModerationNotice} {last : ModerationNode},
      last.changes = node.changes →
      machine.Run (fun _ _ _ => True) log node older (last.holding node.nextId none) →
      machine.Run (fun _ _ _ => True) log node older { last with nextId := node.nextId + 1 } := by
    intro older last same run
    rwa [holding_of_free last (same ▸ free)] at run
  cases ended with
  | refused refusal checked =>
      exact ⟨_, closed rfl (received.step trivial (refused_next checked))⟩
  | auditFailed record made failed =>
      have verified := received.step trivial (verified_next made)
      cases outcome : calls.audit with
      | done => exact absurd outcome failed
      | lost => exact ⟨_, closed rfl (verified.step trivial (putFailed_next node rfl))⟩
      | unconfirmed =>
          have audited := verified.step trivial (audited_next node record calls.nanos)
          exact ⟨_, closed rfl (audited.step trivial (putFailed_next _ rfl))⟩
  | writeFailed record made audited failed =>
      have verified := received.step trivial (verified_next made)
      have logged := verified.step trivial (audited_next node record calls.nanos)
      rw [audited]
      cases outcome : calls.write with
      | done => exact absurd outcome failed
      | lost => exact ⟨_, closed rfl (logged.step trivial (putFailed_next _ rfl))⟩
      | unconfirmed =>
          have written := logged.step trivial (written_next _ record)
          exact ⟨_, closed rfl (written.step trivial (putFailed_next _ rfl))⟩
  | answered record made audited written =>
      have verified := received.step trivial (verified_next made)
      have logged := verified.step trivial (audited_next node record calls.nanos)
      have stored := logged.step trivial (written_next _ record)
      exact ⟨_, closed rfl (stored.step trivial (applied_next _ record))⟩

def reloading (node : ModerationNode) (id : Nat) (collected : (kind : Kind) → Option (Active kind)) :
    ModerationNode :=
  { node with reloads := Function.update node.reloads id (some ⟨collected⟩), nextId := id + 1 }

theorem listed_next (node : ModerationNode) {collected : (kind : Kind) → Option (Active kind)}
    {kind : Kind} (pending : ReloadTask.pending ⟨collected⟩ = some kind) :
    machine.next (node.reloading id collected) (.listed id) =
      some (node.reloading id (Function.update collected kind (some (node.list kind))),
        [.listed id kind]) := by
  simp only [machine, next, reloading, Function.update_self, pending, setReload,
    Function.update_idem]
  rfl

theorem installed_next (node : ModerationNode) (free : node.reloads id = none)
    {collected : (kind : Kind) → Option (Active kind)} {view : Moderation}
    (complete : ReloadTask.view ⟨collected⟩ = some view) :
    machine.next (node.reloading id collected) (.installed id) =
      some ({ node with view := view, nextId := id + 1 }, [.installed id]) := by
  simp only [machine, next, reloading, Function.update_self, complete, setReload,
    Function.update_idem, ← free, Function.update_eq_self]

theorem view_of_listings (node : ModerationNode) :
    ReloadTask.view ⟨fun kind => some (node.list kind)⟩ =
      some (node.view.reload (some (node.store .suspensions).values)
        (some (node.store .blocks).values) (some (node.store .catalogBlocks).values)).1 := by
  have agree : ∀ view other : Moderation, (∀ kind, view.active kind = other.active kind) →
      view = other := by
    rintro ⟨view⟩ ⟨other⟩ same
    exact congrArg Moderation.mk (funext same)
  refine congrArg some (agree _ _ ?_)
  intro kind
  cases kind <;> rfl

/-- `reload` is the machine's run of a reload with nothing in between. -/
theorem reload_run (node : ModerationNode) (log : List ModerationNotice)
    (free : node.reloads node.nextId = none) :
    ∃ history, machine.Run (fun _ _ _ => True) log node history
      { node with
        view := (node.view.reload (some (node.store .suspensions).values)
          (some (node.store .blocks).values) (some (node.store .catalogBlocks).values)).1
        nextId := node.nextId + 1 } := by
  have start : machine.next node .reload = some (node.reloading node.nextId fun _ => none, []) := rfl
  have started : machine.Run (fun _ _ _ => True) log node ([] ++ log)
      (node.reloading node.nextId fun _ => none) :=
    .step .refl trivial start
  have first := started.step trivial (listed_next node rfl)
  have second := first.step trivial (listed_next node rfl)
  have third := second.step trivial (listed_next node rfl)
  have all : (Function.update (Function.update (Function.update (fun _ => none)
      Kind.suspensions (some (node.list .suspensions))) .blocks (some (node.list .blocks)))
      .catalogBlocks (some (node.list .catalogBlocks)) : (kind : Kind) → Option (Active kind)) =
        fun kind => some (node.list kind) := by
    funext kind
    cases kind <;> rfl
  rw [all] at third
  exact ⟨_, third.step trivial (installed_next node free (view_of_listings node))⟩

end ModerationNode

end Runs

section Failures

/-- A failure never changes what is in force. A reload that fails keeps every map, whichever listing
failed; a request that is not answered 200 keeps every map, and every stored record too unless its
own put of the current state is what failed. -/
theorem failures_change_nothing :
    (∀ (view : Moderation) (suspensions : Option (List (Option Suspension)))
      (blocks : Option (List (Option Block))) (catalogBlocks : Option (List (Option CatalogBlock))),
      (view.reload suspensions blocks catalogBlocks).2 = false →
      (view.reload suspensions blocks catalogBlocks).1 = view) ∧
    ∀ (node : ModerationNode) (task : ChangeTask) (calls : ChangeCalls),
      (¬∃ record, (node.change task calls).2 = .ok record) →
      (node.change task calls).1.view = node.view ∧
        ((node.change task calls).1.store = node.store ∨
          calls.audit = .done ∧ calls.write ≠ .done) := by
  refine ⟨fun view suspensions blocks catalogBlocks failed => Moderation.reload_failed failed, ?_⟩
  intro node task calls unanswered
  cases answer : (node.change task calls).2 with
  | ok record => exact absurd ⟨record, answer⟩ unanswered
  | error refusal => exact ModerationNode.change_error answer

def sampleSuspension : Suspension :=
  { subject := "alice", reason := "spam", reportId := none, hideCatalog := true,
    by_ := "client:trust", at_ := 1000, liftedBy := none, liftedAt := none }

def suspendedNode : ModerationNode :=
  { ModerationNode.sampleNode with
    view := ModerationNode.sampleNode.view.applySuspension sampleSuspension }

def sampleLift : ChangeTask :=
  { kind := .suspensions, path := "arkavo:alice", body := none,
    headers := ModerationNode.sampleHeaders, phase := .verifying }

def sampleCalls : ChangeCalls :=
  { answer := .ok ModerationNode.sampleOperator, now := 2000, nanos := 7, audit := .done,
    write := .lost }

theorem failures_change_nothing_lift :
    (suspendedNode.view.reload (some []) none (some [])).1 = suspendedNode.view ∧
      (¬∃ record, (suspendedNode.change sampleLift sampleCalls).2 = .ok record) ∧
      (suspendedNode.change sampleLift sampleCalls).1.view.isSuspended "alice" = true := by
  have unanswered : ¬∃ record, (suspendedNode.change sampleLift sampleCalls).2 = .ok record := by
    rintro ⟨record, answered⟩
    have refused : (suspendedNode.change sampleLift sampleCalls).2.toOption.isSome = false := by
      decide +kernel
    rw [answered] at refused
    cases refused
  refine ⟨failures_change_nothing.1 _ _ _ _ rfl, unanswered, ?_⟩
  rw [(failures_change_nothing.2 _ _ _ unanswered).1]
  decide +kernel

end Failures

end TdfIrohS3
