import TdfIrohS3.Moderation.Change
import TdfIrohS3.Publish.Gate

namespace TdfIrohS3

open Library

def Spelling (s q : String) : Prop := ∃ n, q = canonicalSubject^[n] s

def putRequest (kind : Kind) (path : String) (body : ActionRequest) (headers : Headers) : ChangeTask :=
  { kind, path, body := some body, headers, phase := .verifying }

/-- Every push on a session opened for the token subject `q` is refused as `Suspended` by a gate with
this view: one on a session in memory, and one on a session read back. -/
structure RefusesPushes (platform : Platform) (view : Moderation) (q : String) : Prop where
  held : ∀ (gate earlier : PublishGate) (opening now : Clock) (endpoint : EndpointId) (ttl : Nat)
    (chain : Option (List StoredEntity)) (connection : Nat) (hashHex : String),
    gate.moderation = view →
    gate.sessions.get endpoint =
      (earlier.openSessionWithChain opening endpoint q ttl chain).sessions.get endpoint →
    now.instant < opening.instant + ttl → gate.connections.get connection = some endpoint →
    gate.authorizePush now connection hashHex = .answered (some endpoint) (.error .suspended)
  stored : ∀ (gate : PublishGate) (clock : Clock) (endpoint : EndpointId) (hashHex : String)
    (answer : StoreAnswer) (record : SessionRecord), gate.moderation = view →
    gate.acceptedRecord platform clock endpoint answer = some record → record.subject = q →
    (gate.authorizePushStored platform clock endpoint hashHex answer).2 = .error .suspended

/-- Every check takes the spellings of `s` for one account. -/
structure ChecksAgree (platform : Platform) (s : String) : Prop where
  suspended : ∀ (node : ModerationNode) (p q : String) (body : ActionRequest) (headers : Headers)
    (calls : ChangeCalls) (record : Suspension), Spelling s p → Spelling s q →
    body.hideCatalog = true →
    (node.change (putRequest .suspensions p body headers) calls).2 = .ok record →
    let view := (node.change (putRequest .suspensions p body headers) calls).1.view
    view.isSuspended q = true ∧ view.catalogHidden q = true ∧ RefusesPushes platform view q
  blocked : ∀ (node : ModerationNode) (p q : String) (body : ActionRequest) (headers : Headers)
    (calls : ChangeCalls) (record : CatalogBlock), Spelling s p → Spelling s q →
    (node.change (putRequest .catalogBlocks p body headers) calls).2 = .ok record →
    (node.change (putRequest .catalogBlocks p body headers) calls).1.view.catalogHidden q = true
  decided : ∀ (gate : PublishGate) (p q : String) (chain : List StoredEntity), Spelling s p →
    Spelling s q → gate.decider.mode = .pdp → chainSubject chain = some p →
    gate.decidedSession (canonicalSubject q) (some chain) = .ok ()

section Single

variable {platform : Platform} {s q : String}

theorem Spelling.canonical (single : Text.stripPrefix s "arkavo:arkavo:" = none)
    (spelled : Spelling s q) : canonicalSubject q = canonicalSubject s := by
  obtain ⟨n, rfl⟩ := spelled
  induction n with
  | zero => rfl
  | succ n ih =>
      rw [Function.iterate_succ_apply', ih]
      exact (canonicalSubject_twice_iff s).mpr single

/-- A gate refuses the pushes of a session whose subject it sees suspended. -/
theorem refusesPushes_of_suspended {view : Moderation}
    (suspended : view.isSuspended (canonicalSubject q) = true) : RefusesPushes platform view q where
  held := by
    rintro gate earlier opening now endpoint ttl chain connection hashHex rfl opened live announced
    have session : gate.sessions.get endpoint =
        some ⟨canonicalSubject q, opening.instant + ttl, chain⟩ := by
      rw [opened]
      exact Table.get_insert_self _ _ _
    simp only [PublishGate.authorizePush, announced, PublishGate.heldSession, session, gt_iff_lt,
      live, if_true, PublishGate.pushDecision, suspended]
  stored := by
    rintro gate clock endpoint hashHex answer record rfl accepted rfl
    simp only [PublishGate.authorizePushStored, PublishGate.lookUp, accepted,
      PublishGate.pushDecision]
    rw [if_pos]
    exact suspended

theorem suspendRecord_hideCatalog {subject by_ : String} {body : ActionRequest} {at_ : Int}
    {record : Suspension} (made : suspendRecord subject body by_ at_ = .ok record) :
    record.hideCatalog = body.hideCatalog := by
  simp only [suspendRecord, when_ok, bind_ok] at made
  rcases made with ⟨-, reason, -, reportId, -, same⟩
  cases same
  rfl

theorem put_in_force {node : ModerationNode} {kind : Kind} {p : String} {body : ActionRequest}
    {headers : Headers} {calls : ChangeCalls} {record : kind.Record}
    (answered : (node.change (putRequest kind p body headers) calls).2 = .ok record) :
    ((node.change (putRequest kind p body headers) calls).1.view.active kind).table.get
      (kind.keyOf p) = some record := by
  have facts := ModerationNode.change_ok answered
  have made := ModerationNode.prepare_ok facts.1
  have fresh : kind.liftedAt record = none := by simpa [putRequest] using made.2
  have own : kind.keyOf p = kind.key record := made.1.symm
  rw [facts.2]
  change ((node.view.applyRecord kind record).active kind).table.get (kind.keyOf p) = some record
  rw [Moderation.applyRecord_eq, Moderation.set_active_self, Active.get_apply_of_unlifted _ fresh,
    if_pos own]

theorem put_hideCatalog {node : ModerationNode} {p : String} {body : ActionRequest}
    {headers : Headers} {calls : ChangeCalls} {record : Suspension}
    (answered : (node.change (putRequest .suspensions p body headers) calls).2 = .ok record) :
    record.hideCatalog = body.hideCatalog := by
  have made := (ModerationNode.change_ok answered).1
  unfold ModerationNode.prepare at made
  split at made
  · cases made
  · exact suspendRecord_hideCatalog made

theorem checksAgree_of_single (platform : Platform)
    (single : Text.stripPrefix s "arkavo:arkavo:" = none) : ChecksAgree platform s where
  suspended := by
    intro node p q body headers calls record first second hides answered view
    have twice := (canonicalSubject_twice_iff s).mpr single
    have stored : view.suspension s = some record := by
      have found := put_in_force answered
      rwa [Kind.keyOf, first.canonical single] at found
    have same : view.suspension q = some record := by
      rwa [Moderation.suspension, second.canonical single]
    have again : view.suspension (canonicalSubject q) = some record := by
      rwa [Moderation.suspension, second.canonical single, twice]
    have suspended : view.isSuspended (canonicalSubject q) = true := by
      rw [Moderation.isSuspended, again]
      rfl
    refine ⟨?_, ?_, refusesPushes_of_suspended suspended⟩
    · rw [Moderation.isSuspended, same]
      rfl
    · simp only [Moderation.catalogHidden, again, Option.any_some, put_hideCatalog answered, hides,
        Bool.or_true]
  blocked := by
    intro node p q body headers calls record first second answered
    have found := put_in_force answered
    rw [Kind.keyOf, first.canonical single, ← second.canonical single] at found
    simp only [Moderation.catalogHidden, Table.contains, found, Option.isSome_some, Bool.true_or]
  decided := by
    intro gate p q chain first second mode named
    have person : canonicalSubject p = canonicalSubject (canonicalSubject q) := by
      rw [first.canonical single, second.canonical single, (canonicalSubject_twice_iff s).mpr single]
    simp only [PublishGate.decidedSession, mode, named, person, ne_eq, not_true_eq_false, if_false]

def soleChain (sub : String) : List StoredEntity :=
  [{ kind := .subject, claims := .object [("sub", .string sub)] }]

theorem chainSubject_soleChain (sub : String) : chainSubject (soleChain sub) = some sub := rfl

def pdpGate (view : Moderation) : PublishGate :=
  (PublishGate.new view).withDecider
    { mode := .pdp, provider := true, entitlement := defaultPublishEntitlement, environment := none }

/-- Every check takes a subject for the same account, however often it has been canonicalised,
exactly when the subject carries at most one `arkavo:`. -/
theorem checks_agree_iff (platform : Platform) (s : String) :
    ChecksAgree platform s ↔ Text.stripPrefix s "arkavo:arkavo:" = none := by
  refine ⟨?_, checksAgree_of_single platform⟩
  intro agree
  -- the chain of a session names the person as the token does, the session in canonical form
  have decided := agree.decided (pdpGate Moderation.empty) s s (soleChain s) ⟨0, rfl⟩ ⟨0, rfl⟩ rfl
    (chainSubject_soleChain s)
  rw [← canonicalSubject_twice_iff]
  by_contra different
  have other : canonicalSubject s ≠ canonicalSubject (canonicalSubject s) := Ne.symm different
  have pdp : (pdpGate Moderation.empty).decider.mode = .pdp := rfl
  simp [PublishGate.decidedSession, pdp, chainSubject_soleChain, other] at decided

end Single

section Doubled

def doubledSubject : String := "arkavo:arkavo:alice"

def hidingAction : ActionRequest := { reason := "spam", reportId := none, hideCatalog := true }

def suspendDoubled : ChangeTask :=
  putRequest .suspensions doubledSubject hidingAction ModerationNode.sampleHeaders

def reliableCalls : ChangeCalls :=
  { answer := .ok ModerationNode.sampleOperator, now := 2000, nanos := 7, audit := .done,
    write := .done }

def doubledEndpoint : EndpointId := ⟨List.replicate 32 5, by decide⟩

def doubledGate (gate : PublishGate) : PublishGate :=
  (gate.openSessionWithChain ⟨0, unixAt 0⟩ doubledEndpoint doubledSubject 900
    (some (soleChain doubledSubject))).connected 1 (some doubledEndpoint)

def PublishGate.PushStart.refusal : PublishGate.PushStart → Option PushRefusal
  | .answered _ (.error refusal) => some refusal
  | _ => none

def PublishGate.PushStart.accepted : PublishGate.PushStart → Bool
  | .answered _ (.ok _) => true
  | _ => false

/-- With a second prefix they part: the suspension is answered 200 and in force, and yet the catalog
stays visible, a push on a session of the same token subject is accepted, and in `pdp` the session is
refused for the person its own chain names. -/
theorem checks_part_on_doubled :
    validSubject (canonicalSubject doubledSubject) = true ∧
    (∃ record, (ModerationNode.sampleNode.change suspendDoubled reliableCalls).2 = .ok record) ∧
    (let view := (ModerationNode.sampleNode.change suspendDoubled reliableCalls).1.view
     view.isSuspended doubledSubject = true ∧ view.catalogHidden doubledSubject = false ∧
      ((doubledGate (PublishGate.new view)).authorizePush ⟨10, unixAt 10⟩ 1 "ab").accepted = true) ∧
    ((doubledGate (pdpGate Moderation.empty)).authorizePush ⟨10, unixAt 10⟩ 1 "ab").refusal =
      some .noSession := by
  refine ⟨by decide +kernel, ?_, by decide +kernel, by decide +kernel⟩
  have answered : (ModerationNode.sampleNode.change suspendDoubled reliableCalls).2.toOption.isSome =
      true := by
    decide +kernel
  cases answer : (ModerationNode.sampleNode.change suspendDoubled reliableCalls).2 with
  | ok record => exact ⟨record, rfl⟩
  | error refusal =>
      rw [answer] at answered
      cases answered

end Doubled

end TdfIrohS3
