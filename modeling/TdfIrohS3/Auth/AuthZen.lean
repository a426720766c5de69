import Mathlib.Data.List.Basic
import TdfIrohS3.Catalog.Format
import TdfIrohS3.Publish.Decision

namespace TdfIrohS3

open Library

inductive ResourceType
  | catalogItem
  | publisher
  deriving DecidableEq, Repr

def ResourceType.asStr : ResourceType → String
  | .catalogItem => "catalog_item"
  | .publisher => "publisher"

structure DecisionRequest where
  chain : List ChainEntity
  action : String
  resourceType : ResourceType
  /-- Each resource's id with its attribute-value FQNs. -/
  resources : List (String × List String)
  deriving DecidableEq, Repr

section Request

def patreonAllowed : List String :=
  ["role", "patreon_user_id", "memberships", "verified_at", "cache_expires_at"]

def picked (value : Value) (keys : List String) : List (String × Value) :=
  keys.filterMap fun key => (value.get key).map fun found => (key, found)

/-- Only a creator may carry `campaign_id`. -/
def sanitizePatreon (patreon : Value) : Value :=
  let creator := (patreon.get "role").bind Value.asStr = some "creator"
  .object (picked patreon patreonAllowed ++
    if creator then picked patreon ["campaign_id"] else [])

def authzenSubject (pe : ChainEntity) : Value :=
  let properties := picked pe.claims ["iss", "email", "email_verified", "idp", "arkavo_account_id",
    "arkavo_roles", "arkavo_entitlements", "client_id"]
  let patreon := ((pe.claims.get "arkavo_patreon").map fun patreon =>
    ("arkavo_patreon", sanitizePatreon patreon)).toList
  .object [("type", .string "identity"), ("id", (pe.claims.get "sub").getD .null),
    ("properties", .object (properties ++ patreon))]

def allowlistDevice (device : ChainEntity) : Value :=
  let text (key : String) : Value :=
    .string (((device.claims.get key).bind Value.asStr).getD "")
  .object ([("sub", text "sub"), ("iss", text "iss"), ("aud", text "aud"), ("kid", text "kid")] ++
    (device.token.map fun token => ("token", Value.string token)).toList)

def allowlistEnvironment (claims : Value) : Value := .object (picked claims ["region", "kind"])

def contextDevices (chain : List ChainEntity) : List (String × Value) :=
  match chain.filter fun e => e.kind = .device with
  | [] => []
  | [device] => [("device", allowlistDevice device)]
  | devices => [("devices", .array (devices.map allowlistDevice))]

def evaluationFor (resourceType : ResourceType) (resource : String × List String) : Value :=
  .object [("resource", .object [("type", .string resourceType.asStr), ("id", .string resource.1),
    ("properties", .object [("attribute_value_fqns", .array (resource.2.map .string))])])]

def buildAuthzenRequest (req : DecisionRequest) : Except String Value :=
  match req.chain.find? fun e => e.kind = .subject with
  | none => .error "decision request has no subject entity"
  | some pe =>
      if req.resources.isEmpty then .error "empty resources must not be posted"
      else
        let environment := (req.chain.find? fun e => e.kind = .environment).map fun env =>
          ("environment", allowlistEnvironment env.claims)
        .ok (.object [("subject", authzenSubject pe),
          ("action", .object [("name", .string req.action)]),
          ("context", .object (contextDevices req.chain ++ environment.toList ++
            [("pep", .object [("fulfillable_obligation_fqns", .array [])])])),
          ("evaluations", .array (req.resources.map (evaluationFor req.resourceType))),
          ("options", .object [("evaluations_semantic", .string "execute_all")])])

end Request

section Response

structure EvaluationEntry where
  decision : Bool
  context : Option Value
  deriving DecidableEq, Repr

def readContext : Option Value → Option Value
  | some .null => none
  | context => context.map Value.lastWins

def EvaluationEntry.read : Value → Option EvaluationEntry
  | .array [] => some ⟨false, none⟩
  | .array [.bool decision] => some ⟨decision, none⟩
  | .array [.bool decision, context] => some ⟨decision, readContext (some context)⟩
  | .object members =>
      match members.filter (fun m => m.1 == "decision"),
        members.filter (fun m => m.1 == "context") with
      | [], [] => some ⟨false, none⟩
      | [], [(_, context)] => some ⟨false, readContext (some context)⟩
      | [(_, .bool decision)], [] => some ⟨decision, none⟩
      | [(_, .bool decision)], [(_, context)] => some ⟨decision, readContext (some context)⟩
      | _, _ => none
  | _ => none

def readEvaluations : Value → Option (List EvaluationEntry)
  | .array items => items.mapM EvaluationEntry.read
  | _ => none

def readEvaluationsResponse : Value → Option (List EvaluationEntry)
  | .array [] => some []
  | .array [evaluations] => readEvaluations evaluations
  | .object members =>
      match members.filter (fun m => m.1 == "evaluations") with
      | [] => some []
      | [(_, evaluations)] => readEvaluations evaluations
      | _ => none
  | _ => none

/-- Obligations that are present and not an empty array count, whatever they are. -/
def requiredObligationsNonempty (context : Option Value) : Bool :=
  match (context.bind fun c => c.get "obligations").bind fun o => o.get "required" with
  | none => false
  | some (.array items) => !items.isEmpty
  | some _ => true

def evaluationEntitled (decision : Bool) (context : Option Value) : Bool :=
  decision && !requiredObligationsNonempty context

/-- The evaluations come in the order of the resources; any other count fails the batch. A later
evaluation of one id replaces an earlier one. -/
def mapEvaluations (resources : List (String × List String)) (evaluations : List EvaluationEntry) :
    Except String Decisions :=
  if evaluations.length = resources.length then
    .ok (List.zipWith (fun resource e => (resource.1, evaluationEntitled e.decision e.context))
      resources evaluations).reverse
  else .error ("AuthZEN returned " ++ toString evaluations.length ++ " evaluations for " ++
    toString resources.length ++ " resources")

end Response

inductive PostAnswer
  | unsent
  | rejected (status : Nat)
  | unreadable
  | answered (body : Value)
  deriving DecidableEq, Repr

/-- The decision service during one decision: whether its endpoint is found, and what it answers to
each request, which may depend on how many came before. -/
structure DecisionService where
  endpoint : Bool
  post : Nat → Value → PostAnswer

namespace DecisionService

variable (service : DecisionService)

def decideBatch (batch : Nat) (req : DecisionRequest) : Except String Decisions :=
  match buildAuthzenRequest req with
  | .error why => .error why
  | .ok body =>
      match service.post batch body with
      | .unsent => .error "AuthZEN POST"
      | .rejected status => .error ("AuthZEN evaluations returned " ++ toString status)
      | .unreadable => .error "AuthZEN response JSON"
      | .answered tree =>
          match readEvaluationsResponse tree with
          | none => .error "AuthZEN response JSON"
          | some evaluations => mapEvaluations req.resources evaluations

def maxEvaluations : Nat := 500

def decideBatches (req : DecisionRequest) :
    Nat → List (List (String × List String)) → Decisions → Except String Decisions
  | _, [], decisions => .ok decisions
  | batch, chunk :: rest, decisions =>
      match service.decideBatch batch { req with resources := chunk } with
      | .error why => .error why
      | .ok part => decideBatches req (batch + 1) rest (part ++ decisions)

def decide (req : DecisionRequest) : Except String Decisions :=
  if req.resources.isEmpty then .ok []
  else if !service.endpoint then .error "AuthZEN discovery"
  else service.decideBatches req 0 (req.resources.toChunks maxEvaluations) []

/-- The service was asked about this subject and this one resource, and its only evaluation is a
permit without obligations. -/
structure Permits (service : DecisionService) (req : DecisionRequest) (sub id : String)
    (fqns : List String) : Prop where
  answer : ∃ body tree evaluation, buildAuthzenRequest req = .ok body ∧
    (body.get "subject").bind (fun subject => subject.get "id") = some (.string sub) ∧
    body.get "evaluations" = some (.array [evaluationFor req.resourceType (id, fqns)]) ∧
    service.post 0 body = .answered tree ∧ readEvaluationsResponse tree = some [evaluation] ∧
    evaluation.decision = true ∧
    ∀ required, (evaluation.context.bind fun c => c.get "obligations").bind
      (fun o => o.get "required") = some required → required = .array []

theorem no_obligations {context : Option Value} (none : requiredObligationsNonempty context = false)
    {required : Value} (found : (context.bind fun c => c.get "obligations").bind
      (fun o => o.get "required") = some required) : required = .array [] := by
  unfold requiredObligationsNonempty at none
  rw [found] at none
  cases required with
  | array items =>
      cases items with
      | nil => rfl
      | cons item rest => simp at none
  | _ => cases none

theorem mapEvaluations_single {id : String} {fqns : List String} {evaluations : List EvaluationEntry}
    {decisions : Decisions} (mapped : mapEvaluations [(id, fqns)] evaluations = .ok decisions) :
    ∃ evaluation, evaluations = [evaluation] ∧
      decisions = [(id, evaluationEntitled evaluation.decision evaluation.context)] := by
  unfold mapEvaluations at mapped
  split at mapped
  · rename_i counted
    obtain ⟨evaluation, rfl⟩ := List.length_eq_one_iff.mp counted
    cases mapped
    exact ⟨evaluation, rfl, rfl⟩
  · cases mapped

variable {service}

theorem decideBatch_ok {batch : Nat} {req : DecisionRequest} {decisions : Decisions}
    (decided : service.decideBatch batch req = .ok decisions) :
    ∃ body tree evaluations, buildAuthzenRequest req = .ok body ∧
      service.post batch body = .answered tree ∧ readEvaluationsResponse tree = some evaluations ∧
      mapEvaluations req.resources evaluations = .ok decisions := by
  unfold decideBatch at decided
  split at decided
  · cases decided
  · rename_i body built
    split at decided
    · cases decided
    · cases decided
    · cases decided
    · rename_i tree answered
      split at decided
      · cases decided
      · rename_i evaluations read
        exact ⟨body, tree, evaluations, built, answered, read, decided⟩

theorem decide_single {req : DecisionRequest} {resource : String × List String}
    {decisions : Decisions} (single : req.resources = [resource])
    (decided : service.decide req = .ok decisions) :
    service.decideBatch 0 req = .ok decisions := by
  have chunks : req.resources.toChunks maxEvaluations = [[resource]] := by
    rw [single]
    rfl
  have whole : { req with resources := [resource] } = req := by
    rw [← single]
  unfold decide at decided
  rw [chunks, single] at decided
  simp only [List.isEmpty_cons, Bool.false_eq_true, if_false, decideBatches, whole] at decided
  split at decided
  · cases decided
  · split at decided
    · cases decided
    · rename_i part batched
      cases decided
      rw [batched, List.append_nil]

theorem build_asks {req : DecisionRequest} {claims : VerifiedClaims} {token : Option String}
    {rest : List ChainEntity} {resource : String × List String} {body : Value}
    (chain : req.chain = subjectEntity claims token :: rest) (single : req.resources = [resource])
    (built : buildAuthzenRequest req = .ok body) :
    (body.get "subject").bind (fun subject => subject.get "id") = some (.string claims.sub) ∧
      body.get "evaluations" = some (.array [evaluationFor req.resourceType resource]) := by
  unfold buildAuthzenRequest at built
  rw [chain, single] at built
  cases built
  exact ⟨rfl, rfl⟩

theorem decide_permits {req : DecisionRequest} {claims : VerifiedClaims} {token : Option String}
    {rest : List ChainEntity} {id : String} {fqns : List String} {decisions : Decisions}
    (chain : req.chain = subjectEntity claims token :: rest)
    (single : req.resources = [(id, fqns)]) (decided : service.decide req = .ok decisions)
    (permitted : decisions.lookup id = some true) : service.Permits req claims.sub id fqns := by
  obtain ⟨body, tree, evaluations, built, answered, read, mapped⟩ :=
    decideBatch_ok (decide_single single decided)
  rw [single] at mapped
  obtain ⟨evaluation, rfl, rfl⟩ := mapEvaluations_single mapped
  have entitled : evaluationEntitled evaluation.decision evaluation.context = true := by
    simpa using permitted
  simp only [evaluationEntitled, Bool.and_eq_true, Bool.not_eq_true'] at entitled
  have asked := build_asks chain single built
  exact ⟨body, tree, evaluation, built, asked.1, asked.2, answered, read, entitled.1,
    fun _ found => no_obligations entitled.2 found⟩

end DecisionService

end TdfIrohS3
