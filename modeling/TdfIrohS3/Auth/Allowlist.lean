import TdfIrohS3.Auth.AuthZen

namespace TdfIrohS3

open Library

namespace DecisionRequest

variable (req : DecisionRequest)

def subjectClaim (key : String) : Option Value :=
  (req.chain.find? fun e => e.kind = .subject).bind fun e => e.claims.get key

def patreonField (key : String) : Option Value :=
  (req.subjectClaim "arkavo_patreon").bind fun patreon => patreon.get key

def environmentClaim (key : String) : Option Value :=
  (req.chain.find? fun e => e.kind = .environment).bind fun e => e.claims.get key

def devices : List ChainEntity := req.chain.filter fun e => e.kind = .device

def textClaim (entity : ChainEntity) (key : String) : Option String :=
  (entity.claims.get key).bind Value.asStr

/-- Two requests that agree on what may leave the node. Their chains may differ in anything else: the
subject's bearer token, other claims of any entity, other fields of `arkavo_patreon`. -/
structure AgreeOnAllowed (left right : DecisionRequest) : Prop where
  action : left.action = right.action
  resourceType : left.resourceType = right.resourceType
  resources : left.resources = right.resources
  kinds : left.chain.map ChainEntity.kind = right.chain.map ChainEntity.kind
  subject : ∀ key ∈ ["sub", "iss", "email", "email_verified", "idp", "arkavo_account_id",
    "arkavo_roles", "arkavo_entitlements", "client_id"],
    left.subjectClaim key = right.subjectClaim key
  patreon : (left.subjectClaim "arkavo_patreon").isSome = (right.subjectClaim "arkavo_patreon").isSome
  patreonFields : ∀ key ∈ ["role", "patreon_user_id", "memberships", "verified_at",
    "cache_expires_at"], left.patreonField key = right.patreonField key
  campaign : left.patreonField "role" = some (.string "creator") →
    left.patreonField "campaign_id" = right.patreonField "campaign_id"
  devices : left.devices.map ChainEntity.token = right.devices.map ChainEntity.token
  deviceClaims : ∀ key ∈ ["sub", "iss", "aud", "kid"],
    left.devices.map (textClaim · key) = right.devices.map (textClaim · key)
  environment : ∀ key ∈ ["region", "kind"], left.environmentClaim key = right.environmentClaim key

end DecisionRequest

section Parts

theorem picked_congr {left right : Value} {keys : List String}
    (same : ∀ key ∈ keys, left.get key = right.get key) : picked left keys = picked right keys := by
  unfold picked
  apply List.filterMap_congr
  intro key member
  rw [same key member]

theorem asStr_eq_some {value : Option Value} {text : String} :
    value.bind Value.asStr = some text ↔ value = some (.string text) := by
  cases value with
  | none => simp
  | some found => cases found <;> simp [Value.asStr]

theorem sanitizePatreon_congr {left right : Value}
    (fields : ∀ key ∈ patreonAllowed, left.get key = right.get key)
    (campaign : left.get "role" = some (.string "creator") →
      left.get "campaign_id" = right.get "campaign_id") :
    sanitizePatreon left = sanitizePatreon right := by
  have role : left.get "role" = right.get "role" := fields "role" (by decide)
  unfold sanitizePatreon
  rw [picked_congr fields, ← role]
  by_cases creator : (left.get "role").bind Value.asStr = some "creator"
  · have same : ∀ key ∈ ["campaign_id"], left.get key = right.get key := by
      intro key member
      rw [List.mem_singleton.mp member]
      exact campaign (asStr_eq_some.mp creator)
    simp only [creator, picked_congr same]
  · simp only [creator, if_false]

theorem authzenSubject_congr {left right : ChainEntity}
    (claims : ∀ key ∈ ["sub", "iss", "email", "email_verified", "idp", "arkavo_account_id",
      "arkavo_roles", "arkavo_entitlements", "client_id"],
      left.claims.get key = right.claims.get key)
    (patreon : (left.claims.get "arkavo_patreon").map sanitizePatreon =
      (right.claims.get "arkavo_patreon").map sanitizePatreon) :
    authzenSubject left = authzenSubject right := by
  have id : left.claims.get "sub" = right.claims.get "sub" := claims "sub" (by decide)
  have properties : picked left.claims ["iss", "email", "email_verified", "idp",
      "arkavo_account_id", "arkavo_roles", "arkavo_entitlements", "client_id"] =
      picked right.claims ["iss", "email", "email_verified", "idp", "arkavo_account_id",
        "arkavo_roles", "arkavo_entitlements", "client_id"] :=
    picked_congr fun key member => claims key (List.mem_cons_of_mem _ member)
  have sanitized : (left.claims.get "arkavo_patreon").map
        (fun patreon => ("arkavo_patreon", sanitizePatreon patreon)) =
      (right.claims.get "arkavo_patreon").map
        (fun patreon => ("arkavo_patreon", sanitizePatreon patreon)) := by
    have paired := congrArg (Option.map fun value => ("arkavo_patreon", value)) patreon
    rwa [Option.map_map, Option.map_map] at paired
  unfold authzenSubject
  rw [id, properties, sanitized]

theorem allowlistDevice_congr {left right : ChainEntity} (token : left.token = right.token)
    (claims : ∀ key ∈ ["sub", "iss", "aud", "kid"],
      DecisionRequest.textClaim left key = DecisionRequest.textClaim right key) :
    allowlistDevice left = allowlistDevice right := by
  have sub := claims "sub" (by decide)
  have iss := claims "iss" (by decide)
  have aud := claims "aud" (by decide)
  have kid := claims "kid" (by decide)
  unfold DecisionRequest.textClaim at sub iss aud kid
  simp only [allowlistDevice, token, sub, iss, aud, kid]

theorem allowlistDevices_congr {left right : List ChainEntity}
    (tokens : left.map ChainEntity.token = right.map ChainEntity.token)
    (claims : ∀ key ∈ ["sub", "iss", "aud", "kid"],
      left.map (DecisionRequest.textClaim · key) = right.map (DecisionRequest.textClaim · key)) :
    left.map allowlistDevice = right.map allowlistDevice := by
  induction left generalizing right with
  | nil =>
      have empty : right = [] := List.map_eq_nil_iff.mp tokens.symm
      rw [empty]
  | cons device rest ih =>
      cases right with
      | nil => cases tokens
      | cons device' rest' =>
          simp only [List.map_cons, List.cons.injEq] at tokens claims ⊢
          refine ⟨allowlistDevice_congr tokens.1 fun key member => (claims key member).1, ?_⟩
          exact ih tokens.2 fun key member => (claims key member).2

theorem contextDevices_eq (chain : List ChainEntity) :
    contextDevices chain =
      match (chain.filter fun e => e.kind = .device).map allowlistDevice with
      | [] => []
      | [device] => [("device", device)]
      | devices => [("devices", .array devices)] := by
  unfold contextDevices
  cases chain.filter fun e => e.kind = .device with
  | nil => rfl
  | cons first rest =>
      cases rest with
      | nil => rfl
      | cons second rest => rfl

theorem find_kind {left right : List ChainEntity}
    (kinds : left.map ChainEntity.kind = right.map ChainEntity.kind) (kind : EntityKind) :
    (left.find? fun e => e.kind = kind).isSome = (right.find? fun e => e.kind = kind).isSome := by
  have there (chain : List ChainEntity) : (chain.find? fun e => e.kind = kind).isSome =
      (chain.map ChainEntity.kind).any fun k => k = kind := by
    rw [List.any_map, List.isSome_find?]
    rfl
  rw [there, there, kinds]

end Parts

namespace DecisionRequest.AgreeOnAllowed

variable {left right : DecisionRequest}

theorem contextDevices_eq (agree : AgreeOnAllowed left right) :
    contextDevices left.chain = contextDevices right.chain := by
  have same : left.devices.map allowlistDevice = right.devices.map allowlistDevice :=
    allowlistDevices_congr agree.devices agree.deviceClaims
  unfold DecisionRequest.devices at same
  rw [TdfIrohS3.contextDevices_eq, TdfIrohS3.contextDevices_eq, same]

theorem environment_eq (agree : AgreeOnAllowed left right) :
    ((left.chain.find? fun e => e.kind = .environment).map fun env =>
        ("environment", allowlistEnvironment env.claims)) =
      (right.chain.find? fun e => e.kind = .environment).map fun env =>
        ("environment", allowlistEnvironment env.claims) := by
  have both := find_kind agree.kinds .environment
  have claims := agree.environment
  unfold environmentClaim at claims
  cases found : left.chain.find? fun e => e.kind = .environment with
  | none =>
      rw [found] at both
      rw [Option.isNone_iff_eq_none.mp (Option.isSome_eq_false_iff.mp both.symm)]
  | some env =>
      rw [found] at both claims
      obtain ⟨env', found'⟩ := Option.isSome_iff_exists.mp both.symm
      rw [found'] at claims ⊢
      have same : allowlistEnvironment env.claims = allowlistEnvironment env'.claims :=
        congrArg Value.object (picked_congr claims)
      rw [Option.map_some, Option.map_some, same]

theorem subject_eq (agree : AgreeOnAllowed left right) :
    (left.chain.find? fun e => e.kind = .subject).map authzenSubject =
      (right.chain.find? fun e => e.kind = .subject).map authzenSubject := by
  have both := find_kind agree.kinds .subject
  have claims := agree.subject
  have present := agree.patreon
  have fields := agree.patreonFields
  have campaign := agree.campaign
  unfold patreonField at fields campaign
  unfold subjectClaim at claims present fields campaign
  cases found : left.chain.find? fun e => e.kind = .subject with
  | none =>
      rw [found] at both
      rw [Option.isNone_iff_eq_none.mp (Option.isSome_eq_false_iff.mp both.symm)]
  | some pe =>
      rw [found] at both claims present fields campaign
      obtain ⟨pe', found'⟩ := Option.isSome_iff_exists.mp both.symm
      rw [found'] at claims present fields campaign ⊢
      rw [Option.map_some, Option.map_some, authzenSubject_congr claims]
      simp only [Option.bind_some] at present fields campaign
      cases patreon : pe.claims.get "arkavo_patreon" with
      | none =>
          rw [patreon] at present
          rw [Option.isNone_iff_eq_none.mp (Option.isSome_eq_false_iff.mp present.symm)]
      | some value =>
          rw [patreon] at present fields campaign
          obtain ⟨value', patreon'⟩ := Option.isSome_iff_exists.mp present.symm
          rw [patreon'] at fields campaign ⊢
          rw [Option.map_some, Option.map_some, sanitizePatreon_congr fields campaign]

end DecisionRequest.AgreeOnAllowed

/-- Nothing outside the allowlist reaches the body: requests that agree on the allowlist have the same
one. -/
theorem buildAuthzenRequest_allowed (left right : DecisionRequest)
    (agree : left.AgreeOnAllowed right) : buildAuthzenRequest left = buildAuthzenRequest right := by
  have subject := agree.subject_eq
  unfold buildAuthzenRequest
  rw [agree.resources, agree.action, agree.resourceType, agree.contextDevices_eq,
    agree.environment_eq]
  cases found : left.chain.find? fun e => e.kind = .subject with
  | none =>
      rw [found, Option.map_none] at subject
      rw [Option.map_eq_none_iff.mp subject.symm]
  | some pe =>
      rw [found, Option.map_some] at subject
      obtain ⟨pe', found', same⟩ := Option.map_eq_some_iff.mp subject.symm
      rw [found']
      simp only [same]

theorem buildAuthzenRequest_allowed_patrons :
    ∃ left right : DecisionRequest, left ≠ right ∧ left.AgreeOnAllowed right ∧
      buildAuthzenRequest left = buildAuthzenRequest right := by
  let request (token secret : String) : DecisionRequest :=
    ⟨[⟨.subject, some token, .object [("sub", .string "s"), ("phone", .string secret),
        ("arkavo_patreon", .object [("role", .string "patron"), ("access_token", .string secret),
          ("campaign_id", .string secret)])]⟩,
      ⟨.device, some "cwt", .object [("sub", .string "s"), ("serial", .string secret)]⟩,
      ⟨.environment, none, .object [("region", .string "eu"), ("host", .string secret)]⟩],
      "read", .catalogItem, [("a", [])]⟩
  have agree : (request "one" "x").AgreeOnAllowed (request "two" "y") :=
    ⟨rfl, rfl, rfl, rfl, by decide, rfl, by decide, by decide, rfl, by decide, by decide⟩
  exact ⟨request "one" "x", request "two" "y", by decide, agree,
    buildAuthzenRequest_allowed _ _ agree⟩

end TdfIrohS3
