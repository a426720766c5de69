import TdfIrohS3.Http
import TdfIrohS3.Library.Fallible
import TdfIrohS3.Moderation.View

namespace TdfIrohS3

open Library

inductive Aud
  | one (audience : String)
  | many (audiences : List String)
  deriving DecidableEq, Repr

def Aud.contains : Aud → String → Bool
  | .one audience, wanted => audience == wanted
  | .many audiences, wanted => audiences.contains wanted

structure VerifiedClaims where
  iss : String
  sub : String
  aud : Aud
  exp : Int
  iat : Int
  nbf : Option Int
  cti : List UInt8
  kid : Option String
  patreonUserId : Option String
  email : Option String
  emailVerified : Option Bool
  idp : Option String
  arkavoAccountId : Option String
  arkavoRoles : Option (List String)
  arkavoEntitlements : List String
  clientId : Option String
  arkavoPatreon : Option Value
  deriving DecidableEq, Repr

def VerifiedClaims.bare (sub aud : String) : VerifiedClaims where
  iss := "https://identity.arkavo.net"
  sub := sub
  aud := .one aud
  exp := 4000
  iat := 0
  nbf := none
  cti := [1]
  kid := none
  patreonUserId := none
  email := none
  emailVerified := none
  idp := none
  arkavoAccountId := none
  arkavoRoles := none
  arkavoEntitlements := []
  clientId := none
  arkavoPatreon := none

/-- Why a token does not verify. Only a failed fetch of the key set is the node's own trouble. -/
inductive AuthError
  | keySet
  | invalid
  deriving DecidableEq, Repr

inductive EntityKind
  | subject
  | device
  | environment
  deriving DecidableEq, Repr

structure ChainEntity where
  kind : EntityKind
  token : Option String
  claims : Value
  deriving DecidableEq, Repr

structure StoredEntity where
  kind : EntityKind
  claims : Value
  deriving DecidableEq, Repr

def stripTokens (chain : List ChainEntity) : List StoredEntity :=
  chain.map fun e => { kind := e.kind, claims := e.claims }

section EntityChain

def maxChainEntities : Nat := 8

def entityTokens (headers : Headers) : List String :=
  (headers.getAll "x-entity-token").filterMap Headers.toStr

def checkLength (devices : Nat) (environment : Bool) : Except Refusal Unit :=
  if 1 + devices + environment.toNat > maxChainEntities then .error ⟨400, "too many entities"⟩
  else .ok ()

private def member (key : String) (value : Option Value) : List (String × Value) :=
  match value with
  | some value => [(key, value)]
  | none => []

private def strings (items : List String) : Value := .array (items.map .string)

def subjectEntity (pe : VerifiedClaims) (token : Option String) : ChainEntity where
  kind := .subject
  token := token
  claims := .object
    (("sub", .string pe.sub) :: ("iss", .string pe.iss) ::
      member "patreon_user_id" (pe.patreonUserId.map .string) ++
      member "email" (pe.email.map .string) ++
      member "email_verified" (pe.emailVerified.map .bool) ++
      member "idp" (pe.idp.map .string) ++
      member "arkavo_account_id" (pe.arkavoAccountId.map .string) ++
      member "arkavo_roles" (pe.arkavoRoles.map strings) ++
      member "arkavo_entitlements"
        (if pe.arkavoEntitlements.isEmpty then none else some (strings pe.arkavoEntitlements)) ++
      member "client_id" (pe.clientId.map .string) ++
      member "arkavo_patreon" pe.arkavoPatreon)

def verifiedDevice (token peSub : String) (answer : Except AuthError VerifiedClaims) :
    Except Refusal ChainEntity :=
  match answer with
  | .error _ => .error ⟨401, "invalid entity token"⟩
  | .ok claims =>
      if subjectIdBind claims.sub ≠ subjectIdBind peSub then
        .error ⟨401, "entity token subject does not match bearer subject"⟩
      else
        match claims.kid with
        | none => .error ⟨401, "invalid entity token"⟩
        | some kid =>
            if kid = "" then .error ⟨401, "invalid entity token"⟩
            else .ok {
              kind := .device
              token := some (Text.trim token)
              claims := .object [("sub", .string claims.sub), ("iss", .string claims.iss),
                ("aud", .string "arkavo:devicecheck"), ("kid", .string kid)] }

/-- The devices in header order; the first that fails refuses the chain. A token for which the
verifier has no answer counts as one that does not verify. -/
def verifiedDevices (peSub : String) :
    List String → List (Except AuthError VerifiedClaims) → Except Refusal (List ChainEntity)
  | [], _ => .ok []
  | token :: tokens, answers => do
      let device ← verifiedDevice token peSub (answers.headD (.error .invalid))
      let devices ← verifiedDevices peSub tokens answers.tail
      return device :: devices

def environmentEntity (environment : Value) : ChainEntity where
  kind := .environment
  token := none
  claims := environment

def chainSubject (chain : List StoredEntity) : Option String := do
  let person ← chain.find? fun e => e.kind = .subject
  let sub ← person.claims.get "sub"
  sub.asStr

theorem chainSubject_person (claims : VerifiedClaims) (token : Option String)
    (rest : List ChainEntity) :
    chainSubject (stripTokens (subjectEntity claims token :: rest)) = some claims.sub := by
  rfl

end EntityChain

def defaultPublishEntitlement : String :=
  "https://patreon.arkavo.com/attr/arkavo-creator/value/publish"

inductive PublishDecisions
  | local
  | shadow
  | pdp
  deriving DecidableEq, Repr

inductive Verdict
  | permit
  | deny
  | unavailable
  deriving DecidableEq, Repr

abbrev Decisions := List (String × Bool)

structure PublishDecider where
  mode : PublishDecisions
  /-- Whether a decision service is configured. -/
  provider : Bool
  entitlement : String
  environment : Option Value
  deriving DecidableEq, Repr

def PublishDecider.ask (decider : PublishDecider) (chain : List ChainEntity)
    (answer : Option Decisions) : Verdict :=
  if decider.provider then
    match chainSubject (stripTokens chain) with
    | none => .unavailable
    | some sub =>
        match answer with
        | none => .unavailable
        | some decisions => if (decisions.lookup sub).getD false then .permit else .deny
  else .unavailable

structure PublishPolicy where
  entitlement : Option String
  audience : Option String
  /-- Nanoseconds. -/
  sessionTtl : Nat
  operatorClientIds : List String
  decider : PublishDecider
  deriving DecidableEq, Repr

/-- What the remote parties answer during one `publisher_with_chain`: the token verifier for the
bearer token and for each device token, and the decision service. -/
structure Answers where
  verified : Except AuthError VerifiedClaims
  devices : List (Except AuthError VerifiedClaims)
  decision : Option Decisions

namespace PublishPolicy

/-- An operator: a service token (`sub = client:<id>`, role `service-account`, `aud` naming the
client) on the allowlist. -/
def operator (policy : PublishPolicy) (headers : Headers)
    (verified : Except AuthError VerifiedClaims) : Except Refusal String :=
  if policy.operatorClientIds.isEmpty then .error ⟨503, "operator API not configured"⟩
  else
    match bearer headers with
    | none => .error ⟨401, "missing bearer token"⟩
    | some _ =>
        match verified with
        | .error .keySet => .error ⟨502, "invalid token"⟩
        | .error .invalid => .error ⟨401, "invalid token"⟩
        | .ok claims =>
            match Text.stripPrefix claims.sub "client:" with
            | none => .error ⟨403, "operator token required"⟩
            | some client =>
                if client = "" then .error ⟨403, "operator token required"⟩
                else if !(claims.arkavoRoles.getD []).contains "service-account" ||
                    !claims.aud.contains client then
                  .error ⟨403, "operator token required"⟩
                else if !policy.operatorClientIds.contains client then
                  .error ⟨403, "not an operator"⟩
                else .ok ("client:" ++ client)

def chain (policy : PublishPolicy) (headers : Headers) (claims : VerifiedClaims) (token : String)
    (answers : List (Except AuthError VerifiedClaims)) : Except Refusal (List ChainEntity) := do
  let devices := entityTokens headers
  checkLength devices.length policy.decider.environment.isSome
  let verified ← verifiedDevices claims.sub devices answers
  return subjectEntity claims (some token) :: verified ++
    (policy.decider.environment.map environmentEntity).toList

def publisherVerified (policy : PublishPolicy) (view : Moderation) (headers : Headers)
    (verified : Except AuthError VerifiedClaims) :
    Except Refusal (String × VerifiedClaims × Except Refusal Unit) :=
  match bearer headers with
  | none => .error ⟨401, "missing bearer token"⟩
  | some token =>
      match verified with
      | .error .keySet => .error ⟨502, "invalid token"⟩
      | .error .invalid => .error ⟨401, "invalid token"⟩
      | .ok claims =>
          if (Text.stripPrefix claims.sub "client:").isSome then
            .error ⟨403, "service tokens cannot publish"⟩
          else if view.isSuspended claims.sub ∧ policy.decider.mode ≠ .shadow then
            .error ⟨403, "publishing suspended"⟩
          else if view.isSuspended claims.sub then
            .ok (token, claims, .error ⟨403, "publishing suspended"⟩)
          else
            match policy.entitlement with
            | some wanted =>
                if claims.arkavoEntitlements.contains wanted then .ok (token, claims, .ok ())
                else .ok (token, claims, .error ⟨403, "publishing entitlement required"⟩)
            | none => .ok (token, claims, .ok ())

/-- The rest of `publisher_with_chain`: who decides, and which chain the session keeps. -/
def publisherDecided (policy : PublishPolicy) (headers : Headers) (token : String)
    (claims : VerifiedClaims) (ownAnswer : Except Refusal Unit)
    (devices : List (Except AuthError VerifiedClaims)) (decision : Option Decisions) :
    Except Refusal (VerifiedClaims × Option (List ChainEntity)) :=
  match policy.decider.mode with
  | .local => ownAnswer.map fun _ => (claims, none)
  | .shadow =>
      match policy.chain headers claims token devices with
      | .error _ => ownAnswer.map fun _ => (claims, none)
      | .ok chain =>
          ownAnswer.map fun _ =>
            (claims, if policy.decider.ask chain decision = .permit then some chain else none)
  | .pdp =>
      match policy.chain headers claims token devices with
      | .error refusal => .error refusal
      | .ok chain =>
          match policy.decider.ask chain decision with
          | .permit => .ok (claims, some chain)
          | .deny => .error ⟨403, "publishing not permitted"⟩
          | .unavailable => .error ⟨503, "decision service unavailable"⟩

def publisherWithChain (policy : PublishPolicy) (view : Moderation) (headers : Headers)
    (answers : Answers) : Except Refusal (VerifiedClaims × Option (List ChainEntity)) :=
  match policy.publisherVerified view headers answers.verified with
  | .error refusal => .error refusal
  | .ok (token, claims, ownAnswer) =>
      policy.publisherDecided headers token claims ownAnswer answers.devices answers.decision

section Specifications

variable {policy : PublishPolicy} {view : Moderation} {headers : Headers} {token : String}
variable {claims : VerifiedClaims} {ownAnswer : Except Refusal Unit}

theorem publisherVerified_ok {answer : Except AuthError VerifiedClaims}
    (verified : policy.publisherVerified view headers answer = .ok (token, claims, ownAnswer)) :
    bearer headers = some token ∧ answer = .ok claims := by
  unfold publisherVerified at verified
  split at verified
  · cases verified
  · rename_i presented found
    split at verified
    · cases verified
    · cases verified
    · split at verified
      · cases verified
      · split at verified
        · cases verified
        · split at verified
          · cases verified
            exact ⟨found, rfl⟩
          · split at verified
            · split at verified <;> cases verified <;> exact ⟨found, rfl⟩
            · cases verified
              exact ⟨found, rfl⟩

variable {devices : List (Except AuthError VerifiedClaims)} {decision : Option Decisions}
variable {answered : VerifiedClaims} {kept : Option (List ChainEntity)}

theorem publisherDecided_claims
    (decided : policy.publisherDecided headers token claims ownAnswer devices decision =
      .ok (answered, kept)) : answered = claims := by
  unfold publisherDecided at decided
  cases ownAnswer with
  | error refusal =>
      split at decided
      · cases decided
      · split at decided <;> cases decided
      · split at decided
        · cases decided
        · split at decided <;> cases decided
          rfl
  | ok _ =>
      split at decided
      · cases decided
        rfl
      · split at decided <;> cases decided <;> rfl
      · split at decided
        · cases decided
        · split at decided <;> cases decided
          rfl

/-- A chain is kept only when the decision service was asked about it and permitted it. -/
theorem publisherDecided_permit {chain : List ChainEntity}
    (decided : policy.publisherDecided headers token claims ownAnswer devices decision =
      .ok (answered, some chain)) :
    policy.decider.mode ≠ .local ∧ policy.chain headers claims token devices = .ok chain ∧
      policy.decider.ask chain decision = .permit := by
  unfold publisherDecided at decided
  split at decided
  · cases ownAnswer <;> cases decided
  · rename_i shadow
    have asked : policy.decider.mode ≠ .local := by rw [shadow]; decide
    split at decided
    · cases ownAnswer <;> cases decided
    · rename_i built chained
      cases ownAnswer with
      | error refusal => cases decided
      | ok _ =>
          simp only [Except.map, Except.ok.injEq, Prod.mk.injEq] at decided
          obtain ⟨-, same⟩ := decided
          split at same
          · rename_i permitted
            cases same
            exact ⟨asked, chained, permitted⟩
          · cases same
  · rename_i pdp
    have asked : policy.decider.mode ≠ .local := by rw [pdp]; decide
    split at decided
    · cases decided
    · rename_i built chained
      split at decided <;> cases decided
      rename_i permitted
      exact ⟨asked, chained, permitted⟩

theorem chain_person {chain : List ChainEntity}
    (built : policy.chain headers claims token devices = .ok chain) :
    chainSubject (stripTokens chain) = some claims.sub := by
  simp only [PublishPolicy.chain, bind_ok] at built
  rcases built with ⟨-, -, found, -, same⟩
  cases same
  exact chainSubject_person claims (some token) _

end Specifications

end PublishPolicy

end TdfIrohS3
