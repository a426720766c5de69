import Mathlib.Data.List.Forall2
import TdfIrohS3.Auth.Cwt
import TdfIrohS3.Catalog.Handlers

namespace TdfIrohS3

open Library

def devicecheckAud : String := "arkavo:devicecheck"

def TokenError.asAuthError : TokenError → AuthError
  | .keySet _ => .keySet
  | _ => .invalid

section Devices

variable {Key : Type} (platform : AuthPlatform Key) (expectedIss : Option String) (now : Int)

def verifyDevice (keys : KeyAnswers Key) (token : String) : Except TokenError VerifiedClaims := do
  let claims ← verifyWith platform keys expectedIss (some devicecheckAud) now token
  if claims.kid.all fun kid => kid == "" then .error (.missingClaim "kid") else .ok claims

def deviceAnswers (tokens : List String) (keys : List (KeyAnswers Key)) :
    List (Except AuthError VerifiedClaims) :=
  List.zipWith
    (fun token known => (verifyDevice platform expectedIss now known token).mapError
      TokenError.asAuthError) tokens keys

def BoundDevice (person : VerifiedClaims) (token : String) (keys : KeyAnswers Key)
    (device : ChainEntity) : Prop :=
  ∃ claims kid, verifyDevice platform expectedIss now keys token = .ok claims ∧
    subjectIdBind claims.sub = subjectIdBind person.sub ∧ claims.kid = some kid ∧
    device = ⟨.device, some (Text.trim token), .object [("sub", .string claims.sub),
      ("iss", .string claims.iss), ("aud", .string devicecheckAud), ("kid", .string kid)]⟩

/-- The person, exactly one device for each of the values in their order, at most one environment,
and no more entities than allowed. -/
def CompleteChain (known : List (KeyAnswers Key)) (person : VerifiedClaims) (token : String)
    (environment : Option Value) (values : List String) (chain : List ChainEntity) : Prop :=
  chain.length ≤ maxChainEntities ∧
    ∃ devices, chain = subjectEntity person (some token) :: devices ++
        (environment.map environmentEntity).toList ∧
      List.Forall₂
        (fun value device => (Headers.toStr value).isSome = true ∧
          ∃ keys ∈ known, BoundDevice platform expectedIss now person value keys device)
        values devices

end Devices

section Verified

variable {Key : Type} {platform : AuthPlatform Key} {expectedIss : Option String} {now : Int}
variable {person : VerifiedClaims}

theorem verifyDevice_kid {keys : KeyAnswers Key} {token : String} {claims : VerifiedClaims}
    (verified : verifyDevice platform expectedIss now keys token = .ok claims) :
    ∃ kid, claims.kid = some kid ∧ kid ≠ "" := by
  simp only [verifyDevice, bind_ok, unless_error_ok] at verified
  obtain ⟨read, -, named, same⟩ := verified
  cases same
  cases held : claims.kid with
  | none => simp [held] at named
  | some kid => exact ⟨kid, rfl, by simpa [held] using named⟩

theorem verifiedDevice_ok_iff {keys : KeyAnswers Key} {token : String} {device : ChainEntity} :
    verifiedDevice token person.sub ((verifyDevice platform expectedIss now keys token).mapError
        TokenError.asAuthError) = .ok device ↔
      BoundDevice platform expectedIss now person token keys device := by
  unfold BoundDevice
  cases verified : verifyDevice platform expectedIss now keys token with
  | error why => simp [mapError_of_error, verifiedDevice]
  | ok claims =>
      obtain ⟨kid, held, named⟩ := verifyDevice_kid verified
      by_cases bound : subjectIdBind claims.sub = subjectIdBind person.sub
      · simp [mapError_of_ok, verifiedDevice, held, named, bound, devicecheckAud, eq_comm]
      · simp [mapError_of_ok, verifiedDevice, bound]

theorem verifiedDevices_ok_iff {tokens : List String} {keys : List (KeyAnswers Key)}
    {devices : List ChainEntity} (answered : keys.length = tokens.length) :
    verifiedDevices person.sub tokens (deviceAnswers platform expectedIss now tokens keys) =
        .ok devices ↔
      List.Forall₂ (fun presented device => BoundDevice platform expectedIss now person presented.1
        presented.2 device) (tokens.zip keys) devices := by
  induction tokens generalizing keys devices with
  | nil => simp [verifiedDevices, eq_comm]
  | cons token rest ih =>
      cases keys with
      | nil => simp at answered
      | cons known others =>
          have tail : others.length = rest.length := by simpa using answered
          simp only [deviceAnswers, List.zipWith_cons_cons, verifiedDevices, List.headD_cons,
            List.tail_cons, List.zip_cons_cons, List.forall₂_cons_left_iff, bind_ok,
            verifiedDevice_ok_iff]
          constructor
          · rintro ⟨device, bound, later, verified, same⟩
            cases same
            exact ⟨device, later, bound, (ih tail).mp verified, rfl⟩
          · rintro ⟨device, later, bound, verified, same⟩
            cases same
            exact ⟨device, bound, later, (ih tail).mpr verified, rfl⟩

end Verified

section Chains

variable {Key : Type} {platform : AuthPlatform Key} {expectedIss : Option String} {now : Int}
variable {headers : Headers} {person : VerifiedClaims} {token : String} {environment : Option Value}
variable {keys : List (KeyAnswers Key)}

def presented (headers : Headers) : List String := headers.getAll "x-entity-token"

theorem entityTokens_readable
    (readable : ∀ value ∈ presented headers, (Headers.toStr value).isSome = true) :
    entityTokens headers = presented headers := by
  have kept : ∀ value ∈ presented headers, Headers.toStr value = some value := by
    intro value member
    have found := readable value member
    unfold Headers.toStr at found ⊢
    split at found
    · rename_i visible
      rw [if_pos visible]
    · cases found
  calc entityTokens headers = (presented headers).filterMap some := List.filterMap_congr kept
    _ = presented headers := List.filterMap_some

theorem personChain_ok_iff (answered : keys.length = (entityTokens headers).length)
    {chain : List ChainEntity} :
    personChain headers person token environment
        (deviceAnswers platform expectedIss now (entityTokens headers) keys) = .ok chain ↔
      1 + (entityTokens headers).length + environment.isSome.toNat ≤ maxChainEntities ∧
        ∃ devices, List.Forall₂
            (fun presented device => BoundDevice platform expectedIss now person presented.1
              presented.2 device) ((entityTokens headers).zip keys) devices ∧
          chain = subjectEntity person (some token) :: devices ++
            (environment.map environmentEntity).toList := by
  simp only [personChain, checkLength, bind_ok, unless_error_ok, verifiedDevices_ok_iff answered]
  constructor
  · rintro ⟨-, ⟨fits, -⟩, devices, bound, same⟩
    cases same
    exact ⟨Nat.le_of_not_lt fits, devices, bound, rfl⟩
  · rintro ⟨fits, devices, bound, same⟩
    cases same
    exact ⟨(), ⟨Nat.not_lt.mpr fits, trivial⟩, devices, bound, rfl⟩

/-- Something that refuses the readable tokens whatever else was presented: they are too many, or one
of them is not a device token of the person. -/
def Refusable (platform : AuthPlatform Key) (expectedIss : Option String) (now : Int)
    (headers : Headers) (person : VerifiedClaims) (environment : Option Value)
    (keys : List (KeyAnswers Key)) : Prop :=
  maxChainEntities < 1 + (entityTokens headers).length + environment.isSome.toNat ∨
    ∃ presented ∈ (entityTokens headers).zip keys,
      ∀ device, ¬BoundDevice platform expectedIss now person presented.1 presented.2 device

theorem forall₂_of_forall {α β : Type} {R : α → β → Prop} {items : List α}
    (partner : ∀ item ∈ items, ∃ other, R item other) : ∃ others, List.Forall₂ R items others := by
  induction items with
  | nil => exact ⟨[], .nil⟩
  | cons item rest ih =>
      obtain ⟨other, related⟩ := partner item List.mem_cons_self
      obtain ⟨others, later⟩ := ih fun next member => partner next (List.mem_cons_of_mem _ member)
      exact ⟨other :: others, .cons related later⟩

theorem built_of_not_refusable (answered : keys.length = (entityTokens headers).length)
    (fine : ¬Refusable platform expectedIss now headers person environment keys) (token : String) :
    ∃ chain, personChain headers person token environment
      (deviceAnswers platform expectedIss now (entityTokens headers) keys) = .ok chain := by
  unfold Refusable at fine
  push Not at fine
  obtain ⟨fits, bound⟩ := fine
  obtain ⟨devices, related⟩ := forall₂_of_forall bound
  exact ⟨_, (personChain_ok_iff answered).mpr ⟨fits, devices, related, rfl⟩⟩

theorem not_refusable_of_built (answered : keys.length = (entityTokens headers).length)
    {chain : List ChainEntity}
    (built : personChain headers person token environment
      (deviceAnswers platform expectedIss now (entityTokens headers) keys) = .ok chain) :
    ¬Refusable platform expectedIss now headers person environment keys := by
  obtain ⟨fits, devices, related, -⟩ := (personChain_ok_iff answered).mp built
  rintro (long | ⟨pair, member, unbound⟩)
  · omega
  · obtain ⟨i, inside, rfl⟩ := List.getElem_of_mem member
    have placed := List.forall₂_iff_get.mp related
    exact unbound _ (placed.2 i inside (placed.1 ▸ inside))

theorem complete_of_built (answered : keys.length = (entityTokens headers).length)
    (readable : ∀ value ∈ presented headers, (Headers.toStr value).isSome = true)
    {chain : List ChainEntity}
    (built : personChain headers person token environment
      (deviceAnswers platform expectedIss now (entityTokens headers) keys) = .ok chain) :
    CompleteChain platform expectedIss now keys person token environment (presented headers)
      chain := by
  obtain ⟨fits, devices, related, same⟩ := (personChain_ok_iff answered).mp built
  rw [entityTokens_readable readable] at answered fits related
  have counted : devices.length = (presented headers).length := by
    rw [← related.length_eq, List.length_zip, answered, Nat.min_self]
  refine ⟨?_, devices, same, ?_⟩
  · cases environment <;> simp_all <;> omega
  · refine List.forall₂_iff_get.mpr ⟨counted.symm, ?_⟩
    intro i inside held
    have placed := (List.forall₂_iff_get.mp related).2 i (by simp [answered]; exact inside) held
    refine ⟨readable _ (List.getElem_mem inside), keys[i], List.getElem_mem _, ?_⟩
    simpa using placed

theorem readable_of_complete {chain : List ChainEntity}
    (complete : CompleteChain platform expectedIss now keys person token environment
      (presented headers) chain) :
    ∀ value ∈ presented headers, (Headers.toStr value).isSome = true := by
  intro value member
  obtain ⟨-, devices, -, related⟩ := complete
  obtain ⟨i, inside, rfl⟩ := List.getElem_of_mem member
  have placed := List.forall₂_iff_get.mp related
  exact (placed.2 i inside (placed.1 ▸ inside)).1

theorem personChain_complete_iff (answered : keys.length = (entityTokens headers).length) :
    (∀ chain, personChain headers person token environment
          (deviceAnswers platform expectedIss now (entityTokens headers) keys) = .ok chain →
        CompleteChain platform expectedIss now keys person token environment (presented headers)
          chain) ↔
      (∀ value ∈ presented headers, (Headers.toStr value).isSome = true) ∨
        Refusable platform expectedIss now headers person environment keys := by
  constructor
  · intro complete
    by_cases refusable : Refusable platform expectedIss now headers person environment keys
    · exact Or.inr refusable
    · obtain ⟨chain, built⟩ := built_of_not_refusable answered refusable token
      exact Or.inl (readable_of_complete (complete chain built))
  · rintro (readable | refusable) chain built
    · exact complete_of_built answered readable built
    · exact absurd refusable (not_refusable_of_built answered built)

theorem policy_chain_eq (policy : PublishPolicy) (headers : Headers) (person : VerifiedClaims)
    (token : String) (answers : List (Except AuthError VerifiedClaims)) :
    policy.chain headers person token answers =
      personChain headers person token policy.decider.environment answers := rfl

/-- A chain accounts for every presented value exactly when all of them can be read as text, or the
readable ones are refused: `entity_tokens` passes over the others. -/
theorem device_tokens_complete_iff (platform : AuthPlatform Key) (expectedIss : Option String)
    (now : Int) (policy : PublishPolicy) (person : VerifiedClaims) (token : String)
    (environment : Option Value) (headers : Headers) (keys : List (KeyAnswers Key))
    (answered : keys.length = (entityTokens headers).length) :
    ((∀ chain, personChain headers person token environment
          (deviceAnswers platform expectedIss now (entityTokens headers) keys) = .ok chain →
        CompleteChain platform expectedIss now keys person token environment (presented headers)
          chain) ↔
      (∀ value ∈ presented headers, (Headers.toStr value).isSome = true) ∨
        Refusable platform expectedIss now headers person environment keys) ∧
    ((∀ chain, policy.chain headers person token
          (deviceAnswers platform expectedIss now (entityTokens headers) keys) = .ok chain →
        CompleteChain platform expectedIss now keys person token policy.decider.environment
          (presented headers) chain) ↔
      (∀ value ∈ presented headers, (Headers.toStr value).isSome = true) ∨
        Refusable platform expectedIss now headers person policy.decider.environment keys) := by
  refine ⟨personChain_complete_iff answered, ?_⟩
  simp only [policy_chain_eq]
  exact personChain_complete_iff answered

/-- A header value that is not ASCII leaves no trace in the chain. -/
theorem unreadable_token_dropped :
    presented [("x-entity-token", "jeton-é")] = ["jeton-é"] ∧
      personChain [("x-entity-token", "jeton-é")] (.bare "alice" "tdf") "token" none [] =
        .ok [subjectEntity (.bare "alice" "tdf") (some "token")] ∧
      (PublishPolicy.mk none none 1 [] ⟨.pdp, true, defaultPublishEntitlement, none⟩).chain
          [("x-entity-token", "jeton-é")] (.bare "alice" "tdf") "token" [] =
        .ok [subjectEntity (.bare "alice" "tdf") (some "token")] := by
  decide +kernel

def deviceEntries : List (Cbor × Cbor) :=
  [(.integer 1, .text "idp"), (.integer 2, .text "alice"), (.integer 3, .text devicecheckAud),
    (.integer 4, .integer 900), (.integer 6, .integer 100), (.integer 7, .bytes [5]),
    (.integer 8, .map [(.integer 3, .bytes [9])])]

def oneDevice : AuthPlatform Unit where
  cbor _ := some (.map deviceEntries)
  decodeBase64Url token := if token = "device" then some [0xD8, 0x3D, 1] else none
  encodeBase64Url _ := "kid"
  encodeBase64 _ := ""
  sign1 _ := some ⟨⟨some .es256, [], none, [1]⟩, [], some [1], []⟩
  taggedSign1 _ := none
  coseKey _ := none
  fromSec1 _ := .ok ()
  verifies _ _ := true
  floatNumber _ := none
  debug _ := ""

def oneKey : KeyAnswers Unit := ⟨Table.empty.insert [1] (), .ok Table.empty⟩

theorem device_tokens_complete_one :
    ∃ chain, personChain [("x-entity-token", "device")] (.bare "alice" "tdf") "token" none
        (deviceAnswers oneDevice none 200 ["device"] [oneKey]) = .ok chain ∧
      CompleteChain oneDevice none 200 [oneKey] (.bare "alice" "tdf") "token" none ["device"]
        chain := by
  have accepted : (personChain [("x-entity-token", "device")] (.bare "alice" "tdf") "token" none
      (deviceAnswers oneDevice none 200 ["device"] [oneKey])).isOk = true := by
    decide +kernel
  obtain ⟨chain, built⟩ := ok_of_isOk accepted
  have complete := device_tokens_complete_iff oneDevice none 200
    ⟨none, none, 1, [], ⟨.local, false, "", none⟩⟩ (.bare "alice" "tdf") "token" none
    [("x-entity-token", "device")] [oneKey] rfl
  exact ⟨chain, built, complete.1.mpr (.inl (by decide)) chain built⟩

end Chains

namespace PublishPolicy

def inMode (policy : PublishPolicy) (mode : PublishDecisions) : PublishPolicy :=
  { policy with decider := { policy.decider with mode := mode } }

@[simp] theorem inMode_mode (policy : PublishPolicy) (mode : PublishDecisions) :
    (policy.inMode mode).decider.mode = mode := rfl

@[simp] theorem inMode_entitlement (policy : PublishPolicy) (mode : PublishDecisions) :
    (policy.inMode mode).entitlement = policy.entitlement := rfl

def localAnswer (policy : PublishPolicy) (view : Moderation) (headers : Headers)
    (verified : Except AuthError VerifiedClaims) : Except Refusal VerifiedClaims :=
  match policy.publisherVerified view headers verified with
  | .error refusal => .error refusal
  | .ok (_, claims, own) => own.map fun _ => claims

section Shadow

variable (policy : PublishPolicy) (view : Moderation) (headers : Headers)

/-- A suspended publisher is refused early when the node decides, and with the same words after the
decision service was asked when it only shadows. -/
theorem localAnswer_shadow (verified : Except AuthError VerifiedClaims) :
    (policy.inMode .shadow).localAnswer view headers verified =
      (policy.inMode .local).localAnswer view headers verified := by
  unfold localAnswer publisherVerified
  cases bearer headers with
  | none => rfl
  | some token =>
      cases verified with
      | error why => cases why <;> rfl
      | ok claims =>
          by_cases service : (Text.stripPrefix claims.sub "client:").isSome = true
          · simp [service]
          · by_cases suspended : view.isSuspended claims.sub = true
            · simp [service, suspended, Except.map]
            · simp [service, suspended]

theorem publisherWithChain_claims {mode : PublishDecisions} (asked : mode ≠ .pdp)
    (answers : Answers) :
    ((policy.inMode mode).publisherWithChain view headers answers).map Prod.fst =
      (policy.inMode mode).localAnswer view headers answers.verified := by
  unfold publisherWithChain localAnswer
  cases (policy.inMode mode).publisherVerified view headers answers.verified with
  | error refusal => rfl
  | ok found =>
      obtain ⟨token, claims, own⟩ := found
      unfold publisherDecided
      cases mode with
      | «local» => cases own <;> rfl
      | shadow =>
          simp only [inMode_mode]
          cases (policy.inMode .shadow).chain headers claims token answers.devices <;>
            cases own <;> rfl
      | pdp => exact absurd rfl asked

theorem localAnswer_ok {policy : PublishPolicy} {verified : Except AuthError VerifiedClaims}
    {claims : VerifiedClaims} (answered : policy.localAnswer view headers verified = .ok claims) :
    ∃ token, bearer headers = some token ∧
      policy.publisherVerified view headers verified = .ok (token, claims, .ok ()) := by
  unfold localAnswer at answered
  cases found : policy.publisherVerified view headers verified with
  | error refusal =>
      rw [found] at answered
      cases answered
  | ok read =>
      obtain ⟨token, held, own⟩ := read
      rw [found] at answered
      cases own with
      | error refusal => cases answered
      | ok _ =>
          cases answered
          exact ⟨token, (publisherVerified_ok found).1, rfl⟩

theorem publisherWithChain_shadow_chain_iff (answers : Answers) (claims : VerifiedClaims)
    (chain : List ChainEntity) :
    (policy.inMode .shadow).publisherWithChain view headers answers = .ok (claims, some chain) ↔
      (policy.inMode .shadow).localAnswer view headers answers.verified = .ok claims ∧
        ∃ token, bearer headers = some token ∧
          (policy.inMode .shadow).chain headers claims token answers.devices = .ok chain ∧
          (policy.inMode .shadow).decider.ask chain answers.decision = .permit := by
  constructor
  · intro answered
    have own : (policy.inMode .shadow).localAnswer view headers answers.verified = .ok claims := by
      rw [← publisherWithChain_claims policy view headers (by decide) answers, answered]
      rfl
    obtain ⟨token, presented, found⟩ := localAnswer_ok view headers own
    unfold publisherWithChain at answered
    rw [found] at answered
    have permitted := (publisherDecided_permit answered).2
    exact ⟨own, token, presented, permitted⟩
  · rintro ⟨own, token, presented, built, permitted⟩
    obtain ⟨token', presented', found⟩ := localAnswer_ok view headers own
    cases presented.symm.trans presented'
    simp only [publisherWithChain, found, publisherDecided, inMode_mode, built, permitted, if_true]
    rfl

theorem publisherWithChain_local_iff (answers : Answers) (claims : VerifiedClaims) :
    (policy.inMode .local).publisherWithChain view headers answers = .ok (claims, none) ↔
      ((policy.inMode .local).publisherWithChain view headers answers).map Prod.fst = .ok claims := by
  cases answered : (policy.inMode .local).publisherWithChain view headers answers with
  | error refusal => simp [Except.map]
  | ok found =>
      obtain ⟨read, kept⟩ := found
      cases kept with
      | none => simp [Except.map]
      | some chain =>
          -- the node that decides alone asks about no chain
          unfold publisherWithChain at answered
          split at answered
          · cases answered
          · exact absurd rfl (publisherDecided_permit answered).1

end Shadow

section Modes

variable {Key : Type} (platform : AuthPlatform Key) (keys : KeyAnswers Key)

def bearerAnswer (expectedIss : Option String) (now : Int) (policy : PublishPolicy)
    (headers : Headers) : Except AuthError VerifiedClaims :=
  match bearer headers with
  | none => .error .invalid
  | some token => (verifyWith platform keys expectedIss policy.audience now token).mapError
      TokenError.asAuthError

/-- Shadowing changes no publisher's answer, whatever becomes of the device tokens and of the request
to the decision service; it only keeps the chain of a decision that was a permit. -/
theorem shadow_answers_as_local (expectedIss : Option String) (now : Int) (policy : PublishPolicy)
    (view : Moderation) (headers : Headers) (devices unused : List (Except AuthError VerifiedClaims))
    (decision unasked : Option Decisions) :
    let shadow := policy.inMode .shadow
    let verified := bearerAnswer platform keys expectedIss now policy headers
    let answered := shadow.publisherWithChain view headers ⟨verified, devices, decision⟩
    let alone := (policy.inMode .local).publisherWithChain view headers ⟨verified, unused, unasked⟩
    answered.map Prod.fst = alone.map Prod.fst ∧
      ∀ claims chain, answered = .ok (claims, some chain) ↔
        alone = .ok (claims, none) ∧
          ∃ token, bearer headers = some token ∧
            shadow.chain headers claims token devices = .ok chain ∧
            shadow.decider.ask chain decision = .permit := by
  intro shadow verified answered alone
  have own : answered.map Prod.fst = shadow.localAnswer view headers verified :=
    publisherWithChain_claims policy view headers (by decide) _
  have ownAlone : alone.map Prod.fst = shadow.localAnswer view headers verified :=
    (publisherWithChain_claims policy view headers (by decide) _).trans
      (localAnswer_shadow policy view headers verified).symm
  refine ⟨own.trans ownAlone.symm, ?_⟩
  intro claims chain
  have plain : alone = .ok (claims, none) ↔ shadow.localAnswer view headers verified = .ok claims := by
    rw [← ownAlone]
    exact publisherWithChain_local_iff policy view headers _ claims
  rw [plain]
  exact publisherWithChain_shadow_chain_iff policy view headers _ claims chain

end Modes

end PublishPolicy

end TdfIrohS3
