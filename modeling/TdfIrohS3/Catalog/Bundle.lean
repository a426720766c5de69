import Mathlib.Logic.Equiv.Basic
import TdfIrohS3.Auth.Credential

namespace TdfIrohS3

open Library

structure Passkeys where
  rpId : String
  origin : String
  deriving DecidableEq, Repr

def Passkeys.forRp (rpId : String) : Passkeys := { rpId, origin := "https://" ++ rpId }

structure BundlePlatform (Key Signature : Type) extends AuthPlatform Key, Formats where
  sha256 : List UInt8 → List UInt8
  fromDer : List UInt8 → Option Signature
  verify : Key → List UInt8 → Signature → Bool

def maxCredentialIdBytes : Nat := 1023

def maxAuthenticatorDataBytes : Nat := 4096

def maxClientDataBytes : Nat := 4096

def maxSignatureBytes : Nat := 80

def maxAttestationBytes : Nat := 4096

def flagUp : UInt8 := 0x01

def flagUv : UInt8 := 0x04

def Value.asBool : Value → Option Bool
  | .bool b => some b
  | _ => none

section Checks

variable {Key Signature : Type} (platform : BundlePlatform Key Signature) (passkeys : Passkeys)

def b64 (formats : Formats) (field value : String) (max : Nat) : Except BundleError (List UInt8) :=
  (decodeField formats field value max).mapError .invalid

def checkCredential (credential : Credential Key) (pointer : Pointer) : Except BundleError Unit :=
  if credential.sub ≠ pointer.owner then
    .error (.invalid "credential subject does not match the pointer owner")
  else if credential.rpId ≠ passkeys.rpId then
    .error (.invalid "credential rpId is not this relying party")
  else .ok ()

def checkClientData (pointerBytes clientData : List UInt8) : Except BundleError Unit :=
  match platform.json clientData with
  | .error _ => .error (.invalid "clientDataJSON is not JSON")
  | .ok tree =>
      let cd := tree.lastWins
      if (cd.get "type").bind Value.asStr ≠ some "webauthn.get" then
        .error (.invalid "clientDataJSON type must be webauthn.get")
      else
        match ((cd.get "challenge").bind Value.asStr).bind platform.base64Url with
        | none => .error (.invalid "clientDataJSON challenge missing or not base64url")
        | some challenge =>
            if challenge ≠ platform.sha256 pointerBytes then
              .error (.invalid "assertion challenge is not SHA-256 of the pointer")
            else if (cd.get "origin").bind Value.asStr ≠ some passkeys.origin then
              .error (.invalid "clientDataJSON origin is not this relying party")
            else if (cd.get "crossOrigin").bind Value.asBool = some true then
              .error (.invalid "cross-origin assertions are refused")
            else .ok ()

/-- The checks of `verify_assertion` on the authenticator data: rpIdHash (32), flags (1), signCount
(4), extensions. -/
def checkAuthenticatorData (authData : List UInt8) : Except BundleError Unit :=
  if authData.length < 37 then .error (.invalid "authenticatorData too short")
  else if authData.take 32 ≠ platform.sha256 passkeys.rpId.toUTF8.toList then
    .error (.invalid "authenticatorData rpIdHash is not this relying party")
  else if authData.getD 32 0 &&& flagUp = 0 ∨ authData.getD 32 0 &&& flagUv = 0 then
    .error (.invalid "assertion must have user presence and verification")
  else .ok ()

def checkAssertionSignature (key : Key) (authData clientData der : List UInt8) :
    Except BundleError Unit :=
  match platform.fromDer der with
  | none => .error (.invalid "assertion signature is not DER ECDSA")
  | some signature =>
      if platform.verify key (authData ++ platform.sha256 clientData) signature then .ok ()
      else .error (.invalid "assertion signature does not verify")

def verifyAssertion (pointerBytes : List UInt8) (assertion : Assertion) (key : Key) :
    Except BundleError Unit := do
  let authData ← b64 platform.toFormats "assertion.authenticatorData" assertion.authenticatorData
    maxAuthenticatorDataBytes
  let clientData ← b64 platform.toFormats "assertion.clientDataJSON" assertion.clientDataJson
    maxClientDataBytes
  let signature ← b64 platform.toFormats "assertion.signature" assertion.signature
    maxSignatureBytes
  checkClientData platform passkeys pointerBytes clientData
  checkAuthenticatorData platform passkeys authData
  checkAssertionSignature platform key authData clientData signature

variable (answers : KeyAnswers Key) (expectedIss : Option String) (now : Int)

/-- `verify_bundle` once the pointer is read and its owner checked: the attestation, and the
assertion by the passkey it attests. The result is the credential id. -/
def verifyChain (pointerBytes : List UInt8) (pointer : Pointer) (bundle : Bundle) :
    Except BundleError (List UInt8) := do
  let attestation ← b64 platform.toFormats "credential" bundle.credential maxAttestationBytes
  let credential ← verifyCredential platform.toAuthPlatform answers expectedIss now attestation
  checkCredential passkeys credential pointer
  let credentialId ← b64 platform.toFormats "assertion.credentialId" bundle.assertion.credentialId
    maxCredentialIdBytes
  if credentialId ≠ credential.credentialId then
    .error (.invalid "assertion credentialId does not match the attested credential")
  else do
    verifyAssertion platform passkeys pointerBytes bundle.assertion credential.publicKey
    return credentialId

structure VerifiedChain where
  pointer : Pointer
  credentialId : List UInt8
  deriving DecidableEq, Repr

def verifyBundleChain (expectedOwner : String) (bundle : Bundle) :
    Except BundleError VerifiedChain := do
  let pointerBytes ← b64 platform.toFormats "pointer" bundle.pointer maxPointerBytes
  let pointer ← (parsePointer platform.toFormats pointerBytes).mapError .invalid
  if pointer.owner ≠ expectedOwner then
    .error (.invalid "pointer owner does not match the catalog subject")
  else do
    let credentialId ← verifyChain platform passkeys answers expectedIss now pointerBytes pointer
      bundle
    return { pointer, credentialId }

end Checks

section Bound

variable {Key Signature : Type} (platform : BundlePlatform Key Signature) (passkeys : Passkeys)

structure ClientDataFor (pointerBytes : List UInt8) (cd : Value) : Prop where
  kind : (cd.get "type").bind Value.asStr = some "webauthn.get"
  challenge : ((cd.get "challenge").bind Value.asStr).bind platform.base64Url =
    some (platform.sha256 pointerBytes)
  origin : (cd.get "origin").bind Value.asStr = some passkeys.origin
  sameOrigin : (cd.get "crossOrigin").bind Value.asBool ≠ some true

structure AuthenticatorDataFor (authData : List UInt8) : Prop where
  long : 37 ≤ authData.length
  relyingParty : authData.take 32 = platform.sha256 passkeys.rpId.toUTF8.toList
  present : authData.getD 32 0 &&& flagUp ≠ 0
  verified : authData.getD 32 0 &&& flagUv ≠ 0

/-- The passkey with this public key signed an assertion over the pointer bytes. -/
inductive Asserted (pointerBytes : List UInt8) (assertion : Assertion) (key : Key) : Prop
  | intro {authData clientData der : List UInt8} {signature : Signature} {tree : Value}
      (authenticator : platform.base64Url assertion.authenticatorData = some authData)
      (client : platform.base64Url assertion.clientDataJson = some clientData)
      (encoded : platform.base64Url assertion.signature = some der)
      (read : platform.fromDer der = some signature)
      (signed : platform.verify key (authData ++ platform.sha256 clientData) signature = true)
      (json : platform.json clientData = .ok tree)
      (about : ClientDataFor platform passkeys pointerBytes tree.lastWins)
      (seen : AuthenticatorDataFor platform passkeys authData) :
      Asserted pointerBytes assertion key

variable (answers : KeyAnswers Key) (expectedIss : Option String) (now : Int)

/-- What an accepted bundle is bound to: the bytes of its pointer, the owner they name, and the passkey
that the identity provider attests for that owner. -/
inductive Bound (owner : String) (bundle : Bundle) (verified : VerifiedChain) : Prop
  | intro {pointerBytes attestation : List UInt8} {sign1 : CoseSign1} {credential : Credential Key}
      (decoded : platform.base64Url bundle.pointer = some pointerBytes)
      (parsed : parsePointer platform.toFormats pointerBytes = .ok verified.pointer)
      (owned : verified.pointer.owner = owner)
      (carried : platform.base64Url bundle.credential = some attestation)
      (message : attestationSign1 platform.toAuthPlatform attestation = some sign1)
      (attests : Attests platform.toAuthPlatform answers expectedIss now sign1 credential)
      (subject : credential.sub = owner)
      (relyingParty : credential.rpId = passkeys.rpId)
      (used : platform.base64Url bundle.assertion.credentialId = some credential.credentialId)
      (named : verified.credentialId = credential.credentialId)
      (asserted : Asserted platform passkeys pointerBytes bundle.assertion credential.publicKey) :
      Bound owner bundle verified

end Bound

section Facts

variable {Key Signature : Type} {platform : BundlePlatform Key Signature} {passkeys : Passkeys}

theorem b64_ok {formats : Formats} {field value : String} {max : Nat} {bytes : List UInt8}
    (decoded : b64 formats field value max = .ok bytes) : formats.base64Url value = some bytes :=
  decodeField_ok (mapError_ok.mp decoded)

theorem checkClientData_ok {pointerBytes clientData : List UInt8}
    (checked : checkClientData platform passkeys pointerBytes clientData = .ok ()) :
    ∃ tree, platform.json clientData = .ok tree ∧
      ClientDataFor platform passkeys pointerBytes tree.lastWins := by
  unfold checkClientData at checked
  split at checked
  · cases checked
  · rename_i tree read
    simp only [unless_error_ok, not_not] at checked
    obtain ⟨kind, checked⟩ := checked
    split at checked
    · cases checked
    · rename_i challenge decoded
      simp only [unless_error_ok, not_not] at checked
      obtain ⟨rfl, origin, sameOrigin, -⟩ := checked
      exact ⟨tree, read, kind, decoded, origin, sameOrigin⟩

theorem checkAuthenticatorData_ok {authData : List UInt8}
    (checked : checkAuthenticatorData platform passkeys authData = .ok ()) :
    AuthenticatorDataFor platform passkeys authData := by
  simp only [checkAuthenticatorData, unless_error_ok, not_not, not_or] at checked
  obtain ⟨long, relyingParty, ⟨present, verified⟩, -⟩ := checked
  exact ⟨Nat.le_of_not_lt long, relyingParty, present, verified⟩

theorem checkAssertionSignature_ok {key : Key} {authData clientData der : List UInt8}
    (checked : checkAssertionSignature platform key authData clientData der = .ok ()) :
    ∃ signature, platform.fromDer der = some signature ∧
      platform.verify key (authData ++ platform.sha256 clientData) signature = true := by
  unfold checkAssertionSignature at checked
  split at checked
  · cases checked
  · rename_i signature read
    exact ⟨signature, read, (when_ok.mp checked).1⟩

theorem verifyAssertion_ok {pointerBytes : List UInt8} {assertion : Assertion} {key : Key}
    (verified : verifyAssertion platform passkeys pointerBytes assertion key = .ok ()) :
    Asserted platform passkeys pointerBytes assertion key := by
  simp only [verifyAssertion, bind_ok] at verified
  obtain ⟨authData, authenticator, clientData, client, der, encoded, _, onClient, _, onAuthenticator,
    onSignature⟩ := verified
  obtain ⟨tree, json, about⟩ := checkClientData_ok onClient
  obtain ⟨signature, read, signed⟩ := checkAssertionSignature_ok onSignature
  exact .intro (b64_ok authenticator) (b64_ok client) (b64_ok encoded) read signed json about
    (checkAuthenticatorData_ok onAuthenticator)

theorem verifyCredential_ok {answers : KeyAnswers Key} {expectedIss : Option String} {now : Int}
    {bytes : List UInt8} {credential : Credential Key} {platform : AuthPlatform Key}
    (verified : verifyCredential platform answers expectedIss now bytes = .ok credential) :
    ∃ sign1, attestationSign1 platform bytes = some sign1 ∧
      Attests platform answers expectedIss now sign1 credential := by
  unfold verifyCredential at verified
  split at verified
  · cases verified
  · rename_i sign1 read
    exact ⟨sign1, read, verifyAttestation_ok verified⟩

variable {answers : KeyAnswers Key} {expectedIss : Option String} {now : Int}
variable {owner : String} {bundle : Bundle} {verified : VerifiedChain}

theorem verifyBundleChain_bound
    (accepted : verifyBundleChain platform passkeys answers expectedIss now owner bundle =
      .ok verified) :
    Bound platform passkeys answers expectedIss now owner bundle verified := by
  simp only [verifyBundleChain, verifyChain, checkCredential, bind_ok, unless_error_ok, mapError_ok,
    not_not] at accepted
  obtain ⟨pointerBytes, decoded, pointer, parsed, owned, id, ⟨attestation, carried, credential,
    attested, _, ⟨subject, relyingParty, -⟩, found, used, same, _, asserted, returned⟩, result⟩ :=
    accepted
  cases returned
  cases result
  subst same
  obtain ⟨sign1, message, attests⟩ := verifyCredential_ok attested
  exact .intro (b64_ok decoded) parsed owned (b64_ok carried) message attests (subject.trans owned)
    relyingParty (b64_ok used) rfl (verifyAssertion_ok asserted)

theorem verifyBundle_chain {catalog : CatalogPlatform} (same : catalog.toFormats = platform.toFormats) :
    (verifyBundle catalog owner bundle
      ((verifyBundleChain platform passkeys answers expectedIss now owner bundle).map
        VerifiedChain.credentialId)).map (fun v => VerifiedChain.mk v.pointer v.credentialId) =
      verifyBundleChain platform passkeys answers expectedIss now owner bundle := by
  -- The handler's own checks decide up to the owner; past them the chain is the whole answer.
  unfold verifyBundle
  split
  · rename_i why refused
    rw [same] at refused
    simp only [verifyBundleChain, b64, refused, mapError_of_error]
    rfl
  · rename_i bytes decoded
    rw [same] at decoded
    split
    · rename_i why refused
      rw [same] at refused
      simp only [verifyBundleChain, b64, decoded, mapError_of_ok, bind, Except.bind, refused,
        mapError_of_error]
      rfl
    · rename_i pointer parsed
      rw [same] at parsed
      split
      · rename_i owned
        have chained : verifyBundleChain platform passkeys answers expectedIss now owner bundle =
            (verifyChain platform passkeys answers expectedIss now bytes pointer bundle).map
              (VerifiedChain.mk pointer) := by
          simp only [verifyBundleChain, b64, decoded, mapError_of_ok, bind, Except.bind, parsed,
            owned, ne_eq, not_true_eq_false, if_false]
          rfl
        rw [chained]
        cases verifyChain platform passkeys answers expectedIss now bytes pointer bundle <;> rfl
      · rename_i other
        simp only [verifyBundleChain, b64, decoded, mapError_of_ok, bind, Except.bind, parsed,
          ne_eq, other, not_false_eq_true, if_true]
        rfl

end Facts

section Binding

variable {Key Signature : Type} {platform : BundlePlatform Key Signature}

def Accepted (platform : BundlePlatform Key Signature) (owner : String) (bundle : Bundle)
    (verified : VerifiedChain) : Prop :=
  ∃ passkeys answers expectedIss now,
    verifyBundleChain platform passkeys answers expectedIss now owner bundle = .ok verified

def SamePointerBytes (platform : BundlePlatform Key Signature) (bundle other : Bundle) : Prop :=
  ∃ bytes, platform.base64Url bundle.pointer = some bytes ∧
    platform.base64Url other.pointer = some bytes

structure AcceptedBundle (platform : BundlePlatform Key Signature) where
  owner : String
  bundle : Bundle
  verified : VerifiedChain
  accepted : Accepted platform owner bundle verified

namespace AcceptedBundle

variable (one two : AcceptedBundle platform)

theorem bound : ∃ passkeys answers expectedIss now,
    Bound platform passkeys answers expectedIss now one.owner one.bundle one.verified := by
  obtain ⟨passkeys, answers, expectedIss, now, accepted⟩ := one.accepted
  exact ⟨passkeys, answers, expectedIss, now, verifyBundleChain_bound accepted⟩

/-- The bytes of a pointer name its owner. -/
theorem of_pointer_bytes (same : SamePointerBytes platform one.bundle two.bundle) :
    one.owner = two.owner ∧ one.verified.pointer = two.verified.pointer := by
  obtain ⟨bytes, first, second⟩ := same
  obtain ⟨_, _, _, _, decoded, parsed, owned⟩ := one.bound
  obtain ⟨_, _, _, _, decoded', parsed', owned'⟩ := two.bound
  cases first.symm.trans decoded
  cases second.symm.trans decoded'
  have pointers : one.verified.pointer = two.verified.pointer :=
    Except.ok.inj (parsed.symm.trans parsed')
  exact ⟨by rw [← owned, ← owned', pointers], pointers⟩

theorem of_pointer (same : one.bundle.pointer = two.bundle.pointer) :
    SamePointerBytes platform one.bundle two.bundle := by
  obtain ⟨_, _, _, _, decoded, -⟩ := one.bound
  exact ⟨_, decoded, same ▸ decoded⟩

/-- Client data names the bytes of its pointer by their hash. -/
theorem of_client_data (collisionFree : Function.Injective platform.sha256)
    (same : one.bundle.assertion.clientDataJson = two.bundle.assertion.clientDataJson) :
    SamePointerBytes platform one.bundle two.bundle := by
  obtain ⟨_, _, _, _, decoded, -, -, -, -, -, -, -, -, -, asserted⟩ := one.bound
  obtain ⟨_, _, _, _, decoded', -, -, -, -, -, -, -, -, -, asserted'⟩ := two.bound
  obtain ⟨-, client, -, -, -, json, about, -⟩ := asserted
  obtain ⟨-, client', -, -, -, json', about', -⟩ := asserted'
  rw [same] at client
  cases client.symm.trans client'
  cases json.symm.trans json'
  have digests := about.challenge.symm.trans about'.challenge
  have bytes := collisionFree (Option.some.inj digests)
  exact ⟨_, decoded, bytes ▸ decoded'⟩

/-- An attestation is for one subject and one credential. -/
theorem of_credential (same : one.bundle.credential = two.bundle.credential) :
    one.owner = two.owner ∧ one.verified.credentialId = two.verified.credentialId := by
  obtain ⟨_, _, _, _, -, -, -, carried, message, attests, subject, -, -, named, -⟩ := one.bound
  obtain ⟨_, _, _, _, -, -, -, carried', message', attests', subject', -, -, named', -⟩ := two.bound
  rw [same] at carried
  cases carried.symm.trans carried'
  cases message.symm.trans message'
  obtain ⟨payload, held, parsed⟩ := attests.read
  obtain ⟨payload', held', parsed'⟩ := attests'.read
  cases held.symm.trans held'
  cases parsed.symm.trans parsed'
  exact ⟨subject.symm.trans subject', named.trans named'.symm⟩

theorem of_credential_id
    (same : one.bundle.assertion.credentialId = two.bundle.assertion.credentialId) :
    one.verified.credentialId = two.verified.credentialId := by
  obtain ⟨_, _, _, _, -, -, -, -, -, -, -, -, used, named, -⟩ := one.bound
  obtain ⟨_, _, _, _, -, -, -, -, -, -, -, -, used', named', -⟩ := two.bound
  rw [same] at used
  rw [named, named', Option.some.inj (used.symm.trans used')]

end AcceptedBundle

/-- The bundle is put together from parts of others. Its authenticator data and its signature may come
from anywhere. -/
structure Recombined (bundle ofPointer ofClientData ofId ofCredential : Bundle) : Prop where
  pointer : bundle.pointer = ofPointer.pointer
  clientData : bundle.assertion.clientDataJson = ofClientData.assertion.clientDataJson
  id : bundle.assertion.credentialId = ofId.assertion.credentialId
  credential : bundle.credential = ofCredential.credential

/-- The parts are of bundles for one owner, one pointer and one credential. -/
structure OnePiece (whole ofPointer ofClientData ofId ofCredential : AcceptedBundle platform) :
    Prop where
  owners : ofPointer.owner = whole.owner ∧ ofClientData.owner = whole.owner ∧
    ofCredential.owner = whole.owner
  bytes : SamePointerBytes platform ofPointer.bundle ofClientData.bundle
  pointers : ofPointer.verified.pointer = whole.verified.pointer ∧
    ofClientData.verified.pointer = whole.verified.pointer
  credentials : ofId.verified.credentialId = whole.verified.credentialId ∧
    ofCredential.verified.credentialId = whole.verified.credentialId

theorem recombined_onePiece (collisionFree : Function.Injective platform.sha256)
    {whole ofPointer ofClientData ofId ofCredential : AcceptedBundle platform}
    (parts : Recombined whole.bundle ofPointer.bundle ofClientData.bundle ofId.bundle
      ofCredential.bundle) :
    OnePiece whole ofPointer ofClientData ofId ofCredential := by
  have pointed := ofPointer.of_pointer whole parts.pointer.symm
  have client := ofClientData.of_client_data whole collisionFree parts.clientData.symm
  have named := ofPointer.of_pointer_bytes whole pointed
  have signed := ofClientData.of_pointer_bytes whole client
  have attested := ofCredential.of_credential whole parts.credential.symm
  obtain ⟨bytes, first, decoded⟩ := pointed
  obtain ⟨bytes', second, decoded'⟩ := client
  cases decoded.symm.trans decoded'
  exact
    { owners := ⟨named.1, signed.1, attested.1⟩
      bytes := ⟨bytes, first, second⟩
      pointers := ⟨named.2, signed.2⟩
      credentials := ⟨ofId.of_credential_id whole parts.id.symm, attested.2⟩ }

/-- An accepted bundle is bound to one owner, one passkey and one pointer: it has the whole chain of
checks behind it, its assertion fixes the bytes of its pointer, and no bundle put together from parts
of accepted ones is accepted unless they are of one owner, one pointer and one credential. -/
theorem accepted_bundle_bound (platform : BundlePlatform Key Signature) :
    (∀ passkeys answers expectedIss now owner bundle verified,
      verifyBundleChain platform passkeys answers expectedIss now owner bundle = .ok verified →
        Bound platform passkeys answers expectedIss now owner bundle verified) ∧
    (Function.Injective platform.sha256 →
      (∀ one two : AcceptedBundle platform, one.bundle.assertion = two.bundle.assertion →
        SamePointerBytes platform one.bundle two.bundle) ∧
      ∀ whole ofPointer ofClientData ofId ofCredential : AcceptedBundle platform,
        Recombined whole.bundle ofPointer.bundle ofClientData.bundle ofId.bundle
          ofCredential.bundle → OnePiece whole ofPointer ofClientData ofId ofCredential) := by
  refine ⟨?_, ?_⟩
  · intro passkeys answers expectedIss now owner bundle verified accepted
    exact verifyBundleChain_bound accepted
  · intro collisionFree
    refine ⟨?_, ?_⟩
    · intro one two same
      exact one.of_client_data two collisionFree (by rw [same])
    · intro whole ofPointer ofClientData ofId ofCredential parts
      exact recombined_onePiece collisionFree parts

end Binding

section Sample

def sampleRp : String := "identity.arkavo.net"

def sampleRpHash : List UInt8 := List.replicate 32 9

def signedPointer : Value :=
  .object [("schema", .string pointerSchema), ("owner", .string "alice"),
    ("seq", .number (.posInt 1)),
    ("catalogHash", .string (Text.hexEncode (List.replicate 32 0))),
    ("catalogSize", .number (.posInt 32)), ("issuedAt", .string "2026-10-16T14:30:00Z")]

def signedClientData (extra : List (String × Value)) : Value :=
  .object ([("type", .string "webauthn.get"), ("challenge", .string "p"),
    ("origin", .string ("https://" ++ sampleRp))] ++ extra)

def attestedEntries (iat : Int) : List (Cbor × Cbor) :=
  [(.text "typ", .text passkeyCredentialTyp), (.text "iss", .text "idp"),
    (.text "sub", .text "alice"), (.text "credentialId", .bytes [6]),
    (.text "publicKey", .map []), (.text "rpId", .text sampleRp), (.text "iat", .integer iat)]

def attestedMessage (payload : List UInt8) : CoseSign1 :=
  ⟨⟨some .es256, [], some (.text credentialContentType), [1]⟩, [], some payload, []⟩

def sampleAuthData : List UInt8 := sampleRpHash ++ [5, 0, 0, 0, 0]

/-- A platform that knows one pointer, two attestations of one passkey, and two assertions by it. The
hash of the relying party stands apart, other bytes are their own hash; what a signature is over can
be read off it. -/
def passkeyPlatform : BundlePlatform Unit (List UInt8) where
  cbor
    | [2] => some (.map (attestedEntries 100))
    | [3] => some (.map (attestedEntries 160))
    | _ => none
  decodeBase64Url _ := none
  encodeBase64Url _ := ""
  encodeBase64 _ := ""
  sign1 bytes := some (attestedMessage bytes)
  taggedSign1 _ := none
  coseKey _ := some ⟨.ec2, [],
    [(.int (-1), .integer 1), (.int (-2), .bytes (List.replicate 32 7)),
      (.int (-3), .bytes (List.replicate 32 8))]⟩
  fromSec1 _ := .ok ()
  verifies _ _ := true
  floatNumber _ := none
  debug _ := ""
  json
    | [1] => .ok signedPointer
    | [4] => .ok (signedClientData [])
    | [5] => .ok (signedClientData [("crossOrigin", .bool false)])
    | _ => .error "expected value"
  mismatch _ := "invalid type"
  toVec _ := []
  base64Url
    | "p" => some [1]
    | "k1" => some [2]
    | "k2" => some [3]
    | "c1" => some [4]
    | "c2" => some [5]
    | "i" => some [6]
    | "a" => some sampleAuthData
    | "s1" => some (sampleAuthData ++ [4])
    | "s2" => some (sampleAuthData ++ [5])
    | _ => none
  base64Standard _ := none
  sha256 := Equiv.swap sampleRp.toUTF8.toList sampleRpHash
  fromDer := some
  verify _ message signature := message == signature

def sampleKeys : KeyAnswers Unit := ⟨Table.empty.insert [1] (), .ok Table.empty⟩

def passkeyBundle (clientData signature credential : String) : Bundle :=
  { pointer := "p", assertion := ⟨"i", "a", clientData, signature⟩, credential }

def sampleVerified (bundle : Bundle) : Except BundleError VerifiedChain :=
  verifyBundleChain passkeyPlatform (Passkeys.forRp sampleRp) sampleKeys (some "idp") 120 "alice"
    bundle

theorem sample_accepted {bundle : Bundle} (verified : (sampleVerified bundle).isOk = true) :
    ∃ one : AcceptedBundle passkeyPlatform, one.bundle = bundle ∧
      sampleVerified bundle = .ok one.verified := by
  obtain ⟨chain, found⟩ := ok_of_isOk verified
  exact ⟨⟨"alice", bundle, chain, _, _, _, _, found⟩, rfl, found⟩

theorem accepted_bundle_bound_two_attestations :
    ∃ first second whole : AcceptedBundle passkeyPlatform,
      first.bundle = passkeyBundle "c1" "s1" "k1" ∧ second.bundle = passkeyBundle "c2" "s2" "k2" ∧
      whole.bundle = passkeyBundle "c1" "s1" "k2" ∧
      Bound passkeyPlatform (Passkeys.forRp sampleRp) sampleKeys (some "idp") 120 "alice"
        (passkeyBundle "c1" "s1" "k2") whole.verified ∧
      SamePointerBytes passkeyPlatform first.bundle whole.bundle ∧
      OnePiece whole second first first second := by
  have verified : (sampleVerified (passkeyBundle "c1" "s1" "k1")).isOk = true ∧
      (sampleVerified (passkeyBundle "c2" "s2" "k2")).isOk = true ∧
      (sampleVerified (passkeyBundle "c1" "s1" "k2")).isOk = true := by
    decide +kernel
  obtain ⟨first, one, -⟩ := sample_accepted verified.1
  obtain ⟨second, two, -⟩ := sample_accepted verified.2.1
  obtain ⟨whole, three, accepted⟩ := sample_accepted verified.2.2
  have results := accepted_bundle_bound passkeyPlatform
  have binding := results.2 (Equiv.swap _ _).injective
  refine ⟨first, second, whole, one, two, three, results.1 _ _ _ _ _ _ _ accepted, ?_, ?_⟩
  · exact binding.1 first whole (by rw [one, three]; rfl)
  · refine binding.2 whole second first first second ⟨?_, ?_, ?_, ?_⟩
    all_goals simp only [one, two, three, passkeyBundle]

end Sample

end TdfIrohS3
