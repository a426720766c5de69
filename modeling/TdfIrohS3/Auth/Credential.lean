import TdfIrohS3.Auth.Cwt
import TdfIrohS3.Catalog.Handlers

namespace TdfIrohS3

open Library

def credentialContentType : String := "application/arkavo-passkey-credential+cbor"

def passkeyCredentialTyp : String := "arkavo-passkey-credential"

structure Credential (Key : Type) where
  sub : String
  credentialId : List UInt8
  publicKey : Key
  rpId : String
  iss : String
  iat : Int

structure CredentialRead (Key : Type) where
  seen : List String := []
  typ : Option String := none
  iss : Option String := none
  sub : Option String := none
  credentialId : Option (List UInt8) := none
  publicKey : Option Key := none
  rpId : Option String := none
  iat : Option Int := none

section Parsing

variable {Key : Type} (platform : AuthPlatform Key)

def CredentialRead.claim (found : CredentialRead Key) (label : String) (value : Cbor) :
    Except String (CredentialRead Key) :=
  match label, value with
  | "typ", .text s => .ok { found with typ := some s }
  | "iss", .text s => .ok { found with iss := some s }
  | "sub", .text s => .ok { found with sub := some s }
  | "credentialId", .bytes b => .ok { found with credentialId := some b }
  | "publicKey", .map entries =>
      match platform.coseKey (.map entries) with
      | none => .error "credential publicKey is not a COSE_Key"
      | some cose =>
          match p256FromCoseKey platform cose with
          | .error why => .error ("credential publicKey: " ++ why)
          | .ok key => .ok { found with publicKey := some key }
  | "rpId", .text s => .ok { found with rpId := some s }
  | "iat", .integer n =>
      match toI64 n with
      | some iat => .ok { found with iat := some iat }
      | none => .error "credential iat"
  | other, _ => .error ("credential has unexpected or mistyped " ++ other)

def CredentialRead.read (found : CredentialRead Key) :
    Cbor × Cbor → Except String (CredentialRead Key)
  | (.text label, value) =>
      if label ∈ found.seen then .error ("credential repeats " ++ label)
      else { found with seen := label :: found.seen }.claim platform label value
  | _ => .error "credential keys must be text"

def present {α : Type} (value : Option α) (name : String) : Except String α :=
  match value with
  | some found => .ok found
  | none => .error ("credential is missing " ++ name)

def CredentialRead.finish (found : CredentialRead Key) : Except String (Credential Key) :=
  if found.typ ≠ some passkeyCredentialTyp then
    .error ("credential typ must be \"" ++ passkeyCredentialTyp ++ "\"")
  else do
    let iss ← present found.iss "iss"
    let sub ← present (found.sub.filter fun s => s != "") "sub"
    let credentialId ← present (found.credentialId.filter fun b => !b.isEmpty) "credentialId"
    let publicKey ← present found.publicKey "publicKey"
    let rpId ← present found.rpId "rpId"
    let iat ← present found.iat "iat"
    return { sub, credentialId, publicKey, rpId, iss, iat }

/-- The attestation payload: a CBOR map with exactly the text keys `typ`, `iss`, `sub`,
`credentialId`, `publicKey`, `rpId` and `iat`. -/
def parseCredential (payload : List UInt8) : Except String (Credential Key) :=
  match platform.cbor payload with
  | none => .error "credential payload is not CBOR"
  | some (.map entries) => do
      let found ← entries.foldlM (CredentialRead.read platform) {}
      found.finish
  | some _ => .error "credential payload is not a map"

def attestationSign1 (bytes : List UInt8) : Option CoseSign1 :=
  if bytes.head? = some 0xD2 then platform.taggedSign1 bytes else platform.sign1 bytes

def TokenError.asBundleError : TokenError → BundleError
  | .keySet _ => .keySet
  | .unknownKid => .invalid "credential signed by an unknown key"
  | .algorithm => .invalid "credential must be ES256"
  | _ => .invalid "credential signature does not verify"

def verifyAttestation (answers : KeyAnswers Key) (expectedIss : Option String) (now : Int)
    (sign1 : CoseSign1) : Except BundleError (Credential Key) :=
  if sign1.header.contentType ≠ some (.text credentialContentType) then
    .error (.invalid ("credential content type must be \"" ++ credentialContentType ++ "\""))
  else do
    (verifySign1 platform answers sign1).mapError TokenError.asBundleError
    match sign1.payload with
    | none => .error (.invalid "credential has no payload")
    | some payload =>
        let credential ← (parseCredential platform payload).mapError BundleError.invalid
        if expectedIss.any fun iss => credential.iss != iss then
          .error (.invalid "credential issuer mismatch")
        else if credential.iat > now + skewSecs then
          .error (.invalid "credential issued in the future")
        else .ok credential

def verifyCredential (answers : KeyAnswers Key) (expectedIss : Option String) (now : Int)
    (bytes : List UInt8) : Except BundleError (Credential Key) :=
  match attestationSign1 platform bytes with
  | none => .error (.invalid "credential is not a COSE_Sign1")
  | some sign1 => verifyAttestation platform answers expectedIss now sign1

end Parsing

section Attested

variable {Key : Type} {platform : AuthPlatform Key} {answers : KeyAnswers Key} {sign1 : CoseSign1}

def KeyAnswers.Offers (answers : KeyAnswers Key) (kid : List UInt8) (key : Key) : Prop :=
  answers.cached.get kid = some key ∨
    ∃ keys, answers.refreshed = .ok keys ∧ keys.get kid = some key

theorem checkSignature_ok {key : Key} (checked : checkSignature platform key sign1 = .ok ()) :
    platform.verifies key sign1 = true := by
  simp only [checkSignature, when_ok] at checked
  exact checked.1

theorem verifySign1_ok (accepted : verifySign1 platform answers sign1 = .ok ()) :
    ∃ key, answers.Offers sign1.header.keyId key ∧ platform.verifies key sign1 = true := by
  simp only [verifySign1, checkHeader, bind_ok, unless_error_ok] at accepted
  obtain ⟨kid, ⟨-, -, -, named⟩, found⟩ := accepted
  cases named
  split at found
  · rename_i key cached
    exact ⟨key, .inl cached, checkSignature_ok found⟩
  · split at found
    · cases found
    · rename_i keys refreshed
      split at found
      · rename_i key held
        exact ⟨key, .inr ⟨keys, refreshed, held⟩, checkSignature_ok found⟩
      · cases found

structure Attests (platform : AuthPlatform Key) (answers : KeyAnswers Key)
    (expectedIss : Option String) (now : Int) (sign1 : CoseSign1) (credential : Credential Key) :
    Prop where
  typed : sign1.header.contentType = some (.text credentialContentType)
  signed : ∃ key, answers.Offers sign1.header.keyId key ∧ platform.verifies key sign1 = true
  read : ∃ payload, sign1.payload = some payload ∧
    parseCredential platform payload = .ok credential
  issuer : ∀ iss, expectedIss = some iss → credential.iss = iss
  issued : credential.iat ≤ now + skewSecs

theorem verifyAttestation_ok {expectedIss : Option String} {now : Int}
    {credential : Credential Key}
    (accepted : verifyAttestation platform answers expectedIss now sign1 = .ok credential) :
    Attests platform answers expectedIss now sign1 credential := by
  simp only [verifyAttestation, unless_error_ok, bind_ok, mapError_ok, not_not] at accepted
  obtain ⟨typed, ⟨⟩, verified, read⟩ := accepted
  split at read
  · cases read
  · rename_i payload held
    simp only [bind_ok, mapError_ok, unless_error_ok, Except.ok.injEq] at read
    obtain ⟨found, parsed, issuer, issued, rfl⟩ := read
    refine ⟨typed, verifySign1_ok verified, ⟨payload, held, parsed⟩, ?_, Int.not_lt.mp issued⟩
    rintro iss rfl
    simpa using issuer

end Attested

end TdfIrohS3
