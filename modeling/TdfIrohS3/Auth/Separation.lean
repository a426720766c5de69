import TdfIrohS3.Auth.Credential

namespace TdfIrohS3

open Library

section Parsers

variable {Key : Type} {platform : AuthPlatform Key} {payload : List UInt8}

theorem read_typ (claims : ClaimsRead) (value : Cbor) :
    ∀ after, claims.read platform (.text "typ", value) ≠ .ok after := by
  intro after read
  simp only [ClaimsRead.read, bind_ok] at read
  obtain ⟨marked, -, claimed⟩ := read
  cases claimed

theorem claim_typ {found after : CredentialRead Key} {label : String} {value : Cbor}
    (claimed : found.claim platform label value = .ok after) (named : label ≠ "typ") :
    after.typ = found.typ := by
  unfold CredentialRead.claim at claimed
  split at claimed
  · exact absurd rfl named
  all_goals
    repeat' split at claimed
    all_goals first
      | cases claimed; rfl
      | cases claimed

/-- Only a `typ` entry sets the type of an attestation. -/
theorem credentialRead_typ (found : CredentialRead Key) (entry : Cbor × Cbor)
    (after : CredentialRead Key) (read : found.read platform entry = .ok after)
    (other : ¬entry.1 = .text "typ") : after.typ = found.typ := by
  obtain ⟨label, value⟩ := entry
  cases label with
  | text label =>
      have named : label ≠ "typ" := fun same => other (by rw [same])
      simp only [CredentialRead.read, unless_error_ok] at read
      have kept := claim_typ read.2 named
      exact kept
  | _ => cases read

theorem parseClaims_ok {claims : VerifiedClaims} (parsed : parseClaims platform payload = .ok claims) :
    ∃ entries, platform.cbor payload = some (.map entries) ∧
      ∀ entry ∈ entries, entry.1 ≠ .text "typ" := by
  unfold parseClaims at parsed
  split at parsed
  · rename_i entries decoded
    rw [bind_ok] at parsed
    obtain ⟨last, folded, -⟩ := parsed
    refine ⟨entries, decoded, ?_⟩
    intro entry member named
    obtain ⟨before, after, read⟩ := foldlM_read folded entry member
    obtain ⟨label, value⟩ := entry
    cases named
    exact read_typ before value after read
  · cases parsed

theorem parseCredential_ok {credential : Credential Key}
    (parsed : parseCredential platform payload = .ok credential) :
    ∃ entries, platform.cbor payload = some (.map entries) ∧
      ∃ entry ∈ entries, entry.1 = .text "typ" := by
  unfold parseCredential at parsed
  split at parsed
  · cases parsed
  · rename_i entries decoded
    rw [bind_ok] at parsed
    obtain ⟨last, folded, finished⟩ := parsed
    refine ⟨entries, decoded, ?_⟩
    simp only [CredentialRead.finish, unless_error_ok, not_not] at finished
    refine foldlM_changed CredentialRead.typ credentialRead_typ folded ?_
    rw [finished.1]
    exact Option.some_ne_none _
  · cases parsed

/-- No payload is read both as the claims of a token and as an attestation. -/
theorem parsers_apart {claims : VerifiedClaims} {credential : Credential Key}
    (token : parseClaims platform payload = .ok claims)
    (attestation : parseCredential platform payload = .ok credential) : False := by
  obtain ⟨entries, decoded, untyped⟩ := parseClaims_ok token
  obtain ⟨others, decoded', entry, member, typed⟩ := parseCredential_ok attestation
  rw [decoded] at decoded'
  cases decoded'
  exact untyped entry member typed

end Parsers

section Content

variable {Key : Type} {platform : AuthPlatform Key} {sign1 : CoseSign1}

theorem verifyToken_ok {answers : KeyAnswers Key} {expectedIss expectedAud : Option String}
    {now : Int} {claims : VerifiedClaims}
    (accepted : verifyToken platform answers expectedIss expectedAud now sign1 = .ok claims) :
    sign1.header.contentType = none ∧ ∃ payload, sign1.payload = some payload ∧
      ∃ parsed, parseClaims platform payload = .ok parsed := by
  simp only [verifyToken, unless_error_ok, bind_ok, Bool.not_eq_true, Option.isSome_eq_false_iff,
    Option.isNone_iff_eq_none] at accepted
  obtain ⟨untyped, -, -, read⟩ := accepted
  refine ⟨untyped, ?_⟩
  split at read
  · cases read
  · rename_i payload held
    obtain ⟨parsed, claimed, -⟩ := bind_ok.mp read
    exact ⟨payload, held, parsed, claimed⟩

theorem messages_apart {answers answers' : KeyAnswers Key}
    {expectedIss expectedAud expectedIss' : Option String} {now now' : Int}
    {identity attestation : CoseSign1} {claims : VerifiedClaims} {credential : Credential Key}
    (same : identity.header = attestation.header ∨ identity.payload = attestation.payload)
    (accepted : verifyToken platform answers expectedIss expectedAud now identity = .ok claims)
    (admitted : verifyAttestation platform answers' expectedIss' now' attestation = .ok credential) :
    False := by
  obtain ⟨untyped, payload, held, _, token⟩ := verifyToken_ok accepted
  have attests := verifyAttestation_ok admitted
  obtain ⟨payload', held', attested⟩ := attests.read
  rcases same with header | content
  · rw [header, attests.typed] at untyped
    cases untyped
  · rw [content, held'] at held
    cases held
    exact parsers_apart token attested

/-- An identity token and a passkey attestation never stand in for each other: no payload is both,
and no message is, under the same protected header or with the same payload under any header. -/
theorem verifyWith_excludes_verifyCredential (platform : AuthPlatform Key) :
    (∀ payload,
        (∀ claims, parseClaims platform payload = .ok claims →
          ∃ why, parseCredential platform payload = .error why) ∧
        (∀ credential, parseCredential platform payload = .ok credential →
          ∃ why, parseClaims platform payload = .error why)) ∧
      ∀ (token : String) (bytes : List UInt8) (identity attestation : CoseSign1),
        tokenSign1 platform token = some identity →
        attestationSign1 platform bytes = some attestation →
        (identity.header = attestation.header ∨ identity.payload = attestation.payload) →
        ∀ (answers answers' : KeyAnswers Key) (expectedIss expectedAud expectedIss' : Option String)
          (now now' : Int),
          (∀ claims, verifyWith platform answers expectedIss expectedAud now token = .ok claims →
            ∃ why, verifyCredential platform answers' expectedIss' now' bytes = .error why) ∧
          (∀ credential,
            verifyCredential platform answers' expectedIss' now' bytes = .ok credential →
            ∃ why, verifyWith platform answers expectedIss expectedAud now token = .error why) := by
  refine ⟨fun payload => ⟨?_, ?_⟩, ?_⟩
  · intro claims token
    exact refused_iff.mpr fun credential => parsers_apart token
  · intro credential attestation
    exact refused_iff.mpr fun claims token => parsers_apart token attestation
  · intro token bytes identity attestation signed attested same answers answers' expectedIss
      expectedAud expectedIss' now now'
    have apart : ∀ claims credential,
        verifyWith platform answers expectedIss expectedAud now token = .ok claims →
        verifyCredential platform answers' expectedIss' now' bytes = .ok credential → False := by
      intro claims credential accepted admitted
      simp only [verifyWith, signed] at accepted
      simp only [verifyCredential, attested] at admitted
      exact messages_apart same accepted admitted
    exact ⟨fun claims accepted => refused_iff.mpr fun credential => apart claims credential accepted,
      fun credential admitted => refused_iff.mpr fun claims accepted =>
        apart claims credential accepted admitted⟩

end Content

section Specimens

def identityMessage : CoseSign1 := ⟨⟨some .es256, [], none, [1]⟩, [], some [1], []⟩

def identityEntries : List (Cbor × Cbor) :=
  [(.integer 1, .text "idp"), (.integer 2, .text "alice"), (.integer 3, .text "tdf"),
    (.integer 4, .integer 900), (.integer 6, .integer 100), (.integer 7, .bytes [5])]

def attestationMessage : CoseSign1 :=
  ⟨⟨some .es256, [], some (.text credentialContentType), [1]⟩, [], some [2], []⟩

def attestationEntries : List (Cbor × Cbor) :=
  [(.text "typ", .text passkeyCredentialTyp), (.text "iss", .text "idp"),
    (.text "sub", .text "alice"), (.text "credentialId", .bytes [6]),
    (.text "publicKey", .map [(.integer 1, .integer 2)]), (.text "rpId", .text "arkavo"),
    (.text "iat", .integer 100)]

def passkeyCoordinates : List (Label × Cbor) :=
  [(.int (-1), .integer 1), (.int (-2), .bytes (List.replicate 32 7)),
    (.int (-3), .bytes (List.replicate 32 8))]

def specimens : AuthPlatform Unit where
  cbor
    | [1] => some (.map identityEntries)
    | [2] => some (.map attestationEntries)
    | _ => none
  decodeBase64Url
    | "identity" => some [0xD8, 0x3D, 1]
    | "attestation" => some [0xD8, 0x3D, 2]
    | _ => none
  encodeBase64Url _ := ""
  encodeBase64 _ := ""
  sign1
    | [1] => some identityMessage
    | [2] => some attestationMessage
    | _ => none
  taggedSign1 _ := none
  coseKey _ := some ⟨.ec2, [1], passkeyCoordinates⟩
  fromSec1 _ := .ok ()
  verifies _ _ := true
  floatNumber _ := none
  debug _ := ""

def specimenKeys : KeyAnswers Unit := ⟨Table.empty.insert [1] (), .ok Table.empty⟩

theorem verifyWith_excludes_verifyCredential_specimens :
    ((verifyWith specimens specimenKeys none none 200 "identity").isOk = true ∧
      ∃ why, verifyCredential specimens specimenKeys none 200 [1] = .error why) ∧
    ((verifyCredential specimens specimenKeys none 200 [2]).isOk = true ∧
      ∃ why, verifyWith specimens specimenKeys none none 200 "attestation" = .error why) := by
  have accepted : (verifyWith specimens specimenKeys none none 200 "identity").isOk = true := by
    decide +kernel
  have admitted : (verifyCredential specimens specimenKeys none 200 [2]).isOk = true := by
    decide +kernel
  refine ⟨⟨accepted, ?_⟩, admitted, ?_⟩
  · obtain ⟨claims, held⟩ := ok_of_isOk accepted
    have signed : tokenSign1 specimens "identity" = some identityMessage := by decide +kernel
    exact ((verifyWith_excludes_verifyCredential specimens).2 _ _ _ _ signed rfl (.inl rfl)
      specimenKeys specimenKeys none none none 200 200).1 claims held
  · obtain ⟨credential, held⟩ := ok_of_isOk admitted
    have signed : tokenSign1 specimens "attestation" = some attestationMessage := by decide +kernel
    exact ((verifyWith_excludes_verifyCredential specimens).2 _ _ _ _ signed rfl (.inl rfl)
      specimenKeys specimenKeys none none none 200 200).2 credential held

end Specimens

end TdfIrohS3
