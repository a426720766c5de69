import TdfIrohS3.Catalog.Envelope
import TdfIrohS3.Catalog.Precondition
import TdfIrohS3.Publish.Decision

namespace TdfIrohS3

open Library

/-- The size of the pre-order outboard of so many bytes, in chunk groups of 16 KiB. -/
structure BaoTree where
  outboardSize : Nat → Nat

/-- What the catalog routes take from libraries and from S3: `outboard` is the BAO outboard of some
bytes, `etag` the validator S3 gives an object with that body. -/
structure CatalogPlatform extends Formats, Opentdf, BaoTree where
  blake3 : List UInt8 → List UInt8
  outboard : List UInt8 → Option (List UInt8)
  etag : List UInt8 → String

def CatalogPlatform.blake3Hex (platform : CatalogPlatform) (bytes : List UInt8) : String :=
  Text.hexEncode (platform.blake3 bytes)

structure CatalogDocument where
  body : List UInt8
  owner : Option String
  deriving DecidableEq, Repr

structure Bucket where
  blobs : Table String (List UInt8)
  outboards : Table String (List UInt8)
  manifests : Table String (List UInt8)
  documents : Table String CatalogDocument
  catalogOutboards : Table String (List UInt8)
  indexes : Table String (List UInt8)
  pointers : Table String (List UInt8)

structure TagPublishing where
  policy : PublishPolicy
  moderation : Moderation

structure Readers where
  /-- Whether a decision service is configured. -/
  provider : Bool
  action : String
  environment : Option Value
  deriving DecidableEq, Repr

structure V2State where
  publishing : Option TagPublishing
  readers : Readers
  attributes : Table String String

def attributeCacheCapacity : Nat := 100000

def storageUnavailable : Refusal := ⟨502, "storage unavailable"⟩

namespace V2State

def isBlocked (node : V2State) (hash : String) : Bool :=
  node.publishing.any fun p => p.moderation.isBlocked hash

def ownerHidden (node : V2State) (owner : Option String) : Bool :=
  node.publishing.any fun p => owner.any fun o => p.moderation.catalogHidden o

def authorizePublisher (node : V2State) (headers : Headers) (answers : Answers) :
    Except Refusal VerifiedClaims :=
  match node.publishing with
  | some p => (p.policy.publisherWithChain p.moderation headers answers).map Prod.fst
  | none =>
      match bearer headers with
      | none => .error ⟨401, "missing bearer token"⟩
      | some _ =>
          match answers.verified with
          | .error .keySet => .error ⟨502, "invalid token"⟩
          | .error .invalid => .error ⟨401, "invalid token"⟩
          | .ok claims => .ok claims

end V2State

section Put

def maxPutBytes : Nat := 10485760

def isJson (headers : Headers) : Bool :=
  ((headers.get "content-type").bind Headers.toStr).any fun v =>
    (Text.split v ';').head?.any fun m => Text.toAsciiLowercase (Text.trim m) == "application/json"

structure PutRequest where
  document : String
  bundle : Bundle
  index : Value
  deriving DecidableEq, Repr

def PutRequest.read (tree : Value) : Option PutRequest := do
  match ← tree.structFields ["document", "bundle", "index"] with
  | [document, bundle, index] =>
      return { document := ← document.asStr, bundle := ← Bundle.read bundle,
               index := index.lastWins }
  | _ => none

def authorizePut (node : V2State) (sub : String) (headers : Headers) (answers : Answers) :
    Except Refusal VerifiedClaims :=
  match node.authorizePublisher headers answers with
  | .error refusal => .error refusal
  | .ok claims =>
      if sub ≠ claims.sub then .error ⟨403, "catalog does not match token subject"⟩
      else if !isJson headers then .error ⟨415, "content type must be application/json"⟩
      else .ok claims

def readPut (formats : Formats) (body : Option (List UInt8)) :
    Except Refusal (PutRequest × List UInt8) :=
  match body with
  | none => .error ⟨400, "unreadable request body"⟩
  | some bytes =>
      if bytes.length > maxPutBytes then .error ⟨413, "request too large"⟩
      else
        match
          formats.fromSlice (fun tree => if tree.noDuplicateKeys then some () else none) bytes with
        | .error reason => .error ⟨400, "invalid request: " ++ reason⟩
        | .ok () =>
            match formats.fromSlice PutRequest.read bytes with
            | .error reason => .error ⟨400, "invalid request: " ++ reason⟩
            | .ok request =>
                match formats.base64Url request.document with
                | some document =>
                    if !document.isEmpty && decide (document.length ≤ maxCatalogBytes) then
                      .ok (request, document)
                    else .error ⟨422, "invalid request: document must be 1-" ++
                      toString maxCatalogBytes ++ " bytes of unpadded base64url"⟩
                | none => .error ⟨422, "invalid request: document must be 1-" ++
                    toString maxCatalogBytes ++ " bytes of unpadded base64url"⟩

inductive BundleError
  | invalid (why : String)
  | keySet
  deriving DecidableEq, Repr

structure VerifiedBundle (platform : CatalogPlatform) (sub : String) where
  bundle : Bundle
  bytes : List UInt8
  pointer : Pointer
  credentialId : List UInt8
  decoded : platform.base64Url bundle.pointer = some bytes
  parsed : parsePointer platform.toFormats bytes = .ok pointer
  owned : pointer.owner = sub

/-- Step 3. `chain` is what the checks of the attestation and of the passkey's assertion answer: the
credential id, or why they refuse. -/
def verifyBundle (platform : CatalogPlatform) (sub : String) (bundle : Bundle)
    (chain : Except BundleError (List UInt8)) : Except BundleError (VerifiedBundle platform sub) :=
  match decoding : decodeField platform.toFormats "pointer" bundle.pointer maxPointerBytes with
  | .error why => .error (.invalid why)
  | .ok bytes =>
      match parsing : parsePointer platform.toFormats bytes with
      | .error why => .error (.invalid why)
      | .ok pointer =>
          if owned : pointer.owner = sub then
            match chain with
            | .error error => .error error
            | .ok credentialId =>
                .ok { bundle, bytes, pointer, credentialId, decoded := decodeField_ok decoding,
                      parsed := parsing, owned }
          else .error (.invalid "pointer owner does not match the catalog subject")

def ownsCampaign (claims : VerifiedClaims) (id : String) : Bool :=
  claims.arkavoPatreon.any fun p =>
    (p.get "role").bind Value.asStr == some "creator" &&
      (p.get "campaign_id").bind Value.asStr == some id

structure PublishJob (platform : CatalogPlatform) (sub : String) extends
    VerifiedBundle platform sub where
  document : List UInt8
  fqn : String
  index : Value
  entries : List CreatorCatalogEntry
  hashed : pointer.catalogHash = platform.blake3Hex document
  sized : pointer.catalogSize = document.length
  enveloped : envelopeAttribute platform.toFormats platform.toOpentdf document sub = .ok fqn

def checkPut (platform : CatalogPlatform) (node : V2State) (sub : String) (claims : VerifiedClaims)
    (request : PutRequest) (document : List UInt8) (chain : Except BundleError (List UInt8)) :
    Except Refusal (PublishJob platform sub) :=
  match verifyBundle platform sub request.bundle chain with
  | .error (.invalid why) => .error ⟨422, "invalid bundle: " ++ why⟩
  | .error .keySet => .error ⟨502, "key set unavailable"⟩
  | .ok verified =>
      if named : verified.pointer.catalogHash = platform.blake3Hex document ∧
          verified.pointer.catalogSize = document.length then
        match enveloping : envelopeAttribute platform.toFormats platform.toOpentdf document sub with
        | .error why => .error ⟨422, why⟩
        | .ok fqn =>
            if (Text.stripPrefix fqn campaignFqnPrefix).any fun id => !ownsCampaign claims id then
              .error ⟨403, "catalog campaign is not the publisher's"⟩
            else
              match parseIndex platform.toFormats request.index with
              | .error why => .error ⟨422, "invalid index: " ++ why⟩
              | .ok entries =>
                  if node.isBlocked (platform.blake3Hex document) then
                    .error ⟨403, "content is blocked"⟩
                  else .ok { verified with
                    document, fqn, index := request.index, entries, hashed := named.1,
                    sized := named.2, enveloped := enveloping }
      else .error
        ⟨422, "invalid bundle: catalogHash or catalogSize does not match the document"⟩

def hashes (entries : List CreatorCatalogEntry) : List String :=
  (entries.map CreatorCatalogEntry.payloadHash).eraseDups

/-- `check_payloads`. The two lists are the hashes whose size or manifest look-up fails. -/
def checkPayloads (platform : CatalogPlatform) (node : V2State) (bucket : Bucket)
    (entries : List CreatorCatalogEntry) (fqn : String) (sizesDown manifestsDown : List String) :
    Except Refusal Unit := do
  if entries.any fun e => node.isBlocked e.payloadHash then throw ⟨403, "content is blocked"⟩
  let sizes ← (hashes entries).mapM fun hash =>
    if sizesDown.contains hash then .error storageUnavailable
    else
      match bucket.blobs.get hash with
      | some bytes => .ok (hash, bytes.length)
      | none => .error ⟨422, "payload " ++ hash ++ " is not ingested"⟩
  match entries.find? fun e => sizes.lookup e.payloadHash ≠ some e.payloadSize with
  | some e => throw ⟨422, "payload " ++ e.payloadHash ++ " size does not match"⟩
  | none => pure ()
  let manifests ← (hashes entries).mapM fun hash =>
    if manifestsDown.contains hash then .error storageUnavailable
    else
      match bucket.manifests.get hash with
      | none => .error ⟨422, "payload " ++ hash ++ " manifest is not stored"⟩
      | some bytes =>
          match readManifest platform.toFormats bytes with
          | some manifest => .ok (hash, manifest)
          | none => .error ⟨422, "payload " ++ hash ++ " manifest is unreadable"⟩
  match entries.find? fun e => !(manifests.lookup e.payloadHash).any fun manifest =>
      manifest.hasAttribute platform.toOpentdf fqn with
  | some e => throw ⟨422, "entry " ++ e.contentId ++
      " policy does not include the catalog attribute"⟩
  | none => pure ()

inductive StatusRefusal
  | refused (why : String)
  | unavailable
  deriving DecidableEq, Repr

structure Base where
  body : List UInt8
  seq : Nat
  hash : String
  /-- Its catalog has an index record. -/
  live : Bool
  blocked : Bool
  deriving DecidableEq, Repr

def Base.currentSeq (base : Option Base) : Option Nat :=
  base.bind fun b => if b.live then some b.seq else none

def Base.servedSeq (base : Option Base) : Option Nat :=
  base.bind fun b => if b.live && !b.blocked then some b.seq else none

structure Admitted (platform : CatalogPlatform) (sub : String) (headers : Headers) where
  job : PublishJob platform sub
  base : Option Base
  outboard : List UInt8
  passed : preconditionsHold headers ((Base.servedSeq base).map pointerEtag) = true
  newer : ∀ seq, Base.currentSeq base = some seq → seq < job.pointer.seq

/-- The rest of step 7, and the outboard of step 8. -/
def admission (platform : CatalogPlatform) (headers : Headers) {sub : String}
    (job : PublishJob platform sub) (base : Option Base) :
    Except Refusal (Admitted platform sub headers) :=
  if passed : preconditionsHold headers ((Base.servedSeq base).map pointerEtag) = true then
    match current : Base.currentSeq base with
    | some seq =>
        if newer : seq < job.pointer.seq then
          match platform.outboard job.document with
          | none => .error storageUnavailable
          | some outboard => .ok
              { job, base, outboard, passed,
                newer := by rw [current]; rintro _ ⟨⟩; exact newer }
        else .error ⟨409, "seq must be greater than " ++ toString seq⟩
    | none =>
        match platform.outboard job.document with
        | none => .error storageUnavailable
        | some outboard => .ok { job, base, outboard, passed, newer := by rw [current]; rintro _ ⟨⟩ }
  else .error ⟨412, "catalog changed since it was read"⟩

theorem admission_ok {platform : CatalogPlatform} {headers : Headers} {sub : String}
    {job : PublishJob platform sub} {base : Option Base} {admitted : Admitted platform sub headers}
    (accepted : admission platform headers job base = .ok admitted) :
    admitted.job = job ∧ admitted.base = base := by
  unfold admission at accepted
  split at accepted
  · split at accepted
    · split at accepted
      · split at accepted <;> cases accepted
        exact ⟨rfl, rfl⟩
      · cases accepted
    · split at accepted <;> cases accepted
      exact ⟨rfl, rfl⟩
  · cases accepted

def PublishJob.record {platform : CatalogPlatform} {sub : String} (job : PublishJob platform sub) :
    IndexRecord :=
  { owner := sub, attributeFqn := job.fqn, entries := job.index }

end Put

section Get

def authorizeCatalogReader (headers : Headers) (verified : Except AuthError VerifiedClaims) :
    Except Refusal VerifiedClaims :=
  match bearer headers with
  | none => .error ⟨401, "token required"⟩
  | some _ =>
      match verified with
      | .ok claims => .ok claims
      | .error .keySet => .error ⟨502, "key set unavailable"⟩
      | .error .invalid => .error ⟨401, "invalid token"⟩

def isOperator (node : V2State) (claims : VerifiedClaims) : Bool :=
  node.publishing.any fun p =>
    (Text.stripPrefix claims.sub "client:").any fun client =>
      client != "" && p.policy.operatorClientIds.contains client && claims.aud.contains client &&
        claims.arkavoRoles.any fun roles => roles.contains "service-account"

def personChain (headers : Headers) (claims : VerifiedClaims) (token : String)
    (environment : Option Value) (devices : List (Except AuthError VerifiedClaims)) :
    Except Refusal (List ChainEntity) := do
  let tokens := entityTokens headers
  checkLength tokens.length environment.isSome
  let verified ← verifiedDevices claims.sub tokens devices
  return subjectEntity claims (some token) :: verified ++ (environment.map environmentEntity).toList

def catalogNotFound : Refusal := ⟨404, "catalog not found"⟩

def resolveReader (node : V2State) (sub : String) (headers : Headers)
    (verified : Except AuthError VerifiedClaims) : Except Refusal VerifiedClaims :=
  match authorizeCatalogReader headers verified with
  | .error refusal => .error refusal
  | .ok claims =>
      if !validIdentifier sub maxOwnerBytes then .error ⟨400, "invalid subject"⟩
      else if node.ownerHidden (some sub) then .error catalogNotFound
      else .ok claims

structure StoredPointer where
  body : List UInt8
  seq : Nat
  hash : String
  deriving DecidableEq, Repr

def resolvePointer (formats : Formats) (node : V2State) (stored : Option (List UInt8)) :
    Except Refusal StoredPointer :=
  match stored with
  | none => .error catalogNotFound
  | some body =>
      match storedSeq formats body with
      | none => .error storageUnavailable
      | some (seq, hash) =>
          if node.isBlocked hash then .error catalogNotFound else .ok { body, seq, hash }

def resolveAttribute (formats : Formats) (stored : Option (List UInt8)) : Except Refusal String :=
  match stored with
  | none => .error catalogNotFound
  | some body =>
      match formats.fromSlice IndexRecord.read body with
      | .error _ => .error storageUnavailable
      | .ok record => .ok record.attributeFqn

def V2State.remember (node : V2State) (hash fqn : String) : V2State :=
  let known := if node.attributes.len ≥ attributeCacheCapacity then Table.empty else node.attributes
  { node with attributes := known.insert hash fqn }

/-- `decide_reader` up to the decision service: the chain it is asked about. The reader has a token,
since it was verified. -/
def readerChain (node : V2State) (headers : Headers) (claims : VerifiedClaims)
    (devices : List (Except AuthError VerifiedClaims)) : Except Refusal (List ChainEntity) :=
  if node.readers.provider then
    personChain headers claims ((bearer headers).getD "") node.readers.environment devices
  else .error ⟨502, "decision unavailable"⟩

def readerVerdict (hash : String) : Option Decisions → Except Refusal Unit
  | none => .error ⟨502, "decision unavailable"⟩
  | some verdicts =>
      if verdicts.lookup hash = some true then .ok () else .error ⟨403, "not entitled to catalog"⟩

end Get

end TdfIrohS3
