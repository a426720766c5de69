import TdfIrohS3.Ingest.Structure

namespace TdfIrohS3

open Library

structure AttributeFqn where
  space : String
  name : String
  value : Option String
  deriving DecidableEq, Repr

structure AssertionConfig where
  enabled : Bool
  trustedPublicKeys : List String
  deriving DecidableEq, Repr

structure ValidationConfig where
  requiredAttributes : List String
  assertion : AssertionConfig
  maxBlobBytes : Nat
  deriving DecidableEq, Repr

/-- The code an ingest calls and does not contain: BLAKE3 and the outboard of iroh's tree, the readers
of an archive, opentdf's attribute names and the files of trusted keys. -/
structure IngestPlatform extends TdfReaders where
  blake3 : List UInt8 → List UInt8
  outboard : List UInt8 → List UInt8
  parseFqn : String → Option AttributeFqn
  readKey : String → Option String

def IngestPlatform.blake3Hex (platform : IngestPlatform) (bytes : List UInt8) : String :=
  Text.hexEncode (platform.blake3 bytes)

section Checks

variable (platform : IngestPlatform) (config : ValidationConfig)

def checkBlobSize (size : Nat) : Except String Unit :=
  if size ≤ config.maxBlobBytes then .ok ()
  else .error ("blob of " ++ toString size ++ " bytes exceeds [validation] max_blob_bytes (" ++
    toString config.maxBlobBytes ++ ")")

def attributeInPolicy (policyJson fqn : String) : Except String Bool :=
  match platform.parseFqn fqn with
  | none => .error ("Invalid attribute FQN: '" ++ fqn ++ "'")
  | some parsed =>
      if !Text.contains policyJson parsed.space || !Text.contains policyJson parsed.name then .ok false
      else
        match parsed.value with
        | some value => .ok (Text.contains policyJson value)
        | none => .ok true

def requireAttributes (policyJson : String) : List String → Except String Unit
  | [] => .ok ()
  | required :: rest => do
      let found ← attributeInPolicy platform policyJson required
      if found then requireAttributes policyJson rest
      else .error ("Required attribute '" ++ required ++ "' not found in TDF policy")

def validateAttributes (manifest : TdfManifest) (requiredAttributes : List String) :
    Except String Unit :=
  if requiredAttributes.isEmpty then .ok ()
  else
    match manifest.policyRaw with
    | none => .error "Failed to read policy from manifest"
    | some policyJson => requireAttributes platform policyJson requiredAttributes

def emptyBinding (hashes : List String) : Option Nat := hashes.findIdx? fun hash => hash == ""

def readKeys : List String → Except String Unit
  | [] => .ok ()
  | path :: rest =>
      match platform.readKey path with
      | none => .error ("Failed to read trusted key '" ++ path ++ "'")
      | some _ => readKeys rest

/-- The trusted keys are read and not used: no signature is checked. -/
def validateAssertion (manifest : TdfManifest) (enabled : Bool) (trustedPublicKeyPaths : List String) :
    Except String Unit :=
  if !enabled then .ok ()
  else if trustedPublicKeyPaths.isEmpty then
    .error "Assertion check enabled but no trusted public keys configured"
  else
    match emptyBinding manifest.bindingHashes with
    | some i => .error ("Key access object " ++ toString i ++
        " has empty policy binding hash — assertion verification failed")
    | none => readKeys platform trustedPublicKeyPaths

def validateArchive (data : List UInt8) (size : Nat) : Except String TdfManifest := do
  checkBlobSize config size
  let manifest ← validateTdfStructureFrom platform.toTdfReaders data
  validateAttributes platform manifest config.requiredAttributes
  validateAssertion platform manifest config.assertion.enabled config.assertion.trustedPublicKeys
  return manifest

def computeOutboard (data : List UInt8) (size : Nat) (expected : String) : Except String (List UInt8) :=
  if data.length < size then .error "Failed to compute the blob's outboard"
  else
    let root := platform.blake3Hex (data.take size)
    if root = expected then .ok (platform.outboard (data.take size))
    else .error ("the blob's bytes hash to " ++ root ++ ", not " ++ expected ++
      "; refusing to store an outboard for it")

end Checks

section Specifications

variable {platform : IngestPlatform} {config : ValidationConfig}

theorem validateArchive_size {data : List UInt8} {size : Nat} {manifest : TdfManifest}
    (accepted : validateArchive platform config data size = .ok manifest) :
    size ≤ config.maxBlobBytes := by
  simp only [validateArchive, bind_ok] at accepted
  rcases accepted with ⟨sized, passed, -⟩
  simp only [checkBlobSize, when_ok] at passed
  exact passed.1

theorem validateArchive_holds {data : List UInt8} {size : Nat} {manifest : TdfManifest}
    (accepted : validateArchive platform config data size = .ok manifest) :
    ∃ archive manifestName payloadName,
      HoldsTdf platform.toTdfReaders data manifest archive manifestName payloadName := by
  simp only [validateArchive, bind_ok] at accepted
  obtain ⟨_, -, read, parsed, _, -, _, -, same⟩ := accepted
  cases same
  exact validateTdfStructureFrom_holds parsed

theorem computeOutboard_ok {data outboard : List UInt8} {size : Nat} {expected : String}
    (computed : computeOutboard platform data size expected = .ok outboard) :
    size ≤ data.length ∧ platform.blake3Hex (data.take size) = expected ∧
      outboard = platform.outboard (data.take size) := by
  simp only [computeOutboard, unless_error_ok, when_ok] at computed
  rcases computed with ⟨long, root, same⟩
  cases same
  exact ⟨Nat.le_of_not_lt long, root, rfl⟩

end Specifications

end TdfIrohS3
