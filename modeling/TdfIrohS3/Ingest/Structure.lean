import TdfIrohS3.Ingest.Archive
import TdfIrohS3.Library.Fallible
import TdfIrohS3.Library.Text

namespace TdfIrohS3

open Library

structure TdfManifest where
  /-- `get_policy_raw`: the decoded policy. -/
  policyRaw : Option String
  /-- `policy_binding.hash` of each key access object. -/
  bindingHashes : List String
  payloadUrl : String
  /-- `to_json`. -/
  json : Option (List UInt8)
  deriving DecidableEq, Repr

/-- A member of an open archive: the size it declares, and what reading it up to a limit gives.
`none` is a damaged member, or a checksum that does not fit. -/
structure ZipMember where
  size : Nat
  read : Nat → Option (List UInt8)

/-- An open `ZipArchive`. A member that is listed may still not open. -/
structure ZipArchive where
  names : List String
  byName : String → Option ZipMember

/-- The readers of an archive that are libraries: the ZIP reader within its budget, opentdf's manifest
and the quoting of a text in a message. -/
structure TdfReaders where
  zip : List UInt8 → Option ZipArchive
  fromJson : List UInt8 → Option TdfManifest
  debug : String → String

def manifestMember : String := "manifest.json"

def legacyManifest : String := "0.manifest.json"

def defaultPayload : String := "0.payload"

def maxManifestBytes : Nat := 4194304

section Checks

variable (readers : TdfReaders)

def checkEntryCounts (data : List UInt8) : Except String Unit :=
  if addressed : data.length < 18446744073709551616 then
    match (checkZip64EntryCounts ⟨data, fun _ _ => false, false, addressed⟩).ending with
    | .done _ => .ok ()
    | .refused why => .error why
    -- a panic, which `checkZip64EntryCounts_spec` excludes
    | .fault => .error "out of range"
  else .error "Failed to read TDF archive"

def chooseManifest (names : List String) : Option String :=
  [manifestMember, legacyManifest].find? fun name => names.contains name

def readTdfManifest (archive : ZipArchive) (name : String) : Except String TdfManifest :=
  match archive.byName name with
  | none => .error "Failed to read TDF entry"
  | some member =>
      if member.size > maxManifestBytes then
        .error ("manifest of " ++ toString member.size ++ " bytes exceeds " ++
          toString maxManifestBytes ++ " bytes")
      else
        match member.read (maxManifestBytes + 1) with
        | none => .error "Failed to read TDF entry"
        | some json =>
            if !Text.validUtf8 json then .error "Failed to read TDF entry"
            else if json.length > maxManifestBytes then
              .error ("manifest exceeds " ++ toString maxManifestBytes ++ " bytes")
            else
              match readers.fromJson json with
              | none => .error "Failed to deserialize manifest"
              | some manifest => .ok manifest

def safeUrl (url : String) : Bool :=
  url.toList.head? != some '/' && !url.toList.contains '\\' && !(Text.split url '/').contains ".."

def manifestShaped (url : String) : Bool :=
  url == manifestMember ||
    (Text.stripSuffix url ".manifest.json").any fun p => p != "" && p.toList.all Char.isDigit

def payloadMember (url : String) : Except String String :=
  if url = "" then .ok defaultPayload
  else if !safeUrl url then .error ("unsafe payload url in manifest: " ++ readers.debug url)
  else if manifestShaped url then
    .error ("payload url collides with the manifest entry name: " ++ readers.debug url)
  else .ok url

/-- Read the payload member to its end. One that would inflate past the archive's own size is refused
before. -/
def checkPayload (archive : ZipArchive) (name : String) (archiveLen : Nat) : Except String Unit :=
  match archive.byName name with
  | none => .error ("Failed to read payload member " ++ readers.debug name)
  | some member =>
      if member.size > archiveLen then
        .error ("payload member " ++ readers.debug name ++ " declares " ++ toString member.size ++
          " bytes, more than the archive holds")
      else
        match member.read (member.size + 1) with
        | none => .error ("payload member " ++ readers.debug name ++ " is corrupt")
        | some bytes =>
            if bytes.length ≠ member.size then
              .error ("payload member " ++ readers.debug name ++ " holds " ++ toString bytes.length ++
                " bytes, not the " ++ toString member.size ++ " it declares")
            else .ok ()

def openArchive (data : List UInt8) : Except String ZipArchive :=
  match readers.zip data with
  | none => .error "Failed to open as TDF archive (not a valid ZIP or TDF)"
  | some archive =>
      if archive.names.length > maxArchiveEntries then
        .error ("TDF archive lists " ++ toString archive.names.length ++ " members, more than " ++
          toString maxArchiveEntries)
      else .ok archive

def validateTdfStructureFrom (data : List UInt8) : Except String TdfManifest := do
  checkEntryCounts data
  let archive ← openArchive readers data
  match chooseManifest archive.names with
  | none => .error ("TDF archive contains no entries: missing manifest file " ++ manifestMember ++
      " (or legacy " ++ legacyManifest ++ ")")
  | some manifestName =>
      let manifest ← readTdfManifest readers archive manifestName
      let payloadName ← payloadMember readers manifest.payloadUrl
      if payloadName ∉ archive.names then
        .error ("Missing payload file: " ++ readers.debug payloadName ++
          " (the member named by manifest.payload.url)")
      else
        checkPayload readers archive payloadName data.length
        return manifest

end Checks

section Accepted

variable {readers : TdfReaders}

structure HoldsTdf (readers : TdfReaders) (data : List UInt8) (manifest : TdfManifest)
    (archive : ZipArchive) (manifestName payloadName : String) : Prop where
  opened : readers.zip data = some archive
  few : archive.names.length ≤ maxArchiveEntries
  chosen : (manifestName = manifestMember ∧ manifestMember ∈ archive.names) ∨
    (manifestName = legacyManifest ∧ manifestMember ∉ archive.names ∧ legacyManifest ∈ archive.names)
  parsed : ∃ json, json.length ≤ maxManifestBytes ∧ readers.fromJson json = some manifest ∧
    ∃ member, archive.byName manifestName = some member ∧
      member.read (maxManifestBytes + 1) = some json
  named : payloadName = if manifest.payloadUrl = "" then defaultPayload else manifest.payloadUrl
  inside : payloadName.toList.head? ≠ some '/' ∧ '\\' ∉ payloadName.toList ∧
    ".." ∉ Text.split payloadName '/'
  apart : payloadName ≠ manifestName
  listed : payloadName ∈ archive.names
  whole : ∃ member bytes, archive.byName payloadName = some member ∧
    member.read (member.size + 1) = some bytes ∧ bytes.length = member.size ∧
    bytes.length ≤ data.length

theorem chooseManifest_eq_some {names : List String} {name : String}
    (chosen : chooseManifest names = some name) :
    (name = manifestMember ∧ manifestMember ∈ names) ∨
      (name = legacyManifest ∧ manifestMember ∉ names ∧ legacyManifest ∈ names) := by
  by_cases spec : manifestMember ∈ names <;> by_cases legacy : legacyManifest ∈ names <;>
    simp_all [chooseManifest]

theorem manifestShaped_of_chosen {names : List String} {name : String}
    (chosen : chooseManifest names = some name) : manifestShaped name = true := by
  rcases chooseManifest_eq_some chosen with ⟨rfl, -⟩ | ⟨rfl, -⟩ <;> decide

theorem readTdfManifest_ok {archive : ZipArchive} {name : String} {manifest : TdfManifest}
    (read : readTdfManifest readers archive name = .ok manifest) :
    ∃ json, json.length ≤ maxManifestBytes ∧ readers.fromJson json = some manifest ∧
      ∃ member, archive.byName name = some member ∧
        member.read (maxManifestBytes + 1) = some json := by
  unfold readTdfManifest at read
  split at read
  · cases read
  · next member opened =>
      rw [unless_error_ok] at read
      replace read := read.2
      split at read
      · cases read
      · next json taken =>
          rw [unless_error_ok, unless_error_ok] at read
          obtain ⟨-, small, read⟩ := read
          split at read
          · cases read
          · next parsed =>
              cases read
              exact ⟨json, Nat.le_of_not_lt small, parsed, member, opened, taken⟩

theorem payloadMember_ok {url name : String} (named : payloadMember readers url = .ok name) :
    name = (if url = "" then defaultPayload else url) ∧
      (name.toList.head? ≠ some '/' ∧ '\\' ∉ name.toList ∧ ".." ∉ Text.split name '/') ∧
      manifestShaped name = false := by
  unfold payloadMember at named
  by_cases empty : url = ""
  · rw [if_pos empty] at named ⊢
    cases named
    exact ⟨rfl, by decide, by decide⟩
  · rw [if_neg empty, unless_error_ok, unless_error_ok] at named
    obtain ⟨safe, unlike, same⟩ := named
    cases same
    exact ⟨(if_neg empty).symm, by simpa [safeUrl, and_assoc] using safe, by simpa using unlike⟩

theorem checkPayload_ok {archive : ZipArchive} {name : String} {archiveLen : Nat}
    (passed : checkPayload readers archive name archiveLen = .ok ()) :
    ∃ member bytes, archive.byName name = some member ∧
      member.read (member.size + 1) = some bytes ∧ bytes.length = member.size ∧
      bytes.length ≤ archiveLen := by
  unfold checkPayload at passed
  split at passed
  · cases passed
  · next member opened =>
      rw [unless_error_ok] at passed
      obtain ⟨small, passed⟩ := passed
      split at passed
      · cases passed
      · next bytes taken =>
          rw [unless_error_ok] at passed
          have whole : bytes.length = member.size := not_not.mp passed.1
          exact ⟨member, bytes, opened, taken, whole, by omega⟩

theorem openArchive_ok {data : List UInt8} {archive : ZipArchive}
    (opened : openArchive readers data = .ok archive) :
    readers.zip data = some archive ∧ archive.names.length ≤ maxArchiveEntries := by
  unfold openArchive at opened
  split at opened
  · cases opened
  · next found =>
      rw [unless_error_ok] at opened
      obtain ⟨few, same⟩ := opened
      cases same
      exact ⟨found, Nat.le_of_not_lt few⟩

/-- What passes is a TDF: a manifest that parses, and a payload apart from it that is read to its
end. -/
theorem validateTdfStructureFrom_holds {data : List UInt8} {manifest : TdfManifest}
    (accepted : validateTdfStructureFrom readers data = .ok manifest) :
    ∃ archive manifestName payloadName,
      HoldsTdf readers data manifest archive manifestName payloadName := by
  rw [validateTdfStructureFrom, then_ok, bind_ok] at accepted
  obtain ⟨-, archive, opened, accepted⟩ := accepted
  obtain ⟨found, few⟩ := openArchive_ok opened
  cases chosen : chooseManifest archive.names with
  | none => simp [chosen] at accepted
  | some manifestName =>
      simp only [chosen, bind_ok, unless_error_ok, not_not] at accepted
      obtain ⟨parsed, read, payloadName, named, listed, _, whole, same⟩ := accepted
      cases same
      obtain ⟨which, inside, unlike⟩ := payloadMember_ok named
      refine ⟨archive, manifestName, payloadName, found, few, chooseManifest_eq_some chosen,
        readTdfManifest_ok read, which, inside, ?_, listed, checkPayload_ok whole⟩
      rintro rfl
      rw [manifestShaped_of_chosen chosen] at unlike
      cases unlike

end Accepted

end TdfIrohS3
