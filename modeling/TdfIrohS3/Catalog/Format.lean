import TdfIrohS3.Http
import TdfIrohS3.Library.Fallible
import TdfIrohS3.Subject

namespace TdfIrohS3

open Library

/-- The text formats the node takes from libraries. `json` reads a text's syntax tree, or gives the
library's error; `mismatch` is its error for a tree that does not fit the type read. -/
structure Formats where
  json : List UInt8 → Except String Value
  mismatch : Value → String
  toVec : Value → List UInt8
  base64Url : String → Option (List UInt8)
  base64Standard : String → Option (List UInt8)

def Formats.fromSlice {α : Type} (formats : Formats) (reader : Value → Option α)
    (bytes : List UInt8) : Except String α :=
  match formats.json bytes with
  | .error reason => .error reason
  | .ok tree =>
      match reader tree with
      | some value => .ok value
      | none => .error (formats.mismatch tree)

namespace Value

mutual

def noDuplicateKeys : Value → Bool
  | .null | .bool _ | .number _ | .string _ => true
  | .array items => noDuplicateKeysItems items
  | .object members => decide (members.map Prod.fst).Nodup && noDuplicateKeysMembers members

def noDuplicateKeysItems : List Value → Bool
  | [] => true
  | item :: rest => noDuplicateKeys item && noDuplicateKeysItems rest

def noDuplicateKeysMembers : List (String × Value) → Bool
  | [] => true
  | (_, value) :: rest => noDuplicateKeys value && noDuplicateKeysMembers rest

end

/-- `Map::insert`: a key already present takes the new value. A `Map` iterates in the order of the
keys and this list as they came; members are looked up by key or passed on whole, so the order is
immaterial. -/
def insertMember (members : List (String × Value)) (key : String) (value : Value) :
    List (String × Value) :=
  if key ∈ members.map Prod.fst then
    members.map fun member => if member.1 = key then (key, value) else member
  else members ++ [(key, value)]

section InsertMember

variable (members : List (String × Value)) (key : String) (value : Value)

theorem keys_insertMember :
    (insertMember members key value).map Prod.fst =
      if key ∈ members.map Prod.fst then members.map Prod.fst
      else members.map Prod.fst ++ [key] := by
  unfold insertMember
  split
  · rw [List.map_map]
    apply List.map_congr_left
    intro member _
    by_cases same : member.1 = key
    · simp [same]
    · simp [same]
  · simp

theorem length_insertMember :
    (insertMember members key value).length =
      if key ∈ members.map Prod.fst then members.length else members.length + 1 := by
  unfold insertMember
  split
  · exact List.length_map _
  · exact List.length_append

theorem lookup_insertMember_self : (insertMember members key value).lookup key = some value := by
  unfold insertMember
  split
  · rename_i present
    induction members with
    | nil => cases present
    | cons member rest ih =>
        obtain ⟨name, held⟩ := member
        by_cases same : name = key
        · simp [same]
        · have later : key ∈ rest.map Prod.fst := by
            rcases List.mem_cons.mp present with first | later
            · exact absurd first.symm same
            · exact later
          have apart : (key == name) = false := beq_false_of_ne fun first => same first.symm
          simp only [List.map_cons, if_neg same, List.lookup_cons, apart]
          exact ih later
  · rename_i absent
    have missing : members.lookup key = none := by
      rw [List.lookup_eq_none_iff]
      intro member inside
      have apart : key ≠ member.1 := fun same => absent (same ▸ List.mem_map_of_mem inside)
      simpa using apart
    rw [List.lookup_append, missing]
    simp

theorem lookup_insertMember_of_ne {other : String} (different : other ≠ key) :
    (insertMember members key value).lookup other = members.lookup other := by
  have apart : (other == key) = false := beq_false_of_ne different
  have replaced : (members.map fun member =>
      if member.1 = key then (key, value) else member).lookup other = members.lookup other := by
    induction members with
    | nil => rfl
    | cons member rest ih =>
        obtain ⟨name, held⟩ := member
        by_cases same : name = key
        · simp only [List.map_cons, same, if_true, List.lookup_cons, apart, ih]
        · simp only [List.map_cons, if_neg same, List.lookup_cons, ih]
  unfold insertMember
  split
  · exact replaced
  · rw [List.lookup_append, List.lookup_cons, apart]
    simp

end InsertMember

mutual

/-- Of equal keys the last stays; the order of keys is that of `insertMember`. -/
def lastWins : Value → Value
  | .null => .null
  | .bool b => .bool b
  | .number n => .number n
  | .string s => .string s
  | .array items => .array (lastWinsItems items)
  | .object members => .object (lastWinsMembers members [])

def lastWinsItems : List Value → List Value
  | [] => []
  | item :: rest => lastWins item :: lastWinsItems rest

def lastWinsMembers : List (String × Value) → List (String × Value) → List (String × Value)
  | [], kept => kept
  | (key, value) :: rest, kept => lastWinsMembers rest (insertMember kept key (lastWins value))

end

def asArray : Value → Option (List Value)
  | .array items => some items
  | _ => none

def asU64 : Value → Option Nat
  | .number (.posInt n) => some n
  | _ => none

/-- The fields of a struct that denies unknown ones: an object with exactly these keys, or an array
of as many values. -/
def structFields (names : List String) : Value → Option (List Value)
  | .array items => if items.length = names.length then some items else none
  | .object members =>
      let keys := members.map Prod.fst
      if keys.Nodup ∧ ∀ key ∈ keys, key ∈ names then names.mapM fun name => members.lookup name
      else none
  | _ => none

end Value

section Pointer

def pointerSchema : String := "arkavo.catalog-pointer/1"

def maxSeq : Nat := 9007199254740991

def maxPointerBytes : Nat := 1024

def maxOwnerBytes : Nat := 248

def maxCatalogBytes : Nat := 4194304

structure Pointer where
  schema : String
  owner : String
  seq : Nat
  catalogHash : String
  catalogSize : Nat
  issuedAt : String
  deriving DecidableEq, Repr

def Pointer.read (tree : Value) : Option Pointer := do
  match ← tree.structFields ["schema", "owner", "seq", "catalogHash", "catalogSize", "issuedAt"] with
  | [schema, owner, seq, catalogHash, catalogSize, issuedAt] =>
      return { schema := ← schema.asStr, owner := ← owner.asStr, seq := ← seq.asU64,
               catalogHash := ← catalogHash.asStr, catalogSize := ← catalogSize.asU64,
               issuedAt := ← issuedAt.asStr }
  | _ => none

def decimal (digits : List Char) : Nat := digits.foldl (fun n c => n * 10 + (c.toNat - 48)) 0

def daysInMonth (year month : Nat) : Option Nat :=
  let leap := (year % 4 = 0 ∧ year % 100 ≠ 0) ∨ year % 400 = 0
  if month ∈ [1, 3, 5, 7, 8, 10, 12] then some 31
  else if month ∈ [4, 6, 9, 11] then some 30
  else if month = 2 then some (if leap then 29 else 28)
  else none

/-- `YYYY-MM-DDTHH:MM:SSZ` with a real calendar date and no leap second. -/
def isUtcTimestamp (s : String) : Bool :=
  match s.toList with
  | [y1, y2, y3, y4, '-', m1, m2, '-', d1, d2, 'T', h1, h2, ':', n1, n2, ':', s1, s2, 'Z'] =>
      [y1, y2, y3, y4, m1, m2, d1, d2, h1, h2, n1, n2, s1, s2].all
          (fun c => '0' ≤ c && c ≤ '9') &&
        match daysInMonth (decimal [y1, y2, y3, y4]) (decimal [m1, m2]) with
        | none => false
        | some days =>
            decide (1 ≤ decimal [d1, d2] ∧ decimal [d1, d2] ≤ days ∧ decimal [h1, h2] ≤ 23 ∧
              decimal [n1, n2] ≤ 59 ∧ decimal [s1, s2] ≤ 59)
  | _ => false

example : isUtcTimestamp "2024-02-29T23:59:59Z" = true := by decide

example : isUtcTimestamp "2023-02-29T00:00:00Z" = false := by decide

def parsePointer (formats : Formats) (bytes : List UInt8) : Except String Pointer :=
  if bytes.length > maxPointerBytes then
    .error ("pointer larger than " ++ toString maxPointerBytes ++ " bytes")
  else if !Text.validUtf8 bytes then .error "pointer is not UTF-8"
  else
    match formats.fromSlice (fun tree => if tree.noDuplicateKeys then some () else none) bytes with
    | .error reason => .error ("pointer: " ++ reason)
    | .ok () =>
        match formats.fromSlice Pointer.read bytes with
        | .error reason => .error ("pointer: " ++ reason)
        | .ok p =>
            if p.schema ≠ pointerSchema then
              .error ("pointer schema must be \"" ++ pointerSchema ++ "\"")
            else if !validIdentifier p.owner maxOwnerBytes then
              .error ("pointer owner must be 1-" ++ toString maxOwnerBytes ++
                " bytes of [A-Za-z0-9:._@-] without \"..\"")
            else if !(1 ≤ p.seq && p.seq ≤ maxSeq) then
              .error ("pointer seq must be 1-" ++ toString maxSeq)
            else if !isLowerHexHash p.catalogHash then
              .error "pointer catalogHash must be 64 lowercase hex characters"
            else if !(1 ≤ p.catalogSize && p.catalogSize ≤ maxCatalogBytes) then
              .error ("pointer catalogSize must be 1-" ++ toString maxCatalogBytes)
            else if !isUtcTimestamp p.issuedAt then
              .error "pointer issuedAt must be YYYY-MM-DDTHH:MM:SSZ"
            else .ok p

structure Pointer.WellFormed (p : Pointer) : Prop where
  schema : p.schema = pointerSchema
  owner : validIdentifier p.owner maxOwnerBytes = true
  seq : 1 ≤ p.seq ∧ p.seq ≤ maxSeq
  hash : isLowerHexHash p.catalogHash = true
  size : 1 ≤ p.catalogSize ∧ p.catalogSize ≤ maxCatalogBytes
  issued : isUtcTimestamp p.issuedAt = true

theorem parsePointer_wellFormed {formats : Formats} {bytes : List UInt8} {pointer : Pointer}
    (parsed : parsePointer formats bytes = .ok pointer) : pointer.WellFormed := by
  simp only [parsePointer, unless_error_ok] at parsed
  rcases parsed with ⟨-, -, parsed⟩
  split at parsed
  · cases parsed
  · split at parsed
    · cases parsed
    · simp only [unless_error_ok, Except.ok.injEq] at parsed
      rcases parsed with ⟨schema, owner, seq, hash, size, issued, rfl⟩
      exact
        { schema := not_not.mp schema
          owner := by simpa using owner
          seq := by simpa [Nat.one_le_iff_ne_zero] using seq
          hash := by simpa using hash
          size := by simpa [Nat.one_le_iff_ne_zero] using size
          issued := by simpa using issued }

end Pointer

section Bundle

structure Assertion where
  credentialId : String
  authenticatorData : String
  clientDataJson : String
  signature : String
  deriving DecidableEq, Repr

structure Bundle where
  pointer : String
  assertion : Assertion
  credential : String
  deriving DecidableEq, Repr

def Assertion.read (tree : Value) : Option Assertion := do
  match ← tree.structFields ["credentialId", "authenticatorData", "clientDataJSON", "signature"] with
  | [credentialId, authenticatorData, clientDataJson, signature] =>
      return { credentialId := ← credentialId.asStr, authenticatorData := ← authenticatorData.asStr,
               clientDataJson := ← clientDataJson.asStr, signature := ← signature.asStr }
  | _ => none

def Bundle.read (tree : Value) : Option Bundle := do
  match ← tree.structFields ["pointer", "assertion", "credential"] with
  | [pointer, assertion, credential] =>
      return { pointer := ← pointer.asStr, assertion := ← Assertion.read assertion,
               credential := ← credential.asStr }
  | _ => none

def Assertion.toValue (assertion : Assertion) : Value :=
  .object [("credentialId", .string assertion.credentialId),
    ("authenticatorData", .string assertion.authenticatorData),
    ("clientDataJSON", .string assertion.clientDataJson),
    ("signature", .string assertion.signature)]

def Bundle.toValue (bundle : Bundle) : Value :=
  .object [("pointer", .string bundle.pointer), ("assertion", bundle.assertion.toValue),
    ("credential", .string bundle.credential)]

theorem Assertion.read_toValue (assertion : Assertion) :
    Assertion.read assertion.toValue = some assertion := by
  rfl

theorem Bundle.read_toValue (bundle : Bundle) : Bundle.read bundle.toValue = some bundle := by
  rfl

/-- A bundle's field: unpadded base64url of 1 to `max` bytes. -/
def decodeField (formats : Formats) (field value : String) (max : Nat) :
    Except String (List UInt8) :=
  if value.utf8ByteSize > (max + 2) / 3 * 4 then .error (field ++ " too large")
  else
    match formats.base64Url value with
    | none => .error (field ++ " is not unpadded base64url")
    | some bytes =>
        if bytes.isEmpty || decide (bytes.length > max) then
          .error (field ++ " must be 1-" ++ toString max ++ " bytes")
        else .ok bytes

theorem decodeField_ok {formats : Formats} {field value : String} {max : Nat} {bytes : List UInt8}
    (decoded : decodeField formats field value max = .ok bytes) :
    formats.base64Url value = some bytes := by
  simp only [decodeField, unless_error_ok] at decoded
  have rest := decoded.2
  split at rest
  · cases rest
  · rename_i read
    simp only [unless_error_ok, Except.ok.injEq] at rest
    rw [read, rest.2]

def storedPointer (formats : Formats) (body : List UInt8) : Option Pointer :=
  match formats.fromSlice Bundle.read body with
  | .error _ => none
  | .ok bundle =>
      match formats.base64Url bundle.pointer with
      | none => none
      | some bytes => (parsePointer formats bytes).toOption

def storedSeq (formats : Formats) (body : List UInt8) : Option (Nat × String) :=
  (storedPointer formats body).map fun pointer => (pointer.seq, pointer.catalogHash)

/-- A bundle whose text reads back names the pointer that was decoded from it. -/
theorem storedPointer_of_readsBack {formats : Formats} {bundle : Bundle} {bytes : List UInt8}
    {pointer : Pointer} (decoded : formats.base64Url bundle.pointer = some bytes)
    (parsed : parsePointer formats bytes = .ok pointer)
    (readsBack : formats.json (formats.toVec bundle.toValue) = .ok bundle.toValue) :
    storedPointer formats (formats.toVec bundle.toValue) = some pointer := by
  simp only [storedPointer, Formats.fromSlice, readsBack, Bundle.read_toValue, decoded, parsed,
    Except.toOption]

end Bundle

section Index

def maxEntries : Nat := 1000

def maxContentIdBytes : Nat := 256

def maxVersion : Nat := 9007199254740991

def maxPayloadSize : Nat := 4294967295

structure CreatorCatalogEntry where
  contentId : String
  version : Nat
  payloadHash : String
  payloadSize : Nat
  deriving DecidableEq, Repr

def CreatorCatalogEntry.read (tree : Value) : Option CreatorCatalogEntry := do
  match ← tree.structFields ["contentID", "version", "payloadHash", "payloadSize"] with
  | [contentId, version, payloadHash, payloadSize] =>
      return { contentId := ← contentId.asStr, version := ← version.asU64,
               payloadHash := ← payloadHash.asStr, payloadSize := ← payloadSize.asU64 }
  | _ => none

def parseEntry (formats : Formats) (raw : Value) : Except String CreatorCatalogEntry :=
  match CreatorCatalogEntry.read raw with
  | none => .error (formats.mismatch raw)
  | some e =>
      if !validIdentifier e.contentId maxContentIdBytes then
        .error ("contentID must be 1-" ++ toString maxContentIdBytes ++
          " bytes of [A-Za-z0-9:._@-] without \"..\"")
      else if !(1 ≤ e.version && e.version ≤ maxVersion) then
        .error ("version must be an integer from 1 to " ++ toString maxVersion)
      else if !isLowerHexHash e.payloadHash then
        .error "payloadHash must be 64 lowercase hex characters"
      else if !(1 ≤ e.payloadSize && e.payloadSize ≤ maxPayloadSize) then
        .error ("payloadSize must be an integer from 1 to " ++ toString maxPayloadSize)
      else .ok e

def parseEntries (formats : Formats) (i : Nat) (contentIds : List (String × Nat)) :
    List Value → Except String (List CreatorCatalogEntry)
  | [] => .ok []
  | raw :: rest =>
      match parseEntry formats raw with
      | .error reason => .error ("entries[" ++ toString i ++ "]." ++ reason)
      | .ok e =>
          match contentIds.lookup e.contentId with
          | some first =>
              .error ("entries[" ++ toString i ++ "].contentID duplicates entries[" ++
                toString first ++ "].contentID")
          | none =>
              match parseEntries formats (i + 1) ((e.contentId, i) :: contentIds) rest with
              | .error reason => .error reason
              | .ok entries => .ok (e :: entries)

def parseIndex (formats : Formats) (index : Value) : Except String (List CreatorCatalogEntry) :=
  match index with
  | .array raw =>
      if raw.length > maxEntries then
        .error ("must be an array of at most " ++ toString maxEntries ++ " entries")
      else parseEntries formats 0 [] raw
  | _ => .error ("must be an array of at most " ++ toString maxEntries ++ " entries")

structure IndexRecord where
  owner : String
  attributeFqn : String
  entries : Value
  deriving DecidableEq, Repr

def IndexRecord.toValue (record : IndexRecord) : Value :=
  .object [("owner", .string record.owner), ("attribute", .string record.attributeFqn),
    ("entries", record.entries)]

/-- Unknown keys are skipped; a repeated known one is an error. -/
def IndexRecord.read : Value → Option IndexRecord
  | .array [owner, fqn, entries] => do
      return { owner := ← owner.asStr, attributeFqn := ← fqn.asStr, entries := entries.lastWins }
  | .object members =>
      match members.filter (fun m => m.1 == "owner"), members.filter (fun m => m.1 == "attribute"),
        members.filter (fun m => m.1 == "entries") with
      | [(_, owner)], [(_, fqn)], [(_, entries)] => do
          return { owner := ← owner.asStr, attributeFqn := ← fqn.asStr,
                   entries := entries.lastWins }
      | _, _, _ => none
  | _ => none

theorem IndexRecord.read_toValue (record : IndexRecord) :
    IndexRecord.read record.toValue = some { record with entries := record.entries.lastWins } := by
  rfl

end Index

end TdfIrohS3
