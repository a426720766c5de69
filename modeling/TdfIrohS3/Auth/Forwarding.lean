import TdfIrohS3.Auth.Cwt
import TdfIrohS3.Library.Decimal
import TdfIrohS3.Library.Pairs

namespace TdfIrohS3

open Library

section Kept

def textKeys : List (Cbor × Cbor) → List String
  | [] => []
  | (.text key, _) :: rest => key :: textKeys rest
  | _ :: rest => textKeys rest

def flat : Cbor → Bool
  | .map _ | .array _ => false
  | .tag _ inner => flat inner
  | .integer _ | .bytes _ | .float _ | .text _ | .bool _ | .null => true

def IntegerKept (n : Int) (json : Value) : Prop :=
  (0 ≤ n ∧ json = .number (.posInt n.toNat)) ∨ (n < 0 ∧ json = .number (.negInt n)) ∨
    json = .string (toString n)

variable {Key : Type} (platform : AuthPlatform Key)

mutual

/-- What a JSON value keeps of a CBOR value: the entries of every map, as many members of an object; the
items of every array, in order; and each other value as itself or as a text. A tagged value is one
text, so no map and no array may be in it. -/
def Kept : Cbor → Value → Prop
  | .map entries, .object members => members.length = entries.length ∧ KeptEntries entries members
  | .map _, _ => False
  | .array items, .array values => KeptItems items values
  | .array _, _ => False
  | .null, json => json = .null
  | .text s, json => json = .string s
  | .bool b, json => json = .bool b
  | .integer n, json => IntegerKept n json
  | .bytes b, json => json = .string (platform.encodeBase64 b)
  | .float bits, json => ∃ number, platform.floatNumber bits = some number ∧ json = .number number
  | .tag number inner, json => flat inner = true ∧ json = .string (platform.debug (.tag number inner))

def KeptItems : List Cbor → List Value → Prop
  | [], [] => True
  | item :: rest, value :: values => Kept item value ∧ KeptItems rest values
  | _, _ => False

def KeptEntries : List (Cbor × Cbor) → List (String × Value) → Prop
  | [], _ => True
  | (.text key, value) :: rest, members =>
      (∃ json, members.lookup key = some json ∧ Kept value json) ∧ KeptEntries rest members
  | _ :: rest, members => KeptEntries rest members

end

end Kept

section Convertible

variable {Key : Type} (platform : AuthPlatform Key)

mutual

/-- Every map in the value has only text keys, none twice, every float is a JSON number, and no map and
no array is under a tag. -/
def convertible : Cbor → Bool
  | .map entries =>
      decide ((textKeys entries).length = entries.length) && decide (textKeys entries).Nodup &&
        convertibleEntries entries
  | .array items => convertibleItems items
  | .float bits => (platform.floatNumber bits).isSome
  | .tag _ inner => flat inner
  | .integer _ | .bytes _ | .text _ | .bool _ | .null => true

def convertibleItems : List Cbor → Bool
  | [] => true
  | item :: rest => convertible item && convertibleItems rest

def convertibleEntries : List (Cbor × Cbor) → Bool
  | [] => true
  | (_, value) :: rest => convertible value && convertibleEntries rest

end

end Convertible

section Members

variable {Key : Type} {platform : AuthPlatform Key}

theorem textKeys_other {entry : Cbor × Cbor} (rest : List (Cbor × Cbor))
    (other : ∀ key value, entry = (.text key, value) → False) :
    textKeys (entry :: rest) = textKeys rest := by
  rw [textKeys]
  exact other

theorem membersToJson_other {entry : Cbor × Cbor} (members : List (String × Value))
    (rest : List (Cbor × Cbor)) (other : ∀ key value, entry = (.text key, value) → False) :
    membersToJson platform members (entry :: rest) = membersToJson platform members rest := by
  rw [membersToJson]
  exact other

theorem length_textKeys_le (entries : List (Cbor × Cbor)) :
    (textKeys entries).length ≤ entries.length := by
  induction entries using textKeys.induct with
  | case1 => exact Nat.le_refl 0
  | case2 key value rest ih => exact Nat.succ_le_succ ih
  | case3 entry rest other ih =>
      rw [textKeys_other rest other]
      exact Nat.le_succ_of_le ih

theorem length_membersToJson (members : List (String × Value)) (entries : List (Cbor × Cbor)) :
    (membersToJson platform members entries).length ≤ members.length + (textKeys entries).length ∧
      ((membersToJson platform members entries).length =
          members.length + (textKeys entries).length ↔
        (textKeys entries).Nodup ∧ ∀ key ∈ textKeys entries, key ∉ members.map Prod.fst) := by
  induction entries using textKeys.induct generalizing members with
  | case1 => simp [membersToJson, textKeys]
  | case2 key value rest ih =>
      rw [membersToJson, textKeys, List.length_cons]
      obtain ⟨bound, reached⟩ := ih (Value.insertMember members key (cborToJson platform value))
      rw [Value.length_insertMember] at bound reached
      by_cases present : key ∈ members.map Prod.fst
      · -- a repeated key takes no new member
        rw [if_pos present] at bound
        refine ⟨by omega, ?_⟩
        constructor
        · intro equal
          omega
        · rintro ⟨-, apart⟩
          exact absurd present (apart key List.mem_cons_self)
      · have shift : members.length + ((textKeys rest).length + 1) =
            members.length + 1 + (textKeys rest).length := by omega
        rw [if_neg present] at bound reached
        rw [Value.keys_insertMember, if_neg present,
          apart_cons present fun other => by simp [or_comm]] at reached
        rw [shift]
        exact ⟨bound, reached⟩
  | case3 entry rest other ih =>
      rw [membersToJson_other members rest other, textKeys_other rest other]
      exact ih members

theorem lookup_membersToJson_of_notMem {key : String} (members : List (String × Value))
    {entries : List (Cbor × Cbor)} (absent : key ∉ textKeys entries) :
    (membersToJson platform members entries).lookup key = members.lookup key := by
  induction entries using textKeys.induct generalizing members with
  | case1 => rw [membersToJson]
  | case2 first value rest ih =>
      rw [textKeys, List.mem_cons, not_or] at absent
      rw [membersToJson, ih _ absent.2, Value.lookup_insertMember_of_ne _ _ _ absent.1]
  | case3 entry rest other ih =>
      rw [textKeys_other rest other] at absent
      rw [membersToJson_other members rest other, ih members absent]

theorem lookup_membersToJson {key : String} {value : Cbor} (members : List (String × Value))
    {entries : List (Cbor × Cbor)} (distinct : (textKeys entries).Nodup)
    (member : (.text key, value) ∈ entries) :
    (membersToJson platform members entries).lookup key = some (cborToJson platform value) := by
  induction entries using textKeys.induct generalizing members with
  | case1 => cases member
  | case2 first other rest ih =>
      rw [textKeys, List.nodup_cons] at distinct
      rw [membersToJson]
      rcases List.mem_cons.mp member with same | later
      · cases same
        rw [lookup_membersToJson_of_notMem _ distinct.1, Value.lookup_insertMember_self]
      · exact ih _ distinct.2 later
  | case3 entry rest other ih =>
      rw [textKeys_other rest other] at distinct
      rw [membersToJson_other members rest other]
      rcases List.mem_cons.mp member with same | later
      · exact absurd same.symm (other key value)
      · exact ih members distinct later

/-- An object has as many members as the map has entries exactly when all keys are texts, none
twice. -/
theorem length_object_iff (entries : List (Cbor × Cbor)) :
    (membersToJson platform [] entries).length = entries.length ↔
      (textKeys entries).length = entries.length ∧ (textKeys entries).Nodup := by
  have bound := length_textKeys_le entries
  obtain ⟨most, all⟩ := @length_membersToJson Key platform [] entries
  simp only [List.length_nil, Nat.zero_add, List.map_nil, List.not_mem_nil, not_false_eq_true,
    implies_true, and_true] at most all
  constructor
  · intro equal
    have texts : (textKeys entries).length = entries.length := by omega
    exact ⟨texts, all.mp (equal.trans texts.symm)⟩
  · rintro ⟨texts, distinct⟩
    exact (all.mpr distinct).trans texts

end Members

section Lossless

variable {Key : Type} {platform : AuthPlatform Key}

theorem integerJson_cases (n : Int) : IntegerKept n (integerJson n) := by
  unfold IntegerKept integerJson
  by_cases positive : 0 ≤ n
  · by_cases small : (toI64 n).isSome = true
    · exact .inl ⟨positive, by rw [if_pos small, if_pos positive]⟩
    · by_cases big : 0 ≤ n ∧ n ≤ 18446744073709551615
      · exact .inl ⟨positive, by rw [if_neg small, if_pos big]⟩
      · exact .inr (.inr (by rw [if_neg small, if_neg big]))
  · by_cases small : (toI64 n).isSome = true
    · exact .inr (.inl ⟨Int.lt_of_not_ge positive, by rw [if_pos small, if_neg positive]⟩)
    · have negative : ¬(0 ≤ n ∧ n ≤ 18446744073709551615) := fun both => positive both.1
      exact .inr (.inr (by rw [if_neg small, if_neg negative]))

mutual

theorem kept_iff (value : Cbor) :
    Kept platform value (cborToJson platform value) ↔ convertible platform value = true := by
  cases value with
  | map entries =>
      rw [cborToJson, Kept, convertible, length_object_iff, Bool.and_eq_true, Bool.and_eq_true,
        decide_eq_true_eq, decide_eq_true_eq]
      constructor
      · rintro ⟨⟨texts, distinct⟩, kept⟩
        have found : ∀ key value, (.text key, value) ∈ entries →
            (membersToJson platform [] entries).lookup key = some (cborToJson platform value) :=
          fun key value member => lookup_membersToJson [] distinct member
        exact ⟨⟨texts, distinct⟩, (keptEntries_iff entries found texts).mp kept⟩
      · rintro ⟨⟨texts, distinct⟩, inner⟩
        have found : ∀ key value, (.text key, value) ∈ entries →
            (membersToJson platform [] entries).lookup key = some (cborToJson platform value) :=
          fun key value member => lookup_membersToJson [] distinct member
        exact ⟨⟨texts, distinct⟩, (keptEntries_iff entries found texts).mpr inner⟩
  | array items =>
      rw [cborToJson, Kept, convertible]
      exact keptItems_iff items
  | float bits =>
      rw [cborToJson, Kept, convertible]
      cases platform.floatNumber bits with
      | none => simp
      | some number => simp
  | integer n =>
      rw [cborToJson, Kept, convertible]
      exact iff_of_true (integerJson_cases n) rfl
  | bytes b => simp [cborToJson, Kept, convertible]
  | text s => simp [cborToJson, Kept, convertible]
  | bool b => simp [cborToJson, Kept, convertible]
  | null => simp [cborToJson, Kept, convertible]
  | tag number inner => simp [cborToJson, Kept, convertible]

theorem keptItems_iff (items : List Cbor) :
    KeptItems platform items (itemsToJson platform items) ↔ convertibleItems platform items = true := by
  cases items with
  | nil => simp [itemsToJson, KeptItems, convertibleItems]
  | cons item rest =>
      rw [itemsToJson, KeptItems, convertibleItems, Bool.and_eq_true, kept_iff item,
        keptItems_iff rest]

theorem keptEntries_iff (entries : List (Cbor × Cbor)) {members : List (String × Value)}
    (found : ∀ key value, (.text key, value) ∈ entries →
      members.lookup key = some (cborToJson platform value))
    (texts : (textKeys entries).length = entries.length) :
    KeptEntries platform entries members ↔ convertibleEntries platform entries = true := by
  match entries with
  | [] => simp [KeptEntries, convertibleEntries]
  | (.text key, value) :: rest =>
      have here := found key value List.mem_cons_self
      have later := keptEntries_iff rest
        (fun other inner member => found other inner (List.mem_cons_of_mem _ member))
        (Nat.succ.inj texts)
      rw [KeptEntries, convertibleEntries, Bool.and_eq_true, later, here]
      simp only [Option.some.injEq, exists_eq_left', kept_iff value]
  | (.integer _, _) :: rest | (.bytes _, _) :: rest | (.float _, _) :: rest | (.bool _, _) :: rest
  | (.null, _) :: rest | (.tag _ _, _) :: rest | (.array _, _) :: rest | (.map _, _) :: rest =>
      -- a key that is no text is missing from the text keys
      have bound := length_textKeys_le rest
      simp only [textKeys, List.length_cons] at texts
      omega

end

theorem integerJson_injective {m n : Int} (same : integerJson m = integerJson n) : m = n := by
  rcases integerJson_cases m with ⟨positive, left⟩ | ⟨negative, left⟩ | left
  · rcases integerJson_cases n with ⟨positive', right⟩ | ⟨negative', right⟩ | right
    · rw [left, right, Value.number.injEq, Number.posInt.injEq] at same
      omega
    · simp [left, right] at same
    · simp [left, right] at same
  · rcases integerJson_cases n with ⟨positive', right⟩ | ⟨negative', right⟩ | right
    · simp [left, right] at same
    · rw [left, right, Value.number.injEq, Number.negInt.injEq] at same
      exact same
    · simp [left, right] at same
  · rcases integerJson_cases n with ⟨positive', right⟩ | ⟨negative', right⟩ | right
    · simp [left, right] at same
    · simp [left, right] at same
    · rw [left, right] at same
      exact Decimal.toString_int_injective (Value.string.inj same)

/-- Converting a value loses no data exactly when every map in it has only text keys, none of them
twice, every float in it is finite, and no map and no array in it is under a tag. -/
theorem cborToJson_kept_iff (platform : AuthPlatform Key) (value : Cbor) :
    (Kept platform value (cborToJson platform value) ∧
        ∀ m n : Int, cborToJson platform (.integer m) = cborToJson platform (.integer n) → m = n) ↔
      convertible platform value = true := by
  rw [kept_iff]
  constructor
  · intro both
    exact both.1
  · intro whole
    refine ⟨whole, ?_⟩
    intro m n same
    rw [cborToJson, cborToJson] at same
    exact integerJson_injective same

def fromF64 (bits : UInt64) : Option Number :=
  if bits.toNat / 4503599627370496 % 2048 = 2047 then none else some (.float bits)

def plainPlatform : AuthPlatform Unit where
  cbor _ := none
  decodeBase64Url _ := none
  encodeBase64Url _ := ""
  encodeBase64 _ := ""
  sign1 _ := none
  taggedSign1 _ := none
  coseKey _ := none
  fromSec1 _ := .ok ()
  verifies _ _ := false
  floatNumber := fromF64
  debug _ := ""

/-- An entry under an integer key is dropped, of two entries under one key the first is dropped, and
infinity becomes null. -/
theorem cborToJson_loses :
    cborToJson plainPlatform (.map [(.integer 1, .text "lost")]) = .object [] ∧
      ¬Kept plainPlatform (.map [(.integer 1, .text "lost")]) (.object []) ∧
      cborToJson plainPlatform (.map [(.text "role", .text "lost"), (.text "role", .text "patron")]) =
        .object [("role", .string "patron")] ∧
      ¬Kept plainPlatform (.map [(.text "role", .text "lost"), (.text "role", .text "patron")])
        (.object [("role", .string "patron")]) ∧
      cborToJson plainPlatform (.float 0x7FF0000000000000) = .null ∧
      ¬Kept plainPlatform (.float 0x7FF0000000000000) .null := by
  refine ⟨by simp [cborToJson, membersToJson], by simp [Kept], ?_, by simp [Kept], ?_, by simp [Kept]⟩
  · simp [cborToJson, membersToJson, Value.insertMember]
  · simp [cborToJson, plainPlatform, fromF64]

end Lossless

end TdfIrohS3
