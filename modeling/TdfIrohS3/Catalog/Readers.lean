import TdfIrohS3.Catalog.Handlers
import TdfIrohS3.Library.Pairs

namespace TdfIrohS3

open Library

namespace Value

mutual

def visit : Value → Except String Unit
  | .null | .bool _ | .number _ | .string _ => .ok ()
  | .array items => visitSeq items
  | .object members => visitMap [] members

def visitSeq : List Value → Except String Unit
  | [] => .ok ()
  | item :: rest => do
      visit item
      visitSeq rest

def visitMap (seen : List String) : List (String × Value) → Except String Unit
  | [] => .ok ()
  | (key, value) :: rest =>
      if key ∈ seen then .error ("duplicate key `" ++ key ++ "`")
      else do
        visit value
        visitMap (key :: seen) rest

end

inductive Within (sub : Value) : Value → Prop
  | self : Within sub sub
  | item {item : Value} {items : List Value} (member : item ∈ items) (inner : Within sub item) :
      Within sub (.array items)
  | member {key : String} {value : Value} {members : List (String × Value)}
      (member : (key, value) ∈ members) (inner : Within sub value) : Within sub (.object members)

def RepeatsNoKey (tree : Value) : Prop :=
  ∀ members, Within (.object members) tree → (members.map Prod.fst).Nodup

section Visitor

theorem repeatsNoKey_array (items : List Value) :
    RepeatsNoKey (.array items) ↔ ∀ item ∈ items, item.RepeatsNoKey := by
  constructor
  · intro whole item member members inner
    exact whole members (.item member inner)
  · intro each members inner
    cases inner with
    | item member inner => exact each _ member members inner

theorem repeatsNoKey_object (members : List (String × Value)) :
    RepeatsNoKey (.object members) ↔
      (members.map Prod.fst).Nodup ∧ ∀ member ∈ members, member.2.RepeatsNoKey := by
  constructor
  · intro whole
    refine ⟨whole members .self, ?_⟩
    intro member inside inner within
    exact whole inner (.member inside within)
  · rintro ⟨distinct, each⟩ inner within
    cases within with
    | self => exact distinct
    | member inside deeper => exact each _ inside inner deeper

@[simp] theorem repeatsNoKey_null : RepeatsNoKey .null := by
  intro members within
  cases within

@[simp] theorem repeatsNoKey_bool (b : Bool) : RepeatsNoKey (.bool b) := by
  intro members within
  cases within

@[simp] theorem repeatsNoKey_number (n : Number) : RepeatsNoKey (.number n) := by
  intro members within
  cases within

@[simp] theorem repeatsNoKey_string (s : String) : RepeatsNoKey (.string s) := by
  intro members within
  cases within

mutual

/-- The visitor accepts a tree exactly when none of its objects repeats a key. -/
theorem visit_ok_iff (tree : Value) : visit tree = .ok () ↔ tree.RepeatsNoKey := by
  cases tree with
  | null => simp [visit]
  | bool b => simp [visit]
  | number n => simp [visit]
  | string s => simp [visit]
  | array items => rw [visit, visitSeq_ok_iff items, repeatsNoKey_array]
  | object members =>
      rw [visit, visitMap_ok_iff [] members, repeatsNoKey_object]
      simp

theorem visitSeq_ok_iff (items : List Value) :
    visitSeq items = .ok () ↔ ∀ item ∈ items, item.RepeatsNoKey := by
  cases items with
  | nil => simp [visitSeq]
  | cons item rest =>
      rw [visitSeq, then_ok, List.forall_mem_cons, visit_ok_iff item, visitSeq_ok_iff rest]

theorem visitMap_ok_iff (seen : List String) (members : List (String × Value)) :
    visitMap seen members = .ok () ↔
      ((members.map Prod.fst).Nodup ∧ ∀ key ∈ members.map Prod.fst, key ∉ seen) ∧
        ∀ member ∈ members, member.2.RepeatsNoKey := by
  match members with
  | [] => simp [visitMap]
  | (key, value) :: rest =>
      rw [visitMap, unless_error_ok, then_ok, visit_ok_iff value,
        visitMap_ok_iff (key :: seen) rest, List.forall_mem_cons, List.map_cons]
      by_cases again : key ∈ seen
      · constructor
        · rintro ⟨fresh, -⟩
          exact absurd again fresh
        · rintro ⟨⟨-, apart⟩, -⟩
          exact absurd again (apart key List.mem_cons_self)
      · rw [apart_cons again fun _ => List.mem_cons]
        constructor
        · rintro ⟨-, here, distinct, later⟩
          exact ⟨distinct, here, later⟩
        · rintro ⟨distinct, here, later⟩
          exact ⟨again, here, distinct, later⟩

end

mutual

theorem noDuplicateKeys_iff (tree : Value) : tree.noDuplicateKeys = true ↔ tree.RepeatsNoKey := by
  cases tree with
  | null => simp [noDuplicateKeys]
  | bool b => simp [noDuplicateKeys]
  | number n => simp [noDuplicateKeys]
  | string s => simp [noDuplicateKeys]
  | array items => rw [noDuplicateKeys, noDuplicateKeysItems_iff items, repeatsNoKey_array]
  | object members =>
      rw [noDuplicateKeys, Bool.and_eq_true, decide_eq_true_eq, noDuplicateKeysMembers_iff members,
        repeatsNoKey_object]

theorem noDuplicateKeysItems_iff (items : List Value) :
    noDuplicateKeysItems items = true ↔ ∀ item ∈ items, item.RepeatsNoKey := by
  cases items with
  | nil => simp [noDuplicateKeysItems]
  | cons item rest =>
      rw [noDuplicateKeysItems, Bool.and_eq_true, noDuplicateKeys_iff item,
        noDuplicateKeysItems_iff rest, List.forall_mem_cons]

theorem noDuplicateKeysMembers_iff (members : List (String × Value)) :
    noDuplicateKeysMembers members = true ↔ ∀ member ∈ members, member.2.RepeatsNoKey := by
  match members with
  | [] => simp [noDuplicateKeysMembers]
  | (key, value) :: rest =>
      rw [noDuplicateKeysMembers, Bool.and_eq_true, noDuplicateKeys_iff value,
        noDuplicateKeysMembers_iff rest, List.forall_mem_cons]

end

theorem toOption_visit (tree : Value) :
    tree.visit.toOption = if tree.noDuplicateKeys then some () else none := by
  have same : tree.visit = .ok () ↔ tree.noDuplicateKeys = true :=
    (visit_ok_iff tree).trans (noDuplicateKeys_iff tree).symm
  by_cases plain : tree.noDuplicateKeys = true
  · rw [if_pos plain, same.mpr plain]
    rfl
  · rw [if_neg plain]
    cases visited : tree.visit with
    | ok found => exact absurd (same.mp visited) plain
    | error why => rfl

end Visitor

section Readings

mutual

def readWith (insert : List (String × Value) → String → Value → List (String × Value)) :
    Value → Value
  | .null => .null
  | .bool b => .bool b
  | .number n => .number n
  | .string s => .string s
  | .array items => .array (readItems insert items)
  | .object members => .object (readMembers insert members [])

def readItems (insert : List (String × Value) → String → Value → List (String × Value)) :
    List Value → List Value
  | [] => []
  | item :: rest => readWith insert item :: readItems insert rest

def readMembers (insert : List (String × Value) → String → Value → List (String × Value)) :
    List (String × Value) → List (String × Value) → List (String × Value)
  | [], kept => kept
  | (key, value) :: rest, kept =>
      readMembers insert rest (insert kept key (readWith insert value))

end

def keepMember (members : List (String × Value)) (key : String) (value : Value) :
    List (String × Value) :=
  if key ∈ members.map Prod.fst then members else members ++ [(key, value)]

def firstWins : Value → Value := readWith keepMember

mutual

theorem readWith_insertMember (tree : Value) : readWith insertMember tree = tree.lastWins := by
  cases tree with
  | null => rfl
  | bool b => rfl
  | number n => rfl
  | string s => rfl
  | array items => rw [readWith, lastWins, readItems_insertMember items]
  | object members => rw [readWith, lastWins, readMembers_insertMember members []]

theorem readItems_insertMember (items : List Value) :
    readItems insertMember items = lastWinsItems items := by
  cases items with
  | nil => rfl
  | cons item rest =>
      rw [readItems, lastWinsItems, readWith_insertMember item, readItems_insertMember rest]

theorem readMembers_insertMember (members kept : List (String × Value)) :
    readMembers insertMember members kept = lastWinsMembers members kept := by
  match members with
  | [] => rfl
  | (key, value) :: rest =>
      rw [readMembers, lastWinsMembers, readWith_insertMember value,
        readMembers_insertMember rest _]

end

section Faithful

/-- A reader may do what it likes with a repeated key, and adds a new one at the end. -/
def AddsNew (insert : List (String × Value) → String → Value → List (String × Value)) : Prop :=
  ∀ members key value, key ∉ members.map Prod.fst →
    insert members key value = members ++ [(key, value)]

theorem insertMember_addsNew : AddsNew insertMember := fun _ _ _ fresh => if_neg fresh

theorem keepMember_addsNew : AddsNew keepMember := fun _ _ _ fresh => if_neg fresh

variable {insert : List (String × Value) → String → Value → List (String × Value)}

mutual

/-- Every reader builds the tree itself where no object repeats a key. -/
theorem readWith_eq_self (adds : AddsNew insert) (tree : Value) (plain : tree.RepeatsNoKey) :
    readWith insert tree = tree := by
  cases tree with
  | null => rfl
  | bool b => rfl
  | number n => rfl
  | string s => rfl
  | array items =>
      rw [readWith, readItems_eq_self adds items ((repeatsNoKey_array items).mp plain)]
  | object members =>
      obtain ⟨distinct, each⟩ := (repeatsNoKey_object members).mp plain
      rw [readWith, readMembers_eq_append adds members [] distinct each, List.nil_append]

theorem readItems_eq_self (adds : AddsNew insert) (items : List Value)
    (each : ∀ item ∈ items, item.RepeatsNoKey) : readItems insert items = items := by
  cases items with
  | nil => rfl
  | cons item rest =>
      obtain ⟨here, later⟩ := List.forall_mem_cons.mp each
      rw [readItems, readWith_eq_self adds item here, readItems_eq_self adds rest later]

theorem readMembers_eq_append (adds : AddsNew insert) (members kept : List (String × Value))
    (distinct : ((kept ++ members).map Prod.fst).Nodup)
    (each : ∀ member ∈ members, member.2.RepeatsNoKey) :
    readMembers insert members kept = kept ++ members := by
  match members with
  | [] => rw [readMembers, List.append_nil]
  | (key, value) :: rest =>
      obtain ⟨here, later⟩ := List.forall_mem_cons.mp each
      have shifted : kept ++ (key, value) :: rest = (kept ++ [(key, value)]) ++ rest := by simp
      have fresh : key ∉ kept.map Prod.fst := by
        rw [List.map_append, List.map_cons] at distinct
        intro again
        exact (List.nodup_append.mp distinct).2.2 key again key List.mem_cons_self rfl
      rw [readMembers, readWith_eq_self adds value here, adds kept key value fresh]
      rw [shifted] at distinct ⊢
      exact readMembers_eq_append adds rest (kept ++ [(key, value)]) distinct later

end

end Faithful

end Readings

end Value

section Text

def Formats.noDuplicateKeys (formats : Formats) (bytes : List UInt8) : Except String Unit :=
  formats.fromSlice (fun tree => tree.visit.toOption) bytes

def Formats.under (formats : Formats) (reading : Value → Value) : Formats :=
  { formats with json := fun bytes => (formats.json bytes).map reading }

variable {formats : Formats} {bytes : List UInt8}

theorem noDuplicateKeys_ok_iff :
    formats.noDuplicateKeys bytes = .ok () ↔
      ∃ tree, formats.json bytes = .ok tree ∧ tree.RepeatsNoKey := by
  unfold Formats.noDuplicateKeys Formats.fromSlice
  cases formats.json bytes with
  | error reason => simp
  | ok tree =>
      simp only [Except.ok.injEq, exists_eq_left']
      rw [← tree.visit_ok_iff]
      cases tree.visit with
      | error reason => simp [Except.toOption]
      | ok found => simp [Except.toOption]

theorem parsePointer_congr {reading : Value → Value}
    (same : (formats.json bytes).map reading = formats.json bytes) :
    parsePointer (formats.under reading) bytes = parsePointer formats bytes := by
  unfold parsePointer Formats.fromSlice
  simp only [Formats.under, same]

theorem readPut_congr {reading : Value → Value}
    (same : (formats.json bytes).map reading = formats.json bytes) :
    readPut (formats.under reading) (some bytes) = readPut formats (some bytes) := by
  unfold readPut Formats.fromSlice
  simp only [Formats.under, same]

/-- A text means the same to a reader that keeps the first of equal keys and to one that keeps the
last: its value, the pointer in it and the publish request in it. -/
structure ReadAlike (formats : Formats) (bytes : List UInt8) : Prop where
  value : ∀ tree, formats.json bytes = .ok tree → tree.firstWins = tree.lastWins
  firstPointer : parsePointer (formats.under Value.firstWins) bytes = parsePointer formats bytes
  lastPointer : parsePointer (formats.under Value.lastWins) bytes = parsePointer formats bytes
  firstRequest :
    readPut (formats.under Value.firstWins) (some bytes) = readPut formats (some bytes)
  lastRequest : readPut (formats.under Value.lastWins) (some bytes) = readPut formats (some bytes)

theorem readAlike_of_repeatsNoKey {tree : Value} (parsed : formats.json bytes = .ok tree)
    (plain : tree.RepeatsNoKey) : ReadAlike formats bytes := by
  have first : tree.firstWins = tree := Value.readWith_eq_self Value.keepMember_addsNew tree plain
  have last : tree.lastWins = tree := by
    rw [← Value.readWith_insertMember]
    exact Value.readWith_eq_self Value.insertMember_addsNew tree plain
  have firstSame : (formats.json bytes).map Value.firstWins = formats.json bytes := by
    rw [parsed]
    exact congrArg Except.ok first
  have lastSame : (formats.json bytes).map Value.lastWins = formats.json bytes := by
    rw [parsed]
    exact congrArg Except.ok last
  refine ⟨?_, parsePointer_congr firstSame, parsePointer_congr lastSame, readPut_congr firstSame,
    readPut_congr lastSame⟩
  intro other read
  rw [parsed] at read
  cases read
  rw [first, last]

theorem noDuplicateKeys_eq :
    formats.fromSlice (fun tree => if tree.noDuplicateKeys then some () else none) bytes =
      formats.noDuplicateKeys bytes := by
  unfold Formats.noDuplicateKeys
  simp only [Value.toOption_visit]

theorem noDuplicateKeys_of_parsePointer {pointer : Pointer}
    (parsed : parsePointer formats bytes = .ok pointer) : formats.noDuplicateKeys bytes = .ok () := by
  simp only [parsePointer, unless_error_ok, noDuplicateKeys_eq] at parsed
  obtain ⟨-, -, rest⟩ := parsed
  cases visited : formats.noDuplicateKeys bytes with
  | ok found => rfl
  | error reason =>
      rw [visited] at rest
      cases rest

theorem noDuplicateKeys_of_readPut {request : PutRequest × List UInt8}
    (read : readPut formats (some bytes) = .ok request) :
    formats.noDuplicateKeys bytes = .ok () := by
  simp only [readPut, unless_error_ok, noDuplicateKeys_eq] at read
  obtain ⟨-, rest⟩ := read
  cases visited : formats.noDuplicateKeys bytes with
  | ok found => rfl
  | error reason =>
      rw [visited] at rest
      cases rest

/-- `NoDuplicateKeys` accepts a JSON text exactly when no object in it repeats a key, and a text it
accepts means the same to every reader. It accepts every pointer and publish request that the node
accepts. -/
theorem accepted_text_read_alike (formats : Formats) (bytes : List UInt8) :
    (∀ tree, formats.json bytes = .ok tree →
      (formats.noDuplicateKeys bytes = .ok () ↔ tree.RepeatsNoKey)) ∧
    (formats.noDuplicateKeys bytes = .ok () → ReadAlike formats bytes) ∧
    (∀ pointer, parsePointer formats bytes = .ok pointer →
      formats.noDuplicateKeys bytes = .ok ()) ∧
    ∀ request, readPut formats (some bytes) = .ok request →
      formats.noDuplicateKeys bytes = .ok () := by
  refine ⟨?_, ?_, fun _ parsed => noDuplicateKeys_of_parsePointer parsed,
    fun _ read => noDuplicateKeys_of_readPut read⟩
  · intro tree parsed
    rw [noDuplicateKeys_ok_iff, parsed]
    simp
  · intro accepted
    obtain ⟨tree, parsed, plain⟩ := noDuplicateKeys_ok_iff.mp accepted
    exact readAlike_of_repeatsNoKey parsed plain

end Text

end TdfIrohS3
