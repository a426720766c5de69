import TdfIrohS3.Catalog.Format
import TdfIrohS3.Library.Decimal
import TdfIrohS3.Library.Pairs

namespace TdfIrohS3

open Library

section Shapes

/-- `[A-Za-z0-9:._@-]{1,max}`, never `.` and never containing `..`. -/
structure Identifier (s : String) (max : Nat) : Prop where
  size : 1 ≤ s.utf8ByteSize ∧ s.utf8ByteSize ≤ max
  chars : ∀ c ∈ s.toList, isIdentifierChar c = true
  notDot : s ≠ "."
  noDots : ¬['.', '.'] <:+: s.toList

structure LowerHexHash (s : String) : Prop where
  size : s.utf8ByteSize = 64
  chars : ∀ c ∈ s.toList, ('0' ≤ c ∧ c ≤ '9') ∨ ('a' ≤ c ∧ c ≤ 'f')

theorem containsChars_iff (pattern chars : List Char) :
    Text.containsChars pattern chars = true ↔ pattern <:+: chars := by
  induction chars with
  | nil => rw [Text.containsChars, List.isEmpty_iff, List.infix_nil]
  | cons c rest ih =>
      rw [Text.containsChars, Bool.or_eq_true, List.isPrefixOf_iff_prefix, ih, List.infix_cons_iff]

theorem validIdentifier_iff {s : String} {max : Nat} :
    validIdentifier s max = true ↔ Identifier s max := by
  have dots : Text.contains s ".." = true ↔ ['.', '.'] <:+: s.toList := containsChars_iff _ _
  rw [validIdentifier, Bool.and_eq_true, Bool.and_eq_true, Bool.and_eq_true, decide_eq_true_eq,
    bne_iff_ne, Bool.not_eq_true', ← Bool.not_eq_true, dots, List.all_eq_true]
  constructor
  · rintro ⟨⟨⟨size, notDot⟩, noDots⟩, chars⟩
    exact ⟨size, chars, notDot, noDots⟩
  · rintro ⟨size, chars, notDot, noDots⟩
    exact ⟨⟨⟨size, notDot⟩, noDots⟩, chars⟩

theorem isLowerHexHash_iff {s : String} : isLowerHexHash s = true ↔ LowerHexHash s := by
  have digit : ∀ c, Text.isLowerHexDigit c = true ↔
      ('0' ≤ c ∧ c ≤ '9') ∨ ('a' ≤ c ∧ c ≤ 'f') := by
    intro c
    simp only [Text.isLowerHexDigit, Bool.or_eq_true, Bool.and_eq_true, decide_eq_true_eq]
  rw [isLowerHexHash, Bool.and_eq_true, beq_iff_eq, List.all_eq_true]
  simp only [digit]
  exact ⟨fun ⟨size, chars⟩ => ⟨size, chars⟩, fun ⟨size, chars⟩ => ⟨size, chars⟩⟩

end Shapes

namespace Value

theorem asStr_eq_some_iff {value : Value} {s : String} : value.asStr = some s ↔ value = .string s := by
  cases value with
  | string t => simp [asStr]
  | _ => simp [asStr]

theorem asU64_eq_some_iff {value : Value} {n : Nat} :
    value.asU64 = some n ↔ value = .number (.posInt n) := by
  cases value with
  | number m =>
      cases m with
      | posInt k => simp [asU64]
      | _ => simp [asU64]
  | _ => simp [asU64]

/-- A derived struct is read from an object with exactly its keys, each once, and also from an array
of the values alone. -/
theorem structFields_eq_some_iff {names : List String} (once : names.Nodup) {tree : Value}
    {values : List Value} :
    tree.structFields names = some values ↔
      names.length = values.length ∧ (tree = .array values ∨
        ∃ members, tree = .object members ∧ members.Perm (names.zip values)) := by
  cases tree with
  | array items =>
      simp only [structFields, Option.ite_none_right_eq_some, Option.some.injEq, array.injEq,
        reduceCtorEq, false_and, exists_false, or_false]
      constructor
      · rintro ⟨same, rfl⟩
        exact ⟨same.symm, rfl⟩
      · rintro ⟨same, rfl⟩
        exact ⟨same.symm, rfl⟩
  | object members =>
      simp only [structFields, Option.ite_none_right_eq_some, reduceCtorEq, false_or,
        object.injEq, exists_eq_left']
      exact mapM_lookup_iff once
  | _ => simp [structFields]

theorem read_struct_iff {α : Type} (members : α → List (String × Value)) {names : List String}
    (once : names.Nodup) {build : List Value → Option α}
    (named : ∀ found, (members found).map Prod.fst = names)
    (built : ∀ values found, build values = some found ↔ values = (members found).map Prod.snd)
    {tree : Value} {found : α} :
    (tree.structFields names).bind build = some found ↔
      tree = .array ((members found).map Prod.snd) ∨
        ∃ stored, tree = .object stored ∧ stored.Perm (members found) := by
  have zipped : names.zip ((members found).map Prod.snd) = members found := by
    rw [← named found]
    exact (List.zip_of_prod rfl rfl).symm
  have length : names.length = ((members found).map Prod.snd).length := by
    rw [← named found, List.length_map, List.length_map]
  rw [Option.bind_eq_some_iff]
  constructor
  · rintro ⟨values, fields, rest⟩
    rw [built] at rest
    subst rest
    rw [structFields_eq_some_iff once, zipped] at fields
    exact fields.2
  · intro shape
    refine ⟨(members found).map Prod.snd, ?_, (built _ _).mpr rfl⟩
    rw [structFields_eq_some_iff once, zipped]
    exact ⟨length, shape⟩

end Value

section Entries

namespace CreatorCatalogEntry

def toMembers (e : CreatorCatalogEntry) : List (String × Value) :=
  [("contentID", .string e.contentId), ("version", .number (.posInt e.version)),
    ("payloadHash", .string e.payloadHash), ("payloadSize", .number (.posInt e.payloadSize))]

structure WellFormed (e : CreatorCatalogEntry) : Prop where
  contentId : Identifier e.contentId 256
  version : 1 ≤ e.version ∧ e.version ≤ 9007199254740991
  payloadHash : LowerHexHash e.payloadHash
  payloadSize : 1 ≤ e.payloadSize ∧ e.payloadSize ≤ 4294967295

structure Strict (raw : Value) (e : CreatorCatalogEntry) : Prop where
  object : ∃ members, raw = .object members ∧ members.Perm e.toMembers
  wellFormed : e.WellFormed

structure Bare (raw : Value) (e : CreatorCatalogEntry) : Prop where
  array : raw = .array (e.toMembers.map Prod.snd)
  wellFormed : e.WellFormed

theorem read_eq_some_iff {raw : Value} {e : CreatorCatalogEntry} :
    CreatorCatalogEntry.read raw = some e ↔
      raw = .array (e.toMembers.map Prod.snd) ∨
        ∃ members, raw = .object members ∧ members.Perm e.toMembers := by
  refine Value.read_struct_iff toMembers (by decide) (fun _ => rfl) ?_
  intro values found
  constructor
  · intro built
    split at built
    · simp only [bind, Option.bind_eq_some_iff, Value.asStr_eq_some_iff, Value.asU64_eq_some_iff,
        pure, Option.some.injEq] at built
      obtain ⟨contentId, rfl, version, rfl, payloadHash, rfl, payloadSize, rfl, rfl⟩ := built
      rfl
    · cases built
  · rintro rfl
    rfl

theorem wellFormed_iff {e : CreatorCatalogEntry} :
    e.WellFormed ↔ validIdentifier e.contentId maxContentIdBytes = true ∧
      (1 ≤ e.version ∧ e.version ≤ maxVersion) ∧ isLowerHexHash e.payloadHash = true ∧
      (1 ≤ e.payloadSize ∧ e.payloadSize ≤ maxPayloadSize) := by
  rw [validIdentifier_iff, isLowerHexHash_iff]
  constructor
  · rintro ⟨contentId, version, payloadHash, payloadSize⟩
    exact ⟨contentId, version, payloadHash, payloadSize⟩
  · rintro ⟨contentId, version, payloadHash, payloadSize⟩
    exact ⟨contentId, version, payloadHash, payloadSize⟩

end CreatorCatalogEntry

open CreatorCatalogEntry

variable {formats : Formats} {raw : Value} {e : CreatorCatalogEntry}

theorem parseEntry_ok_iff : parseEntry formats raw = .ok e ↔ Strict raw e ∨ Bare raw e := by
  have checks : parseEntry formats raw = .ok e ↔
      CreatorCatalogEntry.read raw = some e ∧ e.WellFormed := by
    unfold parseEntry
    cases read : CreatorCatalogEntry.read raw with
    | none => simp
    | some found =>
        simp only [unless_error_ok, Option.some.injEq, Except.ok.injEq, wellFormed_iff,
          Bool.not_eq_true', Bool.not_eq_false, Bool.and_eq_true, decide_eq_true_eq]
        constructor
        · rintro ⟨contentId, version, payloadHash, payloadSize, rfl⟩
          exact ⟨rfl, contentId, version, payloadHash, payloadSize⟩
        · rintro ⟨rfl, contentId, version, payloadHash, payloadSize⟩
          exact ⟨contentId, version, payloadHash, payloadSize, rfl⟩
  rw [checks, read_eq_some_iff]
  constructor
  · rintro ⟨array | object, wellFormed⟩
    · exact .inr ⟨array, wellFormed⟩
    · exact .inl ⟨object, wellFormed⟩
  · rintro (⟨object, wellFormed⟩ | ⟨array, wellFormed⟩)
    · exact ⟨.inr object, wellFormed⟩
    · exact ⟨.inl array, wellFormed⟩

theorem not_strict_of_bare (bare : Bare raw e) (other : CreatorCatalogEntry) : ¬Strict raw other := by
  intro strict
  obtain ⟨members, object, -⟩ := strict.object
  rw [bare.array] at object
  cases object

theorem strict_unique {other : CreatorCatalogEntry} (one : Strict raw e) (two : Strict raw other) :
    e = other := by
  have read : CreatorCatalogEntry.read raw = some e := read_eq_some_iff.mpr (.inr one.object)
  have again : CreatorCatalogEntry.read raw = some other := read_eq_some_iff.mpr (.inr two.object)
  rw [read] at again
  exact Option.some.inj again

end Entries

section Loop

open CreatorCatalogEntry

def contentIds (entries : List CreatorCatalogEntry) : List String :=
  entries.map CreatorCatalogEntry.contentId

def entryLabel (n : Nat) : String := "entries[" ++ toString n ++ "]."

theorem entryLabel_injective {m n : Nat} {left right : String}
    (same : entryLabel m ++ left = entryLabel n ++ right) : m = n := by
  have spelled : ∀ (k : Nat) (rest : String), (entryLabel k ++ rest).toList =
      "entries[".toList ++ (Nat.toDigits 10 k ++ ']' :: '.' :: rest.toList) := by
    intro k rest
    simp [entryLabel]
  have chars := congrArg String.toList same
  rw [spelled, spelled] at chars
  exact Decimal.toDigits_injective_before (by decide) (List.append_cancel_left chars)

def Positions (seen : List (String × Nat)) (earlier : List String) : Prop :=
  ∀ id n, seen.lookup id = some n ↔ earlier[n]? = some id

theorem positions_nil : Positions [] [] := by
  intro id n
  simp

theorem positions_cons {seen : List (String × Nat)} {earlier : List String} {id : String}
    (positions : Positions seen earlier) (fresh : id ∉ earlier) :
    Positions ((id, earlier.length) :: seen) (earlier ++ [id]) := by
  intro other n
  rw [List.lookup_cons]
  by_cases same : other = id
  · subst same
    rw [beq_self_eq_true]
    constructor
    · intro found
      cases found
      simp
    · intro found
      rcases Nat.lt_trichotomy n earlier.length with before | rfl | after
      · rw [List.getElem?_append_left before] at found
        exact absurd (List.mem_of_getElem? found) fresh
      · rfl
      · rw [List.getElem?_eq_none (by simp; omega)] at found
        cases found
  · rw [beq_false_of_ne same, positions other n]
    constructor
    · intro found
      have before : n < earlier.length := (List.getElem?_eq_some_iff.mp found).1
      rwa [List.getElem?_append_left before]
    · intro found
      rcases Nat.lt_trichotomy n earlier.length with before | rfl | after
      · rwa [List.getElem?_append_left before] at found
      · rw [List.getElem?_concat_length] at found
        exact absurd (Option.some.inj found).symm same
      · rw [List.getElem?_eq_none (by simp; omega)] at found
        cases found

variable {formats : Formats} {raws : List Value} {entries : List CreatorCatalogEntry}
  {seen : List (String × Nat)} {earlier : List String}

def ReadAs (formats : Formats) : List Value → List CreatorCatalogEntry → Prop :=
  List.Forall₂ fun raw e => parseEntry formats raw = .ok e

/-- Why the loop stops at an element, after those with the content ids `before`: it is no entry, or it
repeats the content id at `first`. -/
inductive Stopped (formats : Formats) (before : List String) (raw : Value) : String → Prop
  | malformed {reason : String} (refused : parseEntry formats raw = .error reason) :
      Stopped formats before raw (entryLabel before.length ++ reason)
  | repeated {e : CreatorCatalogEntry} {first : Nat} (read : parseEntry formats raw = .ok e)
      (held : before[first]? = some e.contentId) :
      Stopped formats before raw (entryLabel before.length ++ "contentID duplicates entries[" ++
        toString first ++ "].contentID")

theorem duplicate_text (i first : Nat) :
    "entries[" ++ toString i ++ "].contentID duplicates entries[" ++ toString first ++
        "].contentID" =
      entryLabel i ++ "contentID duplicates entries[" ++ toString first ++ "].contentID" := by
  have cut : "].contentID duplicates entries[" = "]." ++ "contentID duplicates entries[" := rfl
  rw [cut, entryLabel]
  simp only [String.append_assoc]

theorem contentIds_cons (e : CreatorCatalogEntry) :
    earlier ++ contentIds (e :: entries) = (earlier ++ [e.contentId]) ++ contentIds entries := by
  simp [contentIds]

theorem parseEntries_malformed {i : Nat} {raw : Value} {rest : List Value} {reason : String}
    (refused : parseEntry formats raw = .error reason) :
    parseEntries formats i seen (raw :: rest) = .error (entryLabel i ++ reason) := by
  simp only [parseEntries, refused, entryLabel]

theorem parseEntries_repeated {i first : Nat} {raw : Value} {rest : List Value}
    {e : CreatorCatalogEntry} (read : parseEntry formats raw = .ok e)
    (held : seen.lookup e.contentId = some first) :
    parseEntries formats i seen (raw :: rest) =
      .error (entryLabel i ++ "contentID duplicates entries[" ++ toString first ++ "].contentID") := by
  simp only [parseEntries, read, held, duplicate_text]

theorem parseEntries_fresh {i : Nat} {raw : Value} {rest : List Value} {e : CreatorCatalogEntry}
    (read : parseEntry formats raw = .ok e) (absent : seen.lookup e.contentId = none) :
    parseEntries formats i seen (raw :: rest) =
      (parseEntries formats (i + 1) ((e.contentId, i) :: seen) rest).map (e :: ·) := by
  simp only [parseEntries, read, absent]
  cases parseEntries formats (i + 1) ((e.contentId, i) :: seen) rest with
  | error reason => rfl
  | ok entries => rfl

theorem lookup_eq_none_iff (positions : Positions seen earlier) (id : String) :
    seen.lookup id = none ↔ id ∉ earlier := by
  constructor
  · intro absent member
    obtain ⟨n, found⟩ := List.getElem?_of_mem member
    rw [(positions id n).mpr found] at absent
    cases absent
  · intro absent
    cases held : seen.lookup id with
    | none => rfl
    | some n => exact absurd (List.mem_of_getElem? ((positions id n).mp held)) absent

theorem nodup_concat_iff {id : String} :
    (earlier ++ [id]).Nodup ↔ id ∉ earlier ∧ earlier.Nodup := by
  rw [← List.concat_eq_append, List.nodup_concat]

/-- Where the loop ends, from elements with the content ids `earlier` on: with all entries, or at the
first element it refuses. -/
theorem parseEntries_outcome (positions : Positions seen earlier) (distinct : earlier.Nodup) :
    (∃ entries, parseEntries formats earlier.length seen raws = .ok entries ∧
      ReadAs formats raws entries ∧ (earlier ++ contentIds entries).Nodup) ∨
    ∃ text front raw back entries,
      parseEntries formats earlier.length seen raws = .error text ∧ raws = front ++ raw :: back ∧
      ReadAs formats front entries ∧ (earlier ++ contentIds entries).Nodup ∧
      Stopped formats (earlier ++ contentIds entries) raw text := by
  induction raws generalizing seen earlier with
  | nil =>
      refine .inl ⟨[], rfl, .nil, ?_⟩
      simpa [contentIds] using distinct
  | cons raw rest ih =>
      have here : earlier ++ contentIds [] = earlier := List.append_nil earlier
      cases read : parseEntry formats raw with
      | error reason =>
          refine .inr ⟨_, [], raw, rest, [], parseEntries_malformed read, rfl, .nil, ?_, ?_⟩
          · rwa [here]
          · rw [here]
            exact .malformed read
      | ok e =>
          cases held : seen.lookup e.contentId with
          | some first =>
              refine .inr ⟨_, [], raw, rest, [], parseEntries_repeated read held, rfl, .nil, ?_, ?_⟩
              · rwa [here]
              · rw [here]
                exact .repeated read ((positions _ _).mp held)
          | none =>
              have fresh := (lookup_eq_none_iff positions e.contentId).mp held
              have onward := ih (positions_cons positions fresh)
                (nodup_concat_iff.mpr ⟨fresh, distinct⟩)
              rw [List.length_append, List.length_singleton] at onward
              rw [parseEntries_fresh read held]
              rcases onward with ⟨entries, parsed, each, whole⟩ |
                ⟨text, front, other, back, entries, refused, rfl, each, whole, stopped⟩
              · refine .inl ⟨e :: entries, by rw [parsed]; rfl, .cons read each, ?_⟩
                rwa [contentIds_cons]
              · refine .inr ⟨text, raw :: front, other, back, e :: entries, by rw [refused]; rfl, rfl,
                  .cons read each, ?_, ?_⟩
                · rwa [contentIds_cons]
                · rwa [contentIds_cons]

theorem parseEntries_append {front back : List Value} (positions : Positions seen earlier)
    (each : ReadAs formats front entries) (whole : (earlier ++ contentIds entries).Nodup) :
    ∃ later, Positions later (earlier ++ contentIds entries) ∧
      parseEntries formats earlier.length seen (front ++ back) =
        (parseEntries formats (earlier ++ contentIds entries).length later back).map
          (entries ++ ·) := by
  induction each generalizing seen earlier with
  | nil =>
      refine ⟨seen, by simpa [contentIds] using positions, ?_⟩
      simp only [contentIds, List.map_nil, List.append_nil, List.nil_append]
      cases parseEntries formats earlier.length seen back with
      | error reason => rfl
      | ok entries => rfl
  | @cons raw e front entries read each ih =>
      rw [contentIds_cons] at whole ⊢
      have fresh : e.contentId ∉ earlier :=
        (nodup_concat_iff.mp (List.nodup_append.mp whole).1).1
      obtain ⟨later, ends, parsed⟩ := ih (positions_cons positions fresh) whole
      refine ⟨later, ends, ?_⟩
      rw [List.length_append, List.length_singleton] at parsed
      rw [List.cons_append, parseEntries_fresh read ((lookup_eq_none_iff positions _).mpr fresh),
        parsed]
      cases parseEntries formats ((earlier ++ [e.contentId]) ++ contentIds entries).length later
          back with
      | error reason => rfl
      | ok entries => rfl

theorem Stopped.labelled {before : List String} {raw : Value} {text : String}
    (stopped : Stopped formats before raw text) :
    ∃ reason, text = entryLabel before.length ++ reason := by
  cases stopped with
  | malformed => exact ⟨_, rfl⟩
  | @repeated e first read held =>
      refine ⟨"contentID duplicates entries[" ++ toString first ++ "].contentID", ?_⟩
      simp only [String.append_assoc]

end Loop

section Index

open CreatorCatalogEntry

structure StrictIndex (index : Value) (entries : List CreatorCatalogEntry) : Prop where
  array : ∃ raws, index = .array raws ∧ raws.length ≤ 1000 ∧ List.Forall₂ Strict raws entries
  distinct : (contentIds entries).Nodup

def Holds (raws : List Value) (n : Nat) (id : String) : Prop :=
  ∃ raw e, raws[n]? = some raw ∧ Strict raw e ∧ e.contentId = id

def Repeats (raws : List Value) (n first : Nat) : Prop :=
  first < n ∧ ∃ id, Holds raws n id ∧ Holds raws first id

def Faulty (raws : List Value) (n : Nat) : Prop :=
  (∃ raw, raws[n]? = some raw ∧ ∀ e, ¬Strict raw e) ∨ ∃ first, Repeats raws n first

/-- An error names the first faulty element, and what it repeats where it repeats something. -/
structure NamesFirstFault (raws : List Value) (text : String) (n : Nat) : Prop where
  faulty : Faulty raws n
  first : ∀ m < n, ¬Faulty raws m
  named : ∃ reason, text = entryLabel n ++ reason
  repeated : ∀ first, Repeats raws n first →
    text = entryLabel n ++ "contentID duplicates entries[" ++ toString first ++ "].contentID"
  unique : ∀ one two, Repeats raws n one → Repeats raws n two → one = two

/-- `parse_index` is exact on an index: it returns the entries of the stated form and nothing else, and
an error about an element names the first faulty one. -/
structure ExactIndex (formats : Formats) (index : Value) : Prop where
  accepts : ∀ entries, parseIndex formats index = .ok entries ↔ StrictIndex index entries
  names : ∀ raws text, index = .array raws → raws.length ≤ 1000 →
    parseIndex formats index = .error text → ∃ n, NamesFirstFault raws text n

/-- An array of the four values of an entry stands among the elements, after entries in the stated
form, and its content id is none of theirs. -/
def BareFirst (raws : List Value) : Prop :=
  ∃ front raw back entries e, raws = front ++ raw :: back ∧ List.Forall₂ Strict front entries ∧
    Bare raw e ∧ (contentIds (entries ++ [e])).Nodup

variable {formats : Formats} {raws front back : List Value} {raw : Value}
  {entries : List CreatorCatalogEntry}

theorem readAs_of_strict (each : List.Forall₂ Strict front entries) :
    ReadAs formats front entries :=
  each.imp fun _ _ strict => parseEntry_ok_iff.mpr (.inl strict)

theorem strict_of_readAs (none : ¬BareFirst raws) (each : ReadAs formats front entries) :
    ∀ done doneEntries, raws = done ++ front ++ back → List.Forall₂ Strict done doneEntries →
      (contentIds (doneEntries ++ entries)).Nodup → List.Forall₂ Strict front entries := by
  induction each with
  | nil => exact fun _ _ _ _ _ => .nil
  | @cons raw e front entries read each ih =>
      intro done doneEntries whole before distinct
      have shifted : doneEntries ++ e :: entries = (doneEntries ++ [e]) ++ entries := by simp
      rw [shifted] at distinct
      rcases parseEntry_ok_iff.mp read with strict | bare
      · have grown : List.Forall₂ Strict (done ++ [raw]) (doneEntries ++ [e]) :=
          List.rel_append before (.cons strict .nil)
        exact .cons strict (ih _ _ (by rw [whole]; simp) grown distinct)
      · have apart : (contentIds (doneEntries ++ [e])).Nodup := by
          rw [contentIds, List.map_append] at distinct
          exact (List.nodup_append.mp distinct).1
        exact absurd ⟨done, raw, front ++ back, doneEntries, e, by rw [whole]; simp, before, bare,
          apart⟩ none

theorem strict_at (each : List.Forall₂ Strict front entries) {n : Nat} (inside : n < front.length) :
    ∃ raw e, (front ++ back)[n]? = some raw ∧ Strict raw e ∧
      (contentIds entries)[n]? = some e.contentId := by
  obtain ⟨same, strict⟩ := List.forall₂_iff_get.mp each
  have listed : n < entries.length := same ▸ inside
  refine ⟨front[n], entries[n], ?_, strict n inside listed, ?_⟩
  · rw [List.getElem?_append_left inside, List.getElem?_eq_getElem inside]
  · rw [contentIds, List.getElem?_map, List.getElem?_eq_getElem listed]
    rfl

theorem place_unique {ids : List String} (distinct : ids.Nodup) {m n : Nat} {id : String}
    (one : ids[m]? = some id) (two : ids[n]? = some id) : m = n :=
  (List.getElem?_inj (List.getElem?_eq_some_iff.mp one).1 distinct).mp (one.trans two.symm)

theorem holds_iff (each : List.Forall₂ Strict front entries) {n : Nat} {id : String}
    (inside : n < front.length) :
    Holds (front ++ back) n id ↔ (contentIds entries)[n]? = some id := by
  obtain ⟨raw, e, at_, strict, listed⟩ := @strict_at front back entries each n inside
  rw [listed, Option.some.injEq]
  constructor
  · rintro ⟨other, found, here, read, rfl⟩
    rw [at_] at here
    cases here
    rw [strict_unique strict read]
  · rintro rfl
    exact ⟨raw, e, at_, strict, rfl⟩

theorem not_faulty (each : List.Forall₂ Strict front entries)
    (distinct : (contentIds entries).Nodup) {n : Nat} (inside : n < front.length) :
    ¬Faulty (front ++ back) n := by
  rintro (⟨raw, at_, malformed⟩ | ⟨first, less, id, here, there⟩)
  · obtain ⟨other, e, found, strict, -⟩ := @strict_at front back entries each n inside
    rw [at_] at found
    cases found
    exact malformed e strict
  · rw [holds_iff each inside] at here
    rw [holds_iff each (Nat.lt_trans less inside)] at there
    exact absurd (place_unique distinct there here) (Nat.ne_of_lt less)

theorem repeats_after_iff (each : List.Forall₂ Strict front entries) {first : Nat} :
    Repeats (front ++ raw :: back) front.length first ↔
      ∃ e, Strict raw e ∧ (contentIds entries)[first]? = some e.contentId := by
  have here : (front ++ raw :: back)[front.length]? = some raw := by simp
  have count : (contentIds entries).length = front.length := by
    rw [contentIds, List.length_map, each.length_eq]
  constructor
  · rintro ⟨before, id, ⟨other, e, at_, strict, rfl⟩, there⟩
    rw [here] at at_
    cases at_
    exact ⟨e, strict, (holds_iff each before).mp there⟩
  · rintro ⟨e, strict, held⟩
    have before : first < front.length := count ▸ (List.getElem?_eq_some_iff.mp held).1
    exact ⟨before, e.contentId, ⟨raw, e, here, strict, rfl⟩, (holds_iff each before).mpr held⟩

theorem text_of_repeats {text : String} {e : CreatorCatalogEntry} {first : Nat} {ids : List String}
    (distinct : ids.Nodup) (stopped : Stopped formats ids raw text) (strict : Strict raw e)
    (held : ids[first]? = some e.contentId) :
    text = entryLabel ids.length ++ "contentID duplicates entries[" ++ toString first ++
      "].contentID" := by
  have read : parseEntry formats raw = .ok e := parseEntry_ok_iff.mpr (.inl strict)
  cases stopped with
  | malformed refused =>
      rw [refused] at read
      cases read
  | repeated again there =>
      rw [read] at again
      cases again
      rw [place_unique distinct there held]

theorem faulty_of_stopped {text : String} (each : List.Forall₂ Strict front entries)
    (stopped : Stopped formats (contentIds entries) raw text) :
    Faulty (front ++ raw :: back) front.length := by
  have here : (front ++ raw :: back)[front.length]? = some raw := by simp
  cases stopped with
  | malformed refused =>
      refine .inl ⟨raw, here, ?_⟩
      intro e strict
      rw [parseEntry_ok_iff.mpr (.inl strict)] at refused
      cases refused
  | @repeated e first read held =>
      rcases parseEntry_ok_iff.mp read with strict | bare
      · exact .inr ⟨first, (repeats_after_iff each).mpr ⟨e, strict, held⟩⟩
      · exact .inl ⟨raw, here, not_strict_of_bare bare⟩

theorem namesFirstFault_of_stopped {text : String} (each : List.Forall₂ Strict front entries)
    (distinct : (contentIds entries).Nodup)
    (stopped : Stopped formats (contentIds entries) raw text) :
    NamesFirstFault (front ++ raw :: back) text front.length := by
  have count : (contentIds entries).length = front.length := by
    rw [contentIds, List.length_map, each.length_eq]
  exact {
    faulty := faulty_of_stopped each stopped
    first := fun m less => not_faulty each distinct less
    named := count ▸ stopped.labelled
    repeated := by
      intro first repeats
      obtain ⟨e, strict, held⟩ := (repeats_after_iff each).mp repeats
      rw [← count]
      exact text_of_repeats distinct stopped strict held
    unique := by
      intro one two repeats repeats'
      obtain ⟨e, strict, held⟩ := (repeats_after_iff each).mp repeats
      obtain ⟨e', strict', held'⟩ := (repeats_after_iff each).mp repeats'
      cases strict_unique strict strict'
      exact place_unique distinct held held' }

theorem parseIndex_array (few : raws.length ≤ 1000) :
    parseIndex formats (.array raws) = parseEntries formats 0 [] raws :=
  if_neg (Nat.not_lt.mpr few)

/-- Without a bare entry among the elements, `parse_index` is exact. -/
theorem exactIndex_of_not_bareFirst (few : raws.length ≤ 1000) (none : ¬BareFirst raws) :
    ExactIndex formats (.array raws) := by
  have strict : ∀ {front back entries}, raws = front ++ back → ReadAs formats front entries →
      (contentIds entries).Nodup → List.Forall₂ Strict front entries := by
    intro front back entries whole each distinct
    exact strict_of_readAs none each [] [] whole .nil distinct
  have outcome := @parseEntries_outcome formats raws [] [] positions_nil List.nodup_nil
  simp only [List.nil_append, List.length_nil, ← parseIndex_array few] at outcome
  refine ⟨?_, ?_⟩
  · intro entries
    constructor
    · intro parsed
      rcases outcome with ⟨found, passed, each, distinct⟩ | ⟨text, _, _, _, _, refused, _⟩
      · rw [parsed] at passed
        cases passed
        exact ⟨⟨raws, rfl, few, strict (List.append_nil raws).symm each distinct⟩, distinct⟩
      · rw [parsed] at refused
        cases refused
    · rintro ⟨⟨other, same, -, each⟩, distinct⟩
      cases same
      obtain ⟨later, -, parsed⟩ := @parseEntries_append formats entries [] [] raws [] positions_nil
        (readAs_of_strict each) distinct
      rw [List.append_nil, List.length_nil] at parsed
      rw [parseIndex_array few, parsed]
      simp only [parseEntries]
      exact congrArg Except.ok (List.append_nil entries)
  · intro other text same _ refused
    cases same
    rcases outcome with ⟨found, passed, _⟩ |
      ⟨text', front, raw, back, entries, stopped, whole, each, distinct, why⟩
    · rw [refused] at passed
      cases passed
    · rw [refused] at stopped
      cases stopped
      refine ⟨front.length, ?_⟩
      have shape := strict whole each distinct
      rw [whole]
      exact namesFirstFault_of_stopped shape distinct why

theorem eq_length_of_namesFirstFault {text : String} {n : Nat} {e : CreatorCatalogEntry}
    (each : List.Forall₂ Strict front entries) (distinct : (contentIds entries).Nodup)
    (bare : Bare raw e) (names : NamesFirstFault (front ++ raw :: back) text n) :
    n = front.length := by
  rcases Nat.lt_trichotomy n front.length with before | same | after
  · exact absurd names.faulty (not_faulty each distinct before)
  · exact same
  · have faulty : Faulty (front ++ raw :: back) front.length :=
      .inl ⟨raw, by simp, not_strict_of_bare bare⟩
    exact absurd faulty (names.first _ after)

/-- `parse_index` reads a bare entry: it accepts the index, or its error names a later element. -/
theorem not_exactIndex_of_bareFirst (few : raws.length ≤ 1000) (some : BareFirst raws) :
    ¬ExactIndex formats (.array raws) := by
  obtain ⟨front, raw, back, entries, e, rfl, each, bare, distinct⟩ := some
  intro exact_
  have before : (contentIds entries).Nodup := by
    rw [contentIds, List.map_append] at distinct
    exact (List.nodup_append.mp distinct).1
  have count : (contentIds (entries ++ [e])).length = front.length + 1 := by
    simp [contentIds, each.length_eq]
  have read : ReadAs formats (front ++ [raw]) (entries ++ [e]) :=
    List.rel_append (readAs_of_strict each) (.cons (parseEntry_ok_iff.mpr (.inr bare)) .nil)
  obtain ⟨later, positions, parsed⟩ := @parseEntries_append formats (entries ++ [e]) [] []
    (front ++ [raw]) back positions_nil read distinct
  have whole : front ++ raw :: back = (front ++ [raw]) ++ back := by simp
  rw [List.nil_append] at positions
  rw [List.length_nil, List.nil_append, ← whole, ← parseIndex_array few] at parsed
  rcases @parseEntries_outcome formats back later _ positions distinct with
    ⟨rest, passed, -⟩ | ⟨text, front', raw', back', entries', refused, -, -, -, stopped⟩
  · rw [passed] at parsed
    obtain ⟨⟨others, same, -, strict⟩, -⟩ := (exact_.accepts _).mp parsed
    cases same
    obtain ⟨other, e', at_, strict', -⟩ :=
      @strict_at (front ++ raw :: back) [] _ strict front.length (by simp)
    have here : other = raw := by simpa using at_.symm
    exact not_strict_of_bare bare e' (here ▸ strict')
  · rw [refused] at parsed
    obtain ⟨n, names⟩ := exact_.names _ text rfl few parsed
    obtain ⟨reason, named⟩ := names.named
    obtain ⟨reason', labelled⟩ := stopped.labelled
    have first := eq_length_of_namesFirstFault each before bare names
    have equal := entryLabel_injective (named.symm.trans labelled)
    rw [List.length_append, count] at equal
    omega

theorem exactIndex_array_iff (few : raws.length ≤ 1000) :
    ExactIndex formats (.array raws) ↔ ¬BareFirst raws :=
  ⟨fun exact_ some => not_exactIndex_of_bareFirst few some exact_, exactIndex_of_not_bareFirst few⟩

theorem exactIndex_of_refused {index : Value}
    (other : ∀ raws, index = .array raws → ¬raws.length ≤ 1000) : ExactIndex formats index := by
  have refused : parseIndex formats index =
      .error ("must be an array of at most " ++ toString maxEntries ++ " entries") := by
    cases index with
    | array raws => exact if_pos (Nat.lt_of_not_le (other raws rfl))
    | _ => rfl
  refine ⟨?_, fun raws text same few _ => absurd few (other raws same)⟩
  intro entries
  rw [refused]
  constructor
  · intro impossible
    cases impossible
  · rintro ⟨⟨raws, same, few, -⟩, -⟩
    exact absurd few (other raws same)

end Index

section PointerText

def Pointer.toMembers (p : Pointer) : List (String × Value) :=
  [("schema", .string p.schema), ("owner", .string p.owner), ("seq", .number (.posInt p.seq)),
    ("catalogHash", .string p.catalogHash), ("catalogSize", .number (.posInt p.catalogSize)),
    ("issuedAt", .string p.issuedAt)]

variable {formats : Formats} {bytes : List UInt8} {p : Pointer}

theorem Pointer.read_eq_some_iff {tree : Value} :
    Pointer.read tree = some p ↔
      tree = .array (p.toMembers.map Prod.snd) ∨
        ∃ members, tree = .object members ∧ members.Perm p.toMembers := by
  refine Value.read_struct_iff toMembers (by decide) (fun _ => rfl) ?_
  intro values found
  constructor
  · intro built
    split at built
    · simp only [bind, Option.bind_eq_some_iff, Value.asStr_eq_some_iff, Value.asU64_eq_some_iff,
        pure, Option.some.injEq] at built
      obtain ⟨schema, rfl, owner, rfl, seq, rfl, hash, rfl, size, rfl, issued, rfl, rfl⟩ := built
      rfl
    · cases built
  · rintro rfl
    rfl

structure Pointer.Stated (p : Pointer) : Prop where
  schema : p.schema = "arkavo.catalog-pointer/1"
  owner : Identifier p.owner 248
  seq : 1 ≤ p.seq ∧ p.seq ≤ 9007199254740991
  catalogHash : LowerHexHash p.catalogHash
  catalogSize : 1 ≤ p.catalogSize ∧ p.catalogSize ≤ 4194304
  issuedAt : isUtcTimestamp p.issuedAt = true

theorem Pointer.stated_iff :
    p.Stated ↔ p.schema = pointerSchema ∧ validIdentifier p.owner maxOwnerBytes = true ∧
      (1 ≤ p.seq ∧ p.seq ≤ maxSeq) ∧ isLowerHexHash p.catalogHash = true ∧
      (1 ≤ p.catalogSize ∧ p.catalogSize ≤ maxCatalogBytes) ∧ isUtcTimestamp p.issuedAt = true := by
  rw [validIdentifier_iff, isLowerHexHash_iff]
  constructor
  · rintro ⟨schema, owner, seq, hash, size, issued⟩
    exact ⟨schema, owner, seq, hash, size, issued⟩
  · rintro ⟨schema, owner, seq, hash, size, issued⟩
    exact ⟨schema, owner, seq, hash, size, issued⟩

theorem fromSlice_ok_iff {α : Type} {reader : Value → Option α} {value : α} :
    formats.fromSlice reader bytes = .ok value ↔
      ∃ tree, formats.json bytes = .ok tree ∧ reader tree = some value := by
  unfold Formats.fromSlice
  cases parsed : formats.json bytes with
  | error reason => simp
  | ok tree =>
      cases read : reader tree with
      | none => simp [read]
      | some found => simp [read]

theorem parsePointer_ok_iff :
    parsePointer formats bytes = .ok p ↔
      bytes.length ≤ 1024 ∧ Text.validUtf8 bytes = true ∧ ∃ tree, formats.json bytes = .ok tree ∧
        tree.noDuplicateKeys = true ∧ Pointer.read tree = some p ∧ p.Stated := by
  unfold parsePointer
  rw [unless_error_ok, unless_error_ok, Nat.not_lt, Bool.not_eq_true', Bool.not_eq_false]
  refine and_congr_right fun _ => and_congr_right fun _ => ?_
  have keys := @fromSlice_ok_iff formats bytes Unit
    (fun tree => if tree.noDuplicateKeys then some () else none) ()
  simp only [Option.ite_none_right_eq_some, and_true] at keys
  cases visited : formats.fromSlice
      (fun tree => if tree.noDuplicateKeys then some () else none) bytes with
  | error reason =>
      rw [visited] at keys
      constructor
      · intro impossible
        cases impossible
      · rintro ⟨tree, parsed, plain, -⟩
        cases keys.mpr ⟨tree, parsed, plain⟩
  | ok found =>
      obtain ⟨tree, parsed, plain⟩ := keys.mp visited
      have fields := @fromSlice_ok_iff formats bytes Pointer Pointer.read
      simp only [parsed, Except.ok.injEq, exists_eq_left'] at fields ⊢
      cases read : formats.fromSlice Pointer.read bytes with
      | error reason =>
          rw [read] at fields
          constructor
          · intro impossible
            cases impossible
          · rintro ⟨-, shape, -⟩
            cases fields.mpr shape
      | ok pointer =>
          have shape := fields.mp read
          simp only [unless_error_ok, Except.ok.injEq, shape, plain, Option.some.injEq, true_and,
            Pointer.stated_iff, not_not, Bool.not_eq_true', Bool.not_eq_false, Bool.and_eq_true,
            decide_eq_true_eq]
          constructor
          · rintro ⟨schema, owner, seq, hash, size, issued, rfl⟩
            exact ⟨rfl, schema, owner, seq, hash, size, issued⟩
          · rintro ⟨rfl, schema, owner, seq, hash, size, issued⟩
            exact ⟨schema, owner, seq, hash, size, issued, rfl⟩

/-- `parse_pointer` accepts a text only in the stated form: at most 1024 bytes, an object with exactly
the six keys. -/
def ExactPointer (formats : Formats) (bytes : List UInt8) : Prop :=
  ∀ p, parsePointer formats bytes = .ok p → bytes.length ≤ 1024 ∧ p.Stated ∧
    ∃ members, formats.json bytes = .ok (.object members) ∧ members.Perm p.toMembers

def BarePointer (formats : Formats) (bytes : List UInt8) : Prop :=
  bytes.length ≤ 1024 ∧ Text.validUtf8 bytes = true ∧
    ∃ p : Pointer, formats.json bytes = .ok (.array (p.toMembers.map Prod.snd)) ∧ p.Stated

theorem exactPointer_iff : ExactPointer formats bytes ↔ ¬BarePointer formats bytes := by
  constructor
  · rintro exact_ ⟨few, utf8, p, parsed, stated⟩
    have accepted : parsePointer formats bytes = .ok p := parsePointer_ok_iff.mpr
      ⟨few, utf8, _, parsed, rfl, Pointer.read_eq_some_iff.mpr (.inl rfl), stated⟩
    obtain ⟨-, -, members, object, -⟩ := exact_ p accepted
    rw [parsed] at object
    cases object
  · intro none p accepted
    obtain ⟨few, utf8, tree, parsed, -, read, stated⟩ := parsePointer_ok_iff.mp accepted
    rcases Pointer.read_eq_some_iff.mp read with rfl | ⟨members, rfl, permuted⟩
    · exact absurd ⟨few, utf8, p, parsed, stated⟩ none
    · exact ⟨few, stated, members, parsed, permuted⟩

end PointerText

/-- The strict formats are enforced exactly where no array of the values alone stands for an entry or
for the pointer. -/
theorem strict_formats_iff (formats : Formats) (index : Value) (bytes : List UInt8) :
    (ExactIndex formats index ↔
      ∀ raws, index = .array raws → raws.length ≤ 1000 → ¬BareFirst raws) ∧
    (ExactPointer formats bytes ↔ ¬BarePointer formats bytes) := by
  refine ⟨?_, exactPointer_iff⟩
  by_cases shape : ∃ raws, index = .array raws ∧ raws.length ≤ 1000
  · obtain ⟨raws, rfl, few⟩ := shape
    rw [exactIndex_array_iff few]
    constructor
    · intro none other same _
      cases same
      exact none
    · intro none
      exact none raws rfl few
  · have other : ∀ raws, index = .array raws → ¬raws.length ≤ 1000 :=
      fun raws same few => shape ⟨raws, same, few⟩
    constructor
    · intro _ raws same few
      exact absurd few (other raws same)
    · intro _
      exact exactIndex_of_refused other

section Bare

open CreatorCatalogEntry

def bareHash : String := "4f8a4f8a4f8a4f8a4f8a4f8a4f8a4f8a4f8a4f8a4f8a4f8a4f8a4f8a4f8a4f8a"

def bareIndex : Value :=
  .array [.array [.string "rec-1", .number (.posInt 1), .string bareHash, .number (.posInt 7342067)]]

def barePointerText : String :=
  "[\"arkavo.catalog-pointer/1\",\"alice\",7,\"" ++ bareHash ++
    "\",1234,\"2026-10-19T01:02:03Z\"]"

def barePointer : Pointer :=
  { schema := "arkavo.catalog-pointer/1", owner := "alice", seq := 7, catalogHash := bareHash,
    catalogSize := 1234, issuedAt := "2026-10-19T01:02:03Z" }

def bareFormats : Formats where
  json bytes :=
    if bytes = barePointerText.toUTF8.toList then
      .ok (.array [.string "arkavo.catalog-pointer/1", .string "alice", .number (.posInt 7),
        .string bareHash, .number (.posInt 1234), .string "2026-10-19T01:02:03Z"])
    else .error "expected value at line 1 column 1"
  mismatch _ := "invalid type"
  toVec _ := []
  base64Url _ := none
  base64Standard _ := none

/-- An entry and a pointer without their keys are accepted. -/
theorem bare_forms_accepted :
    parseIndex bareFormats bareIndex = .ok [⟨"rec-1", 1, bareHash, 7342067⟩] ∧
      ¬ExactIndex bareFormats bareIndex ∧
      parsePointer bareFormats barePointerText.toUTF8.toList = .ok barePointer ∧
      ¬ExactPointer bareFormats barePointerText.toUTF8.toList := by
  have index : parseIndex bareFormats bareIndex = .ok [⟨"rec-1", 1, bareHash, 7342067⟩] := by
    decide +kernel
  have pointer : parsePointer bareFormats barePointerText.toUTF8.toList = .ok barePointer := by
    decide +kernel
  refine ⟨index, ?_, pointer, ?_⟩
  · intro exact_
    obtain ⟨⟨raws, same, -, each⟩, -⟩ := (exact_.accepts _).mp index
    cases same
    obtain ⟨members, object, -⟩ := (List.forall₂_cons.mp each).1.object
    cases object
  · intro exact_
    obtain ⟨-, -, members, object, -⟩ := exact_ barePointer pointer
    have array : bareFormats.json barePointerText.toUTF8.toList =
        .ok (.array (barePointer.toMembers.map Prod.snd)) := if_pos rfl
    rw [array] at object
    cases object

end Bare

end TdfIrohS3
