import Mathlib.Data.List.Forall2
import TdfIrohS3.Catalog.Precondition

namespace TdfIrohS3

open Library

section Grammar

def isEtagc (c : Char) : Bool :=
  c.toNat == 0x21 || (0x23 ≤ c.toNat && c.toNat ≤ 0x7E) || (0x80 ≤ c.toNat && c.toNat ≤ 0xFF)

structure EntityTag where
  weak : Bool
  chars : List Char
  valid : ∀ c ∈ chars, isEtagc c = true

namespace EntityTag

def mark (tag : EntityTag) : List Char := if tag.weak then ['W', '/'] else []

def text (tag : EntityTag) : List Char := tag.mark ++ ('"' :: tag.chars ++ ['"'])

def StrongEqual (one two : EntityTag) : Prop :=
  one.weak = false ∧ two.weak = false ∧ one.chars = two.chars

def WeakEqual (one two : EntityTag) : Prop := one.chars = two.chars

end EntityTag

def isOws (c : Char) : Bool := c == ' ' || c == '\t'

structure ListElement where
  before : List Char
  tag : Option EntityTag
  after : List Char
  blank : ∀ c ∈ before ++ after, isOws c = true

def ListElement.text (element : ListElement) : List Char :=
  element.before ++ (element.tag.map EntityTag.text).getD [] ++ element.after

inductive TagLine
  | any
  | tags (listed : List EntityTag)

/-- The spellings of a line: `*`, or a comma-separated list of entity tags. -/
inductive TagLine.Spelled : TagLine → List Char → Prop
  | any : Spelled .any ['*']
  | tags (first : ListElement) (rest : List ListElement) :
      Spelled (.tags ((first :: rest).filterMap ListElement.tag))
        (first.text ++ rest.flatMap fun element => ',' :: element.text)

end Grammar

section Evaluation

variable (lines : List TagLine) (served : Option EntityTag)

def ifMatchByRfc : Prop :=
  lines = [] ∨ ∃ tag, served = some tag ∧
    (.any ∈ lines ∨ ∃ listed, .tags listed ∈ lines ∧ ∃ one ∈ listed, one.StrongEqual tag)

def ifNoneMatchByRfc : Prop :=
  lines = [] ∨ served = none ∨ ∃ tag, served = some tag ∧
    .any ∉ lines ∧ ∀ listed, .tags listed ∈ lines → ∀ one ∈ listed, ¬one.WeakEqual tag

end Evaluation

section Served

theorem isEtagc_digit {seq : Nat} : ∀ c ∈ Nat.toDigits 10 seq, isEtagc c = true := by
  intro c member
  have range := Nat.isDigit_of_mem_toDigits (by decide) (by decide) member
  simp only [Char.isDigit, Bool.and_eq_true, decide_eq_true_eq] at range
  have low : 48 ≤ c.toNat := UInt32.le_iff_toNat_le.mp range.1
  have high : c.toNat ≤ 57 := UInt32.le_iff_toNat_le.mp range.2
  have inside : 0x23 ≤ c.toNat ∧ c.toNat ≤ 0x7E := by omega
  simp [isEtagc, inside]

def pointerTag (seq : Nat) : EntityTag := ⟨false, Nat.toDigits 10 seq, isEtagc_digit⟩

theorem pointerTag_text (seq : Nat) : (pointerTag seq).text = (pointerEtag seq).toList := by
  rw [pointerEtag_chars]
  rfl

end Served

section Characters

theorem isWhitespace_of_isOws {c : Char} (blank : isOws c = true) : Text.isWhitespace c = true := by
  simp only [isOws, Bool.or_eq_true, beq_iff_eq] at blank
  rcases blank with rfl | rfl
  · decide
  · decide

theorem quote_not_etagc : isEtagc '"' = false := by decide

theorem not_quote_of_etagc {c : Char} (valid : isEtagc c = true) : c ≠ '"' := by
  intro same
  rw [same, quote_not_etagc] at valid
  cases valid

theorem not_whitespace_of_etagc {c : Char} (valid : isEtagc c = true) (visible : c.toNat < 127) :
    Text.isWhitespace c = false := by
  have range : 0x21 ≤ c.toNat := by
    simp only [isEtagc, Bool.or_eq_true, Bool.and_eq_true, beq_iff_eq, decide_eq_true_eq] at valid
    omega
  unfold Text.isWhitespace
  simp only [Bool.or_eq_false_iff, Bool.and_eq_false_iff, decide_eq_false_iff_not, beq_eq_false_iff_ne]
  omega

theorem separator_behind {front back left right : List Char} {separator : Char}
    (absent : separator ∉ front) (same : front ++ back = left ++ separator :: right) :
    ∃ between, left = front ++ between ∧ back = between ++ separator :: right := by
  rcases List.append_eq_append_iff.mp same with ⟨between, whole, rest⟩ | ⟨between, whole, rest⟩
  · exact ⟨between, whole, rest⟩
  · cases between with
    | nil => exact ⟨[], by simpa using whole.symm, by simpa using rest.symm⟩
    | cons c between =>
        rw [List.cons_append] at rest
        have head := (List.cons.inj rest).1
        apply absurd _ absent
        rw [whole, head]
        exact List.mem_append_right _ List.mem_cons_self

theorem separator_before {front back left right : List Char} {separator : Char}
    (absent : separator ∉ back) (same : front ++ back = left ++ separator :: right) :
    ∃ between, right = between ++ back ∧ front = left ++ separator :: between := by
  have turned : back.reverse ++ front.reverse = right.reverse ++ separator :: left.reverse := by
    have reversed := congrArg List.reverse same
    simpa using reversed
  obtain ⟨between, tail, head⟩ :=
    separator_behind (fun member => absent (List.mem_reverse.mp member)) turned
  refine ⟨between.reverse, ?_, ?_⟩
  · have again := congrArg List.reverse tail
    simpa using again
  · have again := congrArg List.reverse head
    simpa using again

/-- Where the quotes of two quoted strings are the only ones, they are the same. -/
theorem quoted_unique {quote : Char} {front chars back front' chars' back' : List Char}
    (free : quote ∉ front) (inner : quote ∉ chars) (after : quote ∉ back) (inner' : quote ∉ chars')
    (same : front ++ quote :: (chars ++ quote :: back) =
      front' ++ quote :: (chars' ++ quote :: back')) :
    front' = front ∧ chars' = chars ∧ back' = back := by
  obtain ⟨between, begins, rest⟩ := separator_behind free same
  cases between with
  | nil =>
      rw [List.append_nil] at begins
      rw [List.nil_append, List.cons.injEq] at rest
      obtain ⟨between, grows, ends⟩ := separator_behind inner rest.2
      cases between with
      | nil =>
          rw [List.append_nil] at grows
          rw [List.nil_append, List.cons.injEq] at ends
          exact ⟨begins, grows, ends.2.symm⟩
      | cons c between =>
          have head : quote = c := (List.cons.inj ends).1
          apply absurd _ inner'
          rw [grows, head]
          exact List.mem_append_right _ List.mem_cons_self
  | cons c between =>
      -- a later first quote would leave two quotes for the back
      have tail := (List.cons.inj rest).2
      obtain ⟨more, -, ends⟩ := separator_behind inner tail
      apply absurd _ after
      cases more with
      | nil =>
          have found := (List.cons.inj ends).2
          rw [found]
          simp
      | cons d more =>
          have found := (List.cons.inj ends).2
          rw [found]
          simp

end Characters

section Element

variable {element : ListElement} {tag : EntityTag}

theorem ListElement.text_eq (named : element.tag = some tag) :
    element.text = (element.before ++ tag.mark) ++ '"' :: (tag.chars ++ '"' :: element.after) := by
  simp [ListElement.text, named, EntityTag.text]

theorem ListElement.blank_before : ∀ c ∈ element.before, Text.isWhitespace c = true := by
  intro c member
  exact isWhitespace_of_isOws (element.blank c (List.mem_append_left _ member))

theorem ListElement.blank_after : ∀ c ∈ element.after, Text.isWhitespace c = true := by
  intro c member
  exact isWhitespace_of_isOws (element.blank c (List.mem_append_right _ member))

theorem notMem_of_blank {c : Char} {chars : List Char} (solid : Text.isWhitespace c = false)
    (blank : ∀ c ∈ chars, Text.isWhitespace c = true) : c ∉ chars := by
  intro member
  rw [blank c member] at solid
  cases solid

theorem mark_cases (tag : EntityTag) :
    (tag.weak = false ∧ tag.mark = []) ∨ (tag.weak = true ∧ tag.mark = ['W', '/']) := by
  cases weak : tag.weak <;> simp [EntityTag.mark, weak]

theorem quote_notMem_mark (tag : EntityTag) : '"' ∉ tag.mark := by
  rcases mark_cases tag with ⟨-, mark⟩ | ⟨-, mark⟩ <;> simp [mark]

theorem comma_notMem_mark (tag : EntityTag) : ',' ∉ tag.mark := by
  rcases mark_cases tag with ⟨-, mark⟩ | ⟨-, mark⟩ <;> simp [mark]

theorem quote_notMem_chars (tag : EntityTag) : '"' ∉ tag.chars := by
  intro member
  exact not_quote_of_etagc (tag.valid _ member) rfl

theorem quote_notMem_front : '"' ∉ element.before ++ tag.mark := by
  rw [List.mem_append, not_or]
  exact ⟨notMem_of_blank (by decide) element.blank_before, quote_notMem_mark tag⟩

/-- A piece of an element that trims to a quoted string is the element's tag: no comma can have split
the tag, since the piece has both quotes. -/
theorem piece_quoted (named : element.tag = some tag) {piece mark chars : List Char}
    (member : piece ∈ Text.splitChars ',' element.text) (inner : '"' ∉ chars)
    (trimmed : Text.trimChars piece = mark ++ ('"' :: chars ++ ['"'])) :
    tag.chars = chars ∧ (mark = [] → tag.weak = false) := by
  obtain ⟨left, right, whole, begins, -⟩ := Text.mem_splitChars member
  obtain ⟨before, after, padded, blank, -⟩ := Text.trimChars_places piece
  rw [trimmed] at padded
  have same : (element.before ++ tag.mark) ++ '"' :: (tag.chars ++ '"' :: element.after) =
      (left ++ before ++ mark) ++ '"' :: (chars ++ '"' :: (after ++ right)) := by
    rw [← ListElement.text_eq named, whole, padded]
    simp
  obtain ⟨front, equal, -⟩ := quoted_unique quote_notMem_front (quote_notMem_chars tag)
    (notMem_of_blank (by decide) element.blank_after) inner same
  refine ⟨equal.symm, ?_⟩
  intro unmarked
  rcases mark_cases tag with ⟨strong, -⟩ | ⟨-, weak⟩
  · exact strong
  · -- a weak tag's mark would end a blank or follow a comma
    rw [unmarked, weak, List.append_nil] at front
    have last := congrArg List.getLast? front
    rw [List.getLast?_append, List.getLast?_append] at last
    rcases List.eq_nil_or_concat before with rfl | ⟨blanks, c, rfl⟩
    · rcases begins with rfl | ⟨more, rfl⟩
      · simp at last
      · simp at last
    · have solid := blank c (by simp)
      have slash : c = '/' := by simpa using last
      rw [slash] at solid
      exact absurd solid (by decide)

theorem piece_whole (named : element.tag = some tag) (plain : ',' ∉ tag.chars) :
    Text.splitChars ',' element.text = [element.text] ∧ Text.trimChars element.text = tag.text := by
  constructor
  · apply Text.splitChars_of_notMem
    rw [ListElement.text_eq named]
    have before : ',' ∉ element.before := notMem_of_blank (by decide) element.blank_before
    have after : ',' ∉ element.after := notMem_of_blank (by decide) element.blank_after
    simp [before, after, plain, comma_notMem_mark]
  · have text : element.text = element.before ++ tag.text ++ element.after := by
      simp [ListElement.text, named]
    rw [text]
    rcases mark_cases tag with ⟨-, mark⟩ | ⟨-, mark⟩
    · have quoted : tag.text = '"' :: tag.chars ++ ['"'] := by simp [EntityTag.text, mark]
      rw [quoted]
      exact Text.trimChars_padded tag.chars (by decide) (by decide) element.blank_before
        element.blank_after
    · have quoted : tag.text = 'W' :: ('/' :: '"' :: tag.chars) ++ ['"'] := by
        simp [EntityTag.text, mark]
      rw [quoted]
      exact Text.trimChars_padded _ (by decide) (by decide) element.blank_before
        element.blank_after

theorem first_solid {before before' rest rest' : List Char} {c c' : Char}
    (blank : ∀ c ∈ before, Text.isWhitespace c = true) (solid : Text.isWhitespace c = false)
    (blank' : ∀ c ∈ before', Text.isWhitespace c = true) (solid' : Text.isWhitespace c' = false)
    (same : before ++ c :: rest = before' ++ c' :: rest') : c = c' := by
  have dropped := congrArg (List.dropWhile Text.isWhitespace) same
  rw [List.dropWhile_append_of_pos blank, List.dropWhile_append_of_pos blank',
    List.dropWhile_cons, List.dropWhile_cons, solid, solid', if_neg Bool.false_ne_true,
    if_neg Bool.false_ne_true] at dropped
  exact (List.cons.inj dropped).1

theorem star_not_first (named : element.tag = some tag) {before rest : List Char}
    (blank : ∀ c ∈ before, Text.isWhitespace c = true) : element.text ≠ before ++ '*' :: rest := by
  intro same
  rw [ListElement.text_eq named, List.append_assoc] at same
  rcases mark_cases tag with ⟨-, mark⟩ | ⟨-, mark⟩
  · rw [mark, List.nil_append] at same
    have equal := first_solid element.blank_before (by decide) blank (by decide) same
    cases equal
  · rw [mark, List.cons_append] at same
    have equal := first_solid element.blank_before (by decide) blank (by decide) same
    cases equal

theorem star_not_last (named : element.tag = some tag) {front after : List Char}
    (blank : ∀ c ∈ after, Text.isWhitespace c = true) :
    element.text ≠ front ++ '*' :: after := by
  intro same
  have turned := congrArg List.reverse same
  rw [ListElement.text_eq named] at turned
  simp only [List.reverse_append, List.reverse_cons, List.append_assoc, List.cons_append,
    List.nil_append] at turned
  have equal := first_solid
    (fun c member => element.blank_after c (List.mem_reverse.mp member)) (by decide)
    (fun c member => blank c (List.mem_reverse.mp member)) (by decide) turned
  cases equal

/-- What stands between two commas of an element stands between them in its tag, since nothing around
the tag has a comma. -/
theorem between_commas (named : element.tag = some tag) {left piece right : List Char}
    (whole : element.text = left ++ ',' :: (piece ++ ',' :: right)) :
    ∃ start close, tag.chars = start ++ ',' :: piece ++ ',' :: close := by
  have front : ',' ∉ element.before ++ tag.mark ++ ['"'] := by
    have spaces : ',' ∉ element.before := notMem_of_blank (by decide) element.blank_before
    simp [spaces, comma_notMem_mark]
  have back : ',' ∉ '"' :: element.after := by
    have spaces : ',' ∉ element.after := notMem_of_blank (by decide) element.blank_after
    simp [spaces]
  have same : (element.before ++ tag.mark ++ ['"']) ++ (tag.chars ++ '"' :: element.after) =
      left ++ ',' :: (piece ++ ',' :: right) := by
    rw [ListElement.text_eq named] at whole
    simpa using whole
  obtain ⟨start, -, inner⟩ := separator_behind front same
  have regrouped : tag.chars ++ '"' :: element.after =
      (start ++ ',' :: piece) ++ ',' :: right := by
    simpa using inner
  obtain ⟨close, -, chars⟩ := separator_before back regrouped
  exact ⟨start, close, chars⟩

/-- A piece that trims to `*` is cut out of a visible tag that has `,*,` in it. -/
theorem piece_star (named : element.tag = some tag) (visible : ∀ c ∈ tag.chars, c.toNat < 127)
    {piece : List Char} (member : piece ∈ Text.splitChars ',' element.text)
    (trimmed : Text.trimChars piece = ['*']) : [',', '*', ','] <:+: tag.chars := by
  obtain ⟨left, right, whole, begins, ends⟩ := Text.mem_splitChars member
  obtain ⟨before, after, padded, blank, blank'⟩ := Text.trimChars_places piece
  rw [trimmed] at padded
  rcases begins with rfl | ⟨left, rfl⟩
  · apply absurd _ (star_not_first named blank)
    · exact after ++ right
    · rw [whole, padded]
      simp
  · rcases ends with rfl | ⟨right, rfl⟩
    · apply absurd _ (star_not_last named blank')
      · exact left ++ [','] ++ before
      · rw [whole, padded]
        simp
    · have between : element.text = left ++ ',' :: (piece ++ ',' :: right) := by
        rw [whole]
        simp
      obtain ⟨start, close, chars⟩ := between_commas named between
      have solid : ∀ c ∈ piece, Text.isWhitespace c = false := by
        intro c inside
        have there : c ∈ tag.chars := by
          rw [chars]
          simp [inside]
        exact not_whitespace_of_etagc (tag.valid c there) (visible c there)
      rw [Text.trimChars_solid solid] at trimmed
      refine ⟨start, close, ?_⟩
      rw [chars, trimmed]
      simp

theorem piece_empty (unnamed : element.tag = none) {piece : List Char}
    (member : piece ∈ Text.splitChars ',' element.text) : Text.trimChars piece = [] := by
  have text : element.text = element.before ++ element.after := by
    simp [ListElement.text, unnamed]
  have blank : ∀ c ∈ element.text, Text.isWhitespace c = true := by
    intro c there
    rw [text] at there
    exact isWhitespace_of_isOws (element.blank c there)
  rw [Text.splitChars_of_notMem (notMem_of_blank (by decide) blank), List.mem_singleton] at member
  rw [member]
  exact Text.trimChars_blank blank

variable {seq : Nat}

theorem comma_notMem_digits : ',' ∉ (pointerTag seq).chars := by
  intro member
  have inside : ',' ∈ (pointerEtag seq).toList := by
    rw [pointerEtag_chars]
    simp only [List.cons_append, List.mem_cons, List.mem_append]
    exact .inr (.inl member)
  exact (mem_pointerEtag inside).2.2 rfl

/-- The served tag is a piece of an element exactly when the element's tag is strongly equal to it. -/
theorem element_strong :
    (∃ piece ∈ Text.splitChars ',' element.text, Text.trimChars piece = (pointerTag seq).text) ↔
      ∃ tag, element.tag = some tag ∧ tag.StrongEqual (pointerTag seq) := by
  constructor
  · rintro ⟨piece, member, trimmed⟩
    cases named : element.tag with
    | none =>
        rw [piece_empty named member] at trimmed
        cases trimmed
    | some tag =>
        have found := piece_quoted named member (quote_notMem_chars (pointerTag seq)) trimmed
        exact ⟨tag, rfl, found.2 rfl, rfl, found.1⟩
  · rintro ⟨tag, named, strong, -, same⟩
    have plain : ',' ∉ tag.chars := by
      rw [same]
      exact comma_notMem_digits
    have whole := piece_whole named plain
    refine ⟨element.text, by rw [whole.1]; exact List.mem_cons_self, ?_⟩
    rw [whole.2, EntityTag.text, EntityTag.text, EntityTag.mark, EntityTag.mark, strong, same]
    rfl

/-- The served tag, weak or not, is a piece of an element exactly when the element's tag is weakly equal
to it. -/
theorem element_weak :
    (∃ piece ∈ Text.splitChars ',' element.text,
        Text.trimChars piece = (pointerTag seq).text ∨
          Text.trimChars piece = ['W', '/'] ++ (pointerTag seq).text) ↔
      ∃ tag, element.tag = some tag ∧ tag.WeakEqual (pointerTag seq) := by
  constructor
  · rintro ⟨piece, member, trimmed⟩
    cases named : element.tag with
    | none =>
        rw [piece_empty named member] at trimmed
        rcases trimmed with impossible | impossible <;> cases impossible
    | some tag =>
        refine ⟨tag, rfl, ?_⟩
        have inner := quote_notMem_chars (pointerTag seq)
        rcases trimmed with trimmed | trimmed
        · exact (piece_quoted named member inner trimmed).1
        · exact (piece_quoted named member inner trimmed).1
  · rintro ⟨tag, named, same⟩
    have plain : ',' ∉ tag.chars := by
      rw [same]
      exact comma_notMem_digits
    have whole := piece_whole named plain
    refine ⟨element.text, by rw [whole.1]; exact List.mem_cons_self, ?_⟩
    rw [whole.2]
    rcases mark_cases tag with ⟨-, mark⟩ | ⟨-, mark⟩
    · left
      rw [EntityTag.text, mark, same]
      rfl
    · right
      rw [EntityTag.text, mark, same]
      rfl

end Element

section Line

variable {line : TagLine} {chars : List Char} {seq : Nat}

theorem splitChars_elements (first : ListElement) (rest : List ListElement) :
    Text.splitChars ',' (first.text ++ rest.flatMap fun element => ',' :: element.text) =
      (first :: rest).flatMap fun element => Text.splitChars ',' element.text := by
  induction rest generalizing first with
  | nil => simp
  | cons second rest ih =>
      rw [List.flatMap_cons, List.cons_append, Text.splitChars_separator, ih second]
      simp only [List.flatMap_cons]

theorem line_pieces {target : List Char → Prop} {meant : EntityTag → Prop}
    (each : ∀ element : ListElement,
      (∃ piece ∈ Text.splitChars ',' element.text, target (Text.trimChars piece)) ↔
        ∃ tag, element.tag = some tag ∧ meant tag)
    (star : ¬target ['*']) (spelled : line.Spelled chars) :
    (∃ piece ∈ Text.splitChars ',' chars, target (Text.trimChars piece)) ↔
      ∃ listed, line = .tags listed ∧ ∃ tag ∈ listed, meant tag := by
  cases spelled with
  | any =>
      constructor
      · rintro ⟨piece, member, found⟩
        rw [Text.splitChars_of_notMem (by decide), List.mem_singleton] at member
        rw [member] at found
        exact absurd found star
      · rintro ⟨listed, impossible, -⟩
        cases impossible
  | tags first rest =>
      rw [splitChars_elements]
      constructor
      · rintro ⟨piece, member, found⟩
        obtain ⟨element, among, inside⟩ := List.mem_flatMap.mp member
        obtain ⟨tag, named, meaning⟩ := (each element).mp ⟨piece, inside, found⟩
        exact ⟨_, rfl, tag, List.mem_filterMap.mpr ⟨element, among, named⟩, meaning⟩
      · rintro ⟨listed, same, tag, member, meaning⟩
        cases same
        obtain ⟨element, among, named⟩ := List.mem_filterMap.mp member
        obtain ⟨piece, inside, found⟩ := (each element).mpr ⟨tag, named, meaning⟩
        exact ⟨piece, List.mem_flatMap.mpr ⟨element, among, inside⟩, found⟩

theorem line_star (spelled : line.Spelled chars) (visible : ∀ c ∈ chars, c.toNat < 127)
    (plain : ∀ listed, line = .tags listed → ∀ tag ∈ listed, ¬[',', '*', ','] <:+: tag.chars) :
    (∃ piece ∈ Text.splitChars ',' chars, Text.trimChars piece = ['*']) ↔ line = .any := by
  cases spelled with
  | any =>
      constructor
      · intro _
        rfl
      · intro _
        exact ⟨['*'], by decide, by decide⟩
  | tags first rest =>
      constructor
      · rintro ⟨piece, member, star⟩
        rw [splitChars_elements] at member
        obtain ⟨element, among, inside⟩ := List.mem_flatMap.mp member
        cases named : element.tag with
        | none =>
            rw [piece_empty named inside] at star
            cases star
        | some tag =>
            have listed : tag ∈ (first :: rest).filterMap ListElement.tag :=
              List.mem_filterMap.mpr ⟨element, among, named⟩
            have shown : ∀ c ∈ tag.chars, c.toNat < 127 := by
              intro c there
              apply visible
              have own : c ∈ element.text := by
                rw [ListElement.text_eq named]
                simp [there]
              rcases List.mem_cons.mp among with rfl | later
              · exact List.mem_append_left _ own
              · exact List.mem_append_right _
                  (List.mem_flatMap.mpr ⟨element, later, List.mem_cons_of_mem _ own⟩)
            exact absurd (piece_star named shown inside star) (plain _ rfl tag listed)
      · intro impossible
        cases impossible

end Line

section Headers

def Visible (value : String) : Prop := Headers.toStr value = some value

instance (value : String) : Decidable (Visible value) :=
  inferInstanceAs (Decidable (Headers.toStr value = some value))

theorem toStr_cases (value : String) : Visible value ∨ Headers.toStr value = none := by
  unfold Visible Headers.toStr
  split
  · exact .inl rfl
  · exact .inr rfl

theorem visible_chars {value : String} (visible : Visible value) :
    ∀ c ∈ value.toList, c.toNat < 127 := by
  intro c member
  unfold Visible Headers.toStr at visible
  split at visible
  · rename_i all
    have shown := List.all_eq_true.mp all c member
    simp only [Bool.or_eq_true, Bool.and_eq_true, decide_eq_true_eq, beq_iff_eq] at shown
    rcases shown with ⟨-, low⟩ | rfl
    · exact low
    · decide
  · cases visible

theorem mapM_toStr {values : List String} (visible : ∀ value ∈ values, Visible value) :
    values.mapM Headers.toStr = some values := by
  induction values with
  | nil => rfl
  | cons value rest ih =>
      have first : Headers.toStr value = some value := visible value List.mem_cons_self
      have later := ih fun other member => visible other (List.mem_cons_of_mem _ member)
      rw [List.mapM_cons, first, later]
      rfl

theorem mapM_toStr_none {values : List String} (hidden : ¬∀ value ∈ values, Visible value) :
    values.mapM Headers.toStr = none := by
  induction values with
  | nil => exact absurd (by simp) hidden
  | cons value rest ih =>
      rw [List.mapM_cons]
      rcases toStr_cases value with shown | none
      · have later := ih fun all => hidden (List.forall_mem_cons.mpr ⟨shown, all⟩)
        rw [show Headers.toStr value = some value from shown, later]
        rfl
      · rw [none]
        rfl

def tagPieces (values : List String) : List String :=
  values.flatMap fun value => (Text.split value ',').map Text.trim

theorem mem_tagPieces {values : List String} {text : String} :
    text ∈ tagPieces values ↔
      ∃ value ∈ values, ∃ piece ∈ Text.splitChars ',' value.toList,
        Text.trimChars piece = text.toList := by
  unfold tagPieces Text.split
  simp only [List.mem_flatMap, List.mem_map, exists_exists_and_eq_and, Text.trim,
    String.toList_ofList]
  constructor
  · rintro ⟨value, member, piece, inside, rfl⟩
    exact ⟨value, member, piece, inside, by rw [String.toList_ofList]⟩
  · rintro ⟨value, member, piece, inside, same⟩
    exact ⟨value, member, piece, inside, by rw [same, String.ofList_toList]⟩

theorem entityTags_visible {headers : Headers} {name : String} (sent : headers.getAll name ≠ [])
    (visible : ∀ value ∈ headers.getAll name, Visible value) :
    entityTags headers name = some (.ok (tagPieces (headers.getAll name))) := by
  unfold entityTags
  cases values : headers.getAll name with
  | nil => exact absurd values sent
  | cons value rest =>
      rw [values] at visible
      simp only [mapM_toStr visible]
      rfl

theorem entityTags_hidden {headers : Headers} {name : String}
    (hidden : ¬∀ value ∈ headers.getAll name, Visible value) :
    entityTags headers name = some (.error ()) := by
  unfold entityTags
  cases values : headers.getAll name with
  | nil =>
      rw [values] at hidden
      exact absurd (by simp) hidden
  | cons value rest =>
      rw [values] at hidden
      simp only [mapM_toStr_none hidden]

theorem exists_of_forall₂ {α β : Type} {spells : α → β → Prop} {shows : β → Prop} {means : α → Prop}
    {lines : List α} {values : List β} (all : List.Forall₂ spells lines values)
    (each : ∀ line ∈ lines, ∀ value ∈ values, spells line value → (shows value ↔ means line)) :
    (∃ value ∈ values, shows value) ↔ ∃ line ∈ lines, means line := by
  induction all with
  | nil => simp
  | cons spelled rest ih =>
      have first := each _ List.mem_cons_self _ List.mem_cons_self spelled
      have later := ih fun line member value member' =>
        each line (List.mem_cons_of_mem _ member) value (List.mem_cons_of_mem _ member')
      rw [List.exists_mem_cons_iff, List.exists_mem_cons_iff, first, later]

theorem strip_weak {text : String} {seq : Nat} :
    (Text.stripPrefix text "W/").getD text = pointerEtag seq ↔
      text.toList = (pointerTag seq).text ∨ text.toList = ['W', '/'] ++ (pointerTag seq).text := by
  rw [pointerTag_text]
  cases stripped : Text.stripPrefix text "W/" with
  | none =>
      have unmarked := (Text.stripPrefix_eq_none_iff text "W/").mp stripped
      simp only [Option.getD_none]
      constructor
      · intro same
        exact .inl (by rw [same])
      · rintro (same | same)
        · exact String.toList_inj.mp same
        · exact absurd (String.toList_inj.mp (by rw [same, String.toList_append]; rfl))
            (unmarked (pointerEtag seq))
  | some rest =>
      have marked := (Text.stripPrefix_eq_some_iff text "W/" rest).mp stripped
      simp only [Option.getD_some]
      rw [marked, String.toList_append]
      constructor
      · intro same
        exact .inr (by rw [same]; rfl)
      · rintro (same | same)
        · rw [pointerEtag_chars] at same
          cases same
        · exact String.toList_inj.mp (List.append_cancel_left same)

end Headers

section Preconditions

variable {headers : Headers} {name : String} {lines : List TagLine} {served : Option Nat}

def Spell (lines : List TagLine) (values : List String) : Prop :=
  List.Forall₂ (fun line value => line.Spelled value.toList) lines values

/-- No listed tag has `,*,` in it. -/
def NoStarPiece (lines : List TagLine) : Prop :=
  ∀ listed, .tags listed ∈ lines → ∀ tag ∈ listed, ¬[',', '*', ','] <:+: tag.chars

theorem Spell.nil_iff {values : List String} (spelled : Spell lines values) :
    values = [] ↔ lines = [] := by
  cases spelled <;> simp

theorem star_mem (spelled : Spell lines (headers.getAll name))
    (visible : ∀ value ∈ headers.getAll name, Visible value) (plain : NoStarPiece lines) :
    "*" ∈ tagPieces (headers.getAll name) ↔ .any ∈ lines := by
  rw [mem_tagPieces, exists_of_forall₂ spelled]
  · exact exists_eq_right
  · intro line member value inside spells
    apply line_star spells (visible_chars (visible value inside))
    intro listed same
    exact plain listed (same ▸ member)

theorem lines_pieces {target : List Char → Prop} {meant : EntityTag → Prop} {values : List String}
    (each : ∀ element : ListElement,
      (∃ piece ∈ Text.splitChars ',' element.text, target (Text.trimChars piece)) ↔
        ∃ tag, element.tag = some tag ∧ meant tag)
    (star : ¬target ['*']) (spelled : Spell lines values) :
    (∃ value ∈ values, ∃ piece ∈ Text.splitChars ',' value.toList,
        target (Text.trimChars piece)) ↔
      ∃ listed, .tags listed ∈ lines ∧ ∃ tag ∈ listed, meant tag := by
  have lifted : (∃ value ∈ values, ∃ piece ∈ Text.splitChars ',' value.toList,
        target (Text.trimChars piece)) ↔
      ∃ line ∈ lines, ∃ listed, line = .tags listed ∧ ∃ tag ∈ listed, meant tag :=
    exists_of_forall₂ spelled fun _ _ _ _ spells => line_pieces each star spells
  rw [lifted]
  constructor
  · rintro ⟨line, member, listed, rfl, found⟩
    exact ⟨listed, member, found⟩
  · rintro ⟨listed, member, found⟩
    exact ⟨_, member, listed, rfl, found⟩

theorem tag_mem (spelled : Spell lines (headers.getAll name)) {seq : Nat} :
    pointerEtag seq ∈ tagPieces (headers.getAll name) ↔
      ∃ listed, .tags listed ∈ lines ∧ ∃ one ∈ listed, one.StrongEqual (pointerTag seq) := by
  rw [mem_tagPieces, ← pointerTag_text]
  apply @lines_pieces lines (fun chars => chars = (pointerTag seq).text) _ _ _ _ spelled
  · intro element
    exact element_strong
  · intro impossible
    cases impossible

theorem weak_mem (spelled : Spell lines (headers.getAll name)) {seq : Nat} :
    (∃ text ∈ tagPieces (headers.getAll name),
        (Text.stripPrefix text "W/").getD text = pointerEtag seq) ↔
      ∃ listed, .tags listed ∈ lines ∧ ∃ one ∈ listed, one.WeakEqual (pointerTag seq) := by
  rw [← @lines_pieces lines (fun chars => chars = (pointerTag seq).text ∨
    chars = ['W', '/'] ++ (pointerTag seq).text) _ _ (fun _ => element_weak)
    (by rintro (impossible | impossible) <;> cases impossible) spelled]
  constructor
  · rintro ⟨text, member, stripped⟩
    obtain ⟨value, inside, piece, cut, same⟩ := mem_tagPieces.mp member
    rw [strip_weak, ← same] at stripped
    exact ⟨value, inside, piece, cut, stripped⟩
  · rintro ⟨value, inside, piece, cut, either⟩
    have spelt : Text.trimChars piece = (String.ofList (Text.trimChars piece)).toList :=
      String.toList_ofList.symm
    refine ⟨String.ofList (Text.trimChars piece), mem_tagPieces.mpr ⟨value, inside, piece, cut, spelt⟩,
      ?_⟩
    rw [strip_weak, ← spelt]
    exact either

theorem ifMatchHolds_iff (spelled : Spell lines (headers.getAll "if-match"))
    (plain : served ≠ none → NoStarPiece lines) :
    ifMatchHolds headers (served.map pointerEtag) = true ↔
      (∀ value ∈ headers.getAll "if-match", Visible value) ∧
        ifMatchByRfc lines (served.map pointerTag) := by
  by_cases sent : headers.getAll "if-match" = []
  · simp [ifMatchHolds, entityTags, ifMatchByRfc, sent, spelled.nil_iff.mp sent]
  · by_cases visible : ∀ value ∈ headers.getAll "if-match", Visible value
    · have lined : lines ≠ [] := fun none => sent (spelled.nil_iff.mpr none)
      rw [ifMatchHolds, entityTags_visible sent visible, and_iff_right visible]
      cases served with
      | none => simp [ifMatchByRfc, lined]
      | some seq =>
          have star := star_mem spelled visible (plain (Option.some_ne_none seq))
          have tagged := @tag_mem headers "if-match" lines spelled seq
          simp only [Option.map_some, Option.any_some, List.any_eq_true, Bool.or_eq_true, beq_iff_eq,
            and_or_left, exists_or, exists_eq_right, star, tagged, ifMatchByRfc, lined, false_or,
            Option.some.injEq, exists_eq_left']
    · rw [ifMatchHolds, entityTags_hidden visible]
      simp [visible]

theorem ifNoneMatchHolds_iff (spelled : Spell lines (headers.getAll "if-none-match"))
    (plain : served ≠ none → NoStarPiece lines) :
    ifNoneMatchHolds headers (served.map pointerEtag) = true ↔
      (∀ value ∈ headers.getAll "if-none-match", Visible value) ∧
        ifNoneMatchByRfc lines (served.map pointerTag) := by
  by_cases sent : headers.getAll "if-none-match" = []
  · simp [ifNoneMatchHolds, entityTags, ifNoneMatchByRfc, sent, spelled.nil_iff.mp sent]
  · by_cases visible : ∀ value ∈ headers.getAll "if-none-match", Visible value
    · have lined : lines ≠ [] := fun none => sent (spelled.nil_iff.mpr none)
      rw [ifNoneMatchHolds, entityTags_visible sent visible, and_iff_right visible]
      cases served with
      | none => simp [ifNoneMatchByRfc]
      | some seq =>
          have star := star_mem spelled visible (plain (Option.some_ne_none seq))
          have tagged := @weak_mem headers "if-none-match" lines spelled seq
          simp only [Option.map_some, Option.any_some, Bool.not_eq_true', Bool.eq_false_iff, ne_eq,
            List.any_eq_true, Bool.or_eq_true, beq_iff_eq, and_or_left, exists_or, exists_eq_right,
            star, tagged, ifNoneMatchByRfc, lined, false_or, reduceCtorEq, Option.some.injEq,
            exists_eq_left', not_or, not_exists, not_and]
    · rw [ifNoneMatchHolds, entityTags_hidden visible]
      simp [visible]

/-- The preconditions are evaluated as RFC 9110 says, for lines of visible ASCII without `,*,` in a tag,
which matters only where a tag is served: a line of other characters fails. -/
theorem preconditionsHold_rfc (headers : Headers) (ifMatch ifNoneMatch : List TagLine)
    (served : Option Nat) (spelled : Spell ifMatch (headers.getAll "if-match"))
    (spelled' : Spell ifNoneMatch (headers.getAll "if-none-match"))
    (plain : served ≠ none → NoStarPiece (ifMatch ++ ifNoneMatch)) :
    preconditionsHold headers (served.map pointerEtag) = true ↔
      (∀ value ∈ headers.getAll "if-match" ++ headers.getAll "if-none-match", Visible value) ∧
        ifMatchByRfc ifMatch (served.map pointerTag) ∧
        ifNoneMatchByRfc ifNoneMatch (served.map pointerTag) := by
  have one : served ≠ none → NoStarPiece ifMatch :=
    fun some listed member => plain some listed (List.mem_append_left _ member)
  have two : served ≠ none → NoStarPiece ifNoneMatch :=
    fun some listed member => plain some listed (List.mem_append_right _ member)
  rw [preconditionsHold, Bool.and_eq_true, ifMatchHolds_iff spelled one,
    ifNoneMatchHolds_iff spelled' two, List.forall_mem_append]
  constructor
  · rintro ⟨⟨visible, first⟩, visible', second⟩
    exact ⟨⟨visible, visible'⟩, first, second⟩
  · rintro ⟨⟨visible, visible'⟩, first, second⟩
    exact ⟨⟨visible, first⟩, visible', second⟩

theorem spell_one (tag : EntityTag) {value : String} (text : value.toList = tag.text) :
    Spell [.tags [tag]] [value] := by
  refine .cons ?_ .nil
  have spelled := TagLine.Spelled.tags ⟨[], some tag, [], by simp⟩ []
  rw [text]
  simpa [ListElement.text] using spelled

def sevenTag : EntityTag := ⟨false, ['7'], List.all_eq_true.mp rfl⟩

def commaTag : EntityTag := ⟨false, ['a', ',', 'b'], List.all_eq_true.mp rfl⟩

def weakTag : EntityTag := ⟨true, ['8', ','], List.all_eq_true.mp rfl⟩

def commaHeaders : Headers :=
  [("if-match", "\"a,b\" ,\tW/\"8,\""), ("if-none-match", "W/\"8,\""), ("if-match", "\"7\"")]

theorem spell_commaHeaders :
    Spell [.tags [commaTag, weakTag], .tags [sevenTag]] (commaHeaders.getAll "if-match") := by
  have two : TagLine.Spelled (.tags [commaTag, weakTag]) "\"a,b\" ,\tW/\"8,\"".toList :=
    .tags ⟨[], some commaTag, [' '], List.all_eq_true.mp rfl⟩
      [⟨['\t'], some weakTag, [], List.all_eq_true.mp rfl⟩]
  exact .cons two (spell_one _ rfl)

theorem preconditionsHold_rfc_seven :
    NoStarPiece ([.tags [commaTag, weakTag], .tags [sevenTag]] ++ [.tags [weakTag]]) ∧
      (preconditionsHold commaHeaders (some (pointerEtag 7)) = true ↔
        (∀ value ∈ commaHeaders.getAll "if-match" ++ commaHeaders.getAll "if-none-match",
          Visible value) ∧
          ifMatchByRfc [.tags [commaTag, weakTag], .tags [sevenTag]] (some (pointerTag 7)) ∧
          ifNoneMatchByRfc [.tags [weakTag]] (some (pointerTag 7))) := by
  have plain : NoStarPiece ([.tags [commaTag, weakTag], .tags [sevenTag]] ++ [.tags [weakTag]]) := by
    intro listed member tag inside
    simp only [List.cons_append, List.nil_append, List.mem_cons, TagLine.tags.injEq,
      List.not_mem_nil, or_false] at member
    rcases member with rfl | rfl | rfl <;>
      simp only [List.mem_cons, List.not_mem_nil, or_false] at inside <;>
      rcases inside with rfl | rfl <;> decide
  exact ⟨plain, preconditionsHold_rfc commaHeaders _ _ (some 7) spell_commaHeaders
    (spell_one weakTag rfl) fun _ => plain⟩

def accentTag : EntityTag := ⟨false, ['é'], List.all_eq_true.mp rfl⟩

def starTag : EntityTag := ⟨false, ['a', ',', '*', ',', 'b'], List.all_eq_true.mp rfl⟩

/-- A tag with a letter beyond ASCII makes `If-None-Match` fail where RFC 9110 lets it pass, and a tag
with `,*,` in it makes `If-Match` pass where RFC 9110 fails it. -/
theorem preconditionsHold_not_rfc :
    (Spell [.tags [accentTag]] ["\"é\""] ∧
      preconditionsHold [("if-none-match", "\"é\"")] none = false ∧
      ifMatchByRfc [] none ∧ ifNoneMatchByRfc [.tags [accentTag]] none) ∧
    Spell [.tags [starTag]] ["\"a,*,b\""] ∧
      preconditionsHold [("if-match", "\"a,*,b\"")] (some (pointerEtag 7)) = true ∧
      ¬ifMatchByRfc [.tags [starTag]] (some (pointerTag 7)) := by
  refine ⟨⟨spell_one _ rfl, by decide, .inl rfl, .inr (.inl rfl)⟩, spell_one _ rfl, by decide, ?_⟩
  rintro (none | ⟨tag, served, star | ⟨listed, member, one, inside, -, -, same⟩⟩)
  · cases none
  · simp at star
  · simp only [List.mem_singleton, TagLine.tags.injEq] at member
    rw [member, List.mem_singleton] at inside
    rw [inside, ← Option.some.inj served] at same
    exact absurd same (by decide)

end Preconditions

end TdfIrohS3
