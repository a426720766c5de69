import Mathlib.Data.List.TakeWhile

namespace TdfIrohS3.Library.Text

def stripPrefix (text pattern : String) : Option String :=
  if pattern.toList.isPrefixOf text.toList then
    some (String.ofList (text.toList.drop pattern.toList.length))
  else none

def stripSuffix (text pattern : String) : Option String :=
  (stripPrefix (String.ofList text.toList.reverse) (String.ofList pattern.toList.reverse)).map
    fun rest => String.ofList rest.toList.reverse

def isWhitespace (c : Char) : Bool :=
  let n := c.toNat
  (9 ≤ n && n ≤ 13) || n == 0x20 || n == 0x85 || n == 0xA0 || n == 0x1680 ||
    (0x2000 ≤ n && n ≤ 0x200A) || n == 0x2028 || n == 0x2029 || n == 0x202F || n == 0x205F ||
    n == 0x3000

def trimChars (chars : List Char) : List Char :=
  ((chars.dropWhile isWhitespace).reverse.dropWhile isWhitespace).reverse

def trim (text : String) : String := String.ofList (trimChars text.toList)

def splitChars (separator : Char) : List Char → List (List Char)
  | [] => [[]]
  | c :: rest =>
      if c = separator then [] :: splitChars separator rest
      else
        match splitChars separator rest with
        | [] => [[c]]
        | piece :: pieces => (c :: piece) :: pieces

def split (text : String) (separator : Char) : List String :=
  (splitChars separator text.toList).map String.ofList

def isAscii (c : Char) : Bool := c.toNat < 128

def isAsciiAlphanumeric (c : Char) : Bool := isAscii c && c.isAlphanum

def isLowerHexDigit (c : Char) : Bool := ('0' ≤ c && c ≤ '9') || ('a' ≤ c && c ≤ 'f')

def isHexDigit (c : Char) : Bool := isLowerHexDigit c || ('A' ≤ c && c ≤ 'F')

def toAsciiLowercase (text : String) : String := String.ofList (text.toList.map Char.toLower)

def containsChars (pattern : List Char) : List Char → Bool
  | [] => pattern.isEmpty
  | c :: rest => pattern.isPrefixOf (c :: rest) || containsChars pattern rest

def contains (text pattern : String) : Bool := containsChars pattern.toList text.toList

def isUtf8Tail (byte : UInt8) : Bool := 0x80 ≤ byte && byte ≤ 0xBF

/-- Whether bytes are UTF-8: no overlong form, no surrogate, nothing above `U+10FFFF`. -/
def validUtf8 : List UInt8 → Bool
  | [] => true
  | a :: rest =>
      if a ≤ 0x7F then validUtf8 rest
      else
        match rest with
        | [] => false
        | b :: rest =>
            if 0xC2 ≤ a && a ≤ 0xDF then isUtf8Tail b && validUtf8 rest
            else
              match rest with
              | [] => false
              | c :: rest =>
                  if 0xE0 ≤ a && a ≤ 0xEF then
                    isUtf8Tail b && (a != 0xE0 || 0xA0 ≤ b) && (a != 0xED || b ≤ 0x9F) &&
                      isUtf8Tail c && validUtf8 rest
                  else
                    match rest with
                    | [] => false
                    | d :: rest =>
                        0xF0 ≤ a && a ≤ 0xF4 && isUtf8Tail b && (a != 0xF0 || 0x90 ≤ b) &&
                          (a != 0xF4 || b ≤ 0x8F) && isUtf8Tail c && isUtf8Tail d && validUtf8 rest

theorem stripPrefix_eq_some_iff (text pattern rest : String) :
    stripPrefix text pattern = some rest ↔ text = pattern ++ rest := by
  unfold stripPrefix
  constructor
  · intro stripped
    split at stripped
    · rename_i front
      obtain ⟨tail, whole⟩ := List.isPrefixOf_iff_prefix.mp front
      rw [← whole, List.drop_left, Option.some.injEq] at stripped
      rw [← stripped, ← String.toList_inj, String.toList_append, String.toList_ofList, whole]
    · cases stripped
  · rintro rfl
    have front : pattern.toList.isPrefixOf (pattern ++ rest).toList = true := by
      rw [String.toList_append]
      exact List.isPrefixOf_iff_prefix.mpr (List.prefix_append _ _)
    rw [if_pos front, String.toList_append, List.drop_left, String.ofList_toList]

theorem stripPrefix_eq_none_iff (text pattern : String) :
    stripPrefix text pattern = none ↔ ∀ rest, text ≠ pattern ++ rest := by
  rw [Option.eq_none_iff_forall_ne_some]
  exact forall_congr' fun rest => not_congr (stripPrefix_eq_some_iff text pattern rest)

theorem append_ne_self {pattern : String} (nonempty : pattern ≠ "") (text : String) :
    pattern ++ text ≠ text := by
  intro same
  have lengths := congrArg String.length same
  rw [String.length_append] at lengths
  have empty : pattern.length = 0 := by omega
  exact nonempty (by simpa using empty)

theorem splitChars_of_notMem {separator : Char} {chars : List Char} (absent : separator ∉ chars) :
    splitChars separator chars = [chars] := by
  induction chars with
  | nil => rfl
  | cons c rest ih =>
      have different : c ≠ separator := fun same => absent (same ▸ List.mem_cons_self)
      have inner : separator ∉ rest := fun member => absent (List.mem_cons_of_mem _ member)
      simp only [splitChars, if_neg different, ih inner]

theorem trimChars_of_ends {first last : Char} (middle : List Char)
    (front : isWhitespace first = false) (back : isWhitespace last = false) :
    trimChars (first :: middle ++ [last]) = first :: middle ++ [last] := by
  have kept : (first :: middle ++ [last]).dropWhile isWhitespace = first :: middle ++ [last] := by
    simp only [List.cons_append, List.dropWhile_cons, front, Bool.false_eq_true, if_false]
  have turned : (first :: middle ++ [last]).reverse = last :: (first :: middle).reverse := by
    rw [List.reverse_append, List.reverse_singleton, List.singleton_append]
  rw [trimChars, kept, turned, List.dropWhile_cons, back, if_neg Bool.false_ne_true, ← turned,
    List.reverse_reverse]

section Pieces

variable {separator : Char}

theorem splitChars_cons (c : Char) (rest : List Char) (different : c ≠ separator)
    {piece : List Char} {pieces : List (List Char)}
    (split : splitChars separator rest = piece :: pieces) :
    splitChars separator (c :: rest) = (c :: piece) :: pieces := by
  simp only [splitChars, if_neg different, split]

theorem splitChars_ne_nil (chars : List Char) : splitChars separator chars ≠ [] := by
  cases chars with
  | nil => exact List.cons_ne_nil _ _
  | cons c rest =>
      unfold splitChars
      split
      · exact List.cons_ne_nil _ _
      · split <;> exact List.cons_ne_nil _ _

theorem splitChars_separator (left right : List Char) :
    splitChars separator (left ++ separator :: right) =
      splitChars separator left ++ splitChars separator right := by
  induction left with
  | nil => simp [splitChars]
  | cons c rest ih =>
      by_cases same : c = separator
      · rw [List.cons_append]
        simp only [splitChars, if_pos same, ih, List.cons_append]
      · obtain ⟨piece, pieces, split⟩ := List.exists_cons_of_ne_nil (splitChars_ne_nil rest)
        rw [split, List.cons_append] at ih
        rw [List.cons_append, splitChars_cons c _ same ih, splitChars_cons c _ same split,
          List.cons_append]

/-- The first piece stands at the front, every other one after a separator; each is followed by a
separator or by nothing. -/
theorem splitChars_places (chars : List Char) :
    ∃ piece pieces, splitChars separator chars = piece :: pieces ∧
      (chars = piece ∨ ∃ right, chars = piece ++ separator :: right) ∧
      ∀ other ∈ pieces, ∃ left, chars = left ++ separator :: other ∨
        ∃ right, chars = left ++ separator :: (other ++ separator :: right) := by
  induction chars with
  | nil => exact ⟨[], [], rfl, .inl rfl, by simp⟩
  | cons c rest ih =>
      obtain ⟨piece, pieces, split, front, later⟩ := ih
      have shift : ∀ other ∈ pieces, ∃ left, c :: rest = left ++ separator :: other ∨
          ∃ right, c :: rest = left ++ separator :: (other ++ separator :: right) := by
        intro other member
        obtain ⟨left, ends | ⟨right, goes⟩⟩ := later other member
        · exact ⟨c :: left, .inl (by rw [ends]; rfl)⟩
        · exact ⟨c :: left, .inr ⟨right, by rw [goes]; rfl⟩⟩
      by_cases same : c = separator
      · subst same
        refine ⟨[], piece :: pieces, ?_, .inr ⟨rest, rfl⟩, ?_⟩
        · simp only [splitChars, if_true, split]
        · intro other member
          rcases List.mem_cons.mp member with rfl | member
          · rcases front with whole | ⟨right, goes⟩
            · exact ⟨[], .inl (by rw [whole]; rfl)⟩
            · exact ⟨[], .inr ⟨right, by rw [goes]; rfl⟩⟩
          · exact shift other member
      · refine ⟨c :: piece, pieces, splitChars_cons c rest same split, ?_, shift⟩
        rcases front with whole | ⟨right, goes⟩
        · exact .inl (by rw [whole])
        · exact .inr ⟨right, by rw [goes]; rfl⟩

theorem mem_splitChars {chars piece : List Char} (member : piece ∈ splitChars separator chars) :
    ∃ left right, chars = left ++ piece ++ right ∧
      (left = [] ∨ ∃ more, left = more ++ [separator]) ∧
      (right = [] ∨ ∃ more, right = separator :: more) := by
  obtain ⟨first, pieces, split, front, later⟩ := @splitChars_places separator chars
  rw [split] at member
  rcases List.mem_cons.mp member with rfl | member
  · rcases front with whole | ⟨right, goes⟩
    · exact ⟨[], [], by simp [← whole], .inl rfl, .inl rfl⟩
    · exact ⟨[], separator :: right, goes, .inl rfl, .inr ⟨right, rfl⟩⟩
  · obtain ⟨left, ends | ⟨right, goes⟩⟩ := later piece member
    · exact ⟨left ++ [separator], [], by simp [ends], .inr ⟨left, rfl⟩, .inl rfl⟩
    · exact ⟨left ++ [separator], separator :: right, by simp [goes], .inr ⟨left, rfl⟩,
        .inr ⟨right, rfl⟩⟩

theorem containsChars_iff {word chars : List Char} :
    containsChars word chars = true ↔ word <:+: chars := by
  induction chars with
  | nil => simp [containsChars]
  | cons c rest ih =>
      rw [containsChars, Bool.or_eq_true, List.isPrefixOf_iff_prefix, ih, List.infix_cons_iff]

theorem contains_iff {text word : String} :
    contains text word = true ↔ word.toList <:+: text.toList :=
  containsChars_iff

theorem splitChars_infix {chars piece : List Char} (member : piece ∈ splitChars separator chars) :
    piece <:+: chars := by
  obtain ⟨left, right, whole, -⟩ := mem_splitChars member
  exact ⟨left, right, whole.symm⟩

/-- A word without the separator stands inside one of the pieces. -/
theorem infix_splitChars {chars word : List Char} (absent : separator ∉ word)
    (stands : word <:+: chars) : ∃ piece ∈ splitChars separator chars, word <:+: piece := by
  induction chars with
  | nil =>
      rw [List.infix_nil.mp stands]
      exact ⟨[], by simp [splitChars], List.infix_rfl⟩
  | cons c rest ih =>
      rcases List.infix_cons_iff.mp stands with front | later
      · obtain ⟨piece, pieces, split, whole | ⟨right, goes⟩, -⟩ :=
          @splitChars_places separator (c :: rest)
        · rw [split, ← whole]
          exact ⟨c :: rest, List.mem_cons_self, front.isInfix⟩
        · refine ⟨piece, by rw [split]; exact List.mem_cons_self, ?_⟩
          rw [goes] at front
          refine (List.prefix_of_prefix_length_le front (List.prefix_append _ _) ?_).isInfix
          by_contra longer
          -- otherwise the separator behind the piece is in the word
          have reached : piece ++ [separator] <+: word :=
            List.prefix_of_prefix_length_le ⟨right, by simp⟩ front (by simp; omega)
          exact absent (reached.subset (by simp))
      · obtain ⟨piece, member, inside⟩ := ih later
        by_cases same : c = separator
        · refine ⟨piece, ?_, inside⟩
          rw [splitChars, if_pos same]
          exact List.mem_cons_of_mem _ member
        · obtain ⟨first, pieces, split, -⟩ := @splitChars_places separator rest
          rw [split] at member
          rw [splitChars_cons c rest same split]
          rcases List.mem_cons.mp member with rfl | member
          · exact ⟨c :: piece, List.mem_cons_self, inside.trans (List.infix_cons List.infix_rfl)⟩
          · exact ⟨piece, List.mem_cons_of_mem _ member, inside⟩

theorem cut_inj {left right : List Char} (absent : separator ∉ left) (absent' : separator ∉ right)
    {rest rest' : List Char} (same : left ++ separator :: rest = right ++ separator :: rest') :
    left = right ∧ rest = rest' := by
  induction left generalizing right with
  | nil =>
      cases right with
      | nil => exact ⟨rfl, List.cons.inj same |>.2⟩
      | cons c tail => exact absurd (List.cons.inj same).1 (List.ne_of_not_mem_cons absent')
  | cons c tail ih =>
      cases right with
      | nil => exact absurd (List.cons.inj same).1.symm (List.ne_of_not_mem_cons absent)
      | cons c' tail' =>
          obtain ⟨head, later⟩ := List.cons.inj same
          obtain ⟨tails, rests⟩ := ih (List.not_mem_of_not_mem_cons absent)
            (List.not_mem_of_not_mem_cons absent') later
          exact ⟨by rw [head, tails], rests⟩

def everyOther {α : Type} : Bool → List α → List α
  | _, [] => []
  | true, item :: rest => item :: everyOther false rest
  | false, _ :: rest => everyOther true rest

theorem mem_everyOther_or {α : Type} {item : α} {items : List α} (member : item ∈ items) :
    item ∈ everyOther true items ∨ item ∈ everyOther false items := by
  induction items with
  | nil => cases member
  | cons first rest ih =>
      simp only [everyOther, List.mem_cons]
      rcases List.mem_cons.mp member with same | later
      · exact .inl (.inl same)
      · exact (ih later).symm.imp_left .inr

theorem mem_of_everyOther {α : Type} {item : α} {items : List α} {first : Bool}
    (member : item ∈ everyOther first items) : item ∈ items := by
  induction items generalizing first with
  | nil => cases first <;> cases member
  | cons head rest ih =>
      cases first with
      | false => exact List.mem_cons_of_mem _ (ih member)
      | true =>
          rcases List.mem_cons.mp member with same | later
          · exact same ▸ List.mem_cons_self
          · exact List.mem_cons_of_mem _ (ih later)

theorem bytes_loop (bytes : ByteArray) : ∀ left i read, bytes.size - i = left →
    ByteArray.toList.loop bytes i read = read.reverse ++ bytes.data.toList.drop i := by
  intro left
  induction left with
  | zero =>
      intro i read done
      rw [ByteArray.toList.loop, if_neg (by omega), List.drop_eq_nil_of_le, List.append_nil]
      rw [Array.length_toList, ByteArray.size_data]
      omega
  | succ left ih =>
      intro i read going
      have inside : i < bytes.size := by omega
      rw [ByteArray.toList.loop, if_pos inside, ih (i + 1) _ (by omega), List.reverse_cons,
        List.append_assoc]
      have here : i < bytes.data.toList.length := by
        rwa [Array.length_toList, ByteArray.size_data]
      rw [List.drop_eq_getElem_cons here]
      simp [ByteArray.get!, getElem!_pos, inside]

/-- A text is known by its UTF-8 bytes. -/
theorem utf8_injective : Function.Injective fun text : String => text.toUTF8.toList := by
  intro text other same
  simp only [ByteArray.toList, bytes_loop _ _ 0 [] rfl, List.reverse_nil, List.nil_append,
    List.drop_zero] at same
  exact String.toByteArray_inj.mp (ByteArray.ext (Array.toList_inj.mp same))

theorem trimChars_places (chars : List Char) :
    ∃ before after, chars = before ++ trimChars chars ++ after ∧
      (∀ c ∈ before, isWhitespace c = true) ∧ ∀ c ∈ after, isWhitespace c = true := by
  refine ⟨chars.takeWhile isWhitespace,
    ((chars.dropWhile isWhitespace).reverse.takeWhile isWhitespace).reverse, ?_, ?_, ?_⟩
  · rw [trimChars, List.append_assoc, ← List.reverse_append, List.takeWhile_append_dropWhile,
      List.reverse_reverse, List.takeWhile_append_dropWhile]
  · intro c member
    exact List.mem_takeWhile_imp member
  · intro c member
    exact List.mem_takeWhile_imp (List.mem_reverse.mp member)

/-- A text that neither starts nor ends with white space is what is left of it between white space. -/
theorem trimChars_padded {first last : Char} {before after : List Char} (middle : List Char)
    (front : isWhitespace first = false) (back : isWhitespace last = false)
    (blank : ∀ c ∈ before, isWhitespace c = true) (blank' : ∀ c ∈ after, isWhitespace c = true) :
    trimChars (before ++ (first :: middle ++ [last]) ++ after) = first :: middle ++ [last] := by
  have opened : (before ++ (first :: middle ++ [last]) ++ after).dropWhile isWhitespace =
      first :: middle ++ [last] ++ after := by
    rw [List.append_assoc, List.dropWhile_append_of_pos blank]
    simp [front]
  have closed : (first :: middle ++ [last] ++ after).reverse.dropWhile isWhitespace =
      (first :: middle ++ [last]).reverse := by
    rw [List.reverse_append, List.dropWhile_append_of_pos fun c member =>
      blank' c (List.mem_reverse.mp member)]
    simp [back]
  rw [trimChars, opened, closed, List.reverse_reverse]

theorem trimChars_blank {chars : List Char} (blank : ∀ c ∈ chars, isWhitespace c = true) :
    trimChars chars = [] := by
  rw [trimChars, List.dropWhile_eq_nil_iff.mpr blank]
  rfl

theorem dropWhile_solid {chars : List Char} (solid : ∀ c ∈ chars, isWhitespace c = false) :
    chars.dropWhile isWhitespace = chars := by
  cases chars with
  | nil => rfl
  | cons c rest =>
      rw [List.dropWhile_cons, solid c List.mem_cons_self, if_neg Bool.false_ne_true]

theorem trimChars_solid {chars : List Char} (solid : ∀ c ∈ chars, isWhitespace c = false) :
    trimChars chars = chars := by
  have turned : ∀ c ∈ chars.reverse, isWhitespace c = false := fun c member =>
    solid c (List.mem_reverse.mp member)
  rw [trimChars, dropWhile_solid solid, dropWhile_solid turned, List.reverse_reverse]

end Pieces

section Hex

def hexDigit (n : Nat) : Char := if n < 10 then Char.ofNat (48 + n) else Char.ofNat (87 + n)

def hexValue (c : Char) : Option Nat :=
  if '0' ≤ c ∧ c ≤ '9' then some (c.toNat - 48)
  else if 'a' ≤ c ∧ c ≤ 'f' then some (c.toNat - 87)
  else if 'A' ≤ c ∧ c ≤ 'F' then some (c.toNat - 55)
  else none

def hexChars : List UInt8 → List Char
  | [] => []
  | byte :: rest => hexDigit (byte.toNat / 16) :: hexDigit (byte.toNat % 16) :: hexChars rest

def hexEncode (bytes : List UInt8) : String := String.ofList (hexChars bytes)

def hexBytes : List Char → Option (List UInt8)
  | [] => some []
  | [_] => none
  | high :: low :: rest =>
      match hexValue high, hexValue low, hexBytes rest with
      | some h, some l, some bytes => some (UInt8.ofNat (16 * h + l) :: bytes)
      | _, _, _ => none

def hexDecode (text : String) : Option (List UInt8) := hexBytes text.toList

private theorem hexValue_hexDigit : ∀ n : Fin 16, hexValue (hexDigit n) = some n.val := by
  decide

theorem hexBytes_hexChars (bytes : List UInt8) : hexBytes (hexChars bytes) = some bytes := by
  induction bytes with
  | nil => rfl
  | cons byte rest ih =>
      have bound : byte.toNat < 256 := byte.toNat_lt
      have high := hexValue_hexDigit ⟨byte.toNat / 16, by omega⟩
      have low := hexValue_hexDigit ⟨byte.toNat % 16, Nat.mod_lt _ (by omega)⟩
      have whole : 16 * (byte.toNat / 16) + byte.toNat % 16 = byte.toNat := by omega
      simp only at high low
      simp only [hexChars, hexBytes, high, low, ih, whole, UInt8.ofNat_toNat]

theorem hexDecode_hexEncode (bytes : List UInt8) : hexDecode (hexEncode bytes) = some bytes := by
  rw [hexDecode, hexEncode, String.toList_ofList, hexBytes_hexChars]

theorem hexEncode_injective : Function.Injective hexEncode := by
  intro left right same
  have decoded := congrArg hexDecode same
  rwa [hexDecode_hexEncode, hexDecode_hexEncode, Option.some.injEq] at decoded

end Hex

end TdfIrohS3.Library.Text
