import Mathlib.Data.String.Basic

/-! Decimal numbers padded with zeros to a width: their text order is the order of the numbers. -/

namespace TdfIrohS3.Library.Decimal

def fixed : Nat → Nat → List Char
  | 0, _ => []
  | width + 1, n => fixed width (n / 10) ++ [Nat.digitChar (n % 10)]

def pad (width n : Nat) : String :=
  String.ofList (List.replicate (width - (toString n).length) '0') ++ toString n

@[simp] theorem length_fixed (width n : Nat) : (fixed width n).length = width := by
  induction width generalizing n with
  | zero => rfl
  | succ width ih => simp [fixed, ih]

theorem fixed_zero (width : Nat) : fixed width 0 = List.replicate width '0' := by
  induction width with
  | zero => rfl
  | succ width ih =>
      have last : Nat.digitChar (0 % 10) = '0' := by decide
      rw [fixed, Nat.zero_div, ih, last, List.replicate_succ']

theorem digitChar_lt_iff {d e : Nat} (small : d < 10) (small' : e < 10) :
    Nat.digitChar d < Nat.digitChar e ↔ d < e := by
  have left := Nat.toNat_digitChar_of_lt_ten small
  have right := Nat.toNat_digitChar_of_lt_ten small'
  rw [Char.lt_def, UInt32.lt_iff_toNat_lt]
  change (Nat.digitChar d).toNat < (Nat.digitChar e).toNat ↔ d < e
  omega

theorem concat_lt_iff {a b : List Char} {x y : Char} (same : a.length = b.length) :
    a ++ [x] < b ++ [y] ↔ a < b ∨ a = b ∧ x < y := by
  induction a generalizing b with
  | nil =>
      obtain rfl := List.eq_nil_of_length_eq_zero same.symm
      simp [List.cons_lt_cons_iff]
  | cons head tail ih =>
      cases b with
      | nil => cases same
      | cons head' tail' =>
          have shorter : tail.length = tail'.length := Nat.succ.inj same
          simp only [List.cons_append, List.cons_lt_cons_iff, ih shorter, List.cons.injEq]
          grind

theorem eq_of_lt_iff {a b : List Char} {m n : Nat} (less : a < b ↔ m < n) (more : b < a ↔ n < m)
    (same : a = b) : m = n := by
  subst same
  have notLess : ¬m < n := fun smaller => List.lt_irrefl a (less.mpr smaller)
  have notMore : ¬n < m := fun larger => List.lt_irrefl a (more.mpr larger)
  omega

theorem fixed_lt_iff (width : Nat) {m n : Nat} (fits : m < Nat.pow 10 width)
    (fits' : n < Nat.pow 10 width) : fixed width m < fixed width n ↔ m < n := by
  induction width generalizing m n with
  | zero =>
      have none : m = 0 := Nat.lt_one_iff.mp fits
      have none' : n = 0 := Nat.lt_one_iff.mp fits'
      simp [fixed, none, none']
  | succ width ih =>
      have power : Nat.pow 10 (width + 1) = Nat.pow 10 width * 10 := rfl
      have front : m / 10 < Nat.pow 10 width := by omega
      have front' : n / 10 < Nat.pow 10 width := by omega
      have equal : fixed width (m / 10) = fixed width (n / 10) ↔ m / 10 = n / 10 := by
        constructor
        · exact eq_of_lt_iff (ih front front') (ih front' front)
        · intro same
          rw [same]
      have last := digitChar_lt_iff (Nat.mod_lt m (by omega)) (Nat.mod_lt n (by omega))
      calc fixed (width + 1) m < fixed (width + 1) n
          ↔ m / 10 < n / 10 ∨ m / 10 = n / 10 ∧ m % 10 < n % 10 := by
            rw [fixed, fixed, concat_lt_iff (by simp), ih front front', equal, last]
        _ ↔ m < n := by omega

theorem fixed_injective (width : Nat) {m n : Nat} (fits : m < Nat.pow 10 width)
    (fits' : n < Nat.pow 10 width) (same : fixed width m = fixed width n) : m = n :=
  eq_of_lt_iff (fixed_lt_iff width fits fits') (fixed_lt_iff width fits' fits) same

theorem replicate_toDigits (width : Nat) {n : Nat} (fits : n < Nat.pow 10 (width + 1)) :
    List.replicate (width + 1 - (Nat.toDigits 10 n).length) '0' ++ Nat.toDigits 10 n =
      fixed (width + 1) n := by
  induction width generalizing n with
  | zero =>
      have digit : n < 10 := fits
      simp [Nat.toDigits_of_lt_base digit, fixed, Nat.mod_eq_of_lt digit]
  | succ width ih =>
      have power : Nat.pow 10 (width + 1 + 1) = Nat.pow 10 (width + 1) * 10 := rfl
      rw [fixed]
      by_cases digit : n < 10
      · rw [Nat.toDigits_of_lt_base digit, Nat.div_eq_of_lt digit, Nat.mod_eq_of_lt digit, fixed_zero]
        rfl
      · have more : 10 ≤ n := Nat.le_of_not_lt digit
        have front := ih (n := n / 10) (by omega)
        rw [Nat.toDigits_of_base_le (by omega) more, ← front, List.length_append,
          List.length_singleton, Nat.add_sub_add_right, List.append_assoc]

theorem pad_toList (width : Nat) {n : Nat} (fits : n < Nat.pow 10 (width + 1)) :
    (pad (width + 1) n).toList = fixed (width + 1) n := by
  have digits : (toString n).toList = Nat.toDigits 10 n := by
    rw [Nat.toString_eq_repr, Nat.repr_eq_ofList_toDigits, String.toList_ofList]
  have length : (toString n).length = (Nat.toDigits 10 n).length := by
    rw [← String.length_toList, digits]
  rw [pad, String.toList_append, String.toList_ofList, digits, length]
  exact replicate_toDigits width fits

section Integers

theorem toDigits_injective {m n : Nat} (same : Nat.toDigits 10 m = Nat.toDigits 10 n) : m = n := by
  calc m = Nat.ofDigitChars 10 (Nat.toDigits 10 m) 0 := Nat.ofDigitChars_ten_toDigits.symm
    _ = Nat.ofDigitChars 10 (Nat.toDigits 10 n) 0 := by rw [same]
    _ = n := Nat.ofDigitChars_ten_toDigits

theorem toList_toString (n : Int) :
    (toString n).toList =
      if 0 ≤ n then Nat.toDigits 10 n.toNat else '-' :: Nat.toDigits 10 (-n).toNat := by
  rw [Int.toString_eq_repr, Int.repr_eq_if]
  split
  · rw [Nat.toList_repr]
  · rw [String.toList_append, Nat.toList_repr]
    rfl

/-- A number is told by its digits up to the first character that is none. -/
theorem toDigits_injective_before {m n : Nat} {stop : Char} (plain : stop.isDigit = false)
    {left right : List Char}
    (same : Nat.toDigits 10 m ++ stop :: left = Nat.toDigits 10 n ++ stop :: right) : m = n := by
  have taken : ∀ (k : Nat) (rest : List Char),
      (Nat.toDigits 10 k ++ stop :: rest).takeWhile Char.isDigit = Nat.toDigits 10 k := by
    intro k rest
    have digits : ∀ c ∈ Nat.toDigits 10 k, c.isDigit = true := fun c member =>
      Nat.isDigit_of_mem_toDigits (by decide) (by decide) member
    rw [List.takeWhile_append_of_pos digits, List.takeWhile_cons, plain,
      if_neg Bool.false_ne_true, List.append_nil]
  have digits := congrArg (List.takeWhile Char.isDigit) same
  rw [taken, taken] at digits
  exact toDigits_injective digits

theorem toDigits_injective_after {m n : Nat} {stop : Char} (plain : stop.isDigit = false)
    {left right : List Char}
    (same : left ++ stop :: Nat.toDigits 10 m = right ++ stop :: Nat.toDigits 10 n) : m = n := by
  have taken : ∀ (k : Nat) (rest : List Char),
      (rest ++ stop :: Nat.toDigits 10 k).reverse.takeWhile Char.isDigit =
        (Nat.toDigits 10 k).reverse := by
    intro k rest
    have digits : ∀ c ∈ (Nat.toDigits 10 k).reverse, c.isDigit = true := fun c member =>
      Nat.isDigit_of_mem_toDigits (by decide) (by decide) (List.mem_reverse.mp member)
    rw [List.reverse_append, List.reverse_cons, List.append_assoc,
      List.takeWhile_append_of_pos digits, List.singleton_append, List.takeWhile_cons, plain,
      if_neg Bool.false_ne_true, List.append_nil]
  have digits := congrArg (fun text => text.reverse.takeWhile Char.isDigit) same
  simp only [taken] at digits
  exact toDigits_injective (List.reverse_injective digits)

theorem toDigits_ne_minus (m : Nat) (rest : List Char) : Nat.toDigits 10 m ≠ '-' :: rest := by
  intro same
  have first : '-' ∈ Nat.toDigits 10 m := by
    rw [same]
    exact List.mem_cons_self
  exact absurd (Nat.isDigit_of_mem_toDigits (by decide) (by decide) first) (by decide)

theorem toString_int_injective {m n : Int} (same : toString m = toString n) : m = n := by
  have chars := congrArg String.toList same
  rw [toList_toString, toList_toString] at chars
  split at chars
  · rename_i positive
    split at chars
    · rename_i positive'
      have equal := toDigits_injective chars
      omega
    · exact absurd chars (toDigits_ne_minus _ _)
  · rename_i negative
    split at chars
    · exact absurd chars.symm (toDigits_ne_minus _ _)
    · rename_i negative'
      have equal := toDigits_injective (List.cons.inj chars).2
      omega

end Integers

end TdfIrohS3.Library.Decimal
