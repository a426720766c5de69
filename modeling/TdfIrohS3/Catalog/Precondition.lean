import TdfIrohS3.Http

namespace TdfIrohS3

open Library

def pointerEtag (seq : Nat) : String := "\"" ++ toString seq ++ "\""

/-- The comma-separated tags of every line of a header: `none` without one, an error when a value is
not visible ASCII. -/
def entityTags (headers : Headers) (name : String) : Option (Except Unit (List String)) :=
  match headers.getAll name with
  | [] => none
  | values =>
      match values.mapM Headers.toStr with
      | none => some (.error ())
      | some texts => some (.ok (texts.flatMap fun value => (Text.split value ',').map Text.trim))

def ifMatchHolds (headers : Headers) (served : Option String) : Bool :=
  match entityTags headers "if-match" with
  | none => true
  | some (.error ()) => false
  | some (.ok tags) => served.any fun etag => tags.any fun t => t == "*" || t == etag

def ifNoneMatchHolds (headers : Headers) (served : Option String) : Bool :=
  match entityTags headers "if-none-match" with
  | none => true
  | some (.error ()) => false
  | some (.ok tags) => !served.any fun etag =>
      tags.any fun t => t == "*" || (Text.stripPrefix t "W/").getD t == etag

def preconditionsHold (headers : Headers) (served : Option String) : Bool :=
  ifMatchHolds headers served && ifNoneMatchHolds headers served

section PointerEtag

theorem pointerEtag_chars (seq : Nat) :
    (pointerEtag seq).toList = '"' :: Nat.toDigits 10 seq ++ ['"'] := by
  simp [pointerEtag, String.toList_append, Nat.toList_repr]

theorem pointerEtag_injective : Function.Injective pointerEtag := by
  intro one two same
  have chars := congrArg String.toList same
  simp only [pointerEtag_chars, List.cons_append, List.cons.injEq, true_and] at chars
  have digits : Nat.toDigits 10 one = Nat.toDigits 10 two := List.append_cancel_right chars
  calc one = Nat.ofDigitChars 10 (Nat.toDigits 10 one) 0 := Nat.ofDigitChars_ten_toDigits.symm
    _ = Nat.ofDigitChars 10 (Nat.toDigits 10 two) 0 := by rw [digits]
    _ = two := Nat.ofDigitChars_ten_toDigits

theorem mem_pointerEtag {seq : Nat} {c : Char} (member : c ∈ (pointerEtag seq).toList) :
    32 ≤ c.toNat ∧ c.toNat < 127 ∧ c ≠ ',' := by
  rw [pointerEtag_chars] at member
  simp only [List.cons_append, List.mem_cons, List.mem_append, List.not_mem_nil, or_false] at member
  rcases member with rfl | digit | rfl
  · decide
  · have range := Nat.isDigit_of_mem_toDigits (by decide) (by decide) digit
    simp only [Char.isDigit, Bool.and_eq_true, decide_eq_true_eq] at range
    have low : 48 ≤ c.toNat := UInt32.le_iff_toNat_le.mp range.1
    have high : c.toNat ≤ 57 := UInt32.le_iff_toNat_le.mp range.2
    refine ⟨by omega, by omega, ?_⟩
    rintro rfl
    revert low
    decide
  · decide

theorem toStr_pointerEtag (seq : Nat) : Headers.toStr (pointerEtag seq) = some (pointerEtag seq) := by
  rw [Headers.toStr, if_pos]
  rw [List.all_eq_true]
  intro c member
  have visible := mem_pointerEtag member
  simp [visible.1, visible.2.1]

theorem split_pointerEtag (seq : Nat) : Text.split (pointerEtag seq) ',' = [pointerEtag seq] := by
  have noComma : ',' ∉ (pointerEtag seq).toList := fun member => (mem_pointerEtag member).2.2 rfl
  rw [Text.split, Text.splitChars_of_notMem noComma, List.map_singleton, String.ofList_toList]

theorem trim_pointerEtag (seq : Nat) : Text.trim (pointerEtag seq) = pointerEtag seq := by
  rw [Text.trim, pointerEtag_chars, Text.trimChars_of_ends _ (by decide) (by decide),
    ← pointerEtag_chars, String.ofList_toList]

theorem entityTags_pointerEtag {headers : Headers} {name : String} {seq : Nat}
    (only : headers.getAll name = [pointerEtag seq]) :
    entityTags headers name = some (.ok [pointerEtag seq]) := by
  simp [entityTags, only, toStr_pointerEtag, split_pointerEtag, trim_pointerEtag]

theorem pointerEtag_ne_star (seq : Nat) : pointerEtag seq ≠ "*" := by
  intro same
  have chars := congrArg String.toList same
  rw [pointerEtag_chars] at chars
  cases chars

end PointerEtag

theorem preconditionsHold_ifMatch {headers : Headers} {seq : Nat} {served : Option Nat}
    (only : headers.getAll "if-match" = [pointerEtag seq])
    (noOther : headers.getAll "if-none-match" = []) :
    preconditionsHold headers (served.map pointerEtag) = true ↔ served = some seq := by
  have free : ifNoneMatchHolds headers (served.map pointerEtag) = true := by
    simp [ifNoneMatchHolds, entityTags, noOther]
  rw [preconditionsHold, free, Bool.and_true, ifMatchHolds, entityTags_pointerEtag only]
  cases served with
  | none => simp
  | some current =>
      simp only [Option.map_some, Option.any_some, List.any_cons, List.any_nil, Bool.or_false,
        Bool.or_eq_true, beq_iff_eq, pointerEtag_ne_star, false_or, Option.some.injEq]
      constructor
      · intro same
        exact (pointerEtag_injective same).symm
      · intro same
        rw [same]

theorem preconditionsHold_ifNoneMatch_star {headers : Headers} {served : Option String}
    (only : headers.getAll "if-none-match" = ["*"]) (noOther : headers.getAll "if-match" = []) :
    preconditionsHold headers served = true ↔ served = none := by
  have tags : entityTags headers "if-none-match" = some (.ok ["*"]) := by
    rw [entityTags, only]
    decide
  have free : ifMatchHolds headers served = true := by
    simp [ifMatchHolds, entityTags, noOther]
  rw [preconditionsHold, free, Bool.true_and, ifNoneMatchHolds, tags]
  cases served <;> simp

end TdfIrohS3
