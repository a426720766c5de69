import TdfIrohS3.Library.Text

namespace TdfIrohS3

open Library

def subjectIdBind (s : String) : String := (Text.stripPrefix s "arkavo:").getD s

/-- The canonical form used for every subject comparison. It is not idempotent: only one leading
`arkavo:` goes. -/
def canonicalSubject (sub : String) : String := subjectIdBind sub

example : canonicalSubject "arkavo:arkavo:a" = "arkavo:a" := by decide

theorem canonicalSubject_cases (s : String) :
    (∃ rest, s = "arkavo:" ++ rest ∧ canonicalSubject s = rest) ∨
      (∀ rest, s ≠ "arkavo:" ++ rest) ∧ canonicalSubject s = s := by
  unfold canonicalSubject subjectIdBind
  cases stripped : Text.stripPrefix s "arkavo:" with
  | some rest => exact .inl ⟨rest, (Text.stripPrefix_eq_some_iff ..).mp stripped, rfl⟩
  | none => exact .inr ⟨(Text.stripPrefix_eq_none_iff ..).mp stripped, rfl⟩

@[simp] theorem canonicalSubject_append (rest : String) :
    canonicalSubject ("arkavo:" ++ rest) = rest := by
  have stripped := (Text.stripPrefix_eq_some_iff ("arkavo:" ++ rest) "arkavo:" rest).mpr rfl
  rw [canonicalSubject, subjectIdBind, stripped, Option.getD_some]

theorem canonicalSubject_eq_self_iff (s : String) :
    canonicalSubject s = s ↔ ∀ rest, s ≠ "arkavo:" ++ rest := by
  rcases canonicalSubject_cases s with ⟨rest, rfl, stripped⟩ | ⟨bare, kept⟩
  · rw [stripped]
    have moved : rest ≠ "arkavo:" ++ rest := (Text.append_ne_self (by decide) rest).symm
    exact ⟨fun same => absurd same moved, fun bare => absurd rfl (bare rest)⟩
  · exact ⟨fun _ => bare, fun _ => kept⟩

/-- Canonicalising twice is canonicalising once exactly for the texts that carry at most one
prefix. -/
theorem canonicalSubject_twice_iff (s : String) :
    canonicalSubject (canonicalSubject s) = canonicalSubject s ↔
      Text.stripPrefix s "arkavo:arkavo:" = none := by
  rw [canonicalSubject_eq_self_iff, Text.stripPrefix_eq_none_iff]
  have doubled : ∀ rest, "arkavo:arkavo:" ++ rest = "arkavo:" ++ ("arkavo:" ++ rest) := by
    intro rest
    rw [← String.append_assoc]
    rfl
  rcases canonicalSubject_cases s with ⟨rest, rfl, stripped⟩ | ⟨bare, kept⟩
  · rw [stripped]
    constructor
    · intro single more same
      rw [doubled, String.append_right_inj] at same
      exact single more same
    · rintro single more rfl
      exact single more (doubled more).symm
  · rw [kept]
    constructor
    · intro _ more same
      rw [doubled] at same
      exact bare _ same
    · intro _
      exact bare

def isIdentifierChar (c : Char) : Bool :=
  Text.isAsciiAlphanumeric c || c == ':' || c == '.' || c == '_' || c == '@' || c == '-'

/-- `[A-Za-z0-9:._@-]`, from 1 to `max` bytes, never `.` and never containing `..`. -/
def validIdentifier (s : String) (max : Nat) : Bool :=
  decide (1 ≤ s.utf8ByteSize ∧ s.utf8ByteSize ≤ max) && s != "." && !Text.contains s ".." &&
    s.toList.all isIdentifierChar

def validSubject (s : String) : Bool := validIdentifier s 248

def validHash (h : String) : Bool := h.utf8ByteSize == 64 && h.toList.all Text.isHexDigit

def isLowerHexHash (s : String) : Bool :=
  s.utf8ByteSize == 64 && s.toList.all Text.isLowerHexDigit

end TdfIrohS3
