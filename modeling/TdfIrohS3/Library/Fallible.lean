import Mathlib.Init

namespace TdfIrohS3.Library

section Fallible

variable {ε α β : Type} {error : ε} {value : α}

theorem unless_error_ok {refused : Prop} [Decidable refused] {rest : Except ε α} :
    (if refused then .error error else rest) = .ok value ↔ ¬refused ∧ rest = .ok value := by
  split <;> simp [*]

theorem when_ok {accepted : Prop} [Decidable accepted] {rest : Except ε α} :
    (if accepted then rest else .error error) = .ok value ↔ accepted ∧ rest = .ok value := by
  split <;> simp [*]

@[simp] theorem ok_bind (found : β) (rest : β → Except ε α) : (.ok found >>= rest) = rest found := rfl

theorem bind_ok {first : Except ε β} {rest : β → Except ε α} :
    (first >>= rest) = .ok value ↔ ∃ found, first = .ok found ∧ rest found = .ok value := by
  cases first with
  | error refusal =>
      constructor
      · intro refused
        cases refused
      · rintro ⟨found, impossible, -⟩
        cases impossible
  | ok found =>
      constructor
      · intro reached
        exact ⟨found, rfl, reached⟩
      · rintro ⟨other, same, reached⟩
        cases same
        exact reached

theorem then_ok {first : Except ε Unit} {rest : Except ε α} :
    (first >>= fun _ => rest) = .ok value ↔ first = .ok () ∧ rest = .ok value := by
  rw [bind_ok]
  constructor
  · rintro ⟨_, passed, going⟩
    exact ⟨passed, going⟩
  · rintro ⟨passed, going⟩
    exact ⟨(), passed, going⟩

theorem bind_error {first : Except ε β} {rest : β → Except ε α} :
    (first >>= rest) = .error error ↔
      first = .error error ∨ ∃ found, first = .ok found ∧ rest found = .error error := by
  cases first with
  | error refusal => simp [bind, Except.bind]
  | ok found => simp [bind, Except.bind]

section MapError

variable {ε' : Type} {rename : ε → ε'}

theorem mapError_of_ok (found : α) : (Except.ok found).mapError rename = .ok found := rfl

theorem mapError_of_error (why : ε) :
    (Except.error why : Except ε α).mapError rename = .error (rename why) := rfl

theorem mapError_ok {outcome : Except ε α} :
    outcome.mapError rename = .ok value ↔ outcome = .ok value := by
  cases outcome with
  | error why => simp [mapError_of_error]
  | ok found => simp [mapError_of_ok]

end MapError

theorem ok_of_isOk {outcome : Except ε α} (succeeded : outcome.isOk = true) :
    ∃ found, outcome = .ok found := by
  cases outcome with
  | error why => cases succeeded
  | ok found => exact ⟨found, rfl⟩

theorem refused_iff {outcome : Except ε α} :
    (∃ why, outcome = .error why) ↔ ∀ found, outcome ≠ .ok found := by
  cases outcome <;> simp

end Fallible

section Fold

variable {ε σ α : Type} {read : σ → α → Except ε σ} {entries : List α} {start last : σ}

/-- In a fold that succeeds, each element was read in some state on the way. -/
theorem foldlM_read (folded : entries.foldlM read start = .ok last) :
    ∀ entry ∈ entries, ∃ before after, read before entry = .ok after := by
  induction entries generalizing start with
  | nil =>
      intro entry member
      cases member
  | cons first rest ih =>
      rw [List.foldlM_cons, bind_ok] at folded
      obtain ⟨middle, taken, onward⟩ := folded
      intro entry member
      rcases List.mem_cons.mp member with rfl | later
      · exact ⟨start, middle, taken⟩
      · exact ih onward entry later

/-- What a fold changes, some element changes. -/
theorem foldlM_changed {β : Type} (field : σ → β) {writes : α → Prop}
    (keeps : ∀ before entry after, read before entry = .ok after → ¬writes entry →
      field after = field before)
    (folded : entries.foldlM read start = .ok last) (changed : field last ≠ field start) :
    ∃ entry ∈ entries, writes entry := by
  induction entries generalizing start with
  | nil =>
      cases folded
      exact absurd rfl changed
  | cons first rest ih =>
      rw [List.foldlM_cons, bind_ok] at folded
      obtain ⟨middle, taken, onward⟩ := folded
      by_cases here : writes first
      · exact ⟨first, List.mem_cons_self, here⟩
      · have same := keeps start first middle taken here
        obtain ⟨entry, member, found⟩ := ih onward (same ▸ changed)
        exact ⟨entry, List.mem_cons_of_mem _ member, found⟩

end Fold

end TdfIrohS3.Library
