import Mathlib.Logic.Function.Basic

namespace TdfIrohS3.Library

section Slots

variable {ι α : Type} [DecidableEq ι] {slots : ι → Option α} {id other : ι} {task found : α}

theorem held_of_fill (held : Function.update slots id (some task) other = some found) :
    other = id ∧ found = task ∨ slots other = some found := by
  by_cases same : other = id
  · rw [same, Function.update_self] at held
    exact .inl ⟨same, (Option.some.inj held).symm⟩
  · rw [Function.update_of_ne same] at held
    exact .inr held

theorem held_of_clear (held : Function.update slots id none other = some found) :
    slots other = some found := by
  by_cases same : other = id
  · rw [same, Function.update_self] at held
    cases held
  · rwa [Function.update_of_ne same] at held

/-- What an entry and its replacement have in common, every entry has as before. -/
theorem apply_update {κ β γ : Type} [DecidableEq κ] (common : β → γ) {entries : κ → β} {key : κ}
    {entry : β} (same : common entry = common (entries key)) (other : κ) :
    common (Function.update entries key entry other) = common (entries other) :=
  (Function.forall_update_iff entries fun other entry => common entry = common (entries other)).mpr
    ⟨same, fun _ _ => rfl⟩ other

end Slots

end TdfIrohS3.Library
