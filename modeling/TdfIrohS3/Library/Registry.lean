import Mathlib.Init

namespace TdfIrohS3.Library

/-- Keys that tasks take and give back: a key is listed exactly while a task has it, and no two tasks
have it. -/
structure Registry {Key Task : Type} (listed : Key → Prop) (owns : Key → Task → Prop) : Prop where
  listed_iff : ∀ key, listed key ↔ ∃ task, owns key task
  single : ∀ key one two, owns key one → owns key two → one = two

namespace Registry

variable {Key Task : Type} {listed listed' : Key → Prop} {owns owns' : Key → Task → Prop}
variable {key : Key} {task : Task}

theorem congr (registry : Registry listed owns) (sameListed : ∀ other, listed' other ↔ listed other)
    (sameOwns : ∀ other owner, owns' other owner ↔ owns other owner) : Registry listed' owns' where
  listed_iff other := by
    rw [sameListed, registry.listed_iff]
    exact exists_congr fun owner => (sameOwns other owner).symm
  single other one two first second :=
    registry.single other one two ((sameOwns other one).mp first) ((sameOwns other two).mp second)

theorem enter (registry : Registry listed owns) (task : Task) (free : ¬listed key)
    (nowListed : ∀ other, listed' other ↔ other = key ∨ listed other)
    (nowOwns : ∀ other owner, owns' other owner ↔ other = key ∧ owner = task ∨ owns other owner) :
    Registry listed' owns' where
  listed_iff other := by
    rw [nowListed, registry.listed_iff]
    constructor
    · rintro (rfl | ⟨owner, had⟩)
      · exact ⟨task, (nowOwns _ _).mpr (.inl ⟨rfl, rfl⟩)⟩
      · exact ⟨owner, (nowOwns _ _).mpr (.inr had)⟩
    · rintro ⟨owner, has⟩
      rcases (nowOwns _ _).mp has with ⟨same, -⟩ | had
      · exact .inl same
      · exact .inr ⟨owner, had⟩
  single other one two first second := by
    -- the new owner shares its key with nobody: the key was not listed
    have unowned : ∀ owner, ¬owns key owner := fun owner had =>
      free ((registry.listed_iff key).mpr ⟨owner, had⟩)
    rcases (nowOwns _ _).mp first with ⟨rfl, rfl⟩ | had
    · rcases (nowOwns _ _).mp second with ⟨-, same⟩ | had
      · exact same.symm
      · exact absurd had (unowned two)
    · rcases (nowOwns _ _).mp second with ⟨rfl, -⟩ | hadToo
      · exact absurd had (unowned one)
      · exact registry.single other one two had hadToo

theorem leave (registry : Registry listed owns) (had : owns key task)
    (only : ∀ other, owns other task → other = key)
    (nowListed : ∀ other, listed' other ↔ other ≠ key ∧ listed other)
    (nowOwns : ∀ other owner, owns' other owner ↔ owner ≠ task ∧ owns other owner) :
    Registry listed' owns' where
  listed_iff other := by
    rw [nowListed, registry.listed_iff]
    constructor
    · rintro ⟨different, owner, has⟩
      refine ⟨owner, (nowOwns _ _).mpr ⟨?_, has⟩⟩
      rintro rfl
      exact different (only other has)
    · rintro ⟨owner, has⟩
      obtain ⟨different, had'⟩ := (nowOwns _ _).mp has
      refine ⟨?_, owner, had'⟩
      rintro rfl
      exact different (registry.single other owner task had' had)
  single other one two first second :=
    registry.single other one two ((nowOwns _ _).mp first).2 ((nowOwns _ _).mp second).2

end Registry

end TdfIrohS3.Library
