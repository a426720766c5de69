import Mathlib.Data.String.Basic
import TdfIrohS3.Library.Table
import TdfIrohS3.Library.Text

namespace TdfIrohS3.Library

/-- Several shelves of names laid out in one map: every name of a shelf has its key, and a key
belongs to one name of one shelf. -/
structure Layout (Shelf Name Key : Type) where
  key : Shelf → Name → Key
  /-- The name a key has on a shelf. -/
  under : Shelf → Key → Option Name
  under_eq_some_iff : ∀ shelf found name, under shelf found = some name ↔ found = key shelf name
  apart : ∀ one two name other, key one name = key two other → one = two

namespace Layout

variable {Shelf Name Key Value : Type} (layout : Layout Shelf Name Key)

@[simp] theorem under_key (shelf : Shelf) (name : Name) :
    layout.under shelf (layout.key shelf name) = some name :=
  (layout.under_eq_some_iff _ _ _).mpr rfl

theorem key_eq_iff {one two : Shelf} {name other : Name} :
    layout.key one name = layout.key two other ↔ one = two ∧ name = other := by
  constructor
  · intro same
    obtain rfl := layout.apart _ _ _ _ same
    have found := layout.under_key one name
    rw [same, layout.under_key] at found
    exact ⟨rfl, (Option.some.inj found).symm⟩
  · rintro ⟨rfl, rfl⟩
    rfl

section Holds

variable [DecidableEq Key] {layout} {flat : Table Key Value} {shelves : Shelf → Name → Option Value}

/-- The one map holds, under the keys of a shelf, what is on the shelf. -/
def Holds (layout : Layout Shelf Name Key) (flat : Table Key Value)
    (shelves : Shelf → Name → Option Value) : Prop :=
  ∀ shelf name, flat.get (layout.key shelf name) = shelves shelf name

theorem Holds.insert {shelves' : Shelf → Name → Option Value} (held : layout.Holds flat shelves)
    {shelf : Shelf} {name : Name} {value : Value} (written : shelves' shelf name = some value)
    (others : ∀ one other, ¬ (one = shelf ∧ other = name) → shelves' one other = shelves one other) :
    layout.Holds (flat.insert (layout.key shelf name) value) shelves' := by
  intro one other
  rw [Table.get_insert]
  by_cases same : one = shelf ∧ other = name
  · rw [if_pos (layout.key_eq_iff.mpr same), same.1, same.2, written]
  · rw [if_neg (mt layout.key_eq_iff.mp same), others one other same, held]

end Holds

section Marks

variable {mark : Shelf → String}

/-- Names after marks none of which begins another. Nothing is asked of the names. -/
def ofMarks (mark : Shelf → String)
    (apart : ∀ one two, (mark one).toList <+: (mark two).toList → one = two) :
    Layout Shelf String String where
  key shelf name := mark shelf ++ name
  under shelf key := Text.stripPrefix key (mark shelf)
  under_eq_some_iff shelf found name := Text.stripPrefix_eq_some_iff found (mark shelf) name
  apart := by
    intro one two name other same
    have texts : (mark one).toList ++ name.toList = (mark two).toList ++ other.toList := by
      rw [← String.toList_append, ← String.toList_append, same]
    have first : (mark one).toList <+: (mark two).toList ++ other.toList := ⟨_, texts⟩
    have second : (mark two).toList <+: (mark two).toList ++ other.toList := List.prefix_append _ _
    rcases List.prefix_or_prefix_of_prefix first second with shorter | longer
    · exact apart _ _ shorter
    · exact (apart _ _ longer).symm

end Marks

end Layout

end TdfIrohS3.Library
