import TdfIrohS3.Library.Table

/-! A bounded map of when each key was last recorded. A full one drops what is past an age, and the
oldest entry if it is still full. -/

namespace TdfIrohS3.Library.Recent

variable {Key : Type}

def young (age now : Nat) (table : Table Key Nat) : Table Key Nat :=
  table.retain fun _ at_ => decide (now - at_ < age)

def kept (capacity age now : Nat) (table : Table Key Nat) : Table Key Nat :=
  if table.len ≥ capacity then young age now table else table

variable [DecidableEq Key]

def isOldest (table : Table Key Nat) (key : Key) : Bool :=
  match table.get key with
  | some at_ => table.values.all fun other => decide (at_ ≤ other)
  | none => false

/-- Which entry goes: none where there is room, else an oldest one. Of several, any may go. -/
def makesRoom (capacity : Nat) (table : Table Key Nat) : Option Key → Bool
  | none => decide (table.len < capacity)
  | some key => decide (table.len ≥ capacity) && isOldest table key

def without (table : Table Key Nat) : Option Key → Table Key Nat
  | none => table
  | some key => table.remove key

def record (capacity age now : Nat) (table : Table Key Nat) (evicted : Option Key) (key : Key) :
    Table Key Nat :=
  (without (kept capacity age now table) evicted).insert key now

variable {capacity age now at_ : Nat} {table : Table Key Nat} {evicted : Option Key} {key other : Key}

theorem isOldest_iff : isOldest table key = true ↔
    ∃ at_, table.get key = some at_ ∧ ∀ other since, table.get other = some since → at_ ≤ since := by
  unfold isOldest
  split
  · rename_i at_ found
    simp only [List.all_eq_true, decide_eq_true_eq, found, Option.some.injEq, exists_eq_left']
    constructor
    · intro least other since got
      exact least since ((Table.mem_values_iff _ _).mpr ⟨other, got⟩)
    · intro least since member
      obtain ⟨other, got⟩ := (Table.mem_values_iff _ _).mp member
      exact least other since got
  · rename_i absent
    simp [absent]

omit [DecidableEq Key] in
theorem len_kept_le : (kept capacity age now table).len ≤ table.len := by
  unfold kept
  split
  · exact Table.len_retain_le _ _
  · exact Nat.le_refl _

theorem get_kept_of_young (found : table.get key = some at_) (recent : now - at_ < age) :
    (kept capacity age now table).get key = some at_ := by
  unfold kept
  split
  · exact Table.get_retain_of_keep table found (by simpa using recent)
  · exact found

omit [DecidableEq Key] in
theorem kept_of_full (full : capacity ≤ (kept capacity age now table).len) :
    kept capacity age now table = young age now table := by
  unfold kept at full ⊢
  split at full
  · rename_i reached
    rw [if_pos reached]
  · rename_i space
    exact absurd full space

theorem len_record_le (bounded : table.len ≤ capacity)
    (room : makesRoom capacity (kept capacity age now table) evicted = true) :
    (record capacity age now table evicted key).len ≤ capacity := by
  have before : (kept capacity age now table).len ≤ capacity := Nat.le_trans len_kept_le bounded
  have added := Table.len_insert_le (without (kept capacity age now table) evicted) key now
  unfold record
  cases evicted with
  | none =>
      have space : (kept capacity age now table).len < capacity := of_decide_eq_true room
      exact Nat.le_trans added space
  | some oldest =>
      obtain ⟨-, least⟩ := Bool.and_eq_true_iff.mp room
      obtain ⟨since, found, -⟩ := isOldest_iff.mp least
      have removed := Table.len_remove_of_contains (Table.contains_of_get found)
      exact Nat.le_trans added (Nat.le_trans (Nat.le_of_eq removed) before)

/-- With no eviction the limit holds exactly where there is room beside the other young entries. -/
theorem len_record_none_le_iff :
    (record capacity age now table none key).len ≤ capacity ↔
      ((young age now table).remove key).len < capacity := by
  have recent : ((young age now table).remove key).len ≤ table.len :=
    Nat.le_trans (Table.len_remove_le _ _) (Table.len_retain_le _ _)
  change ((kept capacity age now table).insert key now).len ≤ capacity ↔ _
  unfold kept
  split
  · rw [Table.len_insert]
    exact Nat.succ_le_iff
  · have added := Table.len_insert_le table key now
    constructor <;> intro <;> omega

theorem get_record_self : (record capacity age now table evicted key).get key = some now :=
  Table.get_insert_self _ _ _

/-- A young entry goes only where the map is full of young ones and none of them is older. -/
theorem full_of_evicted (bounded : table.len ≤ capacity)
    (room : makesRoom capacity (kept capacity age now table) evicted = true)
    (found : table.get other = some at_) (recent : now - at_ < age)
    (gone : (record capacity age now table evicted key).get other = none) :
    (young age now table).len = capacity ∧
      ∀ one since, (young age now table).get one = some since → at_ ≤ since := by
  have held : (kept capacity age now table).get other = some at_ := get_kept_of_young found recent
  have evicts : evicted = some other := by
    unfold record at gone
    rw [Table.get_insert] at gone
    split at gone
    · cases gone
    · cases evicted with
      | none => cases held.symm.trans gone
      | some oldest =>
          rw [without, Table.get_remove] at gone
          split at gone
          · rename_i same
            rw [same]
          · cases held.symm.trans gone
  subst evicts
  obtain ⟨full, least⟩ := Bool.and_eq_true_iff.mp room
  have reached := of_decide_eq_true full
  have same := kept_of_full reached
  obtain ⟨since, got, first⟩ := isOldest_iff.mp least
  cases held.symm.trans got
  rw [same] at reached first
  exact ⟨Nat.le_antisymm (Nat.le_trans (Table.len_retain_le _ _) bounded) reached, first⟩

end TdfIrohS3.Library.Recent
