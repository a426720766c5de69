import Mathlib.Data.List.AList

namespace TdfIrohS3.Library

/-- A finite map, as a hash map or an object store keeps one: at most one value under a key. -/
def Table (Key Value : Type) : Type := AList fun _ : Key => Value

namespace Table

variable {Key Value : Type}

def empty : Table Key Value := (∅ : AList fun _ : Key => Value)

instance : Inhabited (Table Key Value) := ⟨empty⟩

def pairs (table : Table Key Value) : List (Key × Value) :=
  table.entries.map fun entry => (entry.1, entry.2)

def values (table : Table Key Value) : List Value := table.entries.map fun entry => entry.2

def keys (table : Table Key Value) : List Key := AList.keys table

def len (table : Table Key Value) : Nat := table.entries.length

def retain (table : Table Key Value) (keep : Key → Value → Bool) : Table Key Value :=
  ⟨table.entries.filter fun entry => keep entry.1 entry.2,
    List.NodupKeys.sublist List.filter_sublist table.nodupKeys⟩

@[simp] theorem len_empty : (empty : Table Key Value).len = 0 := rfl

theorem len_eq_length_keys (table : Table Key Value) : table.len = table.keys.length :=
  (List.length_map _).symm

theorem length_pairs (table : Table Key Value) : table.pairs.length = table.len := List.length_map _

theorem len_retain_le (table : Table Key Value) (keep : Key → Value → Bool) :
    (table.retain keep).len ≤ table.len :=
  List.length_filter_le _ _

variable [DecidableEq Key]

def get (table : Table Key Value) (key : Key) : Option Value := AList.lookup key table

def insert (table : Table Key Value) (key : Key) (value : Value) : Table Key Value :=
  AList.insert key value table

def ofPairs (pairs : List (Key × Value)) : Table Key Value :=
  pairs.foldl (fun table pair => table.insert pair.1 pair.2) empty

def remove (table : Table Key Value) (key : Key) : Table Key Value := AList.erase key table

def contains (table : Table Key Value) (key : Key) : Bool := (table.get key).isSome

@[simp] theorem get_empty (key : Key) : (empty : Table Key Value).get key = none := rfl

@[simp] theorem get_insert_self (table : Table Key Value) (key : Key) (value : Value) :
    (table.insert key value).get key = some value :=
  AList.lookup_insert table

theorem isSome_get_insert_self (table : Table Key Value) (key : Key) (value : Value) :
    ((table.insert key value).get key).isSome = true := by
  rw [get_insert_self]
  rfl

theorem get_insert_of_ne (table : Table Key Value) {key other : Key} (value : Value)
    (different : other ≠ key) : (table.insert key value).get other = table.get other :=
  AList.lookup_insert_ne different

theorem get_insert (table : Table Key Value) (key other : Key) (value : Value) :
    (table.insert key value).get other = if other = key then some value else table.get other := by
  split
  · rename_i same
    rw [same, get_insert_self]
  · rename_i different
    exact get_insert_of_ne table value different

theorem contains_of_get {table : Table Key Value} {key : Key} {value : Value}
    (found : table.get key = some value) : table.contains key = true := by
  rw [contains, found]
  rfl

theorem contains_insert_of_ne (table : Table Key Value) {key other : Key} (value : Value)
    (different : other ≠ key) : (table.insert key value).contains other = table.contains other := by
  rw [contains, get_insert_of_ne table value different]
  rfl

theorem contains_insert_iff (table : Table Key Value) (key other : Key) (value : Value) :
    (table.insert key value).contains other = true ↔ other = key ∨ table.contains other = true := by
  by_cases same : other = key
  · rw [same]
    exact iff_of_true (isSome_get_insert_self table key value) (.inl rfl)
  · rw [contains_insert_of_ne table value same, or_iff_right same]

theorem contains_insert_self (table : Table Key Value) (key : Key) (value : Value) :
    (table.insert key value).contains key = true :=
  isSome_get_insert_self table key value

theorem contains_insert_of_contains {table : Table Key Value} {other : Key} (key : Key)
    (value : Value) (present : table.contains other = true) :
    (table.insert key value).contains other = true :=
  (contains_insert_iff table key other value).mpr (.inr present)

@[simp] theorem get_remove_self (table : Table Key Value) (key : Key) :
    (table.remove key).get key = none :=
  AList.lookup_erase key table

theorem get_remove_of_ne (table : Table Key Value) {key other : Key} (different : other ≠ key) :
    (table.remove key).get other = table.get other :=
  AList.lookup_erase_ne different

theorem get_remove (table : Table Key Value) (key other : Key) :
    (table.remove key).get other = if other = key then none else table.get other := by
  split
  · rename_i same
    rw [same, get_remove_self]
  · rename_i different
    exact get_remove_of_ne table different

theorem contains_remove_iff (table : Table Key Value) (key other : Key) :
    (table.remove key).contains other = true ↔ other ≠ key ∧ table.contains other = true := by
  rw [contains, get_remove]
  by_cases same : other = key
  · simp [same]
  · rw [if_neg same, and_iff_right same]
    rfl

theorem get_eq_some_iff (table : Table Key Value) (key : Key) (value : Value) :
    table.get key = some value ↔ ⟨key, value⟩ ∈ table.entries :=
  AList.mem_lookup_iff

theorem mem_pairs_iff (table : Table Key Value) (pair : Key × Value) :
    pair ∈ table.pairs ↔ table.get pair.1 = some pair.2 := by
  rw [get_eq_some_iff, pairs, List.mem_map]
  constructor
  · rintro ⟨entry, member, rfl⟩
    exact member
  · intro member
    exact ⟨⟨pair.1, pair.2⟩, member, rfl⟩

theorem mem_keys_iff (table : Table Key Value) (key : Key) :
    key ∈ table.keys ↔ table.contains key = true :=
  AList.mem_keys.symm.trans AList.lookup_isSome.symm

theorem mem_values_iff (table : Table Key Value) (value : Value) :
    value ∈ table.values ↔ ∃ key, table.get key = some value := by
  rw [values, List.mem_map]
  constructor
  · rintro ⟨⟨key, _⟩, member, rfl⟩
    exact ⟨key, (get_eq_some_iff table key _).mpr member⟩
  · rintro ⟨key, found⟩
    exact ⟨⟨key, value⟩, (get_eq_some_iff table key value).mp found, rfl⟩

theorem get_retain_eq_some_iff (table : Table Key Value) (keep : Key → Value → Bool) (key : Key)
    (value : Value) :
    (table.retain keep).get key = some value ↔
      table.get key = some value ∧ keep key value = true := by
  rw [get_eq_some_iff, get_eq_some_iff]
  exact List.mem_filter

theorem get_retain_of_keep (table : Table Key Value) {keep : Key → Value → Bool} {key : Key}
    {value : Value} (found : table.get key = some value) (kept : keep key value = true) :
    (table.retain keep).get key = some value :=
  (get_retain_eq_some_iff table keep key value).mpr ⟨found, kept⟩

theorem retain_eq_self {table : Table Key Value} {keep : Key → Value → Bool}
    (kept : ∀ key value, table.get key = some value → keep key value = true) :
    table.retain keep = table := by
  apply AList.ext
  apply List.filter_eq_self.mpr
  intro entry member
  exact kept entry.1 entry.2 ((get_eq_some_iff table _ _).mpr member)

section Length

theorem keys_remove (table : Table Key Value) (key : Key) :
    (table.remove key).keys = table.keys.erase key :=
  AList.keys_erase key table

theorem len_remove_le (table : Table Key Value) (key : Key) : (table.remove key).len ≤ table.len := by
  rw [len_eq_length_keys, len_eq_length_keys, keys_remove]
  exact List.length_erase_le

theorem len_remove_of_contains {table : Table Key Value} {key : Key}
    (present : table.contains key = true) : (table.remove key).len + 1 = table.len := by
  rw [len_eq_length_keys, len_eq_length_keys, keys_remove]
  exact List.length_erase_add_one ((mem_keys_iff table key).mpr present)

theorem len_remove_of_absent {table : Table Key Value} {key : Key}
    (absent : table.contains key = false) : (table.remove key).len = table.len := by
  have outside : key ∉ table.keys := by
    intro member
    rw [mem_keys_iff, absent] at member
    cases member
  rw [len_eq_length_keys, len_eq_length_keys, keys_remove, List.erase_of_not_mem outside]

theorem len_insert (table : Table Key Value) (key : Key) (value : Value) :
    (table.insert key value).len = (table.remove key).len + 1 := rfl

theorem len_insert_le (table : Table Key Value) (key : Key) (value : Value) :
    (table.insert key value).len ≤ table.len + 1 := by
  rw [len_insert]
  exact Nat.succ_le_succ (len_remove_le table key)

theorem len_insert_of_absent {table : Table Key Value} {key : Key} (value : Value)
    (absent : table.contains key = false) : (table.insert key value).len = table.len + 1 := by
  rw [len_insert, len_remove_of_absent absent]

theorem len_insert_of_contains {table : Table Key Value} {key : Key} (value : Value)
    (present : table.contains key = true) : (table.insert key value).len = table.len := by
  rw [len_insert, len_remove_of_contains present]

theorem len_insert_cleared {table : Table Key Value} {capacity : Nat} (room : 0 < capacity)
    (key : Key) (value : Value) :
    ((if table.len ≥ capacity then empty else table).insert key value).len ≤ capacity := by
  have added := len_insert_le (if table.len ≥ capacity then empty else table) key value
  split
  · rename_i full
    rw [if_pos full, len_empty] at added
    exact Nat.le_trans added room
  · rename_i space
    rw [if_neg space] at added
    exact Nat.le_trans added (Nat.succ_le_of_lt (Nat.lt_of_not_le space))

end Length

theorem mem_of_get_foldl_insert (pairs : List (Key × Value)) (table : Table Key Value) {key : Key}
    {value : Value}
    (found : (pairs.foldl (fun table pair => table.insert pair.1 pair.2) table).get key = some value) :
    (key, value) ∈ pairs ∨ table.get key = some value := by
  induction pairs generalizing table with
  | nil => exact .inr found
  | cons pair rest ih =>
      rcases ih (table.insert pair.1 pair.2) found with later | here
      · exact .inl (List.mem_cons_of_mem _ later)
      · rw [get_insert] at here
        split at here
        · rename_i same
          cases here
          exact .inl (same ▸ List.mem_cons_self)
        · exact .inr here

theorem mem_of_get_ofPairs {pairs : List (Key × Value)} {key : Key} {value : Value}
    (found : (ofPairs pairs).get key = some value) : (key, value) ∈ pairs := by
  rcases mem_of_get_foldl_insert pairs empty found with member | absent
  · exact member
  · rw [get_empty] at absent
    cases absent

end Table

end TdfIrohS3.Library
