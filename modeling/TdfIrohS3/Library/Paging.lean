import Mathlib.Data.List.Sort
import TdfIrohS3.Library.Table

namespace TdfIrohS3.Library

/-- A listing, page by page, of the wanted keys of a map that others change between any two of its
steps. `found` is what has been read, oldest first. -/
inductive Paging (Key Value : Type)
  /-- The next page is asked for; the keys up to `after` were on earlier pages. -/
  | asking (after : Option Key) (found : List (Key × Value))
  /-- A page came. Its keys are read one by one, then the listing goes on at `next` or is over. -/
  | reading (keys : List Key) (next : Option (Option Key)) (found : List (Key × Value))
  deriving DecidableEq, Repr

namespace Paging

variable {Key Value : Type} [LinearOrder Key]

def Beyond (after : Option Key) (key : Key) : Prop := ∀ mark ∈ after, mark < key

instance (after : Option Key) (key : Key) : Decidable (Beyond after key) :=
  match after with
  | none => isTrue (by simp [Beyond])
  | some mark => decidable_of_iff (mark < key) (by simp [Beyond])

def ahead (table : Table Key Value) (wanted : Key → Bool) (after : Option Key) : List Key :=
  (table.keys.filter fun key => wanted key && decide (Beyond after key)).insertionSort (· ≤ ·)

/-- The page of at most `size` keys the map gives at this moment. It has a mark to go on from
exactly when it leaves keys out. -/
def page (table : Table Key Value) (wanted : Key → Bool) (size : Nat) (after : Option Key)
    (found : List (Key × Value)) : Paging Key Value :=
  let keys := ahead table wanted after
  .reading (keys.take size)
    (if size < keys.length then some ((keys.take size).getLast?.or after) else none) found

def start : Paging Key Value := .asking none []

inductive Advance (Key Value : Type)
  | going (paging : Paging Key Value)
  | done (found : List (Key × Value))
  /-- A listed key is no longer there to be read. -/
  | missing
  deriving DecidableEq, Repr

def advance [DecidableEq Key] (table : Table Key Value) (wanted : Key → Bool) (size : Nat) :
    Paging Key Value → Advance Key Value
  | .asking after found => .going (page table wanted size after found)
  | .reading (key :: keys) next found =>
      match table.get key with
      | some value => .going (.reading keys next (found ++ [(key, value)]))
      | none => .missing
  | .reading [] (some after) found => .going (.asking after found)
  | .reading [] none found => .done found

def found : Paging Key Value → List (Key × Value)
  | .asking _ found => found
  | .reading _ _ found => found

def pending : Paging Key Value → List Key
  | .asking _ _ => []
  | .reading keys _ _ => keys

def listed (paging : Paging Key Value) : List Key := paging.found.map Prod.fst ++ paging.pending

def Within : Option (Option Key) → Key → Prop
  | none, _ => True
  | some after, key => ¬ Beyond after key

def Reached : Paging Key Value → Key → Prop
  | .asking after _ => Within (some after)
  | .reading _ next _ => Within next

section Ahead

variable {table : Table Key Value} {wanted : Key → Bool} {after : Option Key}

theorem mem_ahead_iff [DecidableEq Key] {key : Key} :
    key ∈ ahead table wanted after ↔
      table.contains key = true ∧ wanted key = true ∧ Beyond after key := by
  rw [ahead, List.mem_insertionSort, List.mem_filter, Table.mem_keys_iff,
    Bool.and_eq_true, decide_eq_true_eq]

theorem ahead_pairwise (table : Table Key Value) (wanted : Key → Bool) (after : Option Key) :
    (ahead table wanted after).Pairwise (· < ·) := by
  have ordered : (ahead table wanted after).Pairwise (· ≤ ·) := List.pairwise_insertionSort (· ≤ ·) _
  have distinct : (ahead table wanted after).Nodup :=
    (List.perm_insertionSort _ _).nodup_iff.mpr (List.Nodup.filter _ (AList.keys_nodup table))
  exact (ordered.and distinct).imp fun both => lt_of_le_of_ne both.1 both.2

/-- Of an ascending list, the first entries are those that are not beyond the last of them. -/
theorem mem_take_iff {keys : List Key} (ordered : keys.Pairwise (· < ·)) {size : Nat}
    {mark key : Key} (last : (keys.take size).getLast? = some mark) (member : key ∈ keys) :
    key ∈ keys.take size ↔ ¬ mark < key := by
  obtain ⟨front, whole⟩ := List.getLast?_eq_some_iff.mp last
  constructor
  · intro first above
    have short := ordered.sublist (List.take_sublist size keys)
    rw [whole] at first short
    rcases List.mem_append.mp first with inner | same
    · exact lt_asymm above ((List.pairwise_append.mp short).2.2 key inner mark List.mem_cons_self)
    · exact absurd above (by simp [List.mem_singleton.mp same])
  · intro near
    rw [← List.take_append_drop size keys] at member ordered
    rcases List.mem_append.mp member with first | later
    · exact first
    · have split := (List.pairwise_append.mp ordered).2.2
      exact absurd (split mark (List.mem_of_getLast? last) key later) near

variable [DecidableEq Key] {size : Nat} {found : List (Key × Value)} {key : Key}

theorem reached_page_iff (member : key ∈ ahead table wanted after) :
    (page table wanted size after found).Reached key ↔
      key ∈ (ahead table wanted after).take size := by
  have ascending := ahead_pairwise table wanted after
  unfold page
  dsimp only
  split
  · cases last : ((ahead table wanted after).take size).getLast? with
    | none =>
        rw [List.getLast?_eq_none_iff.mp last]
        exact iff_of_false (fun near => near (mem_ahead_iff.mp member).2.2) List.not_mem_nil
    | some mark =>
        rw [mem_take_iff ascending last member]
        simp [Reached, Within, Beyond]
  · rename_i whole
    rw [List.take_of_length_le (Nat.le_of_not_lt whole)]
    exact iff_of_true trivial member

/-- A page is also about every key the earlier ones were about. -/
theorem reached_page_of_near (near : ¬ Beyond after key) :
    (page table wanted size after found).Reached key := by
  unfold page
  dsimp only
  split
  · intro beyond
    cases last : ((ahead table wanted after).take size).getLast? with
    | none =>
        rw [last] at beyond
        exact near beyond
    | some mark =>
        rw [last] at beyond
        have onPage := mem_ahead_iff.mp (List.mem_of_mem_take (List.mem_of_getLast? last))
        exact near fun old held => (onPage.2.2 old held).trans (beyond mark rfl)
  · trivial

end Ahead

/-- What a listing has got so far. `Kept` are the keys the map has held all along: none of them is
passed by. -/
structure Exact (wanted : Key → Bool) (Kept : Key → Prop) (paging : Paging Key Value) : Prop where
  ordered : paging.listed.Pairwise (· < ·)
  wanted_of_listed : ∀ key ∈ paging.listed, wanted key = true
  reached_of_listed : ∀ key ∈ paging.listed, paging.Reached key
  listed_of_kept : ∀ key, wanted key = true → Kept key → paging.Reached key → key ∈ paging.listed

namespace Exact

variable {wanted : Key → Bool} {Kept Fewer : Key → Prop} {paging : Paging Key Value}

theorem start (wanted : Key → Bool) (Kept : Key → Prop) :
    Exact wanted Kept (start : Paging Key Value) where
  ordered := List.Pairwise.nil
  wanted_of_listed := by intro key member; cases member
  reached_of_listed := by intro key member; cases member
  listed_of_kept := by
    intro key _ _ reached
    exact absurd (by intro mark none; cases none) reached

theorem mono (exact : Exact wanted Kept paging) (fewer : ∀ key, Fewer key → Kept key) :
    Exact wanted Fewer paging :=
  { exact with
    listed_of_kept := fun key want kept => exact.listed_of_kept key want (fewer key kept) }

variable [DecidableEq Key] {table : Table Key Value} {after : Option Key}
  {found : List (Key × Value)}

theorem page (exact : Exact wanted Kept (.asking after found : Paging Key Value))
    (present : ∀ key, Kept key → table.contains key = true) (size : Nat) :
    Exact wanted Kept (page table wanted size after found) := by
  have earlier : ∀ key ∈ found.map Prod.fst, ¬ Beyond after key := by
    intro key member
    exact exact.reached_of_listed key (List.mem_append_left _ member)
  constructor
  · have ascending := ahead_pairwise table wanted after
    refine List.pairwise_append.mpr ⟨?_, ascending.sublist (List.take_sublist _ _), ?_⟩
    · exact (List.pairwise_append.mp exact.ordered).1
    · intro old oldMember new newMember
      have beyond := (mem_ahead_iff.mp (List.mem_of_mem_take newMember)).2.2
      by_contra notBelow
      refine earlier old oldMember fun mark held => ?_
      exact lt_of_lt_of_le (beyond mark held) (not_lt.mp notBelow)
  · intro key member
    rcases List.mem_append.mp member with old | new
    · exact exact.wanted_of_listed key (List.mem_append_left _ old)
    · exact (mem_ahead_iff.mp (List.mem_of_mem_take new)).2.1
  · intro key member
    rcases List.mem_append.mp member with old | new
    · exact reached_page_of_near (earlier key old)
    · exact (reached_page_iff (List.mem_of_mem_take new)).mpr new
  · intro key want kept reached
    by_cases beyond : Beyond after key
    · have member := mem_ahead_iff.mpr ⟨present key kept, want, beyond⟩
      exact List.mem_append_right _ ((reached_page_iff member).mp reached)
    · rcases List.mem_append.mp (exact.listed_of_kept key want kept beyond) with old | none
      · exact List.mem_append_left _ old
      · cases none

omit [DecidableEq Key]

theorem read {key : Key} {keys : List Key} {next : Option (Option Key)} (value : Value)
    (exact : Exact wanted Kept (.reading (key :: keys) next found : Paging Key Value)) :
    Exact wanted Kept (.reading keys next (found ++ [(key, value)])) := by
  have same : (Paging.reading keys next (found ++ [(key, value)])).listed =
      (Paging.reading (key :: keys) next found).listed := by
    simp [listed, Paging.found, pending]
  constructor
  · rw [same]
    exact exact.ordered
  · rw [same]
    exact exact.wanted_of_listed
  · rw [same]
    exact exact.reached_of_listed
  · rw [same]
    exact exact.listed_of_kept

theorem goOn (exact : Exact wanted Kept (.reading [] (some after) found : Paging Key Value)) :
    Exact wanted Kept (.asking after found) :=
  ⟨exact.ordered, exact.wanted_of_listed, exact.reached_of_listed, exact.listed_of_kept⟩

/-- At its end a listing has every key that was there all along. -/
theorem mem_found_of_kept (exact : Exact wanted Kept (.reading [] none found : Paging Key Value))
    {key : Key} (want : wanted key = true) (kept : Kept key) : key ∈ found.map Prod.fst := by
  have member := exact.listed_of_kept key want kept trivial
  rwa [listed, pending, List.append_nil] at member

theorem found_pairwise (exact : Exact wanted Kept paging) :
    (paging.found.map Prod.fst).Pairwise (· < ·) :=
  (List.pairwise_append.mp exact.ordered).1

theorem wanted_of_found (exact : Exact wanted Kept paging) {pair : Key × Value}
    (member : pair ∈ paging.found) : wanted pair.1 = true :=
  exact.wanted_of_listed _ (List.mem_append_left _ (List.mem_map_of_mem member))

end Exact

section Advance

variable [DecidableEq Key] {table : Table Key Value} {wanted : Key → Bool} {size : Nat}
  {Kept : Key → Prop} {paging next : Paging Key Value} {found : List (Key × Value)}

theorem Exact.advance (exact : Exact wanted Kept paging)
    (present : ∀ key, Kept key → table.contains key = true)
    (moved : advance table wanted size paging = .going next) : Exact wanted Kept next := by
  match paging with
  | .asking after found =>
      cases moved
      exact exact.page present size
  | .reading (key :: keys) further found =>
      simp only [Paging.advance] at moved
      split at moved
      · cases moved
        exact exact.read _
      · cases moved
  | .reading [] (some after) found =>
      cases moved
      exact exact.goOn

theorem advance_done (ended : advance table wanted size paging = .done found) :
    paging = .reading [] none found := by
  match paging with
  | .asking after found => cases ended
  | .reading (key :: keys) further found =>
      simp only [Paging.advance] at ended
      split at ended <;> cases ended
  | .reading [] (some after) found => cases ended
  | .reading [] none found =>
      cases ended
      rfl

theorem mem_found_advance (moved : advance table wanted size paging = .going next)
    {pair : Key × Value} (member : pair ∈ next.found) :
    pair ∈ paging.found ∨ table.get pair.1 = some pair.2 := by
  match paging with
  | .asking after found =>
      cases moved
      exact .inl member
  | .reading (key :: keys) further found =>
      simp only [Paging.advance] at moved
      split at moved
      · rename_i value held
        cases moved
        rcases List.mem_append.mp member with old | new
        · exact .inl old
        · rw [List.mem_singleton.mp new]
          exact .inr held
      · cases moved
  | .reading [] (some after) found =>
      cases moved
      exact .inl member

end Advance

end Paging

end TdfIrohS3.Library
