import Mathlib.Data.List.Forall2
import Mathlib.Data.List.Nodup
import Mathlib.Data.List.Perm.Basic

namespace TdfIrohS3.Library

section Pairs

variable {Key Value : Type} [DecidableEq Key] {pairs : List (Key × Value)} {key : Key} {value : Value}

theorem mem_of_lookup (found : pairs.lookup key = some value) : (key, value) ∈ pairs := by
  obtain ⟨front, back, rfl, -⟩ := List.lookup_eq_some_iff.mp found
  exact List.mem_append_right _ List.mem_cons_self

theorem lookup_of_mem (distinct : (pairs.map Prod.fst).Nodup) (member : (key, value) ∈ pairs) :
    pairs.lookup key = some value := by
  obtain ⟨front, back, rfl⟩ := List.append_of_mem member
  refine List.lookup_eq_some_iff.mpr ⟨front, back, rfl, ?_⟩
  intro pair before
  rw [List.map_append, List.map_cons] at distinct
  have apart := (List.nodup_append.mp distinct).2.2 pair.1 (List.mem_map_of_mem before) key
    List.mem_cons_self
  simpa using apart.symm

theorem lookup_perm {other : List (Key × Value)} (distinct : (pairs.map Prod.fst).Nodup)
    (same : pairs.Perm other) (key : Key) : pairs.lookup key = other.lookup key := by
  have distinct' : (other.map Prod.fst).Nodup := (same.map Prod.fst).nodup_iff.mp distinct
  apply Option.ext
  intro value
  constructor
  · intro found
    exact lookup_of_mem distinct' (same.mem_iff.mp (mem_of_lookup found))
  · intro found
    exact lookup_of_mem distinct (same.mem_iff.mpr (mem_of_lookup found))

theorem mapM_eq_some_iff {α β : Type} {find : α → Option β} {items : List α} {found : List β} :
    items.mapM find = some found ↔
      List.Forall₂ (fun item value => find item = some value) items found := by
  induction items generalizing found with
  | nil =>
      rw [List.mapM_nil, List.forall₂_nil_left_iff]
      exact ⟨fun same => (Option.some.inj same).symm, fun same => by rw [same]; rfl⟩
  | cons item rest ih =>
      rw [List.mapM_cons]
      simp only [bind, Option.bind_eq_some_iff, pure, Option.some.injEq, List.forall₂_cons_left_iff,
        ih]
      constructor
      · rintro ⟨value, here, values, later, rfl⟩
        exact ⟨value, values, here, later, rfl⟩
      · rintro ⟨value, values, here, later, rfl⟩
        exact ⟨value, here, values, later, rfl⟩

/-- Pairs that have exactly the keys `names`, each once, are found under them as `values`. -/
theorem mapM_lookup_iff {names : List Key} {values : List Value} (once : names.Nodup) :
    ((pairs.map Prod.fst).Nodup ∧ ∀ key ∈ pairs.map Prod.fst, key ∈ names) ∧
        names.mapM (fun name => pairs.lookup name) = some values ↔
      names.length = values.length ∧ pairs.Perm (names.zip values) := by
  rw [mapM_eq_some_iff, List.forall₂_iff_zip]
  constructor
  · rintro ⟨⟨distinct, known⟩, same, each⟩
    refine ⟨same, ?_⟩
    have keys : (names.zip values).map Prod.fst = names := List.map_fst_zip (Nat.le_of_eq same)
    have apart : (names.zip values).Nodup := List.Nodup.of_map Prod.fst (keys.symm ▸ once)
    rw [List.perm_ext_iff_of_nodup (List.Nodup.of_map Prod.fst distinct) apart]
    rintro ⟨key, value⟩
    constructor
    · intro member
      have listed : key ∈ (names.zip values).map Prod.fst := by
        rw [keys]
        exact known key (List.mem_map_of_mem member)
      obtain ⟨⟨name, found⟩, inside, rfl⟩ := List.mem_map.mp listed
      have other := each inside
      rw [lookup_of_mem distinct member] at other
      cases other
      exact inside
    · intro member
      exact mem_of_lookup (each member)
  · rintro ⟨same, permuted⟩
    have keys : (names.zip values).map Prod.fst = names := List.map_fst_zip (Nat.le_of_eq same)
    have renamed : (pairs.map Prod.fst).Perm names := by
      have mapped := permuted.map Prod.fst
      rwa [keys] at mapped
    have distinct : (pairs.map Prod.fst).Nodup := renamed.nodup_iff.mpr once
    refine ⟨⟨distinct, fun key member => renamed.mem_iff.mp member⟩, same, ?_⟩
    intro name value member
    exact lookup_of_mem distinct (permuted.mem_iff.mpr member)

end Pairs

section Keys

theorem apart_cons {Key : Type} {key : Key} {rest seen grown : List Key} (unseen : key ∉ seen)
    (added : ∀ other, other ∈ grown ↔ other = key ∨ other ∈ seen) :
    (rest.Nodup ∧ ∀ other ∈ rest, other ∉ grown) ↔
      (key :: rest).Nodup ∧ ∀ other ∈ key :: rest, other ∉ seen := by
  simp only [added, List.nodup_cons, List.mem_cons, not_or, forall_eq_or_imp]
  constructor
  · rintro ⟨distinct, apart⟩
    exact ⟨⟨fun again => (apart key again).1 rfl, distinct⟩, unseen, fun other later =>
      (apart other later).2⟩
  · rintro ⟨⟨fresh, distinct⟩, -, apart⟩
    exact ⟨distinct, fun other later => ⟨fun same => fresh (same ▸ later), apart other later⟩⟩

/-- The last entry that is read wins over what was read before. -/
theorem getLast_filterMap_cons {α β : Type} (read : α → Option β) (entry : α) (rest : List α)
    (before : Option β) :
    ((entry :: rest).filterMap read).getLast?.or before =
      (rest.filterMap read).getLast?.or ((read entry).or before) := by
  rw [List.filterMap_cons]
  cases read entry with
  | none => rfl
  | some found =>
      cases later : (rest.filterMap read).getLast? with
      | none => simp [List.getLast?_eq_none_iff.mp later]
      | some last => simp [List.getLast?_cons, later]

end Keys

end TdfIrohS3.Library
