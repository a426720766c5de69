import Mathlib.Data.List.Basic

namespace TdfIrohS3.Library

inductive Arrival (α ε : Type)
  | items (chunk : List α)
  | trouble (error : ε)
  deriving DecidableEq, Repr

def Arrival.content {α ε : Type} : Arrival α ε → List α
  | .items chunk => chunk
  | .trouble _ => []

/-- A stream that arrives in pieces of any length; `taken` is how much of it was read. -/
structure Chunked (α ε : Type) where
  arrivals : List (Arrival α ε)
  taken : Nat
  deriving DecidableEq, Repr

namespace Chunked

variable {α ε : Type}

def content (stream : Chunked α ε) : List α := stream.arrivals.flatMap Arrival.content

def read (stream : Chunked α ε) (len : Nat) : Except ε (List α) × Chunked α ε :=
  match stream.arrivals with
  | [] => (.ok [], stream)
  | .trouble error :: rest => (.error error, { stream with arrivals := rest })
  | .items chunk :: rest =>
      if chunk.length ≤ len then
        (.ok chunk, { arrivals := rest, taken := stream.taken + chunk.length })
      else
        (.ok (chunk.take len),
          { arrivals := .items (chunk.drop len) :: rest, taken := stream.taken + len })

theorem read_content {stream after : Chunked α ε} {len : Nat} {chunk : List α}
    (got : stream.read len = (.ok chunk, after)) :
    chunk.length ≤ len ∧ chunk ++ after.content = stream.content ∧
      after.taken = stream.taken + chunk.length := by
  obtain ⟨arrivals, taken⟩ := stream
  unfold read at got
  split at got
  · rename_i ended
    cases got
    exact ⟨Nat.zero_le _, rfl, rfl⟩
  · cases got
  · rename_i piece rest next
    change arrivals = _ at next
    subst next
    split at got
    · rename_i short
      cases got
      exact ⟨short, by simp [content, Arrival.content], rfl⟩
    · rename_i long
      cases got
      have cut : (piece.take len).length = len := by
        rw [List.length_take]
        omega
      refine ⟨by omega, ?_, by rw [cut]⟩
      simp [content, Arrival.content, ← List.append_assoc]

end Chunked

section Slices

variable {α : Type} {size : Nat}

private theorem toChunks_go (rest : List α) (chunk : Array α) (done : Array (List α))
    (started : 1 ≤ chunk.size) (fits : chunk.size ≤ size) :
    List.toChunks.go size rest chunk done =
      done.toList ++ (chunk.toList ++ rest.take (size - chunk.size)) ::
        (rest.drop (size - chunk.size)).toChunks size := by
  induction rest generalizing chunk done with
  | nil => simp [List.toChunks.go, List.toChunks]
  | cons item rest ih =>
      by_cases full : chunk.size = size
      · -- the chunk is closed, and the item starts the next one
        have next := ih #[item] (done.push chunk.toList) (by simp) (by simp; omega)
        have whole := ih #[item] #[] (by simp) (by simp; omega)
        have opened : (item :: rest).toChunks size = List.toChunks.go size rest #[item] #[] := by
          cases size with
          | zero => omega
          | succ n => rfl
        simp only [List.toChunks.go, full, beq_self_eq_true, if_true, Nat.sub_self, List.take_zero,
          List.drop_zero, opened, whole]
        simpa using next
      · have next := ih (chunk.push item) done (by simp) (by simp; omega)
        have left : size - chunk.size = (size - (chunk.size + 1)) + 1 := by omega
        rw [List.toChunks.go, if_neg (by simpa using full), next, left, List.take_succ_cons,
          List.drop_succ_cons]
        simp

theorem toChunks_eq (positive : 0 < size) {items : List α} (nonempty : items ≠ []) :
    items.toChunks size = items.take size :: (items.drop size).toChunks size := by
  cases items with
  | nil => exact absurd rfl nonempty
  | cons item rest =>
      obtain ⟨less, rfl⟩ := Nat.exists_eq_add_of_le' positive
      exact toChunks_go rest #[item] #[] (Nat.le_refl 1) (by simp)

theorem toChunks_induction (positive : 0 < size) {motive : List α → Prop} (nil : motive [])
    (chunk : ∀ items, items ≠ [] → motive (items.drop size) → motive items) (items : List α) :
    motive items := by
  induction hlen : items.length using Nat.strongRecOn generalizing items with
  | ind length ih =>
      cases items with
      | nil => exact nil
      | cons item rest =>
          have shorter : ((item :: rest).drop size).length < length := by
            rw [List.length_drop, hlen]
            have : 0 < length := by
              rw [← hlen]
              exact Nat.succ_pos _
            omega
          exact chunk _ (List.cons_ne_nil _ _) (ih _ shorter _ rfl)

theorem flatten_toChunks (positive : 0 < size) (items : List α) :
    (items.toChunks size).flatten = items := by
  induction items using toChunks_induction positive with
  | nil => rfl
  | chunk items nonempty ih =>
      rw [toChunks_eq positive nonempty, List.flatten_cons, ih, List.take_append_drop]

theorem length_le_of_mem_toChunks (positive : 0 < size) (items : List α) :
    ∀ chunk ∈ items.toChunks size, chunk.length ≤ size := by
  induction items using toChunks_induction positive with
  | nil => simp [List.toChunks]
  | chunk items nonempty ih =>
      intro chunk member
      rw [toChunks_eq positive nonempty] at member
      rcases List.mem_cons.mp member with rfl | later
      · exact List.length_take_le size items
      · exact ih chunk later

/-- The item at a position stands in the chunk that the position divided by the size counts. -/
theorem getElem_toChunks (positive : 0 < size) (items : List α) (place : Nat) :
    (items.toChunks size)[place / size]?.bind (fun chunk => chunk[place % size]?) =
      items[place]? := by
  induction items using toChunks_induction positive generalizing place with
  | nil => simp [List.toChunks]
  | chunk items nonempty ih =>
      rw [toChunks_eq positive nonempty]
      by_cases first : place < size
      · rw [Nat.div_eq_of_lt first, Nat.mod_eq_of_lt first]
        simp [first]
      · have onward := ih (place - size)
        have beyond : size ≤ place := Nat.le_of_not_lt first
        rw [Nat.div_eq_sub_div positive beyond, Nat.mod_eq_sub_mod beyond, List.getElem?_cons_succ,
          onward, List.getElem?_drop, Nat.add_sub_cancel' beyond]

end Slices

end TdfIrohS3.Library
