import Mathlib.Data.List.TakeDrop

namespace TdfIrohS3.Library

section Stretch

variable {α : Type}

def stretch (items : List α) (place length : Nat) : List α := (items.drop place).take length

def getRange (items : List α) (start stop : Nat) : Option (List α) :=
  if start ≤ stop ∧ stop ≤ items.length then some (stretch items start (stop - start)) else none

theorem length_stretch (items : List α) (place length : Nat) :
    (stretch items place length).length = min length (items.length - place) := by
  rw [stretch, List.length_take, List.length_drop]

theorem getRange_eq_some {items : List α} {start stop : Nat} (ordered : start ≤ stop)
    (within : stop ≤ items.length) :
    getRange items start stop = some (stretch items start (stop - start)) :=
  if_pos ⟨ordered, within⟩

theorem getRange_cases (items : List α) {start stop : Nat} (ordered : start ≤ stop) :
    (stop ≤ items.length ∧ getRange items start stop = some (stretch items start (stop - start))) ∨
      (items.length < stop ∧ getRange items start stop = none) := by
  by_cases within : stop ≤ items.length
  · exact .inl ⟨within, getRange_eq_some ordered within⟩
  · exact .inr ⟨Nat.lt_of_not_le within, if_neg fun both => within both.2⟩

theorem stretch_stretch (items : List α) {start length place short : Nat}
    (within : place + short ≤ length) :
    stretch (stretch items start length) place short = stretch items (start + place) short := by
  unfold stretch
  rw [List.drop_take, List.take_take, List.drop_drop, Nat.min_eq_left (by omega)]

end Stretch

section Search

variable {α : Type} [DecidableEq α]

def positions (items needle : List α) : List Nat :=
  (List.range (items.length + 1 - needle.length)).filter fun place =>
    decide (stretch items place needle.length = needle)

theorem mem_positions {items needle : List α} {place : Nat} :
    place ∈ positions items needle ↔
      place + needle.length ≤ items.length ∧ stretch items place needle.length = needle := by
  rw [positions, List.mem_filter, List.mem_range, decide_eq_true_eq]
  constructor
  · rintro ⟨inRange, starts⟩
    exact ⟨by omega, starts⟩
  · rintro ⟨fits, starts⟩
    exact ⟨by omega, starts⟩

end Search

def littleEndian : List UInt8 → Nat
  | [] => 0
  | byte :: rest => byte.toNat + 256 * littleEndian rest

end TdfIrohS3.Library
