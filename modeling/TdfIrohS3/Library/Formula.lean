import Mathlib.Data.List.Basic

namespace TdfIrohS3.Library

inductive Formula (Atom : Type)
  | atom (a : Atom)
  | all (parts : List (Formula Atom))
  | any (parts : List (Formula Atom))
  | neg (part : Formula Atom)

namespace Formula

variable {Atom : Type}

section Meaning

variable (truth : Atom → Prop)

mutual

def Holds : Formula Atom → Prop
  | .atom a => truth a
  | .all parts => HoldAll parts
  | .any parts => HoldAny parts
  | .neg part => ¬Holds part

def HoldAll : List (Formula Atom) → Prop
  | [] => True
  | part :: rest => Holds part ∧ HoldAll rest

def HoldAny : List (Formula Atom) → Prop
  | [] => False
  | part :: rest => Holds part ∨ HoldAny rest

end

variable {truth}

theorem holdAll_iff {parts : List (Formula Atom)} :
    HoldAll truth parts ↔ ∀ part ∈ parts, Holds truth part := by
  induction parts with
  | nil => simp [HoldAll]
  | cons part rest ih => simp [HoldAll, ih]

theorem holdAny_iff {parts : List (Formula Atom)} :
    HoldAny truth parts ↔ ∃ part ∈ parts, Holds truth part := by
  induction parts with
  | nil => simp [HoldAny]
  | cons part rest ih => simp [HoldAny, ih]

end Meaning

mutual

def atoms : Formula Atom → List Atom
  | .atom a => [a]
  | .all parts | .any parts => atomsOf parts
  | .neg part => atoms part

def atomsOf : List (Formula Atom) → List Atom
  | [] => []
  | part :: rest => atoms part ++ atomsOf rest

end

section Forced

variable [DecidableEq Atom] (a : Atom)

mutual

/-- Whether the shape of a formula alone makes an atom true wherever the formula has the truth value
`wanted`: one part of a conjunction is enough, and it takes every part of a disjunction. -/
def forces : Bool → Formula Atom → Bool
  | wanted, .atom b => wanted && decide (b = a)
  | wanted, .all parts => if wanted then forcesSome wanted parts else forcesEach wanted parts
  | wanted, .any parts => if wanted then forcesEach wanted parts else forcesSome wanted parts
  | wanted, .neg part => forces (!wanted) part

def forcesEach (wanted : Bool) : List (Formula Atom) → Bool
  | [] => true
  | part :: rest => forces wanted part && forcesEach wanted rest

def forcesSome (wanted : Bool) : List (Formula Atom) → Bool
  | [] => false
  | part :: rest => forces wanted part || forcesSome wanted rest

end

variable {a} {truth : Atom → Prop}

mutual

theorem true_of_forces (wanted : Bool) : ∀ formula : Formula Atom,
    forces a wanted formula = true → (Holds truth formula ↔ wanted = true) → truth a
  | .atom b => by
      intro forced has
      simp only [forces, Bool.and_eq_true, decide_eq_true_eq] at forced
      obtain ⟨rfl, rfl⟩ := forced
      exact has.mpr rfl
  | .all parts => by
      intro forced has
      rw [Holds, holdAll_iff] at has
      cases wanted with
      | true => exact true_of_forcesSome true parts forced fun part member =>
          iff_of_true (has.mpr rfl part member) rfl
      | false =>
          have fails : ∃ part ∈ parts, ¬Holds truth part := by simpa using has
          obtain ⟨part, member, false_⟩ := fails
          exact true_of_forcesEach false parts forced part member (iff_of_false false_ nofun)
  | .any parts => by
      intro forced has
      rw [Holds, holdAny_iff] at has
      cases wanted with
      | true =>
          obtain ⟨part, member, true_⟩ := has.mpr rfl
          exact true_of_forcesEach true parts forced part member (iff_of_true true_ rfl)
      | false =>
          have fail : ∀ part ∈ parts, ¬Holds truth part := by simpa using has
          exact true_of_forcesSome false parts forced fun part member =>
            iff_of_false (fail part member) nofun
  | .neg part => by
      intro forced has
      rw [Holds] at has
      refine true_of_forces (!wanted) part forced ?_
      cases wanted <;> simpa using has

theorem true_of_forcesEach (wanted : Bool) : ∀ parts : List (Formula Atom),
    forcesEach a wanted parts = true → ∀ part ∈ parts, (Holds truth part ↔ wanted = true) → truth a
  | [] => fun _ _ => nofun
  | part :: rest => by
      intro forced other member has
      obtain ⟨first, later⟩ := Bool.and_eq_true_iff.mp forced
      rcases List.mem_cons.mp member with same | member
      · rw [same] at has
        exact true_of_forces wanted part first has
      · exact true_of_forcesEach wanted rest later other member has

theorem true_of_forcesSome (wanted : Bool) : ∀ parts : List (Formula Atom),
    forcesSome a wanted parts = true → (∀ part ∈ parts, (Holds truth part ↔ wanted = true)) → truth a
  | [] => nofun
  | part :: rest => by
      intro forced has
      rcases Bool.or_eq_true_iff.mp forced with first | later
      · exact true_of_forces wanted part first (has part List.mem_cons_self)
      · exact true_of_forcesSome wanted rest later fun other member =>
          has other (List.mem_cons_of_mem _ member)

end

end Forced

section Once

variable {truth other : Atom → Prop}

mutual

theorem holds_congr : ∀ formula : Formula Atom, (∀ a ∈ atoms formula, (truth a ↔ other a)) →
    (Holds truth formula ↔ Holds other formula)
  | .atom a => fun agree => agree a List.mem_cons_self
  | .all parts => fun agree => by
      rw [Holds, Holds, holdAll_iff, holdAll_iff]
      exact forall₂_congr fun part member => holds_congr_of_mem parts agree part member
  | .any parts => fun agree => by
      rw [Holds, Holds, holdAny_iff, holdAny_iff]
      exact exists_congr fun part => and_congr_right fun member =>
        holds_congr_of_mem parts agree part member
  | .neg part => fun agree => by
      rw [Holds, Holds, holds_congr part agree]

theorem holds_congr_of_mem : ∀ parts : List (Formula Atom),
    (∀ a ∈ atomsOf parts, (truth a ↔ other a)) →
      ∀ part ∈ parts, (Holds truth part ↔ Holds other part)
  | [] => fun _ _ => nofun
  | part :: rest => by
      intro agree one member
      rcases List.mem_cons.mp member with same | member
      · rw [same]
        exact holds_congr part fun a inside => agree a (List.mem_append_left _ inside)
      · exact holds_congr_of_mem rest (fun a inside => agree a (List.mem_append_right _ inside)) one
          member

end

variable [DecidableEq Atom] {a : Atom}

mutual

/-- Where no atom stands twice, an atom that the shape does not force can be false. -/
theorem avoids_of_once (wanted : Bool) : ∀ formula : Formula Atom, (atoms formula).Nodup →
    forces a wanted formula = false →
      ∃ truth : Atom → Prop, (Holds truth formula ↔ wanted = true) ∧ ¬truth a
  | .atom b => by
      intro _ free
      refine ⟨fun c => c = b ∧ wanted = true, by simp [Holds], ?_⟩
      rintro ⟨rfl, rfl⟩
      simp [forces] at free
  | .all parts => by
      intro once free
      cases wanted with
      | true =>
          obtain ⟨truth, has, avoids⟩ := avoids_each true parts once free
          refine ⟨truth, iff_of_true ?_ rfl, avoids⟩
          rw [Holds, holdAll_iff]
          exact fun part member => (has part member).mpr rfl
      | false =>
          obtain ⟨truth, part, member, has, avoids⟩ := avoids_some false parts once free
          refine ⟨truth, iff_of_false ?_ nofun, avoids⟩
          rw [Holds, holdAll_iff]
          exact fun all => Bool.false_ne_true (has.mp (all part member))
  | .any parts => by
      intro once free
      cases wanted with
      | true =>
          obtain ⟨truth, part, member, has, avoids⟩ := avoids_some true parts once free
          refine ⟨truth, iff_of_true ?_ rfl, avoids⟩
          rw [Holds, holdAny_iff]
          exact ⟨part, member, has.mpr rfl⟩
      | false =>
          obtain ⟨truth, has, avoids⟩ := avoids_each false parts once free
          refine ⟨truth, iff_of_false ?_ nofun, avoids⟩
          rw [Holds, holdAny_iff]
          rintro ⟨part, member, holds⟩
          exact Bool.false_ne_true ((has part member).mp holds)
  | .neg part => by
      intro once free
      obtain ⟨truth, has, avoids⟩ := avoids_of_once (!wanted) part once free
      refine ⟨truth, ?_, avoids⟩
      rw [Holds]
      cases wanted <;> simpa using has

theorem avoids_each (wanted : Bool) : ∀ parts : List (Formula Atom), (atomsOf parts).Nodup →
    forcesSome a wanted parts = false →
      ∃ truth : Atom → Prop, (∀ part ∈ parts, (Holds truth part ↔ wanted = true)) ∧ ¬truth a
  | [] => fun _ _ => ⟨fun _ => False, by simp, id⟩
  | part :: rest => by
      intro once free
      obtain ⟨onceHere, onceLater, apart⟩ := List.nodup_append.mp once
      obtain ⟨freeHere, freeLater⟩ := Bool.or_eq_false_iff.mp free
      obtain ⟨front, has, avoids⟩ := avoids_of_once wanted part onceHere freeHere
      obtain ⟨back, hasLater, avoidsLater⟩ := avoids_each wanted rest onceLater freeLater
      -- each side keeps the truth of its own atoms
      refine ⟨fun b => if b ∈ atoms part then front b else back b, ?_, ?_⟩
      · intro one member
        rcases List.mem_cons.mp member with same | member
        · rw [same, ← has]
          exact holds_congr part fun b inside => by rw [if_pos inside]
        · rw [← hasLater one member]
          refine holds_congr_of_mem rest (fun b inside => ?_) one member
          rw [if_neg fun also => apart b also b inside rfl]
      · by_cases inside : a ∈ atoms part
        · simpa only [if_pos inside] using avoids
        · simpa only [if_neg inside] using avoidsLater

theorem avoids_some (wanted : Bool) : ∀ parts : List (Formula Atom), (atomsOf parts).Nodup →
    forcesEach a wanted parts = false →
      ∃ truth : Atom → Prop, ∃ part ∈ parts, (Holds truth part ↔ wanted = true) ∧ ¬truth a
  | [] => nofun
  | part :: rest => by
      intro once free
      obtain ⟨onceHere, onceLater, -⟩ := List.nodup_append.mp once
      rcases Bool.and_eq_false_iff.mp free with freeHere | freeLater
      · obtain ⟨truth, has⟩ := avoids_of_once wanted part onceHere freeHere
        exact ⟨truth, part, List.mem_cons_self, has⟩
      · obtain ⟨truth, one, member, has⟩ := avoids_some wanted rest onceLater freeLater
        exact ⟨truth, one, List.mem_cons_of_mem _ member, has⟩

end

end Once

end Formula

end TdfIrohS3.Library
