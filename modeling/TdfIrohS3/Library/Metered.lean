import Mathlib.Data.List.Basic

namespace TdfIrohS3.Library

/-- How a computation ends. `fault` is an index, a sum or a difference out of range. -/
inductive Ending (α : Type)
  | done (value : α)
  | refused (why : String)
  | fault
  deriving DecidableEq, Repr

structure Metered (α : Type) where
  reads : List Nat
  ending : Ending α
  deriving DecidableEq, Repr

namespace Metered

variable {α β : Type}

def andThen (first : Metered α) (rest : α → Metered β) : Metered β :=
  match first.ending with
  | .done value => ⟨first.reads ++ (rest value).reads, (rest value).ending⟩
  | .refused why => ⟨first.reads, .refused why⟩
  | .fault => ⟨first.reads, .fault⟩

instance : Monad Metered where
  pure value := ⟨[], .done value⟩
  bind := andThen

def refuse (why : String) : Metered α := ⟨[], .refused why⟩

def orFault : Option α → Metered α
  | some value => ⟨[], .done value⟩
  | none => ⟨[], .fault⟩

def forEach (step : α → Metered Unit) : List α → Metered Unit
  | [] => pure ()
  | item :: rest => do
      step item
      forEach step rest

def Free (reads : List Nat) : Prop := reads = []

/-- The computation does not fault, its reads are within `Cost`, and what it returns is `Post`. -/
structure Spec (computation : Metered α) (Cost : List Nat → Prop) (Post : α → Prop) : Prop where
  sound : computation.ending ≠ .fault
  cost : Cost computation.reads
  post : ∀ value, computation.ending = .done value → Post value

section Rules

variable {computation : Metered α} {Cost Cost' Whole : List Nat → Prop} {Post : α → Prop}
  {Post' : β → Prop}

theorem Spec.pure {value : α} (cost : Cost []) (post : Post value) :
    Spec (Pure.pure value) Cost Post where
  sound impossible := by cases impossible
  cost := cost
  post _ same := by
    cases same
    exact post

theorem Spec.refuse {why : String} (cost : Cost []) : Spec (Metered.refuse why) Cost Post where
  sound impossible := by cases impossible
  cost := cost
  post _ impossible := by cases impossible

theorem Spec.orFault_bind {found : Option α} {value : α} {rest : α → Metered β}
    (present : found = some value) (later : Spec (rest value) Cost' Post') :
    Spec (orFault found >>= rest) Cost' Post' := by
  subst present
  exact ⟨later.sound, later.cost, later.post⟩

theorem Spec.bind {rest : α → Metered β} (first : Spec computation Cost Post)
    (later : ∀ value, Post value → Spec (rest value) Cost' Post')
    (stopped : ∀ reads, Cost reads → Whole reads)
    (whole : ∀ reads reads', Cost reads → Cost' reads' → Whole (reads ++ reads')) :
    Spec (computation >>= rest) Whole Post' := by
  obtain ⟨reads, ending⟩ := computation
  cases ending with
  | done value =>
      obtain ⟨sound, cost, post⟩ := later value (first.post value rfl)
      exact ⟨sound, whole _ _ first.cost cost, post⟩
  | refused why =>
      refine ⟨fun impossible => ?_, stopped _ first.cost, fun value impossible => ?_⟩
      · cases impossible
      · cases impossible
  | fault => exact absurd rfl first.sound

theorem Spec.bind_free {rest : α → Metered β} (first : Spec computation Free Post)
    (later : ∀ value, Post value → Spec (rest value) Cost' Post') (nothing : Cost' []) :
    Spec (computation >>= rest) Cost' Post' := by
  apply first.bind later
  · rintro _ rfl
    exact nothing
  · rintro _ reads rfl cost
    exact cost

theorem Spec.mono {Wider : List Nat → Prop} {Weaker : α → Prop} (spec : Spec computation Cost Post)
    (cost : ∀ reads, Cost reads → Wider reads) (post : ∀ value, Post value → Weaker value) :
    Spec computation Wider Weaker :=
  ⟨spec.sound, cost _ spec.cost, fun value done => post value (spec.post value done)⟩

/-- A loop whose steps read nothing: once it is done, every step was. -/
theorem Spec.forEach {step : α → Metered Unit} {Each : α → Prop} {items : List α}
    (each : ∀ item ∈ items, Spec (step item) Free fun _ => Each item) :
    Spec (Metered.forEach step items) Free fun _ => ∀ item ∈ items, Each item := by
  induction items with
  | nil => exact .pure rfl fun item member => nomatch member
  | cons first rest ih =>
      refine (each first List.mem_cons_self).bind_free (fun _ here => ?_) rfl
      apply (ih fun item member => each item (List.mem_cons_of_mem _ member)).mono fun _ none => none
      intro _ later item member
      rcases List.mem_cons.mp member with rfl | further
      · exact here
      · exact later item further

end Rules

end Metered

end TdfIrohS3.Library
