import Mathlib.Data.String.Basic
import TdfIrohS3.Library.Machine
import TdfIrohS3.Library.Paging
import TdfIrohS3.Library.Slots
import TdfIrohS3.Store.Separate

namespace TdfIrohS3

open Library

structure ListTask where
  kind : RecordKind
  paging : Paging String StoredObject
  deriving DecidableEq, Repr

structure Listings where
  objects : Objects
  tasks : Nat → Option ListTask

inductive ListInput
  /-- A request of any node. -/
  | call (call : S3Call) (carriage : Carriage)
  /-- An object is deleted: no node does it, an operator may. -/
  | delete (key : String)
  | list (id : Nat) (kind : RecordKind)
  /-- The next request of a listing; S3 puts as many keys as it likes on a page. -/
  | advance (id : Nat) (size : Nat)
  /-- A request of a listing fails. -/
  | fail (id : Nat)
  deriving DecidableEq, Repr

inductive ListNotice
  | returned (id : Nat) (bodies : List (List UInt8))
  | failed (id : Nat)
  deriving DecidableEq, Repr

namespace Listings

variable (client : S3Client) (etag : List UInt8 → String)

def wanted (kind : RecordKind) (key : String) : Bool :=
  (Text.stripPrefix key (client.moderationPrefix kind)).isSome

def setTask (state : Listings) (id : Nat) (task : Option ListTask) : Listings :=
  { state with tasks := Function.update state.tasks id task }

/-- One step: a page, the GET of one key, or the end of the loop. A listed object that is gone
fails the listing. -/
def advance (state : Listings) (id : Nat) (task : ListTask) (size : Nat) :
    Listings × List ListNotice :=
  match task.paging.advance state.objects (wanted client task.kind) size with
  | .going paging => (state.setTask id (some { task with paging }), [])
  | .done found => (state.setTask id none, [.returned id (found.map fun pair => pair.2.body)])
  | .missing => (state.setTask id none, [.failed id])

def next (state : Listings) : ListInput → Option (Listings × List ListNotice)
  | .call call carriage =>
      let (objects, _) := carry (client.effect etag) (client.answer etag) state.objects call carriage
      some ({ state with objects }, [])
  | .delete key => some ({ state with objects := state.objects.remove key }, [])
  | .list id kind =>
      match state.tasks id with
      | some _ => none
      | none => some (state.setTask id (some ⟨kind, .start⟩), [])
  | .advance id size => (state.tasks id).map fun task => advance client state id task size
  | .fail id => (state.tasks id).map fun _ => (state.setTask id none, [.failed id])

def machine : Machine Listings ListInput ListNotice where
  next := next client etag

def Kept (moments : List Listings) (key : String) : Prop :=
  ∀ moment ∈ moments, moment.objects.contains key = true

def Held (moments : List Listings) (pair : String × StoredObject) : Prop :=
  ∃ moment ∈ moments, moment.objects.get pair.1 = some pair.2

theorem Kept.older {state : Listings} {moments : List Listings} {key : String}
    (kept : Kept (state :: moments) key) : Kept moments key :=
  fun moment member => kept moment (List.mem_cons_of_mem _ member)

theorem Held.newer {moments : List Listings} {pair : String × StoredObject}
    (held : Held moments pair) (state : Listings) : Held (state :: moments) pair := by
  obtain ⟨moment, member, found⟩ := held
  exact ⟨moment, List.mem_cons_of_mem _ member, found⟩

/-- What a listing of `kind` has got, measured by the moments since it began. -/
structure Sound (kind : RecordKind) (moments : List Listings) (task : ListTask) : Prop where
  kind_eq : task.kind = kind
  exact : task.paging.Exact (wanted client kind) (Kept moments)
  held : ∀ pair ∈ task.paging.found, Held moments pair

section Steps

variable {client} {etag} {kind : RecordKind} {id : Nat} {state after : Listings}
  {notices : List ListNotice} {task : ListTask}

theorem Sound.start (moments : List Listings) : Sound client kind moments ⟨kind, .start⟩ where
  kind_eq := rfl
  exact := Paging.Exact.start _ _
  held := by intro pair member; cases member

theorem Sound.later {moments : List Listings} (sound : Sound client kind moments task)
    (state : Listings) : Sound client kind (state :: moments) task where
  kind_eq := sound.kind_eq
  exact := sound.exact.mono fun _ kept => kept.older
  held := fun pair member => (sound.held pair member).newer state

/-- One request of the listing, to the bucket as it is. -/
theorem Sound.advance {moments : List Listings} (sound : Sound client kind (state :: moments) task)
    {size : Nat} {paging : Paging String StoredObject}
    (moved : task.paging.advance state.objects (wanted client task.kind) size = .going paging) :
    Sound client kind (state :: moments) { task with paging } := by
  rw [sound.kind_eq] at moved
  refine ⟨sound.kind_eq, sound.exact.advance ?_ moved, ?_⟩
  · intro key kept
    exact kept state List.mem_cons_self
  · intro pair member
    rcases Paging.mem_found_advance moved member with old | read
    · exact sound.held pair old
    · exact ⟨state, List.mem_cons_self, read⟩

theorem task_after {input : ListInput}
    (taken : next client etag state input = some (after, notices))
    (running : after.tasks id = some task) :
    state.tasks id = some task ∨ (∃ kind, input = .list id kind ∧ task = ⟨kind, .start⟩) ∨
      ∃ earlier size paging, state.tasks id = some earlier ∧
        earlier.paging.advance state.objects (wanted client earlier.kind) size = .going paging ∧
        task = { earlier with paging } := by
  cases input with
  | call call carriage =>
      cases taken
      exact .inl running
  | delete key =>
      cases taken
      exact .inl running
  | list other kind =>
      simp only [next] at taken
      split at taken
      · cases taken
      · cases taken
        rcases held_of_fill running with ⟨rfl, rfl⟩ | old
        · exact .inr (.inl ⟨kind, rfl, rfl⟩)
        · exact .inl old
  | advance other size =>
      obtain ⟨earlier, held, moved⟩ := Option.map_eq_some_iff.mp taken
      unfold advance at moved
      split at moved
      · rename_i paging went
        cases moved
        rcases held_of_fill running with ⟨rfl, rfl⟩ | old
        · exact .inr (.inr ⟨earlier, size, paging, held, went, rfl⟩)
        · exact .inl old
      · cases moved
        exact .inl (held_of_clear running)
      · cases moved
        exact .inl (held_of_clear running)
  | fail other =>
      obtain ⟨earlier, held, moved⟩ := Option.map_eq_some_iff.mp taken
      cases moved
      exact .inl (held_of_clear running)

end Steps

variable {client} {etag} {kind : RecordKind} {id : Nat}

/-- A listing that began at the first moment of a run is measured by all of them. -/
theorem sound_of_run {first state : Listings} {trace : List (Listings × ListInput)}
    {log : List ListNotice} (began : first.tasks id = some ⟨kind, .start⟩)
    (run : (machine client etag).traced.Run (fun _ _ input => ∀ other, input ≠ .list id other)
      [] (first, []) log (state, trace))
    {task : ListTask} (running : state.tasks id = some task) :
    Sound client kind (Machine.moments (state, trace)) task := by
  refine run.traced_invariant (fun _ moment => ∀ task, moment.1.tasks id = some task →
    Sound client kind (Machine.moments moment) task) ?_ ?_ task running
  · intro task held
    rw [began] at held
    cases held
    exact Sound.start _
  · intro log state past input after notices sound once taken task held
    rcases task_after taken held with same | ⟨other, listed, -⟩ | ⟨earlier, size, paging, was, went, rfl⟩
    · exact (sound task same).later after
    · exact absurd listed (once other)
    · exact ((sound earlier was).advance went).later after

end Listings

open Listings

/-- A listing of the records of one kind, over any number of pages of any sizes, while any nodes
read and write the bucket and objects are deleted from it. What it returns is one body for each of
some keys of that kind, in order and no key twice: each body is one its object had at some moment
since the listing began, and every object that was there all along is among them. -/
theorem listed_records_are_exact (client : S3Client) (etag : List UInt8 → String)
    (kind : RecordKind) (id : Nat) (first state after : Listings)
    (trace : List (Listings × ListInput)) (log : List ListNotice) (size : Nat)
    (bodies : List (List UInt8)) (began : first.tasks id = some ⟨kind, .start⟩)
    (run : (machine client etag).traced.Run (fun _ _ input => ∀ other, input ≠ .list id other)
      [] (first, []) log (state, trace))
    (returned : (machine client etag).next state (.advance id size) =
      some (after, [.returned id bodies])) :
    ∃ found : List (String × StoredObject),
      bodies = found.map (fun pair => pair.2.body) ∧
      (found.map Prod.fst).Pairwise (· < ·) ∧
      (∀ pair ∈ found, ∃ name, pair.1 = client.moderationKey kind name) ∧
      (∀ pair ∈ found, ∃ moment ∈ Machine.moments (state, trace),
        moment.objects.get pair.1 = some pair.2) ∧
      ∀ name, (∀ moment ∈ Machine.moments (state, trace),
          moment.objects.contains (client.moderationKey kind name) = true) →
        client.moderationKey kind name ∈ found.map Prod.fst := by
  obtain ⟨task, running, moved⟩ := Option.map_eq_some_iff.mp returned
  have sound := sound_of_run began run running
  unfold Listings.advance at moved
  split at moved
  · cases moved
  · rename_i found ended
    cases moved
    have done := Paging.advance_done ended
    have exact := sound.exact
    have held := sound.held
    rw [done] at exact held
    refine ⟨found, rfl, exact.found_pairwise, ?_, held, ?_⟩
    · intro pair member
      obtain ⟨name, stripped⟩ := Option.isSome_iff_exists.mp (exact.wanted_of_found member)
      exact ⟨name, (Text.stripPrefix_eq_some_iff _ _ _).mp stripped⟩
    · intro name kept
      refine exact.mem_found_of_kept ?_ kept
      exact Option.isSome_iff_exists.mpr ⟨name, (Text.stripPrefix_eq_some_iff _ _ _).mpr rfl⟩
  · cases moved

private def twoBlocks : Listings where
  objects := Table.ofPairs
    [("moderation/blocks/b", ⟨[2], none⟩), ("moderation/blocks/a", ⟨[1], none⟩),
      ("moderation/suspensions/a", ⟨[9], none⟩)]
  tasks := fun id => if id = 0 then some ⟨.moderation .blocks, .start⟩ else none

private def busyListing : List ListInput :=
  [.advance 0 1, .call (.putModerationRecord (.moderation .blocks) "c" [3]) .answered,
    .advance 0 0, .advance 0 0, .advance 0 2,
    .call (.putModerationRecord (.moderation .blocks) "b" [4]) .unanswered, .advance 0 0,
    .advance 0 0]

private def lists : ListInput → Bool
  | .list _ _ => true
  | _ => false

private theorem not_list_of_check (id : Nat) (input : ListInput) (checked : (!lists input) = true)
    (kind : RecordKind) : input ≠ .list id kind := by
  rintro rfl
  cases checked

private def returnsThree (_ : List ListNotice) (moment : Listings × List (Listings × ListInput)) :
    Bool :=
  ((machine ⟨""⟩ fun _ => "e").next moment.1 (.advance 0 0)).map Prod.snd ==
    some [.returned 0 [[1], [4], [3]]]

private theorem busyListing_executed :
    ((machine ⟨""⟩ fun _ => "e").traced.execute (fun _ _ input => !lists input) busyListing []
      (twoBlocks, [])).map (fun ended => returnsThree ended.1 ended.2) = some true := by
  decide +kernel

theorem listed_records_are_exact_while_written :
    ∃ found : List (String × StoredObject),
      [[1], [4], [3]] = found.map (fun pair => pair.2.body) ∧
        (found.map Prod.fst).Pairwise (· < ·) ∧
        ∀ pair ∈ found, ∃ name, pair.1 = S3Client.moderationKey ⟨""⟩ (.moderation .blocks) name := by
  obtain ⟨log, ⟨state, trace⟩, run, returned⟩ := Machine.execute_reaches
    (fun _ _ input => not_list_of_check 0 input) busyListing returnsThree busyListing_executed
  obtain ⟨⟨after, notices⟩, taken, rfl⟩ := Option.map_eq_some_iff.mp (eq_of_beq returned)
  obtain ⟨found, bodies, ascending, named, -⟩ := listed_records_are_exact ⟨""⟩ (fun _ => "e")
    (.moderation .blocks) 0 twoBlocks state after trace log 0 [[1], [4], [3]] rfl run taken
  exact ⟨found, bodies, ascending, named⟩

end TdfIrohS3
