import TdfIrohS3.Ingest.Scratch
import TdfIrohS3.Library.Decimal
import TdfIrohS3.Library.Slots

namespace TdfIrohS3

open Library

namespace ScratchIngests

inductive Change (limit : Nat) (ingests : ScratchIngests) (event : ScratchEvent) :
    ScratchIngests → Prop
  | pushed (node : Nat) (hash : String) (owner : Option (String × EndpointId)) :
      Change limit ingests event
        { ingests.setTask ingests.nextId (some { node, hash, owner, phase := .receiving }) with
          nextId := ingests.nextId + 1 }
  | moved {id : Nat} {task : ScratchTask} (bucket : Recordings) (phase : ScratchPhase)
      (held : ingests.tasks id = some task) (file : phase.file = task.phase.file) :
      Change limit ingests event ((ingests.setBucket bucket).advance id task phase)
  | acquired {id : Nat} {task : ScratchTask} (permits : Nat)
      (held : ingests.tasks id = some task) :
      Change limit ingests event
        ((ingests.setDir task.node { ingests.dirs task.node with permits := permits }).advance id
          task .inspecting)
  | created {id : Nat} {task : ScratchTask} {bitfield : Option (Nat × Bool)}
      (asked : event = .inspected id bitfield) (held : ingests.tasks id = some task) :
      Change limit ingests event (ingests.create id task)
  /-- The files of a directory change, and removals may have run. -/
  | filed {node : Nat} (dir : ScratchDir) (next : dir.next = (ingests.dirs node).next)
      (fewer : ∀ path ∈ dir.removals, path ∈ (ingests.dirs node).removals) :
      Change limit ingests event (ingests.setDir node dir)
  | returned {id : Nat} {task : ScratchTask} (bucket : Recordings) (after : Option ScratchPhase)
      (held : ingests.tasks id = some task) (idle : ∀ phase ∈ after, phase.file = none) :
      Change limit ingests event
        (((ingests.setBucket bucket).returns task).setTask id
          (after.map fun phase => { task with phase := phase }))
  | recorded {id : Nat} {task : ScratchTask} (bucket : Recordings)
      (held : ingests.tasks id = some task) :
      Change limit ingests event ((ingests.setBucket bucket).setTask id none)
  | restarted (node : Nat) :
      Change limit ingests event
        { ingests.setDir node (.prepare limit) with
          tasks := fun id => (ingests.tasks id).filter fun task => task.node != node }

section Changes

variable {limit : Nat} {ingests : ScratchIngests} {event : ScratchEvent} {id : Nat}
variable {task : ScratchTask}

theorem Change.failed (bucket : Recordings) (held : ingests.tasks id = some task) :
    Change limit ingests event ((ingests.setBucket bucket).fail id task).1 :=
  .returned bucket none held (fun _ member => nomatch member)

theorem Change.succeeded (bucket : Recordings) (held : ingests.tasks id = some task) :
    Change limit ingests event ((ingests.setBucket bucket).succeed id task).1 := by
  unfold succeed
  split
  · rename_i subject endpoint _
    refine .returned bucket (some (.recording subject endpoint)) held ?_
    rintro phase ⟨⟩
    rfl
  · exact .returned bucket none held (fun _ member => nomatch member)

variable {upload : ScratchUpload} {stage : UploadPhase} {retries : Nat}

theorem Change.uploads (bucket : Recordings) (held : ingests.tasks id = some task)
    (phase : task.phase = .uploading upload stage retries) (later : UploadPhase) (left : Nat) :
    Change limit ingests event
      ((ingests.setBucket bucket).advance id task (.uploading upload later left)) := by
  refine .moved bucket _ held ?_
  rw [phase]
  rfl

theorem Change.retried (bucket : Recordings) (held : ingests.tasks id = some task)
    (phase : task.phase = .uploading upload stage retries) :
    Change limit ingests event ((ingests.setBucket bucket).retry id task upload retries).1 := by
  cases retries with
  | zero => exact .failed bucket held
  | succ left => exact .uploads bucket held phase _ _

theorem Change.stored (bucket : Recordings) (held : ingests.tasks id = some task)
    (phase : task.phase = .uploading upload stage retries) :
    Change limit ingests event ((ingests.setBucket bucket).blobStored id task upload retries).1 := by
  unfold blobStored
  split
  · exact .uploads bucket held phase _ _
  · exact .succeeded bucket held

theorem Change.put (held : ingests.tasks id = some task)
    (phase : task.phase = .uploading upload stage retries) (outcome : Outcome) :
    Change limit ingests event (ingests.put id task upload stage retries outcome).1 := by
  have failed : ∀ bucket, Change limit ingests event
      ((ingests.setBucket bucket).uploadFailed id task upload retries stage).1 := by
    intro bucket
    unfold uploadFailed
    split
    · exact .succeeded bucket held
    · exact .retried bucket held phase
  unfold ScratchIngests.put
  split
  · rename_i bucket _
    cases stage with
    | puttingOutboard => exact .uploads bucket held phase _ _
    | puttingBlob => exact .stored bucket held phase
    | headingBlob | puttingManifest => exact .succeeded bucket held
  · exact failed _
  · exact failed ingests.bucket

end Changes

theorem result_of_some {result : ScratchIngests × List IngestNotice} {after : ScratchIngests}
    {notices : List IngestNotice} (taken : some result = some (after, notices)) :
    after = result.1 ∧ notices = result.2 := by
  cases Option.some.inj taken
  exact ⟨rfl, rfl⟩

theorem change_of_next {platform : IngestPlatform} {config : ValidationConfig} {limit : Nat}
    {ingests after : ScratchIngests} {event : ScratchEvent} {notices : List IngestNotice}
    (taken : ingests.next platform config limit event = some (after, notices)) :
    Change limit ingests event after := by
  cases event with
  | push node hash owner =>
      cases taken
      exact .pushed node hash owner
  | ended id oversize =>
      simp only [next] at taken
      split at taken
      · rename_i held
        split at taken <;> cases taken
        · exact .failed ingests.bucket held
        · exact .moved ingests.bucket _ held rfl
      · cases taken
  | observed id complete =>
      simp only [next] at taken
      split at taken
      · rename_i held
        split at taken <;> cases taken
        · exact .failed ingests.bucket held
        · exact .failed ingests.bucket held
        · exact .moved ingests.bucket _ held rfl
        · exact .moved ingests.bucket _ held rfl
      · cases taken
  | acquired id =>
      simp only [next] at taken
      split at taken
      · rename_i held
        split at taken <;> cases taken
        exact .acquired _ held
      · cases taken
  | inspected id bitfield =>
      simp only [next] at taken
      split at taken
      · rename_i held
        split at taken
        · cases taken
          exact .failed ingests.bucket held
        · split at taken <;> cases taken
          · exact .created rfl held
          · exact .failed ingests.bucket held
      · cases taken
  | wrote id bytes =>
      simp only [next] at taken
      split at taken
      · cases taken
        exact .filed _ rfl fun _ old => old
      · cases taken
  | exported id size =>
      simp only [next] at taken
      split at taken
      · rename_i held
        split at taken <;> cases taken
        · exact .failed ingests.bucket held
        · exact .moved ingests.bucket _ held rfl
      · cases taken
  | validated id opens =>
      simp only [next] at taken
      split at taken
      · rename_i held
        simp only [validate] at taken
        split at taken
        · split at taken <;> cases taken
          · exact .moved ingests.bucket _ held rfl
          · exact .failed ingests.bucket held
        · cases taken
          exact .failed ingests.bucket held
      · cases taken
  | outboarded id opens =>
      simp only [next] at taken
      split at taken
      · rename_i held
        simp only [outboard] at taken
        split at taken
        · split at taken <;> cases taken
          · exact .moved ingests.bucket _ held rfl
          · exact .failed ingests.bucket held
        · cases taken
          exact .failed ingests.bucket held
      · cases taken
  | put id outcome =>
      simp only [next] at taken
      split at taken
      · rename_i held
        split at taken
        · cases taken
        · obtain ⟨rfl, -⟩ := result_of_some taken
          exact .put held rfl outcome
      · cases taken
  | headed id answered =>
      simp only [next] at taken
      split at taken
      · rename_i held
        split at taken
        · split at taken <;> obtain ⟨rfl, -⟩ := result_of_some taken
          · exact .stored ingests.bucket held rfl
          · exact .uploads ingests.bucket held rfl _ _
        · obtain ⟨rfl, -⟩ := result_of_some taken
          exact .retried ingests.bucket held rfl
      · cases taken
  | ownerPut id at_ outcome =>
      simp only [next] at taken
      split at taken
      · rename_i held
        split at taken <;> cases taken
        · exact .recorded _ held
        · exact .recorded ingests.bucket held
        · exact .recorded _ held
      · cases taken
  | removed node path gone =>
      simp only [next] at taken
      split at taken <;> cases taken
      exact .filed _ rfl fun _ member => List.mem_of_mem_erase member
  | restart node =>
      cases taken
      exact .restarted node

theorem counter_of_scratchName {hash other : String} {m n : Nat} (fits : m < UInt64.size)
    (fits' : n < UInt64.size) (same : scratchName hash m = scratchName other n) : m = n := by
  have chars := congrArg String.toList same
  simp only [scratchName, Nat.mod_eq_of_lt fits, Nat.mod_eq_of_lt fits', String.toList_append,
    ← List.append_assoc] at chars
  have digits := List.append_cancel_right chars
  rw [List.append_assoc, List.append_assoc, Nat.toString_eq_repr, Nat.toString_eq_repr,
    Nat.toList_repr, Nat.toList_repr] at digits
  have plain : Char.isDigit '.' = false := by decide
  exact Decimal.toDigits_injective_after plain digits

/-- A scratch file belongs to one ingest, and to none once its removal is spawned. -/
structure Owned (ingests : ScratchIngests) : Prop where
  below : ∀ id task, ingests.tasks id = some task → id < ingests.nextId
  named : ∀ id task path, ingests.tasks id = some task → task.phase.file = some path →
    ∃ n, n < (ingests.dirs task.node).next ∧ path = scratchName task.hash n
  apart : ∀ one two first second path, ingests.tasks one = some first →
    ingests.tasks two = some second → first.node = second.node → first.phase.file = some path →
    second.phase.file = some path → one = two
  spawned : ∀ node, ∀ path ∈ (ingests.dirs node).removals,
    ∃ hash n, n < (ingests.dirs node).next ∧ path = scratchName hash n
  dropped : ∀ id task path, ingests.tasks id = some task → task.phase.file = some path →
    path ∉ (ingests.dirs task.node).removals
  counted : ∀ node, (ingests.dirs node).next ≤ UInt64.size

section Owned

variable {ingests : ScratchIngests} {id : Nat} {task : ScratchTask}

/-- A step that names no file. A task that has one had it before, in a directory that counts on; a
removal to run was to run before, or is of a file its ingest gives up. -/
theorem Owned.changed (owned : Owned ingests) {after : ScratchIngests}
    (tasks : ∀ id found, after.tasks id = some found → id < after.nextId ∧
      ∀ path, found.phase.file = some path → ∃ before, ingests.tasks id = some before ∧
        found.node = before.node ∧ found.hash = before.hash ∧ before.phase.file = some path ∧
        (ingests.dirs before.node).next ≤ (after.dirs before.node).next)
    (removals : ∀ node, ∀ path ∈ (after.dirs node).removals,
      (ingests.dirs node).next ≤ (after.dirs node).next ∧
        (path ∈ (ingests.dirs node).removals ∨ ∃ id task, ingests.tasks id = some task ∧
          task.node = node ∧ task.phase.file = some path ∧
          ∀ later, after.tasks id = some later → later.phase.file = none))
    (counted : ∀ node, (after.dirs node).next ≤ UInt64.size) : Owned after where
  below := fun id found there => (tasks id found there).1
  named := by
    intro id found path there file
    obtain ⟨before, was, node, hash, own, more⟩ := (tasks id found there).2 path file
    obtain ⟨n, below, name⟩ := owned.named id before path was own
    exact ⟨n, node ▸ Nat.lt_of_lt_of_le below more, hash ▸ name⟩
  apart := by
    intro one two first second path firstThere secondThere nodes firstFile secondFile
    obtain ⟨_, firstWas, firstNode, -, firstOwn, -⟩ := (tasks one first firstThere).2 path firstFile
    obtain ⟨_, secondWas, secondNode, -, secondOwn, -⟩ :=
      (tasks two second secondThere).2 path secondFile
    refine owned.apart one two _ _ path firstWas secondWas ?_ firstOwn secondOwn
    rw [← firstNode, ← secondNode, nodes]
  spawned := by
    intro node path member
    obtain ⟨more, old | ⟨id, task, held, rfl, file, -⟩⟩ := removals node path member
    · obtain ⟨hash, n, below, name⟩ := owned.spawned node path old
      exact ⟨hash, n, Nat.lt_of_lt_of_le below more, name⟩
    · obtain ⟨n, below, name⟩ := owned.named id task path held file
      exact ⟨task.hash, n, Nat.lt_of_lt_of_le below more, name⟩
  dropped := by
    intro id found path there file member
    obtain ⟨before, was, node, -, own, -⟩ := (tasks id found there).2 path file
    obtain ⟨-, old | ⟨other, task, held, home, given, none⟩⟩ := removals found.node path member
    · exact owned.dropped id before path was own (node ▸ old)
    · -- the file is given up by the task it belonged to
      obtain rfl := owned.apart id other before task path was held (node ▸ home.symm) own given
      rw [none found there] at file
      cases file
  counted := counted

theorem Owned.kept (owned : Owned ingests) {dirs : Nat → ScratchDir}
    (next : ∀ node, (dirs node).next = (ingests.dirs node).next)
    (removals : ∀ node, ∀ path ∈ (dirs node).removals, path ∈ (ingests.dirs node).removals) :
    Owned { ingests with dirs := dirs } :=
  owned.changed
    (fun id found there => ⟨owned.below id found there, fun _ file =>
      ⟨found, there, rfl, rfl, file, (next _).ge⟩⟩)
    (fun node path member => ⟨(next node).ge, .inl (removals node path member)⟩)
    fun node => (next node).le.trans (owned.counted node)

theorem Owned.replaced (owned : Owned ingests) (held : ingests.tasks id = some task)
    (bucket : Recordings) {dirs : Nat → ScratchDir} {after : Option ScratchTask}
    (next : ∀ node, (dirs node).next = (ingests.dirs node).next)
    (same : ∀ later ∈ after, later.node = task.node ∧ later.hash = task.hash ∧
      ∀ path, later.phase.file = some path → task.phase.file = some path)
    (removals : ∀ node, ∀ path ∈ (dirs node).removals, path ∈ (ingests.dirs node).removals ∨
      node = task.node ∧ task.phase.file = some path ∧ ∀ later ∈ after, later.phase.file = none) :
    Owned { ingests with
      bucket := bucket, dirs := dirs, tasks := Function.update ingests.tasks id after } := by
  refine owned.changed ?_ ?_ fun node => (next node).le.trans (owned.counted node)
  · intro other found there
    change Function.update ingests.tasks id after other = some found at there
    by_cases here : other = id
    · rw [here, Function.update_self] at there
      obtain ⟨node, hash, files⟩ := same found there
      rw [here]
      exact ⟨owned.below id task held, fun path file =>
        ⟨task, held, node, hash, files path file, (next _).ge⟩⟩
    · rw [Function.update_of_ne here] at there
      exact ⟨owned.below other found there, fun path file =>
        ⟨found, there, rfl, rfl, file, (next _).ge⟩⟩
  · intro node path member
    refine ⟨(next node).ge, (removals node path member).imp_right ?_⟩
    rintro ⟨rfl, file, none⟩
    exact ⟨id, task, held, rfl, file, fun later there =>
      none later ((Function.update_self id after ingests.tasks).symm.trans there)⟩

theorem Owned.pushed (owned : Owned ingests) (node : Nat) (hash : String)
    (owner : Option (String × EndpointId)) :
    Owned { ingests.setTask ingests.nextId (some { node, hash, owner, phase := .receiving }) with
      nextId := ingests.nextId + 1 } := by
  refine owned.changed ?_ (fun _ _ member => ⟨Nat.le_refl _, .inl member⟩) owned.counted
  intro other found there
  rcases held_of_fill there with ⟨rfl, rfl⟩ | old
  · exact ⟨Nat.lt_succ_self _, nofun⟩
  · exact ⟨Nat.lt_succ_of_lt (owned.below other found old), fun path file =>
      ⟨found, old, rfl, rfl, file, Nat.le_refl _⟩⟩

theorem Owned.created (owned : Owned ingests) (held : ingests.tasks id = some task)
    (left : (ingests.dirs task.node).next < UInt64.size) : Owned (ingests.create id task) := by
  have more : ∀ node, (ingests.dirs node).next ≤ ((ingests.create id task).dirs node).next :=
    (Function.forall_update_iff ingests.dirs fun node dir => (ingests.dirs node).next ≤ dir.next).mpr
      ⟨Nat.le_succ _, fun _ _ => Nat.le_refl _⟩
  have removals : ∀ node,
      ((ingests.create id task).dirs node).removals = (ingests.dirs node).removals :=
    (Function.forall_update_iff ingests.dirs fun node dir =>
      dir.removals = (ingests.dirs node).removals).mpr ⟨rfl, fun _ _ => rfl⟩
  have own : ((ingests.create id task).dirs task.node).next = (ingests.dirs task.node).next + 1 := by
    simp [create, setDir, advance, setTask]
  -- the new name is none of those in use
  have fresh : ∀ hash n, n < (ingests.dirs task.node).next →
      scratchName task.hash (ingests.dirs task.node).next ≠ scratchName hash n := by
    intro hash n below same
    have counter := counter_of_scratchName left (Nat.lt_trans below left) same
    exact Nat.lt_irrefl n (counter ▸ below)
  have unnamed : ∀ other found, ingests.tasks other = some found → found.node = task.node →
      found.phase.file ≠ some (scratchName task.hash (ingests.dirs task.node).next) := by
    intro other found there node file
    obtain ⟨n, below, name⟩ := owned.named other found _ there file
    rw [node] at below
    exact fresh _ n below name
  constructor
  · intro other found there
    rcases held_of_fill there with ⟨rfl, -⟩ | old
    · exact owned.below _ task held
    · exact owned.below other found old
  · intro other found path there file
    rcases held_of_fill there with ⟨-, rfl⟩ | old
    · cases file
      exact ⟨_, by rw [own]; exact Nat.lt_succ_self _, rfl⟩
    · obtain ⟨n, below, name⟩ := owned.named other found path old file
      exact ⟨n, Nat.lt_of_lt_of_le below (more _), name⟩
  · intro one two first second path firstThere secondThere nodes firstFile secondFile
    rcases held_of_fill firstThere with ⟨rfl, rfl⟩ | oldOne <;>
      rcases held_of_fill secondThere with ⟨rfl, rfl⟩ | oldTwo
    · rfl
    · cases firstFile
      exact absurd secondFile (unnamed two second oldTwo nodes.symm)
    · cases secondFile
      exact absurd firstFile (unnamed one first oldOne nodes)
    · exact owned.apart one two first second path oldOne oldTwo nodes firstFile secondFile
  · intro node path member
    rw [removals] at member
    obtain ⟨hash, n, below, name⟩ := owned.spawned node path member
    exact ⟨hash, n, Nat.lt_of_lt_of_le below (more node), name⟩
  · intro other found path there file member
    rw [removals] at member
    rcases held_of_fill there with ⟨-, rfl⟩ | old
    · cases file
      obtain ⟨hash, n, below, name⟩ := owned.spawned task.node _ member
      exact fresh hash n below name
    · exact owned.dropped other found path old file member
  · exact (Function.forall_update_iff ingests.dirs fun _ dir => dir.next ≤ UInt64.size).mpr
      ⟨left, fun node _ => owned.counted node⟩

theorem Owned.restarted (owned : Owned ingests) (limit node : Nat) :
    Owned { ingests.setDir node (.prepare limit) with
      tasks := fun id => (ingests.tasks id).filter fun task => task.node != node } := by
  have other : ∀ elsewhere, elsewhere ≠ node →
      (ingests.setDir node (.prepare limit)).dirs elsewhere = ingests.dirs elsewhere :=
    fun elsewhere different => Function.update_of_ne different _ _
  have here : (ingests.setDir node (.prepare limit)).dirs node = .prepare limit :=
    Function.update_self _ _ _
  refine owned.changed ?_ ?_ ?_
  · intro id found there
    obtain ⟨was, away⟩ := Option.filter_eq_some_iff.mp there
    have same := other found.node (bne_iff_ne.mp away)
    exact ⟨owned.below id found was, fun path file =>
      ⟨found, was, rfl, rfl, file, Nat.le_of_eq (congrArg ScratchDir.next same.symm)⟩⟩
  · intro elsewhere path member
    change path ∈ ((ingests.setDir node (.prepare limit)).dirs elsewhere).removals at member
    change _ ≤ ((ingests.setDir node (.prepare limit)).dirs elsewhere).next ∧ _
    by_cases same : elsewhere = node
    · rw [same, here] at member
      cases member
    · rw [other _ same] at member ⊢
      exact ⟨Nat.le_refl _, .inl member⟩
  · exact (Function.forall_update_iff ingests.dirs fun _ dir => dir.next ≤ UInt64.size).mpr
      ⟨Nat.zero_le _, fun elsewhere _ => owned.counted elsewhere⟩

end Owned

theorem removals_of_update (dirs : Nat → ScratchDir) (node : Nat) (dir : ScratchDir)
    (fewer : ∀ path ∈ dir.removals, path ∈ (dirs node).removals) :
    ∀ other, ∀ path ∈ (Function.update dirs node dir other).removals, path ∈ (dirs other).removals :=
  (Function.forall_update_iff dirs fun other dir =>
    ∀ path ∈ dir.removals, path ∈ (dirs other).removals).mpr ⟨fewer, fun _ _ _ member => member⟩

/-- A process names fewer than 2^64 scratch files. -/
def Unwrapped (ingests : ScratchIngests) (event : ScratchEvent) : Prop :=
  ∀ id bitfield task, event = .inspected id bitfield → ingests.tasks id = some task →
    (ingests.dirs task.node).next < UInt64.size

theorem owned_step {limit : Nat} {ingests after : ScratchIngests} {event : ScratchEvent}
    (owned : Owned ingests) (unwrapped : Unwrapped ingests event)
    (change : Change limit ingests event after) : Owned after := by
  cases change with
  | pushed node hash owner => exact owned.pushed node hash owner
  | moved bucket phase held file =>
      refine owned.replaced held bucket (fun _ => rfl) ?_ (fun _ _ member => .inl member)
      rintro later ⟨⟩
      exact ⟨rfl, rfl, fun path own => file ▸ own⟩
  | @acquired id task permits held =>
      refine owned.replaced held ingests.bucket (apply_update ScratchDir.next rfl) ?_
        fun node path member => .inl (removals_of_update ingests.dirs task.node
          { ingests.dirs task.node with permits := permits } (fun _ old => old) node path member)
      rintro later ⟨⟩
      exact ⟨rfl, rfl, nofun⟩
  | created asked held => exact owned.created held (unwrapped _ _ _ asked held)
  | filed dir next fewer =>
      exact owned.kept (apply_update ScratchDir.next next) (removals_of_update _ _ _ fewer)
  | @returned id task bucket after held idle =>
      refine owned.replaced held bucket (apply_update ScratchDir.next rfl) ?_ ?_
      · intro later member
        obtain ⟨phase, among, rfl⟩ := Option.map_eq_some_iff.mp member
        refine ⟨rfl, rfl, fun path file => ?_⟩
        rw [idle phase among] at file
        cases file
      · intro node path member
        change path ∈ (Function.update ingests.dirs task.node _ node).removals at member
        by_cases here : node = task.node
        · rw [here, Function.update_self] at member
          rw [here]
          rcases List.mem_append.mp member with own | old
          · refine .inr ⟨rfl, Option.mem_toList.mp own, ?_⟩
            intro later among
            obtain ⟨phase, member, rfl⟩ := Option.map_eq_some_iff.mp among
            exact idle phase member
          · exact .inl old
        · rw [Function.update_of_ne here] at member
          exact .inl member
  | recorded bucket held =>
      exact owned.replaced held bucket (fun _ => rfl) (fun _ member => nomatch member)
        (fun _ _ member => .inl member)
  | restarted node => exact owned.restarted limit node

theorem owned_fresh (limit : Nat) : Owned (fresh limit) where
  below := fun _ _ held => nomatch held
  named := fun _ _ _ held => nomatch held
  apart := fun _ _ _ _ _ held => nomatch held
  spawned := fun _ _ member => nomatch member
  dropped := fun _ _ _ held => nomatch held
  counted := fun _ => Nat.zero_le _

end ScratchIngests

end TdfIrohS3
