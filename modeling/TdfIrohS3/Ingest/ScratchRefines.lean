import TdfIrohS3.Ingest.ScratchOwned
import TdfIrohS3.Library.Simulation

namespace TdfIrohS3

open Library

namespace ScratchIngests

section Refinement

variable {platform : IngestPlatform} {config : ValidationConfig}

/-- Where an ingest is, with its blob on disk and with its blob in hand. What has been read from the
scratch file is still in it. -/
inductive Shows (files : Table String (List UInt8)) {hash : String} :
    ScratchPhase → IngestPhase platform config hash → Prop
  | receiving : Shows files .receiving .receiving
  | observing (left : Nat) : Shows files (.observing left) (.observing left)
  | waiting : Shows files .waiting .inspecting
  | inspecting : Shows files .inspecting .inspecting
  | exporting (path : String) : Shows files (.exporting path) .exporting
  | validating (path : String) (size : Nat) : Shows files (.validating path size) .exporting
  | outboarding {path : String} {size : Nat} {manifest : TdfManifest} {file : List UInt8}
      (there : files.get path = some file)
      (accepted : validateArchive platform config file size = .ok manifest) :
      Shows files (.outboarding path size manifest) .exporting
  | uploading {path : String} (validated : Validated platform config hash) (stage : UploadPhase)
      (retries : Nat) (there : files.get path = some validated.file) :
      Shows files
        (.uploading ⟨path, validated.size, validated.manifest, validated.outboard⟩ stage retries)
        (.uploading validated stage retries)
  | recording (subject : String) (endpoint : EndpointId) :
      Shows files (.recording subject endpoint) (.recording subject endpoint)

inductive TaskShown (dirs : Nat → ScratchDir) :
    Option ScratchTask → Option (IngestTask platform config) → Prop
  | none : TaskShown dirs none none
  | some {task : ScratchTask} {phase : IngestPhase platform config task.hash}
      (shows : Shows (dirs task.node).files task.phase phase) :
      TaskShown dirs (some task) (some ⟨task.hash, task.owner, phase⟩)

structure Refines (ingests : ScratchIngests) (shown : Ingests platform config) : Prop where
  bucket : shown.bucket = ingests.bucket
  nextId : shown.nextId = ingests.nextId
  repairs : ∀ id, shown.repairs id = none
  tasks : ∀ id, TaskShown ingests.dirs (ingests.tasks id) (shown.tasks id)

structure Agree (lower : ScratchIngests × List IngestNotice)
    (upper : Ingests platform config × List IngestNotice) : Prop where
  refines : Refines lower.1 upper.1
  said : upper.2 = lower.2

theorem Agree.append {lower : ScratchIngests × List IngestNotice}
    {upper : Ingests platform config × List IngestNotice} (agree : Agree lower upper)
    (more : List IngestNotice) : Agree (lower.1, lower.2 ++ more) (upper.1, upper.2 ++ more) :=
  ⟨agree.refines, by rw [agree.said]⟩

variable {ingests : ScratchIngests} {shown : Ingests platform config} {id : Nat}
variable {task : ScratchTask} {phase : IngestPhase platform config task.hash}

theorem Shows.congr {files files' : Table String (List UInt8)} {hash : String}
    {lower : ScratchPhase} {upper : IngestPhase platform config hash}
    (shows : Shows files lower upper)
    (same : ∀ path, lower.file = some path → files'.get path = files.get path) :
    Shows files' lower upper := by
  cases shows with
  | receiving => exact .receiving
  | observing left => exact .observing left
  | waiting => exact .waiting
  | inspecting => exact .inspecting
  | exporting path => exact .exporting path
  | validating path size => exact .validating path size
  | outboarding there accepted => exact .outboarding ((same _ rfl).trans there) accepted
  | uploading validated stage retries there =>
      exact .uploading validated stage retries ((same _ rfl).trans there)
  | recording subject endpoint => exact .recording subject endpoint

theorem Shows.uploaded {files : Table String (List UInt8)} {hash : String} {upload : ScratchUpload}
    {stage : UploadPhase} {retries : Nat} {upper : IngestPhase platform config hash}
    (shows : Shows files (.uploading upload stage retries) upper) :
    ∃ path, ∃ validated : Validated platform config hash,
      upload = ⟨path, validated.size, validated.manifest, validated.outboard⟩ ∧
      upper = .uploading validated stage retries ∧ files.get path = some validated.file := by
  generalize same : ScratchPhase.uploading upload stage retries = lower at shows
  cases shows with
  | @uploading path validated _ _ there =>
      cases same
      exact ⟨path, validated, rfl, rfl, there⟩
  | _ => cases same

theorem Refines.found (refines : Refines ingests shown) (held : ingests.tasks id = some task) :
    ∃ phase : IngestPhase platform config task.hash,
      shown.tasks id = some ⟨task.hash, task.owner, phase⟩ ∧
        Shows (ingests.dirs task.node).files task.phase phase := by
  have there := refines.tasks id
  rw [held] at there
  generalize shown.tasks id = other at there
  cases there with
  | some shows => exact ⟨_, rfl, shows⟩

theorem Refines.setBucket (refines : Refines ingests shown) (bucket : Recordings) :
    Refines (ingests.setBucket bucket) (shown.setBucket bucket) :=
  ⟨rfl, refines.nextId, refines.repairs, refines.tasks⟩

theorem Refines.absent (refines : Refines ingests shown) (ended : ingests.tasks id = none) :
    shown.tasks id = none := by
  have there := refines.tasks id
  rw [ended] at there
  generalize shown.tasks id = other at there ⊢
  cases there
  rfl

/-- A task whose file is as before is where it was. -/
theorem Refines.framed (refines : Refines ingests shown) {dirs : Nat → ScratchDir}
    (frame : ∀ found path, ingests.tasks id = some found → found.phase.file = some path →
      (dirs found.node).files.get path = (ingests.dirs found.node).files.get path) :
    TaskShown dirs (ingests.tasks id) (shown.tasks id) := by
  cases held : ingests.tasks id with
  | none =>
      rw [refines.absent held]
      exact .none
  | some task =>
      obtain ⟨phase, found, shows⟩ := refines.found held
      rw [found]
      exact .some (shows.congr fun path file => frame task path held file)

theorem Refines.moved (refines : Refines ingests shown) {dirs : Nat → ScratchDir}
    {after : Option ScratchTask} {later : Option (IngestTask platform config)}
    (frame : ∀ other found path, other ≠ id → ingests.tasks other = some found →
      found.phase.file = some path →
      (dirs found.node).files.get path = (ingests.dirs found.node).files.get path)
    (moves : TaskShown dirs after later) :
    Refines { ingests with dirs := dirs, tasks := Function.update ingests.tasks id after }
      (shown.setTask id later) where
  bucket := refines.bucket
  nextId := refines.nextId
  repairs := refines.repairs
  tasks := by
    intro other
    change TaskShown dirs (Function.update ingests.tasks id after other)
      (Function.update shown.tasks id later other)
    by_cases here : other = id
    · rw [here, Function.update_self, Function.update_self]
      exact moves
    · rw [Function.update_of_ne here, Function.update_of_ne here]
      exact refines.framed fun found path held file => frame other found path here held file

theorem returns_files (ingests : ScratchIngests) (task : ScratchTask) (node : Nat) :
    ((ingests.returns task).dirs node).files = (ingests.dirs node).files := by
  refine apply_update ScratchDir.files ?_ node
  rfl

section Answers

variable (id phase) (refines : Refines ingests shown)
include refines

theorem Refines.advance {lower : ScratchPhase} {upper : IngestPhase platform config task.hash}
    (moves : Shows (ingests.dirs task.node).files lower upper) :
    Agree (ingests.advance id task lower, [])
      (shown.advance id ⟨task.hash, task.owner, phase⟩ upper, []) :=
  ⟨refines.moved (fun _ _ _ _ _ _ => rfl) (.some moves), rfl⟩

theorem Refines.returns {after : Option ScratchTask} {later : Option (IngestTask platform config)}
    (moves : TaskShown (ingests.returns task).dirs after later) :
    Refines ((ingests.returns task).setTask id after) (shown.setTask id later) := by
  refine refines.moved (fun other found path _ _ _ => ?_) moves
  rw [returns_files]

theorem Refines.fail :
    Agree (ingests.fail id task) (shown.fail id ⟨task.hash, task.owner, phase⟩) :=
  ⟨refines.returns id .none, rfl⟩

theorem Refines.succeed :
    Agree (ingests.succeed id task) (shown.succeed id ⟨task.hash, task.owner, phase⟩) := by
  obtain ⟨node, hash, owner, lower⟩ := task
  cases owner with
  | none => exact ⟨refines.returns id .none, rfl⟩
  | some pusher =>
      have moves : TaskShown (ingests.returns ⟨node, hash, some pusher, lower⟩).dirs
          (some ⟨node, hash, some pusher, .recording pusher.1 pusher.2⟩)
          (some ⟨hash, some pusher, .recording pusher.1 pusher.2⟩ :
            Option (IngestTask platform config)) :=
        .some (.recording _ _)
      exact ⟨refines.returns id moves, rfl⟩

section Uploads

variable {validated : Validated platform config task.hash} {path : String}
variable (there : (ingests.dirs task.node).files.get path = some validated.file)
include there

theorem Refines.retry (retries : Nat) :
    Agree (ingests.retry id task ⟨path, validated.size, validated.manifest, validated.outboard⟩
        retries)
      (shown.retry id ⟨task.hash, task.owner, phase⟩ validated retries) := by
  cases retries with
  | zero => exact refines.fail id phase
  | succ left => exact refines.advance id phase (.uploading validated _ _ there)

theorem Refines.blobStored (retries : Nat) :
    Agree (ingests.blobStored id task ⟨path, validated.size, validated.manifest, validated.outboard⟩
        retries)
      (shown.blobStored id ⟨task.hash, task.owner, phase⟩ validated retries) := by
  unfold ScratchIngests.blobStored Ingests.blobStored
  split
  · exact refines.advance id phase (.uploading validated _ _ there)
  · exact refines.succeed id phase

theorem Refines.uploadStored (stage : UploadPhase) (retries : Nat) :
    Agree (ingests.uploadStored id task
        ⟨path, validated.size, validated.manifest, validated.outboard⟩ retries stage)
      (shown.uploadStored id ⟨task.hash, task.owner, phase⟩ validated retries stage) := by
  cases stage with
  | puttingOutboard => exact refines.advance id phase (.uploading validated _ _ there)
  | puttingBlob => exact refines.blobStored id phase there retries
  | headingBlob | puttingManifest => exact refines.succeed id phase

theorem Refines.uploadFailed (stage : UploadPhase) (retries : Nat) :
    Agree (ingests.uploadFailed id task
        ⟨path, validated.size, validated.manifest, validated.outboard⟩ retries stage)
      (shown.uploadFailed id ⟨task.hash, task.owner, phase⟩ validated retries stage) := by
  cases stage with
  | puttingManifest => exact refines.succeed id phase
  | puttingOutboard | headingBlob | puttingBlob => exact refines.retry id phase there retries

theorem Refines.written {stage : UploadPhase} {bucket : Recordings}
    (writes : ingests.written task
      ⟨path, validated.size, validated.manifest, validated.outboard⟩ stage = some bucket) :
    validated.store shown.bucket stage = bucket := by
  rw [refines.bucket]
  cases stage with
  | puttingOutboard => exact Option.some.inj writes
  | headingBlob => cases writes
  | puttingBlob =>
      rw [ScratchIngests.written, there] at writes
      exact Option.some.inj writes
  | puttingManifest =>
      obtain ⟨json, serialized, rfl⟩ := Option.map_eq_some_iff.mp writes
      rw [Validated.store, serialized]
      rfl

theorem Refines.put {stage : UploadPhase} {retries : Nat} (writes : stage ≠ .headingBlob)
    (found : shown.tasks id =
      some ⟨task.hash, task.owner, .uploading validated stage retries⟩) (outcome : Outcome) :
    ∃ event answer, shown.next event = some answer ∧
      Agree (ingests.put id task ⟨path, validated.size, validated.manifest, validated.outboard⟩
        stage retries outcome) answer := by
  have failed := refines.uploadFailed id (.uploading validated stage retries) there stage retries
  unfold ScratchIngests.put
  split
  · rename_i bucket wrote
    have stored := (refines.setBucket bucket).uploadStored id (.uploading validated stage retries)
      there stage retries
    rw [← refines.written there wrote] at stored ⊢
    rw [← refines.bucket]
    refine ⟨.put id .done, _, ?_, stored.append _⟩
    simp only [Ingests.next, found, if_neg writes]
  · rename_i bucket wrote
    have lost := (refines.setBucket bucket).uploadFailed id (.uploading validated stage retries)
      there stage retries
    rw [← refines.written there wrote] at lost ⊢
    rw [← refines.bucket]
    refine ⟨.put id .lost, _, ?_, lost.append _⟩
    simp only [Ingests.next, found, if_neg writes]
  · refine ⟨.put id .failed, _, ?_, failed⟩
    simp only [Ingests.next, found, if_neg writes]

end Uploads

end Answers

theorem Agree.step {lower : ScratchIngests × List IngestNotice}
    {upper : Ingests platform config × List IngestNotice} (agree : Agree lower upper)
    (event : IngestEvent) (taken : shown.next event = some upper) (log : List IngestNotice) :
    ∃ reached, Refines lower.1 reached ∧
      (ingestMachine platform config).Free log shown (lower.2 ++ log) reached := by
  refine ⟨upper.1, agree.refines, ?_⟩
  rw [← agree.said]
  exact Machine.Run.one taken

theorem Refines.unseen (refines : Refines ingests shown) (log : List IngestNotice) :
    ∃ reached, Refines ingests reached ∧
      (ingestMachine platform config).Free log shown ([] ++ log) reached :=
  ⟨shown, refines, Machine.Run.refl⟩

theorem Refines.still (refines : Refines ingests shown)
    (found : shown.tasks id = some ⟨task.hash, task.owner, phase⟩) {dirs : Nat → ScratchDir}
    {lower : ScratchPhase}
    (frame : ∀ other found path, other ≠ id → ingests.tasks other = some found →
      found.phase.file = some path →
      (dirs found.node).files.get path = (ingests.dirs found.node).files.get path)
    (moves : Shows (dirs task.node).files lower phase) :
    Refines { ingests with
      dirs := dirs, tasks := Function.update ingests.tasks id (some { task with phase := lower }) }
      shown := by
  have there : TaskShown dirs (some { task with phase := lower })
      (some ⟨task.hash, task.owner, phase⟩) := .some moves
  have moved := refines.moved frame there
  rw [← found] at moved
  simpa [Ingests.setTask] using moved

theorem Refines.pushed (refines : Refines ingests shown) (node : Nat) (hash : String)
    (owner : Option (String × EndpointId)) :
    Agree ({ ingests.setTask ingests.nextId (some ⟨node, hash, owner, .receiving⟩) with
        nextId := ingests.nextId + 1 }, [.accepted ingests.nextId hash owner])
      ({ shown.setTask shown.nextId (some ⟨hash, owner, .receiving⟩) with
        nextId := shown.nextId + 1 }, [.accepted shown.nextId hash owner]) := by
  have there : TaskShown ingests.dirs (some ⟨node, hash, owner, .receiving⟩)
      (some ⟨hash, owner, .receiving⟩ : Option (IngestTask platform config)) := .some .receiving
  have moved : Refines (ingests.setTask ingests.nextId (some ⟨node, hash, owner, .receiving⟩))
      (shown.setTask ingests.nextId (some ⟨hash, owner, .receiving⟩)) :=
    refines.moved (fun _ _ _ _ _ _ => rfl) there
  rw [refines.nextId]
  exact ⟨⟨moved.bucket, rfl, moved.repairs, moved.tasks⟩, rfl⟩

/-- Whatever goes wrong with the scratch file, at the upper level the export fails. -/
theorem Refines.exportFails (refines : Refines ingests shown)
    (found : shown.tasks id = some ⟨task.hash, task.owner, .exporting⟩) (log : List IngestNotice) :
    ∃ reached, Refines (ingests.fail id task).1 reached ∧
      (ingestMachine platform config).Free log shown ((ingests.fail id task).2 ++ log) reached :=
  (refines.fail id .exporting).step (.exported id none) (by simp [Ingests.next, found]) log

theorem stop_all (log : List IngestNotice) (ids : List Nat) (shown : Ingests platform config)
    (repairs : ∀ id, shown.repairs id = none) :
    (ingestMachine platform config).Free log shown log
      { shown with tasks := fun id => if id ∈ ids then none else shown.tasks id } := by
  induction ids with
  | nil => simpa using Machine.Run.refl
  | cons id rest ih =>
      refine ih.trans ?_
      have stopped : (ingestMachine platform config).next
          { shown with tasks := fun id => if id ∈ rest then none else shown.tasks id } (.stopped id) =
          some ({ shown with tasks := fun other =>
            if other ∈ id :: rest then none else shown.tasks other }, []) := by
        have tasks : Function.update (fun other => if other ∈ rest then none else shown.tasks other) id
            none = fun other => if other ∈ id :: rest then none else shown.tasks other := by
          funext other
          by_cases here : other = id <;> simp [Function.update, here]
        have idle : Function.update shown.repairs id none = shown.repairs := by
          rw [← repairs id, Function.update_eq_self]
        simp only [ingestMachine, Ingests.next, Ingests.setTask, Ingests.setRepair, tasks, idle]
      exact Machine.Run.one stopped

theorem Refines.restarted (refines : Refines ingests shown) (owned : Owned ingests)
    (limit node : Nat) (log : List IngestNotice) :
    ∃ reached, Refines { ingests.setDir node (.prepare limit) with
        tasks := fun id => (ingests.tasks id).filter fun task => task.node != node } reached ∧
      (ingestMachine platform config).Free log shown log reached := by
  -- the tasks of the node, by their ids
  let ids := (List.range ingests.nextId).filter fun id =>
    (ingests.tasks id).any fun task => task.node == node
  refine ⟨_, ?_, stop_all log ids shown refines.repairs⟩
  refine ⟨refines.bucket, refines.nextId, refines.repairs, fun id => ?_⟩
  change TaskShown (Function.update ingests.dirs node (.prepare limit))
    ((ingests.tasks id).filter fun task => task.node != node)
    (if id ∈ ids then none else shown.tasks id)
  cases held : ingests.tasks id with
  | none =>
      rw [refines.absent held, Option.filter_none, ite_self]
      exact .none
  | some task =>
      obtain ⟨phase, found, shows⟩ := refines.found held
      have member : id ∈ ids ↔ task.node = node := by
        have below := owned.below id task held
        simp [ids, held, below]
      by_cases here : task.node = node
      · rw [if_pos (member.mpr here), Option.filter_some, if_neg (by simp [here])]
        exact .none
      · rw [if_neg (mt member.mp here), Option.filter_some, if_pos (by simp [here]), found]
        refine .some ?_
        rw [Function.update_of_ne here]
        exact shows

theorem validateExported_eq {hash : String} {file outboard : List UInt8} {size : Nat}
    {manifest : TdfManifest} (accepted : validateArchive platform config file size = .ok manifest)
    (computed : computeOutboard platform file size hash = .ok outboard) :
    validateExported platform config hash file size =
      .ok { file, size, manifest, outboard, accepted, computed } := by
  unfold validateExported
  split
  · rename_i failed
    rw [accepted] at failed
    cases failed
  · rename_i read passed
    cases accepted.symm.trans passed
    split
    · rename_i failed
      rw [computed] at failed
      cases failed
    · rename_i made passed
      cases computed.symm.trans passed
      rfl

theorem Owned.elsewhere (owned : Owned ingests) (held : ingests.tasks id = some task)
    {path : String} (file : task.phase.file = some path) (bytes : List UInt8)
    (other : Nat) (found : ScratchTask) (name : String) (different : other ≠ id)
    (there : ingests.tasks other = some found) (own : found.phase.file = some name) :
    (Function.update ingests.dirs task.node { ingests.dirs task.node with
      files := (ingests.dirs task.node).files.insert path bytes } found.node).files.get name =
        (ingests.dirs found.node).files.get name := by
  by_cases node : found.node = task.node
  · have apart : name ≠ path := by
      rintro rfl
      exact different (owned.apart other id found task name there held node own file)
    rw [node, Function.update_self]
    exact Table.get_insert_of_ne _ _ apart
  · rw [Function.update_of_ne node]

section Steps

/-- A step of the lower level, and the steps of the upper level that match it. -/
def StepMatched (platform : IngestPlatform) (config : ValidationConfig) (limit : Nat)
    (ingests : ScratchIngests) (event : ScratchEvent) : Prop :=
  ∀ (shown : Ingests platform config) (after : ScratchIngests) (notices log : List IngestNotice),
    Refines ingests shown → Owned ingests →
    ingests.next platform config limit event = some (after, notices) →
    ∃ reached, Refines after reached ∧
      (ingestMachine platform config).Free log shown (notices ++ log) reached

variable {limit : Nat}

theorem ended_matched (id : Nat) (oversize : Bool) :
    StepMatched platform config limit ingests (.ended id oversize) := by
  intro shown after notices log refines owned taken
  simp only [next] at taken
  split at taken
  · rename_i held
    obtain ⟨phase, found, shows⟩ := refines.found held
    cases shows
    split at taken <;> cases taken
    · exact (refines.fail id .receiving).step (.ended id true) (by simp [Ingests.next, found]) log
    · exact (refines.advance id .receiving (.observing observeAttempts)).step (.ended id false)
        (by simp [Ingests.next, found]) log
  · cases taken

theorem observed_matched (id : Nat) (complete : Option Bool) :
    StepMatched platform config limit ingests (.observed id complete) := by
  intro shown after notices log refines owned taken
  simp only [next] at taken
  split at taken
  · rename_i left held
    obtain ⟨phase, found, shows⟩ := refines.found held
    cases shows
    cases left with
    | zero =>
        cases taken
        exact (refines.fail id (.observing 0)).step (.observed id none)
          (by simp [Ingests.next, found]) log
    | succ left =>
        cases complete with
        | none =>
            cases taken
            exact (refines.fail id (.observing (left + 1))).step (.observed id none)
              (by simp [Ingests.next, found]) log
        | some complete =>
            cases complete <;> cases taken
            · exact (refines.advance id (.observing (left + 1)) (.observing left)).step
                (.observed id (some false)) (by simp [Ingests.next, found]) log
            · exact (refines.advance id (.observing (left + 1)) .waiting).step
                (.observed id (some true)) (by simp [Ingests.next, found]) log
  · cases taken

theorem acquired_matched (id : Nat) :
    StepMatched platform config limit ingests (.acquired id) := by
  intro shown after notices log refines owned taken
  simp only [next] at taken
  split at taken
  · rename_i held
    obtain ⟨phase, found, shows⟩ := refines.found held
    cases shows
    split at taken <;> cases taken
    refine (refines.still found (fun _ _ _ _ _ _ => ?_) .inspecting).unseen log
    rw [setDir, apply_update ScratchDir.files]
    rfl
  · cases taken

theorem inspected_matched (id : Nat) (bitfield : Option (Nat × Bool)) :
    StepMatched platform config limit ingests (.inspected id bitfield) := by
  intro shown after notices log refines owned taken
  simp only [next] at taken
  split at taken
  · rename_i node hash owner held
    obtain ⟨phase, found, shows⟩ := refines.found held
    cases shows
    split at taken
    · cases taken
      exact (refines.fail id .inspecting).step (.inspected id none) (by simp [Ingests.next, found]) log
    · rename_i size complete
      split at taken <;> cases taken
      · rename_i passed
        have created : Agree (ingests.create id ⟨node, hash, owner, .inspecting⟩, [])
            (shown.advance id ⟨hash, owner, .inspecting⟩ .exporting, []) := by
          refine ⟨refines.moved (fun _ _ _ _ _ _ => ?_) (.some (.exporting _)), rfl⟩
          rw [setDir, apply_update ScratchDir.files]
          rfl
        exact created.step (.inspected id (some (size, complete)))
          (by simp [Ingests.next, found, passed]) log
      · exact (refines.fail id .inspecting).step (.inspected id none)
          (by simp [Ingests.next, found]) log
  · cases taken

theorem wrote_matched (id : Nat) (bytes : List UInt8) :
    StepMatched platform config limit ingests (.wrote id bytes) := by
  intro shown after notices log refines owned taken
  simp only [next] at taken
  split at taken
  · rename_i node hash owner path held
    obtain ⟨phase, found, shows⟩ := refines.found held
    cases shows
    cases taken
    have still := refines.still found (owned.elsewhere held rfl bytes) (.exporting path)
    rw [← held, Function.update_eq_self] at still
    exact still.unseen log
  · cases taken

theorem exported_matched (id : Nat) (size : Option Nat) :
    StepMatched platform config limit ingests (.exported id size) := by
  intro shown after notices log refines owned taken
  simp only [next] at taken
  split at taken
  · rename_i held
    obtain ⟨phase, found, shows⟩ := refines.found held
    cases shows
    split at taken <;> cases taken
    · exact refines.exportFails found log
    · exact (refines.still found (fun _ _ _ _ _ _ => rfl) (.validating _ _)).unseen log
  · cases taken

theorem validated_matched (id : Nat) (opens : Bool) :
    StepMatched platform config limit ingests (.validated id opens) := by
  intro shown after notices log refines owned taken
  simp only [next] at taken
  split at taken
  · rename_i held
    obtain ⟨phase, found, shows⟩ := refines.found held
    cases shows
    have failed := refines.exportFails found log
    simp only [validate] at taken
    split at taken
    · rename_i there
      split at taken <;> cases taken
      · rename_i accepted
        exact (refines.still found (fun _ _ _ _ _ _ => rfl)
          (.outboarding there accepted)).unseen log
      · exact failed
    · cases taken
      exact failed
  · cases taken

/-- The blob is now in hand at the upper level: what was validated is what is in the file still. -/
theorem outboarded_matched (id : Nat) (opens : Bool) :
    StepMatched platform config limit ingests (.outboarded id opens) := by
  intro shown after notices log refines owned taken
  simp only [next] at taken
  split at taken
  · rename_i node hash owner path size manifest held
    obtain ⟨phase, found, shows⟩ := refines.found held
    cases shows with
    | @outboarding _ _ _ file there accepted =>
      have failed := refines.exportFails found log
      simp only [outboard] at taken
      split at taken
      · rename_i opened
        cases there.symm.trans opened
        split at taken <;> cases taken
        · rename_i made computed
          have exported := validateExported_eq accepted computed
          refine (refines.advance id .exporting (.uploading
            ⟨file, size, manifest, made, accepted, computed⟩ .puttingOutboard uploadRetries
            there)).step (.exported id (some (file, size))) ?_ log
          simp only [Ingests.next, found, exported]
        · exact failed
      · cases taken
        exact failed
  · cases taken

theorem put_matched (id : Nat) (outcome : Outcome) :
    StepMatched platform config limit ingests (.put id outcome) := by
  intro shown after notices log refines owned taken
  simp only [next] at taken
  split at taken
  · rename_i held
    obtain ⟨phase, found, shows⟩ := refines.found held
    obtain ⟨path, validated, same, rfl, there⟩ := shows.uploaded
    split at taken
    · cases taken
    · rename_i writes
      obtain ⟨rfl, rfl⟩ := result_of_some taken
      obtain ⟨event, answer, answered, agree⟩ := refines.put id there writes found outcome
      rw [← same] at agree
      exact agree.step event answered log
  · cases taken

theorem headed_matched (id : Nat) (answered : Bool) :
    StepMatched platform config limit ingests (.headed id answered) := by
  intro shown after notices log refines owned taken
  simp only [next] at taken
  split at taken
  · rename_i retries held
    obtain ⟨phase, found, shows⟩ := refines.found held
    obtain ⟨path, validated, same, rfl, there⟩ := shows.uploaded
    split at taken
    · split at taken <;> obtain ⟨rfl, rfl⟩ := result_of_some taken
      · rename_i present
        have agree := refines.blobStored id (.uploading validated .headingBlob retries) there retries
        rw [← same] at agree
        refine agree.step (.headed id true) ?_ log
        simp [Ingests.next, found, refines.bucket, present]
      · rename_i absent
        have agree := refines.advance id (.uploading validated .headingBlob retries)
          (.uploading validated .puttingBlob retries there)
        rw [← same] at agree
        refine agree.step (.headed id true) ?_ log
        simp [Ingests.next, found, refines.bucket, absent]
    · obtain ⟨rfl, rfl⟩ := result_of_some taken
      have agree := refines.retry id (.uploading validated .headingBlob retries) there retries
      rw [← same] at agree
      refine agree.step (.headed id false) ?_ log
      simp [Ingests.next, found]
  · cases taken

theorem ownerPut_matched (id : Nat) (at_ : Int) (outcome : Outcome) :
    StepMatched platform config limit ingests (.ownerPut id at_ outcome) := by
  intro shown after notices log refines owned taken
  simp only [next] at taken
  split at taken
  · rename_i held
    obtain ⟨phase, found, shows⟩ := refines.found held
    cases shows
    have recorded : ∀ bucket notices, Agree ((ingests.setBucket bucket).setTask id none, notices)
        ((shown.setBucket bucket).setTask id none, notices) := fun bucket notices =>
      ⟨(refines.setBucket bucket).moved (fun _ _ _ _ _ _ => rfl) .none, rfl⟩
    have ended : Agree (ingests.setTask id none, []) (shown.setTask id none, []) :=
      ⟨refines.moved (fun _ _ _ _ _ _ => rfl) .none, rfl⟩
    split at taken <;> cases taken
    · exact (recorded _ _).step (.ownerPut id at_ .done)
        (by simp [Ingests.next, found, refines.bucket]) log
    · exact ended.step (.ownerPut id at_ .failed) (by simp [Ingests.next, found]) log
    · exact (recorded _ _).step (.ownerPut id at_ .lost)
        (by simp [Ingests.next, found, refines.bucket]) log
  · cases taken

/-- Only files that no ingest has are removed. -/
theorem removed_matched (node : Nat) (path : String) (gone : Bool) :
    StepMatched platform config limit ingests (.removed node path gone) := by
  intro shown after notices log refines owned taken
  simp only [next] at taken
  split at taken <;> cases taken
  rename_i spawned
  refine ⟨shown, ⟨refines.bucket, refines.nextId, refines.repairs, fun id => ?_⟩, Machine.Run.refl⟩
  refine refines.framed fun task own held file => ?_
  change (Function.update ingests.dirs node _ task.node).files.get own = _
  by_cases here : task.node = node
  · have other : own ≠ path := by
      rintro rfl
      exact owned.dropped id task own held file (here ▸ spawned)
    rw [here, Function.update_self]
    cases gone with
    | false => rfl
    | true => exact Table.get_remove_of_ne _ other
  · rw [Function.update_of_ne here]

theorem step_matched (event : ScratchEvent) :
    StepMatched platform config limit ingests event := by
  cases event with
  | push node hash owner =>
      intro shown after notices log refines owned taken
      cases taken
      exact (refines.pushed node hash owner).step (.push hash owner) rfl log
  | ended id oversize => exact ended_matched id oversize
  | observed id complete => exact observed_matched id complete
  | acquired id => exact acquired_matched id
  | inspected id bitfield => exact inspected_matched id bitfield
  | wrote id bytes => exact wrote_matched id bytes
  | exported id size => exact exported_matched id size
  | validated id opens => exact validated_matched id opens
  | outboarded id opens => exact outboarded_matched id opens
  | put id outcome => exact put_matched id outcome
  | headed id answered => exact headed_matched id answered
  | ownerPut id at_ outcome => exact ownerPut_matched id at_ outcome
  | removed node path gone => exact removed_matched node path gone
  | restart node =>
      intro shown after notices log refines owned taken
      cases taken
      exact refines.restarted owned limit node log

end Steps

theorem refines_fresh (limit : Nat) :
    Refines (fresh limit) (Ingests.fresh : Ingests platform config) :=
  ⟨rfl, rfl, fun _ => rfl, fun _ => .none⟩

/-- With the blobs of all its ingests in one directory per node, where exports write them piece by
piece and removals run whenever they do, an ingest is what it is with its own blob in hand: what is
validated, what the outboard is of and what each attempt uploads are one blob, also where several
ingests of one hash run at once. -/
theorem scratch_ingests_refine_ingests {limit : Nat} {log : List IngestNotice}
    (run : (scratchMachine platform config limit).Run (fun _ state event => Unwrapped state event) []
      (fresh limit) log ingests) :
    ∃ shown : Ingests platform config,
      Refines ingests shown ∧ (ingestMachine platform config).Free [] .fresh log shown := by
  have matched : Machine.Matched (ingestMachine platform config)
      (scratchMachine platform config limit) (fun _ state event => Unwrapped state event)
      (fun lower upper => Refines lower upper ∧ Owned lower) := by
    intro log lower upper event after notices both unwrapped taken
    obtain ⟨reached, refines, steps⟩ :=
      step_matched event upper after notices log both.1 both.2 taken
    exact ⟨reached, ⟨refines, owned_step both.2 unwrapped (change_of_next taken)⟩, steps⟩
  obtain ⟨shown, both, reached⟩ := run.simulates matched ⟨refines_fresh limit, owned_fresh limit⟩
  exact ⟨shown, both.1, reached⟩

end Refinement

private def plainArchive (bytes : List UInt8) : ZipArchive where
  names := ["manifest.json", "0.payload"]
  byName name := some (if name = "0.payload" then ⟨0, fun _ => some []⟩
    else ⟨bytes.length, fun limit => some (bytes.take limit)⟩)

private def plainPlatform : IngestPlatform :=
  { zip := fun bytes => some (plainArchive bytes)
    fromJson := fun bytes => some ⟨none, [], "", some bytes⟩
    debug := id, blake3 := id, outboard := fun bytes => bytes.drop 1,
    parseFqn := fun _ => none, readKey := fun _ => none }

private def plainConfig : ValidationConfig :=
  { requiredAttributes := [], assertion := ⟨false, []⟩, maxBlobBytes := 8 }

private def sameHashTwice : List ScratchEvent :=
  [.push 4 "0c0d" none, .push 4 "0c0d" none, .ended 0 false, .ended 1 false,
    .observed 0 (some true), .observed 1 (some true), .acquired 0, .acquired 1,
    .inspected 0 (some (2, true)), .inspected 1 (some (2, true)), .wrote 0 [12, 13], .wrote 1 [12],
    .exported 0 (some 2), .validated 0 true, .outboarded 0 true, .put 0 .done, .headed 0 true,
    .put 0 .done, .put 0 .done, .removed 4 "0c0d.0.tdf" true, .wrote 1 [12, 13],
    .exported 1 (some 2), .validated 1 true, .outboarded 1 true, .put 1 .lost, .put 1 .done,
    .headed 1 true, .put 1 .done]

private def unwrappedCheck (ingests : ScratchIngests) : ScratchEvent → Bool
  | .inspected id _ => (ingests.tasks id).all fun task => (ingests.dirs task.node).next < UInt64.size
  | _ => true

private theorem unwrapped_of_check (ingests : ScratchIngests) (event : ScratchEvent)
    (checked : unwrappedCheck ingests event = true) : Unwrapped ingests event := by
  rintro id bitfield task rfl held
  rw [unwrappedCheck, held] at checked
  exact of_decide_eq_true checked

private def bothIngested (log : List IngestNotice) (_ : ScratchIngests) : Bool :=
  log == [.ingested 1 "0c0d", .ingested 0 "0c0d", .stored 0 "0c0d", .accepted 1 "0c0d" none,
    .accepted 0 "0c0d" none]

private theorem sameHashTwice_executed :
    ((scratchMachine plainPlatform plainConfig 2).execute
      (fun _ ingests event => unwrappedCheck ingests event) sameHashTwice [] (fresh 2)).map
      (fun ended => bothIngested ended.1 ended.2) = some true := by
  decide +kernel

theorem scratch_ingests_refine_ingests_of_one_hash :
    ∃ log ingests, (scratchMachine plainPlatform plainConfig 2).Run
        (fun _ state event => Unwrapped state event) [] (fresh 2) log ingests ∧
      .ingested 0 "0c0d" ∈ log ∧ .ingested 1 "0c0d" ∈ log ∧
      ∃ shown : Ingests plainPlatform plainConfig, Refines ingests shown ∧
        (ingestMachine plainPlatform plainConfig).Free [] .fresh log shown := by
  obtain ⟨log, ingests, run, both⟩ := Machine.execute_reaches
    (fun _ ingests event => unwrapped_of_check ingests event) sameHashTwice bothIngested
    sameHashTwice_executed
  rw [bothIngested, beq_iff_eq] at both
  refine ⟨log, ingests, run, ?_, ?_, scratch_ingests_refine_ingests run⟩ <;> simp [both]

end ScratchIngests

end TdfIrohS3
