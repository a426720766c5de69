import TdfIrohS3.Ingest.Steps
import TdfIrohS3.Library.Slots

namespace TdfIrohS3

open Library

structure Recorded (platform : IngestPlatform) (config : ValidationConfig) (bucket : Recordings)
    (hash : String) (bytes : List UInt8) : Prop where
  hashes : platform.blake3Hex bytes = hash
  accepted : ∃ manifest, validateArchive platform config bytes bytes.length = .ok manifest
  sized : bytes.length ≤ config.maxBlobBytes
  outboard : bucket.outboards.get hash = some (platform.outboard bytes)

/-- The local store exports what it says: a file of that size. That the bytes hash to the name is
checked by the ingest itself. -/
def ExportsWhole : IngestEvent → Prop
  | .exported _ (some (file, size)) => file.length = size
  | _ => True

def OutboardOf (platform : IngestPlatform) (hash : String) (outboard : List UInt8) : Prop :=
  ∃ bytes, platform.blake3Hex bytes = hash ∧ outboard = platform.outboard bytes

section Buckets

variable {platform : IngestPlatform} {config : ValidationConfig} {bucket after : Recordings}
variable {hash : String} {bytes outboard : List UInt8}

theorem blake3Hex_injective (collisionFree : Function.Injective platform.blake3) :
    Function.Injective platform.blake3Hex :=
  Text.hexEncode_injective.comp collisionFree

theorem outboardOf_eq (collisionFree : Function.Injective platform.blake3)
    (computed : OutboardOf platform hash outboard) (hashes : platform.blake3Hex bytes = hash) :
    outboard = platform.outboard bytes := by
  obtain ⟨others, same, rfl⟩ := computed
  rw [blake3Hex_injective collisionFree (same.trans hashes.symm)]

theorem computeOutboard_of {data : List UInt8} {size : Nat}
    (computed : computeOutboard platform data size hash = .ok outboard) :
    OutboardOf platform hash outboard :=
  ⟨data.take size, (computeOutboard_ok computed).2⟩

structure BucketSound (platform : IngestPlatform) (config : ValidationConfig)
    (bucket : Recordings) : Prop where
  blobs : ∀ hash bytes, bucket.blobs.get hash = some bytes →
    Recorded platform config bucket hash bytes
  outboards : ∀ hash outboard, bucket.outboards.get hash = some outboard →
    OutboardOf platform hash outboard

inductive Grows (platform : IngestPlatform) (config : ValidationConfig) (bucket : Recordings) :
    Recordings → Prop
  | kept {after : Recordings} (blobs : after.blobs = bucket.blobs)
      (outboards : after.outboards = bucket.outboards) : Grows platform config bucket after
  | outboard {hash : String} {outboard : List UInt8} (computed : OutboardOf platform hash outboard) :
      Grows platform config bucket
        { bucket with outboards := bucket.outboards.insert hash outboard }
  | blob {hash : String} {bytes : List UInt8} {manifest : TdfManifest}
      (hashes : platform.blake3Hex bytes = hash)
      (accepted : validateArchive platform config bytes bytes.length = .ok manifest)
      (present : bucket.outboards.contains hash = true) :
      Grows platform config bucket { bucket with blobs := bucket.blobs.insert hash bytes }

theorem grows_blobs (grows : Grows platform config bucket after)
    (present : bucket.blobs.contains hash = true) : after.blobs.contains hash = true := by
  cases grows with
  | kept blobs _ => rwa [blobs]
  | outboard computed => exact present
  | blob hashes accepted there => exact Table.contains_insert_of_contains _ _ present

theorem grows_outboards (grows : Grows platform config bucket after)
    (present : bucket.outboards.contains hash = true) : after.outboards.contains hash = true := by
  cases grows with
  | kept _ outboards => rwa [outboards]
  | outboard computed => exact Table.contains_insert_of_contains _ _ present
  | blob hashes accepted there => exact present

/-- An outboard is only ever replaced by an equal one, so a put of it leaves every blob recorded. -/
theorem recorded_outboard_put (collisionFree : Function.Injective platform.blake3)
    {put : String} (computed : OutboardOf platform put outboard)
    (recorded : Recorded platform config bucket hash bytes) :
    Recorded platform config { bucket with outboards := bucket.outboards.insert put outboard }
      hash bytes := by
  have kept : (bucket.outboards.insert put outboard).get hash = some (platform.outboard bytes) := by
    rw [Table.get_insert]
    split
    · rename_i same
      rw [outboardOf_eq collisionFree computed (recorded.hashes.trans same)]
    · exact recorded.outboard
  exact ⟨recorded.hashes, recorded.accepted, recorded.sized, kept⟩

theorem recorded_blob_put (collisionFree : Function.Injective platform.blake3)
    (sound : BucketSound platform config bucket) {manifest : TdfManifest}
    (hashes : platform.blake3Hex bytes = hash)
    (accepted : validateArchive platform config bytes bytes.length = .ok manifest)
    (present : bucket.outboards.contains hash = true) :
    Recorded platform config bucket hash bytes := by
  obtain ⟨outboard, found⟩ := Option.isSome_iff_exists.mp present
  have same := outboardOf_eq collisionFree (sound.outboards hash outboard found) hashes
  exact ⟨hashes, ⟨manifest, accepted⟩, validateArchive_size accepted, same ▸ found⟩

theorem bucketSound_grows (collisionFree : Function.Injective platform.blake3)
    (sound : BucketSound platform config bucket) (grows : Grows platform config bucket after) :
    BucketSound platform config after := by
  cases grows with
  | kept blobs outboards =>
      constructor
      · intro hash bytes stored
        have recorded := sound.blobs hash bytes (blobs ▸ stored)
        exact ⟨recorded.hashes, recorded.accepted, recorded.sized, outboards ▸ recorded.outboard⟩
      · intro hash outboard stored
        exact sound.outboards hash outboard (outboards ▸ stored)
  | outboard computed =>
      constructor
      · intro hash bytes stored
        exact recorded_outboard_put collisionFree computed (sound.blobs hash bytes stored)
      · intro hash outboard stored
        simp only [Table.get_insert] at stored
        split at stored
        · rename_i same
          cases stored
          exact same ▸ computed
        · exact sound.outboards hash outboard stored
  | blob hashes accepted present =>
      constructor
      · intro hash bytes stored
        simp only [Table.get_insert] at stored
        split at stored
        · rename_i same
          cases stored
          have recorded := recorded_blob_put collisionFree sound (hashes.trans same.symm) accepted
            (same ▸ present)
          exact ⟨recorded.hashes, recorded.accepted, recorded.sized, recorded.outboard⟩
        · have recorded := sound.blobs hash bytes stored
          exact ⟨recorded.hashes, recorded.accepted, recorded.sized, recorded.outboard⟩
      · exact sound.outboards

end Buckets

def Reached (bucket : Recordings) (hash : String) : UploadPhase → Prop
  | .puttingOutboard => True
  | .headingBlob | .puttingBlob => bucket.outboards.contains hash = true
  | .puttingManifest => bucket.blobs.contains hash = true

theorem reached_grows {platform : IngestPlatform} {config : ValidationConfig}
    {bucket after : Recordings} {hash : String} {stage : UploadPhase}
    (grows : Grows platform config bucket after) (reached : Reached bucket hash stage) :
    Reached after hash stage := by
  cases stage with
  | puttingOutboard => trivial
  | headingBlob | puttingBlob => exact grows_outboards grows reached
  | puttingManifest => exact grows_blobs grows reached

namespace Ingests

variable {platform : IngestPlatform} {config : ValidationConfig}

def PhaseSound (bucket : Recordings) {hash : String} : IngestPhase platform config hash → Prop
  | .uploading validated stage _ =>
      validated.file.length = validated.size ∧ Reached bucket hash stage
  | _ => True

def TasksSound (bucket : Recordings) (ingests : Ingests platform config) : Prop :=
  ∀ id task, ingests.tasks id = some task → PhaseSound bucket task.phase

def RepairsSound (ingests : Ingests platform config) : Prop :=
  ∀ id repair outboard, ingests.repairs id = some repair →
    repair.computed = some outboard → OutboardOf platform repair.hash outboard

structure Sound (ingests : Ingests platform config) : Prop where
  bucket : BucketSound platform config ingests.bucket
  tasks : TasksSound ingests.bucket ingests
  repairs : RepairsSound ingests

section Steps

variable {ingests after : Ingests platform config} {event : IngestEvent}
variable {notices : List IngestNotice}

theorem body_of_whole {hash : String} {validated : Validated platform config hash}
    (whole : validated.file.length = validated.size) : validated.body = validated.file := by
  rw [Validated.body, ← whole, List.take_length]

theorem blob_grows {bucket : Recordings} {hash : String} {validated : Validated platform config hash}
    (whole : validated.file.length = validated.size)
    (present : bucket.outboards.contains hash = true) :
    Grows platform config bucket (validated.store bucket .puttingBlob) := by
  have body := body_of_whole whole
  have hashes : platform.blake3Hex validated.body = hash :=
    (computeOutboard_ok validated.computed).2.1
  have accepted := validated.accepted
  rw [← whole, ← body] at accepted
  exact .blob hashes accepted present

theorem store_grows {bucket : Recordings} {hash : String}
    {validated : Validated platform config hash} {stage : UploadPhase} {retries : Nat}
    (sound : PhaseSound bucket (.uploading validated stage retries)) :
    Grows platform config bucket (validated.store bucket stage) := by
  cases stage with
  | puttingOutboard => exact .outboard (computeOutboard_of validated.computed)
  | headingBlob => exact .kept rfl rfl
  | puttingBlob => exact blob_grows sound.1 sound.2
  | puttingManifest => exact .kept rfl rfl

theorem proceed_bucket (ingests : Ingests platform config) (id : Nat)
    (task : IngestTask platform config) (validated : Validated platform config task.hash)
    (next : UploadNext) :
    (ingests.proceed id task validated next).1.bucket = ingests.bucket := by
  cases next with
  | waits stage retries => rfl
  | succeeds =>
      simp only [proceed, succeed]
      split <;> rfl
  | fails => rfl

theorem afterCall_grows {id : Nat} {task : IngestTask platform config}
    {validated : Validated platform config task.hash} {stage : UploadPhase} {retries : Nat}
    (sound : Sound ingests) (held : ingests.tasks id = some task)
    (phase : task.phase = .uploading validated stage retries) (written : Bool) :
    Grows platform config ingests.bucket (ingests.afterCall validated stage written).bucket := by
  cases written with
  | false => exact .kept rfl rfl
  | true =>
      have here := sound.tasks id task held
      rw [phase] at here
      exact store_grows here

theorem effect_grows (sound : Sound ingests) (effect : Effect ingests event after notices) :
    Grows platform config ingests.bucket after.bucket := by
  cases effect with
  | called held phase follows =>
      rw [proceed_bucket]
      exact afterCall_grows sound held phase _
  | repaired held computed => exact .outboard (sound.repairs _ _ _ held computed)
  | _ => exact .kept rfl rfl

def NextSound (bucket : Recordings) (hash : String) : UploadNext → Prop
  | .waits stage _ => Reached bucket hash stage
  | .succeeds => bucket.blobs.contains hash = true
  | .fails => True

theorem nextSound_of_blob {bucket : Recordings} {hash : String} {next : UploadNext}
    (present : bucket.blobs.contains hash = true)
    (next_eq : next = .succeeds ∨ ∃ retries, next = .waits .puttingManifest retries) :
    NextSound bucket hash next := by
  rcases next_eq with rfl | ⟨retries, rfl⟩ <;> exact present

theorem follows_sound {hash : String} (validated : Validated platform config hash)
    {stage : UploadPhase} {written : Bool} {next : UploadNext}
    (follows : Follows ingests.bucket hash stage written next)
    (reached : Reached ingests.bucket hash stage) :
    NextSound (ingests.afterCall validated stage written).bucket hash next := by
  cases follows with
  | restarts retries => trivial
  | fails => trivial
  | outboardPut retries => exact Table.contains_insert_self _ _ _
  | blobMissing retries => exact reached
  | blobFound present next_eq => exact nextSound_of_blob present next_eq
  | blobPut next_eq => exact nextSound_of_blob (Table.contains_insert_self _ _ _) next_eq
  | manifestPut => cases written <;> exact reached

theorem phaseSound_grows {bucket grown : Recordings} {hash : String}
    {phase : IngestPhase platform config hash} (grows : Grows platform config bucket grown)
    (sound : PhaseSound bucket phase) : PhaseSound grown phase := by
  cases phase with
  | uploading validated stage retries => exact ⟨sound.1, reached_grows grows sound.2⟩
  | _ => trivial

theorem phaseSound_early {bucket : Recordings} {hash : String}
    {phase : IngestPhase platform config hash} (early : phase.Early) : PhaseSound bucket phase := by
  cases phase with
  | uploading validated stage retries => exact early.elim
  | _ => trivial

theorem tasksSound_none {bucket : Recordings} {state : Ingests platform config} (id : Nat)
    (sound : TasksSound bucket state) : TasksSound bucket (state.setTask id none) := by
  intro other task held
  exact sound other task (held_of_clear held)

theorem tasksSound_some {bucket : Recordings} {state : Ingests platform config} (id : Nat)
    {moved : IngestTask platform config} (sound : TasksSound bucket state)
    (new : PhaseSound bucket moved.phase) : TasksSound bucket (state.setTask id (some moved)) := by
  intro other task held
  rcases held_of_fill held with ⟨-, rfl⟩ | held
  · exact new
  · exact sound other task held

theorem tasksSound_succeed {bucket : Recordings} {state : Ingests platform config} (id : Nat)
    (task : IngestTask platform config) (sound : TasksSound bucket state) :
    TasksSound bucket (state.succeed id task).1 := by
  unfold succeed
  split
  · exact tasksSound_some id sound trivial
  · exact tasksSound_none id sound

theorem afterCall_tasks {hash : String} (validated : Validated platform config hash)
    (stage : UploadPhase) (written : Bool) :
    (ingests.afterCall validated stage written).tasks = ingests.tasks := by
  cases written <;> rfl

theorem tasksSound_proceed {bucket : Recordings} {state : Ingests platform config} {id : Nat}
    {task : IngestTask platform config} {validated : Validated platform config task.hash}
    {next : UploadNext} (whole : validated.file.length = validated.size)
    (reached : NextSound bucket task.hash next) (sound : TasksSound bucket state) :
    TasksSound bucket (state.proceed id task validated next).1 := by
  cases next with
  | waits stage retries => exact tasksSound_some id sound ⟨whole, reached⟩
  | succeeds => exact tasksSound_succeed id task sound
  | fails => exact tasksSound_none id sound

theorem validateExported_whole {hash : String} {file : List UInt8} {size : Nat}
    {validated : Validated platform config hash}
    (passed : validateExported platform config hash file size = .ok validated) :
    validated.file = file ∧ validated.size = size := by
  unfold validateExported at passed
  split at passed
  · cases passed
  · split at passed
    · cases passed
    · cases passed
      exact ⟨rfl, rfl⟩

theorem effect_tasks (sound : Sound ingests) (whole : ExportsWhole event)
    (effect : Effect ingests event after notices) : TasksSound after.bucket after := by
  have grows := effect_grows sound effect
  have old : TasksSound after.bucket ingests := fun id task held =>
    phaseSound_grows grows (sound.tasks id task held)
  cases effect with
  | accepted hash owner => exact tasksSound_some ingests.nextId old trivial
  | refused held => exact tasksSound_none _ old
  | waited held early => exact tasksSound_some _ old (phaseSound_early early)
  | validated held passed =>
      have same := validateExported_whole passed
      have fits := whole
      simp only [ExportsWhole, ← same.1, ← same.2] at fits
      exact tasksSound_some _ old ⟨fits, trivial⟩
  | @called _ id task validated stage retries written next held phase follows =>
      have here := sound.tasks id task held
      rw [phase] at here
      rw [proceed_bucket] at old ⊢
      refine tasksSound_proceed here.1 (follows_sound validated follows here.2) ?_
      intro other task held
      rw [afterCall_tasks] at held
      exact old other task held
  | recorded held phase written =>
      exact tasksSound_none _ fun other task held => old other task held
  | dropped id => exact tasksSound_none id old
  | stopped id => exact tasksSound_none id old
  | repairing hash size => exact old
  | repairDropped id => exact old
  | repairRead computed => exact old
  | repaired held computed => exact old

theorem proceed_repairs (ingests : Ingests platform config) (id : Nat)
    (task : IngestTask platform config) (validated : Validated platform config task.hash)
    (next : UploadNext) :
    (ingests.proceed id task validated next).1.repairs = ingests.repairs := by
  cases next with
  | waits stage retries => rfl
  | succeeds =>
      simp only [proceed, succeed]
      split <;> rfl
  | fails => rfl

theorem afterCall_repairs {hash : String} (validated : Validated platform config hash)
    (stage : UploadPhase) (written : Bool) :
    (ingests.afterCall validated stage written).repairs = ingests.repairs := by
  cases written <;> rfl

theorem repairsSound_none {state : Ingests platform config} (id : Nat)
    (sound : RepairsSound state) : RepairsSound (state.setRepair id none) := by
  intro other repair outboard held computed
  exact sound other repair outboard (held_of_clear held) computed

theorem repairsSound_some {state : Ingests platform config} (id : Nat) {moved : Repair}
    (sound : RepairsSound state)
    (new : ∀ outboard, moved.computed = some outboard → OutboardOf platform moved.hash outboard) :
    RepairsSound (state.setRepair id (some moved)) := by
  intro other repair outboard held computed
  rcases held_of_fill held with ⟨-, rfl⟩ | held
  · exact new outboard computed
  · exact sound other repair outboard held computed

theorem effect_repairs (sound : RepairsSound ingests) (effect : Effect ingests event after notices) :
    RepairsSound after := by
  cases effect with
  | called held phase follows =>
      unfold RepairsSound
      rw [proceed_repairs, afterCall_repairs]
      exact sound
  | stopped id => exact repairsSound_none id sound
  | repairing hash size =>
      exact repairsSound_some ingests.nextId sound (fun _ computed => nomatch computed)
  | repairDropped id => exact repairsSound_none id sound
  | @repairRead _ id repair _ outboard computed =>
      refine repairsSound_some id sound ?_
      intro found same
      cases same
      exact computeOutboard_of computed
  | repaired held computed => exact repairsSound_none _ sound
  | _ => exact sound

theorem sound_step (collisionFree : Function.Injective platform.blake3) (sound : Sound ingests)
    (whole : ExportsWhole event) (effect : Effect ingests event after notices) : Sound after :=
  ⟨bucketSound_grows collisionFree sound.bucket (effect_grows sound effect),
    effect_tasks sound whole effect, effect_repairs sound.repairs effect⟩

theorem sound_fresh : Sound (fresh : Ingests platform config) := by
  refine ⟨⟨?_, ?_⟩, ?_, ?_⟩
  · intro hash bytes stored
    cases stored
  · intro hash outboard stored
    cases stored
  · intro id task held
    cases held
  · intro id repair outboard held
    cases held

theorem ingested_of_proceed {state : Ingests platform config} {other id : Nat}
    {task : IngestTask platform config} {validated : Validated platform config task.hash}
    {next : UploadNext} {hash : String}
    (reported : .ingested id hash ∈ (state.proceed other task validated next).2) :
    next = .succeeds ∧ hash = task.hash := by
  cases next with
  | waits stage retries => cases reported
  | succeeds =>
      simp only [proceed, succeed] at reported
      split at reported <;> simp at reported <;> exact ⟨rfl, reported.2⟩
  | fails => simp [proceed, fail] at reported

theorem ingested_not_firstStored {bucket : Recordings} {other id : Nat} {hash stored : String}
    {stage : UploadPhase} : .ingested id hash ∉ firstStored bucket other stored stage := by
  unfold firstStored
  split
  · split <;> simp
  · simp

theorem effect_ingested (sound : Sound ingests) (effect : Effect ingests event after notices)
    {id : Nat} {hash : String} (reported : .ingested id hash ∈ notices) :
    after.bucket.blobs.contains hash = true := by
  cases effect with
  | @called _ other task validated stage retries written next held phase follows =>
      have here := sound.tasks other task held
      rw [phase] at here
      have stored := follows_sound validated follows here.2
      rcases List.mem_append.mp reported with proceeded | first
      · obtain ⟨rfl, rfl⟩ := ingested_of_proceed proceeded
        rw [proceed_bucket]
        exact stored
      · cases written with
        | false => cases first
        | true => exact absurd first ingested_not_firstStored
  | recorded held phase written => split at reported <;> simp at reported
  | _ => simp at reported

structure Kept (log : List IngestNotice) (ingests : Ingests platform config) : Prop where
  sound : Sound ingests
  reported : ∀ id hash, .ingested id hash ∈ log → ingests.bucket.blobs.contains hash = true

theorem kept_step (collisionFree : Function.Injective platform.blake3) {log : List IngestNotice}
    (kept : Kept log ingests) (whole : ExportsWhole event)
    (effect : Effect ingests event after notices) : Kept (notices ++ log) after := by
  refine ⟨sound_step collisionFree kept.sound whole effect, ?_⟩
  intro id hash reported
  rcases List.mem_append.mp reported with new | old
  · exact effect_ingested kept.sound effect new
  · exact grows_blobs (effect_grows kept.sound effect) (kept.reported id hash old)

end Steps

/-- In every state of every run of ingests and backfills, whatever fails or stops, a stored blob is
recorded, and an ingest that reported success has left its blob and outboard there. -/
theorem recordings_complete (collisionFree : Function.Injective platform.blake3)
    {log : List IngestNotice} {ingests : Ingests platform config}
    (run : (ingestMachine platform config).Run (fun _ _ event => ExportsWhole event) [] fresh
      log ingests) :
    (∀ hash bytes, ingests.bucket.blobs.get hash = some bytes →
      Recorded platform config ingests.bucket hash bytes) ∧
    ∀ id hash, .ingested id hash ∈ log →
      ∃ bytes, ingests.bucket.blobs.get hash = some bytes ∧
        ingests.bucket.outboards.get hash = some (platform.outboard bytes) := by
  have kept : Kept log ingests := by
    refine run.invariant Kept ⟨sound_fresh, fun _ _ reported => nomatch reported⟩ ?_
    intro log state event next notices kept whole taken
    exact kept_step collisionFree kept whole (machine_effect taken)
  refine ⟨kept.sound.bucket.blobs, ?_⟩
  intro id hash reported
  obtain ⟨bytes, stored⟩ := Option.isSome_iff_exists.mp (kept.reported id hash reported)
  exact ⟨bytes, stored, (kept.sound.bucket.blobs hash bytes stored).outboard⟩

def openPlatform : IngestPlatform :=
  { zip := fun _ => some ⟨["manifest.json", "0.payload"], fun _ => some ⟨0, fun _ => some []⟩⟩
    fromJson := fun _ => some ⟨none, [], "", some []⟩
    debug := id, blake3 := id, outboard := fun bytes => bytes.take 1,
    parseFqn := fun _ => none, readKey := fun _ => none }

def openConfig : ValidationConfig :=
  { requiredAttributes := [], assertion := ⟨false, []⟩, maxBlobBytes := 4 }

def twoPushes : List IngestEvent :=
  [.push "0a0b" none, .push "0a0b" none, .ended 0 false, .observed 0 (some true),
    .inspected 0 (some (2, true)), .exported 0 (some ([10, 11], 2)), .put 0 .done, .ended 1 false,
    .observed 1 (some false), .observed 1 (some true), .inspected 1 (some (2, true)),
    .exported 1 (some ([10, 11], 2)), .headed 0 true, .stopped 0, .put 1 .lost, .put 1 .done,
    .headed 1 true, .put 1 .done, .put 1 .failed]

def exportsWholeCheck : IngestEvent → Bool
  | .exported _ (some (file, size)) => file.length == size
  | _ => true

theorem exportsWhole_of_check (event : IngestEvent) (checked : exportsWholeCheck event = true) :
    ExportsWhole event := by
  unfold exportsWholeCheck at checked
  split at checked
  · exact eq_of_beq checked
  · rename_i other
    unfold ExportsWhole
    split
    · exact absurd rfl (other _ _ _)
    · trivial

def secondIngested (log : List IngestNotice) (_ : Ingests openPlatform openConfig) : Bool :=
  decide (.ingested 1 "0a0b" ∈ log)

theorem twoPushes_executed :
    ((ingestMachine openPlatform openConfig).execute (fun _ _ event => exportsWholeCheck event)
      twoPushes [] fresh).map (fun ended => secondIngested ended.1 ended.2) = some true := by
  decide +kernel

theorem recordings_complete_two_pushes :
    ∃ log ingests, (ingestMachine openPlatform openConfig).Run
        (fun _ _ event => ExportsWhole event) [] fresh log ingests ∧
      .ingested 1 "0a0b" ∈ log ∧
      ∃ bytes, ingests.bucket.blobs.get "0a0b" = some bytes ∧
        Recorded openPlatform openConfig ingests.bucket "0a0b" bytes := by
  obtain ⟨log, ingests, run, shown⟩ := Machine.execute_reaches
    (fun _ _ event => exportsWhole_of_check event) twoPushes secondIngested twoPushes_executed
  have reported := of_decide_eq_true shown
  have complete := recordings_complete Function.injective_id run
  obtain ⟨bytes, stored, -⟩ := complete.2 1 "0a0b" reported
  exact ⟨log, ingests, run, reported, bytes, stored, complete.1 "0a0b" bytes stored⟩

end Ingests

end TdfIrohS3
