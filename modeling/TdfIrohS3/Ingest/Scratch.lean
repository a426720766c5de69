import TdfIrohS3.Ingest.Cluster

namespace TdfIrohS3

open Library

/-- The scratch directory of a node with what stands around it: `NEXT`, the ingest permits that are
left, and the removals that dropped scratch files have spawned. -/
structure ScratchDir where
  files : Table String (List UInt8)
  next : Nat
  permits : Nat
  removals : List String

/-- `prepare_scratch_dir` empties the directory. A process counts from 0 and has all its permits. -/
def ScratchDir.prepare (maxConcurrentIngests : Nat) : ScratchDir :=
  { files := Table.empty, next := 0, permits := maxConcurrentIngests, removals := [] }

def scratchName (hash : String) (n : Nat) : String :=
  hash ++ ("." ++ (toString (n % UInt64.size) ++ ".tdf"))

structure ScratchUpload where
  path : String
  size : Nat
  manifest : TdfManifest
  outboard : List UInt8

/-- Where an accepted push is. From `inspecting` on it has an ingest permit, from `exporting` on a
scratch file; both go when `ingest_stored` returns. -/
inductive ScratchPhase
  | receiving
  | observing (left : Nat)
  | waiting
  | inspecting
  | exporting (path : String)
  | validating (path : String) (size : Nat)
  | outboarding (path : String) (size : Nat) (manifest : TdfManifest)
  | uploading (upload : ScratchUpload) (stage : UploadPhase) (retries : Nat)
  | recording (subject : String) (endpoint : EndpointId)

namespace ScratchPhase

def file : ScratchPhase → Option String
  | .receiving | .observing _ | .waiting | .inspecting | .recording _ _ => none
  | .exporting path | .validating path _ | .outboarding path _ _ => some path
  | .uploading upload _ _ => some upload.path

def admitted : ScratchPhase → Bool
  | .receiving | .observing _ | .waiting | .recording _ _ => false
  | .inspecting | .exporting _ | .validating _ _ | .outboarding _ _ _ | .uploading _ _ _ => true

end ScratchPhase

structure ScratchTask where
  node : Nat
  hash : String
  owner : Option (String × EndpointId)
  phase : ScratchPhase

structure ScratchIngests where
  bucket : Recordings
  dirs : Nat → ScratchDir
  tasks : Nat → Option ScratchTask
  nextId : Nat

inductive ScratchEvent
  | push (node : Nat) (hash : String) (owner : Option (String × EndpointId))
  | ended (id : Nat) (oversize : Bool)
  | observed (id : Nat) (complete : Option Bool)
  /-- A permit is there for the ingest. -/
  | acquired (id : Nat)
  | inspected (id : Nat) (bitfield : Option (Nat × Bool))
  /-- The export has written this much of the blob. -/
  | wrote (id : Nat) (bytes : List UInt8)
  | exported (id : Nat) (size : Option Nat)
  /-- The file is read for validation, unless it does not open. -/
  | validated (id : Nat) (opens : Bool)
  | outboarded (id : Nat) (opens : Bool)
  | put (id : Nat) (outcome : Outcome)
  | headed (id : Nat) (answered : Bool)
  | ownerPut (id : Nat) (at_ : Int) (outcome : Outcome)
  /-- `remove_quietly` runs; it may fail. -/
  | removed (node : Nat) (path : String) (gone : Bool)
  | restart (node : Nat)

namespace ScratchIngests

def setTask (ingests : ScratchIngests) (id : Nat) (task : Option ScratchTask) : ScratchIngests :=
  { ingests with tasks := Function.update ingests.tasks id task }

def setDir (ingests : ScratchIngests) (node : Nat) (dir : ScratchDir) : ScratchIngests :=
  { ingests with dirs := Function.update ingests.dirs node dir }

def setBucket (ingests : ScratchIngests) (bucket : Recordings) : ScratchIngests :=
  { ingests with bucket := bucket }

def advance (ingests : ScratchIngests) (id : Nat) (task : ScratchTask) (phase : ScratchPhase) :
    ScratchIngests :=
  ingests.setTask id (some { task with phase := phase })

/-- `ingest_stored` returns: its scratch file is dropped, which spawns the removal, then its
permit. -/
def returns (ingests : ScratchIngests) (task : ScratchTask) : ScratchIngests :=
  let dir := ingests.dirs task.node
  ingests.setDir task.node { dir with
    removals := task.phase.file.toList ++ dir.removals
    permits := if task.phase.admitted then dir.permits + 1 else dir.permits }

def fail (ingests : ScratchIngests) (id : Nat) (task : ScratchTask) :
    ScratchIngests × List IngestNotice :=
  ((ingests.returns task).setTask id none, [.failed id task.hash])

def succeed (ingests : ScratchIngests) (id : Nat) (task : ScratchTask) :
    ScratchIngests × List IngestNotice :=
  match task.owner with
  | some (subject, endpoint) =>
      ((ingests.returns task).advance id task (.recording subject endpoint),
        [.ingested id task.hash])
  | none => ((ingests.returns task).setTask id none, [.ingested id task.hash])

def retry (ingests : ScratchIngests) (id : Nat) (task : ScratchTask) (upload : ScratchUpload)
    (retries : Nat) : ScratchIngests × List IngestNotice :=
  match retries with
  | 0 => ingests.fail id task
  | left + 1 => (ingests.advance id task (.uploading upload .puttingOutboard left), [])

def blobStored (ingests : ScratchIngests) (id : Nat) (task : ScratchTask) (upload : ScratchUpload)
    (retries : Nat) : ScratchIngests × List IngestNotice :=
  if upload.manifest.json.isSome then
    (ingests.advance id task (.uploading upload .puttingManifest retries), [])
  else ingests.succeed id task

/-- What a write of an upload puts into the bucket. The blob is read from the scratch file; nothing
is sent when that does not open. -/
def written (ingests : ScratchIngests) (task : ScratchTask) (upload : ScratchUpload) :
    UploadPhase → Option Recordings
  | .puttingOutboard => some { ingests.bucket with
      outboards := ingests.bucket.outboards.insert task.hash upload.outboard }
  | .headingBlob => none
  | .puttingBlob => ((ingests.dirs task.node).files.get upload.path).map fun file =>
      { ingests.bucket with blobs := ingests.bucket.blobs.insert task.hash (file.take upload.size) }
  | .puttingManifest => upload.manifest.json.map fun json =>
      { ingests.bucket with manifests := ingests.bucket.manifests.insert task.hash json }

def uploadStored (ingests : ScratchIngests) (id : Nat) (task : ScratchTask) (upload : ScratchUpload)
    (retries : Nat) : UploadPhase → ScratchIngests × List IngestNotice
  | .puttingOutboard => (ingests.advance id task (.uploading upload .headingBlob retries), [])
  | .puttingBlob => ingests.blobStored id task upload retries
  | .headingBlob | .puttingManifest => ingests.succeed id task

def uploadFailed (ingests : ScratchIngests) (id : Nat) (task : ScratchTask) (upload : ScratchUpload)
    (retries : Nat) : UploadPhase → ScratchIngests × List IngestNotice
  | .puttingManifest => ingests.succeed id task
  | _ => ingests.retry id task upload retries

section Next

variable (platform : IngestPlatform) (config : ValidationConfig) (maxConcurrentIngests : Nat)

def create (ingests : ScratchIngests) (id : Nat) (task : ScratchTask) : ScratchIngests :=
  let dir := ingests.dirs task.node
  (ingests.setDir task.node { dir with next := dir.next + 1 }).advance id task
    (.exporting (scratchName task.hash dir.next))

def validate (ingests : ScratchIngests) (id : Nat) (task : ScratchTask) (path : String)
    (size : Nat) (opens : Bool) : ScratchIngests × List IngestNotice :=
  match opens, (ingests.dirs task.node).files.get path with
  | true, some file =>
      match validateArchive platform config file size with
      | .ok manifest => (ingests.advance id task (.outboarding path size manifest), [])
      | .error _ => ingests.fail id task
  | _, _ => ingests.fail id task

def outboard (ingests : ScratchIngests) (id : Nat) (task : ScratchTask) (path : String)
    (size : Nat) (manifest : TdfManifest) (opens : Bool) : ScratchIngests × List IngestNotice :=
  match opens, (ingests.dirs task.node).files.get path with
  | true, some file =>
      match computeOutboard platform file size task.hash with
      | .ok outboard => (ingests.advance id task
          (.uploading ⟨path, size, manifest, outboard⟩ .puttingOutboard uploadRetries), [])
      | .error _ => ingests.fail id task
  | _, _ => ingests.fail id task

def put (ingests : ScratchIngests) (id : Nat) (task : ScratchTask) (upload : ScratchUpload)
    (stage : UploadPhase) (retries : Nat) (outcome : Outcome) :
    ScratchIngests × List IngestNotice :=
  match outcome, ingests.written task upload stage with
  | .done, some bucket =>
      let ended := (ingests.setBucket bucket).uploadStored id task upload retries stage
      (ended.1, ended.2 ++ firstStored ingests.bucket id task.hash stage)
  | .lost, some bucket =>
      let ended := (ingests.setBucket bucket).uploadFailed id task upload retries stage
      (ended.1, ended.2 ++ firstStored ingests.bucket id task.hash stage)
  | _, _ => ingests.uploadFailed id task upload retries stage

def next (ingests : ScratchIngests) :
    ScratchEvent → Option (ScratchIngests × List IngestNotice)
  | .push node hash owner =>
      some ({ ingests.setTask ingests.nextId (some { node, hash, owner, phase := .receiving }) with
        nextId := ingests.nextId + 1 }, [.accepted ingests.nextId hash owner])
  | .ended id oversize =>
      match ingests.tasks id with
      | some ⟨node, hash, owner, .receiving⟩ =>
          let task : ScratchTask := ⟨node, hash, owner, .receiving⟩
          if oversize then some (ingests.fail id task)
          else some (ingests.advance id task (.observing observeAttempts), [])
      | _ => none
  | .observed id complete =>
      match ingests.tasks id with
      | some ⟨node, hash, owner, .observing left⟩ =>
          let task : ScratchTask := ⟨node, hash, owner, .observing left⟩
          match left, complete with
          | 0, _ => some (ingests.fail id task)
          | _, none => some (ingests.fail id task)
          | _, some true => some (ingests.advance id task .waiting, [])
          | left + 1, some false => some (ingests.advance id task (.observing left), [])
      | _ => none
  | .acquired id =>
      match ingests.tasks id with
      | some ⟨node, hash, owner, .waiting⟩ =>
          match (ingests.dirs node).permits with
          | 0 => none
          | permits + 1 =>
              some ((ingests.setDir node { ingests.dirs node with permits := permits }).advance id
                ⟨node, hash, owner, .waiting⟩ .inspecting, [])
      | _ => none
  | .inspected id bitfield =>
      match ingests.tasks id with
      | some ⟨node, hash, owner, .inspecting⟩ =>
          let task : ScratchTask := ⟨node, hash, owner, .inspecting⟩
          match bitfield with
          | none => some (ingests.fail id task)
          | some (size, complete) =>
              if (checkBlobSize config size).isOk && complete then some (ingests.create id task, [])
              else some (ingests.fail id task)
      | _ => none
  | .wrote id bytes =>
      match ingests.tasks id with
      | some ⟨node, _, _, .exporting path⟩ =>
          let dir := ingests.dirs node
          some (ingests.setDir node { dir with files := dir.files.insert path bytes }, [])
      | _ => none
  | .exported id size =>
      match ingests.tasks id with
      | some ⟨node, hash, owner, .exporting path⟩ =>
          let task : ScratchTask := ⟨node, hash, owner, .exporting path⟩
          match size with
          | none => some (ingests.fail id task)
          | some size => some (ingests.advance id task (.validating path size), [])
      | _ => none
  | .validated id opens =>
      match ingests.tasks id with
      | some ⟨node, hash, owner, .validating path size⟩ =>
          some (ingests.validate platform config id ⟨node, hash, owner, .validating path size⟩ path
            size opens)
      | _ => none
  | .outboarded id opens =>
      match ingests.tasks id with
      | some ⟨node, hash, owner, .outboarding path size manifest⟩ =>
          some (ingests.outboard platform id ⟨node, hash, owner, .outboarding path size manifest⟩
            path size manifest opens)
      | _ => none
  | .put id outcome =>
      match ingests.tasks id with
      | some ⟨node, hash, owner, .uploading upload stage retries⟩ =>
          if stage = .headingBlob then none
          else some (ingests.put id ⟨node, hash, owner, .uploading upload stage retries⟩ upload stage
            retries outcome)
      | _ => none
  | .headed id answered =>
      match ingests.tasks id with
      | some ⟨node, hash, owner, .uploading upload .headingBlob retries⟩ =>
          let task : ScratchTask := ⟨node, hash, owner, .uploading upload .headingBlob retries⟩
          if answered then
            if ingests.bucket.blobs.contains hash then
              some (ingests.blobStored id task upload retries)
            else some (ingests.advance id task (.uploading upload .puttingBlob retries), [])
          else some (ingests.retry id task upload retries)
      | _ => none
  | .ownerPut id at_ outcome =>
      match ingests.tasks id with
      | some ⟨_, hash, _, .recording subject endpoint⟩ =>
          let bucket := Ingests.recordOwner ingests.bucket hash subject endpoint at_
          match outcome with
          | .done => some ((ingests.setBucket bucket).setTask id none, [.recorded id hash subject])
          | .failed => some (ingests.setTask id none, [])
          | .lost => some ((ingests.setBucket bucket).setTask id none, [])
      | _ => none
  | .removed node path gone =>
      let dir := ingests.dirs node
      if path ∈ dir.removals then
        some (ingests.setDir node { dir with
          removals := dir.removals.erase path
          files := if gone then dir.files.remove path else dir.files }, [])
      else none
  | .restart node =>
      some ({ ingests.setDir node (.prepare maxConcurrentIngests) with
        tasks := fun id => (ingests.tasks id).filter fun task => task.node != node }, [])

def fresh : ScratchIngests :=
  { bucket := .empty, dirs := fun _ => .prepare maxConcurrentIngests, tasks := fun _ => none,
    nextId := 0 }

end Next

end ScratchIngests

def scratchMachine (platform : IngestPlatform) (config : ValidationConfig)
    (maxConcurrentIngests : Nat) : Machine ScratchIngests ScratchEvent IngestNotice :=
  ⟨ScratchIngests.next platform config maxConcurrentIngests⟩

end TdfIrohS3
