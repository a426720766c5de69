import TdfIrohS3.Fetch.Cluster
import TdfIrohS3.Ingest.Validation
import TdfIrohS3.Publish.Gate

namespace TdfIrohS3

open Library

structure BlobOwner where
  hash : String
  subject : String
  endpointId : String
  at_ : Int
  deriving DecidableEq, Repr

/-- The part of the bucket that ingests write: `blobs/`, `outboards/`, `manifests/` and
`moderation/publishers/`. -/
structure Recordings where
  blobs : Table String (List UInt8)
  outboards : Table String (List UInt8)
  manifests : Table String (List UInt8)
  publishers : Table String BlobOwner

def Recordings.empty : Recordings := ⟨Table.empty, Table.empty, Table.empty, Table.empty⟩

structure Validated (platform : IngestPlatform) (config : ValidationConfig) (hash : String) where
  file : List UInt8
  size : Nat
  manifest : TdfManifest
  outboard : List UInt8
  accepted : validateArchive platform config file size = .ok manifest
  computed : computeOutboard platform file size hash = .ok outboard

def Validated.body {platform : IngestPlatform} {config : ValidationConfig} {hash : String}
    (validated : Validated platform config hash) : List UInt8 :=
  validated.file.take validated.size

def validateExported (platform : IngestPlatform) (config : ValidationConfig) (hash : String)
    (file : List UInt8) (size : Nat) : Except String (Validated platform config hash) :=
  match accepted : validateArchive platform config file size with
  | .error why => .error why
  | .ok manifest =>
      match computed : computeOutboard platform file size hash with
      | .error why => .error why
      | .ok outboard => .ok { file, size, manifest, outboard, accepted, computed }

/-- Where an accepted push is: its transfer runs, the store is looked up for it, it is validated,
uploaded, or its owner is recorded. -/
inductive IngestPhase (platform : IngestPlatform) (config : ValidationConfig) (hash : String)
  | receiving
  | observing (left : Nat)
  | inspecting
  | exporting
  | uploading (validated : Validated platform config hash) (stage : UploadPhase) (retries : Nat)
  | recording (subject : String) (endpoint : EndpointId)

structure IngestTask (platform : IngestPlatform) (config : ValidationConfig) where
  hash : String
  /-- The subject and the endpoint the gate let push; `none` without a gate. -/
  owner : Option (String × EndpointId)
  phase : IngestPhase platform config hash

structure Repair where
  hash : String
  size : Nat
  computed : Option (List UInt8)
  deriving DecidableEq, Repr

structure Ingests (platform : IngestPlatform) (config : ValidationConfig) where
  bucket : Recordings
  tasks : Nat → Option (IngestTask platform config)
  repairs : Nat → Option Repair
  nextId : Nat

/-- A step with what the environment answers in it. A call that fails answers `none`. -/
inductive IngestEvent
  | push (hash : String) (owner : Option (String × EndpointId))
  | ended (id : Nat) (oversize : Bool)
  | observed (id : Nat) (complete : Option Bool)
  | inspected (id : Nat) (bitfield : Option (Nat × Bool))
  | exported (id : Nat) (answer : Option (List UInt8 × Nat))
  | put (id : Nat) (outcome : Outcome)
  | headed (id : Nat) (answered : Bool)
  | ownerPut (id : Nat) (at_ : Int) (outcome : Outcome)
  | stopped (id : Nat)
  | backfill (hash : String) (size : Nat)
  | backfillRead (id : Nat) (read : Bool)
  | backfillPut (id : Nat) (outcome : Outcome)

inductive IngestNotice
  | accepted (id : Nat) (hash : String) (owner : Option (String × EndpointId))
  /-- This put is the one that first stored the blob. -/
  | stored (id : Nat) (hash : String)
  /-- `ingest_stored` returned `true`. -/
  | ingested (id : Nat) (hash : String)
  /-- It returned `false`. -/
  | failed (id : Nat) (hash : String)
  | recorded (id : Nat) (hash subject : String)
  deriving DecidableEq

def observeAttempts : Nat := 10

namespace Ingests

variable {platform : IngestPlatform} {config : ValidationConfig}

def setTask (ingests : Ingests platform config) (id : Nat)
    (task : Option (IngestTask platform config)) : Ingests platform config :=
  { ingests with tasks := Function.update ingests.tasks id task }

def setRepair (ingests : Ingests platform config) (id : Nat) (repair : Option Repair) :
    Ingests platform config :=
  { ingests with repairs := Function.update ingests.repairs id repair }

def setBucket (ingests : Ingests platform config) (bucket : Recordings) : Ingests platform config :=
  { ingests with bucket := bucket }

def advance (ingests : Ingests platform config) (id : Nat) (task : IngestTask platform config)
    (phase : IngestPhase platform config task.hash) : Ingests platform config :=
  ingests.setTask id (some { task with phase := phase })

def fail (ingests : Ingests platform config) (id : Nat) (task : IngestTask platform config) :
    Ingests platform config × List IngestNotice :=
  (ingests.setTask id none, [.failed id task.hash])

def succeed (ingests : Ingests platform config) (id : Nat) (task : IngestTask platform config) :
    Ingests platform config × List IngestNotice :=
  match task.owner with
  | some (subject, endpoint) =>
      (ingests.advance id task (.recording subject endpoint), [.ingested id task.hash])
  | none => (ingests.setTask id none, [.ingested id task.hash])

/-- An upload failed: it is tried again from its start, or the ingest fails. -/
def retry (ingests : Ingests platform config) (id : Nat) (task : IngestTask platform config)
    (validated : Validated platform config task.hash) (retries : Nat) :
    Ingests platform config × List IngestNotice :=
  match retries with
  | 0 => ingests.fail id task
  | left + 1 => (ingests.advance id task (.uploading validated .puttingOutboard left), [])

def blobStored (ingests : Ingests platform config) (id : Nat) (task : IngestTask platform config)
    (validated : Validated platform config task.hash) (retries : Nat) :
    Ingests platform config × List IngestNotice :=
  if validated.manifest.json.isSome then
    (ingests.advance id task (.uploading validated .puttingManifest retries), [])
  else ingests.succeed id task

end Ingests

section Writes

variable {platform : IngestPlatform} {config : ValidationConfig} {hash : String}

def Validated.store (validated : Validated platform config hash) (bucket : Recordings) :
    UploadPhase → Recordings
  | .puttingOutboard =>
      { bucket with outboards := bucket.outboards.insert hash validated.outboard }
  | .headingBlob => bucket
  | .puttingBlob => { bucket with blobs := bucket.blobs.insert hash validated.body }
  | .puttingManifest =>
      { bucket with manifests :=
          (validated.manifest.json.map (bucket.manifests.insert hash)).getD bucket.manifests }

def firstStored (bucket : Recordings) (id : Nat) (hash : String) : UploadPhase → List IngestNotice
  | .puttingBlob => if bucket.blobs.contains hash then [] else [.stored id hash]
  | _ => []

end Writes

namespace Ingests

variable {platform : IngestPlatform} {config : ValidationConfig}

def uploadStored (ingests : Ingests platform config) (id : Nat) (task : IngestTask platform config)
    (validated : Validated platform config task.hash) (retries : Nat) :
    UploadPhase → Ingests platform config × List IngestNotice
  | .puttingOutboard => (ingests.advance id task (.uploading validated .headingBlob retries), [])
  | .puttingBlob => ingests.blobStored id task validated retries
  | .headingBlob | .puttingManifest => ingests.succeed id task

def uploadFailed (ingests : Ingests platform config) (id : Nat) (task : IngestTask platform config)
    (validated : Validated platform config task.hash) (retries : Nat) :
    UploadPhase → Ingests platform config × List IngestNotice
  | .puttingManifest => ingests.succeed id task
  | _ => ingests.retry id task validated retries

def computeRepair (ingests : Ingests platform config) (id : Nat) (repair : Repair)
    (data : List UInt8) : Ingests platform config :=
  match computeOutboard platform data repair.size repair.hash with
  | .error _ => ingests.setRepair id none
  | .ok outboard => ingests.setRepair id (some { repair with computed := some outboard })

def recordOwner (bucket : Recordings) (hash subject : String) (endpoint : EndpointId) (at_ : Int) :
    Recordings :=
  { bucket with publishers :=
      bucket.publishers.insert hash { hash, subject, endpointId := endpoint.toString, at_ } }

def next (ingests : Ingests platform config) :
    IngestEvent → Option (Ingests platform config × List IngestNotice)
  | .push hash owner =>
      some ({ ingests.setTask ingests.nextId (some { hash, owner, phase := .receiving }) with
        nextId := ingests.nextId + 1 }, [.accepted ingests.nextId hash owner])
  | .ended id oversize =>
      match ingests.tasks id with
      | some task =>
          match task.phase with
          | .receiving =>
              if oversize then some (ingests.fail id task)
              else some (ingests.advance id task (.observing observeAttempts), [])
          | _ => none
      | none => none
  | .observed id complete =>
      match ingests.tasks id with
      | some task =>
          match task.phase, complete with
          | .observing 0, _ => some (ingests.fail id task)
          | .observing _, none => some (ingests.fail id task)
          | .observing _, some true => some (ingests.advance id task .inspecting, [])
          | .observing (left + 1), some false =>
              some (ingests.advance id task (.observing left), [])
          | _, _ => none
      | none => none
  | .inspected id bitfield =>
      match ingests.tasks id with
      | some task =>
          match task.phase with
          | .inspecting =>
              match bitfield with
              | none => some (ingests.fail id task)
              | some (size, complete) =>
                  if (checkBlobSize config size).isOk && complete then
                    some (ingests.advance id task .exporting, [])
                  else some (ingests.fail id task)
          | _ => none
      | none => none
  | .exported id answer =>
      match ingests.tasks id with
      | some task =>
          match task.phase with
          | .exporting =>
              match answer with
              | none => some (ingests.fail id task)
              | some (file, size) =>
                  match validateExported platform config task.hash file size with
                  | .error _ => some (ingests.fail id task)
                  | .ok validated => some (ingests.advance id task
                      (.uploading validated .puttingOutboard uploadRetries), [])
          | _ => none
      | none => none
  | .put id outcome =>
      match ingests.tasks id with
      | some task =>
          match task.phase with
          | .uploading validated stage retries =>
              if stage = .headingBlob then none
              else
                let stored := ingests.setBucket (validated.store ingests.bucket stage)
                let first := firstStored ingests.bucket id task.hash stage
                match outcome with
                | .done =>
                    let ended := stored.uploadStored id task validated retries stage
                    some (ended.1, ended.2 ++ first)
                | .failed => some (ingests.uploadFailed id task validated retries stage)
                | .lost =>
                    let ended := stored.uploadFailed id task validated retries stage
                    some (ended.1, ended.2 ++ first)
          | _ => none
      | none => none
  | .headed id answered =>
      match ingests.tasks id with
      | some task =>
          match task.phase with
          | .uploading validated .headingBlob retries =>
              if answered then
                if ingests.bucket.blobs.contains task.hash then
                  some (ingests.blobStored id task validated retries)
                else some (ingests.advance id task (.uploading validated .puttingBlob retries), [])
              else some (ingests.retry id task validated retries)
          | _ => none
      | none => none
  | .ownerPut id at_ outcome =>
      match ingests.tasks id with
      | some task =>
          match task.phase with
          | .recording subject endpoint =>
              let bucket := recordOwner ingests.bucket task.hash subject endpoint at_
              match outcome with
              | .done => some ((ingests.setBucket bucket).setTask id none,
                  [.recorded id task.hash subject])
              | .failed => some (ingests.setTask id none, [])
              | .lost => some ((ingests.setBucket bucket).setTask id none, [])
          | _ => none
      | none => none
  | .stopped id => some ((ingests.setTask id none).setRepair id none, [])
  | .backfill hash size =>
      some ({ ingests.setRepair ingests.nextId (some { hash, size, computed := none }) with
        nextId := ingests.nextId + 1 }, [])
  | .backfillRead id read =>
      match ingests.repairs id with
      | some repair =>
          if repair.computed.isSome then none
          else
            match read, ingests.bucket.blobs.get repair.hash with
            | true, some data => some (ingests.computeRepair id repair data, [])
            | _, _ => some (ingests.setRepair id none, [])
      | none => none
  | .backfillPut id outcome =>
      match ingests.repairs id with
      | some repair =>
          match repair.computed with
          | some outboard =>
              let stored := ingests.setBucket { ingests.bucket with
                outboards := ingests.bucket.outboards.insert repair.hash outboard }
              match outcome with
              | .failed => some (ingests.setRepair id none, [])
              | _ => some (stored.setRepair id none, [])
          | none => none
      | none => none

def fresh : Ingests platform config :=
  { bucket := .empty, tasks := fun _ => none, repairs := fun _ => none, nextId := 0 }

end Ingests

def ingestMachine (platform : IngestPlatform) (config : ValidationConfig) :
    Machine (Ingests platform config) IngestEvent IngestNotice :=
  ⟨Ingests.next⟩

end TdfIrohS3
