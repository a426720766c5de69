import TdfIrohS3.Catalog.Cluster
import TdfIrohS3.Fetch.Server

namespace TdfIrohS3

open Library

inductive FetchRequest
  /-- `single`: the ranges are of the blob alone. -/
  | get (hash : String) (single : Bool)
  /-- Each hash with whether a range of it is wanted. -/
  | getMany (hashes : List (String × Bool))
  | observe
  deriving DecidableEq, Repr

def maxFetchHashes : Nat := 64

def FetchRequest.wanted : FetchRequest → Except Reset (List String)
  | .get hash single =>
      if single then .ok [hash] else .error ⟨.permission, "get of a hash sequence", none⟩
  | .getMany hashes =>
      if hashes.length > maxFetchHashes then
        .error ⟨.permission, "get_many naming too many hashes", none⟩
      else .ok ((hashes.filter Prod.snd).map Prod.fst)
  | .observe => .error ⟨.permission, "observe or unknown request", none⟩

/-- Where a `serve` waits: for a look-up of a hash, with those to be checked after it, or for the
transfer of the hashes that are left. -/
inductive FetchPhase
  | headingBlob (hash : String) (rest : List String)
  | headingDocument (hash : String) (rest : List String)
  | headingOutboard (hash : String) (rest : List String) (servable : Servable)
  | sending (remaining : List (String × Servable))
  deriving DecidableEq, Repr

structure FetchTask where
  node : Nat
  wanted : List String
  servables : List (String × Servable)
  phase : FetchPhase
  deriving DecidableEq, Repr

def FetchTask.received (node : Nat) (wanted : List String) : FetchTask :=
  { node, wanted, servables := [], phase := .sending [] }

inductive UploadPhase
  | puttingOutboard
  | headingBlob
  | puttingBlob
  | puttingManifest
  deriving DecidableEq, Repr

/-- An accepted push whose bytes passed validation. `manifest` is its manifest as JSON, when it has
one. -/
structure Upload (platform : CatalogPlatform) where
  node : Nat
  bytes : List UInt8
  manifest : Option (List UInt8)
  outboard : List UInt8
  computed : platform.outboard bytes = some outboard
  phase : UploadPhase
  retries : Nat

def Upload.hash {platform : CatalogPlatform} (upload : Upload platform) : String :=
  platform.blake3Hex upload.bytes

/-- An outboard being computed for a stored object; `computed` once the object has been read. -/
structure Backfill where
  node : Nat
  hash : String
  servable : Servable
  computed : Option (List UInt8)
  deriving DecidableEq, Repr

def Upload.store {platform : CatalogPlatform} (upload : Upload platform) (bucket : Bucket) : Bucket :=
  match upload.phase with
  | .puttingOutboard =>
      { bucket with outboards := bucket.outboards.insert upload.hash upload.outboard }
  | .headingBlob => bucket
  | .puttingBlob => { bucket with blobs := bucket.blobs.insert upload.hash upload.bytes }
  | .puttingManifest =>
      { bucket with manifests :=
          (upload.manifest.map (bucket.manifests.insert upload.hash)).getD bucket.manifests }

/-- The catalogs with the iroh side of their nodes: fetches, ingests and outboard computations. -/
structure Fetches (platform : CatalogPlatform) where
  catalogs : Catalogs platform
  servers : Nat → S3Server
  /-- Fetches served at once, by node. -/
  serves : Nat → Nat
  fetches : Nat → Option FetchTask
  uploads : Nat → Option (Upload platform)
  backfills : Nat → Option Backfill
  nextId : Nat

inductive Transfer
  | delivered
  | broken
  | mismatched
  deriving DecidableEq, Repr

inductive FetchEvent
  | catalog (event : CatalogEvent)
  | fetch (node : Nat) (request : FetchRequest)
  | blobHead (id : Nat) (answered : Bool)
  | documentHead (id : Nat) (answered : Bool)
  | outboardHead (id : Nat) (answered : Bool) (now : Nat)
  | transferred (id : Nat) (transfer : Transfer)
  | pushed (node : Nat) (bytes : List UInt8) (manifest : Option (List UInt8))
  | uploaded (id : Nat) (outcome : Outcome)
  | uploadHead (id : Nat) (answered : Bool)
  | backfillRead (id : Nat) (read : Bool) (now : Nat)
  | backfillPut (id : Nat) (outcome : Outcome) (now : Nat)

inductive FetchNotice
  | catalog (notice : CatalogNotice)
  /-- `serve` checked a hash and goes on. -/
  | cleared (id node : Nat) (hash : String)
  /-- Bytes of a hash go out. -/
  | sent (id : Nat) (hash : String)
  /-- A stream ends after all it was asked for. -/
  | finished (id node : Nat) (wanted : List String)
  | reset (id : Nat) (reset : Reset)
  deriving DecidableEq, Repr

def servesLimit : Nat := 256

def uploadRetries : Nat := 2

namespace Fetches

variable {platform : CatalogPlatform}

def bucket (state : Fetches platform) : Bucket := state.catalogs.bucket

def setBucket (state : Fetches platform) (bucket : Bucket) : Fetches platform :=
  { state with catalogs := state.catalogs.setBucket bucket }

def setServer (state : Fetches platform) (node : Nat) (server : S3Server) : Fetches platform :=
  { state with servers := Function.update state.servers node server }

def setFetch (state : Fetches platform) (id : Nat) (task : Option FetchTask) : Fetches platform :=
  { state with fetches := Function.update state.fetches id task }

def setUpload (state : Fetches platform) (id : Nat) (upload : Option (Upload platform)) :
    Fetches platform :=
  { state with uploads := Function.update state.uploads id upload }

def setBackfill (state : Fetches platform) (id : Nat) (backfill : Option Backfill) :
    Fetches platform :=
  { state with backfills := Function.update state.backfills id backfill }

def release (state : Fetches platform) (id : Nat) (task : FetchTask) : Fetches platform :=
  { state.setFetch id none with
    serves := Function.update state.serves task.node (state.serves task.node - 1) }

def refuseFetch (state : Fetches platform) (id : Nat) (task : FetchTask) (reset : Reset) :
    Fetches platform × List FetchNotice :=
  (state.release id task, [.reset id reset])

def settle (state : Fetches platform) (id : Nat) (task : FetchTask)
    (walked : List (String × Servable) × Stop) : Fetches platform × List FetchNotice :=
  let servables := task.servables ++ walked.1
  let passed := walked.1.map fun entry => FetchNotice.cleared id task.node entry.1
  match walked.2 with
  | .refused reset => (state.release id task, .reset id reset :: passed)
  | .waiting hash rest =>
      (state.setFetch id (some { task with servables, phase := .headingBlob hash rest }), passed)
  | .ready =>
      if servables.isEmpty then
        (state.release id task, .finished id task.node task.wanted :: passed)
      else (state.setFetch id (some { task with servables, phase := .sending servables }), passed)

def checked (state : Fetches platform) (id : Nat) (task : FetchTask) (hash : String)
    (rest : List String) (servable : Servable) : Fetches platform × List FetchNotice :=
  let server := (state.servers task.node).remember hash servable
  let node := state.catalogs.nodes task.node
  (state.setServer task.node server).settle id task
    (clear node hash servable (walk node server rest))

def sized (state : Fetches platform) (id : Nat) (task : FetchTask) (hash : String)
    (rest : List String) (servable : Servable) : Fetches platform × List FetchNotice :=
  if platform.outboardSize servable.size > 0 then
    (state.setFetch id (some { task with phase := .headingOutboard hash rest servable }), [])
  else state.checked id task hash rest servable

def startBackfill (state : Fetches platform) (node : Nat) (hash : String) (servable : Servable)
    (now : Nat) : Fetches platform :=
  match (state.servers node).backfill hash now with
  | none => state
  | some server =>
      { (state.setServer node server).setBackfill state.nextId
          (some { node, hash, servable, computed := none }) with nextId := state.nextId + 1 }

def breakOff (state : Fetches platform) (id : Nat) (task : FetchTask) (hash : String)
    (mismatched : Bool) : Fetches platform × List FetchNotice :=
  let server := state.servers task.node
  let marked := if mismatched then server.markCorrupt hash else server
  ((state.setServer task.node (marked.forget hash)).release id task,
    [.reset id ⟨.limit, "serving from S3 broke off", some hash⟩, .sent id hash])

def blobStored (state : Fetches platform) (id : Nat) (upload : Upload platform) :
    Fetches platform :=
  if upload.manifest.isSome then
    state.setUpload id (some { upload with phase := .puttingManifest })
  else state.setUpload id none

def retryUpload (state : Fetches platform) (id : Nat) (upload : Upload platform) :
    Fetches platform :=
  match upload.retries with
  | 0 => state.setUpload id none
  | retries + 1 => state.setUpload id (some { upload with phase := .puttingOutboard, retries })

def uploadStored (state : Fetches platform) (id : Nat) (upload : Upload platform) :
    Fetches platform :=
  match upload.phase with
  | .puttingOutboard => state.setUpload id (some { upload with phase := .headingBlob })
  | .puttingBlob => state.blobStored id upload
  | .headingBlob | .puttingManifest => state.setUpload id none

def uploadFailed (state : Fetches platform) (id : Nat) (upload : Upload platform) :
    Fetches platform :=
  match upload.phase with
  | .puttingManifest => state.setUpload id none
  | _ => state.retryUpload id upload

def failBackfill (state : Fetches platform) (id : Nat) (backfill : Backfill) (now : Nat) :
    Fetches platform :=
  (state.setServer backfill.node
    ((state.servers backfill.node).failBackfill backfill.hash now)).setBackfill id none

def computeOutboard (state : Fetches platform) (id : Nat) (backfill : Backfill)
    (data : List UInt8) (now : Nat) : Fetches platform :=
  if data.length < backfill.servable.size then state.failBackfill id backfill now
  else if platform.blake3Hex (data.take backfill.servable.size) = backfill.hash then
    match platform.outboard (data.take backfill.servable.size) with
    | none => state.failBackfill id backfill now
    | some outboard => state.setBackfill id (some { backfill with computed := some outboard })
  else
    (state.setServer backfill.node (((state.servers backfill.node).markCorrupt
      backfill.hash).endBackfill backfill.hash)).setBackfill id none

def restarted (state : Fetches platform) : CatalogEvent → Fetches platform
  | .restart node _ _ =>
      { state with
        servers := Function.update state.servers node S3Server.new
        serves := Function.update state.serves node 0
        fetches := fun id => (state.fetches id).filter fun task => task.node != node
        uploads := fun id => (state.uploads id).filter fun upload => upload.node != node
        backfills := fun id => (state.backfills id).filter fun backfill => backfill.node != node }
  | _ => state

def next (state : Fetches platform) :
    FetchEvent → Option (Fetches platform × List FetchNotice)
  | .catalog event =>
      match state.catalogs.next event with
      | none => none
      | some (catalogs, notices) =>
          some ({ state with catalogs }.restarted event, notices.map .catalog)
  | .fetch node request =>
      let id := state.nextId
      let counted := { state with nextId := state.nextId + 1 }
      match request.wanted with
      | .error reset => some (counted, [.reset id reset])
      | .ok wanted =>
          if state.serves node ≥ servesLimit then
            some (counted, [.reset id ⟨.limit, "too many fetches at once", none⟩])
          else
            let serves := Function.update state.serves node (state.serves node + 1)
            some ({ counted with serves }.settle id (.received node wanted)
              (walk (state.catalogs.nodes node) (state.servers node) wanted))
  | .blobHead id answered =>
      match state.fetches id with
      | some task =>
          match task.phase with
          | .headingBlob hash rest =>
              if answered then
                match state.bucket.blobs.get hash with
                | some bytes =>
                    some (state.sized id task hash rest { size := bytes.length, object := .blob })
                | none => some (state.setFetch id
                    (some { task with phase := .headingDocument hash rest }), [])
              else some (state.refuseFetch id task (CheckRefusal.busy.reset hash))
          | _ => none
      | none => none
  | .documentHead id answered =>
      match state.fetches id with
      | some task =>
          match task.phase with
          | .headingDocument hash rest =>
              if answered then
                match state.bucket.documents.get hash with
                | some document => some (state.sized id task hash rest
                    { size := document.body.length, object := .catalogDocument document.owner })
                | none => some (state.refuseFetch id task (CheckRefusal.gone.reset hash))
              else some (state.refuseFetch id task (CheckRefusal.busy.reset hash))
          | _ => none
      | none => none
  | .outboardHead id answered now =>
      match state.fetches id with
      | some task =>
          match task.phase with
          | .headingOutboard hash rest servable =>
              if answered then
                let found := (servable.object.outboard state.bucket hash).map List.length
                if found = some (platform.outboardSize servable.size) then
                  some (state.checked id task hash rest servable)
                else some ((state.startBackfill task.node hash servable now).refuseFetch id task
                  (CheckRefusal.busy.reset hash))
              else some (state.refuseFetch id task (CheckRefusal.busy.reset hash))
          | _ => none
      | none => none
  | .transferred id transfer =>
      match state.fetches id with
      | some task =>
          match task.phase with
          | .sending ((hash, servable) :: remaining) =>
              if transfer = .delivered ∧ (servable.object.data state.bucket hash).isSome then
                if remaining.isEmpty then
                  some (state.release id task,
                    [.finished id task.node task.wanted, .sent id hash])
                else some (state.setFetch id (some { task with phase := .sending remaining }),
                  [.sent id hash])
              else some (state.breakOff id task hash (transfer = .mismatched))
          | _ => none
      | none => none
  | .pushed node bytes manifest =>
      match computed : platform.outboard bytes with
      | none => none
      | some outboard =>
          let upload : Upload platform :=
            { node, bytes, manifest, outboard, computed, phase := .puttingOutboard,
              retries := uploadRetries }
          some ({ state.setUpload state.nextId (some upload) with nextId := state.nextId + 1 }, [])
  | .uploaded id outcome =>
      match state.uploads id with
      | some upload =>
          if upload.phase = .headingBlob then none
          else
            let stored := state.setBucket (upload.store state.bucket)
            match outcome with
            | .done => some (stored.uploadStored id upload, [])
            | .failed => some (state.uploadFailed id upload, [])
            | .lost => some (stored.uploadFailed id upload, [])
      | none => none
  | .uploadHead id answered =>
      match state.uploads id with
      | some upload =>
          if upload.phase = .headingBlob then
            if answered then
              if state.bucket.blobs.contains upload.hash then some (state.blobStored id upload, [])
              else some (state.setUpload id (some { upload with phase := .puttingBlob }), [])
            else some (state.retryUpload id upload, [])
          else none
      | none => none
  | .backfillRead id read now =>
      match state.backfills id with
      | some backfill =>
          if backfill.computed.isSome then none
          else
            match read, backfill.servable.object.data state.bucket backfill.hash with
            | true, some data => some (state.computeOutboard id backfill data now, [])
            | _, _ => some (state.failBackfill id backfill now, [])
      | none => none
  | .backfillPut id outcome now =>
      match state.backfills id with
      | some backfill =>
          match backfill.computed with
          | some bytes =>
              let stored := state.setBucket
                (backfill.servable.object.putOutboard state.bucket backfill.hash bytes)
              match outcome with
              | .done => some ((stored.setServer backfill.node
                  ((state.servers backfill.node).endBackfill backfill.hash)).setBackfill id none, [])
              | .failed => some (state.failBackfill id backfill now, [])
              | .lost => some (stored.failBackfill id backfill now, [])
          | none => none
      | none => none

end Fetches

def fetchMachine (platform : CatalogPlatform) :
    Machine (Fetches platform) FetchEvent FetchNotice :=
  ⟨Fetches.next⟩

end TdfIrohS3
