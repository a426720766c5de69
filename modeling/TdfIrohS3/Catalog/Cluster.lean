import TdfIrohS3.Catalog.Handlers
import TdfIrohS3.Library.Machine

namespace TdfIrohS3

open Library

inductive Stage
  | document
  | outboard
  | index
  | pointer
  deriving DecidableEq, Repr

inductive PutPhase (platform : CatalogPlatform) (sub : String) (headers : Headers)
  | authorizing
  | reading (claims : VerifiedClaims)
  | verifying (claims : VerifiedClaims) (request : PutRequest) (document : List UInt8)
  | lookingUp (job : PublishJob platform sub)
  | checkingStatus (job : PublishJob platform sub)
  | readingPointer (job : PublishJob platform sub)
  | readingIndex (job : PublishJob platform sub) (stored : StoredPointer)
  | writing (admitted : Admitted platform sub headers) (stage : Stage)

structure PutTask (platform : CatalogPlatform) where
  node : Nat
  sub : String
  headers : Headers
  phase : PutPhase platform sub headers

inductive GetPhase
  | authorizing
  | readingPointer (claims : VerifiedClaims)
  | readingIndex (claims : VerifiedClaims) (stored : StoredPointer)
  | deciding (claims : VerifiedClaims) (stored : StoredPointer) (fqn : String)
  deriving DecidableEq, Repr

structure GetTask where
  node : Nat
  sub : String
  headers : Headers
  phase : GetPhase
  deriving DecidableEq, Repr

/-- Any number of nodes over one bucket, with their requests. -/
structure Catalogs (platform : CatalogPlatform) where
  bucket : Bucket
  nodes : Nat → V2State
  puts : Nat → Option (PutTask platform)
  gets : Nat → Option GetTask
  nextId : Nat

/-- How a write ends: it takes effect, it fails without effect, or it takes effect and the answer is
lost. -/
inductive Outcome
  | done
  | failed
  | lost
  deriving DecidableEq, Repr

inductive PointerOutcome
  | done
  | conflict
  | failed
  | lost
  deriving DecidableEq, Repr

/-- A step with what the environment answers in it; `read` says whether a read succeeds. -/
inductive CatalogEvent
  | put (node : Nat) (sub : String) (headers : Headers)
  | authorized (id : Nat) (answers : Answers)
  | bodyRead (id : Nat) (body : Option (List UInt8))
  | bundleVerified (id : Nat) (chain : Except BundleError (List UInt8))
  | payloadsLookedUp (id : Nat) (sizesDown manifestsDown : List String)
  | statusChecked (id : Nat) (answer : Except StatusRefusal Unit)
  | pointerRead (id : Nat) (read : Bool)
  | indexRead (id : Nat) (read : Bool)
  | written (id : Nat) (outcome : Outcome)
  | pointerWritten (id : Nat) (outcome : PointerOutcome)
  | get (node : Nat) (sub : String) (headers : Headers)
  | readerVerified (id : Nat) (answer : Except AuthError VerifiedClaims)
  | getPointerRead (id : Nat) (read : Bool)
  | getIndexRead (id : Nat) (read : Bool)
  | readerDecided (id : Nat) (devices : List (Except AuthError VerifiedClaims))
      (decision : Option Decisions)
  | moderate (node : Nat) (view : Moderation)
  | restart (node : Nat) (publishing : Option TagPublishing) (readers : Readers)
  | dropped (id : Nat)

inductive CatalogNotice
  | evaluated (id node : Nat) (sub : String) (base : Option Base)
  | replaced (id : Nat) (sub : String) (old : Option (List UInt8)) (new : List UInt8)
  | published (id : Nat) (sub : String) (seq : Nat) (hash : String) (size : Nat)
  | asked (id : Nat) (sub hash fqn : String)
  | served (id : Nat) (sub : String) (stored : StoredPointer)
  | refused (id : Nat) (refusal : Refusal)
  deriving DecidableEq, Repr

def Stage.next : Stage → Stage
  | .document => .outboard
  | .outboard => .index
  | .index | .pointer => .pointer

namespace Admitted

variable {platform : CatalogPlatform} {sub : String} {headers : Headers}

def store (admitted : Admitted platform sub headers) (bucket : Bucket) : Stage → Bucket
  | .document =>
      let document : CatalogDocument := { body := admitted.job.document, owner := some sub }
      { bucket with
        documents := bucket.documents.insert admitted.job.pointer.catalogHash document }
  | .outboard =>
      { bucket with catalogOutboards :=
          bucket.catalogOutboards.insert admitted.job.pointer.catalogHash admitted.outboard }
  | .index =>
      let record := platform.toVec admitted.job.record.toValue
      { bucket with indexes := bucket.indexes.insert admitted.job.pointer.catalogHash record }
  | .pointer => bucket

def expects (admitted : Admitted platform sub headers) (stored : Option (List UInt8)) : Bool :=
  stored.map platform.etag == admitted.base.map fun b => platform.etag b.body

def bundleBody (admitted : Admitted platform sub headers) : List UInt8 :=
  platform.toVec admitted.job.bundle.toValue

end Admitted

namespace Catalogs

variable {platform : CatalogPlatform}

def setPut (catalogs : Catalogs platform) (id : Nat) (task : Option (PutTask platform)) :
    Catalogs platform :=
  { catalogs with puts := Function.update catalogs.puts id task }

def setGet (catalogs : Catalogs platform) (id : Nat) (task : Option GetTask) : Catalogs platform :=
  { catalogs with gets := Function.update catalogs.gets id task }

def setNode (catalogs : Catalogs platform) (node : Nat) (state : V2State) : Catalogs platform :=
  { catalogs with nodes := Function.update catalogs.nodes node state }

def setBucket (catalogs : Catalogs platform) (bucket : Bucket) : Catalogs platform :=
  { catalogs with bucket := bucket }

def advance (catalogs : Catalogs platform) (id : Nat) (task : PutTask platform)
    (phase : PutPhase platform task.sub task.headers) : Catalogs platform :=
  catalogs.setPut id (some { task with phase := phase })

def refusePut (catalogs : Catalogs platform) (id : Nat) (refusal : Refusal) :
    Catalogs platform × List CatalogNotice :=
  (catalogs.setPut id none, [.refused id refusal])

def proceed {α : Type} (catalogs : Catalogs platform) (id : Nat) (task : PutTask platform)
    (answer : Except Refusal α) (phase : α → PutPhase platform task.sub task.headers) :
    Catalogs platform × List CatalogNotice :=
  match answer with
  | .error refusal => catalogs.refusePut id refusal
  | .ok value => (catalogs.advance id task (phase value), [])

def evaluate (catalogs : Catalogs platform) (id : Nat) (task : PutTask platform)
    (job : PublishJob platform task.sub) (base : Option Base) :
    Catalogs platform × List CatalogNotice :=
  match admission platform task.headers job base with
  | .error refusal =>
      (catalogs.setPut id none, [.refused id refusal, .evaluated id task.node task.sub base])
  | .ok admitted =>
      (catalogs.advance id task (.writing admitted .document), [.evaluated id task.node task.sub base])

def storePointer (catalogs : Catalogs platform) (sub : String) (body : List UInt8) :
    Catalogs platform :=
  catalogs.setBucket
    { catalogs.bucket with pointers := catalogs.bucket.pointers.insert sub body }

def conflict : Refusal :=
  ⟨409, "seq must be greater than the stored seq: another publish won"⟩

def writePointer (catalogs : Catalogs platform) (id : Nat) (task : PutTask platform)
    (admitted : Admitted platform task.sub task.headers) (outcome : PointerOutcome) :
    Catalogs platform × List CatalogNotice :=
  let stored := catalogs.bucket.pointers.get task.sub
  let written := (catalogs.storePointer task.sub admitted.bundleBody).setPut id none
  let replaced := CatalogNotice.replaced id task.sub stored admitted.bundleBody
  let pointer := admitted.job.pointer
  match outcome with
  | .failed => catalogs.refusePut id storageUnavailable
  | .conflict => catalogs.refusePut id conflict
  | .lost =>
      if admitted.expects stored then (written, [.refused id storageUnavailable, replaced])
      else catalogs.refusePut id storageUnavailable
  | .done =>
      if admitted.expects stored then
        (written, [.published id task.sub pointer.seq pointer.catalogHash pointer.catalogSize,
          replaced])
      else catalogs.refusePut id conflict

def refuseGet (catalogs : Catalogs platform) (id : Nat) (refusal : Refusal) :
    Catalogs platform × List CatalogNotice :=
  (catalogs.setGet id none, [.refused id refusal])

def attributeKnown (catalogs : Catalogs platform) (id : Nat) (task : GetTask)
    (claims : VerifiedClaims) (stored : StoredPointer) (fqn : String) :
    Catalogs platform × List CatalogNotice :=
  if isOperator (catalogs.nodes task.node) claims then
    (catalogs.setGet id none, [.served id task.sub stored])
  else
    (catalogs.setGet id (some { task with phase := .deciding claims stored fqn }), [])

def next (catalogs : Catalogs platform) :
    CatalogEvent → Option (Catalogs platform × List CatalogNotice)
  | .put node sub headers =>
      some ({ catalogs.setPut catalogs.nextId
                (some { node, sub, headers, phase := .authorizing }) with
              nextId := catalogs.nextId + 1 }, [])
  | .authorized id answers =>
      match catalogs.puts id with
      | some task =>
          match task.phase with
          | .authorizing => some (catalogs.proceed id task
              (authorizePut (catalogs.nodes task.node) task.sub task.headers answers) .reading)
          | _ => none
      | none => none
  | .bodyRead id body =>
      match catalogs.puts id with
      | some task =>
          match task.phase with
          | .reading claims => some (catalogs.proceed id task (readPut platform.toFormats body)
              fun read => .verifying claims read.1 read.2)
          | _ => none
      | none => none
  | .bundleVerified id chain =>
      match catalogs.puts id with
      | some task =>
          match task.phase with
          | .verifying claims request document => some (catalogs.proceed id task
              (checkPut platform (catalogs.nodes task.node) task.sub claims request document chain)
              .lookingUp)
          | _ => none
      | none => none
  | .payloadsLookedUp id sizesDown manifestsDown =>
      match catalogs.puts id with
      | some task =>
          match task.phase with
          | .lookingUp job => some (catalogs.proceed id task
              (checkPayloads platform (catalogs.nodes task.node) catalogs.bucket job.entries job.fqn
                sizesDown manifestsDown) fun _ => .checkingStatus job)
          | _ => none
      | none => none
  | .statusChecked id answer =>
      match catalogs.puts id with
      | some task =>
          match task.phase with
          | .checkingStatus job =>
              match answer with
              | .ok () => some (catalogs.advance id task (.readingPointer job), [])
              | .error (.refused why) => some (catalogs.refusePut id ⟨403, why⟩)
              | .error .unavailable =>
                  some (catalogs.refusePut id ⟨502, "credential status unavailable"⟩)
          | _ => none
      | none => none
  | .pointerRead id read =>
      match catalogs.puts id with
      | some task =>
          match task.phase with
          | .readingPointer job =>
              if read then
                match catalogs.bucket.pointers.get task.sub with
                | none => some (catalogs.evaluate id task job none)
                | some body =>
                    match storedSeq platform.toFormats body with
                    | none => some (catalogs.refusePut id storageUnavailable)
                    | some (seq, hash) =>
                        some (catalogs.advance id task (.readingIndex job { body, seq, hash }), [])
              else some (catalogs.refusePut id storageUnavailable)
          | _ => none
      | none => none
  | .indexRead id read =>
      match catalogs.puts id with
      | some task =>
          match task.phase with
          | .readingIndex job stored =>
              if read then
                some (catalogs.evaluate id task job (some
                  { body := stored.body, seq := stored.seq, hash := stored.hash,
                    live := (catalogs.bucket.indexes.get stored.hash).isSome,
                    blocked := (catalogs.nodes task.node).isBlocked stored.hash }))
              else some (catalogs.refusePut id storageUnavailable)
          | _ => none
      | none => none
  | .written id outcome =>
      match catalogs.puts id with
      | some task =>
          match task.phase with
          | .writing admitted stage =>
              if stage = .pointer then none
              else
                let stored := catalogs.setBucket (admitted.store catalogs.bucket stage)
                match outcome with
                | .done => some (stored.advance id task (.writing admitted stage.next), [])
                | .failed => some (catalogs.refusePut id storageUnavailable)
                | .lost => some (stored.refusePut id storageUnavailable)
          | _ => none
      | none => none
  | .pointerWritten id outcome =>
      match catalogs.puts id with
      | some task =>
          match task.phase with
          | .writing admitted .pointer => some (catalogs.writePointer id task admitted outcome)
          | _ => none
      | none => none
  | .get node sub headers =>
      some ({ catalogs.setGet catalogs.nextId
                (some { node, sub, headers, phase := .authorizing }) with
              nextId := catalogs.nextId + 1 }, [])
  | .readerVerified id answer =>
      match catalogs.gets id with
      | some task =>
          match task.phase with
          | .authorizing =>
              match resolveReader (catalogs.nodes task.node) task.sub task.headers answer with
              | .error refusal => some (catalogs.refuseGet id refusal)
              | .ok claims =>
                  some (catalogs.setGet id (some { task with phase := .readingPointer claims }), [])
          | _ => none
      | none => none
  | .getPointerRead id read =>
      match catalogs.gets id with
      | some task =>
          match task.phase with
          | .readingPointer claims =>
              if read then
                match resolvePointer platform.toFormats (catalogs.nodes task.node)
                    (catalogs.bucket.pointers.get task.sub) with
                | .error refusal => some (catalogs.refuseGet id refusal)
                | .ok stored =>
                    match (catalogs.nodes task.node).attributes.get stored.hash with
                    | some fqn => some (catalogs.attributeKnown id task claims stored fqn)
                    | none => some (catalogs.setGet id
                        (some { task with phase := .readingIndex claims stored }), [])
              else some (catalogs.refuseGet id storageUnavailable)
          | _ => none
      | none => none
  | .getIndexRead id read =>
      match catalogs.gets id with
      | some task =>
          match task.phase with
          | .readingIndex claims stored =>
              if read then
                match resolveAttribute platform.toFormats
                    (catalogs.bucket.indexes.get stored.hash) with
                | .error refusal => some (catalogs.refuseGet id refusal)
                | .ok fqn =>
                    let node := (catalogs.nodes task.node).remember stored.hash fqn
                    some ((catalogs.setNode task.node node).attributeKnown id task claims stored fqn)
              else some (catalogs.refuseGet id storageUnavailable)
          | _ => none
      | none => none
  | .readerDecided id devices decision =>
      match catalogs.gets id with
      | some task =>
          match task.phase with
          | .deciding claims stored fqn =>
              match readerChain (catalogs.nodes task.node) task.headers claims devices with
              | .error refusal => some (catalogs.refuseGet id refusal)
              | .ok _ =>
                  let asked := CatalogNotice.asked id task.sub stored.hash fqn
                  match readerVerdict stored.hash decision with
                  | .error refusal => some (catalogs.setGet id none, [.refused id refusal, asked])
                  | .ok () => some (catalogs.setGet id none, [.served id task.sub stored, asked])
          | _ => none
      | none => none
  | .moderate node view =>
      let state := catalogs.nodes node
      some (catalogs.setNode node
        { state with publishing := state.publishing.map fun p => { p with moderation := view } }, [])
  | .restart node publishing readers =>
      some (catalogs.setNode node { publishing, readers, attributes := Table.empty }, [])
  | .dropped id => some ((catalogs.setPut id none).setGet id none, [])

end Catalogs

def catalogMachine (platform : CatalogPlatform) :
    Machine (Catalogs platform) CatalogEvent CatalogNotice :=
  ⟨Catalogs.next⟩

end TdfIrohS3
