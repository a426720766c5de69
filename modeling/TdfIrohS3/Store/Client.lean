import TdfIrohS3.Fetch.Server
import TdfIrohS3.Library.Layout

namespace TdfIrohS3

open Library

structure StoredObject where
  body : List UInt8
  owner : Option String
  deriving DecidableEq, Repr

abbrev Objects := Table String StoredObject

inductive RecordKind
  | moderation (kind : Kind)
  | audit
  | sessions
  | publishers
  deriving DecidableEq, Repr

def RecordKind.name : RecordKind → String
  | .moderation kind => kind.name
  | .audit => "audit"
  | .sessions => "sessions"
  | .publishers => "publishers"

structure S3Client where
  keyPrefix : String
  deriving DecidableEq, Repr

namespace S3Client

section Keys

variable (client : S3Client)

def blobKey (hashHex : String) : String := client.keyPrefix ++ "blobs/" ++ hashHex

def outboardKey (hashHex : String) : String := client.keyPrefix ++ "outboards/" ++ hashHex

def manifestKey (hashHex : String) : String := client.keyPrefix ++ "manifests/" ++ hashHex

def catalogDocumentKey (hashHex : String) : String :=
  client.keyPrefix ++ "catalog-documents/" ++ hashHex

def catalogOutboardKey (hashHex : String) : String :=
  client.keyPrefix ++ "catalog-outboards/" ++ hashHex

def catalogIndexKey (hashHex : String) : String :=
  client.keyPrefix ++ "catalog-indexes/" ++ hashHex

def catalogPointerKey (sub : String) : String := client.keyPrefix ++ "catalog-pointers/" ++ sub

def moderationPrefix (kind : RecordKind) : String :=
  client.keyPrefix ++ ("moderation/" ++ kind.name ++ "/")

def moderationKey (kind : RecordKind) (key : String) : String :=
  client.moderationPrefix kind ++ key

def dataKey (hex : String) : Object → String
  | .blob => client.blobKey hex
  | .catalogDocument _ => client.catalogDocumentKey hex

def objectOutboardKey (hex : String) : Object → String
  | .blob => client.outboardKey hex
  | .catalogDocument _ => client.catalogOutboardKey hex

end Keys

end S3Client

inductive S3Call
  | putBlobFile (hashHex : String) (data : List UInt8)
  | putOutboard (hashHex : String) (data : List UInt8)
  | putManifest (hashHex : String) (manifestJson : List UInt8)
  | getManifest (hashHex : String)
  /-- `get_object_from` with the key of an object's data or of its outboard. -/
  | getDataFrom (object : Object) (hashHex : String) (start : Nat)
  | getOutboardFrom (object : Object) (hashHex : String) (start : Nat)
  | blobSize (hashHex : String)
  | outboardSize (hashHex : String)
  | putCatalogDocument (hashHex : String) (body : List UInt8) (owner : String)
  | getCatalogDocument (hashHex : String)
  | headCatalogDocument (hashHex : String)
  | catalogDocumentSize (hashHex : String)
  | putCatalogOutboard (hashHex : String) (data : List UInt8)
  | catalogOutboardSize (hashHex : String)
  | getCatalogPointer (sub : String)
  | putCatalogIndex (hashHex : String) (body : List UInt8)
  | getCatalogIndex (hashHex : String)
  | putCatalogPointer (sub : String) (body : List UInt8) (expected : Option String)
  | putModerationRecord (kind : RecordKind) (key : String) (body : List UInt8)
  | getModerationRecord (kind : RecordKind) (key : String)
  deriving DecidableEq, Repr

inductive S3Answer
  | done
  | bytes (found : Option (List UInt8))
  | size (found : Option Nat)
  | document (found : Option (List UInt8 × Option String))
  | owner (found : Option (Option String))
  | documentSize (found : Option (Nat × Option String))
  /-- A pointer bundle and its ETag. -/
  | pointer (found : Option (List UInt8 × String))
  | stored (took : Bool)
  | failed
  deriving DecidableEq, Repr

/-- A GET from a byte on. S3 refuses a range that starts at or after the end. -/
def readFrom (start : Nat) (found : Option (List UInt8)) : S3Answer :=
  match found with
  | none => .bytes none
  | some body => if 0 < start ∧ body.length ≤ start then .failed else .bytes (some (body.drop start))

/-- A PUT under `If-Match` (the ETag) or `If-None-Match: *`: 412 when the condition does not hold,
404 for an ETag where there is no object. -/
def conditional (etag : List UInt8 → String) (stored : Option (List UInt8)) :
    Option String → S3Answer
  | none => .stored stored.isNone
  | some tag =>
      match stored with
      | none => .failed
      | some body => .stored (etag body == tag)

namespace S3Client

variable (client : S3Client) (etag : List UInt8 → String)

def answer (objects : Objects) : S3Call → S3Answer
  | .putBlobFile _ _ | .putOutboard _ _ | .putManifest _ _ | .putCatalogDocument _ _ _
  | .putCatalogOutboard _ _ | .putCatalogIndex _ _ | .putModerationRecord _ _ _ => .done
  | .getManifest hashHex => .bytes ((objects.get (client.manifestKey hashHex)).map (·.body))
  | .getDataFrom object hashHex start =>
      readFrom start ((objects.get (client.dataKey hashHex object)).map (·.body))
  | .getOutboardFrom object hashHex start =>
      readFrom start ((objects.get (client.objectOutboardKey hashHex object)).map (·.body))
  | .blobSize hashHex => .size ((objects.get (client.blobKey hashHex)).map (·.body.length))
  | .outboardSize hashHex => .size ((objects.get (client.outboardKey hashHex)).map (·.body.length))
  | .getCatalogDocument hashHex =>
      .document ((objects.get (client.catalogDocumentKey hashHex)).map fun o => (o.body, o.owner))
  | .headCatalogDocument hashHex =>
      .owner ((objects.get (client.catalogDocumentKey hashHex)).map (·.owner))
  | .catalogDocumentSize hashHex =>
      .documentSize
        ((objects.get (client.catalogDocumentKey hashHex)).map fun o => (o.body.length, o.owner))
  | .catalogOutboardSize hashHex =>
      .size ((objects.get (client.catalogOutboardKey hashHex)).map (·.body.length))
  | .getCatalogPointer sub =>
      .pointer ((objects.get (client.catalogPointerKey sub)).map fun o => (o.body, etag o.body))
  | .getCatalogIndex hashHex => .bytes ((objects.get (client.catalogIndexKey hashHex)).map (·.body))
  | .putCatalogPointer sub _ expected =>
      conditional etag ((objects.get (client.catalogPointerKey sub)).map (·.body)) expected
  | .getModerationRecord kind key =>
      .bytes ((objects.get (client.moderationKey kind key)).map (·.body))

def effect (objects : Objects) : S3Call → Objects
  | .putBlobFile hashHex data => objects.insert (client.blobKey hashHex) ⟨data, none⟩
  | .putOutboard hashHex data => objects.insert (client.outboardKey hashHex) ⟨data, none⟩
  | .putManifest hashHex manifestJson =>
      objects.insert (client.manifestKey hashHex) ⟨manifestJson, none⟩
  | .putCatalogDocument hashHex body owner =>
      objects.insert (client.catalogDocumentKey hashHex) ⟨body, some owner⟩
  | .putCatalogOutboard hashHex data =>
      objects.insert (client.catalogOutboardKey hashHex) ⟨data, none⟩
  | .putCatalogIndex hashHex body => objects.insert (client.catalogIndexKey hashHex) ⟨body, none⟩
  | .putCatalogPointer sub body expected =>
      if conditional etag ((objects.get (client.catalogPointerKey sub)).map (·.body)) expected =
          .stored true then
        objects.insert (client.catalogPointerKey sub) ⟨body, none⟩
      else objects
  | .putModerationRecord kind key body =>
      objects.insert (client.moderationKey kind key) ⟨body, none⟩
  | .getManifest _ | .getDataFrom _ _ _ | .getOutboardFrom _ _ _ | .blobSize _ | .outboardSize _
  | .getCatalogDocument _ | .headCatalogDocument _ | .catalogDocumentSize _
  | .catalogOutboardSize _ | .getCatalogPointer _ | .getCatalogIndex _ | .getModerationRecord _ _ =>
      objects

end S3Client

/-- What becomes of a call that S3 answers with 409: only the conditional PUT takes it for a write
that another one got ahead of. -/
def S3Call.conflict : S3Call → S3Answer
  | .putCatalogPointer _ _ _ => .stored false
  | _ => .failed

/-- How far a request came: answered, lost on the way, done with its answer lost, or answered
with 409. -/
inductive Carriage
  | answered
  | lost
  | unanswered
  | conflicting
  deriving DecidableEq, Repr

def carry {Store : Type} (effect : Store → S3Call → Store) (answer : Store → S3Call → S3Answer)
    (store : Store) (call : S3Call) : Carriage → Store × S3Answer
  | .answered => (effect store call, answer store call)
  | .lost => (store, .failed)
  | .unanswered => (effect store call, .failed)
  | .conflicting => (store, call.conflict)

def carryAll {Store : Type} (effect : Store → S3Call → Store)
    (answer : Store → S3Call → S3Answer) (store : Store) :
    List (S3Call × Carriage) → Store × List S3Answer
  | [] => (store, [])
  | (call, carriage) :: rest =>
      let first := carry effect answer store call carriage
      let others := carryAll effect answer first.1 rest
      (others.1, first.2 :: others.2)

end TdfIrohS3
