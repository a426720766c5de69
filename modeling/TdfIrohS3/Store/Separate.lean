import TdfIrohS3.Store.Client

namespace TdfIrohS3

open Library

/-- What the rest of the development takes the bucket for: a map for each family of objects. -/
structure Stores where
  bucket : Bucket
  records : RecordKind → Table String (List UInt8)

inductive Shelf
  | blobs
  | outboards
  | manifests
  | catalogDocuments
  | catalogOutboards
  | catalogIndexes
  | catalogPointers
  | records (kind : RecordKind)
  deriving DecidableEq, Repr

namespace Shelf

def mark : Shelf → String
  | .blobs => "blobs/"
  | .outboards => "outboards/"
  | .manifests => "manifests/"
  | .catalogDocuments => "catalog-documents/"
  | .catalogOutboards => "catalog-outboards/"
  | .catalogIndexes => "catalog-indexes/"
  | .catalogPointers => "catalog-pointers/"
  | .records kind => "moderation/" ++ kind.name ++ "/"

def all : List Shelf :=
  [.blobs, .outboards, .manifests, .catalogDocuments, .catalogOutboards, .catalogIndexes,
    .catalogPointers, .records (.moderation .suspensions), .records (.moderation .blocks),
    .records (.moderation .catalogBlocks), .records .audit, .records .sessions,
    .records .publishers]

theorem mem_all (shelf : Shelf) : shelf ∈ all := by
  cases shelf with
  | records kind =>
      cases kind with
      | moderation kind => cases kind <;> decide
      | _ => decide
  | _ => decide

theorem mark_apart (one two : Shelf) (front : (mark one).toList <+: (mark two).toList) :
    one = two := by
  have checked : ∀ one ∈ all, ∀ two ∈ all,
      (mark one).toList.isPrefixOf (mark two).toList = true → one = two := by decide +kernel
  exact checked one (mem_all one) two (mem_all two) (List.isPrefixOf_iff_prefix.mpr front)

end Shelf

namespace S3Client

variable (client : S3Client)

def layout : Layout Shelf String String :=
  Layout.ofMarks (fun shelf => client.keyPrefix ++ shelf.mark) (by
    intro one two front
    rw [String.toList_append, String.toList_append, List.prefix_append_right_inj] at front
    exact Shelf.mark_apart one two front)

theorem keys_eq :
    client.blobKey = client.layout.key .blobs ∧
      client.outboardKey = client.layout.key .outboards ∧
      client.manifestKey = client.layout.key .manifests ∧
      client.catalogDocumentKey = client.layout.key .catalogDocuments ∧
      client.catalogOutboardKey = client.layout.key .catalogOutboards ∧
      client.catalogIndexKey = client.layout.key .catalogIndexes ∧
      client.catalogPointerKey = client.layout.key .catalogPointers ∧
      ∀ kind, client.moderationKey kind = client.layout.key (.records kind) :=
  ⟨rfl, rfl, rfl, rfl, rfl, rfl, rfl, fun _ => rfl⟩

end S3Client

namespace Stores

variable (etag : List UInt8 → String)

def object (stores : Stores) : Shelf → String → Option StoredObject
  | .blobs, name => (stores.bucket.blobs.get name).map (⟨·, none⟩)
  | .outboards, name => (stores.bucket.outboards.get name).map (⟨·, none⟩)
  | .manifests, name => (stores.bucket.manifests.get name).map (⟨·, none⟩)
  | .catalogDocuments, name => (stores.bucket.documents.get name).map fun d => ⟨d.body, d.owner⟩
  | .catalogOutboards, name => (stores.bucket.catalogOutboards.get name).map (⟨·, none⟩)
  | .catalogIndexes, name => (stores.bucket.indexes.get name).map (⟨·, none⟩)
  | .catalogPointers, name => (stores.bucket.pointers.get name).map (⟨·, none⟩)
  | .records kind, name => ((stores.records kind).get name).map (⟨·, none⟩)

def answer (stores : Stores) : S3Call → S3Answer
  | .putBlobFile _ _ | .putOutboard _ _ | .putManifest _ _ | .putCatalogDocument _ _ _
  | .putCatalogOutboard _ _ | .putCatalogIndex _ _ | .putModerationRecord _ _ _ => .done
  | .getManifest hashHex => .bytes (stores.bucket.manifests.get hashHex)
  | .getDataFrom object hashHex start => readFrom start (object.data stores.bucket hashHex)
  | .getOutboardFrom object hashHex start => readFrom start (object.outboard stores.bucket hashHex)
  | .blobSize hashHex => .size ((stores.bucket.blobs.get hashHex).map List.length)
  | .outboardSize hashHex => .size ((stores.bucket.outboards.get hashHex).map List.length)
  | .getCatalogDocument hashHex =>
      .document ((stores.bucket.documents.get hashHex).map fun d => (d.body, d.owner))
  | .headCatalogDocument hashHex => .owner ((stores.bucket.documents.get hashHex).map (·.owner))
  | .catalogDocumentSize hashHex =>
      .documentSize ((stores.bucket.documents.get hashHex).map fun d => (d.body.length, d.owner))
  | .catalogOutboardSize hashHex =>
      .size ((stores.bucket.catalogOutboards.get hashHex).map List.length)
  | .getCatalogPointer sub =>
      .pointer ((stores.bucket.pointers.get sub).map fun body => (body, etag body))
  | .getCatalogIndex hashHex => .bytes (stores.bucket.indexes.get hashHex)
  | .putCatalogPointer sub _ expected => conditional etag (stores.bucket.pointers.get sub) expected
  | .getModerationRecord kind key => .bytes ((stores.records kind).get key)

def put (stores : Stores) (shelf : Shelf) (name : String) (object : StoredObject) : Stores :=
  let bucket := stores.bucket
  match shelf with
  | .blobs => { stores with bucket := { bucket with blobs := bucket.blobs.insert name object.body } }
  | .outboards =>
      { stores with bucket := { bucket with outboards := bucket.outboards.insert name object.body } }
  | .manifests =>
      { stores with bucket := { bucket with manifests := bucket.manifests.insert name object.body } }
  | .catalogDocuments =>
      let document : CatalogDocument := ⟨object.body, object.owner⟩
      { stores with bucket := { bucket with documents := bucket.documents.insert name document } }
  | .catalogOutboards =>
      let outboards := bucket.catalogOutboards.insert name object.body
      { stores with bucket := { bucket with catalogOutboards := outboards } }
  | .catalogIndexes =>
      { stores with bucket := { bucket with indexes := bucket.indexes.insert name object.body } }
  | .catalogPointers =>
      { stores with bucket := { bucket with pointers := bucket.pointers.insert name object.body } }
  | .records kind =>
      let table := (stores.records kind).insert name object.body
      { stores with records := Function.update stores.records kind table }

def effect (stores : Stores) : S3Call → Stores
  | .putBlobFile hashHex data => stores.put .blobs hashHex ⟨data, none⟩
  | .putOutboard hashHex data => stores.put .outboards hashHex ⟨data, none⟩
  | .putManifest hashHex manifestJson => stores.put .manifests hashHex ⟨manifestJson, none⟩
  | .putCatalogDocument hashHex body owner =>
      stores.put .catalogDocuments hashHex ⟨body, some owner⟩
  | .putCatalogOutboard hashHex data => stores.put .catalogOutboards hashHex ⟨data, none⟩
  | .putCatalogIndex hashHex body => stores.put .catalogIndexes hashHex ⟨body, none⟩
  | .putCatalogPointer sub body expected =>
      if conditional etag (stores.bucket.pointers.get sub) expected = .stored true then
        stores.put .catalogPointers sub ⟨body, none⟩
      else stores
  | .putModerationRecord kind key body => stores.put (.records kind) key ⟨body, none⟩
  | .getManifest _ | .getDataFrom _ _ _ | .getOutboardFrom _ _ _ | .blobSize _ | .outboardSize _
  | .getCatalogDocument _ | .headCatalogDocument _ | .catalogDocumentSize _
  | .catalogOutboardSize _ | .getCatalogPointer _ | .getCatalogIndex _ | .getModerationRecord _ _ =>
      stores

theorem object_put_self (stores : Stores) (shelf : Shelf) (name : String) (object : StoredObject)
    (fits : shelf = .catalogDocuments ∨ object.owner = none) :
    (stores.put shelf name object).object shelf name = some object := by
  obtain ⟨body, owner⟩ := object
  cases shelf <;> simp_all [put, Stores.object]

theorem object_put_of_ne (stores : Stores) {shelf one : Shelf} {name other : String}
    (object : StoredObject) (different : ¬ (one = shelf ∧ other = name)) :
    (stores.put shelf name object).object one other = stores.object one other := by
  by_cases same : one = shelf
  · subst same
    have elsewhere : other ≠ name := fun equal => different ⟨rfl, equal⟩
    cases one <;> simp [put, Stores.object, Table.get_insert_of_ne _ _ elsewhere]
  · cases shelf <;> cases one <;> simp_all [put, Stores.object, Function.update]

end Stores

/-- The one map of S3 holds the separate maps under their keys. -/
def S3Client.Agrees (client : S3Client) (objects : Objects) (stores : Stores) : Prop :=
  client.layout.Holds objects stores.object

namespace S3Client.Agrees

variable {client : S3Client} {etag : List UInt8 → String} {objects : Objects} {stores : Stores}

theorem get_key (agrees : client.Agrees objects stores) (shelf : Shelf) (name : String) :
    objects.get (client.layout.key shelf name) = stores.object shelf name :=
  agrees shelf name

theorem data (agrees : client.Agrees objects stores) (object : Object) (hashHex : String) :
    (objects.get (client.dataKey hashHex object)).map (·.body) =
      object.data stores.bucket hashHex := by
  cases object <;>
    simp [dataKey, client.keys_eq, agrees.get_key, Stores.object, Object.data, Function.comp_def]

theorem objectOutboard (agrees : client.Agrees objects stores) (object : Object)
    (hashHex : String) :
    (objects.get (client.objectOutboardKey hashHex object)).map (·.body) =
      object.outboard stores.bucket hashHex := by
  cases object <;>
    simp [objectOutboardKey, client.keys_eq, agrees.get_key, Stores.object, Object.outboard,
      Function.comp_def]

theorem pointerBody (agrees : client.Agrees objects stores) (sub : String) :
    (objects.get (client.catalogPointerKey sub)).map (·.body) = stores.bucket.pointers.get sub := by
  simp [client.keys_eq, agrees.get_key, Stores.object, Function.comp_def]

theorem answer (agrees : client.Agrees objects stores) (call : S3Call) :
    client.answer etag objects call = stores.answer etag call := by
  cases call with
  | getDataFrom object hashHex start =>
      rw [S3Client.answer, Stores.answer, agrees.data]
  | getOutboardFrom object hashHex start =>
      rw [S3Client.answer, Stores.answer, agrees.objectOutboard]
  | putCatalogPointer sub body expected =>
      rw [S3Client.answer, Stores.answer, agrees.pointerBody]
  | _ =>
      simp [S3Client.answer, Stores.answer, client.keys_eq, agrees.get_key, Stores.object,
        Function.comp_def]

theorem put (agrees : client.Agrees objects stores) (shelf : Shelf) (name : String)
    (object : StoredObject) (fits : shelf = .catalogDocuments ∨ object.owner = none) :
    client.Agrees (objects.insert (client.layout.key shelf name) object)
      (stores.put shelf name object) :=
  Layout.Holds.insert agrees (stores.object_put_self shelf name object fits)
    fun _ _ different => stores.object_put_of_ne object different

theorem effect (agrees : client.Agrees objects stores) (call : S3Call) :
    client.Agrees (client.effect etag objects call) (stores.effect etag call) := by
  cases call with
  | putBlobFile hashHex data => exact agrees.put .blobs hashHex ⟨data, none⟩ (.inr rfl)
  | putOutboard hashHex data => exact agrees.put .outboards hashHex ⟨data, none⟩ (.inr rfl)
  | putManifest hashHex data => exact agrees.put .manifests hashHex ⟨data, none⟩ (.inr rfl)
  | putCatalogDocument hashHex body owner =>
      exact agrees.put .catalogDocuments hashHex ⟨body, some owner⟩ (.inl rfl)
  | putCatalogOutboard hashHex data =>
      exact agrees.put .catalogOutboards hashHex ⟨data, none⟩ (.inr rfl)
  | putCatalogIndex hashHex body => exact agrees.put .catalogIndexes hashHex ⟨body, none⟩ (.inr rfl)
  | putCatalogPointer sub body expected =>
      rw [S3Client.effect, Stores.effect, agrees.pointerBody]
      split
      · exact agrees.put .catalogPointers sub ⟨body, none⟩ (.inr rfl)
      · exact agrees
  | putModerationRecord kind key body =>
      exact agrees.put (.records kind) key ⟨body, none⟩ (.inr rfl)
  | _ => exact agrees

theorem carry (agrees : client.Agrees objects stores) (etag : List UInt8 → String) (call : S3Call)
    (carriage : Carriage) :
    client.Agrees
        (TdfIrohS3.carry (client.effect etag) (client.answer etag) objects call carriage).1
        (TdfIrohS3.carry (Stores.effect etag) (Stores.answer etag) stores call carriage).1 ∧
      (TdfIrohS3.carry (client.effect etag) (client.answer etag) objects call carriage).2 =
        (TdfIrohS3.carry (Stores.effect etag) (Stores.answer etag) stores call carriage).2 := by
  cases carriage with
  | answered => exact ⟨agrees.effect call, agrees.answer call⟩
  | lost => exact ⟨agrees, rfl⟩
  | unanswered => exact ⟨agrees.effect call, rfl⟩
  | conflicting => exact ⟨agrees, rfl⟩

end S3Client.Agrees

/-- The one map of S3 is a refinement of a map for each family. Under any configured prefix, with
any hashes, subjects and record keys, and whatever requests of whatever nodes reach it in whatever
order, with some lost and some done but unanswered, every request is answered as by the separate
maps, and the objects stored are theirs: no family's write is seen through another's. `S3Call` has
no listing, which is many requests and not one. -/
theorem one_bucket_refines_separate_maps (client : S3Client) (etag : List UInt8 → String)
    (objects : Objects) (stores : Stores) (agrees : client.Agrees objects stores)
    (calls : List (S3Call × Carriage)) :
    client.Agrees (carryAll (client.effect etag) (client.answer etag) objects calls).1
        (carryAll (Stores.effect etag) (Stores.answer etag) stores calls).1 ∧
      (carryAll (client.effect etag) (client.answer etag) objects calls).2 =
        (carryAll (Stores.effect etag) (Stores.answer etag) stores calls).2 := by
  induction calls generalizing objects stores with
  | nil => exact ⟨agrees, rfl⟩
  | cons call rest ih =>
      obtain ⟨call, carriage⟩ := call
      obtain ⟨still, same⟩ := agrees.carry etag call carriage
      obtain ⟨kept, answers⟩ := ih _ _ still
      exact ⟨kept, by rw [carryAll, carryAll, same, answers]⟩

private def nothingStored : Stores where
  bucket :=
    { blobs := Table.empty, outboards := Table.empty, manifests := Table.empty,
      documents := Table.empty, catalogOutboards := Table.empty, indexes := Table.empty,
      pointers := Table.empty }
  records := fun _ => Table.empty

private def oneNameEverywhere : List (S3Call × Carriage) :=
  [(.putBlobFile "u1" [1], .answered), (.putOutboard "u1" [2], .unanswered),
    (.putCatalogPointer "u1" [3] none, .answered),
    (.putModerationRecord (.moderation .suspensions) "u1" [4], .answered),
    (.putModerationRecord .audit "suspensions/u1" [5], .answered), (.putBlobFile "u1" [6], .lost)]

theorem one_bucket_refines_separate_maps_from_empty :
    S3Client.Agrees ⟨"tdf/"⟩ (Table.empty : Objects) nothingStored ∧
      (carryAll (S3Client.effect ⟨"tdf/"⟩ fun _ => "e") (S3Client.answer ⟨"tdf/"⟩ fun _ => "e")
          (Table.empty : Objects) oneNameEverywhere).2 =
        [.done, .failed, .stored true, .done, .done, .failed] := by
  have start : S3Client.Agrees ⟨"tdf/"⟩ (Table.empty : Objects) nothingStored := by
    intro shelf name
    cases shelf <;> rfl
  refine ⟨start, ?_⟩
  rw [(one_bucket_refines_separate_maps ⟨"tdf/"⟩ (fun _ => "e") _ _ start oneNameEverywhere).2]
  rfl

end TdfIrohS3
