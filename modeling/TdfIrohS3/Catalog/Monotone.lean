import TdfIrohS3.Catalog.Steps

namespace TdfIrohS3

open Library

namespace Catalogs

variable {platform : CatalogPlatform}

structure Idle (catalogs : Catalogs platform) : Prop where
  puts : ∀ id, catalogs.puts id = none
  gets : ∀ id, catalogs.gets id = none

def BundleReadsBack (catalogs : Catalogs platform) : CatalogEvent → Prop
  | .pointerWritten id _ => ∀ task admitted, catalogs.puts id = some task →
      task.phase = .writing admitted .pointer →
      platform.json admitted.bundleBody = .ok admitted.job.bundle.toValue
  | _ => True

def RecordReadsBack (catalogs : Catalogs platform) : CatalogEvent → Prop
  | .written id _ => ∀ task admitted, catalogs.puts id = some task →
      task.phase = .writing admitted .index →
      platform.json (platform.toVec admitted.job.record.toValue) = .ok admitted.job.record.toValue
  | _ => True

def ReadsBack (catalogs : Catalogs platform) (event : CatalogEvent) : Prop :=
  BundleReadsBack catalogs event ∧ RecordReadsBack catalogs event

def HasIndex (sub : String) (catalogs : Catalogs platform) : Prop :=
  ∀ body seq hash, catalogs.bucket.pointers.get sub = some body →
    storedSeq platform.toFormats body = some (seq, hash) →
    (catalogs.bucket.indexes.get hash).isSome = true

section Steps

variable {catalogs after : Catalogs platform} {event : CatalogEvent} {notices : List CatalogNotice}
variable {sub : String}

theorem store_pointers {headers : Headers} (admitted : Admitted platform sub headers)
    (bucket : Bucket) (stage : Stage) : (admitted.store bucket stage).pointers = bucket.pointers := by
  cases stage <;> rfl

theorem index_kept (effect : Effect catalogs event after notices) {hash : String}
    (stored : (catalogs.bucket.indexes.get hash).isSome = true) :
    (after.bucket.indexes.get hash).isSome = true := by
  cases effect_bucket effect with
  | kept same quiet => rwa [same]
  | wrote id task admitted stage held phase unconditional about bucket quiet =>
      rw [bucket]
      cases stage with
      | index => exact Table.contains_insert_of_contains _ _ stored
      | _ => exact stored
  | replaced id task admitted held phase about expected bucket noticed =>
      rw [bucket]
      exact stored

theorem Admitted.base_of_expects {headers : Headers} {admitted : Admitted platform sub headers}
    (etags : Function.Injective platform.etag) {stored : Option (List UInt8)}
    (expected : admitted.expects stored = true) : stored = admitted.base.map Base.body := by
  have same : stored.map platform.etag = (admitted.base.map Base.body).map platform.etag := by
    rw [Option.map_map]
    exact beq_iff_eq.mp expected
  exact Option.map_injective etags same

theorem Admitted.storedPointer_bundleBody {headers : Headers}
    {admitted : Admitted platform sub headers}
    (readsBack : platform.json admitted.bundleBody = .ok admitted.job.bundle.toValue) :
    storedPointer platform.toFormats admitted.bundleBody = some admitted.job.pointer :=
  storedPointer_of_readsBack admitted.job.decoded admitted.job.parsed readsBack

theorem storedSeq_of_storedPointer {formats : Formats} {body : List UInt8} {pointer : Pointer}
    (reads : storedPointer formats body = some pointer) :
    storedSeq formats body = some (pointer.seq, pointer.catalogHash) := by
  rw [storedSeq, reads]
  rfl

/-- What keeps the stored seq of one subject rising: its pointer is live, every base read for it is
live, and a publish about to write its pointer has written its index record. -/
structure Rising (sub : String) (catalogs : Catalogs platform) : Prop where
  live : HasIndex sub catalogs
  reading : ∀ id task job stored, catalogs.puts id = some task → task.sub = sub →
    task.phase = .readingIndex job stored →
    storedSeq platform.toFormats stored.body = some (stored.seq, stored.hash) ∧
      (catalogs.bucket.indexes.get stored.hash).isSome = true
  based : ∀ id task admitted stage, catalogs.puts id = some task → task.sub = sub →
    task.phase = .writing admitted stage → ∀ b, admitted.base = some b →
    storedSeq platform.toFormats b.body = some (b.seq, b.hash) ∧ b.live = true
  indexed : ∀ id task admitted, catalogs.puts id = some task → task.sub = sub →
    task.phase = .writing admitted .pointer →
    (catalogs.bucket.indexes.get admitted.job.pointer.catalogHash).isSome = true

structure Accepted (sub : String) (catalogs : Catalogs platform) (job : PublishJob platform sub) :
    Prop where
  stored : catalogs.bucket.pointers.get sub = some (platform.toVec job.bundle.toValue)
  reads : storedPointer platform.toFormats (platform.toVec job.bundle.toValue) = some job.pointer

/-- A step leaves the subject's pointer, or stores one with a greater seq that reads back as the
pointer that was accepted. -/
theorem pointer_step (etags : Function.Injective platform.etag) (rising : Rising sub catalogs)
    (readsBack : BundleReadsBack catalogs event) (effect : Effect catalogs event after notices) :
    after.bucket.pointers.get sub = catalogs.bucket.pointers.get sub ∨
      ∃ job : PublishJob platform sub, Accepted sub after job ∧
        (after.bucket.indexes.get job.pointer.catalogHash).isSome = true ∧
        ∀ body, catalogs.bucket.pointers.get sub = some body →
          ∃ seq hash, storedSeq platform.toFormats body = some (seq, hash) ∧
            seq < job.pointer.seq := by
  cases effect_bucket effect with
  | kept same quiet => exact .inl (by rw [same])
  | wrote id task admitted stage held phase unconditional about bucket quiet =>
      exact .inl (by rw [bucket, store_pointers])
  | replaced id task admitted held phase about expected bucket noticed =>
      by_cases same : task.sub = sub
      · subst same
        obtain ⟨outcome, rfl⟩ := about
        have reads := Admitted.storedPointer_bundleBody (readsBack task admitted held phase)
        have indexed := index_kept effect (rising.indexed id task admitted held rfl phase)
        have replacing := Admitted.base_of_expects etags expected
        refine .inr ⟨admitted.job, ⟨?_, reads⟩, indexed, ?_⟩
        · rw [bucket]
          exact Table.get_insert_self ..
        · intro body stored
          rw [stored] at replacing
          obtain ⟨b, based, rfl⟩ := Option.map_eq_some_iff.mp replacing.symm
          have facts := rising.based id task admitted .pointer held rfl phase b based
          refine ⟨b.seq, b.hash, facts.1, admitted.newer b.seq ?_⟩
          rw [based, Base.currentSeq, Option.bind_some, if_pos facts.2]
      · refine .inl ?_
        rw [bucket]
        exact Table.get_insert_of_ne _ _ fun equal => same equal.symm

theorem hasIndex_step (etags : Function.Injective platform.etag) (rising : Rising sub catalogs)
    (readsBack : BundleReadsBack catalogs event) (effect : Effect catalogs event after notices) :
    HasIndex sub after := by
  intro body seq hash found reads
  rcases pointer_step etags rising readsBack effect with same | ⟨job, accepted, indexed, -⟩
  · rw [same] at found
    exact index_kept effect (rising.live body seq hash found reads)
  · have body_eq := Option.some.inj (accepted.stored.symm.trans found)
    rw [← body_eq, storedSeq_of_storedPointer accepted.reads] at reads
    obtain ⟨rfl, rfl⟩ := Prod.mk.inj (Option.some.inj reads)
    exact indexed

theorem rising_step (etags : Function.Injective platform.etag) (rising : Rising sub catalogs)
    (readsBack : BundleReadsBack catalogs event) (effect : Effect catalogs event after notices) :
    Rising sub after where
  live := hasIndex_step etags rising readsBack effect
  reading := by
    intro id task job stored inFlight same reading
    rcases effect_readingIndex effect inFlight reading with held | found
    · have facts := rising.reading id task job stored held same reading
      exact ⟨facts.1, index_kept effect facts.2⟩
    · have stored := found.body
      rw [same] at stored
      exact ⟨found.reads, index_kept effect (rising.live _ _ _ stored found.reads)⟩
  based := by
    intro id task admitted stage inFlight same writing b base
    cases effect_writing effect inFlight writing with
    | kept held => exact rising.based id task admitted stage held same writing b base
    | admitted phase held based noticed =>
        rw [base] at based
        cases based with
        | present stored reading => exact rising.reading id _ _ stored held same reading
    | wrote held => exact rising.based id _ _ _ held same rfl b base
  indexed := by
    intro id task admitted inFlight same writing
    -- Only the write of the index record comes before the pointer's.
    generalize last : Stage.pointer = stage at writing
    cases effect_writing effect inFlight writing with
    | kept held =>
        subst last
        exact index_kept effect (rising.indexed id task admitted held same writing)
    | admitted => cases last
    | @wrote earlier held unconditional bucket =>
        cases earlier with
        | index =>
            rw [bucket]
            exact Table.isSome_get_insert_self ..
        | document => cases last
        | outboard => cases last
        | pointer => exact absurd rfl unconditional

theorem rising_of_idle (idle : Idle catalogs) (live : HasIndex sub catalogs) : Rising sub catalogs where
  live := live
  reading := fun id _ _ _ inFlight => by rw [idle.puts id] at inFlight; cases inFlight
  based := fun id _ _ _ inFlight => by rw [idle.puts id] at inFlight; cases inFlight
  indexed := fun id _ _ inFlight => by rw [idle.puts id] at inFlight; cases inFlight

end Steps

section Served

variable {catalogs after : Catalogs platform} {event : CatalogEvent}
variable {log notices : List CatalogNotice} {sub : String} {floor stored : StoredPointer}

/-- `stored` is not older than `floor`, and is the same bundle if its seq is the same. -/
def AtLeast (floor stored : StoredPointer) : Prop :=
  floor.seq ≤ stored.seq ∧ (floor.seq = stored.seq → floor.body = stored.body)

def NotBefore (sub : String) (floor : StoredPointer) (catalogs : Catalogs platform) : Prop :=
  ∃ stored, Found catalogs sub stored ∧ AtLeast floor stored

theorem notBefore_of_found (found : Found catalogs sub stored) : NotBefore sub stored catalogs :=
  ⟨stored, found, Nat.le_refl _, fun _ => rfl⟩

theorem atLeast_of_found (notBefore : NotBefore sub floor catalogs)
    (found : Found catalogs sub stored) : AtLeast floor stored := by
  rcases notBefore with ⟨current, held, order⟩
  have body : current.body = stored.body := Option.some.inj (held.body.symm.trans found.body)
  have reads := held.reads
  rw [body, found.reads] at reads
  obtain ⟨seq, -⟩ := Prod.mk.inj (Option.some.inj reads)
  have above := order.1
  refine ⟨by omega, ?_⟩
  intro same
  calc floor.body = current.body := order.2 (by omega)
    _ = stored.body := body

theorem notBefore_step (etags : Function.Injective platform.etag) (rising : Rising sub catalogs)
    (readsBack : BundleReadsBack catalogs event) (effect : Effect catalogs event after notices)
    (notBefore : NotBefore sub floor catalogs) : NotBefore sub floor after := by
  rcases notBefore with ⟨current, held, order⟩
  rcases pointer_step etags rising readsBack effect with same | ⟨job, accepted, -, greater⟩
  · exact ⟨current, ⟨same.trans held.body, held.reads⟩, order⟩
  · obtain ⟨seq, hash, reads, less⟩ := greater current.body held.body
    obtain ⟨rfl, -⟩ := Prod.mk.inj (Option.some.inj (held.reads.symm.trans reads))
    have above : floor.seq < job.pointer.seq := Nat.lt_of_le_of_lt order.1 less
    refine ⟨⟨_, job.pointer.seq, job.pointer.catalogHash⟩,
      ⟨accepted.stored, storedSeq_of_storedPointer accepted.reads⟩, Nat.le_of_lt above, ?_⟩
    intro same
    exact absurd same (Nat.ne_of_lt above)

/-- Whatever was served, or was read to be served, is not newer than what is stored. -/
structure Current (sub : String) (log : List CatalogNotice) (catalogs : Catalogs platform) :
    Prop where
  rising : Rising sub catalogs
  held : ∀ id task stored, catalogs.gets id = some task → task.sub = sub →
    GetPhase.stored task.phase = some stored → NotBefore sub stored catalogs
  served : ∀ id stored, .served id sub stored ∈ log → NotBefore sub stored catalogs
  ids : ∀ id task, catalogs.gets id = some task → id < catalogs.nextId
  servedIds : ∀ id stored, .served id sub stored ∈ log → id < catalogs.nextId

theorem current_step (etags : Function.Injective platform.etag) (current : Current sub log catalogs)
    (readsBack : BundleReadsBack catalogs event) (effect : Effect catalogs event after notices) :
    Current sub (notices ++ log) after where
  rising := rising_step etags current.rising readsBack effect
  held := by
    intro id task stored inFlight same holds
    apply notBefore_step etags current.rising readsBack effect
    obtain ⟨old, was, sameSub, held | ⟨found, -⟩⟩ := (effect_gets effect inFlight).stored holds
    · exact current.held id old stored was (sameSub.trans same) held
    · exact notBefore_of_found (same ▸ found)
  served := by
    intro id stored seen
    apply notBefore_step etags current.rising readsBack effect
    rcases List.mem_append.mp seen with here | there
    · cases effect_notice effect here with
      | served task was read =>
          rcases read with found | held
          · exact notBefore_of_found found
          · exact current.held id task stored was rfl held
    · exact current.served id stored there
  ids := by
    intro id task inFlight
    have grows := nextId_le effect
    rcases (effect_gets effect inFlight).id with ⟨old, was⟩ | ⟨fresh, counted⟩
    · have below := current.ids id old was
      omega
    · omega
  servedIds := by
    intro id stored seen
    have grows := nextId_le effect
    rcases List.mem_append.mp seen with here | there
    · cases effect_notice effect here with
      | served task was read =>
          have below := current.ids id task was
          omega
    · have below := current.servedIds id stored there
      omega

theorem current_of_idle (idle : Idle catalogs) (live : HasIndex sub catalogs) :
    Current sub [] catalogs where
  rising := rising_of_idle idle live
  held := fun id _ _ inFlight => by rw [idle.gets id] at inFlight; cases inFlight
  served := fun _ _ seen => by cases seen
  ids := fun id _ inFlight => by rw [idle.gets id] at inFlight; cases inFlight
  servedIds := fun _ _ seen => by cases seen

/-- Reads received from `bound` on are not older than `floor`. -/
structure Floored (sub : String) (floor : StoredPointer) (bound : Nat) (log : List CatalogNotice)
    (catalogs : Catalogs platform) : Prop where
  rising : Rising sub catalogs
  stored : NotBefore sub floor catalogs
  held : ∀ id task stored, bound ≤ id → catalogs.gets id = some task → task.sub = sub →
    GetPhase.stored task.phase = some stored → AtLeast floor stored
  served : ∀ id stored, bound ≤ id → .served id sub stored ∈ log → AtLeast floor stored

theorem floored_step (etags : Function.Injective platform.etag) {bound : Nat}
    (floored : Floored sub floor bound log catalogs) (readsBack : BundleReadsBack catalogs event)
    (effect : Effect catalogs event after notices) :
    Floored sub floor bound (notices ++ log) after where
  rising := rising_step etags floored.rising readsBack effect
  stored := notBefore_step etags floored.rising readsBack effect floored.stored
  held := by
    intro id task stored late inFlight same holds
    obtain ⟨old, was, sameSub, held | ⟨found, -⟩⟩ := (effect_gets effect inFlight).stored holds
    · exact floored.held id old stored late was (sameSub.trans same) held
    · exact atLeast_of_found floored.stored (same ▸ found)
  served := by
    intro id stored late seen
    rcases List.mem_append.mp seen with here | there
    · cases effect_notice effect here with
      | served task was read =>
          rcases read with found | held
          · exact atLeast_of_found floored.stored found
          · exact floored.held id task stored late was rfl held
    · exact floored.served id stored late there

end Served

/-- A creator's stored pointer never rolls back. Each change stores the bundle of a publish that
passed its checks; that bundle reads back as the pointer accepted with it, and its seq is greater than
the one before. So of two reads, one received after the other was answered, the later is not served
an older seq, and with the same entity tag it is served the same bundle. -/
theorem stored_pointer_never_rolls_back (etags : Function.Injective platform.etag) (sub : String)
    {start catalogs : Catalogs platform} {log : List CatalogNotice} (idle : Idle start)
    (live : HasIndex sub start)
    (run : (catalogMachine platform).Run (fun _ catalogs event => BundleReadsBack catalogs event) []
      start log catalogs) :
    (∀ event after notices, BundleReadsBack catalogs event →
      (catalogMachine platform).next catalogs event = some (after, notices) →
      after.bucket.pointers.get sub ≠ catalogs.bucket.pointers.get sub →
      ∃ job : PublishJob platform sub,
        after.bucket.pointers.get sub = some (platform.toVec job.bundle.toValue) ∧
        storedSeq platform.toFormats (platform.toVec job.bundle.toValue) =
          some (job.pointer.seq, job.pointer.catalogHash) ∧
        ∀ body, catalogs.bucket.pointers.get sub = some body →
          ∃ seq hash, storedSeq platform.toFormats body = some (seq, hash) ∧
            seq < job.pointer.seq) ∧
    ∀ first stored history later, .served first sub stored ∈ log →
      (catalogMachine platform).Run (fun _ catalogs event => BundleReadsBack catalogs event) log
        catalogs history later →
      ∀ second again, catalogs.nextId ≤ second → .served second sub again ∈ history →
        stored.seq ≤ again.seq ∧
          (pointerEtag stored.seq = pointerEtag again.seq → stored.body = again.body) := by
  have current : Current sub log catalogs := by
    apply run.invariant (Current sub) (current_of_idle idle live)
    intro log state input next notices current readsBack taken
    exact current_step etags current readsBack (machine_effect taken)
  constructor
  · intro event after notices readsBack taken changed
    rcases pointer_step etags current.rising readsBack (machine_effect taken) with
      same | ⟨job, accepted, -, greater⟩
    · exact absurd same changed
    · exact ⟨job, accepted.stored, storedSeq_of_storedPointer accepted.reads, greater⟩
  · intro first stored history later served rest second again late servedAgain
    have initial : Floored sub stored catalogs.nextId log catalogs :=
      { rising := current.rising
        stored := current.served first stored served
        held := fun id task _ late inFlight =>
          absurd (current.ids id task inFlight) (Nat.not_lt.mpr late)
        served := fun id _ late seen =>
          absurd (current.servedIds id _ seen) (Nat.not_lt.mpr late) }
    have floored : Floored sub stored catalogs.nextId history later := by
      apply rest.invariant (Floored sub stored catalogs.nextId) initial
      intro log state input next notices floored readsBack taken
      exact floored_step etags floored readsBack (machine_effect taken)
    have order := floored.served second again late servedAgain
    exact ⟨order.1, fun same => order.2 (pointerEtag_injective same)⟩

section Sample

def readsBackCheck (catalogs : Catalogs platform) : CatalogEvent → Bool
  | .pointerWritten id _ => (catalogs.puts id).all fun task =>
      match task.phase with
      | .writing admitted .pointer =>
          (platform.json admitted.bundleBody).toOption == some admitted.job.bundle.toValue
      | _ => true
  | .written id _ => (catalogs.puts id).all fun task =>
      match task.phase with
      | .writing admitted .index =>
          (platform.json (platform.toVec admitted.job.record.toValue)).toOption ==
            some admitted.job.record.toValue
      | _ => true
  | _ => true

theorem ok_of_toOption {α ε : Type} {answer : Except ε α} {value : α}
    (found : answer.toOption = some value) : answer = .ok value := by
  cases answer with
  | error => cases found
  | ok _ => exact congrArg Except.ok (Option.some.inj found)

theorem readsBack_of_check {catalogs : Catalogs platform} {event : CatalogEvent}
    (checked : readsBackCheck catalogs event = true) : ReadsBack catalogs event := by
  cases event with
  | pointerWritten id outcome =>
      refine ⟨fun task admitted held phase => ?_, trivial⟩
      simp only [readsBackCheck, held, phase, Option.all_some, beq_iff_eq] at checked
      exact ok_of_toOption checked
  | written id outcome =>
      refine ⟨trivial, fun task admitted held phase => ?_⟩
      simp only [readsBackCheck, held, phase, Option.all_some, beq_iff_eq] at checked
      exact ok_of_toOption checked
  | _ => exact ⟨trivial, trivial⟩

def sampleSub : String := "0b0e6f7c-0000-4000-8000-0000000000e0"

def sampleDocument : List UInt8 := List.replicate 32 0

def sampleHash : String := Text.hexEncode sampleDocument

def sampleFqn : String := creatorFqnPrefix ++ sampleSub

def sampleBundle (pointer : String) : Bundle :=
  { pointer, assertion := ⟨"i", "a", "c", "s"⟩, credential := "k" }

def samplePointer (seq : Nat) : Value :=
  .object [("schema", .string pointerSchema), ("owner", .string sampleSub),
    ("seq", .number (.posInt seq)), ("catalogHash", .string sampleHash),
    ("catalogSize", .number (.posInt 32)), ("issuedAt", .string "2026-10-16T14:30:00Z")]

def samplePayload : List UInt8 := List.replicate 32 1

def samplePayloadHash : String := Text.hexEncode samplePayload

def sampleIndex : Value :=
  .array [.object [("contentID", .string "rec-1"), ("version", .number (.posInt 1)),
    ("payloadHash", .string samplePayloadHash), ("payloadSize", .number (.posInt 32))]]

def sampleRecord : IndexRecord := ⟨sampleSub, sampleFqn, sampleIndex⟩

def sampleRequest (pointer : String) : Value :=
  .object [("document", .string "d"), ("bundle", (sampleBundle pointer).toValue),
    ("index", sampleIndex)]

def sampleManifest : Value :=
  .object [("payload", .object [("mimeType", .string catalogMimeType)]),
    ("encryptionInformation",
      .object [("policy", .string "policy"), ("keyAccess", .array [])])]

def samplePolicy : Value :=
  .object [("uuid", .string "u"), ("body", .object [("dataAttributes",
    .array [.object [("attribute", .string sampleFqn)]]), ("dissem", .array [])])]

/-- A platform that knows two bundles, `p1` with seq 1 and `p2` with seq 2, over one document. -/
def samplePlatform : CatalogPlatform where
  json bytes := match bytes with
    | [1] => .ok (samplePointer 1)
    | [2] => .ok (samplePointer 2)
    | [3] => .ok sampleManifest
    | [4] => .ok samplePolicy
    | [5] => .ok sampleRecord.toValue
    | [11] => .ok (sampleBundle "p1").toValue
    | [12] => .ok (sampleBundle "p2").toValue
    | [21] => .ok (sampleRequest "p1")
    | [22] => .ok (sampleRequest "p2")
    | _ => .error "expected value"
  mismatch _ := "invalid type"
  toVec value :=
    if value = (sampleBundle "p1").toValue then [11]
    else if value = (sampleBundle "p2").toValue then [12]
    else if value = sampleRecord.toValue then [5]
    else []
  base64Url text :=
    if text = "p1" then some [1] else if text = "p2" then some [2]
    else if text = "d" then some sampleDocument else none
  base64Standard text := if text = "policy" then some [4] else none
  manifest _ := some [3]
  attributePolicy _ := none
  outboardSize _ := 0
  blake3 := id
  outboard _ := some []
  etag := Text.hexEncode

def sampleReader : VerifiedClaims := .bare sampleSub "arkavo"

def sampleCatalogs : Catalogs samplePlatform where
  bucket :=
    { blobs := Table.empty.insert samplePayloadHash samplePayload, outboards := Table.empty,
      manifests := Table.empty.insert samplePayloadHash [3], documents := Table.empty,
      catalogOutboards := Table.empty, indexes := Table.empty, pointers := Table.empty }
  nodes := fun _ =>
    { publishing := some
        { policy :=
            { entitlement := none, audience := none, sessionTtl := 0, operatorClientIds := [],
              decider := { mode := .local, provider := false,
                           entitlement := defaultPublishEntitlement, environment := none } }
          moderation := Moderation.empty }
      readers := { provider := true, action := "read", environment := none }
      attributes := Table.empty }
  puts := fun _ => none
  gets := fun _ => none
  nextId := 0

theorem sampleCatalogs_idle : Idle sampleCatalogs := ⟨fun _ => rfl, fun _ => rfl⟩

theorem sampleCatalogs_hasIndex (sub : String) : HasIndex sub sampleCatalogs := by
  intro body seq hash found
  cases found

def sampleToken : Headers := [("authorization", "Bearer t"), ("content-type", "application/json")]

def sampleBlocked (sub : String) : Moderation :=
  Moderation.empty.applyCatalogBlock
    { subject := sub, reason := "rights", reportId := none, by_ := "client:moderator", at_ := 0,
      liftedBy := none, liftedAt := none }

def sampleChecks (id : Nat) (headers : Headers) (body : List UInt8) : List CatalogEvent :=
  [.put 0 sampleSub (sampleToken ++ headers),
    .authorized id { verified := .ok sampleReader, devices := [], decision := none },
    .bodyRead id (some body), .bundleVerified id (.ok [7]), .payloadsLookedUp id [] [],
    .statusChecked id (.ok ()), .pointerRead id true]

def sampleWrites (id : Nat) : List CatalogEvent :=
  [.written id .done, .written id .done, .written id .done, .pointerWritten id .done]

def sampleGet (id : Nat) : List CatalogEvent :=
  [.get 0 sampleSub sampleToken, .readerVerified id (.ok sampleReader), .getPointerRead id true,
    .getIndexRead id true, .readerDecided id [] (some [(sampleHash, true)])]

def publishAndRead : List CatalogEvent :=
  sampleChecks 0 [] [21] ++ sampleWrites 0 ++ sampleGet 1

def publishAndReadAgain : List CatalogEvent :=
  sampleChecks 2 [] [22] ++ [.indexRead 2 true] ++ sampleWrites 2 ++
    [.get 0 sampleSub sampleToken, .readerVerified 3 (.ok sampleReader), .getPointerRead 3 true,
      .readerDecided 3 [] (some [(sampleHash, true)])]

def sampleStored (seq : Nat) (body : List UInt8) : StoredPointer := ⟨body, seq, sampleHash⟩

def readTwice (log : List CatalogNotice) (catalogs : Catalogs samplePlatform) : Bool :=
  decide (.served 1 sampleSub (sampleStored 1 [11]) ∈ log) && decide (catalogs.nextId = 2) &&
    (((catalogMachine samplePlatform).execute (fun _ catalogs event => readsBackCheck catalogs event)
      publishAndReadAgain log catalogs).any fun ended =>
        decide (.served 3 sampleSub (sampleStored 2 [12]) ∈ ended.1))

private theorem readTwice_executed :
    ((catalogMachine samplePlatform).execute (fun _ catalogs event => readsBackCheck catalogs event)
      publishAndRead [] sampleCatalogs).map (fun ended => readTwice ended.1 ended.2) =
      some true := by
  decide +kernel

theorem stored_pointer_never_rolls_back_read_twice :
    ∃ log catalogs history later,
      (catalogMachine samplePlatform).Run (fun _ catalogs event => BundleReadsBack catalogs event) []
        sampleCatalogs log catalogs ∧
      .served 1 sampleSub (sampleStored 1 [11]) ∈ log ∧
      (catalogMachine samplePlatform).Run (fun _ catalogs event => BundleReadsBack catalogs event) log
        catalogs history later ∧
      .served 3 sampleSub (sampleStored 2 [12]) ∈ history ∧
      (sampleStored 1 [11]).seq ≤ (sampleStored 2 [12]).seq := by
  rcases Machine.execute_reaches (fun _ _ _ checked => (readsBack_of_check checked).1)
    publishAndRead readTwice readTwice_executed with ⟨log, catalogs, run, shown⟩
  simp only [readTwice, Bool.and_eq_true, decide_eq_true_eq, Option.any_eq_true] at shown
  rcases shown with ⟨⟨served, counted⟩, ⟨history, later⟩, executed, again⟩
  have rest := Machine.execute_run (fun _ _ _ checked => (readsBack_of_check checked).1)
    publishAndReadAgain executed
  have both := stored_pointer_never_rolls_back Text.hexEncode_injective sampleSub
    sampleCatalogs_idle (sampleCatalogs_hasIndex sampleSub) run
  exact ⟨log, catalogs, history, later, run, served, rest, again,
    (both.2 1 _ history later served rest 3 _ (by omega) again).1⟩

end Sample

end Catalogs

end TdfIrohS3
