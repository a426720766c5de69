import TdfIrohS3.Catalog.Monotone

namespace TdfIrohS3

open Library

namespace Catalogs

variable {platform : CatalogPlatform}

structure Empty (catalogs : Catalogs platform) : Prop where
  idle : Idle catalogs
  documents : ∀ hash, catalogs.bucket.documents.get hash = none
  indexes : ∀ hash, catalogs.bucket.indexes.get hash = none
  pointers : ∀ sub, catalogs.bucket.pointers.get sub = none
  attributes : ∀ node hash, (catalogs.nodes node).attributes.get hash = none

def Labelled (catalogs : Catalogs platform) (sub hash fqn : String) : Prop :=
  ∃ document, catalogs.bucket.documents.get hash = some document ∧
    envelopeAttribute platform.toFormats platform.toOpentdf document.body sub = .ok fqn

structure Stored {sub : String} (catalogs : Catalogs platform) (job : PublishJob platform sub) :
    Prop where
  document : ∃ owner, catalogs.bucket.documents.get job.pointer.catalogHash =
    some { body := job.document, owner }
  outboard : (catalogs.bucket.catalogOutboards.get job.pointer.catalogHash).isSome = true
  index : (catalogs.bucket.indexes.get job.pointer.catalogHash).isSome = true

def WrittenBefore {sub : String} (catalogs : Catalogs platform) (job : PublishJob platform sub) :
    Stage → Prop
  | .document => True
  | .outboard => ∃ owner, catalogs.bucket.documents.get job.pointer.catalogHash =
      some { body := job.document, owner }
  | .index => (∃ owner, catalogs.bucket.documents.get job.pointer.catalogHash =
      some { body := job.document, owner }) ∧
      (catalogs.bucket.catalogOutboards.get job.pointer.catalogHash).isSome = true
  | .pointer => Stored catalogs job

/-- A stored pointer: the bundle of an accepted publish, whose catalog is complete. -/
def Served (catalogs : Catalogs platform) (sub : String) (body : List UInt8) : Prop :=
  ∃ job : PublishJob platform sub, body = platform.toVec job.bundle.toValue ∧
    storedPointer platform.toFormats body = some job.pointer ∧ Stored catalogs job

structure Complete (log : List CatalogNotice) (catalogs : Catalogs platform) : Prop where
  documents : ∀ hash document, catalogs.bucket.documents.get hash = some document →
    platform.blake3Hex document.body = hash
  indexes : ∀ hash body, catalogs.bucket.indexes.get hash = some body →
    ∃ record sub, platform.fromSlice IndexRecord.read body = .ok record ∧
      Labelled catalogs sub hash record.attributeFqn
  pointers : ∀ sub body, catalogs.bucket.pointers.get sub = some body → Served catalogs sub body
  writing : ∀ id task admitted stage, catalogs.puts id = some task →
    task.phase = .writing admitted stage → WrittenBefore catalogs admitted.job stage
  known : ∀ node hash fqn, (catalogs.nodes node).attributes.get hash = some fqn →
    ∃ sub, Labelled catalogs sub hash fqn
  held : ∀ id task stored, catalogs.gets id = some task →
    GetPhase.stored task.phase = some stored → ∃ fqn, Labelled catalogs task.sub stored.hash fqn
  deciding : ∀ id task claims stored fqn, catalogs.gets id = some task →
    task.phase = .deciding claims stored fqn → Labelled catalogs task.sub stored.hash fqn
  asked : ∀ id sub hash fqn, .asked id sub hash fqn ∈ log → Labelled catalogs sub hash fqn

section Steps

variable {catalogs after : Catalogs platform} {event : CatalogEvent}
variable {log notices : List CatalogNotice}

theorem labelled_unique {sub other hash fqn fqn' : String} (one : Labelled catalogs sub hash fqn)
    (two : Labelled catalogs other hash fqn') : fqn = fqn' := by
  rcases one with ⟨document, found, first⟩
  rcases two with ⟨document', found', second⟩
  obtain rfl := Option.some.inj (found.symm.trans found')
  exact envelopeAttribute_unique first second

/-- The bytes stored under a hash never change, though the recorded owner may. -/
theorem document_kept (collisionFree : Function.Injective platform.blake3)
    (complete : Complete log catalogs) (effect : Effect catalogs event after notices)
    {hash : String} {document : CatalogDocument}
    (stored : catalogs.bucket.documents.get hash = some document) :
    ∃ owner, after.bucket.documents.get hash = some { document with owner } := by
  cases effect_bucket effect with
  | kept same quiet => exact ⟨document.owner, by rw [same]; exact stored⟩
  | replaced id task admitted held phase about expected bucket noticed =>
      exact ⟨document.owner, by rw [bucket]; exact stored⟩
  | wrote id task admitted stage held phase unconditional about bucket quiet =>
      rw [bucket]
      cases stage with
      | document =>
          change ∃ owner, (catalogs.bucket.documents.insert _ _).get hash = _
          rw [Table.get_insert]
          split
          · rename_i same
            have hashes : Text.hexEncode (platform.blake3 admitted.job.document) =
                Text.hexEncode (platform.blake3 document.body) := by
              rw [← CatalogPlatform.blake3Hex, ← CatalogPlatform.blake3Hex,
                complete.documents hash document stored, same, admitted.job.hashed]
            have bytes := collisionFree (Text.hexEncode_injective hashes)
            exact ⟨some task.sub, by rw [bytes]⟩
          · exact ⟨document.owner, stored⟩
      | _ => exact ⟨document.owner, stored⟩

theorem labelled_kept (collisionFree : Function.Injective platform.blake3)
    (complete : Complete log catalogs) (effect : Effect catalogs event after notices)
    {sub hash fqn : String} (labelled : Labelled catalogs sub hash fqn) :
    Labelled after sub hash fqn := by
  rcases labelled with ⟨document, found, enveloped⟩
  obtain ⟨owner, kept⟩ := document_kept collisionFree complete effect found
  exact ⟨_, kept, enveloped⟩

theorem outboard_kept (effect : Effect catalogs event after notices) {hash : String}
    (stored : (catalogs.bucket.catalogOutboards.get hash).isSome = true) :
    (after.bucket.catalogOutboards.get hash).isSome = true := by
  cases effect_bucket effect with
  | kept same quiet => rwa [same]
  | replaced id task admitted held phase about expected bucket noticed =>
      rw [bucket]
      exact stored
  | wrote id task admitted stage held phase unconditional about bucket quiet =>
      rw [bucket]
      cases stage with
      | outboard => exact Table.contains_insert_of_contains _ _ stored
      | _ => exact stored

theorem stored_kept (collisionFree : Function.Injective platform.blake3)
    (complete : Complete log catalogs) (effect : Effect catalogs event after notices) {sub : String}
    {job : PublishJob platform sub} (stored : Stored catalogs job) : Stored after job where
  document := by
    obtain ⟨owner, found⟩ := stored.document
    exact document_kept collisionFree complete effect found
  outboard := outboard_kept effect stored.outboard
  index := index_kept effect stored.index

theorem writtenBefore_kept (collisionFree : Function.Injective platform.blake3)
    (complete : Complete log catalogs) (effect : Effect catalogs event after notices) {sub : String}
    {job : PublishJob platform sub} {stage : Stage} (written : WrittenBefore catalogs job stage) :
    WrittenBefore after job stage := by
  cases stage with
  | document => trivial
  | outboard =>
      obtain ⟨owner, found⟩ := written
      exact document_kept collisionFree complete effect found
  | index =>
      obtain ⟨⟨owner, found⟩, outboard⟩ := written
      exact ⟨document_kept collisionFree complete effect found, outboard_kept effect outboard⟩
  | pointer => exact stored_kept collisionFree complete effect written

theorem Stored.labelled {sub : String} {job : PublishJob platform sub} (stored : Stored catalogs job) :
    Labelled catalogs sub job.pointer.catalogHash job.fqn := by
  obtain ⟨owner, found⟩ := stored.document
  exact ⟨_, found, job.enveloped⟩

theorem fromSlice_record {record : IndexRecord}
    (readsBack : platform.json (platform.toVec record.toValue) = .ok record.toValue) :
    platform.fromSlice IndexRecord.read (platform.toVec record.toValue) =
      .ok { record with entries := record.entries.lastWins } := by
  simp only [Formats.fromSlice, readsBack, IndexRecord.read_toValue]

theorem Complete.found_labelled (complete : Complete log catalogs) {sub : String}
    {stored : StoredPointer} (found : Found catalogs sub stored) :
    ∃ fqn, Labelled catalogs sub stored.hash fqn := by
  obtain ⟨job, -, reads, complete⟩ := complete.pointers sub stored.body found.body
  have same := (storedSeq_of_storedPointer reads).symm.trans found.reads
  obtain ⟨-, hash⟩ := Prod.mk.inj (Option.some.inj same)
  exact ⟨job.fqn, hash ▸ complete.labelled⟩

theorem Complete.resolved_labelled (complete : Complete log catalogs) {hash fqn : String}
    (read : resolveAttribute platform.toFormats (catalogs.bucket.indexes.get hash) = .ok fqn) :
    ∃ sub, Labelled catalogs sub hash fqn := by
  unfold resolveAttribute at read
  split at read
  · cases read
  · rename_i body found
    obtain ⟨record, sub, reads, labelled⟩ := complete.indexes hash body found
    rw [reads] at read
    cases read
    exact ⟨sub, labelled⟩

theorem Complete.documents_step (complete : Complete log catalogs)
    (effect : Effect catalogs event after notices) (hash : String) (document : CatalogDocument)
    (stored : after.bucket.documents.get hash = some document) :
    platform.blake3Hex document.body = hash := by
  cases effect_bucket effect with
  | kept same quiet =>
      rw [same] at stored
      exact complete.documents hash document stored
  | replaced id task admitted held phase about expected bucket noticed =>
      rw [bucket] at stored
      exact complete.documents hash document stored
  | wrote id task admitted stage held phase unconditional about bucket quiet =>
      rw [bucket] at stored
      cases stage with
      | document =>
          change (catalogs.bucket.documents.insert _ _).get hash = some document at stored
          rw [Table.get_insert] at stored
          split at stored
          · rename_i same
            cases stored
            rw [same]
            exact admitted.job.hashed.symm
          · exact complete.documents hash document stored
      | _ => exact complete.documents hash document stored

theorem Complete.indexes_step (collisionFree : Function.Injective platform.blake3)
    (complete : Complete log catalogs) (readsBack : RecordReadsBack catalogs event)
    (effect : Effect catalogs event after notices) (hash : String) (body : List UInt8)
    (stored : after.bucket.indexes.get hash = some body) :
    ∃ record sub, platform.fromSlice IndexRecord.read body = .ok record ∧
      Labelled after sub hash record.attributeFqn := by
  have before : catalogs.bucket.indexes.get hash = some body →
      ∃ record sub, platform.fromSlice IndexRecord.read body = .ok record ∧
        Labelled after sub hash record.attributeFqn := by
    intro found
    obtain ⟨record, sub, reads, labelled⟩ := complete.indexes hash body found
    exact ⟨record, sub, reads, labelled_kept collisionFree complete effect labelled⟩
  cases effect_bucket effect with
  | kept same quiet => rw [same] at stored; exact before stored
  | replaced id task admitted held phase about expected bucket noticed =>
      rw [bucket] at stored
      exact before stored
  | wrote id task admitted stage held phase unconditional about bucket quiet =>
      rw [bucket] at stored
      cases stage with
      | index =>
          change (catalogs.bucket.indexes.insert _ _).get hash = some body at stored
          rw [Table.get_insert] at stored
          split at stored
          · rename_i same
            cases stored
            obtain ⟨outcome, rfl⟩ := about
            obtain ⟨⟨owner, found⟩, -⟩ := complete.writing id task admitted .index held phase
            have labelled : Labelled catalogs task.sub hash admitted.job.fqn :=
              ⟨_, same ▸ found, admitted.job.enveloped⟩
            exact ⟨_, task.sub, fromSlice_record (readsBack task admitted held phase),
              labelled_kept collisionFree complete effect labelled⟩
          · exact before stored
      | _ => exact before stored

theorem Complete.pointers_step (collisionFree : Function.Injective platform.blake3)
    (complete : Complete log catalogs) (readsBack : BundleReadsBack catalogs event)
    (effect : Effect catalogs event after notices) (sub : String) (body : List UInt8)
    (stored : after.bucket.pointers.get sub = some body) : Served after sub body := by
  have before : catalogs.bucket.pointers.get sub = some body → Served after sub body := by
    intro found
    obtain ⟨job, same, reads, kept⟩ := complete.pointers sub body found
    exact ⟨job, same, reads, stored_kept collisionFree complete effect kept⟩
  cases effect_bucket effect with
  | kept same quiet => rw [same] at stored; exact before stored
  | wrote id task admitted stage held phase unconditional about bucket quiet =>
      rw [bucket, store_pointers] at stored
      exact before stored
  | replaced id task admitted held phase about expected bucket noticed =>
      rw [bucket] at stored
      change (catalogs.bucket.pointers.insert _ _).get sub = some body at stored
      rw [Table.get_insert] at stored
      split at stored
      · rename_i same
        subst same
        cases stored
        obtain ⟨outcome, rfl⟩ := about
        have written := complete.writing id task admitted .pointer held phase
        exact ⟨admitted.job, rfl,
          Admitted.storedPointer_bundleBody (readsBack task admitted held phase),
          stored_kept collisionFree complete effect written⟩
      · exact before stored

theorem Complete.writing_step (collisionFree : Function.Injective platform.blake3)
    (complete : Complete log catalogs) (effect : Effect catalogs event after notices) (id : Nat)
    (task : PutTask platform) (admitted : Admitted platform task.sub task.headers) (stage : Stage)
    (inFlight : after.puts id = some task) (writing : task.phase = .writing admitted stage) :
    WrittenBefore after admitted.job stage := by
  cases effect_writing effect inFlight writing with
  | kept held =>
      exact writtenBefore_kept collisionFree complete effect
        (complete.writing id task admitted stage held writing)
  | admitted => trivial
  | @wrote earlier held unconditional bucket =>
      have before := writtenBefore_kept collisionFree complete effect
        (complete.writing id _ _ earlier held rfl)
      cases earlier with
      | document => exact ⟨some task.sub, by rw [bucket]; exact Table.get_insert_self ..⟩
      | outboard =>
          refine ⟨before, ?_⟩
          rw [bucket]
          exact Table.isSome_get_insert_self ..
      | index =>
          refine ⟨before.1, before.2, ?_⟩
          rw [bucket]
          exact Table.isSome_get_insert_self ..
      | pointer => exact absurd rfl unconditional

theorem Complete.deciding_step (collisionFree : Function.Injective platform.blake3)
    (complete : Complete log catalogs) (effect : Effect catalogs event after notices) (id : Nat)
    (task : GetTask) (claims : VerifiedClaims) (stored : StoredPointer) (fqn : String)
    (inFlight : after.gets id = some task) (deciding : task.phase = .deciding claims stored fqn) :
    Labelled after task.sub stored.hash fqn := by
  apply labelled_kept collisionFree complete effect
  cases effect_gets effect inFlight with
  | kept held => exact complete.deciding id task claims stored fqn held deciding
  | arrived fresh counted blank => rw [deciding] at blank; cases blank
  | authorized held => cases deciding
  | found held found => cases deciding
  | cached held found cached about =>
      cases deciding
      obtain ⟨fqn', own⟩ := complete.found_labelled found
      obtain ⟨other, known⟩ := complete.known _ _ _ cached
      exact labelled_unique own known ▸ own
  | read held phase read =>
      cases deciding
      obtain ⟨fqn', own⟩ := complete.held id _ stored held (by rw [phase]; rfl)
      obtain ⟨other, known⟩ := complete.resolved_labelled read
      exact labelled_unique own known ▸ own

theorem complete_step (collisionFree : Function.Injective platform.blake3)
    (complete : Complete log catalogs) (readsBack : ReadsBack catalogs event)
    (effect : Effect catalogs event after notices) : Complete (notices ++ log) after where
  documents := complete.documents_step effect
  indexes := complete.indexes_step collisionFree readsBack.2 effect
  pointers := complete.pointers_step collisionFree readsBack.1 effect
  writing := complete.writing_step collisionFree effect
  known := by
    intro node hash fqn known
    have labelled : ∃ sub, Labelled catalogs sub hash fqn := by
      rcases effect_attributes effect known with before | read
      · exact complete.known node hash fqn before
      · exact complete.resolved_labelled read
    exact labelled.imp fun _ => labelled_kept collisionFree complete effect
  held := by
    intro id task stored inFlight holds
    have labelled : ∃ fqn, Labelled catalogs task.sub stored.hash fqn := by
      obtain ⟨old, was, same, held | ⟨found, -⟩⟩ := (effect_gets effect inFlight).stored holds
      · exact same ▸ complete.held id old stored was held
      · exact complete.found_labelled found
    exact labelled.imp fun _ => labelled_kept collisionFree complete effect
  deciding := complete.deciding_step collisionFree effect
  asked := by
    intro id sub hash fqn seen
    apply labelled_kept collisionFree complete effect
    rcases List.mem_append.mp seen with here | there
    · cases effect_notice effect here with
      | asked task claims stored held phase =>
          exact complete.deciding id task claims stored fqn held phase
    · exact complete.asked id sub hash fqn there

theorem complete_of_empty (empty : Empty catalogs) : Complete [] catalogs where
  documents := fun hash _ stored => by rw [empty.documents hash] at stored; cases stored
  indexes := fun hash _ stored => by rw [empty.indexes hash] at stored; cases stored
  pointers := fun sub _ stored => by rw [empty.pointers sub] at stored; cases stored
  writing := fun id _ _ _ inFlight => by rw [empty.idle.puts id] at inFlight; cases inFlight
  known := fun node hash _ known => by rw [empty.attributes node hash] at known; cases known
  held := fun id _ _ inFlight => by rw [empty.idle.gets id] at inFlight; cases inFlight
  deciding := fun id _ _ _ _ inFlight => by rw [empty.idle.gets id] at inFlight; cases inFlight
  asked := fun _ _ _ _ seen => by cases seen

end Steps

section Looked

variable {start catalogs after : Catalogs platform} {log notices : List CatalogNotice}
  {event : CatalogEvent} {id : Nat} {sub : String} {stored : StoredPointer}

def ReadPointer (start : Catalogs platform) (log : List CatalogNotice) (catalogs : Catalogs platform)
    (id : Nat) (sub : String) (stored : StoredPointer) : Prop :=
  ∃ before moment next notices,
    (catalogMachine platform).Run (fun _ catalogs event => ReadsBack catalogs event) [] start before
      moment ∧
    (catalogMachine platform).next moment (.getPointerRead id true) = some (next, notices) ∧
    (catalogMachine platform).Run (fun _ catalogs event => ReadsBack catalogs event)
      (notices ++ before) next log catalogs ∧
    Found moment sub stored

/-- What a read in flight holds, and what the decision service was asked about, is a pointer that the
request read. -/
structure Looked (start : Catalogs platform) (log : List CatalogNotice)
    (catalogs : Catalogs platform) : Prop where
  run : (catalogMachine platform).Run (fun _ catalogs event => ReadsBack catalogs event) [] start log
    catalogs
  held : ∀ id task stored, catalogs.gets id = some task →
    GetPhase.stored task.phase = some stored → ReadPointer start log catalogs id task.sub stored
  asked : ∀ id sub hash fqn, .asked id sub hash fqn ∈ log →
    ∃ stored : StoredPointer, stored.hash = hash ∧ ReadPointer start log catalogs id sub stored

theorem ReadPointer.step (reads : ReadPointer start log catalogs id sub stored)
    (permitted : ReadsBack catalogs event)
    (taken : (catalogMachine platform).next catalogs event = some (after, notices)) :
    ReadPointer start (notices ++ log) after id sub stored := by
  obtain ⟨before, moment, next, said, earlier, read, later, found⟩ := reads
  exact ⟨before, moment, next, said, earlier, read, later.step permitted taken, found⟩

theorem looked_step (looked : Looked start log catalogs) (permitted : ReadsBack catalogs event)
    (taken : (catalogMachine platform).next catalogs event = some (after, notices)) :
    Looked start (notices ++ log) after where
  run := looked.run.step permitted taken
  held := by
    intro id task stored inFlight holds
    obtain ⟨old, was, same, held | ⟨found, rfl⟩⟩ :=
      (effect_gets (machine_effect taken) inFlight).stored holds
    · exact same ▸ (looked.held id old stored was held).step permitted taken
    · exact ⟨log, catalogs, after, notices, looked.run, taken, .refl, found⟩
  asked := by
    intro id sub hash fqn seen
    rcases List.mem_append.mp seen with here | there
    · cases effect_notice (machine_effect taken) here with
      | asked task claims stored held phase =>
          have reads := looked.held id task stored held (by rw [phase]; rfl)
          exact ⟨stored, rfl, reads.step permitted taken⟩
    · obtain ⟨stored, same, reads⟩ := looked.asked id sub hash fqn there
      exact ⟨stored, same, reads.step permitted taken⟩

end Looked

/-- A stored pointer names a catalog that can be served and decided: the document of its size under
its hash, the outboard, and an index record with the attribute of the envelope. And it is that
attribute, of the document stored under the hash, that a reader's decision is asked about, wherever
the node has it from; the hash is that of the pointer the request read. -/
theorem stored_pointer_names_served_catalog (collisionFree : Function.Injective platform.blake3)
    {start catalogs : Catalogs platform} {log : List CatalogNotice} (empty : Empty start)
    (run : (catalogMachine platform).Run (fun _ catalogs event => ReadsBack catalogs event) [] start
      log catalogs) :
    (∀ sub body, catalogs.bucket.pointers.get sub = some body →
      ∃ pointer document outboard index record,
        storedPointer platform.toFormats body = some pointer ∧
        catalogs.bucket.documents.get pointer.catalogHash = some document ∧
        document.body.length = pointer.catalogSize ∧
        platform.blake3Hex document.body = pointer.catalogHash ∧
        catalogs.bucket.catalogOutboards.get pointer.catalogHash = some outboard ∧
        catalogs.bucket.indexes.get pointer.catalogHash = some index ∧
        platform.fromSlice IndexRecord.read index = .ok record ∧
        envelopeAttribute platform.toFormats platform.toOpentdf document.body sub =
          .ok record.attributeFqn) ∧
    ∀ id sub hash fqn, .asked id sub hash fqn ∈ log →
      (∃ document, catalogs.bucket.documents.get hash = some document ∧
        envelopeAttribute platform.toFormats platform.toOpentdf document.body sub = .ok fqn) ∧
      ∃ stored : StoredPointer, stored.hash = hash ∧ ReadPointer start log catalogs id sub stored := by
  have complete : Complete log catalogs := by
    apply run.invariant Complete (complete_of_empty empty)
    intro log state input next notices complete readsBack taken
    exact complete_step collisionFree complete readsBack (machine_effect taken)
  have looked : Looked start log catalogs := by
    apply run.invariant (Looked start)
    · refine ⟨.refl, fun id _ _ inFlight => ?_, nofun⟩
      rw [empty.idle.gets id] at inFlight
      cases inFlight
    · intro log state input next notices looked readsBack taken
      exact looked_step looked readsBack taken
  refine ⟨?_, fun id sub hash fqn seen =>
    ⟨complete.asked id sub hash fqn seen, looked.asked id sub hash fqn seen⟩⟩
  intro sub body stored
  obtain ⟨job, -, reads, kept⟩ := complete.pointers sub body stored
  obtain ⟨owner, document⟩ := kept.document
  obtain ⟨outboard, outboarded⟩ := Option.isSome_iff_exists.mp kept.outboard
  obtain ⟨index, indexed⟩ := Option.isSome_iff_exists.mp kept.index
  obtain ⟨record, other, read, labelled⟩ := complete.indexes _ index indexed
  have same := labelled_unique kept.labelled labelled
  exact ⟨job.pointer, _, outboard, index, record, reads, document, job.sized.symm, job.hashed.symm,
    outboarded, indexed, read, same ▸ job.enveloped⟩

theorem sampleCatalogs_empty : Empty sampleCatalogs where
  idle := sampleCatalogs_idle
  documents := fun _ => rfl
  indexes := fun _ => rfl
  pointers := fun _ => rfl
  attributes := fun _ _ => rfl

def askedShown (log : List CatalogNotice) (catalogs : Catalogs samplePlatform) : Bool :=
  decide (catalogs.bucket.pointers.get sampleSub = some [11]) &&
    decide (.asked 1 sampleSub sampleHash sampleFqn ∈ log)

private theorem asked_executed :
    ((catalogMachine samplePlatform).execute (fun _ catalogs event => readsBackCheck catalogs event)
      publishAndRead [] sampleCatalogs).map (fun ended => askedShown ended.1 ended.2) =
      some true := by
  decide +kernel

theorem stored_pointer_names_served_catalog_asked :
    ∃ log catalogs,
      (catalogMachine samplePlatform).Run (fun _ catalogs event => ReadsBack catalogs event) []
        sampleCatalogs log catalogs ∧
      catalogs.bucket.pointers.get sampleSub = some [11] ∧
      .asked 1 sampleSub sampleHash sampleFqn ∈ log ∧
      ∃ document, catalogs.bucket.documents.get sampleHash = some document ∧
        envelopeAttribute samplePlatform.toFormats samplePlatform.toOpentdf document.body sampleSub =
          .ok sampleFqn := by
  rcases Machine.execute_reaches (fun _ _ _ => readsBack_of_check) publishAndRead askedShown
    asked_executed with ⟨log, catalogs, run, shown⟩
  simp only [askedShown, Bool.and_eq_true, decide_eq_true_eq] at shown
  have both := stored_pointer_names_served_catalog Function.injective_id sampleCatalogs_empty run
  exact ⟨log, catalogs, run, shown.1, shown.2, (both.2 1 _ _ _ shown.2).1⟩

end Catalogs

end TdfIrohS3
