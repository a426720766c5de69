import TdfIrohS3.Catalog.Monotone
import TdfIrohS3.Fetch.Steps

namespace TdfIrohS3

open Library

def hiddenDocument (node : V2State) (bucket : Bucket) (hash : String) : Bool :=
  (bucket.documents.get hash).any fun document => node.ownerHidden document.owner

theorem getCatalogDocument_hidden {node : V2State} {bucket : Bucket} {hash : String}
    (hidden : hiddenDocument node bucket hash = true) (lower : isLowerHexHash hash = true)
    (headers : Headers) :
    getCatalogDocument node bucket hash headers = .error catalogNotFound := by
  simp only [hiddenDocument, Option.any_eq_true] at hidden
  obtain ⟨document, stored, hides⟩ := hidden
  unfold getCatalogDocument
  rw [stored]
  split
  · rename_i upper
    rw [lower] at upper
    cases upper
  · split
    · rfl
    · simp [hides]

def Separate (hash : String) (bucket : Bucket) : Prop :=
  bucket.blobs.get hash = none ∨ bucket.documents.get hash = none

/-- A servable object that is not hidden is not a hidden document. -/
theorem not_hiddenDocument {node : V2State} {bucket : Bucket} {hash : String} {object : Object}
    (separate : Separate hash bucket) (stored : object.Stored bucket hash)
    (visible : object.hidden node = false) : hiddenDocument node bucket hash = false := by
  cases object with
  | blob =>
      rcases separate with missing | missing
      · rw [Object.Stored, missing] at stored
        cases stored
      · rw [hiddenDocument, missing]
        rfl
  | catalogDocument owner =>
      obtain ⟨document, found, rfl⟩ := stored
      rw [hiddenDocument, found]
      exact visible

namespace Fetches

variable {platform : CatalogPlatform}

structure Forgotten (hash : String) (state : Fetches platform) : Prop where
  servers : ∀ node, (state.servers node).servable.get hash = none
  looked : ∀ id task rest servable, state.fetches id = some task →
    task.phase ≠ .headingOutboard hash rest servable

/-- The step does not store the hash under the other prefix too, nor replace the owner recorded with
its document while a node remembers that. -/
def KeepsApart (hash : String) (state : Fetches platform) : FetchEvent → Prop
  | .catalog (.written id _) => ∀ task admitted, state.catalogs.puts id = some task →
      task.phase = .writing admitted .document → admitted.job.pointer.catalogHash = hash →
      state.bucket.blobs.get hash = none ∧
        ((∀ document, state.bucket.documents.get hash = some document →
          document.owner = some task.sub) ∨ Forgotten hash state)
  | .uploaded id _ => ∀ upload, state.uploads id = some upload → upload.phase = .puttingBlob →
      upload.hash = hash → state.bucket.documents.get hash = none
  | _ => True

structure Started (hash : String) (state : Fetches platform) : Prop where
  servers : ∀ node, state.servers node = S3Server.new
  fetches : ∀ id, state.fetches id = none
  separate : Separate hash state.bucket

theorem Started.forgotten {hash : String} {state : Fetches platform} (started : Started hash state) :
    Forgotten hash state where
  servers := by
    intro node
    rw [started.servers]
    rfl
  looked := by
    intro id task rest servable held
    rw [started.fetches] at held
    cases held

section Objects

variable {hash : String} {before after : Bucket}

structure ObjectsKept (hash : String) (before after : Bucket) : Prop where
  stored : ∀ object : Object, object.Stored before hash → object.Stored after hash
  separate : Separate hash before → Separate hash after

theorem objectsKept_of_eq (blobs : after.blobs = before.blobs)
    (documents : after.documents = before.documents) : ObjectsKept hash before after where
  stored := by
    intro object stored
    cases object with
    | blob =>
        rw [Object.Stored, blobs]
        exact stored
    | catalogDocument owner =>
        rw [Object.Stored, documents]
        exact stored
  separate := by
    intro separate
    rw [Separate, blobs, documents]
    exact separate

theorem objectsKept_insertBlob {key : String} {bytes : List UInt8}
    (blobs : after.blobs = before.blobs.insert key bytes)
    (documents : after.documents = before.documents)
    (alone : key = hash → before.documents.get hash = none) : ObjectsKept hash before after where
  stored := by
    intro object stored
    cases object with
    | blob =>
        rw [Object.Stored, blobs, Table.get_insert]
        split
        · rfl
        · exact stored
    | catalogDocument owner =>
        rw [Object.Stored, documents]
        exact stored
  separate := by
    intro separate
    rw [Separate, blobs, documents, Table.get_insert]
    split
    · rename_i same
      exact .inr (alone same.symm)
    · exact separate

theorem separate_insertDocument {key : String} {document : CatalogDocument}
    (blobs : after.blobs = before.blobs)
    (documents : after.documents = before.documents.insert key document)
    (alone : key = hash → before.blobs.get hash = none) (separate : Separate hash before) :
    Separate hash after := by
  rw [Separate, blobs, documents, Table.get_insert]
  split
  · rename_i same
    exact .inl (alone same.symm)
  · exact separate

theorem objectsKept_insertDocument {key : String} {document : CatalogDocument}
    (blobs : after.blobs = before.blobs)
    (documents : after.documents = before.documents.insert key document)
    (alone : key = hash → before.blobs.get hash = none)
    (owner : key = hash → ∀ old, before.documents.get hash = some old →
      old.owner = document.owner) :
    ObjectsKept hash before after where
  stored := by
    intro object stored
    cases object with
    | blob =>
        rw [Object.Stored, blobs]
        exact stored
    | catalogDocument recorded =>
        rcases stored with ⟨old, found, rfl⟩
        rw [Object.Stored, documents]
        by_cases same : hash = key
        · subst same
          exact ⟨document, Table.get_insert_self _ _ _, (owner rfl old found).symm⟩
        · exact ⟨old, by rw [Table.get_insert_of_ne _ _ same]; exact found, rfl⟩
  separate := separate_insertDocument blobs documents alone

end Objects

section Steps

variable {state after : Fetches platform} {event : FetchEvent} {log notices : List FetchNotice}
variable {hash : String}

theorem objectsKept_uploaded {id : Nat} {upload : Upload platform} {outcome : Outcome}
    (held : state.uploads id = some upload) (apart : KeepsApart hash state (.uploaded id outcome)) :
    ObjectsKept hash state.bucket (upload.store state.bucket) := by
  unfold Upload.store
  split
  · exact objectsKept_of_eq rfl rfl
  · exact objectsKept_of_eq rfl rfl
  · rename_i phase
    exact objectsKept_insertBlob rfl rfl fun same => apart upload held phase same
  · exact objectsKept_of_eq rfl rfl

/-- A step keeps what is stored for the hash, or nobody remembers that. -/
theorem objectsKept_step (apart : KeepsApart hash state event)
    (effect : Effect state event after notices) :
    ObjectsKept hash state.bucket after.bucket ∨
      (Forgotten hash after ∧ (Separate hash state.bucket → Separate hash after.bucket)) := by
  cases effect_objects effect with
  | kept blobs documents => exact .inl (objectsKept_of_eq blobs documents)
  | ingested id outcome upload about held bucket =>
      subst about
      rw [bucket]
      exact .inl (objectsKept_uploaded held apart)
  | published id outcome task admitted about held phase blobs documents servers fetches =>
      subst about
      have alone := fun same => (apart task admitted held phase same).1
      by_cases same : admitted.job.pointer.catalogHash = hash
      · rcases (apart task admitted held phase same).2 with owner | forgotten
        · exact .inl (objectsKept_insertDocument blobs documents alone fun _ => owner)
        · have still : Forgotten hash after :=
            ⟨servers ▸ forgotten.servers, fetches ▸ forgotten.looked⟩
          exact .inr ⟨still, separate_insertDocument blobs documents alone⟩
      · exact .inl (objectsKept_insertDocument blobs documents alone fun equal => absurd equal same)

structure Faithful (hash : String) (state : Fetches platform) : Prop where
  separate : Separate hash state.bucket
  servers : ∀ node servable, (state.servers node).servable.get hash = some servable →
    servable.object.Stored state.bucket hash
  looked : ∀ id task rest servable, state.fetches id = some task →
    task.phase = .headingOutboard hash rest servable → servable.object.Stored state.bucket hash

theorem Faithful.found (faithful : Faithful hash state) {servable : Servable}
    (found : FoundAs state hash servable) : servable.object.Stored state.bucket hash := by
  rcases found with stored | ⟨id, task, rest, held, phase⟩
  · exact stored
  · exact faithful.looked id task rest servable held phase

theorem faithful_of_forgotten (forgotten : Forgotten hash state)
    (separate : Separate hash state.bucket) : Faithful hash state where
  separate := separate
  servers := by
    intro node servable held
    rw [forgotten.servers] at held
    cases held
  looked := by
    intro id task rest servable held phase
    exact absurd phase (forgotten.looked id task rest servable held)

theorem faithful_step (faithful : Faithful hash state) (apart : KeepsApart hash state event)
    (effect : Effect state event after notices) : Faithful hash after := by
  rcases objectsKept_step apart effect with objects | ⟨forgotten, separate⟩
  · refine ⟨objects.separate faithful.separate, ?_, ?_⟩
    · intro node servable held
      apply objects.stored
      rcases effect_servers effect held with before | found
      · exact faithful.servers node servable before
      · exact faithful.found found
    · intro id task rest servable held phase
      apply objects.stored
      cases effect_fetches effect held with
      | kept was => exact faithful.looked id task rest servable was phase
      | looked old moved was same pending idle stored =>
          subst same
          exact stored hash rest servable phase
      | sent old entry remaining was before same =>
          subst same
          cases phase
      | settled old walked toCheck before settled => exact absurd phase (settled.fresh _ _ _)
  · exact faithful_of_forgotten forgotten (separate faithful.separate)

structure Accounted (log : List FetchNotice) (id : Nat) (task : FetchTask) : Prop where
  cleared : ∀ entry ∈ task.servables, .cleared id task.node entry.1 ∈ log
  sending : ∀ remaining, task.phase = .sending remaining → ∀ entry ∈ remaining,
    .cleared id task.node entry.1 ∈ log
  wanted : ∀ hash ∈ task.wanted, .cleared id task.node hash ∈ log ∨ hash ∈ task.phase.pending

theorem Accounted.mono {id : Nat} {task : FetchTask} (notices : List FetchNotice)
    (accounted : Accounted log id task) :
    Accounted (notices ++ log) id task where
  cleared entry member := List.mem_append_right _ (accounted.cleared entry member)
  sending remaining phase entry member :=
    List.mem_append_right _ (accounted.sending remaining phase entry member)
  wanted hash asked := (accounted.wanted hash asked).imp_left (List.mem_append_right _)

theorem accounted_settled {id : Nat} {old task : FetchTask}
    {walked : List (String × Servable) × Stop} {toCheck : List String}
    (cleared : ∀ entry ∈ old.servables, .cleared id old.node entry.1 ∈ log)
    (wanted : ∀ hash ∈ old.wanted, .cleared id old.node hash ∈ log ∨ hash ∈ toCheck)
    (settled : SettledAs old walked task)
    (passed : ∀ entry ∈ walked.1, .cleared id old.node entry.1 ∈ notices)
    (covered : walked.1.map Prod.fst ++ walked.2.left = toCheck) :
    Accounted (notices ++ log) id task := by
  have holds : ∀ entry ∈ task.servables, .cleared id task.node entry.1 ∈ notices ++ log := by
    intro entry member
    rw [settled.servables] at member
    rw [settled.node]
    rcases List.mem_append.mp member with before | new
    · exact List.mem_append_right _ (cleared entry before)
    · exact List.mem_append_left _ (passed entry new)
  refine ⟨holds, ?_, ?_⟩
  · intro remaining phase entry member
    rw [settled.sending remaining phase] at member
    exact holds entry member
  · intro hash asked
    rw [settled.wanted] at asked
    rw [settled.node, settled.phase]
    rcases wanted hash asked with before | pending
    · exact .inl (List.mem_append_right _ before)
    · rw [← covered] at pending
      rcases List.mem_append.mp pending with new | left
      · obtain ⟨entry, member, rfl⟩ := List.mem_map.mp new
        exact .inl (List.mem_append_left _ (passed entry member))
      · exact .inr left

theorem accounted_step
    (accounted : ∀ id task, state.fetches id = some task → Accounted log id task)
    (effect : Effect state event after notices) (id : Nat) (task : FetchTask)
    (held : after.fetches id = some task) : Accounted (notices ++ log) id task := by
  cases effect_fetches effect held with
  | kept was => exact (accounted id task was).mono notices
  | looked old phase was same pending idle =>
      subst same
      have before := (accounted id old was).mono notices
      refine ⟨before.cleared, fun remaining sends => absurd sends (idle remaining), ?_⟩
      intro hash asked
      rw [pending]
      exact before.wanted hash asked
  | sent old entry remaining was phase same =>
      subst same
      have before := (accounted id old was).mono notices
      refine ⟨before.cleared, ?_, ?_⟩
      · rintro _ ⟨⟩ other member
        exact before.sending _ phase other (List.mem_cons_of_mem _ member)
      · intro hash asked
        have known := before.wanted hash asked
        rw [phase] at known
        exact known
  | settled old walked toCheck before settled passed covered =>
      rcases before with ⟨fresh, rfl⟩ | ⟨was, rfl⟩
      · refine accounted_settled ?_ (fun _ asked => .inr asked) settled passed covered
        rw [fresh]
        intro entry member
        cases member
      · exact accounted_settled (accounted id old was).cleared (accounted id old was).wanted settled
          passed covered

end Steps

/-- A hidden creator's document is not served over iroh, if its hash is never stored as a recording
and its owner stays the one recorded. No fetch is let past its check of the document while that is
hidden; no byte of it goes out, and no stream that asked for it ends, without that check. Over HTTP it
is a 404. -/
theorem hidden_document_not_served {hash : String} {start state after : Fetches platform}
    {log notices : List FetchNotice} {event : FetchEvent} (started : Started hash start)
    (run : (fetchMachine platform).Run (fun _ state event => KeepsApart hash state event) [] start log
      state)
    (taken : (fetchMachine platform).next state event = some (after, notices)) :
    (∀ id node, .cleared id node hash ∈ notices →
      hiddenDocument (state.catalogs.nodes node) state.bucket hash = false) ∧
    (∀ id, .sent id hash ∈ notices → ∃ node, .cleared id node hash ∈ log) ∧
    (∀ id node wanted, .finished id node wanted ∈ notices → hash ∈ wanted →
      .cleared id node hash ∈ log) ∧
    ∀ node headers, hiddenDocument (state.catalogs.nodes node) state.bucket hash = true →
      isLowerHexHash hash = true →
      getCatalogDocument (state.catalogs.nodes node) state.bucket hash headers =
        .error catalogNotFound := by
  have faithful : Faithful hash state := by
    apply run.state_invariant (Faithful hash)
      (faithful_of_forgotten started.forgotten started.separate)
    intro _ state input next notices faithful apart moved
    exact faithful_step faithful apart (machine_effect moved)
  have accounted : ∀ id task, state.fetches id = some task → Accounted log id task := by
    apply run.invariant fun log state => ∀ id task, state.fetches id = some task →
      Accounted log id task
    · intro id task held
      rw [started.fetches] at held
      cases held
    · intro log state input next notices accounted _ moved
      exact accounted_step accounted (machine_effect moved)
  have effect := machine_effect taken
  refine ⟨?_, ?_, ?_, ?_⟩
  · intro id node cleared
    cases effect_notice effect cleared with
    | cleared servable visible known =>
        have stored : servable.object.Stored state.bucket hash := by
          rcases known with remembered | found
          · exact faithful.servers node servable remembered
          · exact faithful.found found
        exact not_hiddenDocument faithful.separate stored visible
  · intro id sent
    cases effect_notice effect sent with
    | sent task entry remaining held phase =>
        have cleared := (accounted id task held).sending _ phase entry List.mem_cons_self
        exact ⟨task.node, cleared⟩
  · intro id node wanted finished asked
    cases effect_notice effect finished with
    | idle => cases asked
    | finished task entry held phase =>
        rcases (accounted id task held).wanted hash asked with cleared | pending
        · exact cleared
        · rw [phase] at pending
          cases pending
  · intro node headers hidden lower
    exact getCatalogDocument_hidden hidden lower headers

section Sample

open Catalogs

def justStarted (catalogs : Catalogs platform) : Fetches platform where
  catalogs := catalogs
  servers := fun _ => S3Server.new
  serves := fun _ => 0
  fetches := fun _ => none
  uploads := fun _ => none
  backfills := fun _ => none
  nextId := 0

def sampleFetches : Fetches samplePlatform := justStarted sampleCatalogs

def publishDocument : List FetchEvent :=
  (sampleChecks 0 [] [21] ++ sampleWrites 0).map .catalog

def hideCatalog (sub : String) : FetchEvent := .catalog (.moderate 0 (sampleBlocked sub))

def publishPushHide : List FetchEvent :=
  publishDocument ++
    [.pushed 0 sampleDocument none, .uploaded 0 .done, .uploadHead 0 true, .uploaded 0 .done,
      hideCatalog sampleSub]

def fetchDocument (id : Nat) : List FetchEvent :=
  [.fetch 0 (.get sampleHash true), .blobHead id true, .transferred id .delivered]

def ServedWhileHidden (start : Fetches platform) (hash : String) : Prop :=
  ∃ log state history last,
    (fetchMachine platform).Run (fun _ _ _ => True) [] start log state ∧
    hiddenDocument (state.catalogs.nodes 0) state.bucket hash = true ∧
    getCatalogDocument (state.catalogs.nodes 0) state.bucket hash [] = .error catalogNotFound ∧
    (fetchMachine platform).Run (fun _ state _ =>
      hiddenDocument (state.catalogs.nodes 0) state.bucket hash = true) log state history last ∧
    .sent state.nextId hash ∈ history

def servedShown (hash : String) (fetching : Nat → List FetchEvent) (log : List FetchNotice)
    (state : Fetches platform) : Bool :=
  hiddenDocument (state.catalogs.nodes 0) state.bucket hash &&
    ((fetchMachine platform).execute
      (fun _ state _ => hiddenDocument (state.catalogs.nodes 0) state.bucket hash)
      (fetching state.nextId) log state).any fun ended => decide (.sent state.nextId hash ∈ ended.1)

theorem servedWhileHidden_of_executed {start : Fetches platform} {hash : String}
    {events : List FetchEvent} {fetching : Nat → List FetchEvent}
    (lower : isLowerHexHash hash = true)
    (executed : ((fetchMachine platform).execute (fun _ _ _ => true) events [] start).map
      (fun ended => servedShown hash fetching ended.1 ended.2) = some true) :
    ServedWhileHidden start hash := by
  rcases Machine.execute_reaches (fun _ _ _ _ => trivial) events (servedShown hash fetching) executed
    with ⟨log, state, run, shown⟩
  simp only [servedShown, Bool.and_eq_true, decide_eq_true_eq, Option.any_eq_true] at shown
  rcases shown with ⟨hidden, ⟨history, last⟩, executed, sent⟩
  have rest := Machine.execute_run (fun _ _ _ stillHidden => stillHidden) (fetching state.nextId)
    executed
  exact ⟨log, state, history, last, run, hidden, getCatalogDocument_hidden hidden lower [], rest, sent⟩

private theorem publishPushHide_executed :
    ((fetchMachine samplePlatform).execute (fun _ _ _ => true) publishPushHide [] sampleFetches).map
      (fun ended => servedShown sampleHash fetchDocument ended.1 ended.2) = some true := by
  decide +kernel

/-! The envelope of a campaign that two subjects may publish for. -/

def otherSub : String := "0b0e6f7c-0000-4000-8000-0000000000e1"

def campaignPolicy : Value :=
  .object [("uuid", .string "u"), ("body", .object [("dataAttributes",
    .array [.object [("attribute", .string (campaignFqnPrefix ++ "42"))]]), ("dissem", .array [])])]

def otherPointer : Value :=
  .object [("schema", .string pointerSchema), ("owner", .string otherSub),
    ("seq", .number (.posInt 1)), ("catalogHash", .string sampleHash),
    ("catalogSize", .number (.posInt 32)), ("issuedAt", .string "2026-10-16T14:30:00Z")]

def campaignPlatform : CatalogPlatform :=
  { samplePlatform with
    json := fun bytes => match bytes with
      | [2] => .ok otherPointer
      | [4] => .ok campaignPolicy
      | _ => samplePlatform.json bytes }

def campaignFetches : Fetches campaignPlatform :=
  justStarted { bucket := sampleCatalogs.bucket, nodes := sampleCatalogs.nodes, puts := fun _ => none,
                gets := fun _ => none, nextId := 0 }

def publishCampaign (id : Nat) (sub : String) (body : List UInt8) : List FetchEvent :=
  let claims := { sampleReader with
    sub := sub
    arkavoPatreon := some (.object [("role", .string "creator"), ("campaign_id", .string "42")]) }
  [.put 0 sub sampleToken, .authorized id { verified := .ok claims, devices := [], decision := none },
    .bodyRead id (some body), .bundleVerified id (.ok [7]), .payloadsLookedUp id [] [],
    .statusChecked id (.ok ()), .pointerRead id true, .written id .done].map .catalog

def publishTwiceHide : List FetchEvent :=
  publishCampaign 0 sampleSub [21] ++
    [.fetch 0 (.get sampleHash true), .blobHead 0 true, .documentHead 0 true,
      .transferred 0 .delivered] ++
    publishCampaign 1 otherSub [22] ++ [hideCatalog otherSub]

private theorem publishTwiceHide_executed :
    ((fetchMachine campaignPlatform).execute (fun _ _ _ => true) publishTwiceHide []
      campaignFetches).map (fun ended => servedShown sampleHash
        (fun id => [.fetch 0 (.get sampleHash true), .transferred id .delivered]) ended.1 ended.2) =
      some true := by
  decide +kernel

/-- A hidden document is served when its bytes are a recording too, and when the node remembers an
earlier owner. -/
theorem hidden_document_served :
    ServedWhileHidden sampleFetches sampleHash ∧ ServedWhileHidden campaignFetches sampleHash :=
  ⟨servedWhileHidden_of_executed (by decide +kernel) publishPushHide_executed,
    servedWhileHidden_of_executed (by decide +kernel) publishTwiceHide_executed⟩

def keepsApartCheck (hash : String) (state : Fetches platform) : FetchEvent → Bool
  | .catalog (.written id _) => (state.catalogs.puts id).all fun task =>
      match task.phase with
      | .writing _ .document =>
          (state.bucket.blobs.get hash).isNone && (state.bucket.documents.get hash).isNone
      | _ => true
  | .uploaded _ _ => (state.bucket.documents.get hash).isNone
  | _ => true

theorem keepsApart_of_check {hash : String} {state : Fetches platform} {event : FetchEvent}
    (checked : keepsApartCheck hash state event = true) : KeepsApart hash state event := by
  unfold keepsApartCheck at checked
  split at checked
  · intro task admitted held phase _
    simp only [held, Option.all_some, phase, Bool.and_eq_true, Option.isNone_iff_eq_none] at checked
    refine ⟨checked.1, .inl ?_⟩
    intro document stored
    rw [checked.2] at stored
    cases stored
  · intro upload held phase _
    exact Option.isNone_iff_eq_none.mp checked
  · rename_i noWrite noUpload
    unfold KeepsApart
    split
    · exact absurd rfl (noWrite _ _)
    · exact absurd rfl (noUpload _ _)
    · trivial

def publishHideFetch : List FetchEvent :=
  publishDocument ++
    [hideCatalog sampleSub, .fetch 0 (.get sampleHash true), .blobHead 0 true]

def refusedShown (_ : List FetchNotice) (state : Fetches samplePlatform) : Bool :=
  hiddenDocument (state.catalogs.nodes 0) state.bucket sampleHash &&
    ((fetchMachine samplePlatform).next state (.documentHead 0 true)).any fun moved =>
      decide (.reset 0 ⟨.permission, "hidden catalog", some sampleHash⟩ ∈ moved.2)

private theorem publishHideFetch_executed :
    ((fetchMachine samplePlatform).execute
      (fun _ state event => keepsApartCheck sampleHash state event) publishHideFetch []
      sampleFetches).map (fun ended => refusedShown ended.1 ended.2) = some true := by
  decide +kernel

theorem hidden_document_not_served_refused :
    ∃ log state after notices,
      (fetchMachine samplePlatform).Run (fun _ state event => KeepsApart sampleHash state event) []
        sampleFetches log state ∧
      (fetchMachine samplePlatform).next state (.documentHead 0 true) = some (after, notices) ∧
      hiddenDocument (state.catalogs.nodes 0) state.bucket sampleHash = true ∧
      .reset 0 ⟨.permission, "hidden catalog", some sampleHash⟩ ∈ notices ∧
      ∀ id, .cleared id 0 sampleHash ∉ notices := by
  rcases Machine.execute_reaches (fun _ _ _ => keepsApart_of_check) publishHideFetch refusedShown
    publishHideFetch_executed with ⟨log, state, run, shown⟩
  simp only [refusedShown, Bool.and_eq_true, Option.any_eq_true, decide_eq_true_eq] at shown
  rcases shown with ⟨hidden, ⟨after, notices⟩, taken, refused⟩
  have facts := hidden_document_not_served ⟨fun _ => rfl, fun _ => rfl, .inl rfl⟩ run taken
  refine ⟨log, state, after, notices, run, taken, hidden, refused, ?_⟩
  intro id cleared
  rw [facts.1 id 0 cleared] at hidden
  cases hidden

end Sample

end Fetches

end TdfIrohS3
