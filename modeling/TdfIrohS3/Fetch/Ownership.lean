import TdfIrohS3.Fetch.Hidden

namespace TdfIrohS3

open Library

section Publishers

variable {platform : CatalogPlatform}

/-- `owner` may have published these bytes: they are an envelope of its catalog, and one for a
campaign is this account's. -/
def Publisher (platform : CatalogPlatform) (account : String) (body : List UInt8) (owner : String) :
    Prop :=
  ∃ fqn, envelopeAttribute platform.toFormats platform.toOpentdf body owner = .ok fqn ∧
    (isCampaignFqn fqn = true → canonicalSubject owner = account)

/-- The same bytes have publishers of one account. -/
theorem publisher_unique {account one two : String} {body : List UInt8}
    (first : Publisher platform account body one) (second : Publisher platform account body two) :
    canonicalSubject one = canonicalSubject two := by
  obtain ⟨fqn, enveloped, campaign⟩ := first
  obtain ⟨fqn', enveloped', campaign'⟩ := second
  obtain rfl := envelopeAttribute_unique enveloped enveloped'
  by_cases shared : isCampaignFqn fqn = true
  · rw [campaign shared, campaign' shared]
  · have own := (envelopeAttribute_named enveloped).resolve_left shared
    have own' := (envelopeAttribute_named enveloped').resolve_left shared
    -- a creator's attribute carries the subject itself
    simp only [isCreatorFqn, Bool.and_eq_true, beq_iff_eq] at own own'
    rw [Option.some.inj (own.1.symm.trans own'.1)]

end Publishers

namespace Fetches

variable {platform : CatalogPlatform}

def NoIngest : FetchEvent → Prop
  | .pushed _ _ _ | .uploaded _ _ | .uploadHead _ _ => False
  | _ => True

def OnePublisher (hash account : String) (state : Fetches platform) : FetchEvent → Prop
  | .catalog (.written id _) => ∀ task admitted, state.catalogs.puts id = some task →
      task.phase = .writing admitted .document → admitted.job.pointer.catalogHash = hash →
      isCampaignFqn admitted.job.fqn = true → canonicalSubject task.sub = account
  | _ => True

variable {state after : Fetches platform} {event : FetchEvent} {notices : List FetchNotice}
variable {hash account : String}

def Known (platform : CatalogPlatform) (hash account : String) (bucket : Bucket) (object : Object) :
    Prop :=
  ∃ document owner, bucket.documents.get hash = some document ∧
    object = .catalogDocument (some owner) ∧ Publisher platform account document.body owner

structure Owned (hash account : String) (state : Fetches platform) : Prop where
  blob : state.bucket.blobs.get hash = none
  documents : ∀ document, state.bucket.documents.get hash = some document →
    platform.blake3Hex document.body = hash ∧
      ∃ owner, document.owner = some owner ∧ Publisher platform account document.body owner
  servers : ∀ node servable, (state.servers node).servable.get hash = some servable →
    Known platform hash account state.bucket servable.object
  looked : ∀ id task rest servable, state.fetches id = some task →
    task.phase = .headingOutboard hash rest servable →
    Known platform hash account state.bucket servable.object

theorem Owned.stored (owned : Owned hash account state) {object : Object}
    (stored : object.Stored state.bucket hash) :
    Known platform hash account state.bucket object := by
  cases object with
  | blob =>
      rw [Object.Stored, owned.blob] at stored
      cases stored
  | catalogDocument recorded =>
      obtain ⟨document, found, rfl⟩ := stored
      obtain ⟨-, owner, named, publisher⟩ := owned.documents document found
      exact ⟨document, owner, found, by rw [named], publisher⟩

theorem Owned.found (owned : Owned hash account state) {servable : Servable}
    (found : FoundAs state hash servable) :
    Known platform hash account state.bucket servable.object := by
  rcases found with stored | ⟨id, task, rest, held, phase⟩
  · exact owned.stored stored
  · exact owned.looked id task rest servable held phase

theorem body_step (collisionFree : Function.Injective platform.blake3)
    (owned : Owned hash account state) (quiet : NoIngest event)
    (effect : Effect state event after notices) {document : CatalogDocument}
    (found : state.bucket.documents.get hash = some document) :
    ∃ kept, after.bucket.documents.get hash = some kept ∧ kept.body = document.body := by
  cases effect_objects effect with
  | kept blobs documents => exact ⟨document, by rw [documents]; exact found, rfl⟩
  | ingested id outcome upload about held bucket =>
      subst about
      cases quiet
  | published id outcome task admitted about held phase blobs documents servers fetches =>
      rw [documents, Table.get_insert]
      split
      · rename_i same
        have hashes : Text.hexEncode (platform.blake3 admitted.job.document) =
            Text.hexEncode (platform.blake3 document.body) := by
          rw [← CatalogPlatform.blake3Hex, ← CatalogPlatform.blake3Hex,
            (owned.documents document found).1, same, admitted.job.hashed]
        exact ⟨_, rfl, collisionFree (Text.hexEncode_injective hashes)⟩
      · exact ⟨document, found, rfl⟩

theorem known_step (collisionFree : Function.Injective platform.blake3)
    (owned : Owned hash account state) (quiet : NoIngest event)
    (effect : Effect state event after notices) {object : Object}
    (known : Known platform hash account state.bucket object) :
    Known platform hash account after.bucket object := by
  obtain ⟨document, owner, found, same, publisher⟩ := known
  obtain ⟨kept, stored, body⟩ := body_step collisionFree owned quiet effect found
  exact ⟨kept, owner, stored, same, body ▸ publisher⟩

theorem documents_step (owned : Owned hash account state) (quiet : NoIngest event)
    (one : OnePublisher hash account state event) (effect : Effect state event after notices)
    {document : CatalogDocument} (found : after.bucket.documents.get hash = some document) :
    platform.blake3Hex document.body = hash ∧
      ∃ owner, document.owner = some owner ∧ Publisher platform account document.body owner := by
  cases effect_objects effect with
  | kept blobs documents => exact owned.documents document (by rw [← documents]; exact found)
  | ingested id outcome upload about held bucket =>
      subst about
      cases quiet
  | published id outcome task admitted about held phase blobs documents servers fetches =>
      subst about
      rw [documents, Table.get_insert] at found
      split at found
      · rename_i same
        obtain rfl := Option.some.inj found
        have campaign := one task admitted held phase same.symm
        refine ⟨?_, task.sub, rfl, admitted.job.fqn, admitted.job.enveloped, campaign⟩
        rw [same, admitted.job.hashed]
      · exact owned.documents document found

theorem owned_step (collisionFree : Function.Injective platform.blake3)
    (owned : Owned hash account state) (quiet : NoIngest event)
    (one : OnePublisher hash account state event) (effect : Effect state event after notices) :
    Owned hash account after where
  blob := by
    cases effect_objects effect with
    | kept blobs documents => rw [blobs]; exact owned.blob
    | published _ _ _ _ _ _ _ blobs => rw [blobs]; exact owned.blob
    | ingested id outcome upload about held bucket =>
        subst about
        cases quiet
  documents := fun document found => documents_step owned quiet one effect found
  servers := by
    intro node servable held
    apply known_step collisionFree owned quiet effect
    rcases effect_servers effect held with before | found
    · exact owned.servers node servable before
    · exact owned.found found
  looked := by
    intro id task rest servable held phase
    apply known_step collisionFree owned quiet effect
    cases effect_fetches effect held with
    | kept was => exact owned.looked id task rest servable was phase
    | looked old moved was same pending idle stored =>
        subst same
        exact owned.stored (stored hash rest servable phase)
    | sent old entry remaining was before same =>
        subst same
        cases phase
    | settled old walked toCheck before settled => exact absurd phase (settled.fresh _ _ _)

structure Unpublished (hash : String) (state : Fetches platform) : Prop extends Started hash state where
  blob : state.bucket.blobs.get hash = none
  document : state.bucket.documents.get hash = none

theorem Unpublished.owned (fresh : Unpublished hash state) : Owned hash account state where
  blob := fresh.blob
  documents := by
    intro document found
    rw [fresh.document] at found
    cases found
  servers := by
    intro node servable held
    rw [fresh.servers] at held
    cases held
  looked := by
    intro id task rest servable held
    rw [fresh.fetches] at held
    cases held

/-- Every step is of a catalog request or a fetch, and the hash's campaign envelopes come from one
account. -/
def Publishes (hash account : String) (_ : List FetchNotice) (state : Fetches platform)
    (event : FetchEvent) : Prop :=
  NoIngest event ∧ OnePublisher hash account state event

theorem ownerHidden_congr {node : V2State} {one two : String}
    (same : canonicalSubject one = canonicalSubject two) :
    node.ownerHidden (some one) = node.ownerHidden (some two) := by
  simp only [V2State.ownerHidden, Option.any_some, Moderation.catalogHidden, same]

theorem owned_run (collisionFree : Function.Injective platform.blake3) {last : Fetches platform}
    {log history : List FetchNotice} (first : Owned hash account state)
    (run : (fetchMachine platform).Run (Publishes hash account) log state history last) :
    Owned hash account last := by
  refine run.state_invariant (Owned hash account) first ?_
  intro log state event next notices owned permitted taken
  exact owned_step collisionFree owned permitted.1 permitted.2 (machine_effect taken)

theorem body_run (collisionFree : Function.Injective platform.blake3) {last : Fetches platform}
    {log history : List FetchNotice} (first : Owned hash account state)
    (run : (fetchMachine platform).Run (Publishes hash account) log state history last)
    {document : CatalogDocument} (stored : state.bucket.documents.get hash = some document) :
    ∃ kept, last.bucket.documents.get hash = some kept ∧ kept.body = document.body := by
  have reached := run.state_invariant
    (fun last => Owned hash account last ∧
      ∃ kept, last.bucket.documents.get hash = some kept ∧ kept.body = document.body)
    ⟨first, document, stored, rfl⟩ ?_
  · exact reached.2
  rintro log state event next notices ⟨owned, kept, found, body⟩ permitted taken
  have effect := machine_effect taken
  obtain ⟨later, present, same⟩ := body_step collisionFree owned permitted.1 effect found
  exact ⟨owned_step collisionFree owned permitted.1 permitted.2 effect, later, present,
    same.trans body⟩

theorem Known.sameAccount {bucket : Bucket} {object : Object} {kept : CatalogDocument} {owner : String}
    (known : Known platform hash account bucket object)
    (found : bucket.documents.get hash = some kept)
    (publisher : Publisher platform account kept.body owner) :
    ∃ remembered, object = .catalogDocument (some remembered) ∧
      canonicalSubject remembered = canonicalSubject owner := by
  obtain ⟨other, remembered, present, named, also⟩ := known
  obtain rfl := Option.some.inj (found.symm.trans present)
  exact ⟨remembered, named, publisher_unique also publisher⟩

/-- A node that hides a publisher of the document lets no fetch of it through. -/
theorem not_cleared_of_hidden (owned : Owned hash account state) {kept : CatalogDocument}
    {owner : String} (found : state.bucket.documents.get hash = some kept)
    (publisher : Publisher platform account kept.body owner) {node id : Nat}
    (hides : (state.catalogs.nodes node).ownerHidden (some owner) = true)
    (effect : Effect state event after notices) : .cleared id node hash ∉ notices := by
  intro cleared
  cases effect_notice effect cleared with
  | cleared servable visible remembered =>
      have known : Known platform hash account state.bucket servable.object := by
        rcases remembered with held | found
        · exact owned.servers node servable held
        · exact owned.found found
      obtain ⟨other, is, same⟩ := known.sameAccount found publisher
      rw [is, Object.hidden, ownerHidden_congr same, hides] at visible
      cases visible

/-- The recorded owner of a stored document stays the same account, whoever publishes, if the
envelopes of a campaign come from one account. So do the owners the nodes remember, and hiding that
account hides the document over HTTP and in `serve`. -/
theorem document_owner_stays (collisionFree : Function.Injective platform.blake3)
    {start last : Fetches platform} {log history : List FetchNotice} (fresh : Unpublished hash start)
    (front : (fetchMachine platform).Run (Publishes hash account) [] start log state)
    {document : CatalogDocument} {owner : String}
    (stored : state.bucket.documents.get hash = some document)
    (recorded : document.owner = some owner)
    (back : (fetchMachine platform).Run (Publishes hash account) log state history last) :
    (∃ kept owner', last.bucket.documents.get hash = some kept ∧ kept.owner = some owner' ∧
      canonicalSubject owner' = canonicalSubject owner) ∧
    (∀ node servable, (last.servers node).servable.get hash = some servable →
      ∃ remembered, servable.object = .catalogDocument (some remembered) ∧
        canonicalSubject remembered = canonicalSubject owner) ∧
    ∀ node, (last.catalogs.nodes node).ownerHidden (some owner) = true →
      (∀ headers, isLowerHexHash hash = true →
        getCatalogDocument (last.catalogs.nodes node) last.bucket hash headers =
          .error catalogNotFound) ∧
      ∀ event after notices, (fetchMachine platform).next last event = some (after, notices) →
        ∀ id, .cleared id node hash ∉ notices := by
  have first := owned_run collisionFree fresh.owned front
  have owned := owned_run collisionFree first back
  obtain ⟨kept, found, body⟩ := body_run collisionFree first back stored
  obtain ⟨-, _, named, publisher⟩ := first.documents document stored
  obtain rfl := Option.some.inj (recorded.symm.trans named)
  -- the bytes are those of the document first recorded, so its publisher is theirs
  rw [← body] at publisher
  obtain ⟨-, owner', named', publisher'⟩ := owned.documents kept found
  have same : canonicalSubject owner' = canonicalSubject owner :=
    publisher_unique publisher' publisher
  refine ⟨⟨kept, owner', found, named', same⟩, ?_, ?_⟩
  · intro node servable held
    exact (owned.servers node servable held).sameAccount found publisher
  · intro node hides
    constructor
    · intro headers lower
      apply getCatalogDocument_hidden _ lower headers
      rw [hiddenDocument, found, Option.any_some, named', ownerHidden_congr same]
      exact hides
    · intro event after notices taken id
      exact not_cleared_of_hidden owned found publisher hides (machine_effect taken)

section Sample

open Catalogs

def noIngestCheck : FetchEvent → Bool
  | .pushed _ _ _ | .uploaded _ _ | .uploadHead _ _ => false
  | _ => true

theorem noIngest_of_check {event : FetchEvent} (checked : noIngestCheck event = true) :
    NoIngest event := by
  cases event with
  | pushed | uploaded | uploadHead => cases checked
  | _ => trivial

def recordedOwner (hash : String) (state : Fetches platform) : Option String :=
  (state.bucket.documents.get hash).bind fun document => document.owner

def publishFirst : List FetchEvent := publishCampaign 0 sampleSub [21]

def takeOver : List FetchEvent :=
  publishCampaign 1 otherSub [22] ++
    [.catalog (.written 1 .done), .catalog (.written 1 .done),
      .catalog (.pointerWritten 1 .conflict), hideCatalog sampleSub]

def fetchTaken : List FetchEvent :=
  [.fetch 0 (.get sampleHash true), .blobHead 0 true, .documentHead 0 true]

def takenShown (log : List FetchNotice) (state : Fetches campaignPlatform) : Bool :=
  decide (recordedOwner sampleHash state = some sampleSub) &&
    ((fetchMachine campaignPlatform).execute (fun _ _ event => noIngestCheck event) takeOver log
      state).any fun ended =>
        decide (recordedOwner sampleHash ended.2 = some otherSub) &&
        decide (.catalog (.refused 1 conflict) ∈ ended.1) &&
        (ended.2.catalogs.nodes 0).ownerHidden (some sampleSub) &&
        decide (getCatalogDocument (ended.2.catalogs.nodes 0) ended.2.bucket sampleHash [] ≠
          .error catalogNotFound) &&
        ((fetchMachine campaignPlatform).execute (fun _ _ event => noIngestCheck event) fetchTaken
          ended.1 ended.2).any fun fetched => decide (.cleared 0 0 sampleHash ∈ fetched.1)

private theorem takeOver_executed :
    ((fetchMachine campaignPlatform).execute (fun _ _ event => noIngestCheck event) publishFirst []
      campaignFetches).map (fun ended => takenShown ended.1 ended.2) = some true := by
  decide +kernel

/-- A second creator of the campaign takes the document over, with a publish that is answered 409.
With the first one hidden the document is still there, over HTTP and for a fetch. -/
theorem document_owner_taken_over :
    ∃ log state history last later fetched,
      (fetchMachine campaignPlatform).Run (fun _ _ event => NoIngest event) [] campaignFetches log
        state ∧
      recordedOwner sampleHash state = some sampleSub ∧
      (fetchMachine campaignPlatform).Run (fun _ _ event => NoIngest event) log state history last ∧
      recordedOwner sampleHash last = some otherSub ∧
      canonicalSubject otherSub ≠ canonicalSubject sampleSub ∧
      .catalog (.refused 1 conflict) ∈ history ∧
      (last.catalogs.nodes 0).ownerHidden (some sampleSub) = true ∧
      getCatalogDocument (last.catalogs.nodes 0) last.bucket sampleHash [] ≠ .error catalogNotFound ∧
      (fetchMachine campaignPlatform).Run (fun _ _ event => NoIngest event) history last later
        fetched ∧
      .cleared 0 0 sampleHash ∈ later := by
  rcases Machine.execute_reaches (fun _ _ _ => noIngest_of_check) publishFirst takenShown
    takeOver_executed with ⟨log, state, front, shown⟩
  simp only [takenShown, Bool.and_eq_true, decide_eq_true_eq, Option.any_eq_true] at shown
  rcases shown with ⟨owner, ⟨history, last⟩, taken, ⟨⟨⟨other, lost⟩, hides⟩, visible⟩,
    ⟨later, fetched⟩, fetching, cleared⟩
  have back := Machine.execute_run (fun _ _ _ => noIngest_of_check) takeOver taken
  have fetch := Machine.execute_run (fun _ _ _ => noIngest_of_check) fetchTaken fetching
  exact ⟨log, state, history, last, later, fetched, front, owner, back, other, by decide +kernel,
    lost, hides, visible, fetch, cleared⟩

def publishesCheck (account : String) (state : Fetches platform) (event : FetchEvent) : Bool :=
  noIngestCheck event &&
    match event with
    | .catalog (.written id _) =>
        (state.catalogs.puts id).all fun task => decide (canonicalSubject task.sub = account)
    | _ => true

theorem publishes_of_check {state : Fetches platform} {event : FetchEvent} (hash : String)
    (log : List FetchNotice) {account : String} (checked : publishesCheck account state event = true) :
    Publishes hash account log state event := by
  simp only [publishesCheck, Bool.and_eq_true] at checked
  refine ⟨noIngest_of_check checked.1, ?_⟩
  have writer := checked.2
  unfold OnePublisher
  split
  · intro task admitted held _ _ _
    simp only [held, Option.all_some, decide_eq_true_eq] at writer
    exact writer
  · trivial

def publishAgain : List FetchEvent :=
  publishCampaign 1 sampleSub [21] ++ [hideCatalog sampleSub]

def stayedShown (log : List FetchNotice) (state : Fetches campaignPlatform) : Bool :=
  ((state.bucket.documents.get sampleHash).any fun document =>
    decide (document.owner = some sampleSub)) &&
    ((fetchMachine campaignPlatform).execute (fun _ state event => publishesCheck sampleSub state event)
      publishAgain log state).any fun ended =>
        (ended.2.catalogs.nodes 0).ownerHidden (some sampleSub)

private theorem publishAgain_executed :
    ((fetchMachine campaignPlatform).execute (fun _ state event => publishesCheck sampleSub state event)
      publishFirst [] campaignFetches).map (fun ended => stayedShown ended.1 ended.2) = some true := by
  decide +kernel

theorem campaignFetches_unpublished : Unpublished sampleHash campaignFetches where
  servers := fun _ => rfl
  fetches := fun _ => rfl
  separate := .inl rfl
  blob := rfl
  document := rfl

theorem document_owner_stays_republished :
    ∃ log state history last document,
      (fetchMachine campaignPlatform).Run (Publishes sampleHash sampleSub) [] campaignFetches log
        state ∧
      state.bucket.documents.get sampleHash = some document ∧ document.owner = some sampleSub ∧
      (fetchMachine campaignPlatform).Run (Publishes sampleHash sampleSub) log state history last ∧
      getCatalogDocument (last.catalogs.nodes 0) last.bucket sampleHash [] =
        .error catalogNotFound := by
  rcases Machine.execute_reaches (fun log _ _ => publishes_of_check sampleHash log) publishFirst stayedShown
    publishAgain_executed with ⟨log, state, front, shown⟩
  simp only [stayedShown, Bool.and_eq_true, decide_eq_true_eq, Option.any_eq_true] at shown
  rcases shown with ⟨⟨document, stored, owner⟩, ⟨history, last⟩, executed, hides⟩
  have back := Machine.execute_run (fun log _ _ => publishes_of_check sampleHash log) publishAgain executed
  have stays := document_owner_stays Function.injective_id campaignFetches_unpublished front stored
    owner back
  exact ⟨log, state, history, last, document, front, stored, owner, back,
    (stays.2.2 0 hides).1 [] (by decide +kernel)⟩

end Sample

end Fetches

end TdfIrohS3
