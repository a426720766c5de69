import TdfIrohS3.Catalog.Steps
import TdfIrohS3.Fetch.Cluster
import TdfIrohS3.Library.Slots

namespace TdfIrohS3

open Library

def Object.Stored (bucket : Bucket) (hash : String) : Object → Prop
  | .blob => (bucket.blobs.get hash).isSome = true
  | .catalogDocument owner =>
      ∃ document, bucket.documents.get hash = some document ∧ document.owner = owner

def FetchPhase.pending : FetchPhase → List String
  | .headingBlob hash rest | .headingDocument hash rest | .headingOutboard hash rest _ => hash :: rest
  | .sending _ => []

namespace Fetches

variable {platform : CatalogPlatform}

def FoundAs (state : Fetches platform) (hash : String) (servable : Servable) : Prop :=
  servable.object.Stored state.bucket hash ∨
    ∃ id task rest, state.fetches id = some task ∧
      task.phase = .headingOutboard hash rest servable

inductive Effect (state : Fetches platform) :
    FetchEvent → Fetches platform → List FetchNotice → Prop
  | catalog {event : CatalogEvent} {catalogs : Catalogs platform} {notices : List CatalogNotice}
      (taken : (catalogMachine platform).next state.catalogs event = some (catalogs, notices)) :
      Effect state (.catalog event) ({ state with catalogs }.restarted event)
        (notices.map .catalog)
  | turnedAway {event : FetchEvent} (reset : Reset) :
      Effect state event { state with nextId := state.nextId + 1 } [.reset state.nextId reset]
  | arrived {event : FetchEvent} {counted : Fetches platform} {node : Nat} {wanted : List String}
      (servers : counted.servers = state.servers) (fetches : counted.fetches = state.fetches)
      (catalogs : counted.catalogs = state.catalogs) :
      Effect state event
        (counted.settle state.nextId (.received node wanted)
          (walk (state.catalogs.nodes node) (state.servers node) wanted)).1
        (counted.settle state.nextId (.received node wanted)
          (walk (state.catalogs.nodes node) (state.servers node) wanted)).2
  | notBlob {event : FetchEvent} {id : Nat} {task : FetchTask} {hash : String} {rest : List String}
      (held : state.fetches id = some task) (phase : task.phase = .headingBlob hash rest) :
      Effect state event
        (state.setFetch id (some { task with phase := .headingDocument hash rest })) []
  | measured {event : FetchEvent} {id : Nat} {task : FetchTask} {hash : String}
      {rest : List String} {servable : Servable} (held : state.fetches id = some task)
      (pending : task.phase.pending = hash :: rest)
      (stored : servable.object.Stored state.bucket hash) :
      Effect state event
        (state.setFetch id (some { task with phase := .headingOutboard hash rest servable })) []
  | checked {event : FetchEvent} {id : Nat} {task : FetchTask} {hash : String} {rest : List String}
      {servable : Servable} (held : state.fetches id = some task)
      (pending : task.phase.pending = hash :: rest) (found : FoundAs state hash servable) :
      Effect state event (state.checked id task hash rest servable).1
        (state.checked id task hash rest servable).2
  | refused {event : FetchEvent} {id : Nat} {task : FetchTask} (reset : Reset)
      (held : state.fetches id = some task) :
      Effect state event (state.release id task) [.reset id reset]
  | unready {event : FetchEvent} {id : Nat} {task : FetchTask} {hash : String}
      {servable : Servable} {now : Nat} (reset : Reset) (held : state.fetches id = some task) :
      Effect state event ((state.startBackfill task.node hash servable now).release id task)
        [.reset id reset]
  | delivered {event : FetchEvent} {id : Nat} {task : FetchTask} {entry : String × Servable}
      {remaining : List (String × Servable)} (held : state.fetches id = some task)
      (phase : task.phase = .sending (entry :: remaining)) :
      Effect state event (state.setFetch id (some { task with phase := .sending remaining }))
        [.sent id entry.1]
  | finished {event : FetchEvent} {id : Nat} {task : FetchTask} {entry : String × Servable}
      (held : state.fetches id = some task) (phase : task.phase = .sending [entry]) :
      Effect state event (state.release id task)
        [.finished id task.node task.wanted, .sent id entry.1]
  | brokeOff {event : FetchEvent} {id : Nat} {task : FetchTask} {entry : String × Servable}
      {remaining : List (String × Servable)} (mismatched : Bool)
      (held : state.fetches id = some task) (phase : task.phase = .sending (entry :: remaining)) :
      Effect state event (state.breakOff id task entry.1 mismatched).1
        (state.breakOff id task entry.1 mismatched).2
  | ingest {event : FetchEvent} {after : Fetches platform} (fetches : after.fetches = state.fetches)
      (servers : after.servers = state.servers)
      (bucket : after.bucket = state.bucket ∨ ∃ id outcome upload, event = .uploaded id outcome ∧
        state.uploads id = some upload ∧ after.bucket = upload.store state.bucket) :
      Effect state event after []
  | backfill {event : FetchEvent} {after : Fetches platform}
      (fetches : after.fetches = state.fetches)
      (servers : ∀ node hash servable, (after.servers node).servable.get hash = some servable →
        (state.servers node).servable.get hash = some servable)
      (blobs : after.bucket.blobs = state.bucket.blobs)
      (documents : after.bucket.documents = state.bucket.documents) :
      Effect state event after []

theorem putOutboard_keeps (bucket : Bucket) (hash : String) (bytes : List UInt8) (object : Object) :
    (object.putOutboard bucket hash bytes).blobs = bucket.blobs ∧
      (object.putOutboard bucket hash bytes).documents = bucket.documents := by
  cases object <;> exact ⟨rfl, rfl⟩

theorem setServer_servers (state : Fetches platform) (node other : Nat) (server : S3Server) :
    (state.setServer node server).servers other =
      if other = node then server else state.servers other :=
  Function.update_apply _ _ _ _

section Aside

structure KeepsFetches (state after : Fetches platform) : Prop where
  fetches : after.fetches = state.fetches
  servers : after.servers = state.servers
  catalogs : after.catalogs = state.catalogs

variable (state : Fetches platform) (id : Nat)

theorem setUpload_keeps (upload : Option (Upload platform)) :
    KeepsFetches state (state.setUpload id upload) := ⟨rfl, rfl, rfl⟩

theorem blobStored_keeps (upload : Upload platform) :
    KeepsFetches state (state.blobStored id upload) := by
  unfold blobStored
  split <;> exact setUpload_keeps state id _

theorem retryUpload_keeps (upload : Upload platform) :
    KeepsFetches state (state.retryUpload id upload) := by
  unfold retryUpload
  split <;> exact setUpload_keeps state id _

theorem uploadStored_keeps (upload : Upload platform) :
    KeepsFetches state (state.uploadStored id upload) := by
  unfold uploadStored
  split
  · exact setUpload_keeps state id _
  · exact blobStored_keeps state id upload
  · exact setUpload_keeps state id _
  · exact setUpload_keeps state id _

theorem uploadFailed_keeps (upload : Upload platform) :
    KeepsFetches state (state.uploadFailed id upload) := by
  unfold uploadFailed
  split
  · exact setUpload_keeps state id _
  · exact retryUpload_keeps state id upload

theorem servable_setServer {server : S3Server} {node : Nat}
    (kept : ∀ hash servable, server.servable.get hash = some servable →
      (state.servers node).servable.get hash = some servable) (other : Nat) (hash : String)
    (servable : Servable)
    (held : ((state.setServer node server).servers other).servable.get hash = some servable) :
    (state.servers other).servable.get hash = some servable := by
  rw [setServer_servers] at held
  split at held
  · rename_i same
    exact same ▸ kept hash servable held
  · exact held

theorem failBackfill_servable (backfill : Backfill) (now node : Nat) (hash : String)
    (servable : Servable)
    (held : ((state.failBackfill id backfill now).servers node).servable.get hash =
      some servable) : (state.servers node).servable.get hash = some servable := by
  have kept : ∀ other found,
      ((state.servers backfill.node).failBackfill backfill.hash now).servable.get other =
        some found → (state.servers backfill.node).servable.get other = some found :=
    fun _ _ found => found
  exact servable_setServer state kept node hash servable held

theorem computeOutboard_keeps (backfill : Backfill) (data : List UInt8) (now : Nat) :
    (state.computeOutboard id backfill data now).fetches = state.fetches ∧
      (state.computeOutboard id backfill data now).catalogs = state.catalogs ∧
      ∀ node hash servable,
        ((state.computeOutboard id backfill data now).servers node).servable.get hash =
          some servable → (state.servers node).servable.get hash = some servable := by
  unfold computeOutboard
  split
  · exact ⟨rfl, rfl, failBackfill_servable state id backfill now⟩
  · split
    · split
      · exact ⟨rfl, rfl, failBackfill_servable state id backfill now⟩
      · exact ⟨rfl, rfl, fun _ _ _ found => found⟩
    · have kept : ∀ other found, (((state.servers backfill.node).markCorrupt
          backfill.hash).endBackfill backfill.hash).servable.get other = some found →
          (state.servers backfill.node).servable.get other = some found :=
        fun _ _ found => S3Server.get_remove found
      exact ⟨rfl, rfl, servable_setServer state kept⟩

end Aside

theorem effect_of_eq {state after : Fetches platform} {event : FetchEvent}
    {result : Fetches platform × List FetchNotice} {notices : List FetchNotice}
    (equal : some result = some (after, notices)) (effect : Effect state event result.1 result.2) :
    Effect state event after notices := by
  cases equal
  exact effect

theorem sized_effect {state : Fetches platform} {event : FetchEvent} {id : Nat} {task : FetchTask}
    {hash : String} {rest : List String} {servable : Servable}
    (held : state.fetches id = some task) (pending : task.phase.pending = hash :: rest)
    (stored : servable.object.Stored state.bucket hash) :
    Effect state event (state.sized id task hash rest servable).1
      (state.sized id task hash rest servable).2 := by
  unfold sized
  split
  · exact .measured held pending stored
  · exact .checked held pending (.inl stored)

section Inversion

variable {state after : Fetches platform} {notices : List FetchNotice}

private theorem blobHead_effect {id : Nat} {answered : Bool}
    (taken : state.next (.blobHead id answered) = some (after, notices)) :
    Effect state (.blobHead id answered) after notices := by
  simp only [next] at taken
  split at taken
  · rename_i task held
    split at taken
    · rename_i hash rest phase
      split at taken
      · split at taken
        · rename_i bytes stored
          exact effect_of_eq taken (sized_effect held (by rw [phase, FetchPhase.pending])
            (by simp [Object.Stored, stored]))
        · exact effect_of_eq taken (.notBlob held phase)
      · exact effect_of_eq taken (.refused _ held)
    · cases taken
  · cases taken

private theorem documentHead_effect {id : Nat} {answered : Bool}
    (taken : state.next (.documentHead id answered) = some (after, notices)) :
    Effect state (.documentHead id answered) after notices := by
  simp only [next] at taken
  split at taken
  · rename_i task held
    split at taken
    · rename_i hash rest phase
      split at taken
      · split at taken
        · rename_i document stored
          exact effect_of_eq taken (sized_effect held (by rw [phase, FetchPhase.pending])
            ⟨document, stored, rfl⟩)
        · exact effect_of_eq taken (.refused _ held)
      · exact effect_of_eq taken (.refused _ held)
    · cases taken
  · cases taken

private theorem outboardHead_effect {id : Nat} {answered : Bool} {now : Nat}
    (taken : state.next (.outboardHead id answered now) = some (after, notices)) :
    Effect state (.outboardHead id answered now) after notices := by
  simp only [next] at taken
  split at taken
  · rename_i task held
    split at taken
    · rename_i hash rest servable phase
      split at taken
      · split at taken
        · exact effect_of_eq taken (.checked held (by rw [phase, FetchPhase.pending])
            (.inr ⟨id, task, rest, held, phase⟩))
        · exact effect_of_eq taken (.unready _ held)
      · exact effect_of_eq taken (.refused _ held)
    · cases taken
  · cases taken

private theorem transferred_effect {id : Nat} {transfer : Transfer}
    (taken : state.next (.transferred id transfer) = some (after, notices)) :
    Effect state (.transferred id transfer) after notices := by
  simp only [next] at taken
  split at taken
  · rename_i task held
    split at taken
    · rename_i hash servable remaining phase
      split at taken
      · split at taken
        · rename_i last
          rw [List.isEmpty_iff.mp last] at phase
          exact effect_of_eq taken (.finished held phase)
        · exact effect_of_eq taken (.delivered held phase)
      · have broke := @Effect.brokeOff _ state (.transferred id transfer) id task (hash, servable)
          remaining (decide (transfer = .mismatched)) held phase
        exact effect_of_eq taken broke
    · cases taken
  · cases taken

private theorem uploaded_effect {id : Nat} {outcome : Outcome}
    (taken : state.next (.uploaded id outcome) = some (after, notices)) :
    Effect state (.uploaded id outcome) after notices := by
  simp only [next] at taken
  split at taken
  · rename_i upload held
    split at taken
    · cases taken
    · cases outcome with
      | done =>
          have keeps := uploadStored_keeps (state.setBucket (upload.store state.bucket)) id upload
          refine effect_of_eq taken (.ingest keeps.fetches keeps.servers (.inr
            ⟨id, .done, upload, rfl, held, ?_⟩))
          exact congrArg Catalogs.bucket keeps.catalogs
      | failed =>
          have keeps := uploadFailed_keeps state id upload
          exact effect_of_eq taken (.ingest keeps.fetches keeps.servers (.inl
            (congrArg Catalogs.bucket keeps.catalogs)))
      | lost =>
          have keeps := uploadFailed_keeps (state.setBucket (upload.store state.bucket)) id upload
          refine effect_of_eq taken (.ingest keeps.fetches keeps.servers (.inr
            ⟨id, .lost, upload, rfl, held, ?_⟩))
          exact congrArg Catalogs.bucket keeps.catalogs
  · cases taken

private theorem uploadHead_effect {id : Nat} {answered : Bool}
    (taken : state.next (.uploadHead id answered) = some (after, notices)) :
    Effect state (.uploadHead id answered) after notices := by
  simp only [next] at taken
  split at taken
  · rename_i upload held
    split at taken
    · split at taken
      · split at taken
        · have keeps := blobStored_keeps state id upload
          exact effect_of_eq taken (.ingest keeps.fetches keeps.servers (.inl
            (congrArg Catalogs.bucket keeps.catalogs)))
        · exact effect_of_eq taken (.ingest rfl rfl (.inl rfl))
      · have keeps := retryUpload_keeps state id upload
        exact effect_of_eq taken (.ingest keeps.fetches keeps.servers (.inl
          (congrArg Catalogs.bucket keeps.catalogs)))
    · cases taken
  · cases taken

private theorem backfillRead_effect {id : Nat} {read : Bool} {now : Nat}
    (taken : state.next (.backfillRead id read now) = some (after, notices)) :
    Effect state (.backfillRead id read now) after notices := by
  simp only [next] at taken
  split at taken
  · rename_i backfill held
    split at taken
    · cases taken
    · split at taken
      · rename_i _ _ data found
        have keeps := computeOutboard_keeps state id backfill data now
        exact effect_of_eq taken (.backfill keeps.1 keeps.2.2
          (congrArg (fun catalogs => catalogs.bucket.blobs) keeps.2.1)
          (congrArg (fun catalogs => catalogs.bucket.documents) keeps.2.1))
      · exact effect_of_eq taken
          (.backfill rfl (failBackfill_servable state id backfill now) rfl rfl)
  · cases taken

private theorem backfillPut_effect {id : Nat} {outcome : Outcome} {now : Nat}
    (taken : state.next (.backfillPut id outcome now) = some (after, notices)) :
    Effect state (.backfillPut id outcome now) after notices := by
  simp only [next] at taken
  split at taken
  · rename_i backfill held
    split at taken
    · rename_i bytes computed
      have bucket := putOutboard_keeps state.bucket backfill.hash bytes backfill.servable.object
      cases outcome with
      | done =>
          have kept : ∀ other found,
              ((state.servers backfill.node).endBackfill backfill.hash).servable.get other =
                some found → (state.servers backfill.node).servable.get other = some found :=
            fun _ _ found => found
          exact effect_of_eq taken
            (.backfill rfl (servable_setServer state kept) bucket.1 bucket.2)
      | failed =>
          exact effect_of_eq taken
            (.backfill rfl (failBackfill_servable state id backfill now) rfl rfl)
      | lost =>
          exact effect_of_eq taken
            (.backfill rfl (failBackfill_servable _ id backfill now) bucket.1 bucket.2)
    · cases taken
  · cases taken

theorem machine_effect {event : FetchEvent}
    (taken : (fetchMachine platform).next state event = some (after, notices)) :
    Effect state event after notices := by
  change state.next event = some (after, notices) at taken
  cases event with
  | catalog event =>
      simp only [next] at taken
      split at taken
      · cases taken
      · rename_i catalogs moved took
        exact effect_of_eq taken (.catalog took)
  | fetch node request =>
      simp only [next] at taken
      split at taken
      · exact effect_of_eq taken (.turnedAway _)
      · split at taken
        · exact effect_of_eq taken (.turnedAway _)
        · exact effect_of_eq taken (.arrived rfl rfl rfl)
  | blobHead id answered => exact blobHead_effect taken
  | documentHead id answered => exact documentHead_effect taken
  | outboardHead id answered now => exact outboardHead_effect taken
  | transferred id transfer => exact transferred_effect taken
  | pushed node bytes manifest =>
      simp only [next] at taken
      split at taken
      · cases taken
      · exact effect_of_eq taken (.ingest rfl rfl (.inl rfl))
  | uploaded id outcome => exact uploaded_effect taken
  | uploadHead id answered => exact uploadHead_effect taken
  | backfillRead id read now => exact backfillRead_effect taken
  | backfillPut id outcome now => exact backfillPut_effect taken

end Inversion

section Settle

variable {state : Fetches platform} {id : Nat} {task : FetchTask}
variable {walked : List (String × Servable) × Stop}

theorem settle_servers : (state.settle id task walked).1.servers = state.servers := by
  simp only [settle]
  split
  · rfl
  · rfl
  · split <;> rfl

theorem settle_catalogs : (state.settle id task walked).1.catalogs = state.catalogs := by
  simp only [settle]
  split
  · rfl
  · rfl
  · split <;> rfl

structure SettledAs (task : FetchTask) (walked : List (String × Servable) × Stop)
    (found : FetchTask) : Prop where
  node : found.node = task.node
  wanted : found.wanted = task.wanted
  servables : found.servables = task.servables ++ walked.1
  going : ∀ reset, walked.2 ≠ .refused reset
  phase : found.phase.pending = walked.2.left
  sending : ∀ remaining, found.phase = .sending remaining → remaining = found.servables
  fresh : ∀ hash rest servable, found.phase ≠ .headingOutboard hash rest servable

theorem release_fetches {other : Nat} {found : FetchTask}
    (held : (state.release id task).fetches other = some found) :
    state.fetches other = some found := by
  change (state.setFetch id none).fetches other = some found at held
  exact held_of_clear held

theorem settle_fetches {other : Nat} {found : FetchTask}
    (held : (state.settle id task walked).1.fetches other = some found) :
    state.fetches other = some found ∨ (other = id ∧ SettledAs task walked found) := by
  simp only [settle] at held
  split at held
  · exact .inl (release_fetches held)
  · rename_i hash rest stop
    rcases held_of_fill held with ⟨same, rfl⟩ | held
    · exact .inr ⟨same, ⟨rfl, rfl, rfl, by simp [stop], by simp [stop, Stop.left, FetchPhase.pending],
        by simp, by simp⟩⟩
    · exact .inl held
  · rename_i stop
    split at held
    · exact .inl (release_fetches held)
    · rcases held_of_fill held with ⟨same, rfl⟩ | held
      · refine .inr ⟨same, ⟨rfl, rfl, rfl, by simp [stop], by simp [stop, Stop.left, FetchPhase.pending],
          ?_, by simp⟩⟩
        rintro _ ⟨⟩
        rfl
      · exact .inl held

theorem mem_settle {notice : FetchNotice} (seen : notice ∈ (state.settle id task walked).2) :
    (∃ entry ∈ walked.1, notice = .cleared id task.node entry.1) ∨
      (∃ reset, notice = .reset id reset) ∨
      (notice = .finished id task.node task.wanted ∧ walked.2 = .ready ∧
        task.servables ++ walked.1 = []) := by
  have passed : notice ∈ walked.1.map (fun entry => FetchNotice.cleared id task.node entry.1) →
      ∃ entry ∈ walked.1, notice = .cleared id task.node entry.1 := by
    intro member
    obtain ⟨entry, among, rfl⟩ := List.mem_map.mp member
    exact ⟨entry, among, rfl⟩
  simp only [settle] at seen
  split at seen
  · rename_i reset stop
    rcases List.mem_cons.mp seen with rfl | member
    · exact .inr (.inl ⟨reset, rfl⟩)
    · exact .inl (passed member)
  · exact .inl (passed seen)
  · rename_i stop
    split at seen
    · rename_i none
      rcases List.mem_cons.mp seen with rfl | member
      · exact .inr (.inr ⟨rfl, stop, List.isEmpty_iff.mp none⟩)
      · exact .inl (passed member)
    · exact .inl (passed seen)

theorem cleared_mem_settle {entry : String × Servable} (passed : entry ∈ walked.1) :
    .cleared id task.node entry.1 ∈ (state.settle id task walked).2 := by
  have member : FetchNotice.cleared id task.node entry.1 ∈
      walked.1.map fun entry => FetchNotice.cleared id task.node entry.1 :=
    List.mem_map.mpr ⟨entry, passed, rfl⟩
  simp only [settle]
  split
  · exact List.mem_cons_of_mem _ member
  · exact member
  · split
    · exact List.mem_cons_of_mem _ member
    · exact member

end Settle

section Origins

variable {state after : Fetches platform} {event : FetchEvent} {notices : List FetchNotice}

theorem restarted_servable {event : CatalogEvent} {node : Nat} {hash : String} {servable : Servable}
    (held : ((state.restarted event).servers node).servable.get hash = some servable) :
    (state.servers node).servable.get hash = some servable := by
  unfold restarted at held
  split at held
  · dsimp only at held
    rw [Function.update_apply] at held
    split at held
    · cases held
    · exact held
  · exact held

theorem restarted_fetches {event : CatalogEvent} {id : Nat} {task : FetchTask}
    (held : (state.restarted event).fetches id = some task) : state.fetches id = some task := by
  unfold restarted at held
  split at held
  · exact (Option.filter_eq_some_iff.mp held).1
  · exact held

theorem restarted_catalogs (event : CatalogEvent) :
    (state.restarted event).catalogs = state.catalogs := by
  unfold restarted
  split <;> rfl

theorem startBackfill_fetches (node : Nat) (hash : String) (servable : Servable) (now : Nat) :
    (state.startBackfill node hash servable now).fetches = state.fetches := by
  unfold startBackfill
  split <;> rfl

theorem startBackfill_catalogs (node : Nat) (hash : String) (servable : Servable) (now : Nat) :
    (state.startBackfill node hash servable now).catalogs = state.catalogs := by
  unfold startBackfill
  split <;> rfl

theorem backfill_servable {server started : S3Server} {hash : String} {now : Nat}
    (begun : server.backfill hash now = some started) : started.servable = server.servable := by
  unfold S3Server.backfill at begun
  split at begun
  · cases begun
  · split at begun
    · cases begun
    · split at begun
      · cases begun
      · cases begun
        rfl

theorem startBackfill_servable {node other now : Nat} {hash wanted : String}
    {servable found : Servable}
    (held : ((state.startBackfill node hash servable now).servers other).servable.get wanted =
      some found) : (state.servers other).servable.get wanted = some found := by
  unfold startBackfill at held
  split at held
  · exact held
  · rename_i server begun
    refine servable_setServer state ?_ other wanted found held
    intro _ _ known
    rw [← backfill_servable begun]
    exact known

theorem breakOff_servable {id node : Nat} {task : FetchTask} {hash other : String}
    {mismatched : Bool} {servable : Servable}
    (held : ((state.breakOff id task hash mismatched).1.servers node).servable.get other =
      some servable) : (state.servers node).servable.get other = some servable := by
  refine servable_setServer state ?_ node other servable held
  intro _ _ known
  have marked := S3Server.get_remove known
  cases mismatched with
  | false => exact marked
  | true => exact S3Server.get_remove marked

/-- What a node remembers of a hash it remembered before, or `check` has just found it so. -/
theorem effect_servers (effect : Effect state event after notices) {node : Nat} {hash : String}
    {servable : Servable} (held : (after.servers node).servable.get hash = some servable) :
    (state.servers node).servable.get hash = some servable ∨ FoundAs state hash servable := by
  cases effect with
  | catalog =>
      have before := restarted_servable held
      exact .inl before
  | turnedAway => exact .inl held
  | arrived servers =>
      rw [settle_servers, servers] at held
      exact .inl held
  | notBlob => exact .inl held
  | measured => exact .inl held
  | checked _ _ found =>
      rw [checked, settle_servers, setServer_servers] at held
      split at held
      · rename_i same
        rcases S3Server.get_remember held with ⟨rfl, rfl⟩ | before
        · exact .inr found
        · exact .inl (same ▸ before)
      · exact .inl held
  | refused => exact .inl held
  | unready => exact .inl (startBackfill_servable held)
  | delivered => exact .inl held
  | finished => exact .inl held
  | brokeOff => exact .inl (breakOff_servable held)
  | ingest _ servers => exact .inl (servers ▸ held)
  | backfill _ servers => exact .inl (servers node hash servable held)

inductive FetchCame (state : Fetches platform) (notices : List FetchNotice) (id : Nat)
    (task : FetchTask) : Prop
  | kept (held : state.fetches id = some task)
  | looked (old : FetchTask) (phase : FetchPhase) (held : state.fetches id = some old)
      (same : task = { old with phase }) (pending : phase.pending = old.phase.pending)
      (idle : ∀ remaining, phase ≠ .sending remaining)
      (stored : ∀ hash rest servable, phase = .headingOutboard hash rest servable →
        servable.object.Stored state.bucket hash)
  | sent (old : FetchTask) (entry : String × Servable) (remaining : List (String × Servable))
      (held : state.fetches id = some old) (phase : old.phase = .sending (entry :: remaining))
      (same : task = { old with phase := .sending remaining })
  | settled (old : FetchTask) (walked : List (String × Servable) × Stop) (toCheck : List String)
      (before : (old = .received old.node old.wanted ∧ toCheck = old.wanted) ∨
        (state.fetches id = some old ∧ toCheck = old.phase.pending))
      (settled : SettledAs old walked task)
      (passed : ∀ entry ∈ walked.1, .cleared id old.node entry.1 ∈ notices)
      (covered : walked.1.map Prod.fst ++ walked.2.left = toCheck)

theorem effect_fetches (effect : Effect state event after notices) {id : Nat} {task : FetchTask}
    (held : after.fetches id = some task) : FetchCame state notices id task := by
  cases effect with
  | catalog =>
      have was := restarted_fetches held
      exact .kept was
  | turnedAway => exact .kept held
  | arrived _ fetches =>
      rcases settle_fetches held with was | ⟨rfl, settled⟩
      · exact .kept (fetches ▸ was)
      · exact .settled _ _ _ (.inl ⟨rfl, rfl⟩) settled (fun _ => cleared_mem_settle)
          (walk_covers settled.going)
  | notBlob was phase =>
      rcases held_of_fill held with ⟨same, rfl⟩ | held
      · subst same
        exact .looked _ _ was rfl (by rw [phase]; rfl) (by simp) (by simp)
      · exact .kept held
  | measured was pending stored =>
      rcases held_of_fill held with ⟨same, rfl⟩ | held
      · subst same
        refine .looked _ _ was rfl pending.symm (by simp) ?_
        rintro _ _ _ ⟨⟩
        exact stored
      · exact .kept held
  | checked was pending =>
      rcases settle_fetches held with before | ⟨rfl, settled⟩
      · exact .kept before
      · refine .settled _ _ _ (.inr ⟨was, rfl⟩) settled (fun _ => cleared_mem_settle) ?_
        have whole := clear_covers settled.going
        have going := settled.going
        rw [whole] at going ⊢
        rw [pending, List.map_cons, List.cons_append, walk_covers going]
  | refused => exact .kept (release_fetches held)
  | unready =>
      have was := release_fetches held
      rw [startBackfill_fetches] at was
      exact .kept was
  | delivered was phase =>
      rcases held_of_fill held with ⟨same, rfl⟩ | held
      · subst same
        exact .sent _ _ _ was phase rfl
      · exact .kept held
  | finished => exact .kept (release_fetches held)
  | brokeOff =>
      have was := release_fetches held
      exact .kept was
  | ingest fetches => exact .kept (fetches ▸ held)
  | backfill fetches => exact .kept (fetches ▸ held)

inductive ObjectsMove (state after : Fetches platform) (event : FetchEvent) : Prop
  | kept (blobs : after.bucket.blobs = state.bucket.blobs)
      (documents : after.bucket.documents = state.bucket.documents)
  | published (id : Nat) (outcome : Outcome) (task : PutTask platform)
      (admitted : Admitted platform task.sub task.headers)
      (about : event = .catalog (.written id outcome))
      (held : state.catalogs.puts id = some task) (phase : task.phase = .writing admitted .document)
      (blobs : after.bucket.blobs = state.bucket.blobs)
      (documents : after.bucket.documents = state.bucket.documents.insert
        admitted.job.pointer.catalogHash { body := admitted.job.document, owner := some task.sub })
      (servers : after.servers = state.servers) (fetches : after.fetches = state.fetches)
  | ingested (id : Nat) (outcome : Outcome) (upload : Upload platform)
      (about : event = .uploaded id outcome) (held : state.uploads id = some upload)
      (bucket : after.bucket = upload.store state.bucket)

theorem objectsMove_of_catalogs (same : after.catalogs = state.catalogs) :
    ObjectsMove state after event :=
  .kept (congrArg (fun c => c.bucket.blobs) same) (congrArg (fun c => c.bucket.documents) same)

theorem effect_objects (effect : Effect state event after notices) :
    ObjectsMove state after event := by
  cases effect with
  | @catalog event catalogs _ taken =>
      have same : ({ state with catalogs }.restarted event).bucket = catalogs.bucket :=
        congrArg Catalogs.bucket (restarted_catalogs event)
      cases Catalogs.effect_bucket (Catalogs.machine_effect taken) with
      | kept kept => exact .kept (by rw [same, kept]; rfl) (by rw [same, kept]; rfl)
      | replaced _ _ _ _ _ _ _ bucket =>
          exact .kept (by rw [same, bucket]; rfl) (by rw [same, bucket]; rfl)
      | wrote id task admitted stage held phase _ about bucket =>
          obtain ⟨outcome, rfl⟩ := about
          rw [← same] at bucket
          cases stage with
          | document =>
              exact .published id outcome task admitted rfl held phase (by rw [bucket]; rfl)
                (by rw [bucket]; rfl) rfl rfl
          | outboard | index | pointer => exact .kept (by rw [bucket]; rfl) (by rw [bucket]; rfl)
  | turnedAway => exact objectsMove_of_catalogs rfl
  | arrived _ _ catalogs => exact objectsMove_of_catalogs (settle_catalogs.trans catalogs)
  | notBlob => exact objectsMove_of_catalogs rfl
  | measured => exact objectsMove_of_catalogs rfl
  | checked => exact objectsMove_of_catalogs settle_catalogs
  | refused => exact objectsMove_of_catalogs rfl
  | unready => exact objectsMove_of_catalogs (startBackfill_catalogs _ _ _ _)
  | delivered => exact objectsMove_of_catalogs rfl
  | finished => exact objectsMove_of_catalogs rfl
  | brokeOff => exact objectsMove_of_catalogs rfl
  | ingest _ _ stored =>
      rcases stored with same | ⟨id, outcome, upload, rfl, held, bucket⟩
      · exact .kept (by rw [same]) (by rw [same])
      · exact .ingested id outcome upload rfl held bucket
  | backfill _ _ blobs documents => exact .kept blobs documents

/-- What is behind a notice of a step. A hash that is cleared was found servable, and its owner was
not hidden; a stream that ends was asked for nothing, or its last hash has just been sent. -/
inductive NoticeCame (state : Fetches platform) : FetchNotice → Prop
  | catalog (notice : CatalogNotice) : NoticeCame state (.catalog notice)
  | reset (id : Nat) (reset : Reset) : NoticeCame state (.reset id reset)
  | cleared {id node : Nat} {hash : String} (servable : Servable)
      (visible : servable.object.hidden (state.catalogs.nodes node) = false)
      (known : (state.servers node).servable.get hash = some servable ∨
        FoundAs state hash servable) : NoticeCame state (.cleared id node hash)
  | sent {id : Nat} (task : FetchTask) (entry : String × Servable)
      (remaining : List (String × Servable)) (held : state.fetches id = some task)
      (phase : task.phase = .sending (entry :: remaining)) : NoticeCame state (.sent id entry.1)
  | idle (id node : Nat) : NoticeCame state (.finished id node [])
  | finished {id : Nat} (task : FetchTask) (entry : String × Servable)
      (held : state.fetches id = some task) (phase : task.phase = .sending [entry]) :
      NoticeCame state (.finished id task.node task.wanted)

theorem arrived_notice {counted : Fetches platform} {node : Nat} {wanted : List String}
    {notice : FetchNotice}
    (seen : notice ∈ (counted.settle state.nextId (.received node wanted)
      (walk (state.catalogs.nodes node) (state.servers node) wanted)).2) :
    NoticeCame state notice := by
  rcases mem_settle seen with ⟨entry, passed, rfl⟩ | ⟨reset, rfl⟩ | ⟨rfl, ready, empty⟩
  · have known := walk_passed passed
    exact .cleared entry.2 known.2 (.inl known.1)
  · exact .reset _ reset
  · have covered := walk_covers (by rw [ready]; simp)
    rw [ready, (List.append_eq_nil_iff.mp empty).2] at covered
    subst covered
    exact .idle _ _

theorem checked_notice {id : Nat} {task : FetchTask} {hash : String} {rest : List String}
    {servable : Servable} {notice : FetchNotice} (found : FoundAs state hash servable)
    (seen : notice ∈ (state.checked id task hash rest servable).2) : NoticeCame state notice := by
  rcases mem_settle seen with ⟨entry, passed, rfl⟩ | ⟨reset, rfl⟩ | ⟨rfl, ready, empty⟩
  · rcases clear_passed passed with ⟨rfl, visible⟩ | later
    · exact .cleared _ visible (.inr found)
    · obtain ⟨known, visible⟩ := walk_passed later
      refine .cleared entry.2 visible ?_
      rcases S3Server.get_remember known with ⟨rfl, rfl⟩ | before
      · exact .inr found
      · exact .inl before
  · exact .reset _ reset
  · have passed := (List.append_eq_nil_iff.mp empty).2
    rw [clear_covers (by rw [ready]; simp)] at passed
    cases passed

theorem effect_notice (effect : Effect state event after notices) {notice : FetchNotice}
    (seen : notice ∈ notices) : NoticeCame state notice := by
  cases effect with
  | catalog =>
      obtain ⟨inner, -, rfl⟩ := List.mem_map.mp seen
      exact .catalog inner
  | turnedAway reset =>
      cases List.mem_singleton.mp seen
      exact .reset _ reset
  | arrived => exact arrived_notice seen
  | checked _ _ found => exact checked_notice found seen
  | refused reset held =>
      cases List.mem_singleton.mp seen
      exact .reset _ reset
  | unready reset held =>
      cases List.mem_singleton.mp seen
      exact .reset _ reset
  | delivered held phase =>
      cases List.mem_singleton.mp seen
      exact .sent _ _ _ held phase
  | finished held phase =>
      rcases List.mem_pair.mp seen with rfl | rfl
      · exact .finished _ _ held phase
      · exact .sent _ _ _ held phase
  | brokeOff mismatched held phase =>
      rcases List.mem_pair.mp seen with rfl | rfl
      · exact .reset _ _
      · exact .sent _ _ _ held phase
  | _ => cases seen

end Origins

end Fetches

end TdfIrohS3
