import TdfIrohS3.Ingest.Cluster

namespace TdfIrohS3

open Library

def IngestPhase.Early {platform : IngestPlatform} {config : ValidationConfig} {hash : String} :
    IngestPhase platform config hash → Prop
  | .receiving | .observing _ | .inspecting | .exporting => True
  | .uploading _ _ _ | .recording _ _ => False

inductive UploadNext
  | waits (stage : UploadPhase) (retries : Nat)
  | succeeds
  | fails

inductive Follows (bucket : Recordings) (hash : String) : UploadPhase → Bool → UploadNext → Prop
  | restarts {stage : UploadPhase} {written : Bool} (retries : Nat) :
      Follows bucket hash stage written (.waits .puttingOutboard retries)
  | fails {stage : UploadPhase} {written : Bool} : Follows bucket hash stage written .fails
  | outboardPut (retries : Nat) :
      Follows bucket hash .puttingOutboard true (.waits .headingBlob retries)
  | blobMissing (retries : Nat) :
      Follows bucket hash .headingBlob false (.waits .puttingBlob retries)
  | blobFound {next : UploadNext} (present : bucket.blobs.contains hash = true)
      (next_eq : next = .succeeds ∨ ∃ retries, next = .waits .puttingManifest retries) :
      Follows bucket hash .headingBlob false next
  | blobPut {next : UploadNext}
      (next_eq : next = .succeeds ∨ ∃ retries, next = .waits .puttingManifest retries) :
      Follows bucket hash .puttingBlob true next
  | manifestPut {written : Bool} : Follows bucket hash .puttingManifest written .succeeds

namespace Ingests

variable {platform : IngestPlatform} {config : ValidationConfig}

def proceed (ingests : Ingests platform config) (id : Nat) (task : IngestTask platform config)
    (validated : Validated platform config task.hash) :
    UploadNext → Ingests platform config × List IngestNotice
  | .waits stage retries => (ingests.advance id task (.uploading validated stage retries), [])
  | .succeeds => ingests.succeed id task
  | .fails => ingests.fail id task

def afterCall (ingests : Ingests platform config) {hash : String}
    (validated : Validated platform config hash) (stage : UploadPhase) (written : Bool) :
    Ingests platform config :=
  if written then ingests.setBucket (validated.store ingests.bucket stage) else ingests

inductive Effect (ingests : Ingests platform config) :
    IngestEvent → Ingests platform config → List IngestNotice → Prop
  | accepted (hash : String) (owner : Option (String × EndpointId)) :
      Effect ingests (.push hash owner)
        { ingests.setTask ingests.nextId (some { hash, owner, phase := .receiving }) with
          nextId := ingests.nextId + 1 } [.accepted ingests.nextId hash owner]
  | refused {event : IngestEvent} {id : Nat} {task : IngestTask platform config}
      (held : ingests.tasks id = some task) :
      Effect ingests event (ingests.setTask id none) [.failed id task.hash]
  | waited {event : IngestEvent} {id : Nat} {task : IngestTask platform config}
      {phase : IngestPhase platform config task.hash} (held : ingests.tasks id = some task)
      (early : phase.Early) : Effect ingests event (ingests.advance id task phase) []
  | validated {id : Nat} {task : IngestTask platform config} {file : List UInt8} {size : Nat}
      {validated : Validated platform config task.hash} (held : ingests.tasks id = some task)
      (passed : validateExported platform config task.hash file size = .ok validated) :
      Effect ingests (.exported id (some (file, size)))
        (ingests.advance id task (.uploading validated .puttingOutboard uploadRetries)) []
  | called {event : IngestEvent} {id : Nat} {task : IngestTask platform config}
      {validated : Validated platform config task.hash} {stage : UploadPhase} {retries : Nat}
      {written : Bool} {next : UploadNext} (held : ingests.tasks id = some task)
      (phase : task.phase = .uploading validated stage retries)
      (follows : Follows ingests.bucket task.hash stage written next) :
      Effect ingests event
        ((ingests.afterCall validated stage written).proceed id task validated next).1
        (((ingests.afterCall validated stage written).proceed id task validated next).2 ++
          if written then firstStored ingests.bucket id task.hash stage else [])
  | recorded {id : Nat} {at_ : Int} {outcome : Outcome} {task : IngestTask platform config}
      {subject : String} {endpoint : EndpointId} (held : ingests.tasks id = some task)
      (phase : task.phase = .recording subject endpoint) (written : outcome ≠ .failed) :
      Effect ingests (.ownerPut id at_ outcome)
        ((ingests.setBucket
          (recordOwner ingests.bucket task.hash subject endpoint at_)).setTask id none)
        (if outcome = .done then [.recorded id task.hash subject] else [])
  | dropped {event : IngestEvent} (id : Nat) : Effect ingests event (ingests.setTask id none) []
  | stopped {event : IngestEvent} (id : Nat) :
      Effect ingests event ((ingests.setTask id none).setRepair id none) []
  | repairing {event : IngestEvent} (hash : String) (size : Nat) :
      Effect ingests event
        { ingests.setRepair ingests.nextId (some { hash, size, computed := none }) with
          nextId := ingests.nextId + 1 } []
  | repairDropped {event : IngestEvent} (id : Nat) :
      Effect ingests event (ingests.setRepair id none) []
  | repairRead {event : IngestEvent} {id : Nat} {repair : Repair} {data outboard : List UInt8}
      (computed : computeOutboard platform data repair.size repair.hash = .ok outboard) :
      Effect ingests event (ingests.setRepair id (some { repair with computed := some outboard })) []
  | repaired {event : IngestEvent} {id : Nat} {repair : Repair} {outboard : List UInt8}
      (held : ingests.repairs id = some repair) (computed : repair.computed = some outboard) :
      Effect ingests event
        ((ingests.setBucket { ingests.bucket with
          outboards := ingests.bucket.outboards.insert repair.hash outboard }).setRepair id none) []

section Calls

variable (ingests : Ingests platform config) (id : Nat) (task : IngestTask platform config)
variable (validated : Validated platform config task.hash) (retries : Nat) (bucket : Recordings)

theorem retry_follows (stage : UploadPhase) (written : Bool) :
    ∃ next, ingests.retry id task validated retries = ingests.proceed id task validated next ∧
      Follows bucket task.hash stage written next := by
  cases retries with
  | zero => exact ⟨.fails, rfl, .fails⟩
  | succ left => exact ⟨.waits .puttingOutboard left, rfl, .restarts left⟩

theorem blobStored_proceeds :
    ∃ next, ingests.blobStored id task validated retries =
        ingests.proceed id task validated next ∧
      (next = .succeeds ∨ ∃ retries, next = .waits .puttingManifest retries) := by
  unfold blobStored
  split
  · exact ⟨.waits .puttingManifest retries, rfl, .inr ⟨retries, rfl⟩⟩
  · exact ⟨.succeeds, rfl, .inl rfl⟩

theorem uploadStored_follows {stage : UploadPhase} (writes : stage ≠ .headingBlob) :
    ∃ next, ingests.uploadStored id task validated retries stage =
        ingests.proceed id task validated next ∧ Follows bucket task.hash stage true next := by
  cases stage with
  | puttingOutboard => exact ⟨.waits .headingBlob retries, rfl, .outboardPut retries⟩
  | headingBlob => exact absurd rfl writes
  | puttingBlob =>
      obtain ⟨next, proceeds, next_eq⟩ := blobStored_proceeds ingests id task validated retries
      exact ⟨next, proceeds, .blobPut next_eq⟩
  | puttingManifest => exact ⟨.succeeds, rfl, .manifestPut⟩

theorem uploadFailed_follows (stage : UploadPhase) (written : Bool) :
    ∃ next, ingests.uploadFailed id task validated retries stage =
        ingests.proceed id task validated next ∧ Follows bucket task.hash stage written next := by
  unfold uploadFailed
  split
  · exact ⟨.succeeds, rfl, .manifestPut⟩
  · exact retry_follows ingests id task validated retries bucket _ written

end Calls

variable {ingests after : Ingests platform config} {notices : List IngestNotice}

theorem call_effect {event : IngestEvent} {id : Nat} {task : IngestTask platform config}
    {validated : Validated platform config task.hash} {stage : UploadPhase} {retries : Nat}
    {result : Ingests platform config × List IngestNotice} {first : List IngestNotice}
    (written : Bool) (held : ingests.tasks id = some task)
    (phase : task.phase = .uploading validated stage retries)
    (follows : ∃ next, result =
        (ingests.afterCall validated stage written).proceed id task validated next ∧
      Follows ingests.bucket task.hash stage written next)
    (stored : first = if written then firstStored ingests.bucket id task.hash stage else [])
    (taken : some (result.1, result.2 ++ first) = some (after, notices)) :
    Effect ingests event after notices := by
  obtain ⟨next, rfl, follows⟩ := follows
  subst stored
  cases taken
  exact .called held phase follows

theorem read_effect {event : IngestEvent} {id : Nat} {task : IngestTask platform config}
    {validated : Validated platform config task.hash} {stage : UploadPhase} {retries : Nat}
    {result : Ingests platform config × List IngestNotice} (held : ingests.tasks id = some task)
    (phase : task.phase = .uploading validated stage retries)
    (follows : ∃ next, result = ingests.proceed id task validated next ∧
      Follows ingests.bucket task.hash stage false next)
    (taken : some result = some (after, notices)) : Effect ingests event after notices := by
  have padded : some (result.1, result.2 ++ ([] : List IngestNotice)) = some (after, notices) := by
    rw [List.append_nil]
    exact taken
  exact call_effect false held phase follows rfl padded

theorem put_effect {id : Nat} {outcome : Outcome}
    (taken : ingests.next (.put id outcome) = some (after, notices)) :
    Effect ingests (.put id outcome) after notices := by
  simp only [next] at taken
  split at taken
  · rename_i task held
    split at taken
    · rename_i validated stage retries phase
      split at taken
      · cases taken
      · rename_i writes
        cases outcome with
        | done =>
            exact call_effect true held phase
              (uploadStored_follows _ id task validated retries _ writes) rfl taken
        | failed =>
            exact read_effect held phase
              (uploadFailed_follows _ id task validated retries _ stage false) taken
        | lost =>
            exact call_effect true held phase
              (uploadFailed_follows _ id task validated retries _ stage true) rfl taken
    · cases taken
  · cases taken

theorem headed_effect {id : Nat} {answered : Bool}
    (taken : ingests.next (.headed id answered) = some (after, notices)) :
    Effect ingests (.headed id answered) after notices := by
  simp only [next] at taken
  split at taken
  · rename_i task held
    split at taken
    · rename_i validated retries phase
      split at taken
      · split at taken
        · rename_i present
          obtain ⟨next, proceeds, next_eq⟩ :=
            blobStored_proceeds ingests id task validated retries
          exact read_effect held phase ⟨next, proceeds, .blobFound present next_eq⟩ taken
        · exact read_effect held phase
            ⟨.waits .puttingBlob retries, rfl, .blobMissing retries⟩ taken
      · exact read_effect held phase
          (retry_follows ingests id task validated retries _ .headingBlob false) taken
    · cases taken
  · cases taken

theorem ownerPut_effect {id : Nat} {at_ : Int} {outcome : Outcome}
    (taken : ingests.next (.ownerPut id at_ outcome) = some (after, notices)) :
    Effect ingests (.ownerPut id at_ outcome) after notices := by
  simp only [next] at taken
  split at taken
  · rename_i task held
    split at taken
    · rename_i subject endpoint phase
      cases outcome <;> cases taken
      · exact .recorded held phase (by decide)
      · exact .dropped id
      · exact .recorded held phase (by decide)
    · cases taken
  · cases taken

theorem exported_effect {id : Nat} {answer : Option (List UInt8 × Nat)}
    (taken : ingests.next (.exported id answer) = some (after, notices)) :
    Effect ingests (.exported id answer) after notices := by
  simp only [next] at taken
  split at taken
  · rename_i task held
    split at taken
    · split at taken
      · cases taken
        exact .refused held
      · split at taken
        · cases taken
          exact .refused held
        · rename_i validated passed
          cases taken
          exact .validated held passed
    · cases taken
  · cases taken

theorem waiting_effect {event : IngestEvent} {id : Nat}
    (early : (∃ oversize, event = .ended id oversize) ∨
      (∃ complete, event = .observed id complete) ∨ ∃ bitfield, event = .inspected id bitfield)
    (taken : ingests.next event = some (after, notices)) : Effect ingests event after notices := by
  rcases early with ⟨oversize, rfl⟩ | ⟨complete, rfl⟩ | ⟨bitfield, rfl⟩ <;> simp only [next] at taken
  all_goals
    split at taken
    · rename_i task held
      repeat' split at taken
      all_goals first
        | cases taken; exact .refused held
        | cases taken; exact .waited held trivial
        | cases taken
    · cases taken

theorem backfillRead_effect {id : Nat} {read : Bool}
    (taken : ingests.next (.backfillRead id read) = some (after, notices)) :
    Effect ingests (.backfillRead id read) after notices := by
  simp only [next, computeRepair] at taken
  split at taken
  · split at taken
    · cases taken
    · split at taken
      · split at taken
        · cases taken
          exact .repairDropped id
        · rename_i outboard computed
          cases taken
          exact .repairRead computed
      · cases taken
        exact .repairDropped id
  · cases taken

theorem backfillPut_effect {id : Nat} {outcome : Outcome}
    (taken : ingests.next (.backfillPut id outcome) = some (after, notices)) :
    Effect ingests (.backfillPut id outcome) after notices := by
  simp only [next] at taken
  split at taken
  · rename_i repair held
    split at taken
    · rename_i outboard computed
      split at taken
      · cases taken
        exact .repairDropped id
      · cases taken
        exact .repaired held computed
    · cases taken
  · cases taken

theorem machine_effect {event : IngestEvent}
    (taken : (ingestMachine platform config).next ingests event = some (after, notices)) :
    Effect ingests event after notices := by
  cases event with
  | push hash owner =>
      cases taken
      exact .accepted hash owner
  | ended id oversize => exact waiting_effect (.inl ⟨oversize, rfl⟩) taken
  | observed id complete => exact waiting_effect (.inr (.inl ⟨complete, rfl⟩)) taken
  | inspected id bitfield => exact waiting_effect (.inr (.inr ⟨bitfield, rfl⟩)) taken
  | exported id answer => exact exported_effect taken
  | put id outcome => exact put_effect taken
  | headed id answered => exact headed_effect taken
  | ownerPut id at_ outcome => exact ownerPut_effect taken
  | stopped id =>
      cases taken
      exact .stopped id
  | backfill hash size =>
      cases taken
      exact .repairing hash size
  | backfillRead id read => exact backfillRead_effect taken
  | backfillPut id outcome => exact backfillPut_effect taken

section Fields

variable (ingests : Ingests platform config) (id other : Nat)

@[simp] theorem setTask_tasks (task : Option (IngestTask platform config)) :
    (ingests.setTask id task).tasks other = if other = id then task else ingests.tasks other :=
  Function.update_apply _ _ _ _

end Fields

end Ingests

end TdfIrohS3
