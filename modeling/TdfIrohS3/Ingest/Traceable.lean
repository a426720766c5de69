import TdfIrohS3.Ingest.Complete

namespace TdfIrohS3

open Library

def TracesTo (bucket : Recordings) (hash subject : String) : Prop :=
  ∃ owner, bucket.publishers.get hash = some owner ∧ owner.subject = subject

def IngestNotice.ownerOf (hash : String) : IngestNotice → Option String
  | .recorded _ key subject => if key = hash then some subject else none
  | _ => none

def lastRecorded (hash : String) (log : List IngestNotice) : Option String :=
  log.findSome? fun notice => notice.ownerOf hash

def NoFailure : IngestEvent → Prop
  | .put _ outcome | .ownerPut _ _ outcome | .backfillPut _ outcome => outcome = .done
  | .headed _ answered => answered = true
  | .backfillRead _ read => read = true
  | _ => True

/-- A push of the hash by the subject was accepted, and no push by another has been ingested since this
one was. -/
def IngestedLast (log : List IngestNotice) (hash subject : String) : Prop :=
  ∃ id endpoint newer older, log = newer ++ .recorded id hash subject :: older ∧
    .accepted id hash (some (subject, endpoint)) ∈ older ∧
    ∀ other account, .recorded other hash account ∈ newer → account = subject

/-- A push whose ingest first stored the blob had the subject recorded as its owner. -/
def FirstOwner (log : List IngestNotice) (hash subject : String) : Prop :=
  ∃ id, .stored id hash ∈ log ∧ .recorded id hash subject ∈ log

section History

variable {hash subject : String} {log notices : List IngestNotice}

theorem ownerOf_eq_some {notice : IngestNotice} (owner : notice.ownerOf hash = some subject) :
    ∃ id, notice = .recorded id hash subject := by
  cases notice with
  | recorded id recorded named =>
      simp only [IngestNotice.ownerOf, Option.ite_none_right_eq_some, Option.some.injEq] at owner
      rcases owner with ⟨rfl, rfl⟩
      exact ⟨id, rfl⟩
  | _ => cases owner

theorem ownerOf_recorded (id : Nat) :
    (IngestNotice.recorded id hash subject).ownerOf hash = some subject := if_pos rfl

theorem lastRecorded_split (last : lastRecorded hash log = some subject) :
    ∃ id newer older, log = newer ++ .recorded id hash subject :: older ∧
      ∀ other account, .recorded other hash account ∉ newer := by
  obtain ⟨newer, notice, older, split, owner, none⟩ := List.findSome?_eq_some_iff.mp last
  obtain ⟨id, rfl⟩ := ownerOf_eq_some owner
  refine ⟨id, newer, older, split, ?_⟩
  intro other account member
  cases (ownerOf_recorded other).symm.trans (none _ member)

theorem lastRecorded_of_split {id : Nat} {newer older : List IngestNotice}
    (split : log = newer ++ .recorded id hash subject :: older)
    (theirs : ∀ other account, .recorded other hash account ∈ newer → account = subject) :
    lastRecorded hash log = some subject := by
  have rest : lastRecorded hash (.recorded id hash subject :: older) = some subject := by
    rw [lastRecorded, List.findSome?_cons, ownerOf_recorded]
  rw [split, lastRecorded, List.findSome?_append]
  cases found : newer.findSome? fun notice => notice.ownerOf hash with
  | none => exact rest
  | some account =>
      obtain ⟨notice, member, owner⟩ := List.exists_of_findSome?_eq_some found
      obtain ⟨other, rfl⟩ := ownerOf_eq_some owner
      rw [theirs other account member]
      rfl

theorem lastRecorded_of_mem {id : Nat} (recorded : .recorded id hash subject ∈ log) :
    ∃ last, lastRecorded hash log = some last := by
  apply Option.isSome_iff_exists.mp
  rw [lastRecorded, List.findSome?_isSome_iff]
  exact ⟨_, recorded, by rw [ownerOf_recorded]; rfl⟩

def Silent (notices : List IngestNotice) : Prop :=
  ∀ id hash subject, .recorded id hash subject ∉ notices

theorem lastRecorded_silent (silent : Silent notices) :
    lastRecorded hash (notices ++ log) = lastRecorded hash log := by
  have none : notices.findSome? (fun notice => notice.ownerOf hash) = none := by
    apply List.findSome?_eq_none_iff.mpr
    intro notice member
    by_contra some
    obtain ⟨subject, owner⟩ := Option.ne_none_iff_exists'.mp some
    obtain ⟨id, rfl⟩ := ownerOf_eq_some owner
    exact silent id hash subject member
  rw [lastRecorded, List.findSome?_append, none, Option.none_or]
  rfl

theorem split_silent {id : Nat} {newer older : List IngestNotice} (silent : Silent notices)
    (split : notices ++ log = newer ++ .recorded id hash subject :: older) :
    ∃ earlier, log = earlier ++ .recorded id hash subject :: older := by
  rcases List.append_eq_append_iff.mp split with ⟨middle, rfl, rest⟩ | ⟨middle, rfl, rest⟩
  · exact ⟨middle, rest⟩
  · cases middle with
    | nil => exact ⟨[], rest.symm⟩
    | cons notice middle =>
        cases rest
        exact absurd (List.mem_append_right _ List.mem_cons_self) (silent id hash subject)

end History

namespace Ingests

variable {platform : IngestPlatform} {config : ValidationConfig}
variable {ingests after : Ingests platform config} {event : IngestEvent}
variable {notices : List IngestNotice}

inductive OwnerMove (ingests : Ingests platform config) :
    IngestEvent → Ingests platform config → List IngestNotice → Prop
  | kept {event : IngestEvent} {after : Ingests platform config} {notices : List IngestNotice}
      (publishers : after.bucket.publishers = ingests.bucket.publishers) (silent : Silent notices) :
      OwnerMove ingests event after notices
  | recorded {id : Nat} {at_ : Int} {outcome : Outcome} {task : IngestTask platform config}
      {subject : String} {endpoint : EndpointId} {after : Ingests platform config}
      (held : ingests.tasks id = some task) (phase : task.phase = .recording subject endpoint)
      (publishers : after.bucket.publishers =
        (recordOwner ingests.bucket task.hash subject endpoint at_).publishers) :
      OwnerMove ingests (.ownerPut id at_ outcome) after
        (if outcome = .done then [.recorded id task.hash subject] else [])

theorem afterCall_publishers {hash : String} (validated : Validated platform config hash)
    (stage : UploadPhase) (written : Bool) :
    (ingests.afterCall validated stage written).bucket.publishers = ingests.bucket.publishers := by
  cases written with
  | false => rfl
  | true => cases stage <;> rfl

theorem proceed_silent (state : Ingests platform config) (id : Nat)
    (task : IngestTask platform config) (validated : Validated platform config task.hash)
    (next : UploadNext) : Silent (state.proceed id task validated next).2 := by
  intro other hash subject member
  cases next with
  | waits stage retries => cases member
  | succeeds =>
      simp only [proceed, succeed] at member
      split at member <;> simp at member
  | fails => simp [proceed, fail] at member

theorem firstStored_silent (bucket : Recordings) (id : Nat) (hash : String) (stage : UploadPhase) :
    Silent (firstStored bucket id hash stage) := by
  intro other named subject
  unfold firstStored
  split
  · split <;> simp
  · simp

theorem effect_owner (effect : Effect ingests event after notices) :
    OwnerMove ingests event after notices := by
  cases effect with
  | @called _ id task validated stage retries written next held phase follows =>
      apply OwnerMove.kept
      · rw [proceed_bucket, afterCall_publishers]
      · intro other hash subject member
        rcases List.mem_append.mp member with proceeded | first
        · exact proceed_silent _ _ _ _ _ other hash subject proceeded
        · split at first
          · exact firstStored_silent _ _ _ _ other hash subject first
          · cases first
  | recorded held phase written => exact .recorded held phase rfl
  | _ => exact .kept rfl (by simp [Silent])

def RecordsOwner (task : IngestTask platform config) : Prop :=
  ∀ subject endpoint, task.phase = .recording subject endpoint →
    task.owner = some (subject, endpoint)

inductive TaskCame (ingests : Ingests platform config) (notices : List IngestNotice) (id : Nat)
    (task : IngestTask platform config) : Prop
  | kept (held : ingests.tasks id = some task)
  | moved {old : IngestTask platform config} (held : ingests.tasks id = some old)
      (hash : task.hash = old.hash) (owner : task.owner = old.owner) (records : RecordsOwner task)
  | accepted (noticed : .accepted id task.hash task.owner ∈ notices) (records : RecordsOwner task)

theorem recordsOwner_of_early {task : IngestTask platform config} (early : task.phase.Early) :
    RecordsOwner task := by
  intro subject endpoint recording
  rw [recording] at early
  exact early.elim

theorem recordsOwner_of_uploading {task : IngestTask platform config}
    {validated : Validated platform config task.hash} {stage : UploadPhase} {retries : Nat}
    (uploading : task.phase = .uploading validated stage retries) : RecordsOwner task := by
  intro subject endpoint recording
  rw [uploading] at recording
  cases recording

theorem came_of_removed {state : Ingests platform config} {id other : Nat}
    {task : IngestTask platform config} (same : state.tasks = ingests.tasks)
    (held : (state.setTask id none).tasks other = some task) :
    TaskCame ingests notices other task := by
  rw [setTask_tasks, same] at held
  split at held
  · cases held
  · exact .kept held

theorem came_of_advance {state : Ingests platform config} {id other : Nat}
    {old task : IngestTask platform config} {phase : IngestPhase platform config old.hash}
    (same : state.tasks = ingests.tasks) (held : ingests.tasks id = some old)
    (records : RecordsOwner { old with phase := phase })
    (came : (state.advance id old phase).tasks other = some task) :
    TaskCame ingests notices other task := by
  rw [advance, setTask_tasks, same] at came
  split at came
  · rename_i equal
    cases came
    exact equal ▸ .moved held rfl rfl records
  · exact .kept came

theorem came_of_proceed {state : Ingests platform config} {id other : Nat}
    {old task : IngestTask platform config} {validated : Validated platform config old.hash}
    {next : UploadNext} (same : state.tasks = ingests.tasks) (held : ingests.tasks id = some old)
    (came : (state.proceed id old validated next).1.tasks other = some task) :
    TaskCame ingests notices other task := by
  cases next with
  | waits stage retries => exact came_of_advance same held (recordsOwner_of_uploading rfl) came
  | succeeds =>
      simp only [proceed, succeed] at came
      split at came
      · rename_i subject endpoint owned
        refine came_of_advance same held ?_ came
        intro named at_ recording
        cases recording
        exact owned
      · exact came_of_removed same came
  | fails => exact came_of_removed same came

theorem effect_came (effect : Effect ingests event after notices) {id : Nat}
    {task : IngestTask platform config} (held : after.tasks id = some task) :
    TaskCame ingests notices id task := by
  cases effect with
  | accepted hash owner =>
      simp only [setTask_tasks] at held
      split at held
      · rename_i new
        cases held
        rw [new]
        exact .accepted (List.mem_singleton_self _) (recordsOwner_of_early trivial)
      · exact .kept held
  | refused _ => exact came_of_removed rfl held
  | waited old early => exact came_of_advance rfl old (recordsOwner_of_early early) held
  | validated old passed => exact came_of_advance rfl old (recordsOwner_of_uploading rfl) held
  | called old phase follows => exact came_of_proceed (afterCall_tasks _ _ _) old held
  | recorded _ _ _ => exact came_of_removed rfl held
  | dropped _ => exact came_of_removed rfl held
  | stopped _ => exact came_of_removed rfl held
  | _ => exact .kept held

structure Traced (log : List IngestNotice) (ingests : Ingests platform config) : Prop where
  owners : ∀ hash, (ingests.bucket.publishers.get hash).map BlobOwner.subject =
    lastRecorded hash log
  tasks : ∀ id task, ingests.tasks id = some task →
    .accepted id task.hash task.owner ∈ log ∧ RecordsOwner task
  recorded : ∀ id hash subject newer older, log = newer ++ .recorded id hash subject :: older →
    ∃ endpoint, .accepted id hash (some (subject, endpoint)) ∈ older

variable {log : List IngestNotice}

theorem owners_step (traced : Traced log ingests) (reliable : NoFailure event)
    (move : OwnerMove ingests event after notices) (hash : String) :
    (after.bucket.publishers.get hash).map BlobOwner.subject =
      lastRecorded hash (notices ++ log) := by
  cases move with
  | kept publishers silent =>
      rw [publishers, lastRecorded_silent silent]
      exact traced.owners hash
  | @recorded id at_ outcome task subject endpoint _ held phase publishers =>
      have done : outcome = .done := reliable
      rw [publishers, if_pos done, recordOwner]
      simp only [Table.get_insert, lastRecorded, List.singleton_append, List.findSome?_cons,
        IngestNotice.ownerOf]
      by_cases same : hash = task.hash
      · rw [if_pos same, if_pos same.symm]
        rfl
      · rw [if_neg same, if_neg (Ne.symm same)]
        exact traced.owners hash

theorem tasks_step (traced : Traced log ingests) (effect : Effect ingests event after notices)
    (id : Nat) (task : IngestTask platform config) (held : after.tasks id = some task) :
    .accepted id task.hash task.owner ∈ notices ++ log ∧ RecordsOwner task := by
  cases effect_came effect held with
  | kept old =>
      have before := traced.tasks id task old
      exact ⟨List.mem_append_right _ before.1, before.2⟩
  | @moved earlier old hash owner records =>
      rw [hash, owner]
      exact ⟨List.mem_append_right _ (traced.tasks id earlier old).1, records⟩
  | accepted noticed records => exact ⟨List.mem_append_left _ noticed, records⟩

theorem recorded_step (traced : Traced log ingests) (move : OwnerMove ingests event after notices)
    (id : Nat) (hash subject : String) (newer older : List IngestNotice)
    (split : notices ++ log = newer ++ .recorded id hash subject :: older) :
    ∃ endpoint, .accepted id hash (some (subject, endpoint)) ∈ older := by
  cases move with
  | kept publishers silent =>
      obtain ⟨earlier, before⟩ := split_silent silent split
      exact traced.recorded id hash subject earlier older before
  | @recorded other at_ outcome task named endpoint _ held phase publishers =>
      split at split
      · cases newer with
        | nil =>
            cases split
            have before := traced.tasks _ task held
            exact ⟨endpoint, before.2 _ _ phase ▸ before.1⟩
        | cons notice newer =>
            exact traced.recorded id hash subject newer older (List.cons.inj split).2
      · exact traced.recorded id hash subject newer older split

theorem traced_fresh : Traced [] (fresh : Ingests platform config) := by
  refine ⟨fun hash => rfl, ?_, ?_⟩
  · intro id task held
    cases held
  · intro id hash subject newer older split
    cases newer <;> cases split

theorem traced_of_run (run : (ingestMachine platform config).Run (fun _ _ event => NoFailure event) []
    fresh log ingests) : Traced log ingests := by
  refine run.invariant Traced traced_fresh ?_
  intro log state event next notices traced reliable taken
  have effect := machine_effect taken
  have move := effect_owner effect
  exact ⟨owners_step traced reliable move, tasks_step traced effect, recorded_step traced move⟩

theorem Traced.tracesTo_iff {hash subject : String} (traced : Traced log ingests) :
    TracesTo ingests.bucket hash subject ↔ IngestedLast log hash subject := by
  have last : TracesTo ingests.bucket hash subject ↔ lastRecorded hash log = some subject := by
    rw [← traced.owners hash, Option.map_eq_some_iff]
    rfl
  rw [last]
  constructor
  · intro found
    obtain ⟨id, newer, older, split, none⟩ := lastRecorded_split found
    obtain ⟨endpoint, accepted⟩ := traced.recorded id hash subject newer older split
    exact ⟨id, endpoint, newer, older, split, accepted,
      fun other account member => absurd member (none other account)⟩
  · rintro ⟨id, endpoint, newer, older, split, -, theirs⟩
    exact lastRecorded_of_split split theirs

/-- Where `moderation/publishers/<hash>` leads once its first owner is recorded: to them exactly while
the pushes of others that were ingested are followed by one of theirs, so always as long as every
accepted push of the hash was theirs. -/
theorem first_owner_traced_iff {hash subject : String}
    (run : (ingestMachine platform config).Run (fun _ _ event => NoFailure event) [] fresh
      log ingests) (first : FirstOwner log hash subject) :
    (TracesTo ingests.bucket hash subject ↔ IngestedLast log hash subject) ∧
    ((∀ id other endpoint, .accepted id hash (some (other, endpoint)) ∈ log → other = subject) →
      TracesTo ingests.bucket hash subject) := by
  have traced := traced_of_run run
  refine ⟨traced.tracesTo_iff, ?_⟩
  intro only
  rw [traced.tracesTo_iff]
  obtain ⟨id, -, recorded⟩ := first
  obtain ⟨last, found⟩ := lastRecorded_of_mem recorded
  obtain ⟨other, newer, older, split, none⟩ := lastRecorded_split found
  obtain ⟨endpoint, accepted⟩ := traced.recorded other hash last newer older split
  have theirs : last = subject := by
    refine only other last endpoint ?_
    rw [split]
    exact List.mem_append_right _ (List.mem_cons_of_mem _ accepted)
  subst theirs
  exact ⟨other, endpoint, newer, older, split, accepted,
    fun another account member => absurd member (none another account)⟩

def pusherEndpoint : EndpointId := ⟨List.replicate 32 9, by decide⟩

/-- An accepted push of one blob by a subject, ingested without a hitch. `stores` tells whether the
blob is still to be put. -/
def ingestedPush (id : Nat) (subject : String) (stores : Bool) : List IngestEvent :=
  [.push "0a0b" (some (subject, pusherEndpoint)), .ended id false, .observed id (some true),
    .inspected id (some (2, true)), .exported id (some ([10, 11], 2)), .put id .done,
    .headed id true] ++ (if stores then [.put id .done] else []) ++
  [.put id .done, .ownerPut id 1000 .done]

def noFailureCheck : IngestEvent → Bool
  | .put _ outcome | .ownerPut _ _ outcome | .backfillPut _ outcome => outcome == .done
  | .headed _ answered => answered
  | .backfillRead _ read => read
  | _ => true

theorem noFailure_of_check (event : IngestEvent) (checked : noFailureCheck event = true) :
    NoFailure event := by
  cases event with
  | put id outcome => exact eq_of_beq checked
  | ownerPut id at_ outcome => exact eq_of_beq checked
  | backfillPut id outcome => exact eq_of_beq checked
  | headed id answered => exact checked
  | backfillRead id read => exact checked
  | _ => trivial

def firstOwnerShown (log : List IngestNotice) (ingests : Ingests openPlatform openConfig) : Bool :=
  decide (.stored 0 "0a0b" ∈ log) && decide (.recorded 0 "0a0b" "alice" ∈ log) &&
    (ingests.bucket.publishers.get "0a0b").any fun owner => owner.subject == "bob"

theorem secondPush_executed :
    ((ingestMachine openPlatform openConfig).execute (fun _ _ event => noFailureCheck event)
      (ingestedPush 0 "alice" true ++ ingestedPush 1 "bob" false) [] fresh).map
      (fun ended => firstOwnerShown ended.1 ended.2) = some true := by
  decide +kernel

/-- A later push of the stored blob by another subject replaces the first owner. -/
theorem first_owner_replaced :
    ∃ log ingests, (ingestMachine openPlatform openConfig).Run
        (fun _ _ event => NoFailure event) [] fresh log ingests ∧
      FirstOwner log "0a0b" "alice" ∧ TracesTo ingests.bucket "0a0b" "bob" ∧
      ¬TracesTo ingests.bucket "0a0b" "alice" := by
  obtain ⟨log, ingests, run, shown⟩ := Machine.execute_reaches
    (fun _ _ event => noFailure_of_check event) _ firstOwnerShown secondPush_executed
  simp only [firstOwnerShown, Bool.and_eq_true, decide_eq_true_eq, Option.any_eq_true,
    beq_iff_eq] at shown
  obtain ⟨⟨stored, recorded⟩, owner, found, named⟩ := shown
  refine ⟨log, ingests, run, ⟨0, stored, recorded⟩, ⟨owner, found, named⟩, ?_⟩
  rintro ⟨other, still, alice⟩
  rw [found] at still
  cases still
  rw [named] at alice
  exact absurd alice (by decide)

def ownerBackShown (log : List IngestNotice) (ingests : Ingests openPlatform openConfig) : Bool :=
  decide (.stored 0 "0a0b" ∈ log) && decide (.recorded 0 "0a0b" "alice" ∈ log) &&
    decide (.recorded 1 "0a0b" "bob" ∈ log) &&
    (ingests.bucket.publishers.get "0a0b").any fun owner => owner.subject == "alice"

theorem repeatedPush_executed :
    ((ingestMachine openPlatform openConfig).execute (fun _ _ event => noFailureCheck event)
      (ingestedPush 0 "alice" true ++ ingestedPush 1 "bob" false ++ ingestedPush 2 "alice" false) []
      fresh).map (fun ended => ownerBackShown ended.1 ended.2) = some true := by
  decide +kernel

theorem first_owner_traced_repeated :
    ∃ log ingests, (ingestMachine openPlatform openConfig).Run
        (fun _ _ event => NoFailure event) [] fresh log ingests ∧
      FirstOwner log "0a0b" "alice" ∧ .recorded 1 "0a0b" "bob" ∈ log ∧
      TracesTo ingests.bucket "0a0b" "alice" ∧ IngestedLast log "0a0b" "alice" := by
  obtain ⟨log, ingests, run, shown⟩ := Machine.execute_reaches
    (fun _ _ event => noFailure_of_check event) _ ownerBackShown repeatedPush_executed
  simp only [ownerBackShown, Bool.and_eq_true, decide_eq_true_eq, Option.any_eq_true,
    beq_iff_eq] at shown
  obtain ⟨⟨⟨stored, recorded⟩, replaced⟩, owner, found, named⟩ := shown
  have first : FirstOwner log "0a0b" "alice" := ⟨0, stored, recorded⟩
  have traces : TracesTo ingests.bucket "0a0b" "alice" := ⟨owner, found, named⟩
  exact ⟨log, ingests, run, first, replaced, traces, (first_owner_traced_iff run first).1.mp traces⟩

end Ingests

end TdfIrohS3
