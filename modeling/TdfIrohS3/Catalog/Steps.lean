import TdfIrohS3.Catalog.Cluster
import TdfIrohS3.Library.Slots

namespace TdfIrohS3

open Library

namespace Catalogs

variable {platform : CatalogPlatform}

def Early {sub : String} {headers : Headers} : PutPhase platform sub headers → Prop
  | .readingIndex .. | .writing .. => False
  | _ => True

/-- Where the base of an evaluation comes from: no pointer is stored, or one was read before and its
index record is looked for now. -/
inductive Based (catalogs : Catalogs platform) (task : PutTask platform)
    (job : PublishJob platform task.sub) : Option Base → Prop
  | absent (reading : task.phase = .readingPointer job)
      (missing : catalogs.bucket.pointers.get task.sub = none) : Based catalogs task job none
  | present (stored : StoredPointer) (reading : task.phase = .readingIndex job stored) :
      Based catalogs task job (some
        { body := stored.body, seq := stored.seq, hash := stored.hash,
          live := (catalogs.bucket.indexes.get stored.hash).isSome,
          blocked := (catalogs.nodes task.node).isBlocked stored.hash })

structure Found (catalogs : Catalogs platform) (sub : String) (stored : StoredPointer) : Prop where
  body : catalogs.bucket.pointers.get sub = some stored.body
  reads : storedSeq platform.toFormats stored.body = some (stored.seq, stored.hash)

/-- What one step can do. -/
inductive Effect (catalogs : Catalogs platform) :
    CatalogEvent → Catalogs platform → List CatalogNotice → Prop
  | putReceived (node : Nat) (sub : String) (headers : Headers) :
      Effect catalogs (.put node sub headers)
        { catalogs.setPut catalogs.nextId (some { node, sub, headers, phase := .authorizing }) with
          nextId := catalogs.nextId + 1 } []
  | putAdvanced (event : CatalogEvent) (id : Nat) (task : PutTask platform)
      (phase : PutPhase platform task.sub task.headers) (held : catalogs.puts id = some task)
      (early : Early phase) : Effect catalogs event (catalogs.advance id task phase) []
  | pointerFound (id : Nat) (task : PutTask platform) (job : PublishJob platform task.sub)
      (stored : StoredPointer) (held : catalogs.puts id = some task)
      (found : Found catalogs task.sub stored) :
      Effect catalogs (.pointerRead id true)
        (catalogs.advance id task (.readingIndex job stored)) []
  | putRefused (event : CatalogEvent) (id : Nat) (task : PutTask platform) (refusal : Refusal)
      (held : catalogs.puts id = some task) :
      Effect catalogs event (catalogs.setPut id none) [.refused id refusal]
  | admitted (event : CatalogEvent) (id : Nat) (task : PutTask platform)
      (job : PublishJob platform task.sub) (base : Option Base)
      (admitted : Admitted platform task.sub task.headers) (held : catalogs.puts id = some task)
      (based : Based catalogs task job base)
      (accepted : admission platform task.headers job base = .ok admitted) :
      Effect catalogs event (catalogs.advance id task (.writing admitted .document))
        [.evaluated id task.node task.sub base]
  | notAdmitted (event : CatalogEvent) (id : Nat) (task : PutTask platform)
      (job : PublishJob platform task.sub) (base : Option Base) (refusal : Refusal)
      (held : catalogs.puts id = some task) (based : Based catalogs task job base) :
      Effect catalogs event (catalogs.setPut id none)
        [.refused id refusal, .evaluated id task.node task.sub base]
  | wrote (id : Nat) (task : PutTask platform)
      (admitted : Admitted platform task.sub task.headers) (stage : Stage)
      (held : catalogs.puts id = some task) (phase : task.phase = .writing admitted stage)
      (unconditional : stage ≠ .pointer) :
      Effect catalogs (.written id .done)
        ((catalogs.setBucket (admitted.store catalogs.bucket stage)).advance id task
          (.writing admitted stage.next)) []
  | writeLost (id : Nat) (task : PutTask platform)
      (admitted : Admitted platform task.sub task.headers) (stage : Stage)
      (held : catalogs.puts id = some task) (phase : task.phase = .writing admitted stage)
      (unconditional : stage ≠ .pointer) :
      Effect catalogs (.written id .lost)
        ((catalogs.setBucket (admitted.store catalogs.bucket stage)).setPut id none)
        [.refused id storageUnavailable]
  | replaced (id : Nat) (outcome : PointerOutcome) (task : PutTask platform)
      (admitted : Admitted platform task.sub task.headers) (answer : CatalogNotice)
      (held : catalogs.puts id = some task) (phase : task.phase = .writing admitted .pointer)
      (expected : admitted.expects (catalogs.bucket.pointers.get task.sub) = true)
      (answers : answer = .published id task.sub admitted.job.pointer.seq
          admitted.job.pointer.catalogHash admitted.job.pointer.catalogSize ∨
        answer = .refused id storageUnavailable) :
      Effect catalogs (.pointerWritten id outcome)
        ((catalogs.storePointer task.sub admitted.bundleBody).setPut id none)
        [answer, .replaced id task.sub (catalogs.bucket.pointers.get task.sub) admitted.bundleBody]
  | getReceived (node : Nat) (sub : String) (headers : Headers) :
      Effect catalogs (.get node sub headers)
        { catalogs.setGet catalogs.nextId (some { node, sub, headers, phase := .authorizing }) with
          nextId := catalogs.nextId + 1 } []
  | getAuthorized (id : Nat) (answer : Except AuthError VerifiedClaims) (task : GetTask)
      (claims : VerifiedClaims) (held : catalogs.gets id = some task) :
      Effect catalogs (.readerVerified id answer)
        (catalogs.setGet id (some { task with phase := .readingPointer claims })) []
  | getRefused (event : CatalogEvent) (id : Nat) (task : GetTask) (refusal : Refusal)
      (held : catalogs.gets id = some task) :
      Effect catalogs event (catalogs.setGet id none) [.refused id refusal]
  | getFound (id : Nat) (task : GetTask) (claims : VerifiedClaims) (stored : StoredPointer)
      (held : catalogs.gets id = some task) (found : Found catalogs task.sub stored) :
      Effect catalogs (.getPointerRead id true)
        (catalogs.setGet id (some { task with phase := .readingIndex claims stored })) []
  | getCached (id : Nat) (task : GetTask) (claims : VerifiedClaims) (stored : StoredPointer)
      (fqn : String) (held : catalogs.gets id = some task)
      (found : Found catalogs task.sub stored)
      (cached : (catalogs.nodes task.node).attributes.get stored.hash = some fqn) :
      Effect catalogs (.getPointerRead id true)
        (catalogs.attributeKnown id task claims stored fqn).1
        (catalogs.attributeKnown id task claims stored fqn).2
  | getRead (id : Nat) (task : GetTask) (claims : VerifiedClaims) (stored : StoredPointer)
      (fqn : String) (held : catalogs.gets id = some task)
      (phase : task.phase = .readingIndex claims stored)
      (read : resolveAttribute platform.toFormats (catalogs.bucket.indexes.get stored.hash) =
        .ok fqn) :
      Effect catalogs (.getIndexRead id true)
        ((catalogs.setNode task.node
          ((catalogs.nodes task.node).remember stored.hash fqn)).attributeKnown id task claims stored
            fqn).1
        ((catalogs.setNode task.node
          ((catalogs.nodes task.node).remember stored.hash fqn)).attributeKnown id task claims stored
            fqn).2
  | getDecided (id : Nat) (devices : List (Except AuthError VerifiedClaims))
      (decision : Option Decisions) (task : GetTask) (claims : VerifiedClaims)
      (stored : StoredPointer) (fqn : String) (answer : CatalogNotice)
      (held : catalogs.gets id = some task) (phase : task.phase = .deciding claims stored fqn)
      (answers : answer = .served id task.sub stored ∨ ∃ refusal, answer = .refused id refusal) :
      Effect catalogs (.readerDecided id devices decision) (catalogs.setGet id none)
        [answer, .asked id task.sub stored.hash fqn]
  | moderated (node : Nat) (view : Moderation) :
      Effect catalogs (.moderate node view)
        (catalogs.setNode node { catalogs.nodes node with
          publishing := (catalogs.nodes node).publishing.map
            fun p => { p with moderation := view } }) []
  | restarted (node : Nat) (publishing : Option TagPublishing) (readers : Readers) :
      Effect catalogs (.restart node publishing readers)
        (catalogs.setNode node { publishing, readers, attributes := Table.empty }) []
  | dropped (id : Nat) :
      Effect catalogs (.dropped id) ((catalogs.setPut id none).setGet id none) []

section Inversion

variable {catalogs after : Catalogs platform} {notices : List CatalogNotice}

private theorem proceed_effect {α : Type} {event : CatalogEvent} {id : Nat} {task : PutTask platform}
    {answer : Except Refusal α} {phase : α → PutPhase platform task.sub task.headers}
    (held : catalogs.puts id = some task)
    (taken : catalogs.proceed id task answer phase = (after, notices))
    (early : ∀ value, Early (phase value)) :
    Effect catalogs event after notices := by
  unfold proceed at taken
  split at taken
  · cases taken
    exact .putRefused _ id task _ held
  · cases taken
    exact .putAdvanced _ id task _ held (early _)

private theorem evaluate_effect {event : CatalogEvent} {id : Nat} {task : PutTask platform}
    {job : PublishJob platform task.sub} {base : Option Base} (held : catalogs.puts id = some task)
    (based : Based catalogs task job base)
    (taken : catalogs.evaluate id task job base = (after, notices)) :
    Effect catalogs event after notices := by
  unfold evaluate at taken
  split at taken
  · cases taken
    exact .notAdmitted _ id task job base _ held based
  · rename_i admitted accepted
    cases taken
    exact .admitted _ id task job base admitted held based accepted

private theorem writePointer_effect {id : Nat} {outcome : PointerOutcome} {task : PutTask platform}
    {admitted : Admitted platform task.sub task.headers} (held : catalogs.puts id = some task)
    (phase : task.phase = .writing admitted .pointer)
    (taken : catalogs.writePointer id task admitted outcome = (after, notices)) :
    Effect catalogs (.pointerWritten id outcome) after notices := by
  unfold writePointer at taken
  cases outcome with
  | failed =>
      cases taken
      exact .putRefused _ id task _ held
  | conflict =>
      cases taken
      exact .putRefused _ id task _ held
  | lost =>
      simp only at taken
      split at taken
      · rename_i expected
        cases taken
        exact .replaced id _ task admitted _ held phase expected (.inr rfl)
      · cases taken
        exact .putRefused _ id task _ held
  | done =>
      simp only at taken
      split at taken
      · rename_i expected
        cases taken
        exact .replaced id _ task admitted _ held phase expected (.inl rfl)
      · cases taken
        exact .putRefused _ id task _ held

theorem resolvePointer_ok {node : V2State} {sub : String} {stored : StoredPointer}
    (resolved : resolvePointer platform.toFormats node (catalogs.bucket.pointers.get sub) =
      .ok stored) : Found catalogs sub stored := by
  unfold resolvePointer at resolved
  split at resolved
  · cases resolved
  · rename_i body found
    split at resolved
    · cases resolved
    · rename_i seq hash reads
      split at resolved <;> cases resolved
      exact ⟨found, reads⟩

private theorem put_effect {event : CatalogEvent} (taken : catalogs.next event = some (after, notices))
    (about : ∃ id, (∃ answers, event = .authorized id answers) ∨ (∃ body, event = .bodyRead id body) ∨
      (∃ chain, event = .bundleVerified id chain) ∨
      ∃ sizesDown manifestsDown, event = .payloadsLookedUp id sizesDown manifestsDown) :
    Effect catalogs event after notices := by
  obtain ⟨id, ⟨answers, rfl⟩ | ⟨body, rfl⟩ | ⟨chain, rfl⟩ | ⟨sizesDown, manifestsDown, rfl⟩⟩ := about
  all_goals
    simp only [next] at taken
    split at taken
    · rename_i task held
      split at taken
      · exact proceed_effect held (Option.some.inj taken) fun _ => trivial
      · cases taken
    · cases taken

private theorem status_effect {id : Nat} {answer : Except StatusRefusal Unit}
    (taken : catalogs.next (.statusChecked id answer) = some (after, notices)) :
    Effect catalogs (.statusChecked id answer) after notices := by
  simp only [next] at taken
  split at taken
  · rename_i task held
    split at taken
    · rename_i job _
      split at taken
      · cases taken
        exact .putAdvanced _ id task (.readingPointer job) held trivial
      · cases taken
        exact .putRefused _ id task _ held
      · cases taken
        exact .putRefused _ id task _ held
    · cases taken
  · cases taken

private theorem pointerRead_effect {id : Nat} {read : Bool}
    (taken : catalogs.next (.pointerRead id read) = some (after, notices)) :
    Effect catalogs (.pointerRead id read) after notices := by
  simp only [next] at taken
  split at taken
  · rename_i task held
    split at taken
    · rename_i job phase
      split at taken
      · rename_i succeeded
        subst succeeded
        split at taken
        · rename_i missing
          exact evaluate_effect held (.absent phase missing) (Option.some.inj taken)
        · rename_i body found
          split at taken
          · cases taken
            exact .putRefused _ id task _ held
          · rename_i seq hash reads
            cases taken
            exact .pointerFound id task job ⟨body, seq, hash⟩ held ⟨found, reads⟩
      · cases taken
        exact .putRefused _ id task _ held
    · cases taken
  · cases taken

private theorem indexRead_effect {id : Nat} {read : Bool}
    (taken : catalogs.next (.indexRead id read) = some (after, notices)) :
    Effect catalogs (.indexRead id read) after notices := by
  simp only [next] at taken
  split at taken
  · rename_i task held
    split at taken
    · rename_i job stored phase
      split at taken
      · exact evaluate_effect held (.present stored phase) (Option.some.inj taken)
      · cases taken
        exact .putRefused _ id task _ held
    · cases taken
  · cases taken

private theorem written_effect {id : Nat} {outcome : Outcome}
    (taken : catalogs.next (.written id outcome) = some (after, notices)) :
    Effect catalogs (.written id outcome) after notices := by
  simp only [next] at taken
  split at taken
  · rename_i task held
    split at taken
    · rename_i admitted stage phase
      split at taken
      · cases taken
      · rename_i unconditional
        cases outcome with
        | done =>
            cases taken
            exact .wrote id task admitted stage held phase unconditional
        | failed =>
            cases taken
            exact .putRefused _ id task _ held
        | lost =>
            cases taken
            exact .writeLost id task admitted stage held phase unconditional
    · cases taken
  · cases taken

private theorem get_effect {event : CatalogEvent} (taken : catalogs.next event = some (after, notices))
    (about : ∃ id, (∃ answer, event = .readerVerified id answer) ∨
      (∃ read, event = .getPointerRead id read) ∨ (∃ read, event = .getIndexRead id read) ∨
      ∃ devices decision, event = .readerDecided id devices decision) :
    Effect catalogs event after notices := by
  obtain ⟨id, ⟨answer, rfl⟩ | ⟨read, rfl⟩ | ⟨read, rfl⟩ | ⟨devices, decision, rfl⟩⟩ := about
  all_goals
    simp only [next] at taken
    split at taken
    on_goal 2 => cases taken
    rename_i task held
    split at taken
    on_goal 2 => cases taken
  · split at taken
    · cases taken
      exact .getRefused _ id task _ held
    · cases taken
      exact .getAuthorized id answer task _ held
  · rename_i claims _
    split at taken
    · rename_i succeeded
      subst succeeded
      split at taken
      · cases taken
        exact .getRefused _ id task _ held
      · rename_i stored resolved
        split at taken
        · rename_i fqn cached
          obtain ⟨rfl, rfl⟩ := Prod.ext_iff.mp (Option.some.inj taken)
          exact .getCached id task claims stored fqn held (resolvePointer_ok resolved) cached
        · cases taken
          exact .getFound id task claims stored held (resolvePointer_ok resolved)
    · cases taken
      exact .getRefused _ id task _ held
  · rename_i claims stored phase
    split at taken
    · rename_i succeeded
      subst succeeded
      split at taken
      · cases taken
        exact .getRefused _ id task _ held
      · rename_i fqn resolved
        obtain ⟨rfl, rfl⟩ := Prod.ext_iff.mp (Option.some.inj taken)
        exact .getRead id task claims stored fqn held phase resolved
    · cases taken
      exact .getRefused _ id task _ held
  · rename_i claims stored fqn phase
    split at taken
    · cases taken
      exact .getRefused _ id task _ held
    · split at taken
      · cases taken
        exact .getDecided id devices decision task claims stored fqn _ held phase (.inr ⟨_, rfl⟩)
      · cases taken
        exact .getDecided id devices decision task claims stored fqn _ held phase (.inl rfl)

theorem machine_effect {event : CatalogEvent}
    (taken : (catalogMachine platform).next catalogs event = some (after, notices)) :
    Effect catalogs event after notices := by
  change catalogs.next event = some (after, notices) at taken
  cases event with
  | put node sub headers => cases taken; exact .putReceived ..
  | authorized id answers => exact put_effect taken ⟨id, .inl ⟨_, rfl⟩⟩
  | bodyRead id body => exact put_effect taken ⟨id, .inr (.inl ⟨_, rfl⟩)⟩
  | bundleVerified id chain => exact put_effect taken ⟨id, .inr (.inr (.inl ⟨_, rfl⟩))⟩
  | payloadsLookedUp id sizesDown manifestsDown =>
      exact put_effect taken ⟨id, .inr (.inr (.inr ⟨_, _, rfl⟩))⟩
  | statusChecked id answer => exact status_effect taken
  | pointerRead id read => exact pointerRead_effect taken
  | indexRead id read => exact indexRead_effect taken
  | written id outcome => exact written_effect taken
  | pointerWritten id outcome =>
      simp only [next] at taken
      split at taken
      · rename_i task held
        split at taken
        · rename_i admitted phase
          exact writePointer_effect held phase (Option.some.inj taken)
        · cases taken
      · cases taken
  | get node sub headers => cases taken; exact .getReceived ..
  | readerVerified id answer => exact get_effect taken ⟨id, .inl ⟨_, rfl⟩⟩
  | getPointerRead id read => exact get_effect taken ⟨id, .inr (.inl ⟨_, rfl⟩)⟩
  | getIndexRead id read => exact get_effect taken ⟨id, .inr (.inr (.inl ⟨_, rfl⟩))⟩
  | readerDecided id devices decision =>
      exact get_effect taken ⟨id, .inr (.inr (.inr ⟨_, _, rfl⟩))⟩
  | moderate node view => cases taken; exact .moderated node view
  | restart node publishing readers => cases taken; exact .restarted node publishing readers
  | dropped id => cases taken; exact .dropped id

end Inversion

section Parts

variable {catalogs after : Catalogs platform} {event : CatalogEvent} {notices : List CatalogNotice}

theorem setPut_puts (catalogs : Catalogs platform) (id other : Nat) (task : Option (PutTask platform)) :
    (catalogs.setPut id task).puts other = if other = id then task else catalogs.puts other := by
  simp [setPut, Function.update_apply]

theorem setNode_nodes (catalogs : Catalogs platform) (node other : Nat) (state : V2State) :
    (catalogs.setNode node state).nodes other =
      if other = node then state else catalogs.nodes other := by
  simp [setNode, Function.update_apply]

section AttributeKnown

variable (catalogs) (id : Nat) (task : GetTask) (claims : VerifiedClaims) (stored : StoredPointer)
variable (fqn : String)

@[simp] theorem attributeKnown_bucket :
    (catalogs.attributeKnown id task claims stored fqn).1.bucket = catalogs.bucket := by
  unfold attributeKnown
  split <;> rfl

@[simp] theorem attributeKnown_puts :
    (catalogs.attributeKnown id task claims stored fqn).1.puts = catalogs.puts := by
  unfold attributeKnown
  split <;> rfl

@[simp] theorem attributeKnown_nodes :
    (catalogs.attributeKnown id task claims stored fqn).1.nodes = catalogs.nodes := by
  unfold attributeKnown
  split <;> rfl

@[simp] theorem attributeKnown_nextId :
    (catalogs.attributeKnown id task claims stored fqn).1.nextId = catalogs.nextId := by
  unfold attributeKnown
  split <;> rfl

theorem attributeKnown_gets {other : Nat} {held : GetTask}
    (inFlight : (catalogs.attributeKnown id task claims stored fqn).1.gets other = some held) :
    catalogs.gets other = some held ∨
      other = id ∧ held = { task with phase := .deciding claims stored fqn } := by
  unfold attributeKnown at inFlight
  split at inFlight
  · exact .inl (held_of_clear inFlight)
  · exact (held_of_fill inFlight).symm

theorem attributeKnown_notice {notice : CatalogNotice}
    (seen : notice ∈ (catalogs.attributeKnown id task claims stored fqn).2) :
    notice = .served id task.sub stored := by
  unfold attributeKnown at seen
  split at seen
  · exact List.mem_singleton.mp seen
  · cases seen

end AttributeKnown

inductive BucketMove (catalogs after : Catalogs platform) (event : CatalogEvent)
    (notices : List CatalogNotice) : Prop
  | kept (same : after.bucket = catalogs.bucket)
      (quiet : ∀ id sub old new, .replaced id sub old new ∉ notices)
  | wrote (id : Nat) (task : PutTask platform)
      (admitted : Admitted platform task.sub task.headers) (stage : Stage)
      (held : catalogs.puts id = some task) (phase : task.phase = .writing admitted stage)
      (unconditional : stage ≠ .pointer) (about : ∃ outcome, event = .written id outcome)
      (bucket : after.bucket = admitted.store catalogs.bucket stage)
      (quiet : ∀ id sub old new, .replaced id sub old new ∉ notices)
  | replaced (id : Nat) (task : PutTask platform)
      (admitted : Admitted platform task.sub task.headers)
      (held : catalogs.puts id = some task) (phase : task.phase = .writing admitted .pointer)
      (about : ∃ outcome, event = .pointerWritten id outcome)
      (expected : admitted.expects (catalogs.bucket.pointers.get task.sub) = true)
      (bucket : after.bucket =
        { catalogs.bucket with
          pointers := catalogs.bucket.pointers.insert task.sub admitted.bundleBody })
      (noticed : .replaced id task.sub (catalogs.bucket.pointers.get task.sub) admitted.bundleBody ∈
        notices)

theorem effect_bucket (effect : Effect catalogs event after notices) :
    BucketMove catalogs after event notices := by
  cases effect with
  | wrote id task admitted stage held phase unconditional =>
      exact .wrote id task admitted stage held phase unconditional ⟨_, rfl⟩ rfl (by simp)
  | writeLost id task admitted stage held phase unconditional =>
      exact .wrote id task admitted stage held phase unconditional ⟨_, rfl⟩ rfl (by simp)
  | replaced id outcome task admitted answer held phase expected answers =>
      exact .replaced id task admitted held phase ⟨_, rfl⟩ expected rfl (by simp)
  | getCached id task claims stored fqn held found cached =>
      refine .kept (attributeKnown_bucket ..) fun _ _ _ _ seen => ?_
      cases attributeKnown_notice _ _ _ _ _ _ seen
  | getRead id task claims stored fqn held phase read =>
      refine .kept (attributeKnown_bucket ..) fun _ _ _ _ seen => ?_
      cases attributeKnown_notice _ _ _ _ _ _ seen
  | getDecided id devices decision task claims stored fqn answer held phase answers =>
      refine .kept rfl fun _ _ _ _ seen => ?_
      rcases answers with rfl | ⟨refusal, rfl⟩ <;> simp at seen
  | _ => exact .kept rfl (by simp)

inductive PutCame (catalogs after : Catalogs platform) (notices : List CatalogNotice) (id : Nat) :
    PutTask platform → Prop
  | kept {task : PutTask platform} (held : catalogs.puts id = some task) :
      PutCame catalogs after notices id task
  | arrived {task : PutTask platform} (fresh : id = catalogs.nextId)
      (counted : after.nextId = catalogs.nextId + 1) (alone : after.gets = catalogs.gets)
      (early : Early task.phase) :
      PutCame catalogs after notices id task
  | advanced {task : PutTask platform} (phase : PutPhase platform task.sub task.headers)
      (held : catalogs.puts id = some { task with phase := phase }) (early : Early task.phase) :
      PutCame catalogs after notices id task
  | found {old : PutTask platform} {job : PublishJob platform old.sub} {stored : StoredPointer}
      (held : catalogs.puts id = some old) (found : Found catalogs old.sub stored) :
      PutCame catalogs after notices id { old with phase := .readingIndex job stored }
  | admitted {old : PutTask platform} {job : PublishJob platform old.sub} {base : Option Base}
      {admitted : Admitted platform old.sub old.headers} (held : catalogs.puts id = some old)
      (based : Based catalogs old job base)
      (accepted : admission platform old.headers job base = .ok admitted)
      (noticed : notices = [.evaluated id old.node old.sub base]) :
      PutCame catalogs after notices id { old with phase := .writing admitted .document }
  | wrote {old : PutTask platform} {admitted : Admitted platform old.sub old.headers}
      {stage : Stage} (held : catalogs.puts id = some old)
      (phase : old.phase = .writing admitted stage) (unconditional : stage ≠ .pointer)
      (bucket : after.bucket = admitted.store catalogs.bucket stage) :
      PutCame catalogs after notices id { old with phase := .writing admitted stage.next }

theorem effect_puts (effect : Effect catalogs event after notices) {id : Nat}
    {task : PutTask platform} (inFlight : after.puts id = some task) :
    PutCame catalogs after notices id task := by
  cases effect with
  | putReceived node sub headers =>
      change (catalogs.setPut catalogs.nextId _).puts id = some task at inFlight
      rcases held_of_fill inFlight with ⟨fresh, rfl⟩ | inFlight
      · exact .arrived fresh rfl rfl trivial
      · exact .kept inFlight
  | putAdvanced _ other old phase held early =>
      rw [advance, setPut_puts] at inFlight
      split at inFlight
      · rename_i same
        cases inFlight
        exact .advanced old.phase (same ▸ held) early
      · exact .kept inFlight
  | pointerFound other old job stored held found =>
      rw [advance, setPut_puts] at inFlight
      split at inFlight
      · rename_i same
        cases inFlight
        exact .found (same ▸ held) found
      · exact .kept inFlight
  | admitted _ other old job base admitted held based accepted =>
      rw [advance, setPut_puts] at inFlight
      split at inFlight
      · rename_i same
        cases inFlight
        exact .admitted (same ▸ held) based accepted (by rw [same])
      · exact .kept inFlight
  | wrote other old admitted stage held phase unconditional =>
      rw [advance, setPut_puts] at inFlight
      split at inFlight
      · rename_i same
        cases inFlight
        exact .wrote (same ▸ held) phase unconditional rfl
      · exact .kept inFlight
  | writeLost other old admitted stage held phase unconditional =>
      exact .kept (held_of_clear inFlight)
  | replaced other outcome old admitted answer held phase expected answers =>
      exact .kept (held_of_clear inFlight)
  | putRefused _ other | notAdmitted _ other =>
      exact .kept (held_of_clear inFlight)
  | dropped other =>
      change (catalogs.setPut other none).puts id = some task at inFlight
      exact .kept (held_of_clear inFlight)
  | getCached => rw [attributeKnown_puts] at inFlight; exact .kept inFlight
  | getRead => rw [attributeKnown_puts] at inFlight; exact .kept inFlight
  | _ => exact .kept inFlight

theorem PutCame.id {id : Nat} {task : PutTask platform} (came : PutCame catalogs after notices id task) :
    (∃ old, catalogs.puts id = some old) ∨
      id = catalogs.nextId ∧ after.nextId = catalogs.nextId + 1 ∧ after.gets = catalogs.gets := by
  cases came with
  | arrived fresh counted alone early => exact .inr ⟨fresh, counted, alone⟩
  | kept held => exact .inl ⟨_, held⟩
  | advanced _ held => exact .inl ⟨_, held⟩
  | found held => exact .inl ⟨_, held⟩
  | admitted held => exact .inl ⟨_, held⟩
  | wrote held => exact .inl ⟨_, held⟩

theorem effect_readingIndex (effect : Effect catalogs event after notices) {id : Nat}
    {task : PutTask platform} {job : PublishJob platform task.sub} {stored : StoredPointer}
    (inFlight : after.puts id = some task) (reading : task.phase = .readingIndex job stored) :
    catalogs.puts id = some task ∨ Found catalogs task.sub stored := by
  cases effect_puts effect inFlight with
  | kept held => exact .inl held
  | arrived _ _ _ early | advanced _ _ early =>
      rw [reading] at early
      exact early.elim
  | found held found =>
      cases reading
      exact .inr found
  | admitted => cases reading
  | wrote => cases reading

inductive WritingCame (catalogs after : Catalogs platform) (notices : List CatalogNotice) (id : Nat)
    (task : PutTask platform) (admitted : Admitted platform task.sub task.headers) : Stage → Prop
  | kept {stage : Stage} (held : catalogs.puts id = some task)
      (writing : task.phase = .writing admitted stage) :
      WritingCame catalogs after notices id task admitted stage
  | admitted (phase : PutPhase platform task.sub task.headers)
      (held : catalogs.puts id = some { task with phase := phase })
      (based : Based catalogs { task with phase := phase } admitted.job admitted.base)
      (noticed : notices = [.evaluated id task.node task.sub admitted.base]) :
      WritingCame catalogs after notices id task admitted .document
  | wrote {stage : Stage}
      (held : catalogs.puts id = some { task with phase := .writing admitted stage })
      (unconditional : stage ≠ .pointer)
      (bucket : after.bucket = admitted.store catalogs.bucket stage) :
      WritingCame catalogs after notices id task admitted stage.next

theorem effect_writing (effect : Effect catalogs event after notices) {id : Nat}
    {task : PutTask platform} {admitted : Admitted platform task.sub task.headers} {stage : Stage}
    (inFlight : after.puts id = some task) (writing : task.phase = .writing admitted stage) :
    WritingCame catalogs after notices id task admitted stage := by
  cases effect_puts effect inFlight with
  | kept held => exact .kept held writing
  | arrived _ _ _ early | advanced _ _ early =>
      rw [writing] at early
      exact early.elim
  | found => cases writing
  | @admitted old job base _ held based accepted noticed =>
      cases writing
      obtain ⟨rfl, rfl⟩ := admission_ok accepted
      exact .admitted old.phase held based noticed
  | @wrote old _ _ held phase unconditional bucket =>
      cases writing
      refine .wrote ?_ unconditional bucket
      rw [held, ← phase]

def GetPhase.stored : GetPhase → Option StoredPointer
  | .authorizing | .readingPointer _ => none
  | .readingIndex _ stored | .deciding _ stored _ => some stored

inductive GetCame (catalogs : Catalogs platform) (event : CatalogEvent) (after : Catalogs platform)
    (id : Nat) : GetTask → Prop
  | kept {task : GetTask} (held : catalogs.gets id = some task) :
      GetCame catalogs event after id task
  | arrived {task : GetTask} (fresh : id = catalogs.nextId)
      (counted : after.nextId = catalogs.nextId + 1) (blank : GetPhase.stored task.phase = none) :
      GetCame catalogs event after id task
  | authorized {old : GetTask} {claims : VerifiedClaims} (held : catalogs.gets id = some old) :
      GetCame catalogs event after id { old with phase := .readingPointer claims }
  | found {old : GetTask} {claims : VerifiedClaims} {stored : StoredPointer}
      (held : catalogs.gets id = some old) (found : Found catalogs old.sub stored)
      (about : event = .getPointerRead id true) :
      GetCame catalogs event after id { old with phase := .readingIndex claims stored }
  | cached {old : GetTask} {claims : VerifiedClaims} {stored : StoredPointer} {fqn : String}
      (held : catalogs.gets id = some old) (found : Found catalogs old.sub stored)
      (cached : (catalogs.nodes old.node).attributes.get stored.hash = some fqn)
      (about : event = .getPointerRead id true) :
      GetCame catalogs event after id { old with phase := .deciding claims stored fqn }
  | read {old : GetTask} {claims : VerifiedClaims} {stored : StoredPointer} {fqn : String}
      (held : catalogs.gets id = some old) (phase : old.phase = .readingIndex claims stored)
      (read : resolveAttribute platform.toFormats (catalogs.bucket.indexes.get stored.hash) =
        .ok fqn) : GetCame catalogs event after id { old with phase := .deciding claims stored fqn }

theorem effect_gets (effect : Effect catalogs event after notices) {id : Nat} {task : GetTask}
    (inFlight : after.gets id = some task) : GetCame catalogs event after id task := by
  cases effect with
  | getReceived node sub headers =>
      change (catalogs.setGet catalogs.nextId _).gets id = some task at inFlight
      rcases held_of_fill inFlight with ⟨fresh, rfl⟩ | inFlight
      · exact .arrived fresh rfl rfl
      · exact .kept inFlight
  | getAuthorized other answer old claims held =>
      rcases held_of_fill inFlight with ⟨same, rfl⟩ | inFlight
      · exact .authorized (same ▸ held)
      · exact .kept inFlight
  | getFound other old claims stored held found =>
      rcases held_of_fill inFlight with ⟨same, rfl⟩ | inFlight
      · exact .found (same ▸ held) found (same ▸ rfl)
      · exact .kept inFlight
  | getCached other old claims stored fqn held found cached =>
      rcases attributeKnown_gets _ _ _ _ _ _ inFlight with kept | ⟨rfl, rfl⟩
      · exact .kept kept
      · exact .cached held found cached rfl
  | getRead other old claims stored fqn held phase read =>
      rcases attributeKnown_gets _ _ _ _ _ _ inFlight with kept | ⟨rfl, rfl⟩
      · exact .kept kept
      · exact .read held phase read
  | getRefused _ other =>
      exact .kept (held_of_clear inFlight)
  | getDecided other =>
      exact .kept (held_of_clear inFlight)
  | dropped other =>
      exact .kept (held_of_clear inFlight)
  | _ => exact .kept inFlight

theorem GetCame.stored {id : Nat} {task : GetTask} {stored : StoredPointer}
    (came : GetCame catalogs event after id task)
    (held : GetPhase.stored task.phase = some stored) :
    (∃ old, catalogs.gets id = some old ∧ old.sub = task.sub ∧
      (GetPhase.stored old.phase = some stored ∨
        Found catalogs task.sub stored ∧ event = .getPointerRead id true)) := by
  cases came with
  | kept inFlight => exact ⟨task, inFlight, rfl, .inl held⟩
  | arrived fresh counted blank => rw [blank] at held; cases held
  | authorized inFlight => cases held
  | found inFlight found about => cases held; exact ⟨_, inFlight, rfl, .inr ⟨found, about⟩⟩
  | cached inFlight found cached about => cases held; exact ⟨_, inFlight, rfl, .inr ⟨found, about⟩⟩
  | read inFlight phase read =>
      cases held
      exact ⟨_, inFlight, rfl, .inl (by rw [phase]; rfl)⟩

theorem GetCame.id {id : Nat} {task : GetTask} (came : GetCame catalogs event after id task) :
    (∃ old, catalogs.gets id = some old) ∨
      id = catalogs.nextId ∧ after.nextId = catalogs.nextId + 1 := by
  cases came with
  | arrived fresh counted blank => exact .inr ⟨fresh, counted⟩
  | kept held => exact .inl ⟨_, held⟩
  | authorized held => exact .inl ⟨_, held⟩
  | found held => exact .inl ⟨_, held⟩
  | cached held => exact .inl ⟨_, held⟩
  | read held => exact .inl ⟨_, held⟩

theorem get_remember {node : V2State} {hash fqn other known : String}
    (found : (node.remember hash fqn).attributes.get other = some known) :
    node.attributes.get other = some known ∨ other = hash ∧ known = fqn := by
  unfold V2State.remember at found
  simp only at found
  rw [Table.get_insert] at found
  split at found
  · rename_i same
    exact .inr ⟨same, (Option.some.inj found).symm⟩
  · split at found
    · cases found
    · exact .inl found

theorem effect_attributes (effect : Effect catalogs event after notices) {node : Nat}
    {hash fqn : String} (known : (after.nodes node).attributes.get hash = some fqn) :
    (catalogs.nodes node).attributes.get hash = some fqn ∨
      resolveAttribute platform.toFormats (catalogs.bucket.indexes.get hash) = .ok fqn := by
  cases effect with
  | getCached => rw [attributeKnown_nodes] at known; exact .inl known
  | getRead id task claims stored found held phase read =>
      rw [attributeKnown_nodes, setNode_nodes] at known
      split at known
      · rename_i same
        rcases get_remember known with kept | ⟨rfl, rfl⟩
        · exact .inl (same ▸ kept)
        · exact .inr read
      · exact .inl known
  | moderated other view =>
      rw [setNode_nodes] at known
      split at known
      · rename_i same
        exact .inl (same ▸ known)
      · exact .inl known
  | restarted other publishing readers =>
      rw [setNode_nodes] at known
      split at known
      · cases known
      · exact .inl known
  | _ => exact .inl known

/-- What is behind a notice of a step. A refused request was in flight; if its step stored a pointer,
the store's answer was lost. -/
inductive NoticeCame (catalogs after : Catalogs platform) (notices : List CatalogNotice) :
    CatalogNotice → Prop
  | evaluated {id : Nat} {base : Option Base} (task : PutTask platform)
      (job : PublishJob platform task.sub) (held : catalogs.puts id = some task)
      (based : Based catalogs task job base) :
      NoticeCame catalogs after notices (.evaluated id task.node task.sub base)
  | published {id : Nat} (task : PutTask platform)
      (admitted : Admitted platform task.sub task.headers) (held : catalogs.puts id = some task)
      (phase : task.phase = .writing admitted .pointer)
      (expected : admitted.expects (catalogs.bucket.pointers.get task.sub) = true) :
      NoticeCame catalogs after notices (.published id task.sub admitted.job.pointer.seq
        admitted.job.pointer.catalogHash admitted.job.pointer.catalogSize)
  | replaced {id : Nat} (task : PutTask platform)
      (admitted : Admitted platform task.sub task.headers) (held : catalogs.puts id = some task)
      (gone : after.puts id = none) (gets : after.gets = catalogs.gets)
      (counter : after.nextId = catalogs.nextId) :
      NoticeCame catalogs after notices (.replaced id task.sub
        (catalogs.bucket.pointers.get task.sub) admitted.bundleBody)
  | served {id : Nat} {stored : StoredPointer} (task : GetTask)
      (held : catalogs.gets id = some task)
      (read : Found catalogs task.sub stored ∨ GetPhase.stored task.phase = some stored) :
      NoticeCame catalogs after notices (.served id task.sub stored)
  | asked {id : Nat} {fqn : String} (task : GetTask) (claims : VerifiedClaims)
      (stored : StoredPointer) (held : catalogs.gets id = some task)
      (phase : task.phase = .deciding claims stored fqn) :
      NoticeCame catalogs after notices (.asked id task.sub stored.hash fqn)
  | refused {id : Nat} {refusal : Refusal}
      (running : (catalogs.puts id).isSome = true ∨ (catalogs.gets id).isSome = true)
      (lost : ∀ other sub old new, .replaced other sub old new ∈ notices →
        refusal = storageUnavailable) :
      NoticeCame catalogs after notices (.refused id refusal)

theorem effect_notice (effect : Effect catalogs event after notices) {notice : CatalogNotice}
    (seen : notice ∈ notices) : NoticeCame catalogs after notices notice := by
  cases effect with
  | putRefused _ id task refusal held =>
      cases List.mem_singleton.mp seen
      exact .refused (.inl (Option.isSome_of_eq_some held)) (by simp)
  | admitted _ id task job base admitted held based accepted =>
      cases List.mem_singleton.mp seen
      exact .evaluated task job held based
  | notAdmitted _ id task job base refusal held based =>
      rcases List.mem_pair.mp seen with rfl | rfl
      · exact .refused (.inl (Option.isSome_of_eq_some held)) (by simp)
      · exact .evaluated task job held based
  | writeLost id task admitted stage held phase unconditional =>
      cases List.mem_singleton.mp seen
      exact .refused (.inl (Option.isSome_of_eq_some held)) (by simp)
  | replaced id outcome task admitted answer held phase expected answers =>
      rcases List.mem_pair.mp seen with rfl | rfl
      · rcases answers with rfl | rfl
        · exact .published task admitted held phase expected
        · exact .refused (.inl (Option.isSome_of_eq_some held)) fun _ _ _ _ _ => rfl
      · exact .replaced task admitted held (by rw [setPut_puts, if_pos rfl]) rfl rfl
  | getRefused _ id task refusal held =>
      cases List.mem_singleton.mp seen
      exact .refused (.inr (Option.isSome_of_eq_some held)) (by simp)
  | getCached id task claims stored fqn held found cached =>
      cases attributeKnown_notice _ _ _ _ _ _ seen
      exact .served task held (.inl found)
  | getRead id task claims stored fqn held phase read =>
      cases attributeKnown_notice _ _ _ _ _ _ seen
      exact .served task held (.inr (by rw [phase]; rfl))
  | getDecided id devices decision task claims stored fqn answer held phase answers =>
      rcases List.mem_pair.mp seen with rfl | rfl
      · rcases answers with rfl | ⟨refusal, rfl⟩
        · exact .served task held (.inr (by rw [phase]; rfl))
        · exact .refused (.inr (Option.isSome_of_eq_some held)) (by simp)
      · exact .asked task claims stored held phase
  | _ => cases seen

theorem nextId_le (effect : Effect catalogs event after notices) :
    catalogs.nextId ≤ after.nextId := by
  cases effect with
  | getCached => rw [attributeKnown_nextId]
  | getRead => rw [attributeKnown_nextId]; rfl
  | putReceived => exact Nat.le_succ _
  | getReceived => exact Nat.le_succ _
  | _ => exact Nat.le_refl _

end Parts

end Catalogs

end TdfIrohS3
