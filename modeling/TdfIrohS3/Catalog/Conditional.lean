import TdfIrohS3.Catalog.Monotone

namespace TdfIrohS3

open Library

namespace Catalogs

variable {platform : CatalogPlatform}

section Steps

variable {catalogs after : Catalogs platform} {event : CatalogEvent}
variable {log notices : List CatalogNotice}

/-- Every base in flight was read as it stands, and its evaluation is on record; a request that stored
a pointer is over. -/
structure Accounted (log : List CatalogNotice) (catalogs : Catalogs platform) : Prop where
  reading : ∀ id task job stored, catalogs.puts id = some task →
    task.phase = .readingIndex job stored →
    storedSeq platform.toFormats stored.body = some (stored.seq, stored.hash)
  based : ∀ id task admitted stage, catalogs.puts id = some task →
    task.phase = .writing admitted stage →
    .evaluated id task.node task.sub admitted.base ∈ log ∧
      ∀ b, admitted.base = some b →
        storedSeq platform.toFormats b.body = some (b.seq, b.hash)
  putIds : ∀ id task, catalogs.puts id = some task → id < catalogs.nextId
  getIds : ∀ id task, catalogs.gets id = some task → id < catalogs.nextId
  apart : ∀ id task, catalogs.puts id = some task → catalogs.gets id = none
  ended : ∀ id sub old new, .replaced id sub old new ∈ log →
    id < catalogs.nextId ∧ catalogs.puts id = none ∧ catalogs.gets id = none

theorem Accounted.reading_step (accounted : Accounted log catalogs)
    (effect : Effect catalogs event after notices) (id : Nat) (task : PutTask platform)
    (job : PublishJob platform task.sub) (stored : StoredPointer)
    (inFlight : after.puts id = some task) (reading : task.phase = .readingIndex job stored) :
    storedSeq platform.toFormats stored.body = some (stored.seq, stored.hash) := by
  rcases effect_readingIndex effect inFlight reading with held | found
  · exact accounted.reading id task job stored held reading
  · exact found.reads

theorem Accounted.based_step (accounted : Accounted log catalogs)
    (effect : Effect catalogs event after notices) (id : Nat) (task : PutTask platform)
    (admitted : Admitted platform task.sub task.headers) (stage : Stage)
    (inFlight : after.puts id = some task) (writing : task.phase = .writing admitted stage) :
    .evaluated id task.node task.sub admitted.base ∈ notices ++ log ∧
      ∀ b, admitted.base = some b →
        storedSeq platform.toFormats b.body = some (b.seq, b.hash) := by
  cases effect_writing effect inFlight writing with
  | kept held =>
      have facts := accounted.based id task admitted stage held writing
      exact ⟨List.mem_append_right _ facts.1, facts.2⟩
  | admitted phase held based noticed =>
      rw [noticed]
      refine ⟨List.mem_append_left _ (List.mem_singleton.mpr rfl), ?_⟩
      intro b base
      rw [base] at based
      cases based with
      | present stored reading => exact accounted.reading id _ _ stored held reading
  | wrote held =>
      have facts := accounted.based id _ _ _ held rfl
      exact ⟨List.mem_append_right _ facts.1, facts.2⟩

theorem Accounted.ended_step (accounted : Accounted log catalogs)
    (effect : Effect catalogs event after notices) (id : Nat) (sub : String)
    (old : Option (List UInt8)) (new : List UInt8)
    (seen : .replaced id sub old new ∈ notices ++ log) :
    id < after.nextId ∧ after.puts id = none ∧ after.gets id = none := by
  rcases List.mem_append.mp seen with here | there
  · cases effect_notice effect here with
    | replaced task admitted held gone gets counter =>
        have below := accounted.putIds id task held
        exact ⟨counter ▸ below, gone, gets ▸ accounted.apart id task held⟩
  · obtain ⟨below, noPut, noGet⟩ := accounted.ended id sub old new there
    refine ⟨Nat.lt_of_lt_of_le below (nextId_le effect), ?_, ?_⟩
    · by_contra some
      obtain ⟨task, inFlight⟩ := Option.ne_none_iff_exists'.mp some
      rcases (effect_puts effect inFlight).id with ⟨old, held⟩ | ⟨fresh, -, -⟩
      · rw [noPut] at held
        cases held
      · omega
    · by_contra some
      obtain ⟨task, inFlight⟩ := Option.ne_none_iff_exists'.mp some
      rcases (effect_gets effect inFlight).id with ⟨old, held⟩ | ⟨fresh, -⟩
      · rw [noGet] at held
        cases held
      · omega

theorem accounted_step (accounted : Accounted log catalogs)
    (effect : Effect catalogs event after notices) : Accounted (notices ++ log) after where
  reading := accounted.reading_step effect
  based := accounted.based_step effect
  putIds := by
    intro id task inFlight
    have grows := nextId_le effect
    rcases (effect_puts effect inFlight).id with ⟨old, held⟩ | ⟨fresh, counted, -⟩
    · have below := accounted.putIds id old held
      omega
    · omega
  getIds := by
    intro id task inFlight
    have grows := nextId_le effect
    rcases (effect_gets effect inFlight).id with ⟨old, held⟩ | ⟨fresh, counted⟩
    · have below := accounted.getIds id old held
      omega
    · omega
  apart := by
    intro id task inFlight
    by_contra some
    obtain ⟨read, reading⟩ := Option.ne_none_iff_exists'.mp some
    rcases (effect_puts effect inFlight).id with ⟨old, held⟩ | ⟨fresh, -, gets⟩
    · rcases (effect_gets effect reading).id with ⟨older, was⟩ | ⟨fresh, -⟩
      · rw [accounted.apart id old held] at was
        cases was
      · have below := accounted.putIds id old held
        omega
    · rw [gets] at reading
      have below := accounted.getIds id read reading
      omega
  ended := accounted.ended_step effect

theorem accounted_of_idle (idle : Idle catalogs) : Accounted [] catalogs where
  reading := fun id _ _ _ inFlight => by rw [idle.puts id] at inFlight; cases inFlight
  based := fun id _ _ _ inFlight => by rw [idle.puts id] at inFlight; cases inFlight
  putIds := fun id _ inFlight => by rw [idle.puts id] at inFlight; cases inFlight
  getIds := fun id _ inFlight => by rw [idle.gets id] at inFlight; cases inFlight
  apart := fun id _ _ => idle.gets id
  ended := fun _ _ _ _ seen => by cases seen

theorem run_accounted {start : Catalogs platform} (idle : Idle start)
    (run : (catalogMachine platform).Run (fun _ _ _ => True) [] start log catalogs) :
    Accounted log catalogs := by
  apply run.invariant Accounted (accounted_of_idle idle)
  intro log state input next notices accounted _ moved
  exact accounted_step accounted (machine_effect moved)

theorem refused_never_replaced (accounted : Accounted log catalogs)
    (effect : Effect catalogs event after notices) {id : Nat} {refusal : Refusal}
    (refused : .refused id refusal ∈ notices) (answered : refusal ≠ storageUnavailable) :
    after.bucket.pointers = catalogs.bucket.pointers ∧
      ∀ sub old new, .replaced id sub old new ∉ notices ++ log := by
  cases effect_notice effect refused with
  | refused running lost =>
      have unstored : ∀ other sub old new, .replaced other sub old new ∉ notices :=
        fun other sub old new seen => answered (lost other sub old new seen)
      have same : after.bucket.pointers = catalogs.bucket.pointers := by
        cases effect_bucket effect with
        | kept same quiet => rw [same]
        | wrote id task admitted stage held phase unconditional about bucket quiet =>
            rw [bucket, store_pointers]
        | replaced id task admitted held phase about expected bucket noticed =>
            exact absurd noticed (unstored _ _ _ _)
      refine ⟨same, ?_⟩
      intro sub old new seen
      rcases List.mem_append.mp seen with here | there
      · exact unstored id sub old new here
      · have ended := accounted.ended id sub old new there
        rw [ended.2.1, ended.2.2] at running
        simp at running

theorem changed_replaced (effect : Effect catalogs event after notices) {sub : String}
    (changed : after.bucket.pointers.get sub ≠ catalogs.bucket.pointers.get sub) :
    ∃ id new, .replaced id sub (catalogs.bucket.pointers.get sub) new ∈ notices := by
  cases effect_bucket effect with
  | kept same quiet => exact absurd (by rw [same]) changed
  | wrote id task admitted stage held phase unconditional about bucket quiet =>
      exact absurd (by rw [bucket, store_pointers]) changed
  | replaced id task admitted held phase about expected bucket noticed =>
      by_cases same : task.sub = sub
      · subst same
        exact ⟨id, admitted.bundleBody, noticed⟩
      · refine absurd ?_ changed
        rw [bucket]
        exact Table.get_insert_of_ne _ _ fun equal => same equal.symm

end Steps

/-- The request's preconditions were evaluated in a state of the run with the property. -/
def EvaluatedIn (start : Catalogs platform) (log : List CatalogNotice) (catalogs : Catalogs platform)
    (id node : Nat) (sub : String) (property : Catalogs platform → Prop) : Prop :=
  ∃ before state event next notices base,
    (catalogMachine platform).Run (fun _ _ _ => True) [] start before state ∧
    (catalogMachine platform).next state event = some (next, notices) ∧
    .evaluated id node sub base ∈ notices ∧
    (catalogMachine platform).Run (fun _ _ _ => True) (notices ++ before) next log catalogs ∧
    property state

section Evaluation

variable {start catalogs : Catalogs platform} {log : List CatalogNotice} {id : Nat}
variable {task : PutTask platform} {admitted : Admitted platform task.sub task.headers}

theorem EvaluatedIn.imp {node : Nat} {sub : String} {property weaker : Catalogs platform → Prop}
    (evaluated : EvaluatedIn start log catalogs id node sub property)
    (implies : ∀ state, property state → weaker state) :
    EvaluatedIn start log catalogs id node sub weaker := by
  rcases evaluated with ⟨before, state, event, next, notices, base, front, moved, member, back, holds⟩
  exact ⟨before, state, event, next, notices, base, front, moved, member, back,
    implies state holds⟩

/-- What was found about the base of a publish held in the state in which it was evaluated. -/
theorem evaluatedIn_of_base
    (run : (catalogMachine platform).Run (fun _ _ _ => True) [] start log catalogs) {b : Base}
    (seen : .evaluated id task.node task.sub (some b) ∈ log) :
    EvaluatedIn start log catalogs id task.node task.sub fun state =>
      (state.bucket.indexes.get b.hash).isSome = b.live ∧
        (state.nodes task.node).isBlocked b.hash = b.blocked := by
  obtain ⟨before, state, event, next, notices, front, -, taken, member, back⟩ :=
    run.split seen (List.not_mem_nil)
  refine ⟨before, state, event, next, notices, some b, front, taken, member, back, ?_⟩
  have came := effect_notice (machine_effect taken) member
  generalize task.node = node, task.sub = sub at came ⊢
  cases came with
  | evaluated evaluated job held based =>
      cases based with
      | present stored reading => exact ⟨rfl, rfl⟩

theorem Admitted.base_of_ifMatch {headers : Headers} {sub : String}
    (admitted : Admitted platform sub headers) {seq : Nat}
    (only : headers.getAll "if-match" = [pointerEtag seq])
    (noOther : headers.getAll "if-none-match" = []) :
    ∃ b, admitted.base = some b ∧ b.seq = seq ∧ b.live = true ∧ b.blocked = false := by
  have served := (preconditionsHold_ifMatch only noOther).mp admitted.passed
  obtain ⟨b, base, shown⟩ := Option.bind_eq_some_iff.mp served
  split at shown
  · rename_i visible
    rw [Bool.and_eq_true, Bool.not_eq_true'] at visible
    exact ⟨b, base, Option.some.inj shown, visible⟩
  · cases shown

theorem Admitted.base_of_ifNoneMatch_star {headers : Headers} {sub : String}
    (admitted : Admitted platform sub headers) (only : headers.getAll "if-none-match" = ["*"])
    (noOther : headers.getAll "if-match" = []) :
    admitted.base = none ∨ ∃ b, admitted.base = some b ∧ (b.live = false ∨ b.blocked = true) := by
  have hidden := (preconditionsHold_ifNoneMatch_star only noOther).mp admitted.passed
  rw [Option.map_eq_none_iff] at hidden
  cases base : admitted.base with
  | none => exact .inl rfl
  | some b =>
      rw [base, Base.servedSeq, Option.bind_some] at hidden
      split at hidden
      · cases hidden
      · rename_i invisible
        rw [Bool.and_eq_true, Bool.not_eq_true', not_and_or, Bool.not_eq_true, Bool.not_eq_false]
          at invisible
        exact .inr ⟨b, rfl, invisible⟩

end Evaluation

/-- A conditional publish never overwrites another device's catalog. One answered 200 with `If-Match`
for a seq replaced a pointer of that seq, which was live and not blocked when the precondition was
evaluated; with `If-None-Match: *` it replaced none, or one that was not served then. A request
answered 412 or 409 stored no pointer at any of its steps, and only a request stores one. -/
theorem conditional_publish_replaces_its_base (etags : Function.Injective platform.etag)
    {start catalogs after : Catalogs platform} {log notices : List CatalogNotice}
    {event : CatalogEvent} (idle : Idle start)
    (run : (catalogMachine platform).Run (fun _ _ _ => True) [] start log catalogs)
    (taken : (catalogMachine platform).next catalogs event = some (after, notices)) :
    (∀ id sub seq hash size, .published id sub seq hash size ∈ notices →
      ∃ task, catalogs.puts id = some task ∧ task.sub = sub ∧
        (∀ n, task.headers.getAll "if-match" = [pointerEtag n] →
          task.headers.getAll "if-none-match" = [] →
          ∃ body hash, catalogs.bucket.pointers.get sub = some body ∧
            storedSeq platform.toFormats body = some (n, hash) ∧
            EvaluatedIn start log catalogs id task.node sub fun state =>
              (state.bucket.indexes.get hash).isSome = true ∧
                (state.nodes task.node).isBlocked hash = false) ∧
        (task.headers.getAll "if-none-match" = ["*"] → task.headers.getAll "if-match" = [] →
          catalogs.bucket.pointers.get sub = none ∨
          ∃ body seq hash, catalogs.bucket.pointers.get sub = some body ∧
            storedSeq platform.toFormats body = some (seq, hash) ∧
            EvaluatedIn start log catalogs id task.node sub fun state =>
              state.bucket.indexes.get hash = none ∨
                (state.nodes task.node).isBlocked hash = true)) ∧
    (∀ id refusal, .refused id refusal ∈ notices → refusal.status = 412 ∨ refusal.status = 409 →
      after.bucket.pointers = catalogs.bucket.pointers ∧
        ∀ sub old new, .replaced id sub old new ∉ notices ++ log) ∧
    ∀ sub, after.bucket.pointers.get sub ≠ catalogs.bucket.pointers.get sub →
      ∃ id new, .replaced id sub (catalogs.bucket.pointers.get sub) new ∈ notices := by
  have accounted := run_accounted idle run
  have effect := machine_effect taken
  refine ⟨?_, ?_, ?_⟩
  · intro id sub seq hash size answered
    cases effect_notice effect answered with
    | published task admitted held phase expected =>
        obtain ⟨evaluated, reads⟩ := accounted.based id task admitted .pointer held phase
        have replacing := Admitted.base_of_expects etags expected
        refine ⟨task, held, rfl, ?_, ?_⟩
        · intro n only noOther
          obtain ⟨b, base, rfl, live, unblocked⟩ :=
            Admitted.base_of_ifMatch admitted only noOther
          rw [base] at evaluated replacing
          have found := evaluatedIn_of_base run evaluated
          rw [live, unblocked] at found
          exact ⟨b.body, b.hash, replacing, reads b base, found⟩
        · intro only noOther
          rcases Admitted.base_of_ifNoneMatch_star admitted only noOther with
            base | ⟨b, base, hidden⟩
          · rw [base] at replacing
            exact .inl replacing
          · rw [base] at evaluated replacing
            refine .inr ⟨b.body, b.seq, b.hash, replacing, reads b base, ?_⟩
            apply (evaluatedIn_of_base run evaluated).imp
            rintro state ⟨index, blocks⟩
            rcases hidden with absent | blocked
            · rw [absent] at index
              exact .inl (by simpa using index)
            · exact .inr (blocks.trans blocked)
  · intro id refusal refused status
    apply refused_never_replaced accounted effect refused
    rintro rfl
    exact absurd status (by decide)
  · intro sub changed
    exact changed_replaced effect changed

def ifMatchRun : List CatalogEvent :=
  sampleChecks 0 [] [21] ++ sampleWrites 0 ++
    sampleChecks 1 [("if-match", pointerEtag 1)] [22] ++ [.indexRead 1 true] ++
    (sampleWrites 1).dropLast

def ifMatchShown (_ : List CatalogNotice) (catalogs : Catalogs samplePlatform) : Bool :=
  ((catalogMachine samplePlatform).next catalogs (.pointerWritten 1 .done)).any
      (fun moved => decide (.published 1 sampleSub 2 sampleHash 32 ∈ moved.2)) &&
    (catalogs.puts 1).any fun task =>
      decide (task.headers.getAll "if-match" = [pointerEtag 1]) &&
        decide (task.headers.getAll "if-none-match" = [])

private theorem ifMatch_executed :
    ((catalogMachine samplePlatform).execute (fun _ _ _ => true) ifMatchRun [] sampleCatalogs).map
      (fun ended => ifMatchShown ended.1 ended.2) = some true := by
  decide +kernel

theorem conditional_publish_replaces_its_base_ifMatch :
    ∃ log catalogs after notices,
      (catalogMachine samplePlatform).Run (fun _ _ _ => True) [] sampleCatalogs log catalogs ∧
      (catalogMachine samplePlatform).next catalogs (.pointerWritten 1 .done) =
        some (after, notices) ∧
      .published 1 sampleSub 2 sampleHash 32 ∈ notices ∧
      ∃ body hash, catalogs.bucket.pointers.get sampleSub = some body ∧
        storedSeq samplePlatform.toFormats body = some (1, hash) := by
  rcases Machine.execute_reaches (fun _ _ _ _ => trivial) ifMatchRun ifMatchShown ifMatch_executed
    with ⟨log, catalogs, run, shown⟩
  simp only [ifMatchShown, Bool.and_eq_true, Option.any_eq_true, decide_eq_true_eq] at shown
  rcases shown with ⟨⟨⟨after, notices⟩, taken, answered⟩, task, held, only, noOther⟩
  have facts := conditional_publish_replaces_its_base Text.hexEncode_injective sampleCatalogs_idle
    run taken
  obtain ⟨same, held', -, ifMatch, -⟩ := facts.1 1 _ _ _ _ answered
  obtain rfl := Option.some.inj (held.symm.trans held')
  obtain ⟨body, hash, stored, reads, -⟩ := ifMatch 1 only noOther
  exact ⟨log, catalogs, after, notices, run, taken, answered, body, hash, stored, reads⟩

end Catalogs

end TdfIrohS3
