import TdfIrohS3.Catalog.Monotone

namespace TdfIrohS3

open Library

structure Reader where
  headers : Headers
  verified : Except AuthError VerifiedClaims
  devices : List (Except AuthError VerifiedClaims)
  /-- The decision service's answer for a catalog and its attribute. -/
  decision : String → String → Option Decisions

def catalogAttribute (formats : Formats) (node : V2State) (bucket : Bucket) (hash : String) :
    Except Refusal String :=
  match node.attributes.get hash with
  | some fqn => .ok fqn
  | none => resolveAttribute formats (bucket.indexes.get hash)

def decideReader (node : V2State) (reader : Reader) (claims : VerifiedClaims)
    (stored : StoredPointer) (fqn : String) : Except Refusal StoredPointer :=
  if isOperator node claims then .ok stored
  else
    match readerChain node reader.headers claims reader.devices with
    | .error refusal => .error refusal
    | .ok _ =>
        match readerVerdict stored.hash (reader.decision stored.hash fqn) with
        | .error refusal => .error refusal
        | .ok () => .ok stored

/-- `get_pointer` when nothing else moves meanwhile and storage answers. A pointer is served with
the entity tag of its seq. -/
def getPointer (formats : Formats) (node : V2State) (bucket : Bucket) (sub : String)
    (reader : Reader) : Except Refusal StoredPointer :=
  match resolveReader node sub reader.headers reader.verified with
  | .error refusal => .error refusal
  | .ok claims =>
      match resolvePointer formats node (bucket.pointers.get sub) with
      | .error refusal => .error refusal
      | .ok stored =>
          match catalogAttribute formats node bucket stored.hash with
          | .error refusal => .error refusal
          | .ok fqn => decideReader node reader claims stored fqn

def storedBase (formats : Formats) (node : V2State) (bucket : Bucket) (sub : String) :
    Except Refusal (Option Base) :=
  match bucket.pointers.get sub with
  | none => .ok none
  | some body =>
      match storedSeq formats body with
      | none => .error storageUnavailable
      | some (seq, hash) =>
          .ok (some { body, seq, hash, live := (bucket.indexes.get hash).isSome,
                      blocked := node.isBlocked hash })

namespace Catalogs

variable {platform : CatalogPlatform}

section Uninterrupted

def AnsweredWith (id : Nat) (sub : String) (log : List CatalogNotice) :
    Except Refusal StoredPointer → Prop
  | .ok stored => .served id sub stored ∈ log
  | .error refusal => .refused id refusal ∈ log

variable {start catalogs : Catalogs platform} {log : List CatalogNotice} {id : Nat}

theorem refuseGet_answered {sub : String} {refusal : Refusal} (event : CatalogEvent)
    (run : (catalogMachine platform).Run (fun _ _ _ => True) [] start log catalogs)
    (taken : (catalogMachine platform).next catalogs event =
      some (catalogs.refuseGet id refusal)) :
    ∃ history after, (catalogMachine platform).Run (fun _ _ _ => True) [] start history after ∧
      AnsweredWith id sub history (.error refusal) :=
  ⟨_, _, run.step trivial taken, by simp [AnsweredWith]⟩

theorem attributeKnown_answered (reader : Reader) (task : GetTask) (claims : VerifiedClaims)
    (stored : StoredPointer) (fqn : String) (same : task.headers = reader.headers)
    (run : (catalogMachine platform).Run (fun _ _ _ => True) [] start
      ((catalogs.attributeKnown id task claims stored fqn).2 ++ log)
      (catalogs.attributeKnown id task claims stored fqn).1) :
    ∃ history after, (catalogMachine platform).Run (fun _ _ _ => True) [] start history after ∧
      AnsweredWith id task.sub history
        (decideReader (catalogs.nodes task.node) reader claims stored fqn) := by
  unfold attributeKnown at run
  unfold decideReader
  split at run
  · rename_i operator
    rw [if_pos operator]
    exact ⟨_, _, run, by simp [AnsweredWith]⟩
  · rename_i person
    rw [if_neg person]
    set waiting := catalogs.setGet id (some { task with phase := .deciding claims stored fqn })
    have held : waiting.gets id = some { task with phase := .deciding claims stored fqn } :=
      Function.update_self _ _ _
    have nodes : waiting.nodes = catalogs.nodes := rfl
    cases chain : readerChain (catalogs.nodes task.node) reader.headers claims reader.devices with
    | error refusal =>
        refine refuseGet_answered
          (.readerDecided id reader.devices (reader.decision stored.hash fqn)) run ?_
        simp only [catalogMachine, next, held, nodes, same, chain]
    | ok entities =>
        cases verdict : readerVerdict stored.hash (reader.decision stored.hash fqn) with
        | error refusal =>
            have taken : (catalogMachine platform).next waiting
                (.readerDecided id reader.devices (reader.decision stored.hash fqn)) =
                some (waiting.setGet id none,
                  [.refused id refusal, .asked id task.sub stored.hash fqn]) := by
              simp only [catalogMachine, next, held, nodes, same, chain, verdict]
            exact ⟨_, _, run.step trivial taken, by simp [AnsweredWith]⟩
        | ok _ =>
            have taken : (catalogMachine platform).next waiting
                (.readerDecided id reader.devices (reader.decision stored.hash fqn)) =
                some (waiting.setGet id none,
                  [.served id task.sub stored, .asked id task.sub stored.hash fqn]) := by
              simp only [catalogMachine, next, held, nodes, same, chain, verdict]
            exact ⟨_, _, run.step trivial taken, by simp [AnsweredWith]⟩

theorem readingPointer_answered (reader : Reader) (task : GetTask) (claims : VerifiedClaims)
    (same : task.headers = reader.headers) (held : catalogs.gets id = some task)
    (phase : task.phase = .readingPointer claims)
    (resolved : resolveReader (catalogs.nodes task.node) task.sub reader.headers reader.verified =
      .ok claims)
    (run : (catalogMachine platform).Run (fun _ _ _ => True) [] start log catalogs) :
    ∃ history after, (catalogMachine platform).Run (fun _ _ _ => True) [] start history after ∧
      AnsweredWith id task.sub history
        (getPointer platform.toFormats (catalogs.nodes task.node) catalogs.bucket task.sub
          reader) := by
  simp only [getPointer, resolved]
  cases pointer : resolvePointer platform.toFormats (catalogs.nodes task.node)
      (catalogs.bucket.pointers.get task.sub) with
  | error refusal =>
      refine refuseGet_answered (.getPointerRead id true) run ?_
      simp only [catalogMachine, next, held, phase, if_true, pointer]
  | ok stored =>
      cases cached : (catalogs.nodes task.node).attributes.get stored.hash with
      | some fqn =>
          have taken : (catalogMachine platform).next catalogs (.getPointerRead id true) =
              some (catalogs.attributeKnown id task claims stored fqn) := by
            simp only [catalogMachine, next, held, phase, if_true, pointer, cached]
          simp only [catalogAttribute, cached]
          exact attributeKnown_answered reader task claims stored fqn same (run.step trivial taken)
      | none =>
          let reading := catalogs.setGet id
            (some { task with phase := .readingIndex claims stored })
          have taken : (catalogMachine platform).next catalogs (.getPointerRead id true) =
              some (reading, []) := by
            simp only [catalogMachine, next, held, phase, if_true, pointer, cached, reading]
          have waits : reading.gets id = some { task with phase := .readingIndex claims stored } :=
            Function.update_self _ _ _
          have bucket : reading.bucket = catalogs.bucket := rfl
          simp only [catalogAttribute, cached]
          cases found : resolveAttribute platform.toFormats
              (catalogs.bucket.indexes.get stored.hash) with
          | error refusal =>
              refine refuseGet_answered (.getIndexRead id true) (run.step trivial taken) ?_
              simp only [catalogMachine, next, waits, if_true, bucket, found]
          | ok fqn =>
              let node := (catalogs.nodes task.node).remember stored.hash fqn
              have remembered : (reading.setNode task.node node).nodes task.node = node :=
                Function.update_self _ _ _
              have learned : (catalogMachine platform).next reading (.getIndexRead id true) =
                  some ((reading.setNode task.node node).attributeKnown id
                    { task with phase := .readingIndex claims stored } claims stored fqn) := by
                simp only [catalogMachine, next, waits, if_true, bucket, found]
                rfl
              have answered := attributeKnown_answered reader
                { task with phase := .readingIndex claims stored } claims stored fqn same
                ((run.step trivial taken).step trivial learned)
              rw [remembered] at answered
              exact answered

theorem getPointer_answered (start : Catalogs platform) (node : Nat) (sub : String)
    (reader : Reader) :
    ∃ received, (catalogMachine platform).next start (.get node sub reader.headers) =
        some (received, []) ∧
      ∃ log after, (catalogMachine platform).Run (fun _ _ _ => True) [] received log after ∧
        AnsweredWith start.nextId sub log
          (getPointer platform.toFormats (start.nodes node) start.bucket sub reader) := by
  let task (phase : GetPhase) : GetTask := { node, sub, headers := reader.headers, phase }
  let received : Catalogs platform :=
    { start.setGet start.nextId (some (task .authorizing)) with nextId := start.nextId + 1 }
  have arrival : (catalogMachine platform).next start (.get node sub reader.headers) =
      some (received, []) := rfl
  have arrived : received.gets start.nextId = some (task .authorizing) :=
    Function.update_self _ _ _
  have run : (catalogMachine platform).Run (fun _ _ _ => True) [] received [] received :=
    Machine.Run.refl
  refine ⟨received, arrival, ?_⟩
  cases resolved : resolveReader (start.nodes node) sub reader.headers reader.verified with
  | error refusal =>
      simp only [getPointer, resolved]
      refine refuseGet_answered (.readerVerified start.nextId reader.verified) run ?_
      simp only [catalogMachine, next, arrived, task, show received.nodes = start.nodes from rfl,
        resolved]
  | ok claims =>
      let reading := received.setGet start.nextId (some (task (.readingPointer claims)))
      have taken : (catalogMachine platform).next received
          (.readerVerified start.nextId reader.verified) = some (reading, []) := by
        simp only [catalogMachine, next, arrived, task, show received.nodes = start.nodes from rfl,
          resolved, reading]
      have waits : reading.gets start.nextId = some (task (.readingPointer claims)) :=
        Function.update_self _ _ _
      have answered := readingPointer_answered reader _ claims rfl waits rfl resolved
        (run.step trivial taken)
      exact answered

theorem evaluate_evaluated (catalogs : Catalogs platform) (id : Nat) (task : PutTask platform)
    (job : PublishJob platform task.sub) (base : Option Base) :
    .evaluated id task.node task.sub base ∈ (catalogs.evaluate id task job base).2 := by
  unfold evaluate
  split <;> simp

theorem storedBase_evaluated {task : PutTask platform} {job : PublishJob platform task.sub}
    {base : Option Base} (held : catalogs.puts id = some task)
    (phase : task.phase = .readingPointer job)
    (found : storedBase platform.toFormats (catalogs.nodes task.node) catalogs.bucket task.sub =
      .ok base) :
    ∃ history after, (catalogMachine platform).Run (fun _ _ _ => True) [] catalogs history after ∧
      .evaluated id task.node task.sub base ∈ history := by
  unfold storedBase at found
  cases pointer : catalogs.bucket.pointers.get task.sub with
  | none =>
      simp only [pointer, Except.ok.injEq] at found
      subst found
      have taken : (catalogMachine platform).next catalogs (.pointerRead id true) =
          some (catalogs.evaluate id task job none) := by
        simp only [catalogMachine, next, held, phase, if_true, pointer]
      exact ⟨_, _, Machine.Run.refl.step trivial taken,
        List.mem_append_left _ (evaluate_evaluated catalogs id task job none)⟩
  | some body =>
      cases parsed : storedSeq platform.toFormats body with
      | none => simp [pointer, parsed] at found
      | some pair =>
          obtain ⟨seq, hash⟩ := pair
          simp only [pointer, parsed, Except.ok.injEq] at found
          subst found
          let moved : PutTask platform :=
            { task with phase := .readingIndex job { body, seq, hash } }
          let reading := catalogs.setPut id (some moved)
          have read : (catalogMachine platform).next catalogs (.pointerRead id true) =
              some (reading, []) := by
            simp only [catalogMachine, next, held, phase, if_true, pointer, parsed]
            rfl
          have waits : reading.puts id = some moved := Function.update_self _ _ _
          have bucket : reading.bucket = catalogs.bucket := rfl
          have nodes : reading.nodes = catalogs.nodes := rfl
          let base : Base :=
            { body, seq, hash, live := (catalogs.bucket.indexes.get hash).isSome,
              blocked := (catalogs.nodes task.node).isBlocked hash }
          have taken : (catalogMachine platform).next reading (.indexRead id true) =
              some (reading.evaluate id moved job (some base)) := by
            simp only [catalogMachine, next, waits, moved, if_true, bucket, nodes, base]
          exact ⟨_, _, (Machine.Run.refl.step trivial read).step trivial taken,
            List.mem_append_left _ (evaluate_evaluated reading id moved job (some base))⟩

end Uninterrupted

end Catalogs

def Permitted (node : V2State) (reader : Reader) : Prop :=
  ∃ claims, authorizeCatalogReader reader.headers reader.verified = .ok claims ∧
    ∀ stored fqn, decideReader node reader claims stored fqn = .ok stored

/-- What step 7 takes for served is what a read is answered: the same seq, or none and a 404. So
`If-None-Match: *` holds after a 404 and only then. -/
structure SeesWhatGetServes (served : Option Nat) (answer : Except Refusal StoredPointer) : Prop where
  found : ∀ seq, served = some seq ↔
    ∃ stored, answer = .ok stored ∧ pointerEtag stored.seq = pointerEtag seq
  absent : served = none ↔ ∃ refusal, answer = .error refusal ∧ refusal.status = 404
  create : ∀ headers : Headers, headers.getAll "if-none-match" = ["*"] →
    headers.getAll "if-match" = [] →
    (preconditionsHold headers (served.map pointerEtag) = true ↔
      ∃ refusal, answer = .error refusal ∧ refusal.status = 404)

/-- Whether both handlers hide the stored pointer, or neither does. -/
def hiddenAlike (formats : Formats) (node : V2State) (bucket : Bucket) (sub : String) : Bool :=
  match (bucket.pointers.get sub).bind (storedSeq formats) with
  | none => true
  | some (_, hash) =>
      node.isBlocked hash ||
        match bucket.indexes.get hash with
        | none => node.ownerHidden (some sub) || (node.attributes.get hash).isNone
        | some index => !node.ownerHidden (some sub) && ((node.attributes.get hash).isSome ||
            (formats.fromSlice IndexRecord.read index).toOption.isSome)

section Agreement

variable {formats : Formats} {node : V2State} {bucket : Bucket} {sub : String} {reader : Reader}

theorem getPointer_permitted (permitted : Permitted node reader)
    (valid : validIdentifier sub maxOwnerBytes = true) :
    getPointer formats node bucket sub reader =
      if node.ownerHidden (some sub) then .error catalogNotFound
      else
        match resolvePointer formats node (bucket.pointers.get sub) with
        | .error refusal => .error refusal
        | .ok stored => (catalogAttribute formats node bucket stored.hash).map fun _ => stored := by
  obtain ⟨claims, authorized, decided⟩ := permitted
  by_cases hidden : node.ownerHidden (some sub) = true
  · simp [getPointer, resolveReader, authorized, valid, hidden]
  · have reads : resolveReader node sub reader.headers reader.verified = .ok claims := by
      simp [resolveReader, authorized, valid, hidden]
    rw [getPointer, reads, if_neg hidden]
    cases resolvePointer formats node (bucket.pointers.get sub) with
    | error refusal => rfl
    | ok stored =>
        dsimp only
        cases catalogAttribute formats node bucket stored.hash with
        | error refusal => rfl
        | ok fqn => exact decided stored fqn

theorem seesWhatGetServes_some_iff {seq : Nat} {answer : Except Refusal StoredPointer} :
    SeesWhatGetServes (some seq) answer ↔ ∃ stored, answer = .ok stored ∧ stored.seq = seq := by
  constructor
  · intro agrees
    obtain ⟨stored, served, same⟩ := (agrees.found seq).mp rfl
    exact ⟨stored, served, pointerEtag_injective same⟩
  · rintro ⟨stored, rfl, rfl⟩
    refine ⟨?_, by simp, ?_⟩
    · intro seq
      constructor
      · rintro ⟨⟩
        exact ⟨stored, rfl, rfl⟩
      · rintro ⟨_, ⟨⟩, same⟩
        rw [pointerEtag_injective same]
    · intro headers only noOther
      rw [preconditionsHold_ifNoneMatch_star only noOther]
      simp

theorem seesWhatGetServes_none_iff {answer : Except Refusal StoredPointer} :
    SeesWhatGetServes none answer ↔ ∃ refusal, answer = .error refusal ∧ refusal.status = 404 := by
  constructor
  · intro agrees
    exact agrees.absent.mp rfl
  · rintro ⟨refusal, rfl, notFound⟩
    refine ⟨by simp, by simp [notFound], ?_⟩
    intro headers only noOther
    rw [preconditionsHold_ifNoneMatch_star only noOther]
    simp [notFound]

theorem catalogAttribute_isSome {hash : String} {index : List UInt8}
    (stored : bucket.indexes.get hash = some index) :
    (catalogAttribute formats node bucket hash).toOption.isSome =
      ((node.attributes.get hash).isSome ||
        (formats.fromSlice IndexRecord.read index).toOption.isSome) := by
  unfold catalogAttribute
  cases node.attributes.get hash with
  | some fqn => simp [Except.toOption]
  | none =>
      simp only [stored, resolveAttribute]
      cases formats.fromSlice IndexRecord.read index <;> simp [Except.toOption]

theorem catalogAttribute_of_no_index {hash : String} (missing : bucket.indexes.get hash = none) :
    catalogAttribute formats node bucket hash =
      match node.attributes.get hash with
      | some fqn => .ok fqn
      | none => .error catalogNotFound := by
  rw [catalogAttribute, missing]
  rfl

end Agreement

/-- Step 7 sees what a permitted reader is served exactly when both handlers hide the stored pointer
or neither does. -/
theorem preconditions_see_what_get_serves_iff {platform : CatalogPlatform} {node : V2State}
    {bucket : Bucket} {sub : String} {reader : Reader} {base : Option Base}
    (job : PublishJob platform sub) (permitted : Permitted node reader)
    (evaluated : storedBase platform.toFormats node bucket sub = .ok base) :
    SeesWhatGetServes (Base.servedSeq base)
        (getPointer platform.toFormats node bucket sub reader) ↔
      hiddenAlike platform.toFormats node bucket sub = true := by
  have valid : validIdentifier sub maxOwnerBytes = true :=
    job.owned ▸ (parsePointer_wellFormed job.parsed).owner
  rw [getPointer_permitted permitted valid]
  unfold storedBase at evaluated
  unfold hiddenAlike
  cases pointer : bucket.pointers.get sub with
  | none =>
      simp only [pointer, Except.ok.injEq] at evaluated
      subst evaluated
      have notFound : SeesWhatGetServes none (.error catalogNotFound) :=
        seesWhatGetServes_none_iff.mpr ⟨_, rfl, rfl⟩
      cases node.ownerHidden (some sub) <;> simp [Base.servedSeq, resolvePointer, notFound]
  | some body =>
      cases parsed : storedSeq platform.toFormats body with
      | none => simp [pointer, parsed] at evaluated
      | some pair =>
          obtain ⟨seq, hash⟩ := pair
          simp only [pointer, parsed, Except.ok.injEq] at evaluated
          subst evaluated
          simp only [Option.bind_some, parsed]
          cases blocked : node.isBlocked hash with
          | true =>
              simp [Base.servedSeq, seesWhatGetServes_none_iff, resolvePointer, parsed, blocked,
                catalogNotFound]
          | false =>
              have resolved : resolvePointer platform.toFormats node (some body) =
                  .ok { body, seq, hash } := by
                simp [resolvePointer, parsed, blocked]
              rw [resolved]
              cases index : bucket.indexes.get hash with
              | none =>
                  -- nothing is served at step 7: a read has to be a 404
                  simp only [Base.servedSeq, Option.bind_some, Option.isSome_none, Bool.false_and,
                    Bool.false_eq_true, if_false, seesWhatGetServes_none_iff,
                    catalogAttribute_of_no_index index]
                  cases node.ownerHidden (some sub) <;> cases node.attributes.get hash <;>
                    simp [Except.map, catalogNotFound]
              | some record =>
                  -- step 7 takes the pointer for served: a read has to be answered with it
                  simp only [Base.servedSeq, Option.bind_some, Option.isSome_some, Bool.true_and,
                    Bool.not_false, if_true, seesWhatGetServes_some_iff,
                    ← catalogAttribute_isSome index]
                  cases node.ownerHidden (some sub) <;>
                    cases catalogAttribute platform.toFormats node bucket hash <;>
                    simp [Except.map, Except.toOption]

section Sample

open Catalogs

def sampleReading : Reader where
  headers := sampleToken
  verified := .ok sampleReader
  devices := []
  decision hash _ := some [(hash, true)]

theorem sampleReading_permitted {node : V2State}
    (chain : (readerChain node sampleToken sampleReader []).toOption.isSome = true) :
    Permitted node sampleReading := by
  refine ⟨sampleReader, by decide, ?_⟩
  intro stored fqn
  unfold decideReader
  split
  · rfl
  · change (match readerChain node sampleToken sampleReader [] with
      | .error refusal => Except.error refusal
      | .ok _ => _) = _
    cases found : readerChain node sampleToken sampleReader [] with
    | error refusal => simp [found, Except.toOption] at chain
    | ok entities => simp [readerVerdict, sampleReading]

structure AtStepSeven (catalogs : Catalogs samplePlatform) (id : Nat) (task : PutTask samplePlatform)
    (job : PublishJob samplePlatform task.sub) (base : Option Base) : Prop where
  held : catalogs.puts id = some task
  phase : task.phase = .readingPointer job
  permitted : Permitted (catalogs.nodes task.node) sampleReading
  found : storedBase samplePlatform.toFormats (catalogs.nodes task.node) catalogs.bucket task.sub =
    .ok base

def atStepSeven (catalogs : Catalogs samplePlatform) (id : Nat)
    (holds : PutTask samplePlatform → Option Base → Bool) : Bool :=
  (catalogs.puts id).any fun task =>
    (match task.phase with | .readingPointer _ => true | _ => false) &&
      (readerChain (catalogs.nodes task.node) sampleToken sampleReader []).toOption.isSome &&
      (storedBase samplePlatform.toFormats (catalogs.nodes task.node) catalogs.bucket
        task.sub).toOption.any (holds task)

theorem exists_atStepSeven {catalogs : Catalogs samplePlatform} {id : Nat}
    {holds : PutTask samplePlatform → Option Base → Bool}
    (checked : atStepSeven catalogs id holds = true) :
    ∃ task job base, AtStepSeven catalogs id task job base ∧ holds task base = true := by
  simp only [atStepSeven, Option.any_eq_true, Bool.and_eq_true] at checked
  rcases checked with ⟨task, held, ⟨waits, chain⟩, base, found, shown⟩
  split at waits
  · rename_i job phase
    exact ⟨task, job, base, ⟨held, phase, sampleReading_permitted chain, ok_of_toOption found⟩,
      shown⟩
  · cases waits

def publishHidden : List CatalogEvent :=
  sampleChecks 0 [] [21] ++ sampleWrites 0 ++
    [.moderate 0 (sampleBlocked sampleSub)] ++
    (sampleChecks 1 [("if-none-match", "*")] [22]).dropLast

def hiddenShown (_ : List CatalogNotice) (catalogs : Catalogs samplePlatform) : Bool :=
  atStepSeven catalogs 1 fun task base =>
    decide (Base.servedSeq base = some 1) &&
      (match getPointer samplePlatform.toFormats (catalogs.nodes task.node) catalogs.bucket task.sub
          sampleReading with
        | .ok _ => false
        | .error refusal => decide (refusal = catalogNotFound))

private theorem publishHidden_executed :
    ((catalogMachine samplePlatform).execute (fun _ _ _ => true) publishHidden []
      sampleCatalogs).map (fun ended => hiddenShown ended.1 ended.2) = some true := by
  decide +kernel

/-- A creator whose catalog is blocked is told 404, and then 412 for `If-None-Match: *`. -/
theorem preconditions_ignore_hidden_owner :
    ∃ log catalogs task job base,
      (catalogMachine samplePlatform).Run (fun _ _ _ => True) [] sampleCatalogs log catalogs ∧
      AtStepSeven catalogs 1 task job base ∧
      ¬SeesWhatGetServes (Base.servedSeq base)
        (getPointer samplePlatform.toFormats (catalogs.nodes task.node) catalogs.bucket task.sub
          sampleReading) := by
  rcases Machine.execute_reaches (fun _ _ _ _ => trivial) publishHidden hiddenShown
    publishHidden_executed with ⟨log, catalogs, run, shown⟩
  obtain ⟨task, job, base, waits, shown⟩ := exists_atStepSeven shown
  rw [Bool.and_eq_true, decide_eq_true_eq] at shown
  refine ⟨log, catalogs, task, job, base, run, waits, ?_⟩
  rw [shown.1, seesWhatGetServes_some_iff]
  rintro ⟨stored, answered, -⟩
  rw [answered] at shown
  cases shown.2

def publishVisible : List CatalogEvent :=
  sampleChecks 0 [] [21] ++ sampleWrites 0 ++
    (sampleChecks 1 [("if-none-match", "*")] [22]).dropLast

def visibleShown (_ : List CatalogNotice) (catalogs : Catalogs samplePlatform) : Bool :=
  atStepSeven catalogs 1 fun task base => decide (Base.servedSeq base = some 1) &&
    hiddenAlike samplePlatform.toFormats (catalogs.nodes task.node) catalogs.bucket task.sub

private theorem publishVisible_executed :
    ((catalogMachine samplePlatform).execute (fun _ _ _ => true) publishVisible []
      sampleCatalogs).map (fun ended => visibleShown ended.1 ended.2) = some true := by
  decide +kernel

theorem preconditions_see_what_get_serves_published :
    ∃ log catalogs task job base,
      (catalogMachine samplePlatform).Run (fun _ _ _ => True) [] sampleCatalogs log catalogs ∧
      AtStepSeven catalogs 1 task job base ∧ Base.servedSeq base = some 1 ∧
      SeesWhatGetServes (Base.servedSeq base)
        (getPointer samplePlatform.toFormats (catalogs.nodes task.node) catalogs.bucket task.sub
          sampleReading) := by
  rcases Machine.execute_reaches (fun _ _ _ _ => trivial) publishVisible visibleShown
    publishVisible_executed with ⟨log, catalogs, run, shown⟩
  obtain ⟨task, job, base, waits, shown⟩ := exists_atStepSeven shown
  rw [Bool.and_eq_true, decide_eq_true_eq] at shown
  exact ⟨log, catalogs, task, job, base, run, waits, shown.1,
    (preconditions_see_what_get_serves_iff job waits.permitted waits.found).mpr shown.2⟩

end Sample

end TdfIrohS3
