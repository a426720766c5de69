import TdfIrohS3.Auth.AuthZen
import TdfIrohS3.Library.Chunks
import TdfIrohS3.Library.Pairs

namespace TdfIrohS3

open Library

section Obligations

def obligationsOf (context : Option Value) : Option Value := context.bind fun c => c.get "obligations"

/-- A context carries no obligations: there are none, or they are null, or an object whose `required`
is absent or an empty array. -/
def noObligations (context : Option Value) : Prop :=
  match obligationsOf context with
  | none | some .null => True
  | some (.object members) => ∀ required, members.lookup "required" = some required →
      required = .array []
  | some _ => False

def knownObligations (context : Option Value) : Prop :=
  match obligationsOf context with
  | none | some .null | some (.object _) => True
  | some _ => False

theorem accepted_iff {context : Option Value} :
    requiredObligationsNonempty context = false ↔
      ∀ required, (obligationsOf context).bind (fun o => o.get "required") = some required →
        required = .array [] := by
  constructor
  · exact fun accepted _ found => DecisionService.no_obligations accepted found
  · intro free
    unfold requiredObligationsNonempty
    split
    · rfl
    · rename_i items found
      cases free _ found
      rfl
    · rename_i required other found
      exact absurd (free required found) (other [])

/-- In a known shape, what is not refused carries no obligations. -/
theorem noObligations_of_known {context : Option Value} (known : knownObligations context)
    (accepted : requiredObligationsNonempty context = false) : noObligations context := by
  unfold knownObligations at known
  unfold noObligations
  cases found : obligationsOf context with
  | none => trivial
  | some obligations =>
      rw [found] at known
      cases obligations with
      | null => trivial
      | object members =>
          intro required present
          apply accepted_iff.mp accepted
          rw [found]
          exact present
      | _ => exact absurd known id

/-- In any other shape, `required` is not found and the permit stands. -/
theorem accepted_of_unknown {context : Option Value} (unknown : ¬knownObligations context) :
    requiredObligationsNonempty context = false ∧ ¬noObligations context := by
  unfold knownObligations at unknown
  unfold noObligations
  cases found : obligationsOf context with
  | none =>
      rw [found] at unknown
      exact absurd trivial unknown
  | some obligations =>
      rw [found] at unknown
      have missing : (obligationsOf context).bind (fun o => o.get "required") = none := by
        rw [found]
        cases obligations with
        | object members => exact absurd trivial unknown
        | _ => rfl
      refine ⟨accepted_iff.mpr fun required found => ?_, ?_⟩
      · rw [missing] at found
        cases found
      cases obligations with
      | null => exact absurd trivial unknown
      | object members => exact absurd trivial unknown
      | _ => exact id

/-- A permit is entitled only without obligations exactly when it is no permit or its `obligations` have
a known shape. -/
theorem evaluationEntitled_noObligations_iff (decision : Bool) (context : Option Value) :
    (evaluationEntitled decision context = true → decision = true ∧ noObligations context) ↔
      decision = false ∨ knownObligations context := by
  constructor
  · intro sound
    by_cases known : knownObligations context
    · exact .inr known
    · have fooled := accepted_of_unknown known
      cases decision with
      | false => exact .inl rfl
      | true =>
          have entitled : evaluationEntitled true context = true := by
            rw [evaluationEntitled, fooled.1]
            rfl
          exact absurd (sound entitled).2 fooled.2
  · intro condition entitled
    rw [evaluationEntitled, Bool.and_eq_true, Bool.not_eq_true'] at entitled
    refine ⟨entitled.1, ?_⟩
    rcases condition with denied | known
    · rw [denied] at entitled
      cases entitled.1
    · exact noObligations_of_known known entitled.2

/-- A permit whose `obligations` is an array of obligations, not an object, is entitled. -/
theorem entitled_despite_obligations :
    evaluationEntitled true (some (.object [("obligations",
        .array [.string "https://example/attr/x"])])) = true ∧
      ¬noObligations (some (.object [("obligations",
        .array [.string "https://example/attr/x"])])) :=
  ⟨rfl, id⟩

end Obligations

namespace DecisionService

variable (service : DecisionService)

section Posting

def forBatch (req : DecisionRequest) (chunk : List (String × List String)) : DecisionRequest :=
  { req with resources := chunk }

def decideBatchesPosting (req : DecisionRequest) :
    Nat → List (List (String × List String)) → Decisions → List Value × Except String Decisions
  | _, [], decisions => ([], .ok decisions)
  | batch, chunk :: rest, decisions =>
      match buildAuthzenRequest (forBatch req chunk) with
      | .error why => ([], .error why)
      | .ok body =>
          match service.decideBatch batch (forBatch req chunk) with
          | .error why => ([body], .error why)
          | .ok part =>
              let later := decideBatchesPosting req (batch + 1) rest (part ++ decisions)
              (body :: later.1, later.2)

def decidePosting (req : DecisionRequest) : List Value × Except String Decisions :=
  if req.resources.isEmpty then ([], .ok [])
  else if !service.endpoint then ([], .error "AuthZEN discovery")
  else service.decideBatchesPosting req 0 (req.resources.toChunks maxEvaluations) []

def evaluations (batch : Nat) (req : DecisionRequest) : Option (List EvaluationEntry) :=
  match buildAuthzenRequest req with
  | .error _ => none
  | .ok body =>
      match service.post batch body with
      | .answered tree => readEvaluationsResponse tree
      | _ => none

def Answered (batch : Nat) (req : DecisionRequest) : Prop :=
  ∃ found, service.evaluations batch req = some found ∧ found.length = req.resources.length

end Posting

section Batch

variable {service} {batch : Nat} {req : DecisionRequest}

def pairs (resources : List (String × List String)) (found : List EvaluationEntry) : Decisions :=
  List.zipWith (fun resource e => (resource.1, evaluationEntitled e.decision e.context)) resources
    found

theorem decideBatch_eq_ok {decisions : Decisions} :
    service.decideBatch batch req = .ok decisions ↔
      ∃ found, service.evaluations batch req = some found ∧ found.length = req.resources.length ∧
        decisions = (pairs req.resources found).reverse := by
  unfold decideBatch evaluations
  cases buildAuthzenRequest req with
  | error why => simp
  | ok body =>
      simp only
      cases service.post batch body with
      | answered tree =>
          simp only
          cases readEvaluationsResponse tree with
          | none => simp
          | some found =>
              simp only [mapEvaluations, Option.some.injEq, when_ok, Except.ok.injEq]
              constructor
              · rintro ⟨counted, rfl⟩
                exact ⟨found, rfl, counted, rfl⟩
              · rintro ⟨_, rfl, counted, rfl⟩
                exact ⟨counted, rfl⟩
      | _ => simp

theorem answered_iff :
    service.Answered batch req ↔ ∃ decisions, service.decideBatch batch req = .ok decisions := by
  constructor
  · rintro ⟨found, answer, counted⟩
    exact ⟨_, decideBatch_eq_ok.mpr ⟨found, answer, counted, rfl⟩⟩
  · rintro ⟨decisions, decided⟩
    obtain ⟨found, answer, counted, -⟩ := decideBatch_eq_ok.mp decided
    exact ⟨found, answer, counted⟩

theorem built_of_decided {decisions : Decisions}
    (decided : service.decideBatch batch req = .ok decisions) :
    ∃ body, buildAuthzenRequest req = .ok body := by
  obtain ⟨body, _, _, built, _⟩ := decideBatch_ok decided
  exact ⟨body, built⟩

theorem pairs_keys {resources : List (String × List String)} {found : List EvaluationEntry}
    (counted : found.length = resources.length) :
    (pairs resources found).map Prod.fst = resources.map Prod.fst := by
  unfold pairs
  rw [List.map_zipWith]
  apply List.ext_getElem
  · simp [counted]
  · intro place _ _
    simp

end Batch

section Batches

variable {service} {req : DecisionRequest} {chunks : List (List (String × List String))}
  {batch : Nat} {before decisions : Decisions}

theorem decideBatches_cons {chunk : List (String × List String)} :
    service.decideBatches req batch (chunk :: chunks) before =
      service.decideBatch batch (forBatch req chunk) >>= fun part =>
        service.decideBatches req (batch + 1) chunks (part ++ before) := by
  conv_lhs => rw [decideBatches]
  unfold forBatch
  cases service.decideBatch batch { req with resources := chunk } with
  | error why => rfl
  | ok part => rfl

theorem decideBatchesPosting_outcome :
    (service.decideBatchesPosting req batch chunks before).2 =
      service.decideBatches req batch chunks before := by
  induction chunks generalizing batch before with
  | nil => rfl
  | cons chunk rest ih =>
      rw [decideBatches_cons]
      unfold decideBatchesPosting
      cases built : buildAuthzenRequest (forBatch req chunk) with
      | error why =>
          have refused : service.decideBatch batch (forBatch req chunk) = .error why := by
            unfold decideBatch
            rw [built]
          rw [refused]
          rfl
      | ok body =>
          cases service.decideBatch batch (forBatch req chunk) with
          | error why => rfl
          | ok part => exact ih

theorem answered_before_cons {chunk : List (String × List String)} {place : Nat} :
    (∀ earlier < place + 1, ∀ other, (chunk :: chunks)[earlier]? = some other →
        service.Answered (batch + earlier) (forBatch req other)) ↔
      service.Answered batch (forBatch req chunk) ∧
        ∀ earlier < place, ∀ other, chunks[earlier]? = some other →
          service.Answered (batch + 1 + earlier) (forBatch req other) := by
  constructor
  · intro all
    refine ⟨all 0 (Nat.succ_pos _) chunk rfl, ?_⟩
    intro earlier less other found
    have shifted := all (earlier + 1) (by omega) other found
    rwa [Nat.add_assoc, Nat.add_comm 1]
  · rintro ⟨first, later⟩ earlier less other found
    cases earlier with
    | zero =>
        cases found
        exact first
    | succ earlier =>
        have shifted := later earlier (by omega) other found
        rwa [Nat.add_assoc, Nat.add_comm 1] at shifted

theorem decideBatchesPosting_posts {place : Nat} {body : Value} :
    (service.decideBatchesPosting req batch chunks before).1[place]? = some body ↔
      ∃ chunk, chunks[place]? = some chunk ∧ buildAuthzenRequest (forBatch req chunk) = .ok body ∧
        ∀ earlier < place, ∀ other, chunks[earlier]? = some other →
          service.Answered (batch + earlier) (forBatch req other) := by
  induction chunks generalizing batch before place with
  | nil => simp [decideBatchesPosting]
  | cons chunk rest ih =>
      unfold decideBatchesPosting
      cases built : buildAuthzenRequest (forBatch req chunk) with
      | error why =>
          -- without a body for this batch, nothing is posted for it or after it
          have unanswered : ¬service.Answered batch (forBatch req chunk) := by
            intro answer
            obtain ⟨part, decided⟩ := answered_iff.mp answer
            obtain ⟨body, other⟩ := built_of_decided decided
            rw [built] at other
            cases other
          cases place with
          | zero => simp [built]
          | succ place =>
              simp only [answered_before_cons, unanswered, false_and, and_false, exists_false,
                List.getElem?_nil, reduceCtorEq]
      | ok first =>
          cases decided : service.decideBatch batch (forBatch req chunk) with
          | error why =>
              have unanswered : ¬service.Answered batch (forBatch req chunk) := by
                intro answer
                obtain ⟨part, other⟩ := answered_iff.mp answer
                rw [decided] at other
                cases other
              cases place with
              | zero => simp [built]
              | succ place =>
                  simp only [answered_before_cons, unanswered, false_and, and_false, exists_false,
                    List.getElem?_cons_succ, List.getElem?_nil, reduceCtorEq]
          | ok part =>
              have answer : service.Answered batch (forBatch req chunk) :=
                answered_iff.mpr ⟨part, decided⟩
              cases place with
              | zero => simp [built]
              | succ place =>
                  simp only [List.getElem?_cons_succ, answered_before_cons, answer, true_and]
                  exact ih

theorem decideBatches_ok (decided : service.decideBatches req batch chunks before = .ok decisions) :
    decisions.map Prod.fst = (chunks.flatten.map Prod.fst).reverse ++ before.map Prod.fst ∧
      (∀ pair ∈ before, pair ∈ decisions) ∧
      ∀ place chunk, chunks[place]? = some chunk →
        ∃ found, service.evaluations (batch + place) (forBatch req chunk) = some found ∧
          found.length = chunk.length ∧ ∀ pair ∈ pairs chunk found, pair ∈ decisions := by
  induction chunks generalizing batch before with
  | nil =>
      cases decided
      exact ⟨by simp, fun _ member => member, by simp⟩
  | cons chunk rest ih =>
      rw [decideBatches_cons, bind_ok] at decided
      obtain ⟨part, first, onward⟩ := decided
      obtain ⟨found, answer, counted, rfl⟩ := decideBatch_eq_ok.mp first
      obtain ⟨keys, kept, later⟩ := ih onward
      refine ⟨?_, ?_, ?_⟩
      · have own : (pairs (forBatch req chunk).resources found).map Prod.fst =
            chunk.map Prod.fst := pairs_keys counted
        rw [keys, List.map_append, List.map_reverse, own]
        simp
      · intro pair member
        exact kept pair (List.mem_append_right _ member)
      · intro place other at_
        cases place with
        | zero =>
            cases at_
            refine ⟨found, answer, counted, ?_⟩
            intro pair member
            exact kept pair (List.mem_append_left _ (List.mem_reverse.mpr member))
        | succ place =>
            have shifted := later place other at_
            rwa [Nat.add_assoc, Nat.add_comm 1] at shifted

end Batches

section Decide

variable (req : DecisionRequest)

def batches : List (List (String × List String)) := req.resources.toChunks maxEvaluations

def askedAbout (evaluation : Value) : Option (String × String × List String) := do
  let resource ← evaluation.get "resource"
  let type ← (← resource.get "type").asStr
  let id ← (← resource.get "id").asStr
  let fqns ← (← (← resource.get "properties").get "attribute_value_fqns").asArray
  return (type, id, ← fqns.mapM Value.asStr)

/-- How `decide` posts the resources and pairs the answers with them. -/
structure DecidesInBatches : Prop where
  /-- Without resources there is no request. -/
  nothing : req.resources = [] → service.decidePosting req = ([], .ok [])
  outcome : (service.decidePosting req).2 = service.decide req
  /-- The batches hold the resources in order, each once. -/
  whole : (batches req).flatten = req.resources
  bounded : ∀ chunk ∈ batches req, chunk.length ≤ 500
  /-- The request posted at a place is the one for the batch at that place, and it is posted when all
  batches before it were answered. -/
  posted : ∀ place body, (service.decidePosting req).1[place]? = some body ↔
    service.endpoint = true ∧ ∃ chunk, (batches req)[place]? = some chunk ∧
      buildAuthzenRequest (forBatch req chunk) = .ok body ∧
      ∀ earlier < place, ∀ other, (batches req)[earlier]? = some other →
        service.Answered earlier (forBatch req other)
  /-- Its evaluations ask about the resources of that batch, in order. -/
  asked : ∀ (place : Nat) (body : Value), (service.decidePosting req).1[place]? = some body →
    ∃ (chunk : List (String × List String)) (evaluations : List Value),
      (batches req)[place]? = some chunk ∧ body.get "evaluations" = some (.array evaluations) ∧
      evaluations.map askedAbout =
        chunk.map fun resource => some (req.resourceType.asStr, resource.1, resource.2)
  failed : ∀ place chunk, (batches req)[place]? = some chunk →
    ¬service.Answered place (forBatch req chunk) → ∃ why, service.decide req = .error why
  /-- A result has exactly the ids of the resources. -/
  ids : ∀ decisions, service.decide req = .ok decisions →
    (decisions.map Prod.fst).Perm (req.resources.map Prod.fst)
  /-- The id at a place is entitled by the evaluation at its place in its batch. -/
  paired : ∀ decisions, service.decide req = .ok decisions →
    ∀ place resource, req.resources[place]? = some resource →
      ∃ chunk found evaluation entitled, (batches req)[place / 500]? = some chunk ∧
        chunk[place % 500]? = some resource ∧
        service.evaluations (place / 500) (forBatch req chunk) = some found ∧
        found[place % 500]? = some evaluation ∧
        decisions.lookup resource.1 = some entitled ∧
        (entitled = true ↔ evaluation.decision = true ∧
          ∀ required, (obligationsOf evaluation.context).bind (fun o => o.get "required") =
            some required → required = .array [])

variable {service} {req}

theorem decidePosting_outcome : (service.decidePosting req).2 = service.decide req := by
  unfold decidePosting decide
  split
  · rfl
  · split
    · rfl
    · exact decideBatchesPosting_outcome

theorem decide_ok {decisions : Decisions} (decided : service.decide req = .ok decisions) :
    service.decideBatches req 0 (batches req) [] = .ok decisions := by
  unfold decide at decided
  split at decided
  · rename_i empty
    cases decided
    rw [batches, List.isEmpty_iff.mp empty]
    rfl
  · split at decided
    · cases decided
    · exact decided

theorem posts_iff {place : Nat} {body : Value} :
    (service.decidePosting req).1[place]? = some body ↔
      service.endpoint = true ∧ ∃ chunk, (batches req)[place]? = some chunk ∧
        buildAuthzenRequest (forBatch req chunk) = .ok body ∧
        ∀ earlier < place, ∀ other, (batches req)[earlier]? = some other →
          service.Answered earlier (forBatch req other) := by
  unfold decidePosting
  split
  · rename_i empty
    have none : batches req = [] := by
      rw [batches, List.isEmpty_iff.mp empty]
      rfl
    simp [none]
  · cases reached : service.endpoint with
    | false => simp
    | true =>
        have run := @decideBatchesPosting_posts service req (batches req) 0 [] place body
        simp only [Nat.zero_add] at run
        simp only [Bool.not_true, Bool.false_eq_true, if_false, true_and]
        exact run

theorem mapM_asStr_map (texts : List String) :
    (texts.map Value.string).mapM Value.asStr = some texts := by
  induction texts with
  | nil => rfl
  | cons text rest ih => simp [Value.asStr, ih]

theorem askedAbout_evaluationFor (type : ResourceType) (resource : String × List String) :
    askedAbout (evaluationFor type resource) = some (type.asStr, resource.1, resource.2) := by
  change (do
    let fqns ← (resource.2.map Value.string).mapM Value.asStr
    return (type.asStr, resource.1, fqns)) = _
  rw [mapM_asStr_map]
  rfl

theorem build_evaluations {body : Value} (built : buildAuthzenRequest req = .ok body) :
    body.get "evaluations" =
      some (.array (req.resources.map (evaluationFor req.resourceType))) := by
  unfold buildAuthzenRequest at built
  split at built
  · cases built
  · rw [unless_error_ok] at built
    rw [← Except.ok.inj built.2]
    rfl

theorem posts_asked {place : Nat} {body : Value}
    (posted : (service.decidePosting req).1[place]? = some body) :
    ∃ chunk evaluations, (batches req)[place]? = some chunk ∧
      body.get "evaluations" = some (.array evaluations) ∧
      evaluations.map askedAbout =
        chunk.map fun resource => some (req.resourceType.asStr, resource.1, resource.2) := by
  obtain ⟨-, chunk, batched, built, -⟩ := posts_iff.mp posted
  refine ⟨chunk, _, batched, build_evaluations built, ?_⟩
  rw [List.map_map]
  exact List.map_congr_left fun resource _ => askedAbout_evaluationFor req.resourceType resource

theorem entitled_iff {evaluation : EvaluationEntry} :
    evaluationEntitled evaluation.decision evaluation.context = true ↔
      evaluation.decision = true ∧
        ∀ required, (obligationsOf evaluation.context).bind (fun o => o.get "required") =
          some required → required = .array [] := by
  rw [evaluationEntitled, Bool.and_eq_true, Bool.not_eq_true', accepted_iff]

theorem maxEvaluations_pos : 0 < maxEvaluations := by decide

theorem decide_ids {decisions : Decisions} (decided : service.decide req = .ok decisions) :
    decisions.map Prod.fst = (req.resources.map Prod.fst).reverse := by
  have run := decideBatches_ok (decide_ok decided)
  rw [run.1, batches, flatten_toChunks maxEvaluations_pos]
  simp

/-- The decision for a resource is made from the evaluation at its place. -/
theorem decide_paired (distinct : (req.resources.map Prod.fst).Nodup) {decisions : Decisions}
    (decided : service.decide req = .ok decisions) {place : Nat} {resource : String × List String}
    (at_ : req.resources[place]? = some resource) :
    ∃ chunk found evaluation, (batches req)[place / 500]? = some chunk ∧
      chunk[place % 500]? = some resource ∧
      service.evaluations (place / 500) (forBatch req chunk) = some found ∧
      found[place % 500]? = some evaluation ∧
      decisions.lookup resource.1 =
        some (evaluationEntitled evaluation.decision evaluation.context) := by
  have stands := getElem_toChunks maxEvaluations_pos req.resources place
  rw [at_] at stands
  obtain ⟨chunk, batched, inside⟩ := Option.bind_eq_some_iff.mp stands
  change chunk[place % 500]? = some resource at inside
  obtain ⟨-, -, all⟩ := decideBatches_ok (decide_ok decided)
  obtain ⟨found, answer, counted, members⟩ := all (place / 500) chunk batched
  rw [Nat.zero_add] at answer
  obtain ⟨within, same⟩ := List.getElem?_eq_some_iff.mp inside
  have short : place % 500 < found.length := by
    rw [counted]
    exact within
  refine ⟨chunk, found, found[place % 500], batched, inside, answer,
    List.getElem?_eq_getElem short, ?_⟩
  have keys : (decisions.map Prod.fst).Nodup := by
    rw [decide_ids decided]
    exact List.nodup_reverse.mpr distinct
  apply lookup_of_mem keys
  apply members
  rw [pairs, List.mem_iff_getElem?]
  refine ⟨place % 500, ?_⟩
  rw [List.getElem?_zipWith, inside, List.getElem?_eq_getElem short]

end Decide

end DecisionService

end TdfIrohS3
