import TdfIrohS3.Auth.DecisionClient

namespace TdfIrohS3

open Library

section Origins

variable {platform : UrlPlatform} {endpoint url : String}

def Url.Guarded (platform : UrlPlatform) (url : Url) : Prop :=
  url.scheme = "https" ∨ url.scheme = "http" ∧ ∃ host, url.host = some host ∧
    (host = "localhost" ∨ ∃ ip, ip.isLoopback = true ∧
      platform.parseIp (trimEndMatches (trimStartMatches host '[') ']') = some ip)

/-- The URL has the scheme, host and port of the configured endpoint, and is guarded. -/
def OnOrigin (platform : UrlPlatform) (endpoint url : String) : Prop :=
  ∃ parsed base, platform.parse url = some parsed ∧ platform.parse endpoint = some base ∧
    parsed.scheme = base.scheme ∧ parsed.host = base.host ∧
    parsed.portOrKnownDefault = base.portOrKnownDefault ∧
    base.Guarded platform

theorem sameOrigin_iff : sameOrigin platform url endpoint = true ↔
    ∃ parsed base, platform.parse url = some parsed ∧ platform.parse endpoint = some base ∧
      parsed.scheme = base.scheme ∧ parsed.host = base.host ∧
      parsed.portOrKnownDefault = base.portOrKnownDefault := by
  unfold sameOrigin
  cases platform.parse url <;> cases platform.parse endpoint <;> simp [and_assoc]

theorem httpsOrLoopback_iff : httpsOrLoopback platform url = true ↔
    ∃ parsed, platform.parse url = some parsed ∧
      parsed.Guarded platform := by
  unfold httpsOrLoopback Url.Guarded
  cases platform.parse url with
  | none => simp
  | some parsed =>
      simp only [Option.some.injEq, exists_eq_left']
      split
      · rename_i secure
        simp [secure]
      · rename_i plain
        simp [plain, Option.any_eq_true, and_comm]
      · rename_i notSecure notPlain
        have other : ¬parsed.scheme = "https" := notSecure
        have another : ¬parsed.scheme = "http" := notPlain
        simp [other, another]

theorem onOrigin_of_checked (same : sameOrigin platform url endpoint = true)
    (secure : httpsOrLoopback platform url = true) : OnOrigin platform endpoint url := by
  obtain ⟨parsed, base, read, readBase, scheme, host, port⟩ := sameOrigin_iff.mp same
  obtain ⟨other, readAgain, sent⟩ := httpsOrLoopback_iff.mp secure
  rw [read] at readAgain
  cases readAgain
  rw [Url.Guarded, scheme, host] at sent
  exact ⟨parsed, base, read, readBase, scheme, host, port, sent⟩

end Origins

namespace DecisionService

/-- A service that answers the batches of one decision with these documents, in this order. -/
def replaying (trees : List Value) : DecisionService where
  endpoint := true
  post batch _ := (trees[batch]?.map PostAnswer.answered).getD .unsent

variable {req : DecisionRequest} {trees : List Value} {batch : List (String × List String)}
variable {rest : List (List (String × List String))} {decisions part : Decisions} {body tree : Value}

theorem replaying_post (more : List Value) (body : Value) :
    (replaying (trees ++ tree :: more)).post trees.length body = .answered tree := by
  simp [replaying]

theorem decideBatches_replayed {evaluations : List EvaluationEntry} (more : List Value)
    (built : buildAuthzenRequest (forBatch req batch) = .ok body)
    (read : readEvaluationsResponse tree = some evaluations)
    (mapped : mapEvaluations batch evaluations = .ok part) :
    (replaying (trees ++ tree :: more)).decideBatches req trees.length (batch :: rest) decisions =
      (replaying (trees ++ tree :: more)).decideBatches req (trees.length + 1) rest
        (part ++ decisions) := by
  have decided : (replaying (trees ++ tree :: more)).decideBatch trees.length (forBatch req batch) =
      .ok part := by
    unfold decideBatch
    rw [built]
    simp only [replaying_post, read]
    exact mapped
  rw [decideBatches_cons, decided]
  rfl

end DecisionService

namespace AuthZenClient

variable {platform : UrlPlatform} {last : Nat} {client after : AuthZenClient}
variable {log notices : List DecideNotice}

inductive Effect (platform : UrlPlatform) (client : AuthZenClient) :
    AuthZenClient → List DecideNotice → Prop
  | returned (req : DecisionRequest) (empty : req.resources.isEmpty = true) :
      Effect platform client { client with nextId := client.nextId + 1 }
        [.decided client.nextId req []]
  | started (req : DecisionRequest) :
      Effect platform client
        ({ client with nextId := client.nextId + 1 }.setTask client.nextId
          (some ⟨req, req.resources.toChunks DecisionService.maxEvaluations, [],
            (client.evaluationsUrl.map DecidePhase.minting).getD .discovering⟩)) []
  | failed (id : Nat) (cache : Option CachedToken) (why : String) :
      Effect platform client ({ client with tokenCache := cache }.setTask id none) [.failed id why]
  | discovered {id : Nat} {task : DecideTask} {url : String} (held : client.tasks id = some task)
      (checked : OnOrigin platform client.endpoint url) :
      Effect platform client
        ({ client with evaluationsUrl := some url }.setTask id
          (some { task with phase := .minting url })) []
  | posted {id : Nat} {req : DecisionRequest} {batch : List (String × List String)}
      {rest : List (List (String × List String))} {decisions : Decisions} {url : String}
      {body : Value} (cache : Option CachedToken) (token : Option String)
      (held : client.tasks id = some ⟨req, batch :: rest, decisions, .minting url⟩)
      (built : buildAuthzenRequest (DecisionService.forBatch req batch) = .ok body) :
      Effect platform client
        ({ client with tokenCache := cache }.setTask id
          (some ⟨req, batch :: rest, decisions, .posting url body⟩)) [.posted id url token body]
  | merged {id : Nat} {req : DecisionRequest} {batch : List (String × List String)}
      {rest : List (List (String × List String))} {decisions part : Decisions} {url : String}
      {body tree : Value} {evaluations : List EvaluationEntry}
      (held : client.tasks id = some ⟨req, batch :: rest, decisions, .posting url body⟩)
      (read : readEvaluationsResponse tree = some evaluations)
      (mapped : mapEvaluations batch evaluations = .ok part) :
      Effect platform client
        (client.merge id ⟨req, batch :: rest, decisions, .posting url body⟩ url part rest).1
        ((client.merge id ⟨req, batch :: rest, decisions, .posting url body⟩ url part rest).2 ++
          [.answered id url body tree])

theorem discoveredUrl_ok {answer : DiscoveryAnswer} {url : String}
    (found : client.discoveredUrl platform answer = .ok url) :
    OnOrigin platform client.endpoint url := by
  unfold discoveredUrl at found
  split at found
  · cases found
  · cases found
  · cases found
  · split at found
    · cases found
    · split at found
      · rename_i same
        split at found
        · rename_i secure
          cases found
          exact onOrigin_of_checked same secure
        · cases found
      · cases found

theorem effect_of_next {event : DecideEvent}
    (taken : client.next platform last event = some (after, notices)) :
    Effect platform client after notices := by
  cases event with
  | decide req =>
      simp only [next] at taken
      split at taken <;> cases taken
      · rename_i empty
        exact .returned req empty
      · exact .started req
  | discovered id answer =>
      simp only [next] at taken
      split at taken
      · rename_i held
        split at taken <;> cases taken
        · exact .failed id client.tokenCache _
        · rename_i found
          exact .discovered held (discoveredUrl_ok found)
      · cases taken
  | bearer id call =>
      simp only [next] at taken
      split at taken
      · rename_i held
        split at taken
        · cases taken
          exact .failed id client.tokenCache _
        · rename_i built
          split at taken <;> cases taken
          · exact .failed id _ _
          · exact .posted _ _ held built
      · cases taken
  | answered id answer =>
      simp only [next] at taken
      split at taken
      · rename_i held
        split at taken
        · cases taken
          exact .failed id client.tokenCache _
        · cases taken
          exact .failed id client.tokenCache _
        · cases taken
          exact .failed id client.tokenCache _
        · split at taken
          · cases taken
            exact .failed id client.tokenCache _
          · rename_i read
            split at taken
            · cases taken
              exact .failed id client.tokenCache _
            · rename_i mapped
              cases taken
              exact .merged held read mapped
      · cases taken

def batchesOf (req : DecisionRequest) : List (List (String × List String)) :=
  req.resources.toChunks DecisionService.maxEvaluations

def Heard (platform : UrlPlatform) (endpoint : String) (log : List DecideNotice) (id : Nat)
    (req : DecisionRequest) (trees : List Value) : Prop :=
  ∀ (place : Nat) tree, trees[place]? = some tree → ∃ url batch body,
    (batchesOf req)[place]? = some batch ∧
    buildAuthzenRequest (DecisionService.forBatch req batch) = .ok body ∧
    .answered id url body tree ∈ log ∧ OnOrigin platform endpoint url

def postsTo : DecidePhase → Option String
  | .discovering => none
  | .minting url | .posting url _ => some url

/-- A call so far: it has decided its first batches as they were answered. -/
structure Progress (platform : UrlPlatform) (endpoint : String) (log : List DecideNotice) (id : Nat)
    (task : DecideTask) (trees : List Value) : Prop where
  split : ∃ front, batchesOf task.req = front ++ task.batches ∧ front.length = trees.length
  replayed : ∀ more, (DecisionService.replaying (trees ++ more)).decideBatches task.req 0
      (batchesOf task.req) [] =
    (DecisionService.replaying (trees ++ more)).decideBatches task.req trees.length task.batches
      task.decisions
  heard : Heard platform endpoint log id task.req trees
  url : ∀ url ∈ postsTo task.phase, OnOrigin platform endpoint url
  body : ∀ url body, task.phase = .posting url body → ∃ batch rest, task.batches = batch :: rest ∧
    buildAuthzenRequest (DecisionService.forBatch task.req batch) = .ok body

structure Safe (platform : UrlPlatform) (endpoint : String) (log : List DecideNotice)
    (client : AuthZenClient) : Prop where
  configured : client.endpoint = endpoint
  cached : ∀ url ∈ client.evaluationsUrl, OnOrigin platform endpoint url
  tasks : ∀ id task, client.tasks id = some task → ∃ trees,
    Progress platform endpoint log id task trees
  posted : ∀ id url token body, .posted id url token body ∈ log → OnOrigin platform endpoint url
  decided : ∀ id req decisions, .decided id req decisions ∈ log → ∃ trees,
    (DecisionService.replaying trees).decide req = .ok decisions ∧
      Heard platform endpoint log id req trees

section Steps

variable {endpoint : String} {id : Nat} {task : DecideTask} {trees : List Value}
variable {req : DecisionRequest} {batch : List (String × List String)}
variable {rest : List (List (String × List String))} {decisions part : Decisions} {url : String}
variable {body tree : Value} {evaluations : List EvaluationEntry}

theorem Heard.mono (heard : Heard platform endpoint log id req trees)
    (more : List DecideNotice) : Heard platform endpoint (more ++ log) id req trees := by
  intro place tree there
  obtain ⟨url, batch, body, found, built, answered, origin⟩ := heard place tree there
  exact ⟨url, batch, body, found, built, List.mem_append_right _ answered, origin⟩

theorem Progress.mono (progress : Progress platform endpoint log id task trees)
    (more : List DecideNotice) : Progress platform endpoint (more ++ log) id task trees :=
  { progress with heard := progress.heard.mono more }

theorem Progress.start (req : DecisionRequest) {phase : DecidePhase}
    (url : ∀ url ∈ postsTo phase, OnOrigin platform endpoint url)
    (idle : ∀ url body, phase ≠ .posting url body) :
    Progress platform endpoint log id ⟨req, batchesOf req, [], phase⟩ [] where
  split := ⟨[], rfl, rfl⟩
  replayed := fun _ => rfl
  heard := by
    intro place tree there
    simp at there
  url := url
  body := fun url body same => absurd same (idle url body)

theorem Progress.answered
    (progress : Progress platform endpoint log id
      ⟨req, batch :: rest, decisions, .posting url body⟩ trees)
    (heardNow : .answered id url body tree ∈ log)
    (read : readEvaluationsResponse tree = some evaluations)
    (mapped : mapEvaluations batch evaluations = .ok part) :
    Progress platform endpoint log id ⟨req, rest, part ++ decisions, .minting url⟩
      (trees ++ [tree]) := by
  obtain ⟨front, split, counted⟩ := progress.split
  obtain ⟨current, others, same, built⟩ := progress.body url body rfl
  cases same
  have origin := progress.url url rfl
  constructor
  · refine ⟨front ++ [batch], ?_, ?_⟩
    · simpa using split
    · simp [counted]
  · intro more
    have before := progress.replayed (tree :: more)
    rw [DecisionService.decideBatches_replayed more built read mapped] at before
    simpa using before
  · intro place found there
    by_cases older : place < trees.length
    · rw [List.getElem?_append_left older] at there
      exact progress.heard place found there
    · rw [List.getElem?_append_right (Nat.le_of_not_lt older)] at there
      obtain ⟨here, rfl⟩ : place = trees.length ∧ tree = found := by
        cases gap : place - trees.length with
        | zero =>
            rw [gap] at there
            exact ⟨by omega, Option.some.inj there⟩
        | succ n =>
            rw [gap] at there
            cases there
      refine ⟨url, batch, body, ?_, built, heardNow, origin⟩
      change batchesOf req = front ++ batch :: rest at split
      rw [split, here, ← counted]
      simp
  · intro other member
    cases member
    exact origin
  · intro other otherBody same
    cases same

theorem Progress.decided {phase : DecidePhase}
    (progress : Progress platform endpoint log id ⟨req, [], decisions, phase⟩ trees)
    (nonempty : trees ≠ []) :
    (DecisionService.replaying trees).decide req = .ok decisions := by
  obtain ⟨front, split, counted⟩ := progress.split
  change batchesOf req = front ++ [] at split
  have some : req.resources.isEmpty = false := by
    cases resources : req.resources with
    | cons resource others => rfl
    | nil =>
        rw [batchesOf, resources, List.append_nil] at split
        rw [← split] at counted
        exact absurd (List.eq_nil_of_length_eq_zero counted.symm) nonempty
  have replayed := progress.replayed []
  rw [List.append_nil] at replayed
  unfold DecisionService.decide
  rw [some]
  exact replayed

theorem Safe.extend (safe : Safe platform endpoint log client)
    (configured : after.endpoint = client.endpoint)
    (cached : ∀ url ∈ after.evaluationsUrl, url ∈ client.evaluationsUrl ∨
      OnOrigin platform endpoint url)
    (tasks : ∀ id task, after.tasks id = some task → client.tasks id = some task ∨
      ∃ trees, Progress platform endpoint (notices ++ log) id task trees)
    (posted : ∀ id url token body, .posted id url token body ∈ notices →
      OnOrigin platform endpoint url)
    (decided : ∀ id req decisions, .decided id req decisions ∈ notices → ∃ trees,
      (DecisionService.replaying trees).decide req = .ok decisions ∧
        Heard platform endpoint (notices ++ log) id req trees) :
    Safe platform endpoint (notices ++ log) after where
  configured := configured.trans safe.configured
  cached := fun url member => (cached url member).elim (safe.cached url) id
  tasks := by
    intro id task held
    rcases tasks id task held with old | new
    · obtain ⟨trees, progress⟩ := safe.tasks id task old
      exact ⟨trees, progress.mono notices⟩
    · exact new
  posted := by
    intro id url token body member
    rcases List.mem_append.mp member with new | old
    · exact posted id url token body new
    · exact safe.posted id url token body old
  decided := by
    intro id req decisions member
    rcases List.mem_append.mp member with new | old
    · exact decided id req decisions new
    · obtain ⟨trees, same, heard⟩ := safe.decided id req decisions old
      exact ⟨trees, same, heard.mono notices⟩

theorem tasks_of_update {tasks : Nat → Option DecideTask} {id : Nat} {task : DecideTask}
    (moved : ∃ trees, Progress platform endpoint log id task trees) (other : Nat)
    (found : DecideTask) (held : Function.update tasks id (some task) other = some found) :
    tasks other = some found ∨ ∃ trees, Progress platform endpoint log other found trees := by
  rcases held_of_fill held with ⟨rfl, rfl⟩ | old
  · exact .inr moved
  · exact .inl old

theorem Safe.started (safe : Safe platform endpoint log client) (req : DecisionRequest) :
    Safe platform endpoint ([] ++ log)
      ({ client with nextId := client.nextId + 1 }.setTask client.nextId
        (some ⟨req, batchesOf req, [],
          (client.evaluationsUrl.map DecidePhase.minting).getD .discovering⟩)) := by
  refine safe.extend rfl (fun _ member => .inl member) (tasks_of_update ⟨[], ?_⟩) nofun nofun
  refine .start req ?_ ?_
  · intro url member
    cases cached : client.evaluationsUrl with
    | none =>
        rw [cached] at member
        cases member
    | some known =>
        rw [cached] at member
        cases member
        exact safe.cached _ cached
  · intro url body
    cases client.evaluationsUrl <;> simp

theorem Safe.discovered (safe : Safe platform endpoint log client)
    (held : client.tasks id = some task) (origin : OnOrigin platform endpoint url) :
    Safe platform endpoint ([] ++ log)
      ({ client with evaluationsUrl := some url }.setTask id
        (some { task with phase := .minting url })) := by
  obtain ⟨trees, progress⟩ := safe.tasks id task held
  refine safe.extend rfl ?_ (tasks_of_update ⟨trees, ?_⟩) nofun nofun
  · intro found member
    cases member
    exact .inr origin
  · refine { progress with url := ?_, body := nofun }
    intro found member
    cases member
    exact origin

theorem Safe.posting (safe : Safe platform endpoint log client) (cache : Option CachedToken)
    (token : Option String)
    (held : client.tasks id = some ⟨req, batch :: rest, decisions, .minting url⟩)
    (built : buildAuthzenRequest (DecisionService.forBatch req batch) = .ok body) :
    Safe platform endpoint ([.posted id url token body] ++ log)
      ({ client with tokenCache := cache }.setTask id
        (some ⟨req, batch :: rest, decisions, .posting url body⟩)) := by
  obtain ⟨trees, progress⟩ := safe.tasks id _ held
  have origin := progress.url url rfl
  refine safe.extend rfl (fun _ member => .inl member) (tasks_of_update ⟨trees, ?_⟩) ?_ ?_
  · refine { progress.mono _ with url := ?_, body := ?_ }
    · intro found member
      cases member
      exact origin
    · intro found foundBody same
      cases same
      exact ⟨batch, rest, rfl, built⟩
  · intro other found otherToken otherBody member
    cases List.mem_singleton.mp member
    exact origin
  · intro other otherReq otherDecisions member
    cases List.mem_singleton.mp member

theorem Safe.merged (safe : Safe platform endpoint log client)
    (held : client.tasks id = some ⟨req, batch :: rest, decisions, .posting url body⟩)
    (read : readEvaluationsResponse tree = some evaluations)
    (mapped : mapEvaluations batch evaluations = .ok part) :
    Safe platform endpoint
      (((client.merge id ⟨req, batch :: rest, decisions, .posting url body⟩ url part rest).2 ++
        [.answered id url body tree]) ++ log)
      (client.merge id ⟨req, batch :: rest, decisions, .posting url body⟩ url part rest).1 := by
  obtain ⟨trees, progress⟩ := safe.tasks id _ held
  unfold merge
  split
  · rename_i done
    cases List.isEmpty_iff.mp done
    have ended := (progress.mono [.decided id req (part ++ decisions),
      .answered id url body tree]).answered (by simp) read mapped
    refine safe.extend rfl (fun _ member => .inl member) (fun _ _ there => .inl (held_of_clear there))
      ?_ ?_
    · intro other found token otherBody member
      simp at member
    · intro other otherReq otherDecisions member
      simp only [List.singleton_append, List.mem_cons, DecideNotice.decided.injEq, reduceCtorEq,
        List.not_mem_nil, or_false] at member
      obtain ⟨rfl, rfl, rfl⟩ := member
      exact ⟨trees ++ [tree], ended.decided (by simp), ended.heard⟩
  · have moved := (progress.mono [.answered id url body tree]).answered (by simp) read mapped
    refine safe.extend rfl (fun _ member => .inl member) (tasks_of_update ⟨_, moved⟩) ?_ ?_
    · intro other found token otherBody member
      simp at member
    · intro other otherReq otherDecisions member
      simp at member

theorem safe_step (safe : Safe platform endpoint log client)
    (effect : Effect platform client after notices) :
    Safe platform endpoint (notices ++ log) after := by
  cases effect with
  | returned req empty =>
      refine safe.extend rfl (fun _ member => .inl member) (fun _ _ there => .inl there) ?_ ?_
      · intro id url token body member
        cases List.mem_singleton.mp member
      · intro id other decisions member
        cases List.mem_singleton.mp member
        refine ⟨[], ?_, ?_⟩
        · unfold DecisionService.decide
          rw [empty]
          rfl
        · intro place tree there
          simp at there
  | started req => exact safe.started req
  | failed id cache why =>
      refine safe.extend rfl (fun _ member => .inl member)
        (fun _ _ there => .inl (held_of_clear there)) ?_ ?_
      · intro other url token body member
        cases List.mem_singleton.mp member
      · intro other req decisions member
        cases List.mem_singleton.mp member
  | discovered held checked => exact safe.discovered held (safe.configured ▸ checked)
  | posted cache token held built => exact safe.posting cache token held built
  | merged held read mapped => exact safe.merged held read mapped

theorem safe_new (credential : ServiceCredential) :
    Safe platform (trimEndMatches endpoint '/') [] (.new endpoint credential) where
  configured := rfl
  cached := nofun
  tasks := nofun
  posted := nofun
  decided := nofun

end Steps

theorem run_safe {endpoint : String} {credential : ServiceCredential}
    (run : (decisionClient platform last).Run (fun _ _ _ => True) [] (.new endpoint credential) log
      client) : Safe platform (trimEndMatches endpoint '/') log client :=
  run.invariant (Safe platform (trimEndMatches endpoint '/')) (safe_new credential)
    fun _ _ _ _ _ safe _ taken => safe_step safe (effect_of_next taken)

/-- Whatever discovery documents, tokens and answers come, and whichever decisions run at once: the
service token and the chain are posted only to the scheme, host and port of the configured decision
service, over https or within the host. -/
theorem decisions_are_posted_on_origin {endpoint : String} {credential : ServiceCredential}
    (run : (decisionClient platform last).Run (fun _ _ _ => True) [] (.new endpoint credential) log
      client) {id : Nat} {url : String} {token : Option String} {body : Value}
    (posted : .posted id url token body ∈ log) :
    OnOrigin platform (trimEndMatches endpoint '/') url :=
  (run_safe run).posted id url token body posted

/-- What a call decides, among others that run at once, is what it decides alone with a service that
answers its batches as the origin answered them. -/
theorem decided_as_answered_by_origin {endpoint : String} {credential : ServiceCredential}
    (run : (decisionClient platform last).Run (fun _ _ _ => True) [] (.new endpoint credential) log
      client) {id : Nat} {req : DecisionRequest} {decisions : Decisions}
    (decided : .decided id req decisions ∈ log) :
    ∃ trees, (DecisionService.replaying trees).decide req = .ok decisions ∧
      Heard platform (trimEndMatches endpoint '/') log id req trees :=
  (run_safe run).decided id req decisions decided

section Sample

private def twoHosts : UrlPlatform where
  parse
    | "https://pdp.test" | "https://pdp.test/evaluations" => some ⟨"https", some "pdp.test", some 443⟩
    | "https://other.test/evaluations" => some ⟨"https", some "other.test", some 443⟩
    | _ => none
  parseIp _ := none

private def patronRequest : DecisionRequest :=
  { chain := [⟨.subject, none, .object [("sub", .string "patron")]⟩], action := "read",
    resourceType := .catalogItem, resources := [("a", ["x"]), ("b", ["y"])] }

private def oneOfTwo : Value :=
  .object [("evaluations", .array [.object [("decision", .bool true)],
    .object [("decision", .bool false)]])]

private def spoofedOnce : List DecideEvent :=
  [.decide patronRequest, .decide patronRequest,
    .discovered 0 (.document (some "https://other.test/evaluations")),
    .discovered 1 (.document (some "https://pdp.test/evaluations")),
    .bearer 1 ⟨0, .minted ⟨"service", 300⟩, 1⟩, .decide patronRequest,
    .answered 1 (.answered oneOfTwo), .bearer 2 ⟨2, .unsent, 2⟩]

private def decidedAndPosted (log : List DecideNotice) (_ : AuthZenClient) : Bool :=
  decide (.decided 1 patronRequest [("b", false), ("a", true)] ∈ log) &&
    log.any fun notice => match notice with
      | .posted 2 url token _ => url == "https://pdp.test/evaluations" && token == some "service"
      | _ => false

private theorem spoofedOnce_executed :
    ((decisionClient twoHosts 1000000000000).execute (fun _ _ _ => true) spoofedOnce []
      (.new "https://pdp.test/" (.clientCredentials "https://idp.test/token" "node" "secret"))).map
      (fun ended => decidedAndPosted ended.1 ended.2) = some true := by
  decide +kernel

private theorem spoofedOnce_reached :
    ∃ log client, (decisionClient twoHosts 1000000000000).Run (fun _ _ _ => True) []
        (.new "https://pdp.test/" (.clientCredentials "https://idp.test/token" "node" "secret")) log
        client ∧
      .decided 1 patronRequest [("b", false), ("a", true)] ∈ log ∧
      ∃ body, .posted 2 "https://pdp.test/evaluations" (some "service") body ∈ log := by
  obtain ⟨log, client, run, shown⟩ := Machine.execute_reaches (fun _ _ _ _ => trivial) spoofedOnce
    decidedAndPosted spoofedOnce_executed
  rw [decidedAndPosted, Bool.and_eq_true, decide_eq_true_eq, List.any_eq_true] at shown
  obtain ⟨decided, notice, member, posted⟩ := shown
  refine ⟨log, client, run, decided, ?_⟩
  split at posted
  · rw [Bool.and_eq_true, beq_iff_eq, beq_iff_eq] at posted
    obtain ⟨rfl, rfl⟩ := posted
    exact ⟨_, member⟩
  · cases posted

theorem decisions_are_posted_on_origin_when_spoofed :
    ∃ log client, (decisionClient twoHosts 1000000000000).Run (fun _ _ _ => True) []
        (.new "https://pdp.test/" (.clientCredentials "https://idp.test/token" "node" "secret")) log
        client ∧
      (∃ body, .posted 2 "https://pdp.test/evaluations" (some "service") body ∈ log) ∧
      OnOrigin twoHosts (trimEndMatches "https://pdp.test/" '/') "https://pdp.test/evaluations" := by
  obtain ⟨log, client, run, -, body, posted⟩ := spoofedOnce_reached
  exact ⟨log, client, run, ⟨body, posted⟩, decisions_are_posted_on_origin run posted⟩

theorem decided_as_answered_by_origin_when_spoofed :
    ∃ log client, (decisionClient twoHosts 1000000000000).Run (fun _ _ _ => True) []
        (.new "https://pdp.test/" (.clientCredentials "https://idp.test/token" "node" "secret")) log
        client ∧
      ∃ trees, (DecisionService.replaying trees).decide patronRequest =
          .ok [("b", false), ("a", true)] ∧
        Heard twoHosts (trimEndMatches "https://pdp.test/" '/') log 1 patronRequest trees := by
  obtain ⟨log, client, run, decided, -⟩ := spoofedOnce_reached
  exact ⟨log, client, run, decided_as_answered_by_origin run decided⟩

end Sample

end AuthZenClient

end TdfIrohS3
