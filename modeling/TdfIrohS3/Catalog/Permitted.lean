import TdfIrohS3.Auth.AuthZen
import TdfIrohS3.Catalog.Serving

namespace TdfIrohS3

open Library

namespace Catalogs

variable {platform : CatalogPlatform}

inductive ReadMove (catalogs : Catalogs platform) (event : CatalogEvent) (id : Nat) : GetTask → Prop
  | kept {task : GetTask} (held : catalogs.gets id = some task) : ReadMove catalogs event id task
  | requested {node : Nat} {sub : String} {headers : Headers} (about : event = .get node sub headers)
      (fresh : id = catalogs.nextId) :
      ReadMove catalogs event id { node, sub, headers, phase := .authorizing }
  | verified {old : GetTask} {claims : VerifiedClaims} (about : event = .readerVerified id (.ok claims))
      (held : catalogs.gets id = some old) (token : (bearer old.headers).isSome = true)
      (shown : (catalogs.nodes old.node).ownerHidden (some old.sub) = false) :
      ReadMove catalogs event id { old with phase := .readingPointer claims }
  | found {old : GetTask} {claims : VerifiedClaims} {stored : StoredPointer}
      (about : event = .getPointerRead id true) (held : catalogs.gets id = some old)
      (phase : old.phase = .readingPointer claims) (found : Found catalogs old.sub stored)
      (allowed : (catalogs.nodes old.node).isBlocked stored.hash = false) :
      ReadMove catalogs event id { old with phase := .readingIndex claims stored }
  | cached {old : GetTask} {claims : VerifiedClaims} {stored : StoredPointer} {fqn : String}
      (about : event = .getPointerRead id true) (held : catalogs.gets id = some old)
      (phase : old.phase = .readingPointer claims) (found : Found catalogs old.sub stored)
      (allowed : (catalogs.nodes old.node).isBlocked stored.hash = false)
      (cached : (catalogs.nodes old.node).attributes.get stored.hash = some fqn) :
      ReadMove catalogs event id { old with phase := .deciding claims stored fqn }
  | read {old : GetTask} {claims : VerifiedClaims} {stored : StoredPointer} {fqn : String}
      (held : catalogs.gets id = some old) (phase : old.phase = .readingIndex claims stored)
      (read : resolveAttribute platform.toFormats (catalogs.bucket.indexes.get stored.hash) =
        .ok fqn) : ReadMove catalogs event id { old with phase := .deciding claims stored fqn }

inductive ServedBy (catalogs : Catalogs platform) (event : CatalogEvent) (id : Nat) :
    String → StoredPointer → Prop
  | cached {task : GetTask} {claims : VerifiedClaims} {stored : StoredPointer}
      (about : event = .getPointerRead id true) (held : catalogs.gets id = some task)
      (phase : task.phase = .readingPointer claims) (found : Found catalogs task.sub stored)
      (allowed : (catalogs.nodes task.node).isBlocked stored.hash = false)
      (operator : isOperator (catalogs.nodes task.node) claims = true) :
      ServedBy catalogs event id task.sub stored
  | read {task : GetTask} {claims : VerifiedClaims} {stored : StoredPointer}
      (about : event = .getIndexRead id true) (held : catalogs.gets id = some task)
      (phase : task.phase = .readingIndex claims stored)
      (operator : isOperator (catalogs.nodes task.node) claims = true) :
      ServedBy catalogs event id task.sub stored
  | decided {task : GetTask} {claims : VerifiedClaims} {stored : StoredPointer} {fqn : String}
      {devices : List (Except AuthError VerifiedClaims)} {decision : Option Decisions}
      {chain : List ChainEntity} (about : event = .readerDecided id devices decision)
      (held : catalogs.gets id = some task) (phase : task.phase = .deciding claims stored fqn)
      (built : readerChain (catalogs.nodes task.node) task.headers claims devices = .ok chain)
      (permitted : readerVerdict stored.hash decision = .ok ()) :
      ServedBy catalogs event id task.sub stored

section Inversion

variable {catalogs after : Catalogs platform} {event : CatalogEvent} {notices : List CatalogNotice}

theorem resolveReader_ok {node : V2State} {sub : String} {headers : Headers}
    {answer : Except AuthError VerifiedClaims} {claims : VerifiedClaims}
    (resolved : resolveReader node sub headers answer = .ok claims) :
    answer = .ok claims ∧ (bearer headers).isSome = true ∧ node.ownerHidden (some sub) = false := by
  unfold resolveReader at resolved
  split at resolved
  · cases resolved
  · rename_i read authorized
    split at resolved
    · cases resolved
    · split at resolved
      · cases resolved
      · rename_i shown
        cases resolved
        unfold authorizeCatalogReader at authorized
        split at authorized
        · cases authorized
        · rename_i token presented
          split at authorized <;> cases authorized
          exact ⟨rfl, by rw [presented]; rfl, by simpa using shown⟩

theorem resolvePointer_allowed {node : V2State} {body : Option (List UInt8)} {stored : StoredPointer}
    (resolved : resolvePointer platform.toFormats node body = .ok stored) :
    node.isBlocked stored.hash = false := by
  unfold resolvePointer at resolved
  split at resolved
  · cases resolved
  · split at resolved
    · cases resolved
    · split at resolved
      · cases resolved
      · rename_i allowed
        cases resolved
        simpa using allowed

theorem isOperator_remember (node : V2State) (hash fqn : String) (claims : VerifiedClaims) :
    isOperator (node.remember hash fqn) claims = isOperator node claims := rfl

def ReadEvent : CatalogEvent → Prop
  | .get .. | .readerVerified .. | .getPointerRead .. | .getIndexRead .. | .readerDecided .. => True
  | _ => False

structure Reads (catalogs : Catalogs platform) (event : CatalogEvent) (after : Catalogs platform)
    (notices : List CatalogNotice) : Prop where
  moves : ∀ id task, after.gets id = some task → ReadMove catalogs event id task
  serves : ∀ id sub stored, .served id sub stored ∈ notices → ServedBy catalogs event id sub stored

theorem aside_reads (effect : Effect catalogs event after notices) (aside : ¬ReadEvent event) :
    Reads catalogs event after notices := by
  have unserved : ∀ answer : CatalogNotice, (∀ id sub stored, answer ≠ .served id sub stored) →
      ∀ id sub stored, .served id sub stored ∈ [answer] → ServedBy catalogs event id sub stored := by
    intro answer other id sub stored member
    exact absurd (List.mem_singleton.mp member).symm (other id sub stored)
  cases effect with
  | getReceived | getAuthorized | getFound | getCached | getRead | getDecided =>
      exact absurd trivial aside
  | getRefused _ id task refusal held =>
      exact ⟨fun _ _ inFlight => .kept (held_of_clear inFlight), unserved _ (by simp)⟩
  | dropped id =>
      exact ⟨fun _ _ inFlight => .kept (held_of_clear inFlight), by simp⟩
  | replaced id outcome task admitted answer held phase expected answers =>
      refine ⟨fun _ _ inFlight => .kept inFlight, ?_⟩
      rcases answers with rfl | rfl <;> simp
  | _ => exact ⟨fun _ _ inFlight => .kept inFlight, by simp⟩

theorem refuseGet_reads (id : Nat) (refusal : Refusal) :
    Reads catalogs event (catalogs.refuseGet id refusal).1 (catalogs.refuseGet id refusal).2 :=
  ⟨fun _ _ inFlight => .kept (held_of_clear inFlight), by simp [refuseGet]⟩

theorem reads_of_moved {moved : Catalogs platform × List CatalogNotice}
    (same : some moved = some (after, notices))
    (reads : Reads catalogs event moved.1 moved.2) : Reads catalogs event after notices := by
  cases Option.some.inj same
  exact reads

theorem attributeKnown_served {id : Nat} {task : GetTask} {claims : VerifiedClaims}
    {stored : StoredPointer} {fqn : String} {other : Nat} {sub : String} {seen : StoredPointer}
    (served : .served other sub seen ∈ (catalogs.attributeKnown id task claims stored fqn).2) :
    other = id ∧ sub = task.sub ∧ seen = stored ∧
      isOperator (catalogs.nodes task.node) claims = true := by
  unfold attributeKnown at served
  split at served
  · rename_i operator
    cases List.mem_singleton.mp served
    exact ⟨rfl, rfl, rfl, operator⟩
  · cases served

theorem readerVerified_reads {id : Nat} {answer : Except AuthError VerifiedClaims}
    (taken : catalogs.next (.readerVerified id answer) = some (after, notices)) :
    Reads catalogs (.readerVerified id answer) after notices := by
  simp only [next] at taken
  split at taken
  · rename_i task held
    split at taken
    · split at taken
      · exact reads_of_moved taken (refuseGet_reads id _)
      · rename_i claims resolved
        refine reads_of_moved taken ⟨?_, by simp⟩
        intro other moved inFlight
        have facts := resolveReader_ok resolved
        rcases held_of_fill inFlight with ⟨rfl, rfl⟩ | inFlight
        · exact .verified (by rw [facts.1]) held facts.2.1 facts.2.2
        · exact .kept inFlight
    · cases taken
  · cases taken

theorem getPointerRead_reads {id : Nat} {read : Bool}
    (taken : catalogs.next (.getPointerRead id read) = some (after, notices)) :
    Reads catalogs (.getPointerRead id read) after notices := by
  simp only [next] at taken
  split at taken
  · rename_i task held
    split at taken
    · rename_i claims phase
      split at taken
      · rename_i answered
        subst answered
        split at taken
        · exact reads_of_moved taken (refuseGet_reads id _)
        · rename_i stored resolved
          have found := resolvePointer_ok resolved
          have allowed := resolvePointer_allowed resolved
          split at taken
          · rename_i fqn cached
            refine reads_of_moved taken ⟨?_, ?_⟩
            · intro other moved inFlight
              rcases attributeKnown_gets _ _ _ _ _ _ inFlight with kept | ⟨rfl, rfl⟩
              · exact .kept kept
              · exact .cached rfl held phase found allowed cached
            · intro other sub seen served
              obtain ⟨rfl, rfl, rfl, operator⟩ := attributeKnown_served served
              exact .cached rfl held phase found allowed operator
          · refine reads_of_moved taken ⟨?_, by simp⟩
            intro other moved inFlight
            rcases held_of_fill inFlight with ⟨rfl, rfl⟩ | inFlight
            · exact .found rfl held phase found allowed
            · exact .kept inFlight
      · exact reads_of_moved taken (refuseGet_reads id _)
    · cases taken
  · cases taken

theorem getIndexRead_reads {id : Nat} {read : Bool}
    (taken : catalogs.next (.getIndexRead id read) = some (after, notices)) :
    Reads catalogs (.getIndexRead id read) after notices := by
  simp only [next] at taken
  split at taken
  · rename_i task held
    split at taken
    · rename_i claims stored phase
      split at taken
      · rename_i answered
        subst answered
        split at taken
        · exact reads_of_moved taken (refuseGet_reads id _)
        · rename_i fqn resolved
          refine reads_of_moved taken ⟨?_, ?_⟩
          · intro other moved inFlight
            rcases attributeKnown_gets _ _ _ _ _ _ inFlight with kept | ⟨rfl, rfl⟩
            · exact .kept kept
            · exact .read held phase resolved
          · intro other sub seen served
            obtain ⟨rfl, rfl, rfl, operator⟩ := attributeKnown_served served
            refine .read rfl held phase ?_
            rwa [setNode_nodes, if_pos rfl, isOperator_remember] at operator
      · exact reads_of_moved taken (refuseGet_reads id _)
    · cases taken
  · cases taken

theorem readerDecided_reads {id : Nat} {devices : List (Except AuthError VerifiedClaims)}
    {decision : Option Decisions}
    (taken : catalogs.next (.readerDecided id devices decision) = some (after, notices)) :
    Reads catalogs (.readerDecided id devices decision) after notices := by
  simp only [next] at taken
  split at taken
  · rename_i task held
    split at taken
    · rename_i claims stored fqn phase
      split at taken
      · exact reads_of_moved taken (refuseGet_reads id _)
      · rename_i chain built
        split at taken
        · exact reads_of_moved taken
            ⟨fun _ _ inFlight => .kept (held_of_clear inFlight), by simp⟩
        · rename_i permitted
          refine reads_of_moved taken ⟨fun _ _ inFlight => .kept (held_of_clear inFlight), ?_⟩
          intro other sub seen served
          have same : CatalogNotice.served other sub seen = .served id task.sub stored := by
            simpa using served
          cases same
          exact .decided rfl held phase built permitted
    · cases taken
  · cases taken

theorem machine_reads (taken : (catalogMachine platform).next catalogs event = some (after, notices)) :
    Reads catalogs event after notices := by
  have effect := machine_effect taken
  change catalogs.next event = some (after, notices) at taken
  cases event with
  | get node sub headers =>
      refine reads_of_moved taken ⟨?_, by simp⟩
      intro id task inFlight
      change (catalogs.setGet catalogs.nextId _).gets id = some task at inFlight
      rcases held_of_fill inFlight with ⟨fresh, rfl⟩ | inFlight
      · exact .requested rfl fresh
      · exact .kept inFlight
  | readerVerified id answer => exact readerVerified_reads taken
  | getPointerRead id read => exact getPointerRead_reads taken
  | getIndexRead id read => exact getIndexRead_reads taken
  | readerDecided id devices decision => exact readerDecided_reads taken
  | _ => exact aside_reads effect id

end Inversion

end Catalogs

/-- A step of the nodes, a decision with the service that makes it, or a change of a stored pointer
that no node makes. -/
inductive StoreEvent
  | catalog (event : CatalogEvent)
  | decided (id : Nat) (devices : List (Except AuthError VerifiedClaims)) (service : DecisionService)
  | pointerChanged (sub : String) (body : Option (List UInt8))

def readerRequest (node : V2State) (chain : List ChainEntity) (hash fqn : String) :
    DecisionRequest :=
  { chain, action := node.readers.action, resourceType := .catalogItem, resources := [(hash, [fqn])] }

namespace Catalogs

variable {platform : CatalogPlatform}

def askedDecision (catalogs : Catalogs platform) (id : Nat)
    (devices : List (Except AuthError VerifiedClaims)) (service : DecisionService) :
    Option Decisions :=
  match catalogs.gets id with
  | some { node, headers, phase := .deciding claims stored fqn, .. } =>
      match readerChain (catalogs.nodes node) headers claims devices with
      | .ok chain =>
          (service.decide (readerRequest (catalogs.nodes node) chain stored.hash fqn)).toOption
      | .error _ => none
  | _ => none

def changePointer (catalogs : Catalogs platform) (sub : String) (body : Option (List UInt8)) :
    Catalogs platform :=
  let pointers := catalogs.bucket.pointers
  catalogs.setBucket { catalogs.bucket with
    pointers := (body.map (pointers.insert sub)).getD (pointers.remove sub) }

def stepOf (catalogs : Catalogs platform) : StoreEvent → Option CatalogEvent
  | .catalog (.readerDecided ..) => none
  | .catalog event => some event
  | .decided id devices service =>
      some (.readerDecided id devices (catalogs.askedDecision id devices service))
  | .pointerChanged .. => none

end Catalogs

def changingMachine (platform : CatalogPlatform) :
    Machine (Catalogs platform) StoreEvent CatalogNotice where
  next catalogs event :=
    match event with
    | .pointerChanged sub body => some (catalogs.changePointer sub body, [])
    | event => (catalogs.stepOf event).bind ((catalogMachine platform).next catalogs)

namespace Catalogs

variable {platform : CatalogPlatform}

def attributeNow (catalogs : Catalogs platform) (hash : String) : Except Refusal String :=
  resolveAttribute platform.toFormats (catalogs.bucket.indexes.get hash)

def Attributed (platform : CatalogPlatform) (hash fqn : String) : Prop :=
  ∃ document sub, platform.blake3Hex document = hash ∧
    envelopeAttribute platform.toFormats platform.toOpentdf document sub = .ok fqn

abbrev Trace (platform : CatalogPlatform) := List (Catalogs platform × StoreEvent)

section Trace

variable (trace : Trace platform) (id node : Nat) (sub : String) (headers : Headers)
variable (claims : VerifiedClaims) (stored : StoredPointer)

def Requested : Prop :=
  ∃ state, (state, .catalog (.get node sub headers)) ∈ trace ∧ state.nextId = id

def VerifiedIn : Prop :=
  ∃ state, (state, .catalog (.readerVerified id (.ok claims))) ∈ trace ∧
    (bearer headers).isSome = true ∧ (state.nodes node).ownerHidden (some sub) = false

def PointerRead : Prop :=
  ∃ state, (state, .catalog (.getPointerRead id true)) ∈ trace ∧ Found state sub stored ∧
    (state.nodes node).isBlocked stored.hash = false

def RecordedIn (hash fqn : String) : Prop :=
  ∃ moment ∈ trace, moment.1.attributeNow hash = .ok fqn

def Justified (task : GetTask) : Prop :=
  Requested trace id task.node task.sub task.headers ∧
    match task.phase with
    | .authorizing => True
    | .readingPointer claims => VerifiedIn trace id task.node task.sub task.headers claims
    | .readingIndex claims stored =>
        VerifiedIn trace id task.node task.sub task.headers claims ∧
          PointerRead trace id task.node task.sub stored
    | .deciding claims stored fqn =>
        VerifiedIn trace id task.node task.sub task.headers claims ∧
          PointerRead trace id task.node task.sub stored ∧ RecordedIn trace stored.hash fqn

end Trace

def Operator (node : V2State) (claims : VerifiedClaims) : Prop :=
  ∃ publishing client, node.publishing = some publishing ∧
    Text.stripPrefix claims.sub "client:" = some client ∧ client ≠ "" ∧
    publishing.policy.operatorClientIds.contains client = true ∧
    claims.aud.contains client = true ∧
    ∃ roles, claims.arkavoRoles = some roles ∧ roles.contains "service-account" = true

/-- Every index record is of the envelope whose hash it is stored under, as publishes write them, and
the JSON library reads back the records of publishes. -/
structure ContentAddressed (first : Catalogs platform) : Prop where
  collisionFree : Function.Injective platform.blake3
  readsBack : ∀ sub, ∀ job : PublishJob platform sub,
    platform.json (platform.toVec job.record.toValue) = .ok job.record.toValue
  recorded : ∀ hash fqn, first.attributeNow hash = .ok fqn → Attributed platform hash fqn

/-- The decision service permitted the catalog to the caller: for a chain whose subject is the caller,
and for the attribute of the catalog's index record. Where records are of their envelopes, the record
still has that attribute when the service is asked. -/
def PermittedIn (first : Catalogs platform) (trace : Trace platform) (id node : Nat)
    (headers : Headers) (claims : VerifiedClaims) (stored : StoredPointer) : Prop :=
  ∃ state devices service token others fqn, (state, .decided id devices service) ∈ trace ∧
    readerChain (state.nodes node) headers claims devices =
      .ok (subjectEntity claims (some token) :: others) ∧
    RecordedIn trace stored.hash fqn ∧
    (ContentAddressed first → state.attributeNow stored.hash = .ok fqn) ∧
    service.Permits (readerRequest (state.nodes node) (subjectEntity claims (some token) :: others)
      stored.hash fqn) claims.sub stored.hash [fqn]

def OperatorIn (trace : Trace platform) (id node : Nat) (claims : VerifiedClaims) : Prop :=
  ∃ state step, (state, .catalog step) ∈ trace ∧
    (step = .getPointerRead id true ∨ step = .getIndexRead id true) ∧
    Operator (state.nodes node) claims

def HandedOver (first : Catalogs platform) (trace : Trace platform) (id : Nat) (sub : String)
    (stored : StoredPointer) : Prop :=
  ∃ node headers claims, Requested trace id node sub headers ∧
    VerifiedIn trace id node sub headers claims ∧ PointerRead trace id node sub stored ∧
    (OperatorIn trace id node claims ∨ PermittedIn first trace id node headers claims stored)

section Past

variable {trace : Trace platform} {moment : Catalogs platform × StoreEvent} {id node : Nat}
variable {sub : String} {headers : Headers} {claims : VerifiedClaims} {stored : StoredPointer}
variable {first : Catalogs platform}

theorem Requested.later (held : Requested trace id node sub headers) :
    Requested (moment :: trace) id node sub headers := by
  obtain ⟨state, member, counted⟩ := held
  exact ⟨state, List.mem_cons_of_mem _ member, counted⟩

theorem VerifiedIn.later (held : VerifiedIn trace id node sub headers claims) :
    VerifiedIn (moment :: trace) id node sub headers claims := by
  obtain ⟨state, member, facts⟩ := held
  exact ⟨state, List.mem_cons_of_mem _ member, facts⟩

theorem PointerRead.later (held : PointerRead trace id node sub stored) :
    PointerRead (moment :: trace) id node sub stored := by
  obtain ⟨state, member, facts⟩ := held
  exact ⟨state, List.mem_cons_of_mem _ member, facts⟩

theorem RecordedIn.later {hash fqn : String} (held : RecordedIn trace hash fqn) :
    RecordedIn (moment :: trace) hash fqn := by
  obtain ⟨earlier, member, resolved⟩ := held
  exact ⟨earlier, List.mem_cons_of_mem _ member, resolved⟩

theorem Justified.later {task : GetTask} (held : Justified trace id task) :
    Justified (moment :: trace) id task := by
  obtain ⟨requested, facts⟩ := held
  refine ⟨requested.later, ?_⟩
  split at facts
  · trivial
  · exact facts.later
  · exact ⟨facts.1.later, facts.2.later⟩
  · exact ⟨facts.1.later, facts.2.1.later, facts.2.2.later⟩

theorem HandedOver.later (held : HandedOver first trace id sub stored) :
    HandedOver first (moment :: trace) id sub stored := by
  obtain ⟨node, headers, claims, requested, verified, read, may⟩ := held
  refine ⟨node, headers, claims, requested.later, verified.later, read.later, ?_⟩
  rcases may with ⟨state, step, member, about, operator⟩ |
    ⟨state, devices, service, token, others, fqn, member, built, recorded, current, permits⟩
  · exact .inl ⟨state, step, List.mem_cons_of_mem _ member, about, operator⟩
  · exact .inr ⟨state, devices, service, token, others, fqn, List.mem_cons_of_mem _ member, built,
      recorded.later, current, permits⟩

end Past

section Step

variable {catalogs after : Catalogs platform} {event : StoreEvent} {notices : List CatalogNotice}

theorem isOperator_operator {node : V2State} {claims : VerifiedClaims}
    (operator : isOperator node claims = true) : Operator node claims := by
  simp only [isOperator, Option.any_eq_true, Bool.and_eq_true, bne_iff_ne] at operator
  obtain ⟨publishing, gated, client, named, ⟨⟨present, listed⟩, meant⟩, roles, held, service⟩ :=
    operator
  exact ⟨publishing, client, gated, named, present, listed, meant, roles, held, service⟩

theorem readerChain_person {node : V2State} {headers : Headers} {claims : VerifiedClaims}
    {devices : List (Except AuthError VerifiedClaims)} {chain : List ChainEntity}
    (built : readerChain node headers claims devices = .ok chain) :
    ∃ token others, chain = subjectEntity claims (some token) :: others := by
  unfold readerChain at built
  split at built
  · simp only [personChain, bind_ok] at built
    obtain ⟨-, -, verified, -, same⟩ := built
    cases same
    exact ⟨_, _, rfl⟩
  · cases built

/-- A step of the changing store is a step of the nodes, or changes a pointer and nothing else. -/
theorem changing_cases
    (taken : (changingMachine platform).next catalogs event = some (after, notices)) :
    (∃ step, catalogs.stepOf event = some step ∧
      (catalogMachine platform).next catalogs step = some (after, notices)) ∨
    (notices = [] ∧ ∃ sub body, event = .pointerChanged sub body ∧
      after = catalogs.changePointer sub body) := by
  simp only [changingMachine] at taken
  split at taken
  · cases taken
    exact .inr ⟨rfl, _, _, rfl, rfl⟩
  · exact .inl (Option.bind_eq_some_iff.mp taken)

theorem stepOf_some {step : CatalogEvent} (of : catalogs.stepOf event = some step) :
    event = .catalog step ∨ ∃ id devices service, event = .decided id devices service ∧
      step = .readerDecided id devices (catalogs.askedDecision id devices service) := by
  unfold stepOf at of
  split at of
  · cases of
  · cases of
    exact .inl rfl
  · cases of
    exact .inr ⟨_, _, _, rfl, rfl⟩
  · cases of

theorem stepOf_plain {step : CatalogEvent} (of : catalogs.stepOf event = some step)
    (plain : ∀ id devices decision, step ≠ .readerDecided id devices decision) :
    event = .catalog step := by
  rcases stepOf_some of with same | ⟨id, devices, service, -, same⟩
  · exact same
  · exact absurd same (plain _ _ _)

theorem mem_of_plain {step : CatalogEvent} {trace : Trace platform}
    (of : catalogs.stepOf event = some step)
    (plain : ∀ id devices decision, step ≠ .readerDecided id devices decision) :
    (catalogs, .catalog step) ∈ (catalogs, event) :: trace := by
  rw [stepOf_plain of plain]
  exact List.mem_cons_self

theorem stepOf_decided {id : Nat} {devices : List (Except AuthError VerifiedClaims)}
    {decision : Option Decisions}
    (of : catalogs.stepOf event = some (.readerDecided id devices decision)) :
    ∃ service, event = .decided id devices service ∧
      decision = catalogs.askedDecision id devices service := by
  rcases stepOf_some of with rfl | ⟨other, presented, service, rfl, same⟩
  · cases of
  · cases same
    exact ⟨service, rfl, rfl⟩

end Step

section Records

variable {catalogs after : Catalogs platform} {event : CatalogEvent} {notices : List CatalogNotice}

theorem attributed_unique (collisionFree : Function.Injective platform.blake3) {hash fqn fqn' : String}
    (one : Attributed platform hash fqn) (two : Attributed platform hash fqn') : fqn = fqn' := by
  obtain ⟨document, sub, hashed, enveloped⟩ := one
  obtain ⟨document', sub', hashed', enveloped'⟩ := two
  have bytes : document = document' :=
    collisionFree (Text.hexEncode_injective (hashed.trans hashed'.symm))
  subst bytes
  exact envelopeAttribute_unique enveloped enveloped'

/-- A step leaves a record as it is, or writes the attribute of the envelope it is of. -/
theorem effect_record
    (readsBack : ∀ sub, ∀ job : PublishJob platform sub,
      platform.json (platform.toVec job.record.toValue) = .ok job.record.toValue)
    (effect : Effect catalogs event after notices) (hash : String) :
    after.attributeNow hash = catalogs.attributeNow hash ∨
      ∃ fqn, after.attributeNow hash = .ok fqn ∧ Attributed platform hash fqn := by
  unfold attributeNow
  cases effect_bucket effect with
  | kept same quiet => exact .inl (by rw [same])
  | replaced id task admitted held phase about expected bucket noticed =>
      exact .inl (by rw [bucket])
  | wrote id task admitted stage held phase unconditional about bucket quiet =>
      rw [bucket]
      cases stage with
      | index =>
          change resolveAttribute _ ((catalogs.bucket.indexes.insert _ _).get hash) = _ ∨
            ∃ fqn, resolveAttribute _ ((catalogs.bucket.indexes.insert _ _).get hash) = _ ∧ _
          rw [Table.get_insert]
          split
          · rename_i same
            refine .inr ⟨admitted.job.fqn, ?_, admitted.job.document, task.sub, ?_,
              admitted.job.enveloped⟩
            · simp only [resolveAttribute, fromSlice_record (readsBack _ admitted.job)]
              rfl
            · rw [same]
              exact admitted.job.hashed.symm
          · exact .inl rfl
      | _ => exact .inl rfl

end Records

/-- What holds along a run: every read in flight has the past it needs, what the nodes know was
recorded, and what was served was handed over as it should be. -/
structure Past (first : Catalogs platform) (log : List CatalogNotice) (catalogs : Catalogs platform)
    (trace : Trace platform) : Prop where
  reads : ∀ id task, catalogs.gets id = some task → Justified trace id task
  known : ∀ node hash fqn, (catalogs.nodes node).attributes.get hash = some fqn →
    RecordedIn trace hash fqn
  attributed : ContentAddressed first → ∀ hash fqn, catalogs.attributeNow hash = .ok fqn →
    Attributed platform hash fqn
  kept : ContentAddressed first → ∀ hash fqn, RecordedIn trace hash fqn →
    catalogs.attributeNow hash = .ok fqn
  served : ∀ id sub stored, .served id sub stored ∈ log → HandedOver first trace id sub stored

section Preserved

variable {first catalogs after : Catalogs platform} {log notices : List CatalogNotice}
variable {trace : Trace platform} {event : StoreEvent} {step : CatalogEvent}

theorem Past.recorded_now (past : Past first log catalogs trace) (addressed : ContentAddressed first)
    {hash fqn : String} (recorded : RecordedIn ((catalogs, event) :: trace) hash fqn) :
    catalogs.attributeNow hash = .ok fqn := by
  obtain ⟨moment, member, resolved⟩ := recorded
  rcases List.mem_cons.mp member with rfl | earlier
  · exact resolved
  · exact past.kept addressed hash fqn ⟨moment, earlier, resolved⟩

theorem Past.attributed_step (past : Past first log catalogs trace)
    (effect : Effect catalogs step after notices) (addressed : ContentAddressed first)
    (hash fqn : String) (resolved : after.attributeNow hash = .ok fqn) :
    Attributed platform hash fqn := by
  rcases effect_record addressed.readsBack effect hash with same | ⟨written, reads, attributed⟩
  · exact past.attributed addressed hash fqn (same ▸ resolved)
  · cases reads.symm.trans resolved
    exact attributed

theorem Past.kept_step (past : Past first log catalogs trace)
    (effect : Effect catalogs step after notices) (addressed : ContentAddressed first)
    (hash fqn : String) (recorded : RecordedIn ((catalogs, event) :: trace) hash fqn) :
    after.attributeNow hash = .ok fqn := by
  have now := past.recorded_now addressed recorded
  rcases effect_record addressed.readsBack effect hash with same | ⟨written, reads, attributed⟩
  · exact same.trans now
  · have before := past.attributed addressed hash fqn now
    rw [reads, attributed_unique addressed.collisionFree attributed before]

theorem Past.known_step (past : Past first log catalogs trace)
    (effect : Effect catalogs step after notices) (node : Nat) (hash fqn : String)
    (known : (after.nodes node).attributes.get hash = some fqn) :
    RecordedIn ((catalogs, event) :: trace) hash fqn := by
  rcases effect_attributes effect known with before | now
  · exact (past.known node hash fqn before).later
  · exact ⟨(catalogs, event), List.mem_cons_self, now⟩

theorem Past.reads_step (past : Past first log catalogs trace) (of : catalogs.stepOf event = some step)
    (reads : Reads catalogs step after notices) (id : Nat) (task : GetTask)
    (inFlight : after.gets id = some task) : Justified ((catalogs, event) :: trace) id task := by
  cases reads.moves id task inFlight with
  | kept held => exact (past.reads id task held).later
  | requested about fresh =>
      subst about
      exact ⟨⟨catalogs, mem_of_plain of (by simp), fresh.symm⟩, trivial⟩
  | @verified old claims about held token shown =>
      subst about
      have before := (past.reads id old held).1
      exact ⟨before.later, catalogs, mem_of_plain of (by simp), token, shown⟩
  | @found old claims stored about held phase found allowed =>
      subst about
      obtain ⟨requested, verified⟩ := past.reads id old held
      rw [phase] at verified
      exact ⟨requested.later, verified.later, catalogs, mem_of_plain of (by simp),
        found, allowed⟩
  | @cached old claims stored fqn about held phase found allowed cached =>
      subst about
      obtain ⟨requested, verified⟩ := past.reads id old held
      rw [phase] at verified
      exact ⟨requested.later, verified.later,
        ⟨catalogs, mem_of_plain of (by simp), found, allowed⟩,
        (past.known _ _ _ cached).later⟩
  | @read old claims stored fqn held phase read =>
      obtain ⟨requested, facts⟩ := past.reads id old held
      rw [phase] at facts
      exact ⟨requested.later, facts.1.later, facts.2.later, (catalogs, event), List.mem_cons_self,
        read⟩

theorem askedDecision_permits {id : Nat} {devices : List (Except AuthError VerifiedClaims)}
    {service : DecisionService} {task : GetTask} {claims : VerifiedClaims} {stored : StoredPointer}
    {fqn token : String} {others : List ChainEntity} (held : catalogs.gets id = some task)
    (phase : task.phase = .deciding claims stored fqn)
    (built : readerChain (catalogs.nodes task.node) task.headers claims devices =
      .ok (subjectEntity claims (some token) :: others))
    (permitted : readerVerdict stored.hash (catalogs.askedDecision id devices service) = .ok ()) :
    service.Permits (readerRequest (catalogs.nodes task.node)
      (subjectEntity claims (some token) :: others) stored.hash fqn) claims.sub stored.hash
      [fqn] := by
  obtain ⟨node, sub, headers, waits⟩ := task
  change waits = _ at phase
  subst phase
  simp only [askedDecision, held, built] at permitted
  unfold readerVerdict at permitted
  split at permitted
  · cases permitted
  · rename_i verdicts decided
    split at permitted
    · rename_i permit
      refine DecisionService.decide_permits rfl rfl ?_ permit
      cases answer : service.decide (readerRequest (catalogs.nodes node)
          (subjectEntity claims (some token) :: others) stored.hash fqn) with
      | error why =>
          rw [answer] at decided
          cases decided
      | ok decisions =>
          rw [answer] at decided
          cases decided
          rfl
    · cases permitted

theorem Past.served_step (past : Past first log catalogs trace)
    (of : catalogs.stepOf event = some step) (reads : Reads catalogs step after notices) (id : Nat)
    (sub : String) (stored : StoredPointer) (served : .served id sub stored ∈ notices) :
    HandedOver first ((catalogs, event) :: trace) id sub stored := by
  cases reads.serves id sub stored served with
  | @cached task claims _ about held phase found allowed operator =>
      subst about
      obtain ⟨requested, verified⟩ := past.reads id task held
      rw [phase] at verified
      exact ⟨task.node, task.headers, claims, requested.later, verified.later,
        ⟨catalogs, mem_of_plain of (by simp), found, allowed⟩,
        .inl ⟨catalogs, _, mem_of_plain of (by simp), .inl rfl,
          isOperator_operator operator⟩⟩
  | @read task claims _ about held phase operator =>
      subst about
      obtain ⟨requested, facts⟩ := past.reads id task held
      rw [phase] at facts
      exact ⟨task.node, task.headers, claims, requested.later, facts.1.later, facts.2.later,
        .inl ⟨catalogs, _, mem_of_plain of (by simp), .inr rfl,
          isOperator_operator operator⟩⟩
  | @decided task claims _ fqn devices decision chain about held phase built permitted =>
      subst about
      obtain ⟨service, taken, rfl⟩ := stepOf_decided of
      obtain ⟨requested, facts⟩ := past.reads id task held
      rw [phase] at facts
      obtain ⟨token, others, rfl⟩ := readerChain_person built
      have recorded := facts.2.2
      refine ⟨task.node, task.headers, claims, requested.later, facts.1.later, facts.2.1.later,
        .inr ⟨catalogs, devices, service, token, others, fqn, by rw [taken]; exact List.mem_cons_self,
          built, recorded.later, ?_, askedDecision_permits held phase built permitted⟩⟩
      intro addressed
      exact past.kept addressed stored.hash fqn recorded

theorem Past.pointer_changed (past : Past first log catalogs trace) (sub : String)
    (body : Option (List UInt8)) :
    Past first log (catalogs.changePointer sub body) ((catalogs, event) :: trace) where
  reads id task inFlight := (past.reads id task inFlight).later
  known node hash fqn cached := (past.known node hash fqn cached).later
  attributed := past.attributed
  kept addressed _ _ recorded := past.recorded_now addressed recorded
  served id sub stored served := (past.served id sub stored served).later

theorem Past.stepped (past : Past first log catalogs trace)
    (taken : (changingMachine platform).next catalogs event = some (after, notices)) :
    Past first (notices ++ log) after ((catalogs, event) :: trace) := by
  rcases changing_cases taken with ⟨step, of, moved⟩ | ⟨rfl, sub, body, -, rfl⟩
  · have effect := machine_effect moved
    have reads := machine_reads moved
    refine ⟨past.reads_step of reads, past.known_step effect, past.attributed_step effect,
      past.kept_step effect, ?_⟩
    intro id sub stored member
    rcases List.mem_append.mp member with now | earlier
    · exact past.served_step of reads id sub stored now
    · exact (past.served id sub stored earlier).later
  · exact past.pointer_changed sub body

end Preserved

/-- A pointer is served only as it was read for the subject, with neither the subject nor the catalog
hidden, and only to an operator or to a caller the decision service permits that very catalog. The
nodes start with no read in flight and no attribute cached, over any store. -/
theorem catalog_served_to_permitted_reader {first last : Catalogs platform} {log : List CatalogNotice}
    {trace : Trace platform} {id : Nat} {sub : String} {stored : StoredPointer}
    (idle : ∀ id, first.gets id = none)
    (blank : ∀ node hash, (first.nodes node).attributes.get hash = none)
    (run : (changingMachine platform).traced.Run (fun _ _ _ => True) [] (first, []) log (last, trace))
    (served : .served id sub stored ∈ log) : HandedOver first trace id sub stored := by
  have past : Past first log last trace := by
    refine run.traced_invariant (fun log moment => Past first log moment.1 moment.2) ?_ ?_
    · refine ⟨?_, ?_, fun addressed => addressed.recorded, ?_, by simp⟩
      · intro id task inFlight
        simp [idle] at inFlight
      · intro node hash fqn cached
        simp [blank] at cached
      · rintro - hash fqn ⟨moment, member, -⟩
        cases member
    · intro log catalogs trace event after notices past _ taken
      exact past.stepped taken
  exact past.served id sub stored served

section Sample

def permittingService : DecisionService where
  endpoint := true
  post _ _ := .answered (.object [("evaluations", .array [.object [("decision", .bool true)]])])

def publishedCatalogs : Catalogs samplePlatform :=
  sampleCatalogs.setBucket { sampleCatalogs.bucket with
    indexes := Table.empty.insert sampleHash [5], pointers := Table.empty.insert sampleSub [11] }

def readWhileReplaced : List StoreEvent :=
  [.catalog (.get 0 sampleSub sampleToken), .catalog (.readerVerified 0 (.ok sampleReader)),
    .catalog (.getPointerRead 0 true), .pointerChanged sampleSub (some [12]),
    .catalog (.getIndexRead 0 true), .decided 0 [] permittingService]

def servedAsRead (log : List CatalogNotice) : Bool :=
  decide (.served 0 sampleSub (sampleStored 1 [11]) ∈ log)

private theorem readWhileReplaced_executed :
    ((changingMachine samplePlatform).execute (fun _ _ _ => true) readWhileReplaced []
      publishedCatalogs).map (fun ended => servedAsRead ended.1) = some true := by
  decide +kernel

theorem catalog_served_to_permitted_reader_replaced :
    ∃ log last trace,
      (changingMachine samplePlatform).traced.Run (fun _ _ _ => True) [] (publishedCatalogs, []) log
        (last, trace) ∧
      .served 0 sampleSub (sampleStored 1 [11]) ∈ log ∧
      HandedOver publishedCatalogs trace 0 sampleSub (sampleStored 1 [11]) := by
  have reaches : ∃ log last, (changingMachine samplePlatform).Run (fun _ _ _ => True) []
      publishedCatalogs log last ∧ servedAsRead log = true :=
    Machine.execute_reaches (fun _ _ _ _ => trivial) readWhileReplaced (fun log _ => servedAsRead log)
      readWhileReplaced_executed
  obtain ⟨log, last, reached, shown⟩ := reaches
  obtain ⟨trace, run⟩ := reached.traced []
  have served := of_decide_eq_true shown
  exact ⟨log, last, trace, run, served,
    catalog_served_to_permitted_reader (fun _ => rfl) (fun _ _ => rfl) run served⟩

end Sample

end Catalogs

end TdfIrohS3
