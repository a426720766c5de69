import TdfIrohS3.Library.Machine
import TdfIrohS3.Publish.Gate

namespace TdfIrohS3

open Library

structure SessionRequest where
  endpointId : String
  timestamp : Int
  signature : String
  deriving DecidableEq, Repr

def sessionSkewSecs : Int := 300

def sessionMessage (platform : Platform) (endpoint : EndpointId) (bearerToken : String)
    (timestamp : Int) : List UInt8 :=
  utf8 ("tdf-iroh-s3 publish-session v1\n" ++ endpoint.toString ++ "\n" ++
    Text.hexEncode (platform.blake3 (utf8 bearerToken)) ++ "\n" ++ toString timestamp)

def wrappingAbs (n : Int) : Int := if n = Int64.minValue.toInt then n else (n.natAbs : Int)

def decodeSignature (signatureHex : String) : Option (List UInt8) :=
  match Text.hexBytes (Text.trimChars signatureHex.toList) with
  | some bytes => if bytes.length = 64 then some bytes else none
  | none => none

def verifyPossession (platform : Platform) (clock : Clock) (endpoint : EndpointId)
    (bearerToken : String) (timestamp : Int) (signatureHex : String) : Except Refusal Unit :=
  if wrappingAbs (wrappingSub (nowSecs clock) timestamp) > sessionSkewSecs then
    .error ⟨400, "timestamp out of range"⟩
  else
    match decodeSignature signatureHex with
    | none => .error ⟨400, "invalid signature"⟩
    | some signature =>
        if platform.verify endpoint (sessionMessage platform endpoint bearerToken timestamp)
            signature then .ok ()
        else .error ⟨403, "signature does not match endpointId"⟩

theorem verifyPossession_signed {platform : Platform} {clock : Clock} {endpoint : EndpointId}
    {bearerToken : String} {timestamp : Int} {signatureHex : String}
    (proved : verifyPossession platform clock endpoint bearerToken timestamp signatureHex =
      .ok ()) :
    ∃ signature, decodeSignature signatureHex = some signature ∧
      platform.verify endpoint (sessionMessage platform endpoint bearerToken timestamp)
        signature = true := by
  unfold verifyPossession at proved
  split at proved
  · cases proved
  · split at proved
    · cases proved
    · rename_i signature decoded
      split at proved
      · rename_i valid
        exact ⟨signature, decoded, valid⟩
      · cases proved

def openSessionRecord (platform : Platform) (policy : PublishPolicy) (clock : Clock)
    (body : SessionRequest) (token : String) (claims : VerifiedClaims)
    (chain : Option (List ChainEntity)) : Except Refusal (EndpointId × SessionRecord) :=
  match platform.endpointFromStr (Text.trim body.endpointId) with
  | none => .error ⟨400, "invalid endpointId"⟩
  | some endpoint =>
      match verifyPossession platform clock endpoint token body.timestamp body.signature with
      | .error refusal => .error refusal
      | .ok _ => .ok (endpoint, {
          endpointId := endpoint.toString
          subject := claims.sub
          expiresAt := wrappingAdd (nowSecs clock) (policy.sessionTtl / nanos : Nat)
          chain := chain.map stripTokens })

theorem openSessionRecord_ok {platform : Platform} {policy : PublishPolicy} {clock : Clock}
    {body : SessionRequest} {token : String} {claims : VerifiedClaims}
    {chain : Option (List ChainEntity)} {endpoint : EndpointId} {record : SessionRecord}
    (made : openSessionRecord platform policy clock body token claims chain =
      .ok (endpoint, record)) :
    verifyPossession platform clock endpoint token body.timestamp body.signature = .ok () ∧
      record = {
        endpointId := endpoint.toString
        subject := claims.sub
        expiresAt := wrappingAdd (nowSecs clock) (policy.sessionTtl / nanos : Nat)
        chain := chain.map stripTokens } := by
  unfold openSessionRecord at made
  split at made
  · cases made
  · split at made
    · cases made
    · rename_i proved
      cases made
      exact ⟨proved, rfl⟩

structure Grant where
  gate : Nat
  policy : PublishPolicy
  view : Moderation
  headers : Headers
  body : SessionRequest
  answers : Answers
  clock : Clock
  token : String
  claims : VerifiedClaims
  chain : Option (List ChainEntity)
  endpoint : EndpointId
  record : SessionRecord

def Grant.expiry (grant : Grant) : Int :=
  nowSecs grant.clock + (grant.policy.sessionTtl / nanos : Nat)

structure Grant.Checked (platform : Platform) (grant : Grant) : Prop where
  bearer_token : bearer grant.headers = some grant.token
  verified : grant.answers.verified = .ok grant.claims
  publisher : grant.policy.publisherWithChain grant.view grant.headers grant.answers =
    .ok (grant.claims, grant.chain)
  possession : verifyPossession platform grant.clock grant.endpoint grant.token
    grant.body.timestamp grant.body.signature = .ok ()
  record_eq : grant.record = {
    endpointId := grant.endpoint.toString
    subject := grant.claims.sub
    expiresAt := wrappingAdd (nowSecs grant.clock) (grant.policy.sessionTtl / nanos : Nat)
    chain := grant.chain.map stripTokens }

section Record

variable {platform : Platform} {grant : Grant}

theorem Grant.Checked.record_endpointId (checked : grant.Checked platform) :
    grant.record.endpointId = grant.endpoint.toString := by
  rw [checked.record_eq]

theorem Grant.Checked.record_subject (checked : grant.Checked platform) :
    grant.record.subject = grant.claims.sub := by
  rw [checked.record_eq]

theorem Grant.Checked.record_chain (checked : grant.Checked platform) :
    grant.record.chain = grant.chain.map stripTokens := by
  rw [checked.record_eq]

/-- The sum of `open_session` and the difference of `look_up` wrap around together, so time left in
64 bits is time left. -/
theorem Grant.Checked.left {looked : Clock} (checked : grant.Checked platform)
    (left : 0 < wrappingSub grant.record.expiresAt (nowSecs looked)) :
    nowSecs looked < grant.expiry ∧
      wrappingSub grant.record.expiresAt (nowSecs looked) ≤ grant.expiry - nowSecs looked := by
  have past := nowSecs_nonneg grant.clock
  have below := nowSecs_lt looked
  rw [checked.record_eq] at left ⊢
  simp only [wrappingSub, wrappingAdd, Grant.expiry] at *
  generalize grant.policy.sessionTtl / nanos = seconds at *
  obtain ⟨added, sum, -, -⟩ := bmod_spec (nowSecs grant.clock + seconds)
  obtain ⟨taken, difference, -, high⟩ :=
    bmod_spec ((nowSecs grant.clock + seconds).bmod Int64.size - nowSecs looked)
  omega

end Record

/-- Where an `open_session` request waits: for the token verifier, for the device tokens and the
decision service (in `local` mode nothing is asked, and the request goes on at once), or for the
session store to take its record (without a record key nothing is written). -/
inductive OpenPhase
  | verifying
  | deciding (view : Moderation) (token : String) (claims : VerifiedClaims)
      (ownAnswer : Except Refusal Unit)
  | storing (grant : Grant)

structure OpenTask where
  gate : Nat
  headers : Headers
  body : SessionRequest
  phase : OpenPhase

structure PushTask where
  gate : Nat
  connection : Nat
  hashHex : String
  endpoint : EndpointId

structure Settings where
  policy : PublishPolicy
  moderation : Moderation
  decider : PublishDecider
  sessionTtl : Nat
  sessionStore : Bool

structure Node where
  gate : PublishGate
  policy : PublishPolicy
  clock : Clock

def Node.start (settings : Settings) (clock : Clock) : Node where
  gate :=
    let gate := ((PublishGate.new settings.moderation).withSessionTtl settings.sessionTtl
      ).withDecider settings.decider
    if settings.sessionStore then gate.withSessionStore else gate
  policy := settings.policy
  clock := clock

/-- Any number of instances with the requests and pushes they have in flight. The session store is
not part of the state: what it answers is an input. -/
structure Cluster where
  nodes : Nat → Node
  opens : Nat → Option OpenTask
  pushes : Nat → Option PushTask

inductive Event
  | tick (gate : Nat) (clock : Clock)
  | restart (gate : Nat) (settings : Settings) (clock : Clock)
  | setSessionKey (gate : Nat)
  | moderate (gate : Nat) (view : Moderation)
  | connected (gate connection : Nat) (endpoint : Option EndpointId)
  | closed (gate connection : Nat)
  | openSession (request gate : Nat) (headers : Headers) (body : SessionRequest)
  | tokenVerified (request : Nat) (answer : Except AuthError VerifiedClaims)
  | decided (request : Nat) (devices : List (Except AuthError VerifiedClaims))
      (decision : Option Decisions)
  | recordPut (request : Nat)
  | authorizePush (push gate connection : Nat) (hashHex : String)
  | lookedUp (push : Nat) (answer : StoreAnswer)

inductive Notice
  | announced (gate connection : Nat) (endpoint : EndpointId)
  | closed (gate connection : Nat)
  | restarted (gate : Nat)
  | refused (request : Nat) (refusal : Refusal)
  | passed (request : Nat) (grant : Grant) (stored : Option (List UInt8))
  | opened (request : Nat) (grant : Grant) (opening : Clock) (expires : Nat)
  | called (push gate connection : Nat) (hashHex : String) (endpoint : EndpointId)
  | readBack (gate : Nat) (endpoint : EndpointId) (record : SessionRecord) (looked : Clock)
      (expires : Nat)
  | accepted (push gate connection : Nat) (hashHex subject : String) (endpoint : EndpointId)
  | declined (push : Nat) (refusal : PushRefusal)

namespace Cluster

def setNode (cluster : Cluster) (gate : Nat) (node : Node) : Cluster :=
  { cluster with nodes := Function.update cluster.nodes gate node }

def setGate (cluster : Cluster) (gate : Nat) (state : PublishGate) : Cluster :=
  cluster.setNode gate { cluster.nodes gate with gate := state }

def setOpen (cluster : Cluster) (request : Nat) (task : Option OpenTask) : Cluster :=
  { cluster with opens := Function.update cluster.opens request task }

def setPush (cluster : Cluster) (push : Nat) (task : Option PushTask) : Cluster :=
  { cluster with pushes := Function.update cluster.pushes push task }

def restart (cluster : Cluster) (gate : Nat) (node : Node) : Cluster where
  nodes := Function.update cluster.nodes gate node
  opens := fun request => (cluster.opens request).filter fun task => task.gate ≠ gate
  pushes := fun push => (cluster.pushes push).filter fun task => task.gate ≠ gate

def tokenVerified (cluster : Cluster) (request : Nat) (task : OpenTask)
    (answer : Except AuthError VerifiedClaims) : Cluster × List Notice :=
  let node := cluster.nodes task.gate
  match node.policy.publisherVerified node.gate.moderation task.headers answer with
  | .error refusal => (cluster.setOpen request none, [.refused request refusal])
  | .ok (token, claims, ownAnswer) =>
      (cluster.setOpen request
        (some { task with phase := .deciding node.gate.moderation token claims ownAnswer }), [])

def decided (platform : Platform) (cluster : Cluster) (request : Nat) (task : OpenTask)
    (view : Moderation) (token : String) (claims : VerifiedClaims)
    (ownAnswer : Except Refusal Unit) (devices : List (Except AuthError VerifiedClaims))
    (decision : Option Decisions) : Cluster × List Notice :=
  let node := cluster.nodes task.gate
  match node.policy.publisherDecided task.headers token claims ownAnswer devices decision with
  | .error refusal => (cluster.setOpen request none, [.refused request refusal])
  | .ok (claims, chain) =>
      match openSessionRecord platform node.policy node.clock task.body token claims chain with
      | .error refusal => (cluster.setOpen request none, [.refused request refusal])
      | .ok (endpoint, record) =>
          let grant : Grant := {
            gate := task.gate, policy := node.policy, view := view, headers := task.headers
            body := task.body
            answers := { verified := .ok claims, devices := devices, decision := decision }
            clock := node.clock, token := token, claims := claims, chain := chain
            endpoint := endpoint, record := record }
          (cluster.setOpen request (some { task with phase := .storing grant }),
            [.passed request grant (node.gate.sealRecord platform record)])

def recordPut (cluster : Cluster) (request : Nat) (task : OpenTask) (grant : Grant) :
    Cluster × List Notice :=
  let node := cluster.nodes task.gate
  let opened := node.gate.openSessionWithChain node.clock grant.endpoint grant.claims.sub
    node.policy.sessionTtl grant.record.chain
  ((cluster.setGate task.gate opened).setOpen request none,
    [.opened request grant node.clock (node.clock.instant + node.policy.sessionTtl)])

def answerNotice (push gate connection : Nat) (hashHex : String) :
    Except PushRefusal (String × EndpointId) → Notice
  | .ok (subject, endpoint) => .accepted push gate connection hashHex subject endpoint
  | .error refusal => .declined push refusal

def authorizePush (cluster : Cluster) (push gate connection : Nat) (hashHex : String) :
    Cluster × List Notice :=
  let node := cluster.nodes gate
  match node.gate.authorizePush node.clock connection hashHex with
  | .answered none answer => (cluster, [answerNotice push gate connection hashHex answer])
  | .answered (some endpoint) answer =>
      (cluster, [answerNotice push gate connection hashHex answer,
        .called push gate connection hashHex endpoint])
  | .lookingUp endpoint =>
      ((cluster.setGate gate node.gate.acquire).setPush push
          (some { gate := gate, connection := connection, hashHex := hashHex,
                  endpoint := endpoint }),
        [.called push gate connection hashHex endpoint])

def readBackNotice (gate : Nat) (state : PublishGate) (clock : Clock) (endpoint : EndpointId)
    (record : Option SessionRecord) : List Notice :=
  match record with
  | some record =>
      [.readBack gate endpoint record clock (clock.instant + state.readBackTtl clock record)]
  | none => []

def lookedUp (platform : Platform) (cluster : Cluster) (push : Nat) (task : PushTask)
    (answer : StoreAnswer) : Cluster × List Notice :=
  let node := cluster.nodes task.gate
  let (gate, result) :=
    node.gate.authorizePushStored platform node.clock task.endpoint task.hashHex answer
  ((cluster.setGate task.gate gate).setPush push none,
    answerNotice push task.gate task.connection task.hashHex result ::
      readBackNotice task.gate node.gate node.clock task.endpoint
        (node.gate.acceptedRecord platform node.clock task.endpoint answer))

def next (platform : Platform) (secret : List UInt8) (cluster : Cluster) :
    Event → Option (Cluster × List Notice)
  | .tick gate clock =>
      if (cluster.nodes gate).clock.instant ≤ clock.instant then
        some (cluster.setNode gate { cluster.nodes gate with clock := clock }, [])
      else none
  | .restart gate settings clock =>
      some (cluster.restart gate (Node.start settings clock), [.restarted gate])
  | .setSessionKey gate =>
      some (cluster.setGate gate ((cluster.nodes gate).gate.setSessionKey platform secret), [])
  | .moderate gate view =>
      some (cluster.setGate gate { (cluster.nodes gate).gate with moderation := view }, [])
  | .connected gate connection endpoint =>
      some (cluster.setGate gate ((cluster.nodes gate).gate.connected connection endpoint),
        match endpoint with
        | some e => [.announced gate connection e]
        | none => [])
  | .closed gate connection =>
      some (cluster.setGate gate ((cluster.nodes gate).gate.closed connection),
        [.closed gate connection])
  | .openSession request gate headers body =>
      match cluster.opens request with
      | some _ => none
      | none =>
          some (cluster.setOpen request
            (some { gate := gate, headers := headers, body := body, phase := .verifying }), [])
  | .tokenVerified request answer =>
      match cluster.opens request with
      | some task =>
          match task.phase with
          | .verifying => some (cluster.tokenVerified request task answer)
          | _ => none
      | none => none
  | .decided request devices decision =>
      match cluster.opens request with
      | some task =>
          match task.phase with
          | .deciding view token claims ownAnswer =>
              some (cluster.decided platform request task view token claims ownAnswer devices
                decision)
          | _ => none
      | none => none
  | .recordPut request =>
      match cluster.opens request with
      | some task =>
          match task.phase with
          | .storing grant => some (cluster.recordPut request task grant)
          | _ => none
      | none => none
  | .authorizePush push gate connection hashHex =>
      match cluster.pushes push with
      | some _ => none
      | none => some (cluster.authorizePush push gate connection hashHex)
  | .lookedUp push answer =>
      match cluster.pushes push with
      | some task => some (cluster.lookedUp platform push task answer)
      | none => none

def machine (platform : Platform) (secret : List UInt8) : Machine Cluster Event Notice :=
  ⟨next platform secret⟩

inductive Effect (platform : Platform) (secret : List UInt8) (cluster : Cluster) :
    Event → Cluster → List Notice → Prop
  | tick (gate : Nat) (clock : Clock)
      (later : (cluster.nodes gate).clock.instant ≤ clock.instant) :
      Effect platform secret cluster (.tick gate clock)
        (cluster.setNode gate { cluster.nodes gate with clock := clock }) []
  | restart (gate : Nat) (settings : Settings) (clock : Clock) :
      Effect platform secret cluster (.restart gate settings clock)
        (cluster.restart gate (Node.start settings clock)) [.restarted gate]
  | setSessionKey (gate : Nat) :
      Effect platform secret cluster (.setSessionKey gate)
        (cluster.setGate gate ((cluster.nodes gate).gate.setSessionKey platform secret)) []
  | moderate (gate : Nat) (view : Moderation) :
      Effect platform secret cluster (.moderate gate view)
        (cluster.setGate gate { (cluster.nodes gate).gate with moderation := view }) []
  | announced (gate connection : Nat) (endpoint : EndpointId) :
      Effect platform secret cluster (.connected gate connection (some endpoint))
        (cluster.setGate gate ((cluster.nodes gate).gate.connected connection (some endpoint)))
        [.announced gate connection endpoint]
  | anonymous (gate connection : Nat) :
      Effect platform secret cluster (.connected gate connection none)
        (cluster.setGate gate (cluster.nodes gate).gate) []
  | closed (gate connection : Nat) :
      Effect platform secret cluster (.closed gate connection)
        (cluster.setGate gate ((cluster.nodes gate).gate.closed connection))
        [.closed gate connection]
  | received (request gate : Nat) (headers : Headers) (body : SessionRequest) :
      Effect platform secret cluster (.openSession request gate headers body)
        (cluster.setOpen request
          (some { gate := gate, headers := headers, body := body, phase := .verifying })) []
  | tokenRefused (request : Nat) (answer : Except AuthError VerifiedClaims) (refusal : Refusal) :
      Effect platform secret cluster (.tokenVerified request answer)
        (cluster.setOpen request none) [.refused request refusal]
  | tokenVerified (request : Nat) (answer : Except AuthError VerifiedClaims) (task : OpenTask)
      (token : String) (claims : VerifiedClaims) (ownAnswer : Except Refusal Unit)
      (inFlight : cluster.opens request = some task)
      (verified : (cluster.nodes task.gate).policy.publisherVerified
        (cluster.nodes task.gate).gate.moderation task.headers answer =
          .ok (token, claims, ownAnswer)) :
      Effect platform secret cluster (.tokenVerified request answer)
        (cluster.setOpen request (some { task with
          phase := .deciding (cluster.nodes task.gate).gate.moderation token claims ownAnswer })) []
  | refused (request : Nat) (devices : List (Except AuthError VerifiedClaims))
      (decision : Option Decisions) (refusal : Refusal) :
      Effect platform secret cluster (.decided request devices decision)
        (cluster.setOpen request none) [.refused request refusal]
  | passed (request : Nat) (devices : List (Except AuthError VerifiedClaims))
      (decision : Option Decisions) (task : OpenTask) (grant : Grant)
      (inFlight : cluster.opens request = some task) (view : Moderation) (token : String)
      (claims : VerifiedClaims) (ownAnswer : Except Refusal Unit)
      (phase : task.phase = .deciding view token claims ownAnswer)
      (publisher : (cluster.nodes task.gate).policy.publisherDecided task.headers token claims
        ownAnswer devices decision = .ok (grant.claims, grant.chain))
      (possession : openSessionRecord platform (cluster.nodes task.gate).policy
        (cluster.nodes task.gate).clock task.body token grant.claims grant.chain =
          .ok (grant.endpoint, grant.record))
      (read : grant.gate = task.gate ∧ grant.policy = (cluster.nodes task.gate).policy ∧
        grant.view = view ∧ grant.headers = task.headers ∧ grant.body = task.body ∧
        grant.answers = { verified := .ok grant.claims, devices := devices, decision := decision } ∧
        grant.clock = (cluster.nodes task.gate).clock ∧ grant.token = token) :
      Effect platform secret cluster (.decided request devices decision)
        (cluster.setOpen request (some { task with phase := .storing grant }))
        [.passed request grant ((cluster.nodes task.gate).gate.sealRecord platform grant.record)]
  | opened (request : Nat) (task : OpenTask) (grant : Grant)
      (inFlight : cluster.opens request = some task) (phase : task.phase = .storing grant) :
      Effect platform secret cluster (.recordPut request)
        (cluster.recordPut request task grant).1 (cluster.recordPut request task grant).2
  | unknownConnection (push gate connection : Nat) (hashHex : String) :
      Effect platform secret cluster (.authorizePush push gate connection hashHex) cluster
        [.declined push .noSession]
  | declined (push gate connection : Nat) (hashHex : String) (endpoint : EndpointId)
      (refusal : PushRefusal)
      (known : (cluster.nodes gate).gate.connections.get connection = some endpoint) :
      Effect platform secret cluster (.authorizePush push gate connection hashHex) cluster
        [.declined push refusal, .called push gate connection hashHex endpoint]
  | accepted (push gate connection : Nat) (hashHex : String) (endpoint : EndpointId)
      (held : HeldSession)
      (known : (cluster.nodes gate).gate.connections.get connection = some endpoint)
      (live : (cluster.nodes gate).gate.heldSession (cluster.nodes gate).clock endpoint = some held)
      (decision : (cluster.nodes gate).gate.pushDecision hashHex endpoint held =
        .ok (held.1, endpoint)) :
      Effect platform secret cluster (.authorizePush push gate connection hashHex) cluster
        [.accepted push gate connection hashHex held.1 endpoint,
          .called push gate connection hashHex endpoint]
  | lookingUp (push gate connection : Nat) (hashHex : String) (endpoint : EndpointId)
      (known : (cluster.nodes gate).gate.connections.get connection = some endpoint) :
      Effect platform secret cluster (.authorizePush push gate connection hashHex)
        ((cluster.setGate gate (cluster.nodes gate).gate.acquire).setPush push
          (some { gate := gate, connection := connection, hashHex := hashHex,
                  endpoint := endpoint }))
        [.called push gate connection hashHex endpoint]
  | missed (push : Nat) (answer : StoreAnswer) (task : PushTask)
      (inFlight : cluster.pushes push = some task) :
      Effect platform secret cluster (.lookedUp push answer)
        ((cluster.setGate task.gate (((cluster.nodes task.gate).gate.missed
          (cluster.nodes task.gate).clock task.endpoint).release)).setPush push none)
        [.declined push .noSession]
  | readBack (push : Nat) (answer : StoreAnswer) (task : PushTask) (record : SessionRecord)
      (last : Notice) (inFlight : cluster.pushes push = some task)
      (found : (cluster.nodes task.gate).gate.acceptedRecord platform
        (cluster.nodes task.gate).clock task.endpoint answer = some record)
      (outcome : (∃ refusal, last = .declined push refusal) ∨
        (last = .accepted push task.gate task.connection task.hashHex
            (canonicalSubject record.subject) task.endpoint ∧
          (cluster.nodes task.gate).gate.pushDecision task.hashHex task.endpoint
            (canonicalSubject record.subject, record.chain) =
              .ok (canonicalSubject record.subject, task.endpoint))) :
      Effect platform secret cluster (.lookedUp push answer)
        ((cluster.setGate task.gate (((cluster.nodes task.gate).gate.openSessionWithChain
            (cluster.nodes task.gate).clock task.endpoint record.subject
            ((cluster.nodes task.gate).gate.readBackTtl (cluster.nodes task.gate).clock record)
            record.chain).release)).setPush push none)
        [last, .readBack task.gate task.endpoint record (cluster.nodes task.gate).clock
          ((cluster.nodes task.gate).clock.instant +
            (cluster.nodes task.gate).gate.readBackTtl (cluster.nodes task.gate).clock record)]

structure Fresh (cluster : Cluster) : Prop where
  nodes : ∀ gate, ∃ settings clock, cluster.nodes gate = Node.start settings clock
  opens : ∀ request, cluster.opens request = none
  pushes : ∀ push, cluster.pushes push = none

section Inversion

variable {platform : Platform} {secret : List UInt8} {cluster after : Cluster}
variable {notices : List Notice}

private theorem decided_effect (request : Nat) (task : OpenTask) (view : Moderation)
    (token : String) (claims : VerifiedClaims) (ownAnswer : Except Refusal Unit)
    (devices : List (Except AuthError VerifiedClaims)) (decision : Option Decisions)
    (inFlight : cluster.opens request = some task)
    (phase : task.phase = .deciding view token claims ownAnswer)
    (taken : cluster.decided platform request task view token claims ownAnswer devices decision =
      (after, notices)) :
    Effect platform secret cluster (.decided request devices decision) after notices := by
  unfold decided at taken
  simp only at taken
  split at taken
  · cases taken
    exact .refused ..
  · rename_i answered chain publisher
    split at taken
    · cases taken
      exact .refused ..
    · rename_i endpoint record possession
      cases taken
      exact .passed request devices decision task _ inFlight view token claims ownAnswer phase
        publisher possession ⟨rfl, rfl, rfl, rfl, rfl, rfl, rfl, rfl⟩

theorem pushDecision_ok {gate : PublishGate} {hashHex : String} {endpoint : EndpointId}
    {held : HeldSession} {result : String × EndpointId}
    (decision : gate.pushDecision hashHex endpoint held = .ok result) :
    result = (held.1, endpoint) ∧ gate.moderation.isSuspended held.1 = false ∧
      gate.moderation.isBlocked hashHex = false ∧
      gate.decidedSession held.1 held.2 = .ok () := by
  unfold PublishGate.pushDecision at decision
  split at decision
  · cases decision
  · rename_i active
    split at decision
    · cases decision
    · rename_i allowed
      split at decision
      · cases decision
      · rename_i decided
        cases decision
        exact ⟨rfl, by simpa using active, by simpa using allowed, decided⟩

private theorem authorizePush_effect (push gate connection : Nat) (hashHex : String)
    (taken : cluster.authorizePush push gate connection hashHex = (after, notices)) :
    Effect platform secret cluster (.authorizePush push gate connection hashHex) after notices := by
  unfold authorizePush PublishGate.authorizePush at taken
  simp only at taken
  cases known : (cluster.nodes gate).gate.connections.get connection with
  | none =>
      simp only [known, answerNotice] at taken
      cases taken
      exact .unknownConnection ..
  | some endpoint =>
      cases live : (cluster.nodes gate).gate.heldSession (cluster.nodes gate).clock endpoint with
      | some held =>
          simp only [known, live] at taken
          cases decision : (cluster.nodes gate).gate.pushDecision hashHex endpoint held with
          | error refusal =>
              simp only [decision, answerNotice] at taken
              cases taken
              exact .declined _ _ _ _ _ _ known
          | ok result =>
              obtain ⟨rfl, -⟩ := pushDecision_ok decision
              simp only [decision, answerNotice] at taken
              cases taken
              exact .accepted _ _ _ _ _ held known live decision
      | none =>
          simp only [known, live] at taken
          by_cases refused : (cluster.nodes gate).gate.store = false ∨
              (cluster.nodes gate).gate.recentlyMissed (cluster.nodes gate).clock endpoint ∨
              (cluster.nodes gate).gate.lookups = 0
          · simp only [if_pos refused, answerNotice] at taken
            cases taken
            exact .declined _ _ _ _ _ _ known
          · simp only [if_neg refused] at taken
            cases taken
            exact .lookingUp _ _ _ _ _ known

private theorem lookedUp_effect (push : Nat) (task : PushTask) (answer : StoreAnswer)
    (inFlight : cluster.pushes push = some task)
    (taken : cluster.lookedUp platform push task answer = (after, notices)) :
    Effect platform secret cluster (.lookedUp push answer) after notices := by
  unfold lookedUp PublishGate.authorizePushStored PublishGate.lookUp at taken
  simp only at taken
  cases found : (cluster.nodes task.gate).gate.acceptedRecord platform
      (cluster.nodes task.gate).clock task.endpoint answer with
  | none =>
      simp only [found, answerNotice, readBackNotice] at taken
      cases taken
      exact .missed _ _ _ inFlight
  | some record =>
      simp only [found, readBackNotice] at taken
      cases taken
      refine .readBack push answer task record _ inFlight found ?_
      change (∃ refusal, answerNotice _ _ _ _ ((cluster.nodes task.gate).gate.pushDecision
        task.hashHex task.endpoint (canonicalSubject record.subject, record.chain)) = _) ∨ _
      cases decision : (cluster.nodes task.gate).gate.pushDecision task.hashHex task.endpoint
          (canonicalSubject record.subject, record.chain) with
      | error refusal => exact .inl ⟨refusal, rfl⟩
      | ok result =>
          obtain ⟨rfl, -⟩ := pushDecision_ok decision
          exact .inr ⟨by
            change answerNotice _ _ _ _ ((cluster.nodes task.gate).gate.pushDecision task.hashHex
              task.endpoint (canonicalSubject record.subject, record.chain)) = _
            rw [decision]
            rfl, rfl⟩

private theorem next_effect {event : Event}
    (taken : next platform secret cluster event = some (after, notices)) :
    Effect platform secret cluster event after notices := by
  cases event with
  | tick gate clock =>
      simp only [next] at taken
      split at taken
      · rename_i later
        cases taken
        exact .tick gate clock later
      · cases taken
  | restart gate settings clock => cases taken; exact .restart ..
  | setSessionKey gate => cases taken; exact .setSessionKey ..
  | moderate gate view => cases taken; exact .moderate ..
  | connected gate connection endpoint =>
      cases endpoint with
      | some endpoint => cases taken; exact .announced ..
      | none => cases taken; exact .anonymous ..
  | closed gate connection => cases taken; exact .closed ..
  | openSession request gate headers body =>
      simp only [next] at taken
      split at taken
      · cases taken
      · cases taken
        exact .received ..
  | tokenVerified request answer =>
      simp only [next] at taken
      split at taken
      · rename_i task inFlight
        split at taken
        · simp only [tokenVerified] at taken
          split at taken
          · cases taken
            exact .tokenRefused ..
          · rename_i token claims ownAnswer verified
            cases taken
            exact .tokenVerified request answer task token claims ownAnswer inFlight verified
        · cases taken
      · cases taken
  | decided request devices decision =>
      simp only [next] at taken
      split at taken
      · rename_i task inFlight
        split at taken
        · rename_i view token claims ownAnswer phase
          exact decided_effect request task view token claims ownAnswer devices decision inFlight
            phase (Option.some.inj taken)
        · cases taken
      · cases taken
  | recordPut request =>
      simp only [next] at taken
      split at taken
      · rename_i task inFlight
        split at taken
        · rename_i grant phase
          cases taken
          exact .opened request task grant inFlight phase
        · cases taken
      · cases taken
  | authorizePush push gate connection hashHex =>
      simp only [next] at taken
      split at taken
      · cases taken
      · exact authorizePush_effect push gate connection hashHex (Option.some.inj taken)
  | lookedUp push answer =>
      simp only [next] at taken
      split at taken
      · rename_i task inFlight
        exact lookedUp_effect push task answer inFlight (Option.some.inj taken)
      · cases taken

theorem machine_effect {event : Event}
    (taken : (machine platform secret).next cluster event = some (after, notices)) :
    Effect platform secret cluster event after notices :=
  next_effect taken

end Inversion

end Cluster

end TdfIrohS3
