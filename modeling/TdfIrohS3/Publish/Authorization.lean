import TdfIrohS3.Publish.Provenance

namespace TdfIrohS3.Cluster

open Library

/-- A session has not expired when an instance uses it: by the monotonic clock, and for a stored
record also by the wall clock when the record was looked up. -/
def Source.LiveAt (clock : Clock) : Source → Prop
  | .request _ expires => clock.instant < expires
  | .stored record looked expires =>
      0 < wrappingSub record.expiresAt (nowSecs looked) ∧ (looked = clock ∨ clock.instant < expires)

variable {platform : Platform} {secret : List UInt8} {log notices : List Notice}
variable {cluster after : Cluster} {event : Event}
variable {push gate connection : Nat} {hashHex subject : String} {endpoint : EndpointId}

/-- Every accepted push used a session with a known source, live then, and passed the moderation and
mode checks of its instance. -/
theorem accepted_source (traced : Traced platform secret log cluster)
    (effect : Effect platform secret cluster event after notices)
    (accepted : Notice.accepted push gate connection hashHex subject endpoint ∈ notices) :
    CalledWhileAnnounced (notices ++ log) push gate connection hashHex endpoint ∧
      (cluster.nodes gate).gate.moderation.isSuspended subject = false ∧
      (cluster.nodes gate).gate.moderation.isBlocked hashHex = false ∧
      ∃ origin, source gate endpoint (notices ++ log) = some origin ∧
        origin.session.subject = subject ∧ origin.LiveAt (cluster.nodes gate).clock ∧
        (cluster.nodes gate).gate.decidedSession subject origin.session.chain = .ok () := by
  cases effect with
  | accepted push' gate' connection' hashHex' endpoint' held known live decision =>
      simp only [List.mem_cons, Notice.accepted.injEq, reduceCtorEq, List.not_mem_nil, or_false]
        at accepted
      obtain ⟨rfl, rfl, rfl, rfl, rfl, rfl⟩ := accepted
      obtain ⟨-, unsuspended, unblocked, decided⟩ := pushDecision_ok decision
      obtain ⟨session, inMemory, unexpired, rfl⟩ := PublishGate.heldSession_eq_some live
      obtain ⟨origin, found, same⟩ := traced.sourced gate endpoint session inMemory
      refine ⟨?_, unsuspended, unblocked, origin, found, by rw [same], ?_, by rw [same]; exact decided⟩
      · exact ⟨[_], log, rfl, traced.announced gate connection endpoint known⟩
      · cases origin with
        | request grant expires =>
            subst same
            exact unexpired
        | stored record looked expires =>
            subst same
            have member := source_record_mem found
            exact ⟨(traced.timely gate endpoint record looked expires member).1, .inr unexpired⟩
  | readBack push' answer task record last inFlight found outcome =>
      rcases outcome with ⟨refusal, rfl⟩ | ⟨rfl, decision⟩
      · simp at accepted
      · simp only [List.mem_cons, Notice.accepted.injEq, reduceCtorEq, List.not_mem_nil, or_false]
          at accepted
        obtain ⟨rfl, rfl, rfl, rfl, rfl, rfl⟩ := accepted
        obtain ⟨-, unsuspended, unblocked, decided⟩ := pushDecision_ok decision
        refine ⟨(traced.called push task inFlight).later _, unsuspended, unblocked,
          .stored record (cluster.nodes task.gate).clock
            ((cluster.nodes task.gate).clock.instant +
              (cluster.nodes task.gate).gate.readBackTtl (cluster.nodes task.gate).clock record),
          ?_, rfl, ⟨?_, .inl rfl⟩, decided⟩
        · change (if task.gate = task.gate ∧ task.endpoint = task.endpoint then _ else _) = _
          rw [if_pos ⟨rfl, rfl⟩]
        · obtain ⟨body, -, -, -, left⟩ := PublishGate.acceptedRecord_eq_some found
          exact left
  | _ => simp [recordPut] at accepted

/-- The request a session comes from, and why that session is still good: the instance opened the
session for the request itself, less than `session_ttl` ago, or it read the request's record back
before the request's expiry and has held it no longer than that left. -/
def UnexpiredGrant (log : List Notice) (gate : Nat) (clock : Clock) (grant : Grant) : Prop :=
  (grant.gate = gate ∧ ∃ request opening expires,
      Notice.opened request grant opening expires ∈ log ∧
      clock.instant < opening.instant + grant.policy.sessionTtl) ∨
    ∃ looked expires, Notice.readBack gate grant.endpoint grant.record looked expires ∈ log ∧
      nowSecs looked < grant.expiry ∧ (looked = clock ∨ clock.instant < expires) ∧
      expires ≤ looked.instant + (grant.expiry - nowSecs looked).toNat * nanos

/-- The request behind a live source passed its checks for this endpoint and subject. -/
theorem source_grant (traced : Traced platform secret log cluster) (granted : RecordsGranted log)
    {origin : Source} {clock : Clock} (found : source gate endpoint log = some origin)
    (live : origin.LiveAt clock) :
    ∃ request grant stored, Notice.passed request grant stored ∈ log ∧ grant.Checked platform ∧
      grant.endpoint = endpoint ∧ canonicalSubject grant.claims.sub = origin.session.subject ∧
      grant.record.chain = origin.session.chain ∧ UnexpiredGrant log gate clock grant := by
  cases origin with
  | request grant expires =>
      obtain ⟨atGate, forEndpoint, request, opening, opened⟩ := source_request_mem found
      obtain ⟨rfl, stored, passed⟩ := traced.openings request grant opening expires opened
      exact ⟨request, grant, stored, passed, traced.checked request grant stored passed,
        forEndpoint, rfl, rfl, .inl ⟨atGate, request, opening, _, opened, live⟩⟩
  | stored record looked expires =>
      have member := source_record_mem found
      obtain ⟨request, grant, stored, passed, rfl, rfl⟩ :=
        granted gate endpoint record looked expires member
      have checked := traced.checked request grant stored passed
      refine ⟨request, grant, stored, passed, checked, rfl, ?_, rfl, .inr ?_⟩
      · rw [← checked.record_subject]
        rfl
      · obtain ⟨unexpired, most⟩ := checked.left live.1
        have held := (traced.timely gate _ _ looked expires member).2
        have longest := Nat.mul_le_mul_right nanos (Int.toNat_le_toNat most)
        exact ⟨looked, expires, member, unexpired, live.2, by omega⟩

/-- Push authorization is sound against any store that cannot forge the node's tag. -/
theorem authorize_push_sound (platform : Platform) (secret : List UInt8) (start : Cluster)
    (fresh : Fresh start) (log : List Notice) (cluster : Cluster)
    (run : (machine platform secret).Run (Assumed platform secret) [] start log cluster)
    (event : Event) (assumed : Assumed platform secret log cluster event) (after : Cluster)
    (notices : List Notice)
    (taken : (machine platform secret).next cluster event = some (after, notices))
    (push gate connection : Nat) (hashHex s : String) (e : EndpointId)
    (accepted : Notice.accepted push gate connection hashHex s e ∈ notices) :
    CalledWhileAnnounced (notices ++ log) push gate connection hashHex e ∧
      (∃ request grant stored, Notice.passed request grant stored ∈ log ∧
        grant.Checked platform ∧ grant.endpoint = e ∧ canonicalSubject grant.claims.sub = s ∧
        (∃ signature, decodeSignature grant.body.signature = some signature ∧
          platform.verify e (sessionMessage platform e grant.token grant.body.timestamp)
            signature = true) ∧
        UnexpiredGrant (notices ++ log) gate (cluster.nodes gate).clock grant) ∧
      (cluster.nodes gate).gate.moderation.isSuspended s = false ∧
      (cluster.nodes gate).gate.moderation.isBlocked hashHex = false := by
  have effect := machine_effect taken
  have traced := run_traced fresh run
  have granted := records_granted_step (run_granted fresh run) traced.checked traced.shared assumed
    effect
  obtain ⟨called, unsuspended, unblocked, origin, found, rfl, live, -⟩ :=
    accepted_source traced effect accepted
  obtain ⟨request, grant, stored, passed, checked, rfl, same, -, unexpired⟩ :=
    source_grant (traced_step traced effect) granted found live
  refine ⟨called, ⟨request, grant, stored, ?_, checked, rfl, same,
    verifyPossession_signed checked.possession, unexpired⟩, unsuspended, unblocked⟩
  -- The step that accepts the push is not the step at which the request passed.
  rcases List.mem_append.mp passed with now | earlier
  · exfalso
    cases effect with
    | passed request' devices decision task grant' _ _ _ _ _ _ _ _ _ => simp at accepted
    | readBack push' answer task record last _ _ outcome =>
        rcases outcome with ⟨refusal, rfl⟩ | ⟨rfl, -⟩ <;> simp at now
    | _ => simp [recordPut] at now
  · exact earlier

structure Grant.Permitted (grant : Grant) (subject : String) : Prop where
  asked : grant.policy.decider.mode ≠ .local
  permit : ∃ chain person, grant.chain = some chain ∧
    grant.policy.chain grant.headers grant.claims grant.token grant.answers.devices = .ok chain ∧
    grant.policy.decider.ask chain grant.answers.decision = .permit ∧
    chainSubject (stripTokens chain) = some person ∧ canonicalSubject person = subject

theorem checked_permitted {grant : Grant} {chain : List ChainEntity}
    (checked : grant.Checked platform) (kept : grant.chain = some chain) :
    Grant.Permitted grant (canonicalSubject grant.claims.sub) := by
  have publisher := checked.publisher
  unfold PublishPolicy.publisherWithChain at publisher
  split at publisher
  · cases publisher
  · rename_i token claims ownAnswer verified
    obtain ⟨presented, answered⟩ := PublishPolicy.publisherVerified_ok verified
    have sameToken : grant.token = token := by
      have both := checked.bearer_token.symm.trans presented
      exact Option.some.inj both
    have sameClaims : grant.claims = claims := by
      have both := checked.verified.symm.trans answered
      exact Except.ok.inj both
    rw [← sameToken, ← sameClaims, kept] at publisher
    obtain ⟨asked, built, permitted⟩ := PublishPolicy.publisherDecided_permit publisher
    exact ⟨asked, chain, grant.claims.sub, kept, built, permitted,
      PublishPolicy.chain_person built, rfl⟩

def Source.OpenedBy (grant : Grant) : Source → Prop
  | .request other _ => other = grant
  | .stored record _ _ => grant.record = record

theorem decidedSession_pdp {state : PublishGate} {chain : Option (List StoredEntity)}
    (pdp : state.decider.mode = .pdp) (decided : state.decidedSession subject chain = .ok ()) :
    ∃ kept, chain = some kept := by
  unfold PublishGate.decidedSession at decided
  rw [if_neg (by simp [pdp])] at decided
  split at decided
  · cases decided
  · rename_i kept
    exact ⟨kept, rfl⟩

/-- In `pdp` mode the session a push uses was opened by a request the decision service permitted, and
no request it did not permit opened it. -/
theorem pdp_push_permitted (platform : Platform) (secret : List UInt8) (start : Cluster)
    (fresh : Fresh start) (log : List Notice) (cluster : Cluster)
    (run : (machine platform secret).Run (Assumed platform secret) [] start log cluster)
    (event : Event) (assumed : Assumed platform secret log cluster event) (after : Cluster)
    (notices : List Notice)
    (taken : (machine platform secret).next cluster event = some (after, notices))
    (push gate connection : Nat) (hashHex s : String) (e : EndpointId)
    (accepted : Notice.accepted push gate connection hashHex s e ∈ notices)
    (pdp : (cluster.nodes gate).gate.decider.mode = .pdp) :
    ∃ origin, source gate e (notices ++ log) = some origin ∧
      (∃ request grant stored, Notice.passed request grant stored ∈ notices ++ log ∧
        origin.OpenedBy grant ∧ grant.endpoint = e) ∧
      ∀ request grant stored, Notice.passed request grant stored ∈ notices ++ log →
        origin.OpenedBy grant → Grant.Permitted grant s := by
  have effect := machine_effect taken
  have traced := run_traced fresh run
  have traced' := traced_step traced effect
  have granted := records_granted_step (run_granted fresh run) traced.checked traced.shared assumed
    effect
  obtain ⟨-, -, -, origin, found, rfl, live, decided⟩ := accepted_source traced effect accepted
  obtain ⟨kept, chained⟩ := decidedSession_pdp pdp decided
  refine ⟨origin, found, ?_, ?_⟩
  · cases origin with
    | request grant expires =>
        obtain ⟨-, forEndpoint, request, opening, opened⟩ := source_request_mem found
        obtain ⟨-, stored, passed⟩ := traced'.openings request grant opening expires opened
        exact ⟨request, grant, stored, passed, rfl, forEndpoint⟩
    | stored record looked expires =>
        obtain ⟨request, grant, stored, passed, same, forEndpoint⟩ :=
          granted gate e record looked expires (source_record_mem found)
        exact ⟨request, grant, stored, passed, same, forEndpoint⟩
  · intro request grant stored passed opener
    have checked := traced'.checked request grant stored passed
    have recordChain := checked.record_chain
    have session : canonicalSubject grant.claims.sub = origin.session.subject ∧
        grant.record.chain = origin.session.chain := by
      cases origin with
      | request other expires =>
          obtain rfl : other = grant := opener
          exact ⟨rfl, rfl⟩
      | stored record looked expires =>
          obtain rfl : grant.record = record := opener
          exact ⟨by rw [← checked.record_subject]; rfl, rfl⟩
    rw [session.2, chained] at recordChain
    cases held : grant.chain with
    | none =>
        rw [held] at recordChain
        cases recordChain
    | some chain =>
        rw [← session.1]
        exact checked_permitted checked held

section Sample

/-- A platform small enough to run: hashes keep 32 bytes, every 64-byte signature verifies,
the texts of these records are read back and a sealed record is stored as its tag. -/
def samplePlatform (records : List SessionRecord) : Platform :=
  let pad (bytes : List UInt8) : List UInt8 := (bytes ++ List.replicate 32 0).take 32
  let sessionJson (record : SessionRecord) : String :=
    "\x7b\"endpointId\":\"" ++ record.endpointId ++ "\",\"subject\":\"" ++ record.subject ++
      "\",\"expiresAt\":" ++ toString record.expiresAt ++
      (match record.chain with
        | some chain => ",\"chain\":[" ++ (chainSubject chain).getD "" ++ "]"
        | none => "") ++ "\x7d"
  let sealedJson (stored : SealedRecord) : List UInt8 := utf8 stored.tag
  let sealedOf (record : SessionRecord) : SealedRecord :=
    { kid := Text.hexEncode (pad [1] |>.take 8), record := sessionJson record
      tag := Text.hexEncode (pad (utf8 (sessionJson record)).reverse) }
  { blake3 := pad
    deriveKey := fun _ secret => pad secret
    keyedHash := fun _ record => pad record.reverse
    endpointFromStr := fun text =>
      match Text.hexDecode text with
      | some bytes => if length : bytes.length = 32 then some ⟨bytes, length⟩ else none
      | none => none
    verify := fun _ _ signature => signature.length == 64
    sessionJson := sessionJson
    readSession := fun text => records.find? fun record => sessionJson record == text
    sealedJson := sealedJson
    readSealed := fun body => (records.map sealedOf).find? fun stored => sealedJson stored == body }

def sampleEndpoint : EndpointId := ⟨List.replicate 32 7, by decide⟩

def sampleClaims (sub : String) : VerifiedClaims :=
  { VerifiedClaims.bare sub "arkavo" with
    exp := 2000, iat := 900, arkavoEntitlements := [defaultPublishEntitlement] }

def sampleSettings (mode : PublishDecisions) (openTtl heldTtl : Nat) : Settings :=
  let decider : PublishDecider :=
    { mode := mode, provider := decide (mode ≠ .local), entitlement := defaultPublishEntitlement,
      environment := none }
  { policy := { entitlement := some defaultPublishEntitlement, audience := some "arkavo",
                sessionTtl := openTtl * nanos, operatorClientIds := [], decider := decider }
    moderation := Moderation.empty
    decider := decider
    sessionTtl := heldTtl * nanos
    sessionStore := true }

def sampleClock (seconds : Nat) : Clock :=
  ⟨seconds * nanos, unixAt ((1000 + seconds) * nanos)⟩

def sampleStart (settings : Nat → Settings) : Cluster where
  nodes := fun gate => Node.start (settings gate) (sampleClock 0)
  opens := fun _ => none
  pushes := fun _ => none

theorem sampleStart_fresh (settings : Nat → Settings) : Fresh (sampleStart settings) where
  nodes := fun gate => ⟨settings gate, sampleClock 0, rfl⟩
  opens := fun _ => rfl
  pushes := fun _ => rfl

def sampleRecord (sub : String) (expiresAt : Int) (chain : Option (List StoredEntity)) :
    SessionRecord :=
  { endpointId := sampleEndpoint.toString, subject := sub, expiresAt := expiresAt, chain := chain }

def sampleBody (platform : Platform) (record : SessionRecord) : List UInt8 :=
  (({ PublishGate.new Moderation.empty with
      recordKey := some (RecordKey.derive platform [1]) } : PublishGate).sealRecord platform
    record).getD []

def sampleOpening (request gate : Nat) (sub : String) (decision : Option Decisions) : List Event :=
  [.setSessionKey gate,
    .openSession request gate [("authorization", "Bearer token")]
      { endpointId := sampleEndpoint.toString, timestamp := 1000
        signature := Text.hexEncode (List.replicate 64 0) },
    .tokenVerified request (.ok (sampleClaims sub)), .decided request [] decision]

def nextShows (platform : Platform) (event : Event) (cluster : Cluster)
    (shows : List Notice → Bool) : Bool :=
  match next platform [1] cluster event with
  | some (_, notices) => shows notices
  | none => false

theorem next_of_nextShows {platform : Platform} {event : Event} {cluster : Cluster}
    {shows : List Notice → Bool} (shown : nextShows platform event cluster shows = true) :
    ∃ after notices, (machine platform [1]).next cluster event = some (after, notices) ∧
      shows notices = true := by
  unfold nextShows at shown
  split at shown
  · rename_i after notices taken
    exact ⟨after, notices, taken, shown⟩
  · cases shown

def accepts (push gate connection : Nat) (hashHex subject : String) (notices : List Notice) :
    Bool :=
  notices.any fun notice =>
    match notice with
    | .accepted push' gate' connection' hashHex' subject' endpoint =>
        decide (push' = push ∧ gate' = gate ∧ connection' = connection ∧ hashHex' = hashHex ∧
          subject' = subject ∧ endpoint = sampleEndpoint)
    | _ => false

theorem accepted_of_accepts {push gate connection : Nat} {hashHex subject : String}
    {notices : List Notice} (shown : accepts push gate connection hashHex subject notices = true) :
    Notice.accepted push gate connection hashHex subject sampleEndpoint ∈ notices := by
  obtain ⟨notice, member, same⟩ := List.any_eq_true.mp shown
  split at same
  · obtain ⟨rfl, rfl, rfl, rfl, rfl, rfl⟩ := of_decide_eq_true same
    exact member
  · cases same

def storedSession : SessionRecord := sampleRecord "arkavo:alice" 1900 none

def storedPush : List Event :=
  sampleOpening 0 0 "arkavo:alice" none ++
    [.recordPut 0, .setSessionKey 1, .connected 1 5 (some sampleEndpoint),
      .authorizePush 0 1 5 "ab"]

def storedAnswer : Event :=
  .lookedUp 0 (.found (sampleBody (samplePlatform [storedSession]) storedSession))

end Sample

theorem authorize_push_sound_stored :
    ∃ log cluster after notices,
      (machine (samplePlatform [storedSession]) [1]).Run
        (Assumed (samplePlatform [storedSession]) [1]) []
        (sampleStart fun _ => sampleSettings .local 900 900) log cluster ∧
      (machine (samplePlatform [storedSession]) [1]).next cluster storedAnswer =
        some (after, notices) ∧
      Notice.accepted 0 1 5 "ab" "alice" sampleEndpoint ∈ notices ∧
      ∃ request grant stored, Notice.passed request grant stored ∈ log ∧
        grant.endpoint = sampleEndpoint ∧ canonicalSubject grant.claims.sub = "alice" := by
  obtain ⟨log, cluster, run, shown⟩ := Machine.execute_reaches
    (fun _ _ _ => assumed_of_check) storedPush
    (fun log cluster => assumedCheck (samplePlatform [storedSession]) log cluster storedAnswer &&
      nextShows (samplePlatform [storedSession]) storedAnswer cluster (accepts 0 1 5 "ab" "alice"))
    (show ((machine (samplePlatform [storedSession]) [1]).execute
      (assumedCheck (samplePlatform [storedSession])) storedPush []
      (sampleStart fun _ => sampleSettings .local 900 900)).map _ = some true by decide +kernel)
  obtain ⟨checked, shows⟩ := Bool.and_eq_true_iff.mp shown
  obtain ⟨after, notices, taken, seen⟩ := next_of_nextShows shows
  have accepted := accepted_of_accepts seen
  obtain ⟨-, ⟨request, grant, stored, passed, -, sameEndpoint, sameSubject, -⟩, -⟩ :=
    authorize_push_sound (samplePlatform [storedSession]) [1] _ (sampleStart_fresh _) log cluster
      run storedAnswer (assumed_of_check checked) after notices taken 0 1 5 "ab" "alice"
      sampleEndpoint accepted
  exact ⟨log, cluster, after, notices, run, taken, accepted, request, grant, stored, passed,
    sameEndpoint, sameSubject⟩

def permittedSession : SessionRecord :=
  sampleRecord "arkavo:alice" 1900
    (some (stripTokens [subjectEntity (sampleClaims "arkavo:alice") (some "token")]))

def permittedPush : List Event :=
  sampleOpening 0 0 "arkavo:alice" (some [("arkavo:alice", true)]) ++
    [.recordPut 0, .setSessionKey 1, .connected 1 5 (some sampleEndpoint),
      .authorizePush 0 1 5 "ab"]

def permittedAnswer : Event :=
  .lookedUp 0 (.found (sampleBody (samplePlatform [permittedSession]) permittedSession))

def permittedStart : Cluster :=
  sampleStart fun gate => sampleSettings (if gate = 0 then .shadow else .pdp) 900 900

theorem pdp_push_permitted_stored :
    ∃ log cluster after notices,
      (machine (samplePlatform [permittedSession]) [1]).Run
        (Assumed (samplePlatform [permittedSession]) [1]) [] permittedStart log cluster ∧
      (machine (samplePlatform [permittedSession]) [1]).next cluster permittedAnswer =
        some (after, notices) ∧
      Notice.accepted 0 1 5 "ab" "alice" sampleEndpoint ∈ notices ∧
      (cluster.nodes 1).gate.decider.mode = .pdp ∧
      ∃ request grant stored, Notice.passed request grant stored ∈ notices ++ log ∧
        Grant.Permitted grant "alice" := by
  obtain ⟨log, cluster, run, shown⟩ := Machine.execute_reaches
    (fun _ _ _ => assumed_of_check) permittedPush
    (fun log cluster =>
      assumedCheck (samplePlatform [permittedSession]) log cluster permittedAnswer &&
      nextShows (samplePlatform [permittedSession]) permittedAnswer cluster
        (accepts 0 1 5 "ab" "alice") &&
      decide ((cluster.nodes 1).gate.decider.mode = .pdp))
    (show ((machine (samplePlatform [permittedSession]) [1]).execute
      (assumedCheck (samplePlatform [permittedSession])) permittedPush [] permittedStart).map _ =
        some true by decide +kernel)
  simp only [Bool.and_eq_true, decide_eq_true_eq] at shown
  obtain ⟨⟨checked, shows⟩, pdp⟩ := shown
  obtain ⟨after, notices, taken, seen⟩ := next_of_nextShows shows
  have accepted := accepted_of_accepts seen
  obtain ⟨origin, -, ⟨request, grant, stored, passed, opener, -⟩, permitted⟩ :=
    pdp_push_permitted (samplePlatform [permittedSession]) [1] permittedStart
      (sampleStart_fresh _) log cluster run permittedAnswer (assumed_of_check checked) after notices
      taken 0 1 5 "ab" "alice" sampleEndpoint accepted pdp
  exact ⟨log, cluster, after, notices, run, taken, accepted, pdp, request, grant, stored, passed,
    permitted request grant stored passed opener⟩

end TdfIrohS3.Cluster
