import TdfIrohS3.Publish.Steps
import TdfIrohS3.Library.Slots

namespace TdfIrohS3.Cluster

open Library

def announcedEndpoint (gate connection : Nat) : List Notice → Option EndpointId
  | [] => none
  | .announced g c e :: older =>
      if g = gate ∧ c = connection then some e else announcedEndpoint gate connection older
  | .closed g c :: older =>
      if g = gate ∧ c = connection then none else announcedEndpoint gate connection older
  | .restarted g :: older => if g = gate then none else announcedEndpoint gate connection older
  | _ :: older => announcedEndpoint gate connection older

/-- Where a session in memory comes from: a request this instance answered, or a stored record. -/
inductive Source
  | request (grant : Grant) (expires : Nat)
  | stored (record : SessionRecord) (looked : Clock) (expires : Nat)

def Source.session : Source → Session
  | .request grant expires => ⟨canonicalSubject grant.claims.sub, expires, grant.record.chain⟩
  | .stored record _ expires => ⟨canonicalSubject record.subject, expires, record.chain⟩

def source (gate : Nat) (endpoint : EndpointId) : List Notice → Option Source
  | [] => none
  | .opened _ grant _ expires :: older =>
      if grant.gate = gate ∧ grant.endpoint = endpoint then some (.request grant expires)
      else source gate endpoint older
  | .readBack g e record looked expires :: older =>
      if g = gate ∧ e = endpoint then some (.stored record looked expires)
      else source gate endpoint older
  | .restarted g :: older => if g = gate then none else source gate endpoint older
  | _ :: older => source gate endpoint older

section Aside

variable {gate connection : Nat} {endpoint : EndpointId} {notice : Notice}
variable {notices log : List Notice}

theorem announcedEndpoint_of_ne (other : notice.about ≠ some gate) :
    announcedEndpoint gate connection (notice :: log) = announcedEndpoint gate connection log := by
  cases notice <;> simp_all [announcedEndpoint, Notice.about]

theorem source_of_ne (other : notice.about ≠ some gate) :
    source gate endpoint (notice :: log) = source gate endpoint log := by
  cases notice <;> simp_all [source, Notice.about]

theorem announcedEndpoint_of_quiet (quiet : ∀ notice ∈ notices, notice.about ≠ some gate) :
    announcedEndpoint gate connection (notices ++ log) = announcedEndpoint gate connection log := by
  induction notices with
  | nil => rfl
  | cons notice older ih =>
      have rest := ih fun later member => quiet later (List.mem_cons_of_mem _ member)
      rw [List.cons_append, announcedEndpoint_of_ne (quiet notice List.mem_cons_self), rest]

theorem source_of_quiet (quiet : ∀ notice ∈ notices, notice.about ≠ some gate) :
    source gate endpoint (notices ++ log) = source gate endpoint log := by
  induction notices with
  | nil => rfl
  | cons notice older ih =>
      have rest := ih fun later member => quiet later (List.mem_cons_of_mem _ member)
      rw [List.cons_append, source_of_ne (quiet notice List.mem_cons_self), rest]

end Aside

theorem source_request_mem {gate : Nat} {endpoint : EndpointId} {grant : Grant} {expires : Nat}
    {log : List Notice} (found : source gate endpoint log = some (.request grant expires)) :
    grant.gate = gate ∧ grant.endpoint = endpoint ∧
      ∃ request opening, Notice.opened request grant opening expires ∈ log := by
  induction log with
  | nil => cases found
  | cons notice older ih =>
      cases notice with
      | opened request other opening until_ =>
          simp only [source] at found
          split at found
          · rename_i same
            cases found
            exact ⟨same.1, same.2, request, opening, List.mem_cons_self⟩
          · obtain ⟨atGate, forEndpoint, id, at_, member⟩ := ih found
            exact ⟨atGate, forEndpoint, id, at_, List.mem_cons_of_mem _ member⟩
      | readBack g e record looked until_ =>
          simp only [source] at found
          split at found
          · cases found
          · obtain ⟨atGate, forEndpoint, id, at_, member⟩ := ih found
            exact ⟨atGate, forEndpoint, id, at_, List.mem_cons_of_mem _ member⟩
      | restarted g =>
          simp only [source] at found
          split at found
          · cases found
          · obtain ⟨atGate, forEndpoint, id, at_, member⟩ := ih found
            exact ⟨atGate, forEndpoint, id, at_, List.mem_cons_of_mem _ member⟩
      | _ =>
          obtain ⟨atGate, forEndpoint, id, at_, member⟩ := ih found
          exact ⟨atGate, forEndpoint, id, at_, List.mem_cons_of_mem _ member⟩

theorem source_record_mem {gate : Nat} {endpoint : EndpointId} {record : SessionRecord}
    {looked : Clock} {expires : Nat} {log : List Notice}
    (found : source gate endpoint log = some (.stored record looked expires)) :
    Notice.readBack gate endpoint record looked expires ∈ log := by
  induction log with
  | nil => cases found
  | cons notice older ih =>
      cases notice with
      | opened request other opening until_ =>
          simp only [source] at found
          split at found
          · cases found
          · exact List.mem_cons_of_mem _ (ih found)
      | readBack g e other looked' until_ =>
          simp only [source] at found
          split at found
          · rename_i same
            obtain ⟨rfl, rfl⟩ := same
            cases found
            exact List.mem_cons_self
          · exact List.mem_cons_of_mem _ (ih found)
      | restarted g =>
          simp only [source] at found
          split at found
          · cases found
          · exact List.mem_cons_of_mem _ (ih found)
      | _ => exact List.mem_cons_of_mem _ (ih found)

section Steps

variable {platform : Platform} {secret : List UInt8} {log notices : List Notice}
variable {cluster after : Cluster} {event : Event}

def GrantsChecked (platform : Platform) (log : List Notice) : Prop :=
  ∀ request grant stored, Notice.passed request grant stored ∈ log → grant.Checked platform

theorem grants_checked_step (checked : GrantsChecked platform log)
    (tracked : RequestsTracked log cluster)
    (effect : Effect platform secret cluster event after notices) :
    GrantsChecked platform (notices ++ log) := by
  intro request grant stored member
  rcases List.mem_append.mp member with now | earlier
  · cases effect with
    | passed request' devices decision task grant' inFlight view token claims ownAnswer phase
        publisher possession read =>
        simp only [List.mem_singleton, Notice.passed.injEq] at now
        obtain ⟨-, rfl, -⟩ := now
        obtain ⟨-, samePolicy, sameView, sameHeaders, sameBody, sameAnswers, sameClock,
          sameToken⟩ := read
        have verified := tracked.deciding request' task view token claims ownAnswer inFlight phase
        have sameClaims := PublishPolicy.publisherDecided_claims publisher
        obtain ⟨proved, made⟩ := openSessionRecord_ok possession
        refine ⟨?_, ?_, ?_, ?_, ?_⟩
        · rw [sameHeaders, sameToken]
          exact (PublishPolicy.publisherVerified_ok verified).1
        · rw [sameAnswers]
        · rw [samePolicy, sameView, sameHeaders, sameAnswers, PublishPolicy.publisherWithChain,
            sameClaims]
          simp only [verified]
          rw [publisher, sameClaims]
        · rw [sameClock, sameToken, sameBody]
          exact proved
        · rw [samePolicy, sameClock]
          exact made
    | readBack push answer task record last _ _ outcome =>
        rcases outcome with ⟨refusal, rfl⟩ | ⟨rfl, -⟩ <;> simp at now
    | _ => simp [recordPut] at now
  · exact checked request grant stored earlier

def KeysShared (platform : Platform) (secret : List UInt8) (cluster : Cluster) : Prop :=
  ∀ gate key, (cluster.nodes gate).gate.recordKey = some key → key = RecordKey.derive platform secret

theorem keys_shared_step (shared : KeysShared platform secret cluster)
    (tracked : RequestsTracked log cluster)
    (effect : Effect platform secret cluster event after notices) :
    KeysShared platform secret after := by
  intro gate key keyed
  have move := effect_node tracked effect gate
  generalize after.nodes gate = node at move keyed
  cases move with
  | kept same quiet => exact shared gate key (same.recordKey ▸ keyed)
  | restarted settings clock =>
      rw [start_recordKey] at keyed
      cases keyed
  | keyed =>
      unfold PublishGate.setSessionKey at keyed
      split at keyed
      · exact shared gate key keyed
      · exact (Option.some.inj keyed).symm
  | _ => exact shared gate key keyed

def SessionsSourced (log : List Notice) (cluster : Cluster) : Prop :=
  ∀ gate endpoint session, (cluster.nodes gate).gate.sessions.get endpoint = some session →
    ∃ origin, source gate endpoint log = some origin ∧ origin.session = session

theorem sourced_opened {gate : Nat} {clock : Clock} {endpoint other : EndpointId} {subject : String}
    {ttl : Nat} {chain : Option (List StoredEntity)} {session : Session} (origin : Source)
    (sourced : SessionsSourced log cluster)
    (held : ((cluster.nodes gate).gate.openSessionWithChain clock endpoint subject ttl
      chain).sessions.get other = some session)
    (made : origin.session = ⟨canonicalSubject subject, clock.instant + ttl, chain⟩)
    (seen : source gate other (notices ++ log) =
      if endpoint = other then some origin else source gate other log) :
    ∃ origin, source gate other (notices ++ log) = some origin ∧ origin.session = session := by
  rcases PublishGate.get_openSessionWithChain held with ⟨rfl, rfl⟩ | ⟨different, before⟩
  · rw [if_pos rfl] at seen
    exact ⟨origin, seen, made⟩
  · rw [if_neg (Ne.symm different)] at seen
    rw [seen]
    exact sourced gate other session before

theorem sessions_sourced_step (sourced : SessionsSourced log cluster)
    (tracked : RequestsTracked log cluster)
    (effect : Effect platform secret cluster event after notices) :
    SessionsSourced (notices ++ log) after := by
  intro gate endpoint session held
  have move := effect_node tracked effect gate
  generalize after.nodes gate = node at move held
  cases move with
  | kept same quiet =>
      rw [same.sessions] at held
      rw [source_of_quiet quiet]
      exact sourced gate endpoint session held
  | restarted settings clock =>
      rw [start_sessions] at held
      cases held
  | keyed =>
      simp only [setSessionKey_project PublishGate.sessions platform secret _ fun _ => rfl] at held
      exact sourced gate endpoint session held
  | opened request task grant inFlight phase here granted =>
      refine sourced_opened (.request grant _) sourced held rfl ?_
      simp [source, granted]
  | readBack push answer task record last inFlight here found aside =>
      refine sourced_opened (.stored record (cluster.nodes gate).clock _) sourced held rfl ?_
      rw [List.cons_append, source_of_ne (aside ▸ (Option.some_ne_none gate).symm)]
      simp [source]
  | _ => exact sourced gate endpoint session held

def OpeningsPassed (log : List Notice) : Prop :=
  ∀ request grant opening expires, Notice.opened request grant opening expires ∈ log →
    expires = opening.instant + grant.policy.sessionTtl ∧
      ∃ stored, Notice.passed request grant stored ∈ log

theorem openings_passed_step (passed : OpeningsPassed log) (tracked : RequestsTracked log cluster)
    (effect : Effect platform secret cluster event after notices) :
    OpeningsPassed (notices ++ log) := by
  intro request grant opening expires member
  rcases List.mem_append.mp member with now | earlier
  · cases effect with
    | opened request' task grant' inFlight phase =>
        simp only [recordPut, List.mem_singleton, Notice.opened.injEq] at now
        obtain ⟨rfl, rfl, rfl, rfl⟩ := now
        obtain ⟨-, policy, stored, seen⟩ := tracked.storing request task grant inFlight phase
        exact ⟨by rw [policy], stored, List.mem_append_right _ seen⟩
    | readBack push answer task record last _ _ outcome =>
        rcases outcome with ⟨refusal, rfl⟩ | ⟨rfl, -⟩ <;> simp at now
    | _ => simp at now
  · obtain ⟨held, stored, seen⟩ := passed request grant opening expires earlier
    exact ⟨held, stored, List.mem_append_right _ seen⟩

/-- A record read back had time left by the clock of the instance that read it, and is held no
longer than those whole seconds. -/
def ReadBacksTimely (log : List Notice) : Prop :=
  ∀ gate endpoint record looked expires, Notice.readBack gate endpoint record looked expires ∈ log →
    0 < wrappingSub record.expiresAt (nowSecs looked) ∧
      expires ≤ looked.instant + (wrappingSub record.expiresAt (nowSecs looked)).toNat * nanos

theorem read_backs_timely_step (timely : ReadBacksTimely log)
    (effect : Effect platform secret cluster event after notices) :
    ReadBacksTimely (notices ++ log) := by
  intro gate endpoint record looked expires member
  rcases List.mem_append.mp member with now | earlier
  · obtain ⟨push, answer, task, -, -, -, -, accepted, rfl, rfl⟩ := effect_readBack effect now
    obtain ⟨body, -, -, -, left⟩ := PublishGate.acceptedRecord_eq_some accepted
    exact ⟨left, Nat.add_le_add_left (Nat.min_le_left _ _) _⟩
  · exact timely gate endpoint record looked expires earlier

/-- Keyed BLAKE3 is not forged: a body the session store answers with carries this node's tag only
over a text that was passed to `seal`. -/
def Unforged (platform : Platform) (secret : List UInt8) (log : List Notice) (event : Event) :
    Prop :=
  ∀ push body stored, event = .lookedUp push (.found body) →
    platform.readSealed body = some stored →
    PublishGate.tagged platform (RecordKey.derive platform secret) stored = true →
    ∃ request grant kept, Notice.passed request grant kept ∈ log ∧
      platform.sessionJson grant.record = stored.record

def ParsesBack (platform : Platform) (log : List Notice) : Prop :=
  ∀ request grant stored, Notice.passed request grant stored ∈ log →
    platform.readSession (platform.sessionJson grant.record) = some grant.record

/-- What is assumed of the store and of the codec, at every step. The store may answer with any
bytes that do not break it. -/
def Assumed (platform : Platform) (secret : List UInt8) (log : List Notice) (_ : Cluster)
    (event : Event) : Prop :=
  Unforged platform secret log event ∧ ParsesBack platform log

def assumedCheck (platform : Platform) (log : List Notice) (_ : Cluster) (event : Event) : Bool :=
  (match event with
    | .lookedUp _ (.found body) =>
        match platform.readSealed body with
        | some stored => log.any fun notice =>
            match notice with
            | .passed _ grant _ => platform.sessionJson grant.record == stored.record
            | _ => false
        | none => true
    | _ => true) &&
  log.all fun notice =>
    match notice with
    | .passed _ grant _ =>
        decide (platform.readSession (platform.sessionJson grant.record) = some grant.record)
    | _ => true

theorem assumed_of_check {log : List Notice} {cluster : Cluster} {event : Event}
    (checked : assumedCheck platform log cluster event = true) :
    Assumed platform secret log cluster event := by
  simp only [assumedCheck, Bool.and_eq_true] at checked
  obtain ⟨known, parsed⟩ := checked
  constructor
  · intro push body stored looked read _
    subst looked
    simp only [read, List.any_eq_true] at known
    obtain ⟨notice, member, same⟩ := known
    cases notice with
    | passed request grant kept => exact ⟨request, grant, kept, member, beq_iff_eq.mp same⟩
    | _ => cases same
  · intro request grant stored member
    exact of_decide_eq_true (List.all_eq_true.mp parsed _ member)

def RecordsGranted (log : List Notice) : Prop :=
  ∀ gate endpoint record looked expires, Notice.readBack gate endpoint record looked expires ∈ log →
    ∃ request grant stored, Notice.passed request grant stored ∈ log ∧ grant.record = record ∧
      grant.endpoint = endpoint

theorem records_granted_step (granted : RecordsGranted log) (checked : GrantsChecked platform log)
    (shared : KeysShared platform secret cluster)
    (assumed : Assumed platform secret log cluster event)
    (effect : Effect platform secret cluster event after notices) :
    RecordsGranted (notices ++ log) := by
  intro gate endpoint record looked expires member
  rcases List.mem_append.mp member with now | earlier
  · obtain ⟨push, answer, task, rfl, -, -, -, accepted, -, -⟩ := effect_readBack effect now
    obtain ⟨body, rfl, unsealed, named, -⟩ := PublishGate.acceptedRecord_eq_some accepted
    obtain ⟨key, stored, keyed, parsed, valid, read⟩ := PublishGate.unsealRecord_eq_some unsealed
    obtain rfl := shared gate key keyed
    obtain ⟨request, grant, kept, passed, sameText⟩ := assumed.1 push body stored rfl parsed valid
    have back := assumed.2 request grant kept passed
    rw [sameText, read, Option.some.injEq] at back
    have endpointId := (checked request grant kept passed).record_endpointId
    rw [← back, named] at endpointId
    exact ⟨request, grant, kept, List.mem_append_right _ passed, back.symm,
      (EndpointId.toString_injective endpointId).symm⟩
  · obtain ⟨request, grant, stored, passed, facts⟩ :=
      granted gate endpoint record looked expires earlier
    exact ⟨request, grant, stored, List.mem_append_right _ passed, facts⟩

def ConnectionsAnnounced (log : List Notice) (cluster : Cluster) : Prop :=
  ∀ gate connection endpoint, (cluster.nodes gate).gate.connections.get connection = some endpoint →
    announcedEndpoint gate connection log = some endpoint

theorem connections_announced_step (announced : ConnectionsAnnounced log cluster)
    (tracked : RequestsTracked log cluster)
    (effect : Effect platform secret cluster event after notices) :
    ConnectionsAnnounced (notices ++ log) after := by
  intro gate connection endpoint known
  have move := effect_node tracked effect gate
  generalize after.nodes gate = node at move known
  cases move with
  | kept same quiet =>
      rw [same.connections] at known
      rw [announcedEndpoint_of_quiet quiet]
      exact announced gate connection endpoint known
  | restarted settings clock =>
      rw [start_connections] at known
      cases known
  | keyed =>
      simp only [setSessionKey_project PublishGate.connections platform secret _ fun _ => rfl]
        at known
      exact announced gate connection endpoint known
  | announced other endpoint' =>
      simp only [PublishGate.connected, Table.get_insert] at known
      change (if gate = gate ∧ other = connection then some endpoint'
        else announcedEndpoint gate connection log) = some endpoint
      by_cases same : connection = other
      · rw [if_pos same] at known
        rw [if_pos ⟨rfl, same.symm⟩]
        exact known
      · rw [if_neg same] at known
        rw [if_neg (fun both => same both.2.symm)]
        exact announced gate connection endpoint known
  | closed other =>
      simp only [PublishGate.closed, Table.get_remove] at known
      change (if gate = gate ∧ other = connection then none
        else announcedEndpoint gate connection log) = some endpoint
      by_cases same : connection = other
      · rw [if_pos same] at known
        cases known
      · rw [if_neg same] at known
        rw [if_neg (fun both => same both.2.symm)]
        exact announced gate connection endpoint known
  | readBack push answer task record last inFlight here found aside =>
      rw [List.cons_append, announcedEndpoint_of_ne (aside ▸ (Option.some_ne_none gate).symm)]
      exact announced gate connection endpoint known
  | _ => exact announced gate connection endpoint known

def CalledWhileAnnounced (log : List Notice) (push gate connection : Nat) (hashHex : String)
    (endpoint : EndpointId) : Prop :=
  ∃ newer older, log = newer ++ .called push gate connection hashHex endpoint :: older ∧
    announcedEndpoint gate connection older = some endpoint

theorem CalledWhileAnnounced.later {push gate connection : Nat} {hashHex : String}
    {endpoint : EndpointId} (called : CalledWhileAnnounced log push gate connection hashHex endpoint)
    (notices : List Notice) :
    CalledWhileAnnounced (notices ++ log) push gate connection hashHex endpoint := by
  obtain ⟨newer, older, rfl, announced⟩ := called
  exact ⟨notices ++ newer, older, (List.append_assoc ..).symm, announced⟩

def PushesCalled (log : List Notice) (cluster : Cluster) : Prop :=
  ∀ push task, cluster.pushes push = some task →
    CalledWhileAnnounced log push task.gate task.connection task.hashHex task.endpoint

theorem pushes_called_step (called : PushesCalled log cluster)
    (announced : ConnectionsAnnounced log cluster)
    (effect : Effect platform secret cluster event after notices) :
    PushesCalled (notices ++ log) after := by
  intro push task inFlight
  have kept (before : cluster.pushes push = some task) :
      CalledWhileAnnounced (notices ++ log) push task.gate task.connection task.hashHex
        task.endpoint := (called push task before).later notices
  cases effect with
  | restart gate settings clock => exact kept (restart_pushes inFlight).1
  | lookingUp push' gate connection hashHex endpoint known =>
      rcases held_of_fill inFlight with ⟨same, rfl⟩ | inFlight
      · subst same
        exact ⟨[], log, rfl, announced gate connection endpoint known⟩
      · exact kept inFlight
  | missed push' answer task' _ =>
      exact kept (held_of_clear inFlight)
  | readBack push' answer task' record last _ _ _ =>
      exact kept (held_of_clear inFlight)
  | _ => exact kept inFlight

structure Traced (platform : Platform) (secret : List UInt8) (log : List Notice)
    (cluster : Cluster) : Prop where
  tracked : RequestsTracked log cluster
  checked : GrantsChecked platform log
  shared : KeysShared platform secret cluster
  sourced : SessionsSourced log cluster
  openings : OpeningsPassed log
  timely : ReadBacksTimely log
  announced : ConnectionsAnnounced log cluster
  called : PushesCalled log cluster

theorem fresh_traced (fresh : Fresh cluster) : Traced platform secret [] cluster where
  tracked :=
    { deciding := by
        intro id task view token claims ownAnswer inFlight
        rw [fresh.opens] at inFlight
        cases inFlight
      storing := by
        intro id task grant inFlight
        rw [fresh.opens] at inFlight
        cases inFlight }
  checked := by intro request grant stored member; cases member
  shared := by
    intro gate key keyed
    obtain ⟨settings, clock, started⟩ := fresh.nodes gate
    rw [started, start_recordKey] at keyed
    cases keyed
  sourced := by
    intro gate endpoint session held
    obtain ⟨settings, clock, started⟩ := fresh.nodes gate
    rw [started, start_sessions] at held
    cases held
  openings := by intro request grant opening expires member; cases member
  timely := by intro gate endpoint record looked expires member; cases member
  announced := by
    intro gate connection endpoint known
    obtain ⟨settings, clock, started⟩ := fresh.nodes gate
    rw [started, start_connections] at known
    cases known
  called := by
    intro push task inFlight
    rw [fresh.pushes] at inFlight
    cases inFlight

theorem traced_step (traced : Traced platform secret log cluster)
    (effect : Effect platform secret cluster event after notices) :
    Traced platform secret (notices ++ log) after where
  tracked := requests_tracked_step traced.tracked effect
  checked := grants_checked_step traced.checked traced.tracked effect
  shared := keys_shared_step traced.shared traced.tracked effect
  sourced := sessions_sourced_step traced.sourced traced.tracked effect
  openings := openings_passed_step traced.openings traced.tracked effect
  timely := read_backs_timely_step traced.timely effect
  announced := connections_announced_step traced.announced traced.tracked effect
  called := pushes_called_step traced.called traced.announced effect

theorem run_traced {allowed : List Notice → Cluster → Event → Prop} {start : Cluster}
    (fresh : Fresh start) (run : (machine platform secret).Run allowed [] start log cluster) :
    Traced platform secret log cluster := by
  refine run.invariant (Traced platform secret) (fresh_traced fresh) ?_
  intro log state event next notices traced _ taken
  exact traced_step traced (machine_effect taken)

theorem run_granted {start : Cluster} (fresh : Fresh start)
    (run : (machine platform secret).Run (Assumed platform secret) [] start log cluster) :
    RecordsGranted log := by
  have both : Traced platform secret log cluster ∧ RecordsGranted log := by
    refine run.invariant (fun log cluster => Traced platform secret log cluster ∧
      RecordsGranted log) ⟨fresh_traced fresh, ?_⟩ ?_
    · intro gate endpoint record looked expires member
      cases member
    · rintro log state event next notices ⟨traced, granted⟩ assumed taken
      have effect := machine_effect taken
      exact ⟨traced_step traced effect,
        records_granted_step granted traced.checked traced.shared assumed effect⟩
  exact both.2

end Steps

end TdfIrohS3.Cluster
