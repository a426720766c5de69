import TdfIrohS3.Publish.Authorization

namespace TdfIrohS3.Cluster

open Library

/-- The runs the property is about: the instance keeps running, and no later request for the endpoint
is answered by it. -/
def NoLaterOpening (gate : Nat) (endpoint : EndpointId) (cluster : Cluster) : Event → Prop
  | .restart other _ _ => other ≠ gate
  | .recordPut request => ∀ task grant, cluster.opens request = some task →
      task.phase = .storing grant → ¬(task.gate = gate ∧ grant.endpoint = endpoint)
  | _ => True

/-- A look-up for the endpoint does not come back with a record while a session for it is held. -/
def NothingHeld (platform : Platform) (gate : Nat) (endpoint : EndpointId) (cluster : Cluster) :
    Event → Prop
  | .lookedUp push answer => ∀ task record, cluster.pushes push = some task → task.gate = gate →
      task.endpoint = endpoint →
      (cluster.nodes gate).gate.acceptedRecord platform (cluster.nodes gate).clock endpoint answer =
        some record →
      (cluster.nodes gate).gate.heldSession (cluster.nodes gate).clock endpoint = none
  | _ => True

section Held

variable {platform : Platform} {secret : List UInt8} {log notices : List Notice}
variable {cluster after : Cluster} {event : Event} {gate : Nat} {endpoint : EndpointId}

theorem clock_monotone (tracked : RequestsTracked log cluster)
    (scope : NoLaterOpening gate endpoint cluster event)
    (effect : Effect platform secret cluster event after notices) :
    (cluster.nodes gate).clock.instant ≤ (after.nodes gate).clock.instant := by
  have move := effect_node tracked effect gate
  generalize after.nodes gate = node at move
  cases move with
  | kept same quiet => rw [same.clock]
  | ticked clock later => exact later
  | restarted settings clock => exact absurd rfl scope
  | _ => exact Nat.le_refl _

/-- Opening a session for another endpoint keeps one that has not expired. -/
theorem get_openSession_of_ne {state : PublishGate} {clock : Clock} {other : EndpointId}
    {subject : String} {ttl : Nat} {chain : Option (List StoredEntity)} {session : Session}
    (different : endpoint ≠ other) (held : state.sessions.get endpoint = some session)
    (live : clock.instant < session.expires) :
    (state.openSessionWithChain clock other subject ttl chain).sessions.get endpoint =
      some session := by
  simp only [PublishGate.openSessionWithChain]
  rw [Table.get_insert_of_ne _ _ different]
  exact Table.get_retain_of_keep _ held (decide_eq_true live)

theorem session_kept_step {session : Session}
    (held : (cluster.nodes gate).gate.sessions.get endpoint = some session)
    (live : (cluster.nodes gate).clock.instant < session.expires)
    (tracked : RequestsTracked log cluster)
    (scope : NoLaterOpening gate endpoint cluster event)
    (condition : NothingHeld platform gate endpoint cluster event)
    (effect : Effect platform secret cluster event after notices) :
    (after.nodes gate).gate.sessions.get endpoint = some session := by
  have move := effect_node tracked effect gate
  generalize after.nodes gate = node at move
  cases move with
  | kept same quiet =>
      rw [same.sessions]
      exact held
  | restarted settings clock => exact absurd rfl scope
  | keyed =>
      simp only [setSessionKey_project PublishGate.sessions platform secret _ fun _ => rfl]
      exact held
  | opened request task grant inFlight phase here granted =>
      have elsewhere := scope task grant inFlight phase
      exact get_openSession_of_ne (fun same => elsewhere ⟨here, same.symm⟩) held live
  | readBack push answer task record last inFlight here found aside =>
      by_cases same : endpoint = task.endpoint
      · have empty := condition task record inFlight here same.symm (same ▸ found)
        simp only [PublishGate.heldSession, held] at empty
        rw [if_pos live] at empty
        cases empty
      · exact get_openSession_of_ne same held live
  | _ => exact held

/-- In a run of such steps the session stays in memory until it expires. -/
theorem session_kept_run {session : Session} {history : List Notice} {later : Cluster}
    (traced : Traced platform secret log cluster)
    (held : (cluster.nodes gate).gate.sessions.get endpoint = some session)
    (run : (machine platform secret).Run (fun _ cluster event =>
      NoLaterOpening gate endpoint cluster event ∧
        NothingHeld platform gate endpoint cluster event) log cluster history later)
    (unexpired : (later.nodes gate).clock.instant < session.expires) :
    (later.nodes gate).gate.sessions.get endpoint = some session := by
  have kept := run.invariant (fun log state => Traced platform secret log state ∧
    ((state.nodes gate).clock.instant < session.expires →
      (state.nodes gate).gate.sessions.get endpoint = some session)) ⟨traced, fun _ => held⟩ ?_
  · exact kept.2 unexpired
  · rintro log state event next notices ⟨traced, held⟩ ⟨scope, condition⟩ moved
    have step := machine_effect moved
    refine ⟨traced_step traced step, ?_⟩
    intro live
    have earlier := Nat.lt_of_le_of_lt (clock_monotone traced.tracked scope step) live
    exact session_kept_step (held earlier) earlier traced.tracked scope condition step

/-- The property, under its condition: an opened session is held as it was opened until it expires
or a later request is answered. -/
theorem opened_session_held (platform : Platform) (secret : List UInt8) (start : Cluster)
    (fresh : Fresh start) (log : List Notice) (cluster : Cluster)
    (before : (machine platform secret).Run (fun _ _ _ => True) [] start log cluster)
    (request : Nat) (opened : Cluster) (notices : List Notice)
    (taken : (machine platform secret).next cluster (.recordPut request) = some (opened, notices))
    (grant : Grant) (opening : Clock) (expires : Nat)
    (answered : Notice.opened request grant opening expires ∈ notices) (later : Cluster)
    (history : List Notice)
    (run : (machine platform secret).Run (fun _ cluster event =>
      NoLaterOpening grant.gate grant.endpoint cluster event ∧
        NothingHeld platform grant.gate grant.endpoint cluster event) (notices ++ log) opened
      history later)
    (unexpired : (later.nodes grant.gate).clock.instant <
      (cluster.nodes grant.gate).clock.instant + (cluster.nodes grant.gate).policy.sessionTtl) :
    (later.nodes grant.gate).gate.heldSession (later.nodes grant.gate).clock grant.endpoint =
      some (canonicalSubject grant.claims.sub, grant.chain.map stripTokens) := by
  have traced := run_traced fresh before
  have effect := machine_effect taken
  have checked := traced_step traced effect
  obtain ⟨-, stored, passed⟩ :=
    checked.openings request grant opening expires (List.mem_append_left _ answered)
  rw [← (checked.checked request grant stored passed).record_chain]
  cases effect with
  | opened request' task grant' inFlight phase =>
      simp only [recordPut, List.mem_singleton, Notice.opened.injEq] at answered
      obtain ⟨-, rfl, rfl, rfl⟩ := answered
      obtain ⟨atGate, -⟩ := traced.tracked.storing request task grant inFlight phase
      rw [atGate] at run unexpired ⊢
      have opened : (((cluster.recordPut request task grant).1).nodes task.gate).gate.sessions.get
          grant.endpoint = some ⟨canonicalSubject grant.claims.sub,
            (cluster.nodes task.gate).clock.instant + (cluster.nodes task.gate).policy.sessionTtl,
            grant.record.chain⟩ := by
        change ((cluster.setGate task.gate _).nodes task.gate).gate.sessions.get _ = _
        rw [setGate_gate, if_pos rfl]
        simp only [PublishGate.openSessionWithChain, Table.get_insert_self]
      have kept := session_kept_run checked opened run unexpired
      simp only [PublishGate.heldSession, kept]
      rw [if_pos unexpired]

end Held

section Displaced

def olderSession : SessionRecord := sampleRecord "arkavo:alice" 1900 none

def newerSession : SessionRecord := sampleRecord "arkavo:bob" 1900 none

def twoSessions : Platform := samplePlatform [olderSession, newerSession]

def olderAnswer : Event := .lookedUp 0 (.found (sampleBody twoSessions olderSession))

def openDuringLookUp : List Event :=
  sampleOpening 0 0 "arkavo:alice" none ++
    [.recordPut 0, .setSessionKey 1, .connected 1 5 (some sampleEndpoint),
      .authorizePush 0 1 5 "ab"] ++
    sampleOpening 1 1 "arkavo:bob" none

def holds (gate : Nat) (cluster : Cluster) : Option HeldSession :=
  (cluster.nodes gate).gate.heldSession (cluster.nodes gate).clock sampleEndpoint

def opensFor (request gate : Nat) (subject : String) (notices : List Notice) : Bool :=
  notices.any fun notice =>
    match notice with
    | .opened request' grant _ _ =>
        decide (request' = request ∧ grant.gate = gate ∧ grant.endpoint = sampleEndpoint ∧
          grant.claims.sub = subject ∧ grant.chain = none)
    | _ => false

theorem opened_of_opensFor {request gate : Nat} {subject : String} {notices : List Notice}
    (shown : opensFor request gate subject notices = true) :
    ∃ grant opening expires, Notice.opened request grant opening expires ∈ notices ∧
      grant.gate = gate ∧
      grant.endpoint = sampleEndpoint ∧ grant.claims.sub = subject ∧ grant.chain = none := by
  rcases List.any_eq_true.mp shown with ⟨notice, member, same⟩
  split at same
  · rename_i request' grant opening expires
    rcases of_decide_eq_true same with ⟨rfl, facts⟩
    exact ⟨grant, opening, expires, member, facts⟩
  · cases same

def displacedShown (log : List Notice) (cluster : Cluster) : Bool :=
  match next twoSessions [1] cluster (.recordPut 1) with
  | some (opened, notices) =>
      opensFor 1 1 "arkavo:bob" notices &&
        assumedCheck twoSessions (notices ++ log) opened olderAnswer &&
        match next twoSessions [1] opened olderAnswer with
        | some (later, _) => decide (holds 1 later = some ("alice", none)) &&
            decide ((later.nodes 1).clock.instant <
              (cluster.nodes 1).clock.instant + (cluster.nodes 1).policy.sessionTtl)
        | none => false
  | none => false

private theorem displaced_executed :
    ((machine twoSessions [1]).execute (assumedCheck twoSessions) openDuringLookUp []
      (sampleStart fun _ => sampleSettings .local 900 900)).map
        (fun ended => displacedShown ended.1 ended.2) = some true := by
  decide +kernel

/-- A look-up that read an older record of the endpoint before the request and completes after its
answer replaces the session the request opened. -/
theorem opened_session_displaced :
    ∃ log cluster opened notices grant opening expires history later,
      (machine twoSessions [1]).Run (Assumed twoSessions [1]) []
        (sampleStart fun _ => sampleSettings .local 900 900) log cluster ∧
      (machine twoSessions [1]).next cluster (.recordPut 1) = some (opened, notices) ∧
      Notice.opened 1 grant opening expires ∈ notices ∧ grant.gate = 1 ∧
      grant.endpoint = sampleEndpoint ∧
      (machine twoSessions [1]).Run (fun log cluster event =>
        Assumed twoSessions [1] log cluster event ∧
          NoLaterOpening grant.gate grant.endpoint cluster event) (notices ++ log) opened history
        later ∧
      (later.nodes grant.gate).clock.instant <
        (cluster.nodes grant.gate).clock.instant +
          (cluster.nodes grant.gate).policy.sessionTtl ∧
      (later.nodes grant.gate).gate.heldSession (later.nodes grant.gate).clock grant.endpoint ≠
        some (canonicalSubject grant.claims.sub, grant.chain.map stripTokens) := by
  rcases Machine.execute_reaches (fun _ _ _ => assumed_of_check) openDuringLookUp displacedShown
    displaced_executed with ⟨log, cluster, run, shown⟩
  unfold displacedShown at shown
  split at shown
  · rename_i opened notices taken
    simp only [Bool.and_eq_true] at shown
    rcases shown with ⟨⟨answered, assumed⟩, shown⟩
    split at shown
    · rename_i later notices' completed
      simp only [Bool.and_eq_true, decide_eq_true_eq] at shown
      rcases shown with ⟨replaced, unexpired⟩
      rcases opened_of_opensFor answered with
        ⟨grant, opening, expires, member, atGate, forEndpoint, subject, undecided⟩
      have lookedUp : (machine twoSessions [1]).Run (fun log cluster event =>
          Assumed twoSessions [1] log cluster event ∧
            NoLaterOpening grant.gate grant.endpoint cluster event) (notices ++ log) opened
          (notices' ++ (notices ++ log)) later :=
        .step .refl ⟨assumed_of_check assumed, trivial⟩ completed
      refine ⟨log, cluster, opened, notices, grant, opening, expires, _, later, run, taken, member,
        atGate, forEndpoint, lookedUp, ?_, ?_⟩
      · rw [atGate]
        exact unexpired
      · rw [atGate, forEndpoint, subject, undecided]
        change holds 1 later ≠ _
        rw [replaced]
        decide
    · cases shown
  · cases shown

def openAfterAsking : List Event :=
  sampleOpening 0 0 "arkavo:alice" none ++
    [.connected 0 5 (some sampleEndpoint), .authorizePush 0 0 5 "ab"]

def heldShown (_ : List Notice) (cluster : Cluster) : Bool :=
  match next twoSessions [1] cluster (.recordPut 0) with
  | some (opened, notices) =>
      opensFor 0 0 "arkavo:alice" notices &&
        match next twoSessions [1] opened (.lookedUp 0 .absent) with
        | some (missed, _) =>
            match next twoSessions [1] missed (.tick 0 (sampleClock 10)) with
            | some (later, _) => decide ((later.nodes 0).clock.instant <
                (cluster.nodes 0).clock.instant + (cluster.nodes 0).policy.sessionTtl)
            | none => false
        | none => false
  | none => false

private theorem held_executed :
    ((machine twoSessions [1]).execute (fun _ _ _ => true) openAfterAsking []
      (sampleStart fun _ => sampleSettings .local 900 900)).map
        (fun ended => heldShown ended.1 ended.2) = some true := by
  decide +kernel

theorem opened_session_held_later :
    ∃ log cluster opened notices grant opening expires history later,
      (machine twoSessions [1]).Run (fun _ _ _ => True) []
        (sampleStart fun _ => sampleSettings .local 900 900) log cluster ∧
      (machine twoSessions [1]).next cluster (.recordPut 0) = some (opened, notices) ∧
      Notice.opened 0 grant opening expires ∈ notices ∧
      (machine twoSessions [1]).Run (fun _ cluster event =>
        NoLaterOpening grant.gate grant.endpoint cluster event ∧
          NothingHeld twoSessions grant.gate grant.endpoint cluster event) (notices ++ log) opened
        history later ∧
      .declined 0 .noSession ∈ history ∧
      (later.nodes 0).gate.heldSession (later.nodes 0).clock sampleEndpoint =
        some ("alice", none) := by
  rcases Machine.execute_reaches (fun _ _ _ _ => trivial) openAfterAsking heldShown held_executed
    with ⟨log, cluster, run, shown⟩
  unfold heldShown at shown
  split at shown
  · rename_i opened notices taken
    rcases Bool.and_eq_true_iff.mp shown with ⟨answered, shown⟩
    split at shown
    · rename_i missed said lookedUp
      split at shown
      · rename_i later quiet ticked
        rcases opened_of_opensFor answered with
          ⟨grant, opening, expires, member, atGate, forEndpoint, subject, undecided⟩
        have asked : (machine twoSessions [1]).next opened (.lookedUp 0 .absent) =
            some (missed, said) := lookedUp
        have passed : (machine twoSessions [1]).next missed (.tick 0 (sampleClock 10)) =
            some (later, quiet) := ticked
        have rest : (machine twoSessions [1]).Run (fun _ cluster event =>
            NoLaterOpening grant.gate grant.endpoint cluster event ∧
              NothingHeld twoSessions grant.gate grant.endpoint cluster event) (notices ++ log)
            opened (quiet ++ (said ++ (notices ++ log))) later := by
          refine .step (.step .refl ?_ asked) ?_ passed
          · refine ⟨trivial, ?_⟩
            intro task record _ _ _ found
            cases found
          · exact ⟨trivial, trivial⟩
        have declined : .declined 0 .noSession ∈ said := by
          cases machine_effect asked with
          | missed => exact List.mem_cons_self
          | readBack push answer task record last inFlight found => cases found
        have held := opened_session_held twoSessions [1] _ (sampleStart_fresh _) log cluster run 0
          opened notices taken grant opening expires member later _ rest
          (by rw [atGate]; exact of_decide_eq_true shown)
        rw [atGate, forEndpoint, subject, undecided] at held
        exact ⟨log, cluster, opened, notices, grant, opening, expires, _, later, run, taken, member,
          rest, List.mem_append_right _ (List.mem_append_left _ declined), held⟩
      · cases shown
    · cases shown
  · cases shown

end Displaced

end TdfIrohS3.Cluster
