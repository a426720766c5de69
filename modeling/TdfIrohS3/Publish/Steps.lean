import TdfIrohS3.Publish.Cluster
import TdfIrohS3.Library.Slots

namespace TdfIrohS3

open Library

def Notice.about : Notice → Option Nat
  | .announced gate _ _ => some gate
  | .closed gate _ => some gate
  | .restarted gate => some gate
  | .opened _ grant _ _ => some grant.gate
  | .readBack gate _ _ _ _ => some gate
  | _ => none

namespace Cluster

section Frames

theorem setGate_gate (cluster : Cluster) (gate other : Nat) (state : PublishGate) :
    ((cluster.setGate gate state).nodes other).gate =
      if other = gate then state else (cluster.nodes other).gate := by
  by_cases same : other = gate
  · subst same
    simp [setGate, setNode]
  · simp [setGate, setNode, same]

theorem setGate_policy (cluster : Cluster) (gate other : Nat) (state : PublishGate) :
    ((cluster.setGate gate state).nodes other).policy = (cluster.nodes other).policy := by
  by_cases same : other = gate
  · subst same
    simp [setGate, setNode]
  · simp [setGate, setNode, same]

theorem tick_policy (cluster : Cluster) (gate other : Nat) (clock : Clock) :
    ((cluster.setNode gate { cluster.nodes gate with clock := clock }).nodes other).policy =
      (cluster.nodes other).policy := by
  by_cases same : other = gate
  · subst same
    simp [setNode]
  · simp [setNode, same]

theorem restart_nodes (cluster : Cluster) (gate other : Nat) (node : Node) :
    (cluster.restart gate node).nodes other =
      if other = gate then node else cluster.nodes other := by
  simp [restart, Function.update_apply]

theorem setSessionKey_project {Part : Type} (project : PublishGate → Part) (platform : Platform)
    (secret : List UInt8) (gate : PublishGate)
    (ignores : ∀ key, project { gate with recordKey := key } = project gate) :
    project (gate.setSessionKey platform secret) = project gate := by
  unfold PublishGate.setSessionKey
  split
  · rfl
  · exact ignores _

theorem start_sessions (settings : Settings) (clock : Clock) :
    (Node.start settings clock).gate.sessions = Table.empty := by
  simp only [Node.start]
  split <;> rfl

theorem start_connections (settings : Settings) (clock : Clock) :
    (Node.start settings clock).gate.connections = Table.empty := by
  simp only [Node.start]
  split <;> rfl

theorem start_recordKey (settings : Settings) (clock : Clock) :
    (Node.start settings clock).gate.recordKey = none := by
  simp only [Node.start]
  split <;> rfl

theorem setOpen_opens (cluster : Cluster) (request id : Nat) (task : Option OpenTask) :
    (cluster.setOpen request task).opens id = if id = request then task else cluster.opens id := by
  simp [setOpen, Function.update_apply]

theorem restart_opens {cluster : Cluster} {gate id : Nat} {node : Node} {task : OpenTask}
    (kept : (cluster.restart gate node).opens id = some task) :
    cluster.opens id = some task ∧ task.gate ≠ gate := by
  obtain ⟨before, other⟩ := Option.filter_eq_some_iff.mp kept
  exact ⟨before, by simpa using other⟩

theorem restart_pushes {cluster : Cluster} {gate id : Nat} {node : Node} {task : PushTask}
    (kept : (cluster.restart gate node).pushes id = some task) :
    cluster.pushes id = some task ∧ task.gate ≠ gate := by
  obtain ⟨before, other⟩ := Option.filter_eq_some_iff.mp kept
  exact ⟨before, by simpa using other⟩

end Frames

section Steps

variable {platform : Platform} {secret : List UInt8} {log notices : List Notice}
variable {cluster after : Cluster} {event : Event}

/-- An `open_session` request in flight after a step was in flight before it on an instance that
was not restarted, or the step took it to its phase. -/
theorem effect_opens (effect : Effect platform secret cluster event after notices) {id : Nat}
    {task : OpenTask} (inFlight : after.opens id = some task) :
    (cluster.opens id = some task ∧
        (after.nodes task.gate).policy = (cluster.nodes task.gate).policy) ∨
      task.phase = .verifying ∨
      (∃ answer token claims ownAnswer,
        task.phase = .deciding (cluster.nodes task.gate).gate.moderation token claims ownAnswer ∧
        (after.nodes task.gate).policy = (cluster.nodes task.gate).policy ∧
        (cluster.nodes task.gate).policy.publisherVerified
          (cluster.nodes task.gate).gate.moderation task.headers answer =
            .ok (token, claims, ownAnswer)) ∨
      (∃ grant stored, task.phase = .storing grant ∧ grant.gate = task.gate ∧
        grant.policy = (after.nodes task.gate).policy ∧ notices = [.passed id grant stored]) := by
  cases effect with
  | tick gate clock _ => exact .inl ⟨inFlight, tick_policy ..⟩
  | restart gate settings clock =>
      obtain ⟨before, other⟩ := restart_opens inFlight
      exact .inl ⟨before, by rw [restart_nodes, if_neg other]⟩
  | setSessionKey gate => exact .inl ⟨inFlight, setGate_policy ..⟩
  | moderate gate view => exact .inl ⟨inFlight, setGate_policy ..⟩
  | announced gate connection endpoint => exact .inl ⟨inFlight, setGate_policy ..⟩
  | anonymous gate connection => exact .inl ⟨inFlight, setGate_policy ..⟩
  | closed gate connection => exact .inl ⟨inFlight, setGate_policy ..⟩
  | received request gate headers body =>
      rcases held_of_fill inFlight with ⟨-, rfl⟩ | inFlight
      · exact .inr (.inl rfl)
      · exact .inl ⟨inFlight, rfl⟩
  | tokenRefused request answer refusal =>
      exact .inl ⟨held_of_clear inFlight, rfl⟩
  | tokenVerified request answer old token claims ownAnswer _ verified =>
      rcases held_of_fill inFlight with ⟨-, rfl⟩ | inFlight
      · exact .inr (.inr (.inl ⟨answer, token, claims, ownAnswer, rfl, rfl, verified⟩))
      · exact .inl ⟨inFlight, rfl⟩
  | refused request devices decision refusal =>
      exact .inl ⟨held_of_clear inFlight, rfl⟩
  | passed request devices decision old grant _ view token claims ownAnswer _ _ _ read =>
      rcases held_of_fill inFlight with ⟨same, rfl⟩ | inFlight
      · exact .inr (.inr (.inr ⟨grant, _, rfl, read.1, read.2.1, by rw [same]⟩))
      · exact .inl ⟨inFlight, rfl⟩
  | opened request old grant _ _ =>
      rw [recordPut, setOpen_opens] at inFlight
      split at inFlight
      · cases inFlight
      · exact .inl ⟨inFlight, setGate_policy ..⟩
  | unknownConnection push gate connection hashHex => exact .inl ⟨inFlight, rfl⟩
  | declined push gate connection hashHex endpoint refusal _ => exact .inl ⟨inFlight, rfl⟩
  | accepted push gate connection hashHex endpoint held _ _ _ => exact .inl ⟨inFlight, rfl⟩
  | lookingUp push gate connection hashHex endpoint _ => exact .inl ⟨inFlight, setGate_policy ..⟩
  | missed push answer old _ => exact .inl ⟨inFlight, setGate_policy ..⟩
  | readBack push answer old record last _ _ _ => exact .inl ⟨inFlight, setGate_policy ..⟩

/-- Requests in flight: one that awaits its decision passed the token checks under the policy of its
instance, and one that awaits the store passed them all, under that policy. -/
structure RequestsTracked (log : List Notice) (cluster : Cluster) : Prop where
  deciding : ∀ id task view token claims ownAnswer, cluster.opens id = some task →
    task.phase = .deciding view token claims ownAnswer →
    (cluster.nodes task.gate).policy.publisherVerified view task.headers (.ok claims) =
      .ok (token, claims, ownAnswer)
  storing : ∀ id task grant, cluster.opens id = some task → task.phase = .storing grant →
    grant.gate = task.gate ∧ grant.policy = (cluster.nodes task.gate).policy ∧
      ∃ stored, Notice.passed id grant stored ∈ log

theorem requests_tracked_step (tracked : RequestsTracked log cluster)
    (effect : Effect platform secret cluster event after notices) :
    RequestsTracked (notices ++ log) after where
  deciding := by
    intro id task view token claims ownAnswer inFlight phase
    rcases effect_opens effect inFlight with ⟨before, same⟩ | verifying | decided | passed
    · rw [same]
      exact tracked.deciding id task view token claims ownAnswer before phase
    · rw [verifying] at phase
      cases phase
    · obtain ⟨answer, token', claims', ownAnswer', entered, same, verified⟩ := decided
      rw [phase] at entered
      cases entered
      rw [same, ← (PublishPolicy.publisherVerified_ok verified).2]
      exact verified
    · obtain ⟨grant, stored, entered, -, -, -⟩ := passed
      rw [entered] at phase
      cases phase
  storing := by
    intro id task grant inFlight phase
    rcases effect_opens effect inFlight with ⟨before, same⟩ | verifying | decided | passed
    · obtain ⟨atGate, policy, stored, member⟩ := tracked.storing id task grant before phase
      exact ⟨atGate, policy.trans same.symm, stored, List.mem_append_right _ member⟩
    · rw [verifying] at phase
      cases phase
    · obtain ⟨answer, token, claims, ownAnswer, entered, -, -⟩ := decided
      rw [entered] at phase
      cases phase
    · obtain ⟨other, stored, entered, atGate, policy, seen⟩ := passed
      rw [entered] at phase
      cases phase
      exact ⟨atGate, policy, stored, by rw [seen]; exact List.mem_append_left _ List.mem_cons_self⟩

structure NodeKept (node after : Node) : Prop where
  clock : after.clock = node.clock
  recordKey : after.gate.recordKey = node.gate.recordKey
  sessions : after.gate.sessions = node.gate.sessions
  connections : after.gate.connections = node.gate.connections

inductive NodeMove (platform : Platform) (secret : List UInt8) (cluster : Cluster) (gate : Nat) :
    Event → List Notice → Node → Prop
  | kept {event : Event} {notices : List Notice} {after : Node}
      (same : NodeKept (cluster.nodes gate) after)
      (quiet : ∀ notice ∈ notices, notice.about ≠ some gate) :
      NodeMove platform secret cluster gate event notices after
  | ticked (clock : Clock) (later : (cluster.nodes gate).clock.instant ≤ clock.instant) :
      NodeMove platform secret cluster gate (.tick gate clock) []
        { cluster.nodes gate with clock := clock }
  | restarted (settings : Settings) (clock : Clock) :
      NodeMove platform secret cluster gate (.restart gate settings clock) [.restarted gate]
        (Node.start settings clock)
  | keyed :
      NodeMove platform secret cluster gate (.setSessionKey gate) []
        { cluster.nodes gate with
          gate := (cluster.nodes gate).gate.setSessionKey platform secret }
  | announced (connection : Nat) (endpoint : EndpointId) :
      NodeMove platform secret cluster gate (.connected gate connection (some endpoint))
        [.announced gate connection endpoint]
        { cluster.nodes gate with
          gate := (cluster.nodes gate).gate.connected connection (some endpoint) }
  | closed (connection : Nat) :
      NodeMove platform secret cluster gate (.closed gate connection) [.closed gate connection]
        { cluster.nodes gate with gate := (cluster.nodes gate).gate.closed connection }
  | opened (request : Nat) (task : OpenTask) (grant : Grant)
      (inFlight : cluster.opens request = some task) (phase : task.phase = .storing grant)
      (here : task.gate = gate) (granted : grant.gate = gate) :
      NodeMove platform secret cluster gate (.recordPut request)
        [.opened request grant (cluster.nodes gate).clock
          ((cluster.nodes gate).clock.instant + (cluster.nodes gate).policy.sessionTtl)]
        { cluster.nodes gate with
          gate := (cluster.nodes gate).gate.openSessionWithChain (cluster.nodes gate).clock
            grant.endpoint grant.claims.sub (cluster.nodes gate).policy.sessionTtl
            grant.record.chain }
  | readBack (push : Nat) (answer : StoreAnswer) (task : PushTask) (record : SessionRecord)
      (last : Notice) (inFlight : cluster.pushes push = some task) (here : task.gate = gate)
      (found : (cluster.nodes gate).gate.acceptedRecord platform (cluster.nodes gate).clock
        task.endpoint answer = some record) (aside : last.about = none) :
      NodeMove platform secret cluster gate (.lookedUp push answer)
        [last, .readBack gate task.endpoint record (cluster.nodes gate).clock
          ((cluster.nodes gate).clock.instant + (cluster.nodes gate).gate.readBackTtl
            (cluster.nodes gate).clock record)]
        { cluster.nodes gate with
          gate := ((cluster.nodes gate).gate.openSessionWithChain (cluster.nodes gate).clock
            task.endpoint record.subject ((cluster.nodes gate).gate.readBackTtl
              (cluster.nodes gate).clock record) record.chain).release }

section Moves

variable {gate : Nat}

theorem NodeKept.refl (node : Node) : NodeKept node node := ⟨rfl, rfl, rfl, rfl⟩

theorem setGate_move {other : Nat} {state : PublishGate}
    (quiet : gate ≠ other → ∀ notice ∈ notices, notice.about ≠ some gate)
    (here : gate = other → NodeMove platform secret cluster gate event notices
      { cluster.nodes gate with gate := state }) :
    NodeMove platform secret cluster gate event notices
      ((cluster.setGate other state).nodes gate) := by
  by_cases same : gate = other
  · have node : (cluster.setGate other state).nodes gate =
        { cluster.nodes gate with gate := state } := by
      subst same
      simp [setGate, setNode]
    rw [node]
    exact here same
  · have node : (cluster.setGate other state).nodes gate = cluster.nodes gate := by
      simp [setGate, setNode, same]
    rw [node]
    exact .kept (.refl _) (quiet same)

theorem setGate_kept {other : Nat} {state : PublishGate}
    (recordKey : state.recordKey = (cluster.nodes other).gate.recordKey)
    (sessions : state.sessions = (cluster.nodes other).gate.sessions)
    (connections : state.connections = (cluster.nodes other).gate.connections)
    (quiet : ∀ notice ∈ notices, notice.about ≠ some gate) :
    NodeMove platform secret cluster gate event notices
      ((cluster.setGate other state).nodes gate) := by
  refine setGate_move (fun _ => quiet) ?_
  intro same
  subst same
  exact .kept ⟨rfl, recordKey, sessions, connections⟩ quiet

theorem effect_node (tracked : RequestsTracked log cluster)
    (effect : Effect platform secret cluster event after notices) (gate : Nat) :
    NodeMove platform secret cluster gate event notices (after.nodes gate) := by
  have unmoved (quiet : ∀ notice ∈ notices, notice.about ≠ some gate) :
      NodeMove platform secret cluster gate event notices (cluster.nodes gate) :=
    .kept (.refl _) quiet
  cases effect with
  | tick other clock later =>
      by_cases same : gate = other
      · subst same
        simpa [setNode] using NodeMove.ticked clock later
      · simpa [setNode, same] using unmoved (by simp)
  | restart other settings clock =>
      rw [restart_nodes]
      split
      · rename_i same
        subst same
        exact .restarted settings clock
      · rename_i different
        exact unmoved (by simpa [Notice.about] using fun same => different same.symm)
  | setSessionKey other =>
      apply setGate_move (by simp)
      rintro rfl
      exact .keyed
  | moderate other view => exact setGate_kept rfl rfl rfl (by simp)
  | announced other connection endpoint =>
      apply setGate_move (by simpa [Notice.about] using fun different => Ne.symm different)
      rintro rfl
      exact .announced connection endpoint
  | anonymous other connection => exact setGate_kept rfl rfl rfl (by simp)
  | closed other connection =>
      apply setGate_move (by simpa [Notice.about] using fun different => Ne.symm different)
      rintro rfl
      exact .closed connection
  | opened request task grant inFlight phase =>
      have granted := (tracked.storing request task grant inFlight phase).1
      apply setGate_move
      · intro different notice member
        have seen : notice = .opened request grant _ _ := List.mem_singleton.mp member
        rw [seen, Notice.about, granted]
        exact fun same => different (Option.some.inj same).symm
      · rintro rfl
        exact .opened request task grant inFlight phase rfl granted
  | lookingUp push other connection hashHex endpoint _ =>
      exact setGate_kept rfl rfl rfl (by simp [Notice.about])
  | missed push answer task _ => exact setGate_kept rfl rfl rfl (by simp [Notice.about])
  | readBack push answer task record last inFlight found outcome =>
      have aside : last.about = none := by
        rcases outcome with ⟨refusal, rfl⟩ | ⟨rfl, -⟩ <;> rfl
      apply setGate_move
      · intro different notice member
        rcases List.mem_pair.mp member with rfl | rfl
        · rw [aside]
          exact (Option.some_ne_none gate).symm
        · exact fun same => different (Option.some.inj same).symm
      · rintro rfl
        exact .readBack push answer task record last inFlight rfl found aside
  | _ => exact unmoved (by simp [Notice.about])

end Moves

theorem effect_readBack (effect : Effect platform secret cluster event after notices) {gate : Nat}
    {endpoint : EndpointId} {record : SessionRecord} {looked : Clock} {expires : Nat}
    (seen : .readBack gate endpoint record looked expires ∈ notices) :
    ∃ push answer task, event = .lookedUp push answer ∧ cluster.pushes push = some task ∧
      task.gate = gate ∧ task.endpoint = endpoint ∧
      (cluster.nodes gate).gate.acceptedRecord platform (cluster.nodes gate).clock endpoint answer =
        some record ∧
      looked = (cluster.nodes gate).clock ∧
      expires = (cluster.nodes gate).clock.instant +
        (cluster.nodes gate).gate.readBackTtl (cluster.nodes gate).clock record := by
  cases effect with
  | readBack push answer task found last inFlight accepted outcome =>
      rcases List.mem_pair.mp seen with same | same
      · rcases outcome with ⟨refusal, rfl⟩ | ⟨rfl, -⟩ <;> cases same
      · cases same
        exact ⟨push, answer, task, rfl, inFlight, rfl, rfl, accepted, rfl, rfl⟩
  | _ => simp [recordPut] at seen

end Steps

end Cluster

end TdfIrohS3
