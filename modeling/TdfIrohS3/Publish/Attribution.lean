import TdfIrohS3.Publish.Connections

namespace TdfIrohS3

open Library

namespace BlobsNode

def controls (stable : Nat) : ProviderMessage → Bool
  | .clientConnected _ other _ => other == stable
  | .connectionClosed other => other == stable
  | .pushRequestReceived _ _ => false

def underWay (queue : List ProviderMessage) (stable : Nat) : List ProviderMessage :=
  queue.filter (controls stable)

def Held (streams : Table Nat PushStream) (connection : Nat) (accept : Accepting) : Prop :=
  accept.phase ≠ .left ∨ ∃ stream task, streams.get stream = some task ∧ task.connection = connection

/-- What the gate has under the stable id of a connection that is held, and what is under way. -/
def Settled (queue : List ProviderMessage) (known : Table Nat EndpointId) (connection : Nat)
    (accept : Accepting) : Prop :=
  match accept.phase with
  | .announcing => ∃ older,
      underWay queue accept.stable =
        older ++ [.clientConnected connection accept.stable accept.endpoint] ∧
      .clientConnected connection accept.stable accept.endpoint ∉ older
  | .announced | .serving | .leaving =>
      underWay queue accept.stable = [] ∧ known.get accept.stable = some accept.endpoint
  | .left =>
      underWay queue accept.stable = [.connectionClosed accept.stable] ∧
          known.get accept.stable = some accept.endpoint ∨
        underWay queue accept.stable = [] ∧ known.get accept.stable = none

def opened : AcceptPhase → Bool
  | .announcing | .announced => false
  | .serving | .leaving | .left => true

def ended : AcceptPhase → Bool
  | .announcing | .announced | .serving => false
  | .leaving | .left => true

structure Consistent (node : BlobsNode) : Prop where
  acceptsBelow : ∀ id accept, node.accepts.get id = some accept → id < node.nextId
  streamOf : ∀ id task, node.streams.get id = some task → ∃ accept,
    node.accepts.get task.connection = some accept ∧ accept.stable = task.stable ∧
      opened accept.phase = true
  unique : ∀ one two first second, node.accepts.get one = some first →
    node.accepts.get two = some second → first.stable = second.stable →
    Held node.streams one first → Held node.streams two second → one = two
  sent : ∀ id stable endpoint, .clientConnected id stable endpoint ∈ node.queue →
    node.accepts.get id = some ⟨stable, endpoint, .announcing⟩
  settled : ∀ id accept, node.accepts.get id = some accept → Held node.streams id accept →
    Settled node.queue node.gate.connections id accept
  registered_iff : ∀ stable id, node.connections.get stable = some id ↔ ∃ accept,
    node.accepts.get id = some accept ∧ accept.stable = stable ∧ accept.phase = .serving

section Lemmas

variable {node : BlobsNode} {stable : Nat}

theorem insert_cases {α : Type} {table : Table Nat α} {key other : Nat} {value found : α}
    (there : (table.insert key value).get other = some found) :
    other = key ∧ found = value ∨ other ≠ key ∧ table.get other = some found := by
  rw [Table.get_insert] at there
  split at there
  · rename_i here
    exact .inl ⟨here, (Option.some.inj there).symm⟩
  · rename_i different
    exact .inr ⟨different, there⟩

theorem inUse_iff : node.inUse stable = true ↔ ∃ id accept,
    node.accepts.get id = some accept ∧ accept.stable = stable ∧ Held node.streams id accept := by
  simp only [inUse, List.any_eq_true, Bool.and_eq_true, beq_iff_eq, Bool.or_eq_true, bne_iff_ne,
    Table.mem_values_iff, Held]
  constructor
  · rintro ⟨⟨id, accept⟩, member, same, held⟩
    refine ⟨id, accept, (Table.mem_pairs_iff _ _).mp member, same, ?_⟩
    rcases held with phase | ⟨task, ⟨stream, found⟩, on⟩
    · exact .inl phase
    · exact .inr ⟨stream, task, found, on⟩
  · rintro ⟨id, accept, found, same, held⟩
    refine ⟨(id, accept), (Table.mem_pairs_iff _ _).mpr found, same, ?_⟩
    rcases held with phase | ⟨stream, task, there, on⟩
    · exact .inl phase
    · exact .inr ⟨task, ⟨stream, there⟩, on⟩

theorem underWay_append (queue : List ProviderMessage) (message : ProviderMessage) (stable : Nat) :
    underWay (queue ++ [message]) stable =
      underWay queue stable ++ if controls stable message then [message] else [] := by
  rw [underWay, List.filter_append]
  cases controlled : controls stable message <;> simp [underWay, controlled]

theorem underWay_cons (queue : List ProviderMessage) (message : ProviderMessage) (stable : Nat) :
    underWay (message :: queue) stable =
      (if controls stable message then [message] else []) ++ underWay queue stable := by
  rw [underWay, List.filter_cons]
  split <;> rfl

theorem underWay_append_of_not {queue : List ProviderMessage} {message : ProviderMessage}
    (other : controls stable message = false) :
    underWay (queue ++ [message]) stable = underWay queue stable := by
  rw [underWay_append, other]
  simp

theorem underWay_cons_of_not {queue : List ProviderMessage} {message : ProviderMessage}
    (other : controls stable message = false) :
    underWay (message :: queue) stable = underWay queue stable := by
  rw [underWay_cons, other]
  rfl

theorem Settled.congr {queue queue' : List ProviderMessage} {known known' : Table Nat EndpointId}
    {id : Nat} {accept : Accepting} (settled : Settled queue known id accept)
    (same : underWay queue' accept.stable = underWay queue accept.stable)
    (kept : known'.get accept.stable = known.get accept.stable) :
    Settled queue' known' id accept := by
  unfold Settled at settled ⊢
  rw [same, kept]
  exact settled

/-- Every stream is one of before, perhaps further on, or is on a connection that is served. -/
theorem Consistent.restream (consistent : Consistent node) {streams : Table Nat PushStream}
    {nextId : Nat} (later : node.nextId ≤ nextId)
    (known : ∀ id task, streams.get id = some task →
      (∃ stream before, node.streams.get stream = some before ∧
        before.connection = task.connection ∧ before.stable = task.stable) ∨
      ∃ endpoint, node.accepts.get task.connection = some ⟨task.stable, endpoint, .serving⟩) :
    Consistent { node with streams, nextId } := by
  have held : ∀ id accept, node.accepts.get id = some accept → Held streams id accept →
      Held node.streams id accept := by
    rintro id accept there (phase | ⟨other, task, found, on⟩)
    · exact .inl phase
    · rcases known other task found with ⟨stream, before, old, same, -⟩ | ⟨endpoint, serving⟩
      · exact .inr ⟨stream, before, old, same.trans on⟩
      · rw [on, there] at serving
        cases serving
        exact .inl (by simp)
  exact
    { consistent with
      acceptsBelow := fun id accept there =>
        Nat.lt_of_lt_of_le (consistent.acceptsBelow id accept there) later
      streamOf := by
        intro id task found
        rcases known id task found with ⟨stream, before, old, same, stable⟩ | ⟨endpoint, serving⟩
        · rw [← same, ← stable]
          exact consistent.streamOf stream before old
        · exact ⟨_, serving, rfl, rfl⟩
      unique := fun one two first second firstFound secondFound stable heldOne heldTwo =>
        consistent.unique one two first second firstFound secondFound stable
          (held _ _ firstFound heldOne) (held _ _ secondFound heldTwo)
      settled := fun id accept found still =>
        consistent.settled id accept found (held _ _ found still) }

theorem Consistent.setStream (consistent : Consistent node) {stream : Nat}
    {before after : PushStream} (found : node.streams.get stream = some before)
    (same : before.connection = after.connection) (id : before.stable = after.stable) :
    Consistent (node.setStream stream after) := by
  refine consistent.restream (Nat.le_refl _) ?_
  intro other task there
  rcases insert_cases there with ⟨-, rfl⟩ | ⟨-, old⟩
  · exact .inl ⟨stream, before, found, same, id⟩
  · exact .inl ⟨other, task, old, rfl, rfl⟩

theorem Consistent.sendPush (consistent : Consistent node) (stream : Nat) (isBlob : Bool) :
    Consistent (node.send (.pushRequestReceived stream isBlob)) :=
  { consistent with
    sent := by
      intro id stable endpoint member
      rcases List.mem_append.mp member with old | new
      · exact consistent.sent id stable endpoint old
      · simp at new
    settled := by
      intro id accept found held
      exact (consistent.settled id accept found held).congr (underWay_append_of_not rfl) rfl }

theorem Consistent.finish (consistent : Consistent node) (stream : Nat) :
    Consistent { node with streams := node.streams.remove stream } := by
  refine consistent.restream (Nat.le_refl _) ?_
  intro other task there
  rw [Table.get_remove] at there
  split at there
  · cases there
  · exact .inl ⟨other, task, there, rfl, rfl⟩

theorem Consistent.openStream (consistent : Consistent node) {connection : Nat}
    {endpoint : EndpointId} (found : node.accepts.get connection = some ⟨stable, endpoint, .serving⟩) :
    Consistent { node.setStream node.nextId ⟨connection, stable, .opened⟩ with
      nextId := node.nextId + 1 } := by
  refine consistent.restream (Nat.le_succ _) ?_
  intro other task there
  rcases insert_cases there with ⟨-, rfl⟩ | ⟨-, old⟩
  · exact .inr ⟨endpoint, found⟩
  · exact .inl ⟨other, task, old, rfl, rfl⟩

/-- One accept task moves on. What is under way and what the gate has change only under its own
stable id. -/
structure Moves (node : BlobsNode) (id : Nat) (before after : Accepting)
    (queue : List ProviderMessage) (gate : PublishGate) (connections : Table Nat Nat) : Prop where
  found : node.accepts.get id = some before
  stable : after.stable = before.stable
  held : before.phase ≠ .left
  opened_of_opened : opened before.phase = true → opened after.phase = true
  elsewhere : ∀ other, other ≠ before.stable →
    underWay queue other = underWay node.queue other ∧
      gate.connections.get other = node.gate.connections.get other
  sent : ∀ connection other endpoint, .clientConnected connection other endpoint ∈ queue →
    connection ≠ id ∧ .clientConnected connection other endpoint ∈ node.queue
  settled : Held node.streams id after → Settled queue gate.connections id after
  registered_iff : ∀ other connection, connections.get other = some connection ↔
    connection = id ∧ after.stable = other ∧ after.phase = .serving ∨
      connection ≠ id ∧ node.connections.get other = some connection

theorem Consistent.moved (consistent : Consistent node) {id : Nat} {before after : Accepting}
    {queue : List ProviderMessage} {gate : PublishGate} {connections : Table Nat Nat}
    (moves : Moves node id before after queue gate connections) :
    Consistent { node.setAccept id after with
      queue := queue, gate := gate, connections := connections } := by
  -- no other connection that is held has the stable id
  have apart : ∀ other accept, other ≠ id → node.accepts.get other = some accept →
      Held node.streams other accept → accept.stable ≠ before.stable := by
    intro other accept different there held same
    exact different (consistent.unique other id accept before there moves.found same held
      (.inl moves.held))
  constructor
  · intro other accept there
    rcases insert_cases there with ⟨rfl, rfl⟩ | ⟨-, old⟩
    · exact consistent.acceptsBelow _ _ moves.found
    · exact consistent.acceptsBelow _ _ old
  · intro stream task there
    obtain ⟨accept, found, same, open_⟩ := consistent.streamOf stream task there
    change ∃ accept, (node.accepts.insert id after).get task.connection = some accept ∧ _
    by_cases here : task.connection = id
    · rw [here, moves.found] at found
      cases found
      refine ⟨after, ?_, moves.stable.trans same, moves.opened_of_opened open_⟩
      rw [here, Table.get_insert_self]
    · exact ⟨accept, by rw [Table.get_insert_of_ne _ _ here, found], same, open_⟩
  · intro one two first second firstFound secondFound same heldOne heldTwo
    rcases insert_cases firstFound with ⟨rfl, rfl⟩ | ⟨differentOne, oldOne⟩ <;>
      rcases insert_cases secondFound with ⟨rfl, rfl⟩ | ⟨differentTwo, oldTwo⟩
    · rfl
    · exact absurd (same.symm.trans moves.stable) (apart two second differentTwo oldTwo heldTwo)
    · exact absurd (same.trans moves.stable) (apart one first differentOne oldOne heldOne)
    · exact consistent.unique one two first second oldOne oldTwo same heldOne heldTwo
  · intro connection other endpoint member
    obtain ⟨different, old⟩ := moves.sent connection other endpoint member
    change (node.accepts.insert id after).get connection = _
    rw [Table.get_insert_of_ne _ _ different]
    exact consistent.sent connection other endpoint old
  · intro other accept there held
    rcases insert_cases there with ⟨rfl, rfl⟩ | ⟨different, old⟩
    · exact moves.settled held
    · have kept := moves.elsewhere accept.stable (apart other accept different old held)
      exact (consistent.settled other accept old held).congr kept.1 kept.2
  · intro other connection
    change connections.get other = some connection ↔
      ∃ accept, (node.accepts.insert id after).get connection = some accept ∧ _
    rw [moves.registered_iff, Table.get_insert]
    by_cases here : connection = id
    · simp [here]
    · simp [here, consistent.registered_iff]

theorem Consistent.ne_of_registered (consistent : Consistent node) {id other connection : Nat}
    {accept : Accepting} (found : node.accepts.get id = some accept)
    (apart : accept.phase ≠ .serving ∨ accept.stable ≠ other)
    (there : node.connections.get other = some connection) : connection ≠ id := by
  rintro rfl
  obtain ⟨served, same, stable, serving⟩ := (consistent.registered_iff other connection).mp there
  cases found.symm.trans same
  exact apart.elim (absurd serving) (absurd stable)

theorem Consistent.idle (consistent : Consistent node) {id : Nat} {before after : Accepting}
    (found : node.accepts.get id = some before) (was : before.phase ≠ .serving)
    (is : after.phase ≠ .serving) (other connection : Nat) :
    node.connections.get other = some connection ↔
      connection = id ∧ after.stable = other ∧ after.phase = .serving ∨
        connection ≠ id ∧ node.connections.get other = some connection := by
  constructor
  · exact fun there => .inr ⟨consistent.ne_of_registered found (.inl was) there, there⟩
  · rintro (⟨-, -, serving⟩ | ⟨-, there⟩)
    · exact absurd serving is
    · exact there

theorem Consistent.sent_ne (consistent : Consistent node) {id : Nat} {accept : Accepting}
    (found : node.accepts.get id = some accept) (known : accept.phase ≠ .announcing)
    (connection other : Nat) (endpoint : EndpointId)
    (member : .clientConnected connection other endpoint ∈ node.queue) :
    connection ≠ id ∧ .clientConnected connection other endpoint ∈ node.queue := by
  refine ⟨?_, member⟩
  rintro rfl
  have announcing := consistent.sent connection other endpoint member
  rw [found] at announcing
  cases announcing
  exact known rfl

theorem Consistent.sent_rest (consistent : Consistent node) {message : ProviderMessage}
    {rest : List ProviderMessage} (queue : node.queue = message :: rest) (id other : Nat)
    (endpoint : EndpointId) (member : .clientConnected id other endpoint ∈ rest) :
    node.accepts.get id = some ⟨other, endpoint, .announcing⟩ :=
  consistent.sent id other endpoint (queue ▸ List.mem_cons_of_mem _ member)

theorem connected_get_of_ne (gate : PublishGate) {other : Nat} (endpoint : EndpointId)
    (different : other ≠ stable) :
    (gate.connected stable (some endpoint)).connections.get other = gate.connections.get other :=
  Table.get_insert_of_ne _ _ different

theorem Consistent.announced (consistent : Consistent node) {connection : Nat}
    {endpoint : EndpointId} {rest : List ProviderMessage}
    (queue : node.queue = .clientConnected connection stable endpoint :: rest) :
    Consistent (({ node with queue := rest } : BlobsNode).handled
      (.clientConnected connection stable endpoint)) := by
  have head : .clientConnected connection stable endpoint ∈ node.queue := by
    rw [queue]
    exact List.mem_cons_self
  have found := consistent.sent connection stable endpoint head
  obtain ⟨older, last, fresh⟩ : Settled node.queue node.gate.connections connection
      ⟨stable, endpoint, .announcing⟩ :=
    consistent.settled connection _ found (.inl (by simp))
  have first : underWay node.queue stable =
      .clientConnected connection stable endpoint :: underWay rest stable := by
    rw [queue, underWay_cons]
    simp [controls]
  -- the message is the last one under way for the id, so it is the only one
  have only : underWay rest stable = [] := by
    rw [first] at last
    cases older with
    | nil => exact (List.cons.inj last).2
    | cons oldest older =>
        have same := (List.cons.inj last).1
        exact absurd (same ▸ List.mem_cons_self) fresh
  have gone : ∀ other name, .clientConnected connection other name ∉ rest := by
    intro other name member
    have known := consistent.sent_rest queue connection other name member
    rw [found] at known
    cases known
    have listed : .clientConnected connection stable endpoint ∈ underWay rest stable :=
      List.mem_filter.mpr ⟨member, by simp [controls]⟩
    rw [only] at listed
    cases listed
  exact consistent.moved
    { found := found
      stable := rfl
      held := by simp
      opened_of_opened := by intro open_; cases open_
      elsewhere := by
        intro other different
        refine ⟨?_, connected_get_of_ne node.gate endpoint different⟩
        change underWay rest other = _
        rw [queue, underWay_cons_of_not (by simpa [controls] using Ne.symm different)]
      sent := by
        intro other name key member
        refine ⟨?_, by rw [queue]; exact List.mem_cons_of_mem _ member⟩
        rintro rfl
        exact gone name key member
      settled := fun _ => ⟨only, Table.get_insert_self _ _ _⟩
      registered_iff := consistent.idle found (by simp) (by simp) }

theorem Consistent.closedHandled (consistent : Consistent node) {rest : List ProviderMessage}
    (queue : node.queue = .connectionClosed stable :: rest) :
    Consistent (({ node with queue := rest } : BlobsNode).handled (.connectionClosed stable)) := by
  have same : ∀ other, other ≠ stable → underWay rest other = underWay node.queue other := by
    intro other different
    rw [queue, underWay_cons_of_not (by simpa [controls] using Ne.symm different)]
  have first : underWay node.queue stable = .connectionClosed stable :: underWay rest stable := by
    rw [queue, underWay_cons]
    simp [controls]
  exact
    { consistent with
      sent := consistent.sent_rest queue
      settled := by
        intro id accept found held
        have settled := consistent.settled id accept found held
        by_cases own : accept.stable = stable
        · unfold Settled at settled ⊢
          rw [own, first] at settled
          rw [own]
          cases phase : accept.phase with
          | announcing =>
              rw [phase] at settled
              obtain ⟨older, last, fresh⟩ := settled
              cases older with
              | nil => cases (List.cons.inj last).1
              | cons oldest older =>
                  exact ⟨older, (List.cons.inj last).2, fun member =>
                    fresh (List.mem_cons_of_mem _ member)⟩
          | left =>
              rw [phase] at settled
              rcases settled with ⟨last, -⟩ | ⟨none, -⟩
              · exact .inr ⟨(List.cons.inj last).2, Table.get_remove_self _ _⟩
              · cases none
          | announced => rw [phase] at settled; cases settled.1
          | serving => rw [phase] at settled; cases settled.1
          | leaving => rw [phase] at settled; cases settled.1
        · exact settled.congr (same _ own) (Table.get_remove_of_ne _ own) }

theorem Consistent.connected (consistent : Consistent node) (endpoint : EndpointId)
    (free : node.inUse stable = false) :
    Consistent { (node.setAccept node.nextId ⟨stable, endpoint, .announcing⟩).send
      (.clientConnected node.nextId stable endpoint) with nextId := node.nextId + 1 } := by
  have absent : ∀ id accept, node.accepts.get id = some accept → id ≠ node.nextId := by
    rintro id accept there rfl
    exact Nat.lt_irrefl _ (consistent.acceptsBelow _ _ there)
  have kept : ∀ id accept, node.accepts.get id = some accept →
      (node.accepts.insert node.nextId ⟨stable, endpoint, .announcing⟩).get id = some accept := by
    intro id accept there
    rw [Table.get_insert_of_ne _ _ (absent id accept there), there]
  have other : ∀ id accept, node.accepts.get id = some accept → Held node.streams id accept →
      accept.stable ≠ stable := by
    intro id accept there held same
    rw [inUse_iff.mpr ⟨id, accept, there, same, held⟩] at free
    cases free
  constructor
  · intro id accept there
    rcases insert_cases there with ⟨rfl, -⟩ | ⟨-, old⟩
    · exact Nat.lt_succ_self _
    · exact Nat.lt_succ_of_lt (consistent.acceptsBelow id accept old)
  · intro id task there
    obtain ⟨accept, found, facts⟩ := consistent.streamOf id task there
    exact ⟨accept, kept _ _ found, facts⟩
  · intro one two first second firstFound secondFound same heldOne heldTwo
    rcases insert_cases firstFound with ⟨rfl, rfl⟩ | ⟨-, oldOne⟩ <;>
      rcases insert_cases secondFound with ⟨rfl, rfl⟩ | ⟨-, oldTwo⟩
    · rfl
    · exact absurd same.symm (other two second oldTwo heldTwo)
    · exact absurd same (other one first oldOne heldOne)
    · exact consistent.unique one two first second oldOne oldTwo same heldOne heldTwo
  · intro id name key member
    rcases List.mem_append.mp member with old | new
    · exact kept _ _ (consistent.sent id name key old)
    · cases List.mem_singleton.mp new
      exact Table.get_insert_self _ _ _
  · intro id accept there held
    rcases insert_cases there with ⟨rfl, rfl⟩ | ⟨-, old⟩
    · refine ⟨underWay node.queue stable, ?_, ?_⟩
      · change underWay (node.queue ++ [_]) stable = _
        rw [underWay_append]
        simp [controls]
      · intro member
        have known := consistent.sent _ _ _ (List.mem_filter.mp member).1
        exact absurd rfl (absent _ _ known)
    · refine (consistent.settled id accept old held).congr (underWay_append_of_not ?_) rfl
      simpa [controls] using Ne.symm (other id accept old held)
  · intro name id
    refine (consistent.registered_iff name id).trans ⟨?_, ?_⟩
    · rintro ⟨accept, found, facts⟩
      exact ⟨accept, kept _ _ found, facts⟩
    · rintro ⟨accept, there, same, serving⟩
      rcases insert_cases there with ⟨rfl, rfl⟩ | ⟨-, old⟩
      · cases serving
      · exact ⟨accept, old, same, serving⟩

theorem Consistent.served (consistent : Consistent node) {connection : Nat} {endpoint : EndpointId}
    (found : node.accepts.get connection = some ⟨stable, endpoint, .announced⟩) :
    Consistent { node.setAccept connection ⟨stable, endpoint, .serving⟩ with
      connections := node.connections.insert stable connection } := by
  have settled : Settled node.queue node.gate.connections connection ⟨stable, endpoint, .announced⟩ :=
    consistent.settled connection _ found (.inl (by simp))
  exact consistent.moved
    { found := found
      stable := rfl
      held := by simp
      opened_of_opened := fun _ => rfl
      elsewhere := fun _ _ => ⟨rfl, rfl⟩
      sent := consistent.sent_ne found (by simp)
      settled := fun _ => settled
      registered_iff := by
        intro other id
        -- no connection is registered under the stable id yet
        have absent : node.connections.get stable = none := by
          rw [Option.eq_none_iff_forall_ne_some]
          intro other there
          obtain ⟨served, known, same, serving⟩ := (consistent.registered_iff _ _).mp there
          have one := consistent.unique other connection served _ known found same
            (.inl (by simp [serving])) (.inl (by simp))
          rw [one, found] at known
          cases known
          cases serving
        change (node.connections.insert stable connection).get other = some id ↔ _
        rw [Table.get_insert]
        by_cases here : other = stable
        · subst here
          simp [absent, eq_comm]
        · rw [if_neg here]
          simpa [Ne.symm here] using consistent.ne_of_registered found (.inl (by simp)) }

theorem Consistent.refused (consistent : Consistent node) {connection : Nat} {endpoint : EndpointId}
    (found : node.accepts.get connection = some ⟨stable, endpoint, .announced⟩) :
    Consistent (node.setAccept connection ⟨stable, endpoint, .left⟩) := by
  exact consistent.moved
    { found := found
      stable := rfl
      held := by simp
      opened_of_opened := fun _ => rfl
      elsewhere := fun _ _ => ⟨rfl, rfl⟩
      sent := consistent.sent_ne found (by simp)
      settled := by
        -- no stream was opened on it, so nothing of it is held any more
        rintro (phase | ⟨stream, task, there, on⟩)
        · exact absurd rfl phase
        · obtain ⟨accept, same, -, open_⟩ := consistent.streamOf stream task there
          rw [on, found] at same
          cases same
          cases open_
      registered_iff := consistent.idle found (by simp) (by simp) }

theorem Consistent.leaves (consistent : Consistent node) {connection : Nat} {endpoint : EndpointId}
    (found : node.accepts.get connection = some ⟨stable, endpoint, .serving⟩) :
    Consistent { node.setAccept connection ⟨stable, endpoint, .leaving⟩ with
      connections := node.connections.remove stable } := by
  have settled : Settled node.queue node.gate.connections connection ⟨stable, endpoint, .serving⟩ :=
    consistent.settled connection _ found (.inl (by simp))
  exact consistent.moved
    { found := found
      stable := rfl
      held := by simp
      opened_of_opened := fun _ => rfl
      elsewhere := fun _ _ => ⟨rfl, rfl⟩
      sent := consistent.sent_ne found (by simp)
      settled := fun _ => settled
      registered_iff := by
        intro other id
        have own : node.connections.get stable = some connection :=
          (consistent.registered_iff stable connection).mpr ⟨_, found, rfl, rfl⟩
        change (node.connections.remove stable).get other = some id ↔ _
        rw [Table.get_remove]
        by_cases here : other = stable
        · subst here
          simp [own, eq_comm]
        · rw [if_neg here]
          simpa using consistent.ne_of_registered found (.inr (Ne.symm here)) }

theorem Consistent.closes (consistent : Consistent node) {connection : Nat} {endpoint : EndpointId}
    (found : node.accepts.get connection = some ⟨stable, endpoint, .leaving⟩) :
    Consistent ((node.setAccept connection ⟨stable, endpoint, .left⟩).send
      (.connectionClosed stable)) := by
  have settled : Settled node.queue node.gate.connections connection ⟨stable, endpoint, .leaving⟩ :=
    consistent.settled connection _ found (.inl (by simp))
  exact consistent.moved
    { found := found
      stable := rfl
      held := by simp
      opened_of_opened := fun _ => rfl
      elsewhere := by
        intro other different
        exact ⟨underWay_append_of_not (by simpa [controls] using Ne.symm different), rfl⟩
      sent := by
        intro id other key member
        refine consistent.sent_ne found (by simp) id other key ?_
        simpa [setAccept] using member
      settled := by
        intro _
        refine .inl ⟨?_, settled.2⟩
        change underWay (node.queue ++ [_]) stable = _
        rw [underWay_append, settled.1]
        simp [controls]
      registered_iff := consistent.idle found (by simp) (by simp) }

theorem Consistent.pushHandled (consistent : Consistent node) {stream : Nat} {isBlob : Bool}
    {rest : List ProviderMessage}
    (queue : node.queue = .pushRequestReceived stream isBlob :: rest) :
    Consistent (({ node with queue := rest } : BlobsNode).handled
      (.pushRequestReceived stream isBlob)) := by
  have taken : Consistent { node with queue := rest } :=
    { consistent with
      sent := consistent.sent_rest queue
      settled := by
        intro id accept found held
        refine (consistent.settled id accept found held).congr ?_ rfl
        rw [queue, underWay_cons_of_not rfl] }
  rw [handled]
  split
  · rename_i task there
    exact taken.setStream there rfl rfl
  · exact taken

theorem consistent_start (gate : PublishGate) : Consistent (start gate) := by
  constructor <;> intros <;> simp_all [start]

theorem consistent_step {after : BlobsNode} {notices : List BlobsNotice}
    (consistent : Consistent node) (effect : Effect node after notices) : Consistent after := by
  cases effect with
  | connected endpoint free => exact consistent.connected endpoint free
  | @handled message rest queue =>
      cases message with
      | clientConnected connection stable endpoint => exact consistent.announced queue
      | connectionClosed stable => exact consistent.closedHandled queue
      | pushRequestReceived stream isBlob => exact consistent.pushHandled queue
  | served found => exact consistent.served found
  | refused found => exact consistent.refused found
  | opened found => exact consistent.openStream found
  | @requested stream connection stable isBlob found =>
      have moved : Consistent (node.setStream stream ⟨connection, stable, .requested⟩) :=
        consistent.setStream found rfl rfl
      exact moved.sendPush stream isBlob
  | authorized answer found => exact consistent.setStream found rfl rfl
  | stopped found => exact consistent
  | finished stream => exact consistent.finish stream
  | leaves found => exact consistent.leaves found
  | closes found => exact consistent.closes found

def IsOn (node : BlobsNode) (stream connection : Nat) (accept : Accepting) :
    Prop :=
  (∃ task, node.streams.get stream = some task ∧ task.connection = connection) ∧
    node.accepts.get connection = some accept

/-- What a step may say of a stream: it belongs to the endpoint of the connection it is on, or to none
once that connection's task has returned; and it stops no connection but that one. -/
def Justified (node : BlobsNode) : BlobsNotice → Prop
  | .attributed stream connection endpoint => ∃ accept, node.IsOn stream connection accept ∧
      (endpoint = some accept.endpoint ∨ endpoint = none ∧ accept.phase = .left)
  | .stopped stream connection target => ∃ accept, node.IsOn stream connection accept ∧
      (target = some connection ∨ target = none ∧ ended accept.phase = true)

theorem Consistent.known (consistent : Consistent node) {stream : Nat} {task : PushStream}
    (found : node.streams.get stream = some task) :
    ∃ accept, node.IsOn stream task.connection accept ∧
      (node.gate.connections.get task.stable = some accept.endpoint ∨
        node.gate.connections.get task.stable = none ∧ accept.phase = .left) := by
  obtain ⟨accept, there, same, open_⟩ := consistent.streamOf stream task found
  have settled := consistent.settled _ accept there (.inr ⟨stream, task, found, rfl⟩)
  refine ⟨accept, ⟨⟨task, found, rfl⟩, there⟩, ?_⟩
  rw [← same]
  unfold Settled at settled
  cases phase : accept.phase with
  | announcing | announced => rw [phase] at open_; cases open_
  | serving | leaving =>
      rw [phase] at settled
      exact .inl settled.2
  | left =>
      rw [phase] at settled
      rcases settled with ⟨-, endpoint⟩ | ⟨-, gone⟩
      · exact .inl endpoint
      · exact .inr ⟨gone, rfl⟩

theorem Consistent.target (consistent : Consistent node) {stream : Nat} {task : PushStream}
    (found : node.streams.get stream = some task) :
    ∃ accept, node.IsOn stream task.connection accept ∧
      (node.connections.get task.stable = some task.connection ∨
        node.connections.get task.stable = none ∧ ended accept.phase = true) := by
  obtain ⟨accept, there, same, open_⟩ := consistent.streamOf stream task found
  have held : Held node.streams task.connection accept := .inr ⟨stream, task, found, rfl⟩
  refine ⟨accept, ⟨⟨task, found, rfl⟩, there⟩, ?_⟩
  cases registered : node.connections.get task.stable with
  | some other =>
      obtain ⟨served, known, stable, serving⟩ := (consistent.registered_iff _ other).mp registered
      have one := consistent.unique other task.connection served accept known there
        (stable.trans same.symm) (.inl (by rw [serving]; simp)) held
      exact .inl (by rw [one])
  | none =>
      refine .inr ⟨rfl, ?_⟩
      cases phase : accept.phase with
      | announcing | announced => rw [phase] at open_; cases open_
      | serving =>
          have present := (consistent.registered_iff _ _).mpr ⟨accept, there, same, phase⟩
          cases registered.symm.trans present
      | leaving | left => rfl

theorem justified_step {after : BlobsNode} {notices : List BlobsNotice}
    (consistent : Consistent node) (effect : Effect node after notices) :
    ∀ notice ∈ notices, Justified node notice := by
  intro notice member
  cases effect with
  | authorized answer found =>
      cases List.mem_singleton.mp member
      exact consistent.known found
  | stopped found =>
      cases List.mem_singleton.mp member
      exact consistent.target found
  | connected | handled | served | refused | opened | requested | finished | leaves | closes =>
      cases member

end Lemmas

/-- Whatever connections come, push and go, and whichever stable ids come back: when a push is
attributed, it is to the endpoint of the connection it is on, or to none once that connection is
gone, and when it is stopped, that connection is closed or none. -/
theorem push_belongs_to_its_connection {gate : PublishGate} {log notices : List BlobsNotice}
    {node after : BlobsNode} {event : BlobsEvent}
    (run : blobsMachine.Run (fun _ _ _ => True) [] (start gate) log node)
    (taken : blobsMachine.next node event = some (after, notices)) :
    ∀ notice ∈ notices, Justified node notice := by
  have consistent : Consistent node := by
    refine run.state_invariant Consistent (consistent_start gate) ?_
    intro log node event after notices consistent _ taken
    exact consistent_step consistent (effect_of_next taken)
  exact justified_step consistent (effect_of_next taken)

private def firstPeer : EndpointId := ⟨List.replicate 32 1, by decide +kernel⟩

private def secondPeer : EndpointId := ⟨List.replicate 32 2, by decide +kernel⟩

private def idComesBack : List BlobsEvent :=
  [.connect 7 firstPeer, .handle, .proceed 0 true, .openStream 0, .request 1 true, .leave 0,
    .close 0, .handle, .authorize 1 true, .finish 1, .connect 7 secondPeer, .handle, .handle,
    .proceed 2 true, .openStream 2, .request 3 true, .handle]

private def toldApart (log : List BlobsNotice) (node : BlobsNode) : Bool :=
  log == [.attributed 1 0 (some firstPeer)] &&
    (blobsMachine.next node (.authorize 3 true)).map Prod.snd ==
      some [.attributed 3 2 (some secondPeer)]

private theorem idComesBack_executed :
    (blobsMachine.execute (fun _ _ _ => true) idComesBack []
      (start (PublishGate.new Moderation.empty))).map
        (fun ended => toldApart ended.1 ended.2) = some true := by
  decide +kernel

theorem push_belongs_to_its_connection_when_id_comes_back :
    ∃ log node, blobsMachine.Run (fun _ _ _ => True) [] (start (PublishGate.new Moderation.empty))
        log node ∧
      .attributed 1 0 (some firstPeer) ∈ log ∧ Justified node (.attributed 3 2 (some secondPeer)) := by
  obtain ⟨log, node, run, shown⟩ :=
    Machine.execute_reaches (fun _ _ _ _ => trivial) idComesBack toldApart idComesBack_executed
  rw [toldApart, Bool.and_eq_true, beq_iff_eq, beq_iff_eq] at shown
  obtain ⟨⟨after, notices⟩, taken, rfl⟩ := Option.map_eq_some_iff.mp shown.2
  refine ⟨log, node, run, by simp [shown.1], ?_⟩
  exact push_belongs_to_its_connection run taken _ List.mem_cons_self

end BlobsNode

end TdfIrohS3
