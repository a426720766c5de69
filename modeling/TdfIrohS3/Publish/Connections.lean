import TdfIrohS3.Library.Machine
import TdfIrohS3.Publish.Gate

namespace TdfIrohS3

open Library

/-- Where `BlobsHandler::accept` is with a connection: its `ClientConnected` is on the way to the
ingest loop; the loop has answered it; streams are accepted; the connection has left `Connections`;
or the task has returned. -/
inductive AcceptPhase
  | announcing
  | announced
  | serving
  | leaving
  | left
  deriving DecidableEq, Repr

structure Accepting where
  stable : Nat
  endpoint : EndpointId
  phase : AcceptPhase
  deriving DecidableEq

inductive StreamPhase
  | opened
  | requested
  | authorizing
  | pushing
  | refused
  deriving DecidableEq, Repr

/-- A stream in the hands of `BlobsHandler::stream`. The task knows its connection by the stable id
only; `connection` is the one it really is on. -/
structure PushStream where
  connection : Nat
  stable : Nat
  phase : StreamPhase
  deriving DecidableEq, Repr

inductive ProviderMessage
  | clientConnected (connection stable : Nat) (endpoint : EndpointId)
  | connectionClosed (stable : Nat)
  | pushRequestReceived (stream : Nat) (isBlob : Bool)
  deriving DecidableEq

structure BlobsNode where
  gate : PublishGate
  connections : Table Nat Nat
  queue : List ProviderMessage
  accepts : Table Nat Accepting
  streams : Table Nat PushStream
  nextId : Nat

inductive BlobsEvent
  | connect (stable : Nat) (endpoint : EndpointId)
  /-- The ingest loop takes the next message. -/
  | handle
  /-- The accept task has its answer; without one it closes the connection. -/
  | proceed (connection : Nat) (answered : Bool)
  | openStream (connection : Nat)
  | request (stream : Nat) (isBlob : Bool)
  | authorize (stream : Nat) (granted : Bool)
  /-- The watch of a push whose stream is still held closes its connection. -/
  | stop (stream : Nat)
  | finish (stream : Nat)
  /-- The connection is closed: no more streams. -/
  | leave (connection : Nat)
  | close (connection : Nat)

inductive BlobsNotice
  /-- The endpoint `authorize_push` takes the stream's connection for. -/
  | attributed (stream connection : Nat) (endpoint : Option EndpointId)
  /-- The connection `Connections::close` finds for the stream. -/
  | stopped (stream connection : Nat) (target : Option Nat)
  deriving DecidableEq

namespace BlobsNode

def inUse (node : BlobsNode) (stable : Nat) : Bool :=
  node.accepts.pairs.any fun accept =>
    accept.2.stable == stable && (accept.2.phase != .left ||
      node.streams.values.any fun stream => stream.connection == accept.1)

def setAccept (node : BlobsNode) (connection : Nat) (accept : Accepting) : BlobsNode :=
  { node with accepts := node.accepts.insert connection accept }

def setStream (node : BlobsNode) (stream : Nat) (task : PushStream) : BlobsNode :=
  { node with streams := node.streams.insert stream task }

def send (node : BlobsNode) (message : ProviderMessage) : BlobsNode :=
  { node with queue := node.queue ++ [message] }

def handled (node : BlobsNode) : ProviderMessage → BlobsNode
  | .clientConnected connection stable endpoint =>
      { node.setAccept connection ⟨stable, endpoint, .announced⟩ with
        gate := node.gate.connected stable (some endpoint) }
  | .connectionClosed stable => { node with gate := node.gate.closed stable }
  | .pushRequestReceived stream isBlob =>
      match node.streams.get stream with
      -- a push of a hash sequence is refused before the gate is asked
      | some task =>
          node.setStream stream { task with phase := if isBlob then .authorizing else .refused }
      | none => node

def next (node : BlobsNode) : BlobsEvent → Option (BlobsNode × List BlobsNotice)
  | .connect stable endpoint =>
      -- a stable id names one connection for as long as anything of it is held
      if node.inUse stable then none
      else
        some ({ (node.setAccept node.nextId ⟨stable, endpoint, .announcing⟩).send
          (.clientConnected node.nextId stable endpoint) with nextId := node.nextId + 1 }, [])
  | .handle =>
      match node.queue with
      | [] => none
      | message :: rest => some (({ node with queue := rest } : BlobsNode).handled message, [])
  | .proceed connection answered =>
      match node.accepts.get connection with
      | some ⟨stable, endpoint, .announced⟩ =>
          if answered then
            some ({ node.setAccept connection ⟨stable, endpoint, .serving⟩ with
              connections := node.connections.insert stable connection }, [])
          else some (node.setAccept connection ⟨stable, endpoint, .left⟩, [])
      | _ => none
  | .openStream connection =>
      match node.accepts.get connection with
      | some ⟨stable, _, .serving⟩ =>
          some ({ node.setStream node.nextId ⟨connection, stable, .opened⟩ with
            nextId := node.nextId + 1 }, [])
      | _ => none
  | .request stream isBlob =>
      match node.streams.get stream with
      | some ⟨connection, stable, .opened⟩ =>
          some ((node.setStream stream ⟨connection, stable, .requested⟩).send
            (.pushRequestReceived stream isBlob), [])
      | _ => none
  | .authorize stream granted =>
      match node.streams.get stream with
      | some ⟨connection, stable, .authorizing⟩ =>
          some (node.setStream stream ⟨connection, stable, if granted then .pushing else .refused⟩,
            [.attributed stream connection (node.gate.connections.get stable)])
      | _ => none
  | .stop stream =>
      match node.streams.get stream with
      | some ⟨connection, stable, .pushing⟩ =>
          some (node, [.stopped stream connection (node.connections.get stable)])
      | _ => none
  | .finish stream =>
      match node.streams.get stream with
      | some ⟨_, _, .opened⟩ | some ⟨_, _, .pushing⟩ | some ⟨_, _, .refused⟩ =>
          some ({ node with streams := node.streams.remove stream }, [])
      | _ => none
  | .leave connection =>
      match node.accepts.get connection with
      | some ⟨stable, endpoint, .serving⟩ =>
          some ({ node.setAccept connection ⟨stable, endpoint, .leaving⟩ with
            connections := node.connections.remove stable }, [])
      | _ => none
  | .close connection =>
      match node.accepts.get connection with
      | some ⟨stable, endpoint, .leaving⟩ =>
          some ((node.setAccept connection ⟨stable, endpoint, .left⟩).send
            (.connectionClosed stable), [])
      | _ => none

def start (gate : PublishGate) : BlobsNode :=
  { gate, connections := Table.empty, queue := [], accepts := Table.empty, streams := Table.empty,
    nextId := 0 }

end BlobsNode

/-- Connections come, push and go in any order; the loop takes the events in the order they were
sent. iroh-blobs holds a stream until its request is answered, and gives no two connections that
are held one stable id. -/
def blobsMachine : Machine BlobsNode BlobsEvent BlobsNotice := ⟨BlobsNode.next⟩

namespace BlobsNode

inductive Effect (node : BlobsNode) : BlobsNode → List BlobsNotice → Prop
  | connected {stable : Nat} (endpoint : EndpointId) (free : node.inUse stable = false) :
      Effect node { (node.setAccept node.nextId ⟨stable, endpoint, .announcing⟩).send
        (.clientConnected node.nextId stable endpoint) with nextId := node.nextId + 1 } []
  | handled {message : ProviderMessage} {rest : List ProviderMessage}
      (queue : node.queue = message :: rest) :
      Effect node (({ node with queue := rest } : BlobsNode).handled message) []
  | served {connection stable : Nat} {endpoint : EndpointId}
      (found : node.accepts.get connection = some ⟨stable, endpoint, .announced⟩) :
      Effect node { node.setAccept connection ⟨stable, endpoint, .serving⟩ with
        connections := node.connections.insert stable connection } []
  | refused {connection stable : Nat} {endpoint : EndpointId}
      (found : node.accepts.get connection = some ⟨stable, endpoint, .announced⟩) :
      Effect node (node.setAccept connection ⟨stable, endpoint, .left⟩) []
  | opened {connection stable : Nat} {endpoint : EndpointId}
      (found : node.accepts.get connection = some ⟨stable, endpoint, .serving⟩) :
      Effect node { node.setStream node.nextId ⟨connection, stable, .opened⟩ with
        nextId := node.nextId + 1 } []
  | requested {stream connection stable : Nat} (isBlob : Bool)
      (found : node.streams.get stream = some ⟨connection, stable, .opened⟩) :
      Effect node ((node.setStream stream ⟨connection, stable, .requested⟩).send
        (.pushRequestReceived stream isBlob)) []
  | authorized {stream connection stable : Nat} (answer : StreamPhase)
      (found : node.streams.get stream = some ⟨connection, stable, .authorizing⟩) :
      Effect node (node.setStream stream ⟨connection, stable, answer⟩)
        [.attributed stream connection (node.gate.connections.get stable)]
  | stopped {stream connection stable : Nat}
      (found : node.streams.get stream = some ⟨connection, stable, .pushing⟩) :
      Effect node node [.stopped stream connection (node.connections.get stable)]
  | finished (stream : Nat) :
      Effect node { node with streams := node.streams.remove stream } []
  | leaves {connection stable : Nat} {endpoint : EndpointId}
      (found : node.accepts.get connection = some ⟨stable, endpoint, .serving⟩) :
      Effect node { node.setAccept connection ⟨stable, endpoint, .leaving⟩ with
        connections := node.connections.remove stable } []
  | closes {connection stable : Nat} {endpoint : EndpointId}
      (found : node.accepts.get connection = some ⟨stable, endpoint, .leaving⟩) :
      Effect node ((node.setAccept connection ⟨stable, endpoint, .left⟩).send
        (.connectionClosed stable)) []

theorem effect_of_next {node after : BlobsNode} {event : BlobsEvent} {notices : List BlobsNotice}
    (taken : node.next event = some (after, notices)) : Effect node after notices := by
  cases event with
  | connect stable endpoint =>
      simp only [next] at taken
      split at taken
      · cases taken
      · rename_i free
        cases taken
        exact .connected endpoint (Bool.eq_false_iff.mpr free)
  | handle =>
      simp only [next] at taken
      split at taken
      · cases taken
      · rename_i queue
        cases taken
        exact .handled queue
  | proceed connection answered =>
      simp only [next] at taken
      split at taken
      · rename_i found
        split at taken <;> cases taken
        · exact .served found
        · exact .refused found
      · cases taken
  | openStream connection =>
      simp only [next] at taken
      split at taken
      · rename_i found
        cases taken
        exact .opened found
      · cases taken
  | request stream isBlob =>
      simp only [next] at taken
      split at taken
      · rename_i found
        cases taken
        exact .requested isBlob found
      · cases taken
  | authorize stream granted =>
      simp only [next] at taken
      split at taken
      · rename_i found
        cases taken
        exact .authorized _ found
      · cases taken
  | stop stream =>
      simp only [next] at taken
      split at taken
      · rename_i found
        cases taken
        exact .stopped found
      · cases taken
  | finish stream =>
      simp only [next] at taken
      split at taken <;> cases taken <;> exact .finished stream
  | leave connection =>
      simp only [next] at taken
      split at taken
      · rename_i found
        cases taken
        exact .leaves found
      · cases taken
  | close connection =>
      simp only [next] at taken
      split at taken
      · rename_i found
        cases taken
        exact .closes found
      · cases taken

end BlobsNode

end TdfIrohS3
