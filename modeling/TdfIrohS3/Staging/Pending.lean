import TdfIrohS3.Library.Machine
import TdfIrohS3.Library.Table

namespace TdfIrohS3

open Library

structure PendingPush (Hash : Type) where
  id : Nat
  hash : Hash
  deriving DecidableEq, Repr

/-- Where a run of the store's collector is: the protect callback has been called, the pending pushes
have been read once, the store has been listed, or the callback has returned the hashes to keep. -/
inductive CollectorRun (Hash : Type)
  | started
  | listing (keep : List Hash)
  | listed (keep stored : List Hash)
  | sweeping (keep : List Hash)
  deriving DecidableEq, Repr

structure Staging (Hash : Type) where
  pending : Table Hash Nat
  attached : Bool
  guards : List (PendingPush Hash)
  stored : List Hash
  runs : Nat → Option (CollectorRun Hash)
  nextId : Nat

inductive StagingEvent (Hash : Type)
  | track (hash : Hash)
  | drop (id : Nat)
  | attach
  | write (hash : Hash)
  | start
  | read (run : Nat)
  | list (run : Nat) (answered : Bool)
  | readAgain (run : Nat)
  /-- The task of the callback panics or is cancelled. -/
  | taskFailed (run : Nat)
  | sweep (run : Nat)
  deriving DecidableEq, Repr

inductive StagingNotice (Hash : Type)
  | tracked (id : Nat) (hash : Hash)
  | dropped (id : Nat) (hash : Hash)
  /-- A count was to be taken below zero. -/
  | underflow (id : Nat)
  | started (run : Nat)
  | skipped (run : Nat)
  | deleted (run : Nat) (hash : Hash)
  deriving DecidableEq, Repr

namespace Staging

variable {Hash : Type}

def new (stored : List Hash) : Staging Hash :=
  { pending := Table.empty, attached := false, guards := [], stored, runs := fun _ => none,
    nextId := 0 }

variable [DecidableEq Hash]

def increment (pending : Table Hash Nat) (hash : Hash) : Table Hash Nat :=
  pending.insert hash ((pending.get hash).getD 0 + 1)

/-- `PendingPush::drop`; `none` where the subtraction underflows. -/
def decrement (pending : Table Hash Nat) (hash : Hash) : Option (Table Hash Nat) :=
  match pending.get hash with
  | none => some pending
  | some 0 => none
  | some (n + 1) => if n = 0 then some (pending.remove hash) else some (pending.insert hash n)

def isPending (staging : Staging Hash) (hash : Hash) : Bool := staging.pending.contains hash

def setRun (staging : Staging Hash) (run : Nat) (phase : Option (CollectorRun Hash)) :
    Staging Hash :=
  { staging with runs := Function.update staging.runs run phase }

def skip (staging : Staging Hash) (run : Nat) : Staging Hash × List (StagingNotice Hash) :=
  (staging.setRun run none, [.skipped run])

/-- The end of `keep_set`: the stored blobs that no pending push needs are doomed. -/
def settle (staging : Staging Hash) (run : Nat) (keep stored : List Hash) :
    Staging Hash × List (StagingNotice Hash) :=
  if (stored.filter fun hash => hash ∉ keep).length = 0 then staging.skip run
  else (staging.setRun run (some (.sweeping keep)), [])

def next (staging : Staging Hash) :
    StagingEvent Hash → Option (Staging Hash × List (StagingNotice Hash))
  | .track hash =>
      some ({ staging with
        pending := increment staging.pending hash
        guards := ⟨staging.nextId, hash⟩ :: staging.guards
        nextId := staging.nextId + 1 }, [.tracked staging.nextId hash])
  | .drop id =>
      match staging.guards.find? fun guard => guard.id == id with
      | none => none
      | some guard =>
          match decrement staging.pending guard.hash with
          | none => some ({ staging with guards := staging.guards.erase guard }, [.underflow id])
          | some pending => some ({ staging with pending, guards := staging.guards.erase guard },
              [.dropped id guard.hash])
  | .attach => some ({ staging with attached := true }, [])
  | .write hash =>
      some (if hash ∈ staging.stored then staging
        else { staging with stored := hash :: staging.stored }, [])
  | .start =>
      some ({ staging.setRun staging.nextId (some .started) with nextId := staging.nextId + 1 },
        [.started staging.nextId])
  | .read run =>
      match staging.runs run with
      | some .started =>
          if staging.attached then
            some (staging.setRun run (some (.listing staging.pending.keys)), [])
          else some (staging.skip run)
      | _ => none
  | .list run answered =>
      match staging.runs run with
      | some (.listing keep) =>
          if answered then some (staging.setRun run (some (.listed keep staging.stored)), [])
          else some (staging.skip run)
      | _ => none
  | .readAgain run =>
      match staging.runs run with
      | some (.listed keep stored) =>
          some (staging.settle run (keep ++ staging.pending.keys) stored)
      | _ => none
  | .taskFailed run =>
      match staging.runs run with
      | some (.sweeping _) | none => none
      | some _ => some (staging.skip run)
  | .sweep run =>
      match staging.runs run with
      | some (.sweeping keep) =>
          some ({ staging.setRun run none with stored := staging.stored.filter fun h => h ∈ keep },
            (staging.stored.filter fun h => h ∉ keep).map (.deleted run))
      | _ => none

end Staging

/-- iroh-blobs' collector deletes exactly the stored hashes outside the live set it is given, and
nothing when it is told to abort. -/
def stagingMachine (Hash : Type) [DecidableEq Hash] :
    Machine (Staging Hash) (StagingEvent Hash) (StagingNotice Hash) :=
  ⟨Staging.next⟩

end TdfIrohS3
