import TdfIrohS3.Auth.Cwt
import TdfIrohS3.Library.Machine
import Mathlib.Logic.Function.Basic

namespace TdfIrohS3

open Library

/-- `KEY_REFRESH_MIN_INTERVAL`, in nanoseconds. -/
def keyRefreshMinInterval : Nat := 60000000000

inductive FetchFailure
  | unreachable (why : String)
  | status (code : String)
  | bodyLost (why : String)
  deriving DecidableEq, Repr

def FetchFailure.why (url : String) : FetchFailure → String
  | .unreachable why => "GET " ++ url ++ ": " ++ why
  | .status code => "GET " ++ url ++ ": HTTP " ++ code
  | .bodyLost why => "read body: " ++ why

inductive CheckPhase (Key : Type)
  | looking
  | refreshing
  | fetching (url : String)
  | received (body : List UInt8)
  | installing (keys : List (List UInt8 × Key))
  | lookingAgain

structure SignCheck (Key : Type) where
  sign1 : CoseSign1
  phase : CheckPhase Key

/-- A `CwtVerifier` with the calls of `verify_sign1` in flight on it, and the key set that the
identity provider publishes at the moment. -/
structure Verifying (Key : Type) where
  coseKeysUrl : Option String
  keys : Table (List UInt8) Key
  lastFetch : Option Nat
  published : List UInt8
  calls : Nat → Option (SignCheck Key)
  nextId : Nat

/-- `claim` carries both readings of the clock: the one `elapsed` makes and the one that is
stamped. -/
inductive VerifyEvent
  | publish (body : List UInt8)
  | verify (sign1 : CoseSign1)
  | cancel (id : Nat)
  | lookUp (id : Nat)
  | claim (id now stamp : Nat)
  | answer (id : Nat)
  | fail (id : Nat) (failure : FetchFailure)
  | receive (id : Nat)
  | install (id : Nat)
  | lookAgain (id : Nat)

inductive VerifyNotice
  | limited (id now last : Nat)
  | claimed (id stamp : Nat)
  | installed (id : Nat)
  | returned (id : Nat) (sign1 : CoseSign1) (result : Except TokenError Unit)
  deriving DecidableEq

def VerifyNotice.id : VerifyNotice → Nat
  | .limited id _ _ | .claimed id _ | .installed id | .returned id _ _ => id

namespace Verifying

variable {Key : Type}

def setCall (verifying : Verifying Key) (id : Nat) (call : Option (SignCheck Key)) : Verifying Key :=
  { verifying with calls := Function.update verifying.calls id call }

def goOn (verifying : Verifying Key) (id : Nat) (sign1 : CoseSign1) (phase : CheckPhase Key) :
    Verifying Key :=
  verifying.setCall id (some ⟨sign1, phase⟩)

variable (platform : AuthPlatform Key)

def finish (verifying : Verifying Key) (id : Nat) (sign1 : CoseSign1)
    (result : Except TokenError Unit) : Verifying Key × List VerifyNotice :=
  (verifying.setCall id none, [.returned id sign1 result])

def verify (verifying : Verifying Key) (sign1 : CoseSign1) : Verifying Key × List VerifyNotice :=
  match checkHeader sign1 with
  | .error why =>
      ({ verifying with nextId := verifying.nextId + 1 },
        [.returned verifying.nextId sign1 (.error why)])
  | .ok _ =>
      ({ verifying.goOn verifying.nextId sign1 .looking with nextId := verifying.nextId + 1 }, [])

def lookUp (verifying : Verifying Key) (id : Nat) (sign1 : CoseSign1) :
    Verifying Key × List VerifyNotice :=
  match verifying.keys.get sign1.header.keyId with
  | some key => verifying.finish id sign1 (checkSignature platform key sign1)
  | none => (verifying.goOn id sign1 .refreshing, [])

/-- `refresh_keys` up to the fetch: claim the slot under the write lock, unless the last claim is
younger than the interval. A static key set has nothing to refresh. -/
def claimSlot (verifying : Verifying Key) (id : Nat) (sign1 : CoseSign1) (now stamp : Nat) :
    Verifying Key × List VerifyNotice :=
  match verifying.coseKeysUrl with
  | none => (verifying.goOn id sign1 .lookingAgain, [])
  | some url =>
      match verifying.lastFetch.filter fun last => now - last < keyRefreshMinInterval with
      | some last => (verifying.goOn id sign1 .lookingAgain, [.limited id now last])
      | none =>
          ({ verifying.goOn id sign1 (.fetching url) with lastFetch := some stamp },
            [.claimed id stamp])

def receive (verifying : Verifying Key) (id : Nat) (sign1 : CoseSign1) (body : List UInt8) :
    Verifying Key × List VerifyNotice :=
  match parseCoseKeySet platform body with
  | .error why => verifying.finish id sign1 (.error (.keySet ("parse key set: " ++ why)))
  | .ok keys => (verifying.goOn id sign1 (.installing keys), [])

def lookAgain (verifying : Verifying Key) (id : Nat) (sign1 : CoseSign1) :
    Verifying Key × List VerifyNotice :=
  match verifying.keys.get sign1.header.keyId with
  | some key => verifying.finish id sign1 (checkSignature platform key sign1)
  | none => verifying.finish id sign1 (.error .unknownKid)

def advance (verifying : Verifying Key) (call : SignCheck Key) :
    VerifyEvent → Option (Verifying Key × List VerifyNotice)
  | .cancel id => some (verifying.setCall id none, [])
  | .lookUp id =>
      match call.phase with
      | .looking => some (verifying.lookUp platform id call.sign1)
      | _ => none
  | .claim id now stamp =>
      match call.phase with
      | .refreshing => some (verifying.claimSlot id call.sign1 now stamp)
      | _ => none
  | .answer id =>
      match call.phase with
      | .fetching _ => some (verifying.goOn id call.sign1 (.received verifying.published), [])
      | _ => none
  | .fail id failure =>
      match call.phase with
      | .fetching url => some (verifying.finish id call.sign1 (.error (.keySet (failure.why url))))
      | _ => none
  | .receive id =>
      match call.phase with
      | .received body => some (verifying.receive platform id call.sign1 body)
      | _ => none
  | .install id =>
      match call.phase with
      | .installing keys =>
          some ({ verifying.goOn id call.sign1 .lookingAgain with keys := Table.ofPairs keys },
            [.installed id])
      | _ => none
  | .lookAgain id =>
      match call.phase with
      | .lookingAgain => some (verifying.lookAgain platform id call.sign1)
      | _ => none
  | .publish _ | .verify _ => none

end Verifying

def VerifyEvent.call : VerifyEvent → Option Nat
  | .publish _ | .verify _ => none
  | .cancel id | .lookUp id | .claim id _ _ | .answer id | .fail id _ | .receive id | .install id
  | .lookAgain id => some id

/-- Any number of verifications on one verifier, interleaved at their awaits with one another and
with the key rotations of the provider. -/
def verifierMachine {Key : Type} (platform : AuthPlatform Key) :
    Machine (Verifying Key) VerifyEvent VerifyNotice where
  next verifying
    | .publish body => some ({ verifying with published := body }, [])
    | .verify sign1 => some (verifying.verify sign1)
    | event => (event.call.bind verifying.calls).bind fun call =>
        verifying.advance platform call event

end TdfIrohS3
