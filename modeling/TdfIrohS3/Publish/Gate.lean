import Mathlib.Data.List.MinMax
import TdfIrohS3.Publish.Decision

namespace TdfIrohS3

open Library

structure EndpointId where
  bytes : List UInt8
  length : bytes.length = 32
  deriving DecidableEq

namespace EndpointId

def toString (endpoint : EndpointId) : String := Text.hexEncode endpoint.bytes

theorem toString_injective : Function.Injective toString := by
  rintro ⟨left, leftLength⟩ ⟨right, rightLength⟩ same
  have bytes : left = right := Text.hexEncode_injective same
  subst bytes
  rfl

end EndpointId

/-- A stored publish session; `expiresAt` is in Unix seconds. -/
structure SessionRecord where
  endpointId : String
  subject : String
  expiresAt : Int
  chain : Option (List StoredEntity)
  deriving DecidableEq, Repr

/-- What the session store holds under an endpoint: the record as the exact text that was tagged,
the tag in hex and the ID of its key. -/
structure SealedRecord where
  kid : String
  record : String
  tag : String
  deriving DecidableEq, Repr

/-- The code this one calls and does not contain: BLAKE3, iroh's keys and signatures, and the JSON
texts of the two records. -/
structure Platform where
  blake3 : List UInt8 → List UInt8
  deriveKey : String → List UInt8 → List UInt8
  keyedHash : List UInt8 → List UInt8 → List UInt8
  endpointFromStr : String → Option EndpointId
  verify : EndpointId → List UInt8 → List UInt8 → Bool
  sessionJson : SessionRecord → String
  readSession : String → Option SessionRecord
  sealedJson : SealedRecord → List UInt8
  readSealed : List UInt8 → Option SealedRecord

def utf8 (text : String) : List UInt8 := text.toUTF8.toList

structure RecordKey where
  key : List UInt8
  kid : String
  deriving DecidableEq, Repr

namespace RecordKey

def context : String := "tdf-iroh-s3 2026-11-01 publish-session record tag v1"

def derive (platform : Platform) (secret : List UInt8) : RecordKey :=
  let key := platform.deriveKey context secret
  { key := key, kid := Text.hexEncode ((platform.blake3 key).take 8) }

def tag (platform : Platform) (key : RecordKey) (record : String) : List UInt8 :=
  platform.keyedHash key.key (utf8 record)

end RecordKey

def nanos : Nat := 1000000000

def unixLimit : Nat := 9223372036854775808 * nanos

theorem unixLimit_pos : 0 < unixLimit := Nat.mul_pos (Nat.succ_pos _) (Nat.succ_pos _)

def unixAt (since : Nat) : Fin unixLimit := ⟨since % unixLimit, Nat.mod_lt _ unixLimit_pos⟩

/-- One reading of the two clocks, in nanoseconds: the monotonic one and the time since the Unix
epoch. -/
structure Clock where
  instant : Nat
  unix : Fin unixLimit
  deriving DecidableEq, Repr

def nowSecs (clock : Clock) : Int := ((clock.unix.val / nanos : Nat) : Int)

theorem nowSecs_nonneg (clock : Clock) : 0 ≤ nowSecs clock := Int.natCast_nonneg _

theorem nowSecs_lt (clock : Clock) : nowSecs clock < 9223372036854775808 := by
  have below : clock.unix.val < unixLimit := clock.unix.isLt
  simp only [nowSecs, unixLimit, nanos] at *
  omega

/-- Signed 64-bit arithmetic, as a build without overflow checks does it. -/
def wrappingAdd (left right : Int) : Int := (left + right).bmod Int64.size

def wrappingSub (left right : Int) : Int := (left - right).bmod Int64.size

theorem bmod_spec (n : Int) :
    ∃ turns, n.bmod Int64.size = n + turns * 18446744073709551616 ∧
      -9223372036854775808 ≤ n.bmod Int64.size ∧ n.bmod Int64.size < 9223372036854775808 := by
  have positive : 0 < Int64.size := by decide
  refine ⟨-Int.bdiv n Int64.size, ?_, ?_, ?_⟩
  · have whole := Int.bmod_add_bdiv n Int64.size
    simp only [Int64.size] at *
    omega
  · have low := Int.le_bmod (x := n) positive
    simp only [Int64.size] at *
    omega
  · have high := Int.bmod_lt (x := n) positive
    simp only [Int64.size] at *
    omega

structure Session where
  subject : String
  expires : Nat
  chain : Option (List StoredEntity)
  deriving DecidableEq, Repr

abbrev HeldSession := String × Option (List StoredEntity)

def sessionLookups : Nat := 16

def sessionMissTtl : Nat := 10 * nanos

def sessionMisses : Nat := 4096

structure PublishGate where
  moderation : Moderation
  sessions : Table EndpointId Session
  connections : Table Nat EndpointId
  /-- Whether the gate has a session store. -/
  store : Bool
  /-- Look-ups that may still start. -/
  lookups : Nat
  misses : Table EndpointId Nat
  decider : PublishDecider
  sessionTtl : Nat
  recordKey : Option RecordKey

inductive PushRefusal
  | noSession
  | suspended
  | blocked
  deriving DecidableEq, Repr

inductive StoreAnswer
  | found (body : List UInt8)
  | absent
  | failed
  | timedOut
  deriving DecidableEq, Repr

namespace PublishGate

def new (moderation : Moderation) : PublishGate where
  moderation := moderation
  sessions := Table.empty
  connections := Table.empty
  store := false
  lookups := sessionLookups
  misses := Table.empty
  decider := { mode := .local, provider := false, entitlement := defaultPublishEntitlement,
               environment := none }
  sessionTtl := 900 * nanos
  recordKey := none

def withSessionTtl (gate : PublishGate) (ttl : Nat) : PublishGate := { gate with sessionTtl := ttl }

def withDecider (gate : PublishGate) (decider : PublishDecider) : PublishGate :=
  { gate with decider := decider }

def withSessionStore (gate : PublishGate) : PublishGate := { gate with store := true }

def setSessionKey (platform : Platform) (gate : PublishGate) (secret : List UInt8) : PublishGate :=
  match gate.recordKey with
  | some _ => gate
  | none => { gate with recordKey := some (RecordKey.derive platform secret) }

def sealRaw (platform : Platform) (gate : PublishGate) (record : String) : Option (List UInt8) :=
  gate.recordKey.map fun key =>
    platform.sealedJson
      { kid := key.kid, record := record, tag := Text.hexEncode (key.tag platform record) }

def sealRecord (platform : Platform) (gate : PublishGate) (record : SessionRecord) :
    Option (List UInt8) :=
  gate.sealRaw platform (platform.sessionJson record)

/-- Whether a sealed record carries this key's tag. The tag is 32 bytes in hex. -/
def tagged (platform : Platform) (key : RecordKey) (body : SealedRecord) : Bool :=
  body.kid == key.kid &&
    match Text.hexDecode body.tag with
    | some tag => tag.length == 32 && tag == key.tag platform body.record
    | none => false

def unsealRecord (platform : Platform) (gate : PublishGate) (body : List UInt8) :
    Option SessionRecord :=
  match gate.recordKey with
  | none => none
  | some key =>
      match platform.readSealed body with
      | none => none
      | some stored =>
          if tagged platform key stored then platform.readSession stored.record else none

def openSessionWithChain (gate : PublishGate) (clock : Clock) (endpoint : EndpointId)
    (subject : String) (ttl : Nat) (chain : Option (List StoredEntity)) : PublishGate :=
  let live := gate.sessions.retain fun _ session => decide (session.expires > clock.instant)
  { gate with
    sessions := live.insert endpoint
      { subject := canonicalSubject subject, expires := clock.instant + ttl, chain := chain } }

def connected (gate : PublishGate) (connection : Nat) (endpoint : Option EndpointId) :
    PublishGate :=
  match endpoint with
  | some e => { gate with connections := gate.connections.insert connection e }
  | none => gate

def closed (gate : PublishGate) (connection : Nat) : PublishGate :=
  { gate with connections := gate.connections.remove connection }

def heldSession (gate : PublishGate) (clock : Clock) (endpoint : EndpointId) :
    Option HeldSession :=
  match gate.sessions.get endpoint with
  | some session =>
      if session.expires > clock.instant then some (session.subject, session.chain) else none
  | none => none

def recentlyMissed (gate : PublishGate) (clock : Clock) (endpoint : EndpointId) : Bool :=
  match gate.misses.get endpoint with
  | some at_ => decide (clock.instant - at_ < sessionMissTtl)
  | none => false

def oldestMiss (misses : Table EndpointId Nat) : Option EndpointId :=
  (misses.pairs.argmin fun entry => entry.2).map fun entry => entry.1

def missed (gate : PublishGate) (clock : Clock) (endpoint : EndpointId) : PublishGate :=
  let kept :=
    if gate.misses.len ≥ sessionMisses then
      gate.misses.retain fun _ at_ => decide (clock.instant - at_ < sessionMissTtl)
    else gate.misses
  let bounded :=
    if kept.len ≥ sessionMisses then
      match oldestMiss kept with
      | some oldest => kept.remove oldest
      | none => kept
    else kept
  { gate with misses := bounded.insert endpoint clock.instant }

/-- The record a look-up for `endpoint` accepts: the tag is this node's, it names this endpoint and
it has whole seconds left. -/
def acceptedRecord (platform : Platform) (gate : PublishGate) (clock : Clock)
    (endpoint : EndpointId) (answer : StoreAnswer) : Option SessionRecord :=
  match answer with
  | .found body =>
      match gate.unsealRecord platform body with
      | some record =>
          if record.endpointId ≠ endpoint.toString ∨
              wrappingSub record.expiresAt (nowSecs clock) ≤ 0 then none
          else some record
      | none => none
  | _ => none

def readBackTtl (gate : PublishGate) (clock : Clock) (record : SessionRecord) : Nat :=
  min ((wrappingSub record.expiresAt (nowSecs clock)).toNat * nanos) gate.sessionTtl

def lookUp (platform : Platform) (gate : PublishGate) (clock : Clock) (endpoint : EndpointId)
    (answer : StoreAnswer) : PublishGate × Option HeldSession :=
  match gate.acceptedRecord platform clock endpoint answer with
  | none => (gate, none)
  | some record =>
      (gate.openSessionWithChain clock endpoint record.subject (gate.readBackTtl clock record)
          record.chain,
        some (canonicalSubject record.subject, record.chain))

/-- In `pdp` a session pushes only with a stored chain whose person is its subject. -/
def decidedSession (gate : PublishGate) (subject : String) (chain : Option (List StoredEntity)) :
    Except PushRefusal Unit :=
  if gate.decider.mode ≠ .pdp then .ok ()
  else
    match chain with
    | none => .error .noSession
    | some chain =>
        match chainSubject chain with
        | none => .error .noSession
        | some person =>
            if canonicalSubject person ≠ canonicalSubject subject then .error .noSession else .ok ()

def pushDecision (gate : PublishGate) (hashHex : String) (endpoint : EndpointId)
    (held : HeldSession) : Except PushRefusal (String × EndpointId) :=
  if gate.moderation.isSuspended held.1 then .error .suspended
  else if gate.moderation.isBlocked hashHex then .error .blocked
  else
    match gate.decidedSession held.1 held.2 with
    | .error refusal => .error refusal
    | .ok _ => .ok (held.1, endpoint)

inductive PushStart
  | answered (endpoint : Option EndpointId) (answer : Except PushRefusal (String × EndpointId))
  | lookingUp (endpoint : EndpointId)

def authorizePush (gate : PublishGate) (clock : Clock) (connection : Nat) (hashHex : String) :
    PushStart :=
  match gate.connections.get connection with
  | none => .answered none (.error .noSession)
  | some endpoint =>
      match gate.heldSession clock endpoint with
      | some held => .answered (some endpoint) (gate.pushDecision hashHex endpoint held)
      | none =>
          if gate.store = false ∨ gate.recentlyMissed clock endpoint ∨ gate.lookups = 0 then
            .answered (some endpoint) (.error .noSession)
          else .lookingUp endpoint

def acquire (gate : PublishGate) : PublishGate := { gate with lookups := gate.lookups - 1 }

def release (gate : PublishGate) : PublishGate := { gate with lookups := gate.lookups + 1 }

def authorizePushStored (platform : Platform) (gate : PublishGate) (clock : Clock)
    (endpoint : EndpointId) (hashHex : String) (answer : StoreAnswer) :
    PublishGate × Except PushRefusal (String × EndpointId) :=
  match gate.lookUp platform clock endpoint answer with
  | (after, some held) => (after.release, after.pushDecision hashHex endpoint held)
  | (after, none) => ((after.missed clock endpoint).release, .error .noSession)

section Specifications

variable {platform : Platform} {gate : PublishGate} {clock : Clock} {endpoint : EndpointId}

/-- A session in memory after an opening is the opened one, or was there and another endpoint's. -/
theorem get_openSessionWithChain {subject : String} {ttl : Nat}
    {chain : Option (List StoredEntity)} {other : EndpointId} {session : Session}
    (held : (gate.openSessionWithChain clock endpoint subject ttl chain).sessions.get other =
      some session) :
    (other = endpoint ∧ session = ⟨canonicalSubject subject, clock.instant + ttl, chain⟩) ∨
      (other ≠ endpoint ∧ gate.sessions.get other = some session) := by
  simp only [openSessionWithChain] at held
  rw [Table.get_insert] at held
  split at held
  · rename_i same
    exact .inl ⟨same, (Option.some.inj held).symm⟩
  · rename_i different
    exact .inr ⟨different, ((Table.get_retain_eq_some_iff ..).mp held).1⟩

theorem heldSession_eq_some {held : HeldSession} (live : gate.heldSession clock endpoint = some held) :
    ∃ session, gate.sessions.get endpoint = some session ∧ clock.instant < session.expires ∧
      held = (session.subject, session.chain) := by
  unfold heldSession at live
  split at live
  · rename_i session found
    split at live
    · rename_i unexpired
      exact ⟨session, found, unexpired, (Option.some.inj live).symm⟩
    · cases live
  · cases live

theorem unsealRecord_eq_some {body : List UInt8} {record : SessionRecord}
    (opened : gate.unsealRecord platform body = some record) :
    ∃ key stored, gate.recordKey = some key ∧ platform.readSealed body = some stored ∧
      tagged platform key stored = true ∧ platform.readSession stored.record = some record := by
  unfold unsealRecord at opened
  split at opened
  · cases opened
  · rename_i key keyed
    split at opened
    · cases opened
    · rename_i stored parsed
      split at opened
      · rename_i valid
        exact ⟨key, stored, keyed, parsed, valid, opened⟩
      · cases opened

theorem acceptedRecord_eq_some {answer : StoreAnswer} {record : SessionRecord}
    (found : gate.acceptedRecord platform clock endpoint answer = some record) :
    ∃ body, answer = .found body ∧ gate.unsealRecord platform body = some record ∧
      record.endpointId = endpoint.toString ∧
      0 < wrappingSub record.expiresAt (nowSecs clock) := by
  unfold acceptedRecord at found
  split at found
  · rename_i body
    split at found
    · rename_i read opened
      split at found
      · cases found
      · rename_i kept
        obtain rfl := Option.some.inj found
        have named : read.endpointId = endpoint.toString := by
          by_contra other
          exact kept (.inl other)
        have left : ¬wrappingSub read.expiresAt (nowSecs clock) ≤ 0 := fun past => kept (.inr past)
        exact ⟨body, rfl, opened, named, Int.not_le.mp left⟩
    · cases found
  · cases found

end Specifications

end PublishGate

end TdfIrohS3
