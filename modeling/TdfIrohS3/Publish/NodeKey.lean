import TdfIrohS3.Library.Machine
import TdfIrohS3.Publish.Gate

namespace TdfIrohS3

open Library

@[ext] structure SecretKey where
  bytes : List UInt8
  length : bytes.length = 32
  deriving Repr

instance : DecidableEq SecretKey := fun one two =>
  decidable_of_iff (one.bytes = two.bytes) SecretKey.ext_iff.symm

def SecretKey.ofValue (value : String) : Except String SecretKey :=
  match Text.hexDecode value with
  | none => .error "SSM parameter is not valid hex"
  | some bytes =>
      if length : bytes.length = 32 then .ok ⟨bytes, length⟩
      else .error ("Expected 32 bytes, got " ++ toString bytes.length)

def SecretKey.value (key : SecretKey) : String := Text.hexEncode key.bytes

theorem SecretKey.ofValue_value (key : SecretKey) : SecretKey.ofValue key.value = .ok key := by
  rw [ofValue, value, Text.hexDecode_hexEncode]
  exact dif_pos key.length

inductive GetParameter
  | output (value : Option String)
  | parameterNotFound
  | failed
  deriving DecidableEq, Repr

inductive ReadOutcome
  | answered
  | valueless
  | failed
  deriving DecidableEq, Repr

/-- How a write of the parameter goes; `lost` is one that was made and whose answer did not come. -/
inductive WriteOutcome
  | answered
  | failed
  | lost
  deriving DecidableEq, Repr

inductive LoadPhase
  | getting
  | putting (key : SecretKey)
  deriving DecidableEq, Repr

structure KeyStore where
  parameter : Option String
  calls : Nat → Option LoadPhase
  nextId : Nat

inductive KeyEvent
  | start
  | got (id : Nat) (outcome : ReadOutcome) (generated : SecretKey)
  | put (id : Nat) (outcome : WriteOutcome)
  | crashed (id : Nat)

inductive KeyNotice
  | returned (id : Nat) (result : Except String SecretKey)
  deriving DecidableEq

namespace KeyStore

def setCall (store : KeyStore) (id : Nat) (phase : Option LoadPhase) : KeyStore :=
  { store with calls := Function.update store.calls id phase }

def finish (store : KeyStore) (id : Nat) (result : Except String SecretKey) :
    KeyStore × List KeyNotice :=
  (store.setCall id none, [.returned id result])

def getParameter (store : KeyStore) : ReadOutcome → GetParameter
  | .answered =>
      match store.parameter with
      | some value => .output (some value)
      | none => .parameterNotFound
  | .valueless => .output none
  | .failed => .failed

/-- `put_parameter` without `overwrite`: a parameter that exists stays as it is. -/
def putParameter (store : KeyStore) (value : String) : KeyStore :=
  { store with parameter := some (store.parameter.getD value) }

def loaded (store : KeyStore) (id : Nat) (generated : SecretKey) :
    GetParameter → KeyStore × List KeyNotice
  | .output (some value) => store.finish id (SecretKey.ofValue value)
  | .output none => store.finish id (.error "SSM parameter has no value")
  | .parameterNotFound => (store.setCall id (some (.putting generated)), [])
  | .failed => store.finish id (.error "Failed to get secret key from SSM")

def created (store : KeyStore) (id : Nat) (key : SecretKey) :
    WriteOutcome → KeyStore × List KeyNotice
  | .answered =>
      if store.parameter.isNone then (store.putParameter key.value).finish id (.ok key)
      else store.finish id (.error "Failed to store secret key in SSM")
  | .failed => store.finish id (.error "Failed to store secret key in SSM")
  | .lost =>
      (store.putParameter key.value).finish id (.error "Failed to store secret key in SSM")

def next (store : KeyStore) : KeyEvent → Option (KeyStore × List KeyNotice)
  | .start =>
      some ({ store.setCall store.nextId (some .getting) with nextId := store.nextId + 1 }, [])
  | .got id outcome generated =>
      match store.calls id with
      | some .getting => some (store.loaded id generated (store.getParameter outcome))
      | _ => none
  | .put id outcome =>
      match store.calls id with
      | some (.putting key) => some (store.created id key outcome)
      | _ => none
  | .crashed id =>
      match store.calls id with
      | some _ => some (store.setCall id none, [])
      | none => none

end KeyStore

def keyMachine : Machine KeyStore KeyEvent KeyNotice := ⟨KeyStore.next⟩

namespace KeyStore

variable {store after : KeyStore} {event : KeyEvent} {notices : List KeyNotice}

structure Effect (store after : KeyStore) (notices : List KeyNotice) : Prop where
  kept : ∀ value, store.parameter = some value → after.parameter = some value
  returned : ∀ id key, .returned id (.ok key) ∈ notices →
    ∃ value, after.parameter = some value ∧ SecretKey.ofValue value = .ok key

theorem putParameter_kept (store : KeyStore) (written value : String)
    (held : store.parameter = some value) :
    (store.putParameter written).parameter = some value := by
  simp [putParameter, held]

theorem finish_error_effect (kept : ∀ value, store.parameter = some value →
      after.parameter = some value) (id : Nat) (why : String) :
    Effect store (after.finish id (.error why)).1 (after.finish id (.error why)).2 where
  kept := kept
  returned := by
    intro other key member
    simp [finish] at member

theorem loaded_effect (store : KeyStore) (id : Nat) (generated : SecretKey)
    (outcome : ReadOutcome) :
    Effect store (store.loaded id generated (store.getParameter outcome)).1
      (store.loaded id generated (store.getParameter outcome)).2 := by
  cases outcome with
  | answered =>
      cases held : store.parameter with
      | none =>
          simp only [getParameter, held, loaded]
          exact ⟨fun _ same => same, fun _ _ member => absurd member List.not_mem_nil⟩
      | some value =>
          simp only [getParameter, held, loaded]
          refine ⟨fun _ same => same, ?_⟩
          intro other key member
          simp only [finish, List.mem_singleton, KeyNotice.returned.injEq] at member
          exact ⟨value, held, member.2.symm⟩
  | valueless => exact finish_error_effect (fun _ same => same) id _
  | failed => exact finish_error_effect (fun _ same => same) id _

theorem created_effect (store : KeyStore) (id : Nat) (key : SecretKey) (outcome : WriteOutcome) :
    Effect store (store.created id key outcome).1 (store.created id key outcome).2 := by
  cases outcome with
  | answered =>
      cases held : store.parameter with
      | none =>
          have stored : store.created id key .answered =
              (store.putParameter key.value).finish id (.ok key) := by
            simp [created, held]
          rw [stored]
          refine ⟨putParameter_kept store key.value, ?_⟩
          intro other returned member
          simp only [finish, List.mem_singleton, KeyNotice.returned.injEq, Except.ok.injEq] at member
          refine ⟨key.value, by simp [finish, setCall, putParameter, held], ?_⟩
          rw [member.2, SecretKey.ofValue_value]
      | some value =>
          have refused : store.created id key .answered =
              store.finish id (.error "Failed to store secret key in SSM") := by
            simp [created, held]
          rw [refused]
          exact finish_error_effect (fun _ same => same) id _
  | failed => exact finish_error_effect (fun _ same => same) id _
  | lost => exact finish_error_effect (putParameter_kept store key.value) id _

theorem effect_of_moved {moved : KeyStore × List KeyNotice} (same : some moved = some (after, notices))
    (effect : Effect store moved.1 moved.2) : Effect store after notices := by
  cases Option.some.inj same
  exact effect

theorem machine_effect (taken : keyMachine.next store event = some (after, notices)) :
    Effect store after notices := by
  have quiet : ∀ moved : KeyStore, moved.parameter = store.parameter → Effect store moved [] := by
    intro moved same
    exact ⟨fun _ held => same.trans held, fun _ _ member => absurd member List.not_mem_nil⟩
  cases event with
  | start =>
      cases taken
      exact quiet _ rfl
  | got id outcome generated =>
      simp only [keyMachine, next] at taken
      split at taken
      · exact effect_of_moved taken (loaded_effect store id generated outcome)
      · cases taken
  | put id outcome =>
      simp only [keyMachine, next] at taken
      split at taken
      · exact effect_of_moved taken (created_effect store id _ outcome)
      · cases taken
  | crashed id =>
      simp only [keyMachine, next] at taken
      split at taken
      · cases taken
        exact quiet _ rfl
      · cases taken

/-- Every key that was returned is the one stored. -/
theorem returned_stored {first last : KeyStore} {log : List KeyNotice}
    {allowed : List KeyNotice → KeyStore → KeyEvent → Prop}
    (run : keyMachine.Run allowed [] first log last) :
    ∀ id key, .returned id (.ok key) ∈ log →
      ∃ value, last.parameter = some value ∧ SecretKey.ofValue value = .ok key := by
  refine run.invariant (fun log store => ∀ id key, .returned id (.ok key) ∈ log →
      ∃ value, store.parameter = some value ∧ SecretKey.ofValue value = .ok key) ?_ ?_
  · intro id key member
    exact absurd member List.not_mem_nil
  · intro log store event after notices held _ taken id key member
    have effect := machine_effect taken
    rcases List.mem_append.mp member with here | earlier
    · exact effect.returned id key here
    · obtain ⟨value, stored, spells⟩ := held id key earlier
      exact ⟨value, effect.kept value stored, spells⟩

theorem parameter_kept {first last : KeyStore} {log before : List KeyNotice}
    {allowed : List KeyNotice → KeyStore → KeyEvent → Prop} {value : String}
    (run : keyMachine.Run allowed before first log last) (held : first.parameter = some value) :
    last.parameter = some value :=
  run.state_invariant (fun store => store.parameter = some value) held
    fun _ _ _ _ _ stored _ taken => (machine_effect taken).kept value stored

end KeyStore

section Sealing

/-- What is documented of BLAKE3 and of the JSON texts: a keyed hash is 32 bytes, and a text parses
back to the record it was written for. -/
structure FaithfulCodec (platform : Platform) : Prop where
  hashed : ∀ key bytes, (platform.keyedHash key bytes).length = 32
  sealedBack : ∀ stored, platform.readSealed (platform.sealedJson stored) = some stored
  sessionBack : ∀ record, platform.readSession (platform.sessionJson record) = some record

theorem unsealRecord_sealRecord {platform : Platform} (faithful : FaithfulCodec platform)
    {sealing opening : PublishGate} {key : RecordKey} (sealed : sealing.recordKey = some key)
    (opened : opening.recordKey = some key) {record : SessionRecord} {body : List UInt8}
    (stored : sealing.sealRecord platform record = some body) :
    opening.unsealRecord platform body = some record := by
  simp only [PublishGate.sealRecord, PublishGate.sealRaw, sealed, Option.map_some,
    Option.some.injEq] at stored
  have tagged : PublishGate.tagged platform key
      { kid := key.kid, record := platform.sessionJson record,
        tag := Text.hexEncode (key.tag platform (platform.sessionJson record)) } = true := by
    simp [PublishGate.tagged, Text.hexDecode_hexEncode, RecordKey.tag, faithful.hashed]
  rw [← stored]
  simp only [PublishGate.unsealRecord, opened, faithful.sealedBack, tagged, if_true,
    faithful.sessionBack]

theorem setSessionKey_fresh (platform : Platform) {gate : PublishGate}
    (fresh : gate.recordKey = none) (secret : List UInt8) :
    (gate.setSessionKey platform secret).recordKey = some (RecordKey.derive platform secret) := by
  simp [PublishGate.setSessionKey, fresh]

end Sealing

/-- All instances agree on one node key, whatever the order of their reads and writes and whichever
of them fail; a record that one of them seals opens at every other. -/
theorem one_node_key {first last : KeyStore} {log : List KeyNotice}
    (run : keyMachine.Run (fun _ _ _ => True) [] first log last) :
    (∀ id key, .returned id (.ok key) ∈ log →
      ∃ value, last.parameter = some value ∧ SecretKey.ofValue value = .ok key) ∧
    (∀ id key id' key', .returned id (.ok key) ∈ log → .returned id' (.ok key') ∈ log →
      key = key' ∧
      ∀ platform, FaithfulCodec platform → ∀ sealing opening : PublishGate,
        sealing.recordKey = none → opening.recordKey = none → ∀ record body,
          (sealing.setSessionKey platform key.bytes).sealRecord platform record = some body →
          (opening.setSessionKey platform key'.bytes).unsealRecord platform body = some record) ∧
    ∀ value, first.parameter = some value → last.parameter = some value := by
  have stored := KeyStore.returned_stored run
  refine ⟨stored, ?_, fun _ held => KeyStore.parameter_kept run held⟩
  intro id key id' key' one two
  have same : key = key' := by
    obtain ⟨value, held, spells⟩ := stored id key one
    obtain ⟨value', held', spells'⟩ := stored id' key' two
    cases held.symm.trans held'
    exact Except.ok.inj (spells.symm.trans spells')
  refine ⟨same, ?_⟩
  intro platform faithful sealing opening fresh fresh' record body sealed
  rw [← same]
  exact unsealRecord_sealRecord faithful (setSessionKey_fresh platform fresh key.bytes)
    (setSessionKey_fresh platform fresh' key.bytes) sealed

section Race

def repeated (byte : UInt8) : SecretKey := ⟨List.replicate 32 byte, List.length_replicate⟩

def firstBoots : List KeyEvent :=
  [.start, .start, .got 0 .answered (repeated 1), .got 1 .answered (repeated 2), .put 1 .answered,
    .put 0 .answered, .start, .got 2 .answered (repeated 3)]

def bootsShown (log : List KeyNotice) (_ : KeyStore) : Bool :=
  decide (.returned 1 (.ok (repeated 2)) ∈ log) &&
    log.any fun
      | .returned id result => id == 2 && result.isOk

theorem one_node_key_first_boots :
    ∃ log last, keyMachine.Run (fun _ _ _ => True) [] ⟨none, fun _ => none, 0⟩ log last ∧
      .returned 1 (.ok (repeated 2)) ∈ log ∧ .returned 2 (.ok (repeated 2)) ∈ log := by
  have executed : (keyMachine.execute (fun _ _ _ => true) firstBoots []
      ⟨none, fun _ => none, 0⟩).map (fun ended => bootsShown ended.1 ended.2) = some true := by
    decide +kernel
  obtain ⟨log, last, run, shown⟩ :=
    Machine.execute_reaches (fun _ _ _ _ => trivial) firstBoots bootsShown executed
  simp only [bootsShown, Bool.and_eq_true, decide_eq_true_eq, List.any_eq_true] at shown
  obtain ⟨created, ⟨id, result⟩, loaded, two, fine⟩ := shown
  obtain ⟨key, rfl⟩ := ok_of_isOk fine
  have same := ((one_node_key run).2.1 1 (repeated 2) id key created loaded).1
  have third : id = 2 := beq_iff_eq.mp two
  rw [← same, third] at loaded
  exact ⟨log, last, run, created, loaded⟩

end Race

end TdfIrohS3
