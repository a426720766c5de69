import TdfIrohS3.Library.Chunks
import TdfIrohS3.Library.Machine

namespace TdfIrohS3

open Library

inductive BodyTrouble
  | failed
  | stalled
  deriving DecidableEq, Repr

inductive ReadError
  | timedOut (why : String)
  | notFound (why : String)
  | unexpectedEof
  | other (why : String)
  deriving DecidableEq, Repr

abbrev Body := Chunked UInt8 BodyTrouble

inductive GetAnswer
  | body (arrivals : List (Arrival UInt8 BodyTrouble))
  | noSuchKey
  | failed
  | noResponse
  deriving DecidableEq, Repr

/-- The `Range` of a GET from `start` on. From 0 all of the object is asked for. -/
def rangeFrom (start : Nat) : Option String :=
  if start > 0 then some ("bytes=" ++ toString start ++ "-") else none

/-- `get_object_from`, with the wait for it. S3 answers by the range it is asked for. -/
def getObjectFrom (s3 : Option String → GetAnswer) (key : String) (start : Nat) :
    Except ReadError Body :=
  match s3 (rangeFrom start) with
  | .body arrivals => .ok ⟨arrivals, 0⟩
  | .noSuchKey => .error (.notFound (key ++ " is not in S3"))
  | .failed => .error (.other ("Failed to GET " ++ key ++ " from S3"))
  | .noResponse => .error (.timedOut "S3 GET got no response")

def BodyTrouble.error : BodyTrouble → ReadError
  | .failed => .other "body failed"
  | .stalled => .timedOut "S3 GET stalled"

def readExact (len : Nat) (body : Body) : Except ReadError (List UInt8) × Body :=
  if len = 0 then (.ok [], body)
  else
    match body.read len with
    | (.error trouble, body) => (.error trouble.error, body)
    | (.ok [], body) => (.error .unexpectedEof, body)
    | (.ok (byte :: chunk), body) =>
        let filled := readExact (len - (byte :: chunk).length) body
        (filled.1.map fun bytes => byte :: chunk ++ bytes, filled.2)
termination_by len
decreasing_by
  simp only [List.length_cons]
  omega

structure OpenGet where
  pos : Nat
  /-- Where the GET started. -/
  start : Nat
  body : Body
  deriving DecidableEq, Repr

def skipLimit : Nat := 256 * 1024

def skipTo (offset : Nat) (opened : OpenGet) : Except ReadError Unit × OpenGet :=
  if opened.pos < offset then
    let skip := min (offset - opened.pos) (64 * 1024)
    match readExact skip opened.body with
    | (.error error, body) => (.error error, { opened with body })
    | (.ok _, body) => skipTo offset { opened with pos := opened.pos + skip, body }
  else (.ok (), opened)
termination_by offset - opened.pos

structure S3Reader where
  key : String
  size : Nat
  opened : Option OpenGet
  deriving DecidableEq, Repr

namespace S3Reader

def new (key : String) (size : Nat) : S3Reader := { key, size, opened := none }

def reusable (reader : S3Reader) (offset : Nat) : Bool :=
  reader.opened.any fun o => o.pos ≤ offset && offset - o.pos ≤ skipLimit

def bodyAt (reader : S3Reader) (s3 : Option String → GetAnswer) (offset : Nat) :
    Except ReadError OpenGet :=
  match reader.opened, reader.reusable offset with
  | some opened, true => .ok opened
  | _, _ => (getObjectFrom s3 reader.key offset).map fun body => { pos := offset, start := offset, body }

def readOpen (reader : S3Reader) (s3 : Option String → GetAnswer) (offset len : Nat) :
    Except ReadError (List UInt8 × OpenGet) :=
  match reader.bodyAt s3 offset with
  | .error error => .error error
  | .ok opened =>
      match skipTo offset opened with
      | (.error error, _) => .error error
      | (.ok _, opened) =>
          match readExact len opened.body with
          | (.error error, _) => .error error
          | (.ok bytes, body) => .ok (bytes, { opened with pos := opened.pos + len, body })

/-- `read_at`. A failed read leaves the body somewhere unknown: it is dropped. -/
def readAt (reader : S3Reader) (s3 : Option String → GetAnswer) (offset len : Nat) :
    Except ReadError (List UInt8) × S3Reader :=
  if offset ≥ reader.size ∨ len = 0 then (.ok [], reader)
  else
    match reader.readOpen s3 offset (min len (reader.size - offset)) with
    | .error error => (.error error, { reader with opened := none })
    | .ok (bytes, opened) => (.ok bytes, { reader with opened := some opened })

end S3Reader

section Position

variable {object : List UInt8}

theorem readExact_ok {len : Nat} {body after : Body} {bytes : List UInt8}
    (filled : readExact len body = (.ok bytes, after)) :
    bytes.length = len ∧ bytes ++ after.content = body.content ∧
      after.taken = body.taken + len := by
  -- the loop: what each read adds is the front of what was to come
  induction len using Nat.strongRecOn generalizing body bytes with
  | _ len ih =>
      rw [readExact] at filled
      split at filled
      · rename_i done
        cases filled
        exact ⟨done.symm, rfl, by rw [done]; rfl⟩
      · split at filled
        · cases filled
        · cases filled
        · rename_i byte chunk rest got
          have front := Chunked.read_content got
          have shorter : len - (byte :: chunk).length < len := by
            simp only [List.length_cons]
            omega
          cases more : readExact (len - (byte :: chunk).length) rest with
          | mk result left =>
              simp only [more] at filled
              cases result with
              | error error => cases filled
              | ok later =>
                  cases filled
                  have tail := ih _ shorter more
                  refine ⟨?_, ?_, ?_⟩
                  · have fits := front.1
                    rw [List.length_append, tail.1]
                    omega
                  · rw [List.append_assoc, tail.2.1, front.2.1]
                  · have fits := front.1
                    rw [tail.2.2, front.2.2]
                    omega

def Positioned (object : List UInt8) (opened : OpenGet) : Prop :=
  opened.pos = opened.start + opened.body.taken ∧
    opened.body.content <+: object.drop opened.pos

theorem positioned_readExact {opened : OpenGet} {len : Nat} {bytes : List UInt8} {body : Body}
    (stands : Positioned object opened) (filled : readExact len opened.body = (.ok bytes, body)) :
    bytes = (object.drop opened.pos).take len ∧
      Positioned object { opened with pos := opened.pos + len, body } := by
  obtain ⟨length, front, taken⟩ := readExact_ok filled
  obtain ⟨rest, whole⟩ := stands.2
  rw [← front, List.append_assoc] at whole
  have cut : (object.drop opened.pos).drop len = body.content ++ rest := by
    rw [← whole, ← length, List.drop_left]
  refine ⟨?_, ?_, rest, ?_⟩
  · rw [← whole, ← length, List.take_left]
  · change opened.pos + len = opened.start + body.taken
    rw [taken, stands.1]
    omega
  · change body.content ++ rest = object.drop (opened.pos + len)
    rw [← cut, List.drop_drop]

theorem skipTo_ok {offset : Nat} {opened after : OpenGet} (stands : Positioned object opened)
    (before : opened.pos ≤ offset) (skipped : skipTo offset opened = (.ok (), after)) :
    Positioned object after ∧ after.pos = offset := by
  induction gap : offset - opened.pos using Nat.strongRecOn generalizing opened with
  | _ distance ih =>
      rw [skipTo] at skipped
      split at skipped
      · rename_i short
        simp only at skipped
        split at skipped
        · cases skipped
        · rename_i bytes body filled
          have moved := (positioned_readExact stands filled).2
          refine ih _ ?_ moved ?_ skipped rfl
          · change offset - (opened.pos + min (offset - opened.pos) (64 * 1024)) < distance
            omega
          · change opened.pos + min (offset - opened.pos) (64 * 1024) ≤ offset
            omega
      · cases skipped
        exact ⟨stands, by omega⟩

/-- A GET from a position yields a front of the object's rest from there. -/
def Honest (object : List UInt8) (s3 : Option String → GetAnswer) : Prop :=
  ∀ start arrivals, s3 (rangeFrom start) = .body arrivals →
    arrivals.flatMap Arrival.content <+: object.drop start

theorem bodyAt_ok {reader : S3Reader} {s3 : Option String → GetAnswer} {offset : Nat}
    {opened : OpenGet} (honest : Honest object s3)
    (stands : ∀ held, reader.opened = some held → Positioned object held)
    (found : reader.bodyAt s3 offset = .ok opened) :
    Positioned object opened ∧ opened.pos ≤ offset := by
  unfold S3Reader.bodyAt at found
  split at found
  · rename_i kept near
    cases found
    have reach : opened.pos ≤ offset ∧ offset - opened.pos ≤ skipLimit := by
      simpa [S3Reader.reusable, kept] using near
    exact ⟨stands _ kept, reach.1⟩
  · -- a new GET stands where it was asked to start
    unfold getObjectFrom at found
    split at found
    · rename_i arrivals answered
      cases found
      exact ⟨⟨rfl, honest offset arrivals answered⟩, Nat.le_refl _⟩
    all_goals cases found

theorem readOpen_ok {reader : S3Reader} {s3 : Option String → GetAnswer} {offset len : Nat}
    {bytes : List UInt8} {opened : OpenGet} (honest : Honest object s3)
    (stands : ∀ held, reader.opened = some held → Positioned object held)
    (read : reader.readOpen s3 offset len = .ok (bytes, opened)) :
    bytes = (object.drop offset).take len ∧ Positioned object opened := by
  unfold S3Reader.readOpen at read
  split at read
  · cases read
  · rename_i got found
    have start := bodyAt_ok honest stands found
    split at read
    · cases read
    · rename_i there skipped
      have ready := skipTo_ok start.1 start.2 skipped
      split at read
      · cases read
      · rename_i buffer body filled
        cases read
        have got := positioned_readExact ready.1 filled
        rw [ready.2] at got
        exact ⟨got.1, ready.2 ▸ got.2⟩

def slice (object : List UInt8) (offset len : Nat) : List UInt8 :=
  (object.take (min (offset + len) object.length)).drop offset

theorem slice_eq (object : List UInt8) (offset len : Nat) :
    slice object offset len = (object.drop offset).take (min len (object.length - offset)) := by
  rw [slice, List.drop_take]
  congr 1
  omega

end Position

structure ReadCall where
  s3 : Option String → GetAnswer
  offset : Nat
  len : Nat

structure ReadNotice where
  call : ReadCall
  result : Except ReadError (List UInt8)

def readerMachine : Machine S3Reader ReadCall ReadNotice where
  next reader call :=
    let answered := reader.readAt call.s3 call.offset call.len
    some (answered.2, [⟨call, answered.1⟩])

section Access

variable {object : List UInt8} {reader : S3Reader}

structure Sound (object : List UInt8) (reader : S3Reader) : Prop where
  size : reader.size = object.length
  stands : ∀ opened, reader.opened = some opened → Positioned object opened

theorem readAt_sound (sound : Sound object reader) {s3 : Option String → GetAnswer}
    (honest : Honest object s3) (offset len : Nat) :
    Sound object (reader.readAt s3 offset len).2 ∧
      ∀ bytes, (reader.readAt s3 offset len).1 = .ok bytes → bytes = slice object offset len := by
  unfold S3Reader.readAt
  split
  · rename_i nothing
    refine ⟨sound, ?_⟩
    intro bytes answered
    cases answered
    rw [slice_eq, sound.size] at *
    have none : min len (object.length - offset) = 0 := by omega
    rw [none, List.take_zero]
  · split
    · refine ⟨⟨sound.size, ?_⟩, ?_⟩
      · intro opened held
        cases held
      · intro bytes answered
        cases answered
    · rename_i bytes opened read
      have got := readOpen_ok honest sound.stands read
      refine ⟨⟨sound.size, ?_⟩, ?_⟩
      · intro other held
        cases held
        exact got.2
      · intro other answered
        cases answered
        rw [got.1, slice_eq, sound.size]

/-- The reader is random access into the object, through every sequence of calls. -/
theorem s3Reader_random_access (key : String) (object : List UInt8) {log : List ReadNotice}
    {last : S3Reader}
    (run : readerMachine.Run (fun _ _ call => Honest object call.s3) []
      (S3Reader.new key object.length) log last) :
    (∀ notice ∈ log, ∀ bytes, notice.result = .ok bytes →
      bytes = slice object notice.call.offset notice.call.len) ∧
    (∀ opened, last.opened = some opened → Positioned object opened) ∧
    ∀ call, ∃ after notice, readerMachine.next last call = some (after, [notice]) := by
  have kept := run.invariant
    (fun log reader => Sound object reader ∧ ∀ notice ∈ log, ∀ bytes,
      notice.result = .ok bytes → bytes = slice object notice.call.offset notice.call.len)
    ⟨⟨rfl, fun _ held => by cases held⟩, fun _ member => absurd member List.not_mem_nil⟩ (by
      intro log reader call after notices held honest taken
      cases taken
      have answered := readAt_sound held.1 honest call.offset call.len
      refine ⟨answered.1, ?_⟩
      intro notice member
      rcases List.mem_cons.mp member with rfl | earlier
      · exact answered.2
      · exact held.2 notice earlier)
  exact ⟨kept.2, kept.1.stands, fun call => ⟨_, _, rfl⟩⟩

def sixBytesFrom : Option String → GetAnswer
  | none => .body [.items [1, 2], .items [3, 4, 5], .items [6]]
  | some _ => .failed

theorem sixBytesFrom_honest : Honest [1, 2, 3, 4, 5, 6] sixBytesFrom := by
  intro start arrivals answered
  cases start with
  | zero =>
      cases answered
      exact List.prefix_refl _
  | succ start =>
      simp [rangeFrom, sixBytesFrom] at answered

theorem s3Reader_random_access_six :
    let first := S3Reader.new "k" 6
    let second := (first.readAt sixBytesFrom 0 1).2
    let third := (second.readAt sixBytesFrom 3 9).2
    (second.readAt sixBytesFrom 3 9).1 = .ok [4, 5, 6] ∧
      (third.readAt sixBytesFrom 0 2).1 = .ok [1, 2] ∧
      ∀ bytes, (third.readAt sixBytesFrom 0 2).1 = .ok bytes →
        bytes = slice [1, 2, 3, 4, 5, 6] 0 2 := by
  intro first second third
  have call : ∀ log reader, readerMachine.Run (fun _ _ call => Honest [1, 2, 3, 4, 5, 6] call.s3) []
      first log reader → ∀ offset len,
      readerMachine.Run (fun _ _ call => Honest [1, 2, 3, 4, 5, 6] call.s3) [] first
        (⟨⟨sixBytesFrom, offset, len⟩, (reader.readAt sixBytesFrom offset len).1⟩ :: log)
        (reader.readAt sixBytesFrom offset len).2 := by
    intro log reader earlier offset len
    have taken : readerMachine.next reader ⟨sixBytesFrom, offset, len⟩ =
        some ((reader.readAt sixBytesFrom offset len).2,
          [⟨⟨sixBytesFrom, offset, len⟩, (reader.readAt sixBytesFrom offset len).1⟩]) := rfl
    exact Machine.Run.step earlier sixBytesFrom_honest taken
  have run := call _ _ (call _ _ (call _ _ .refl 0 1) 3 9) 0 2
  refine ⟨by decide +kernel, by decide +kernel, ?_⟩
  exact (s3Reader_random_access "k" [1, 2, 3, 4, 5, 6] run).1 _ List.mem_cons_self

end Access

end TdfIrohS3
