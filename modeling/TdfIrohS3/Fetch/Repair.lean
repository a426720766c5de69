import Mathlib.Logic.Function.Basic
import TdfIrohS3.Fetch.Server
import TdfIrohS3.Library.Machine

namespace TdfIrohS3

open Library

/-! `S3Server` among the tasks that share it, one lock section at a time: calls of `check`, which S3
answers as it likes, and the computations of outboards that they start. -/

abbrev HeadAnswer (α : Type) := Except String (Option α)

inductive CheckStage
  | corrupt
  | servable
  | blob
  | document
  | outboard (size : Nat) (object : Object)
  | remember (servable : Servable)

structure Checking where
  hash : String
  stage : CheckStage

inductive ComputationStage
  | computing
  | marking (actual : String)
  | failing (error : String)
  | leaving
  | dropping
  deriving DecidableEq

structure Computation where
  hash : String
  size : Nat
  object : Object
  stage : ComputationStage

namespace S3Server

/-- `compute_outboard`: `created` is the root of the outboard read from S3, `stored` the answer to
its upload. -/
def computeOutboard (hash : String) (created : Except String String) (stored : Except String Unit) :
    Except String (Option String) := do
  let actual ← created
  if actual ≠ hash then
    return some actual
  stored
  return none

def cooling (server : S3Server) (hash : String) (now : Nat) : Bool :=
  (server.backfillFailed.get hash).any fun failed => now - failed < backfillCooldown

def recordFailure (server : S3Server) (hash : String) (now : Nat) : S3Server :=
  let failed :=
    if server.backfillFailed.len ≥ badCapacity then
      server.backfillFailed.retain fun _ failed => now - failed < backfillCooldown
    else server.backfillFailed
  { server with backfillFailed := failed.insert hash now }

def beginBackfill (server : S3Server) (hash : String) : S3Server :=
  { server with backfilling := server.backfilling.insert hash () }

theorem failBackfill_eq (server : S3Server) (hash : String) (now : Nat) :
    server.failBackfill hash now = (server.recordFailure hash now).endBackfill hash := rfl

end S3Server

/-- The server, the permits of `backfills` that are left, and the tasks. -/
structure Repairs where
  server : S3Server
  permits : Nat
  computations : Table Nat Computation
  checks : Nat → Option Checking
  nextId : Nat
  now : Nat

inductive RepairNotice
  | answered (id : Nat) (hash : String) (answer : Except CheckRefusal Servable)
  | started (id : Nat) (hash : String) (now : Nat)
  | failed (id : Nat) (hash : String) (now : Nat)
  | recorded (id : Nat) (hash : String) (now : Nat)
  | ended (id : Nat) (hash : String)
  deriving DecidableEq

/-- `proceed` is the next lock section of a call of `check`, `advance` that of a computation (after
it, its permit's drop). `mismatch` is a send that finds the object corrupt. -/
inductive RepairEvent
  | tick (duration : Nat)
  | check (hash : String)
  | cancel (id : Nat)
  | proceed (id : Nat)
  | blobAnswered (id : Nat) (answer : HeadAnswer Nat)
  | documentAnswered (id : Nat) (answer : HeadAnswer (Nat × Option String))
  | outboardAnswered (id : Nat) (answer : HeadAnswer Nat)
  | mismatch (hash : String)
  | forget (hash : String)
  | computed (id : Nat) (created : Except String String) (stored : Except String Unit)
  | advance (id : Nat)

namespace Repairs

def starting (now : Nat) : Repairs where
  server := S3Server.new
  permits := S3Server.backfills
  computations := Table.empty
  checks _ := none
  nextId := 0
  now := now

variable (tree : BaoTree) (state : Repairs)

def setCheck (id : Nat) (checking : Option Checking) : Repairs :=
  { state with checks := Function.update state.checks id checking }

def setServer (server : S3Server) : Repairs := { state with server := server }

def setStage (id : Nat) (computation : Computation) (stage : ComputationStage) : Repairs :=
  { state with computations := state.computations.insert id { computation with stage := stage } }

def answer (id : Nat) (hash : String) (answer : Except CheckRefusal Servable) :
    Repairs × List RepairNotice :=
  (state.setCheck id none, [.answered id hash answer])

def found (id : Nat) (hash : String) (size : Nat) (object : Object) : Repairs :=
  state.setCheck id (some ⟨hash,
    if tree.outboardSize size > 0 then .outboard size object else .remember ⟨size, object⟩⟩)

def start (hash : String) (size : Nat) (object : Object) : Repairs :=
  { state with
    server := state.server.beginBackfill hash
    permits := state.permits - 1
    computations := state.computations.insert state.nextId ⟨hash, size, object, .computing⟩
    nextId := state.nextId + 1 }

def backfill (hash : String) (size : Nat) (object : Object) : Repairs × List RepairNotice :=
  if state.server.cooling hash state.now then (state, [])
  else if state.permits = 0 then (state, [])
  else if state.server.backfilling.contains hash then
    -- the permit just taken is dropped again
    (state, [])
  else (state.start hash size object, [.started state.nextId hash state.now])

def backfillBusy (id : Nat) (hash : String) (size : Nat) (object : Object) :
    Repairs × List RepairNotice :=
  let begun := state.backfill hash size object
  let busy := begun.1.answer id hash (.error .busy)
  (busy.1, busy.2 ++ begun.2)

def proceed (id : Nat) (checking : Checking) : Option (Repairs × List RepairNotice) :=
  match checking.stage with
  | .corrupt =>
      if state.server.corrupt.contains checking.hash then
        some (state.answer id checking.hash (.error .gone))
      else some (state.setCheck id (some ⟨checking.hash, .servable⟩), [])
  | .servable =>
      match state.server.servable.get checking.hash with
      | some servable => some (state.answer id checking.hash (.ok servable))
      | none => some (state.setCheck id (some ⟨checking.hash, .blob⟩), [])
  | .remember servable =>
      some ((state.setServer (state.server.remember checking.hash servable)).answer id checking.hash
        (.ok servable))
  | _ => none

def blobAnswered (id : Nat) (hash : String) : HeadAnswer Nat → Repairs × List RepairNotice
  | .ok (some size) => (state.found tree id hash size .blob, [])
  | .ok none => (state.setCheck id (some ⟨hash, .document⟩), [])
  | .error _ => state.answer id hash (.error .busy)

def documentAnswered (id : Nat) (hash : String) :
    HeadAnswer (Nat × Option String) → Repairs × List RepairNotice
  | .ok (some (size, owner)) => (state.found tree id hash size (.catalogDocument owner), [])
  | .ok none => state.answer id hash (.error .gone)
  | .error _ => state.answer id hash (.error .busy)

def outboardAnswered (id : Nat) (hash : String) (size : Nat) (object : Object) :
    HeadAnswer Nat → Repairs × List RepairNotice
  | .ok found =>
      if found = some (tree.outboardSize size) then
        (state.setCheck id (some ⟨hash, .remember ⟨size, object⟩⟩), [])
      else state.backfillBusy id hash size object
  | .error _ => state.answer id hash (.error .busy)

def computed (id : Nat) (computation : Computation) :
    Except String (Option String) → Repairs × List RepairNotice
  | .ok none => (state.setStage id computation .leaving, [])
  | .ok (some actual) => (state.setStage id computation (.marking actual), [])
  | .error error =>
      (state.setStage id computation (.failing error), [.failed id computation.hash state.now])

def advance (id : Nat) (computation : Computation) : Option (Repairs × List RepairNotice) :=
  match computation.stage with
  | .computing => none
  | .marking _ =>
      -- `corrupt` stays locked while `servable` is, so no other section sees it in between
      some ((state.setServer (state.server.markCorrupt computation.hash)).setStage id computation
        .leaving, [])
  | .failing _ =>
      some ((state.setServer (state.server.recordFailure computation.hash state.now)).setStage id
        computation .leaving, [.recorded id computation.hash state.now])
  | .leaving =>
      some ((state.setServer (state.server.endBackfill computation.hash)).setStage id computation
        .dropping, [])
  | .dropping =>
      some ({ state with
          permits := state.permits + 1
          computations := state.computations.remove id },
        [.ended id computation.hash])

def next : RepairEvent → Option (Repairs × List RepairNotice)
  | .tick duration => some ({ state with now := state.now + duration }, [])
  | .check hash =>
      some ({ state.setCheck state.nextId (some ⟨hash, .corrupt⟩) with
        nextId := state.nextId + 1 }, [])
  | .cancel id => (state.checks id).map fun _ => (state.setCheck id none, [])
  | .proceed id => (state.checks id).bind (state.proceed id)
  | .blobAnswered id answer =>
      match state.checks id with
      | some ⟨hash, .blob⟩ => some (state.blobAnswered tree id hash answer)
      | _ => none
  | .documentAnswered id answer =>
      match state.checks id with
      | some ⟨hash, .document⟩ => some (state.documentAnswered tree id hash answer)
      | _ => none
  | .outboardAnswered id answer =>
      match state.checks id with
      | some ⟨hash, .outboard size object⟩ =>
          some (state.outboardAnswered tree id hash size object answer)
      | _ => none
  | .mismatch hash => some (state.setServer (state.server.markCorrupt hash), [])
  | .forget hash => some (state.setServer (state.server.forget hash), [])
  | .computed id created stored =>
      match state.computations.get id with
      | some computation =>
          if computation.stage = .computing then
            some (state.computed id computation (S3Server.computeOutboard computation.hash created stored))
          else none
      | none => none
  | .advance id => (state.computations.get id).bind (state.advance id)

section Next

variable {tree state} {id : Nat}

theorem next_proceed {checking : Checking} (held : state.checks id = some checking) :
    state.next tree (.proceed id) = state.proceed id checking := by
  rw [next, held]
  rfl

theorem next_advance {computation : Computation}
    (held : state.computations.get id = some computation) :
    state.next tree (.advance id) = state.advance id computation := by
  rw [next, held]
  rfl

end Next

def Quiet (notices : List RepairNotice) : Prop :=
  ∀ notice ∈ notices, match notice with
    | .answered _ _ _ | .ended _ _ => True
    | .started _ _ _ | .failed _ _ _ | .recorded _ _ _ => False

/-- What a step can do to the server and the computations. -/
inductive Effect : RepairEvent → Repairs → List RepairNotice → Prop
  | waited (duration : Nat) :
      Effect (.tick duration) { state with now := state.now + duration } []
  | looked {event : RepairEvent} {checks : Nat → Option Checking} {nextId : Nat}
      {notices : List RepairNotice} (later : state.nextId ≤ nextId) (quiet : Quiet notices)
      (other : ∀ id, event ≠ .advance id) :
      Effect event { state with checks := checks, nextId := nextId } notices
  | remembered {id : Nat} {hash : String} {servable : Servable} {checks : Nat → Option Checking}
      {notices : List RepairNotice} (quiet : Quiet notices) :
      Effect (.proceed id)
        { state.setServer (state.server.remember hash servable) with checks := checks } notices
  | mismatched (hash : String) :
      Effect (.mismatch hash) (state.setServer (state.server.markCorrupt hash)) []
  | forgot (hash : String) : Effect (.forget hash) (state.setServer (state.server.forget hash)) []
  | started {id : Nat} {answer : HeadAnswer Nat} {hash : String} {size : Nat} {object : Object}
      {checks : Nat → Option Checking} {notices : List RepairNotice}
      (warm : state.server.cooling hash state.now = false) (permit : 0 < state.permits)
      (alone : state.server.backfilling.contains hash = false) (quiet : Quiet notices) :
      Effect (.outboardAnswered id answer) { state.start hash size object with checks := checks }
        (notices ++ [.started state.nextId hash state.now])
  | computed {event : RepairEvent} {id : Nat} {computation : Computation} {stage : ComputationStage}
      (held : state.computations.get id = some computation)
      (running : computation.stage = .computing)
      (done : stage = .leaving ∨ ∃ actual, stage = .marking actual)
      (other : ∀ id, event ≠ .advance id) :
      Effect event (state.setStage id computation stage) []
  | failed {event : RepairEvent} {id : Nat} {computation : Computation} {error : String}
      (held : state.computations.get id = some computation)
      (running : computation.stage = .computing) (other : ∀ id, event ≠ .advance id) :
      Effect event (state.setStage id computation (.failing error))
        [.failed id computation.hash state.now]
  | marked {id : Nat} {computation : Computation} {actual : String}
      (held : state.computations.get id = some computation)
      (stage : computation.stage = .marking actual) :
      Effect (.advance id)
        ((state.setServer (state.server.markCorrupt computation.hash)).setStage id computation
          .leaving) []
  | recorded {id : Nat} {computation : Computation} {error : String}
      (held : state.computations.get id = some computation)
      (stage : computation.stage = .failing error) :
      Effect (.advance id)
        ((state.setServer (state.server.recordFailure computation.hash state.now)).setStage id
          computation .leaving) [.recorded id computation.hash state.now]
  | left {id : Nat} {computation : Computation}
      (held : state.computations.get id = some computation)
      (stage : computation.stage = .leaving) :
      Effect (.advance id)
        ((state.setServer (state.server.endBackfill computation.hash)).setStage id computation
          .dropping) []
  | ended {id : Nat} {computation : Computation}
      (held : state.computations.get id = some computation)
      (stage : computation.stage = .dropping) :
      Effect (.advance id)
        { state with
          permits := state.permits + 1
          computations := state.computations.remove id }
        [.ended id computation.hash]

section Effects

variable {tree state} {event : RepairEvent} {id : Nat} {hash : String} {after : Repairs}
variable {notices : List RepairNotice}

theorem quiet_answered (id : Nat) (hash : String) (answer : Except CheckRefusal Servable) :
    Quiet [.answered id hash answer] := by
  intro notice said
  rw [List.mem_singleton.mp said]
  exact trivial

theorem quiet_nil : Quiet [] := by
  intro notice said
  cases said

theorem effect_answer {answer : Except CheckRefusal Servable} (other : ∀ id, event ≠ .advance id) :
    Effect state event (state.answer id hash answer).1 (state.answer id hash answer).2 :=
  .looked (Nat.le_refl _) (quiet_answered id hash answer) other

theorem effect_setCheck {checking : Option Checking} (other : ∀ id, event ≠ .advance id) :
    Effect state event (state.setCheck id checking) [] :=
  .looked (Nat.le_refl _) quiet_nil other

theorem effect_of_some {moved : Repairs × List RepairNotice}
    (effect : Effect state event moved.1 moved.2) (taken : some moved = some (after, notices)) :
    Effect state event after notices := by
  have same := Option.some.inj taken
  rw [same] at effect
  exact effect

theorem proceed_effect {checking : Checking}
    (taken : state.proceed id checking = some (after, notices)) :
    Effect state (.proceed id) after notices := by
  have other : ∀ computation, RepairEvent.proceed id ≠ .advance computation := by simp
  unfold proceed at taken
  split at taken
  · split at taken
    · cases taken
      exact effect_answer other
    · cases taken
      exact effect_setCheck other
  · split at taken
    · cases taken
      exact effect_answer other
    · cases taken
      exact effect_setCheck other
  · cases taken
    exact .remembered (quiet_answered _ _ _)
  · cases taken

theorem blobAnswered_effect (answer : HeadAnswer Nat) (other : ∀ id, event ≠ .advance id) :
    Effect state event (state.blobAnswered tree id hash answer).1
      (state.blobAnswered tree id hash answer).2 := by
  unfold blobAnswered
  split
  · exact effect_setCheck other
  · exact effect_setCheck other
  · exact effect_answer other

theorem documentAnswered_effect (answer : HeadAnswer (Nat × Option String))
    (other : ∀ id, event ≠ .advance id) :
    Effect state event (state.documentAnswered tree id hash answer).1
      (state.documentAnswered tree id hash answer).2 := by
  unfold documentAnswered
  split
  · exact effect_setCheck other
  · exact effect_answer other
  · exact effect_answer other

theorem backfillBusy_effect {size : Nat} {object : Object} (answer : HeadAnswer Nat) :
    Effect state (.outboardAnswered id answer) (state.backfillBusy id hash size object).1
      (state.backfillBusy id hash size object).2 := by
  have other : ∀ computation, RepairEvent.outboardAnswered id answer ≠ .advance computation := by
    simp
  unfold backfillBusy backfill
  by_cases cooling : state.server.cooling hash state.now
  · rw [if_pos cooling]
    exact effect_answer other
  · rw [if_neg cooling]
    by_cases none : state.permits = 0
    · rw [if_pos none]
      exact effect_answer other
    · rw [if_neg none]
      by_cases runs : state.server.backfilling.contains hash
      · rw [if_pos runs]
        exact effect_answer other
      · rw [if_neg runs]
        exact .started (by simpa using cooling) (Nat.pos_of_ne_zero none) (by simpa using runs)
          (quiet_answered _ _ _)

theorem outboardAnswered_effect {size : Nat} {object : Object} (answer : HeadAnswer Nat) :
    Effect state (.outboardAnswered id answer)
      (state.outboardAnswered tree id hash size object answer).1
      (state.outboardAnswered tree id hash size object answer).2 := by
  unfold outboardAnswered
  split
  · rename_i found
    by_cases whole : found = some (tree.outboardSize size)
    · rw [if_pos whole]
      exact effect_setCheck (by simp)
    · rw [if_neg whole]
      exact backfillBusy_effect _
  · exact effect_answer (by simp)

theorem computed_effect {computation : Computation}
    (held : state.computations.get id = some computation)
    (running : computation.stage = .computing) (result : Except String (Option String))
    (other : ∀ id, event ≠ .advance id) :
    Effect state event (state.computed id computation result).1
      (state.computed id computation result).2 := by
  unfold computed
  split
  · exact .computed held running (.inl rfl) other
  · rename_i actual
    exact .computed held running (.inr ⟨actual, rfl⟩) other
  · exact .failed held running other

theorem advance_effect {computation : Computation}
    (held : state.computations.get id = some computation)
    (taken : state.advance id computation = some (after, notices)) :
    Effect state (.advance id) after notices := by
  cases stage : computation.stage with
  | computing =>
      simp only [advance, stage] at taken
      cases taken
  | marking actual =>
      simp only [advance, stage] at taken
      cases taken
      exact .marked held stage
  | failing error =>
      simp only [advance, stage] at taken
      cases taken
      exact .recorded held stage
  | leaving =>
      simp only [advance, stage] at taken
      cases taken
      exact .left held stage
  | dropping =>
      simp only [advance, stage] at taken
      cases taken
      exact .ended held stage

theorem next_effect (taken : state.next tree event = some (after, notices)) :
    Effect state event after notices := by
  cases event with
  | tick duration =>
      cases taken
      exact .waited duration
  | check hash =>
      cases taken
      exact .looked (Nat.le_succ _) quiet_nil (by simp)
  | cancel id =>
      obtain ⟨checking, -, same⟩ := Option.map_eq_some_iff.mp taken
      cases same
      exact effect_setCheck (by simp)
  | proceed id =>
      obtain ⟨checking, -, moved⟩ := Option.bind_eq_some_iff.mp taken
      exact proceed_effect moved
  | blobAnswered id answer =>
      simp only [next] at taken
      split at taken
      · exact effect_of_some (blobAnswered_effect answer (by simp)) taken
      · cases taken
  | documentAnswered id answer =>
      simp only [next] at taken
      split at taken
      · exact effect_of_some (documentAnswered_effect answer (by simp)) taken
      · cases taken
  | outboardAnswered id answer =>
      simp only [next] at taken
      split at taken
      · exact effect_of_some (outboardAnswered_effect answer) taken
      · cases taken
  | mismatch hash =>
      cases taken
      exact .mismatched hash
  | forget hash =>
      cases taken
      exact .forgot hash
  | computed id created stored =>
      simp only [next] at taken
      split at taken
      · rename_i computation held
        split at taken
        · rename_i running
          exact effect_of_some (computed_effect held running _ (by simp)) taken
        · cases taken
      · cases taken
  | advance id =>
      obtain ⟨computation, held, moved⟩ := Option.bind_eq_some_iff.mp taken
      exact advance_effect held moved

end Effects

end Repairs

def repairMachine (tree : BaoTree) : Machine Repairs RepairEvent RepairNotice where
  next := Repairs.next tree

namespace Repairs

section Leads

variable {tree : BaoTree} {state after first : Repairs} {event : RepairEvent}
variable {log later notices : List RepairNotice} {hash : String}

abbrev Leads (tree : BaoTree) (log : List RepairNotice) (state : Repairs)
    (later : List RepairNotice) (after : Repairs) : Prop :=
  (repairMachine tree).Run (fun _ _ _ => True) log state later after

theorem Leads.nothing (log : List RepairNotice) (state : Repairs) : Leads tree log state log state :=
  Machine.Run.refl

theorem Leads.andThen (leads : Leads tree log first later state)
    (taken : state.next tree event = some (after, notices)) :
    Leads tree log first (notices ++ later) after :=
  Machine.Run.step leads trivial taken

def checkingAt (state : Repairs) (hash : String) (stage : CheckStage) : Repairs :=
  { state.setCheck state.nextId (some ⟨hash, stage⟩) with nextId := state.nextId + 1 }

theorem checks_checkingAt (stage : CheckStage) :
    (state.checkingAt hash stage).checks state.nextId = some ⟨hash, stage⟩ :=
  Function.update_self _ _ _

theorem setCheck_checkingAt (stage next : CheckStage) :
    (state.checkingAt hash stage).setCheck state.nextId (some ⟨hash, next⟩) =
      state.checkingAt hash next := by
  unfold checkingAt setCheck
  simp only [Function.update_idem]

theorem next_corrupt (sound : state.server.corrupt.contains hash = false) :
    (state.checkingAt hash .corrupt).next tree (.proceed state.nextId) =
      some (state.checkingAt hash .servable, []) := by
  rw [next_proceed (checks_checkingAt _), proceed, ← setCheck_checkingAt .corrupt .servable]
  exact if_neg (by simp [checkingAt, setCheck, sound])

theorem next_servable (unknown : state.server.servable.get hash = none) :
    (state.checkingAt hash .servable).next tree (.proceed state.nextId) =
      some (state.checkingAt hash .blob, []) := by
  have absent : (state.checkingAt hash .servable).server.servable.get hash = none := unknown
  rw [next_proceed (checks_checkingAt _), ← setCheck_checkingAt .servable .blob]
  simp only [proceed, absent]

theorem leads_to_blob (sound : state.server.corrupt.contains hash = false)
    (unknown : state.server.servable.get hash = none) :
    Leads tree log state log (state.checkingAt hash .blob) := by
  have begins : state.next tree (.check hash) = some (state.checkingAt hash .corrupt, []) := rfl
  have first := Leads.andThen (Leads.nothing log state) begins
  have second := Leads.andThen first (next_corrupt sound)
  exact Leads.andThen second (next_servable unknown)

end Leads

end Repairs

end TdfIrohS3
