import TdfIrohS3.Fetch.Serve
import TdfIrohS3.Fetch.SingleFlight

namespace TdfIrohS3

open Library

/-! A call of `check` during which no other task moves does what `S3Server.check` says in one step. -/

def HeadRequest.reply {α : Type} (why : String) : HeadRequest α → HeadAnswer α
  | .answered found => .ok found
  | .failed => .error why
  | .timedOut => .error "S3 HEAD timed out"

theorem HeadRequest.reply_eq {α : Type} (why : String) (request : HeadRequest α) :
    (∃ found, request.reply why = .ok found ∧ head request = .ok found) ∨
      ∃ error, request.reply why = .error error ∧ head request = .error () := by
  cases request with
  | answered found => exact .inl ⟨found, rfl, rfl⟩
  | failed => exact .inr ⟨why, rfl, rfl⟩
  | timedOut => exact .inr ⟨_, rfl, rfl⟩

def HeadRequests.documentObject (requests : HeadRequests) : Except CheckRefusal Servable :=
  match head requests.document with
  | .ok (some (size, owner)) => .ok ⟨size, .catalogDocument owner⟩
  | .ok none => .error .gone
  | .error _ => .error .busy

namespace S3Server

variable (tree : BaoTree) (server : S3Server) (hash : String) (requests : HeadRequests) (now : Nat)

def checkOutboard (servable : Servable) : Except CheckRefusal Servable × S3Server :=
  match head requests.outboard with
  | .ok found =>
      if found = some (tree.outboardSize servable.size) then
        (.ok servable, server.remember hash servable)
      else (.error .busy, (server.backfill hash now).getD server)
  | .error _ => (.error .busy, server)

def checkFound (servable : Servable) : Except CheckRefusal Servable × S3Server :=
  if tree.outboardSize servable.size > 0 then server.checkOutboard tree hash requests now servable
  else (.ok servable, server.remember hash servable)

def checkObject : Except CheckRefusal Servable → Except CheckRefusal Servable × S3Server
  | .error refusal => (.error refusal, server)
  | .ok servable => server.checkFound tree hash requests now servable

variable {tree server hash requests now}

theorem check_of_known {answer : Except CheckRefusal Servable}
    (known : server.known hash = some answer) :
    server.check tree server hash requests now = (answer, server) := by
  rw [check, known]

theorem check_of_unknown (unknown : server.known hash = none) :
    server.check tree server hash requests now =
      server.checkObject tree hash requests now requests.object := by
  rw [check, unknown]
  cases requests.object with
  | error refusal => rfl
  | ok servable => rfl

end S3Server

namespace Repairs

section Turns

variable (tree : BaoTree) (requests : HeadRequests) (why : String)

def turn (id : Nat) : CheckStage → RepairEvent
  | .corrupt | .servable | .remember _ => .proceed id
  | .blob => .blobAnswered id (requests.blob.reply why)
  | .document => .documentAnswered id (requests.document.reply why)
  | .outboard _ _ => .outboardAnswered id (requests.outboard.reply why)

def Turn (id : Nat) (_ : List RepairNotice) (state : Repairs) (event : RepairEvent) : Prop :=
  ∃ checking, state.checks id = some checking ∧ event = turn requests why id checking.stage

/-- A call of `check` at this stage returns, on its own, and leaves the server so. -/
def Answers (log : List RepairNotice) (state : Repairs) (hash : String) (stage : CheckStage)
    (result : Except CheckRefusal Servable × S3Server) : Prop :=
  ∃ begun after, (repairMachine tree).Run (Turn requests why state.nextId) log
      (state.checkingAt hash stage) (.answered state.nextId hash result.1 :: begun) after ∧
    after.checks state.nextId = none ∧ after.server = result.2

end Turns

variable {tree : BaoTree} {requests : HeadRequests} {why : String} {log notices : List RepairNotice}
variable {state after : Repairs} {hash : String} {stage next : CheckStage}
variable {result : Except CheckRefusal Servable × S3Server} {size : Nat} {object : Object}

theorem turns
    (taken : (state.checkingAt hash stage).next tree (turn requests why state.nextId stage) =
      some (after, notices)) :
    (repairMachine tree).Run (Turn requests why state.nextId) log (state.checkingAt hash stage)
      (notices ++ log) after := by
  have allowed : Turn requests why state.nextId log (state.checkingAt hash stage)
      (turn requests why state.nextId stage) :=
    ⟨⟨hash, stage⟩, checks_checkingAt stage, rfl⟩
  exact Machine.Run.step Machine.Run.refl allowed taken

theorem Answers.moves
    (taken : (state.checkingAt hash stage).next tree (turn requests why state.nextId stage) =
      some (state.checkingAt hash next, []))
    (answers : Answers tree requests why log state hash next result) :
    Answers tree requests why log state hash stage result := by
  obtain ⟨begun, after, run, returned, left⟩ := answers
  exact ⟨begun, after, (turns taken).trans run, returned, left⟩

theorem Answers.returns
    (taken : (state.checkingAt hash stage).next tree (turn requests why state.nextId stage) =
      some (after, .answered state.nextId hash result.1 :: notices))
    (returned : after.checks state.nextId = none) (left : after.server = result.2) :
    Answers tree requests why log state hash stage result :=
  ⟨notices ++ log, after, turns taken, returned, left⟩

theorem Answers.refuses {answer : Except CheckRefusal Servable}
    (taken : (state.checkingAt hash stage).next tree (turn requests why state.nextId stage) =
      some ((state.checkingAt hash stage).answer state.nextId hash answer)) :
    Answers tree requests why log state hash stage (answer, state.server) :=
  Answers.returns taken (Function.update_self _ _ _) rfl

theorem answers_remember (servable : Servable) :
    Answers tree requests why log state hash (.remember servable)
      (.ok servable, state.server.remember hash servable) :=
  Answers.returns (next_proceed (checks_checkingAt _)) (Function.update_self _ _ _) rfl

theorem answers_backfill (flight : state.SingleFlight) (settled : state.Settled)
    (taken : (state.checkingAt hash stage).next tree (turn requests why state.nextId stage) =
      some ((state.checkingAt hash stage).backfillBusy state.nextId hash size object)) :
    Answers tree requests why log state hash stage
      (.error .busy, (state.server.backfill hash state.now).getD state.server) := by
  have checking : (state.checkingAt hash stage).SingleFlight :=
    flight.same rfl rfl rfl (Nat.le_succ _)
  refine Answers.returns taken ?_ ?_
  · exact Function.update_self _ _ _
  · exact checking.backfill_server settled

theorem answers_outboard (flight : state.SingleFlight) (settled : state.Settled) :
    Answers tree requests why log state hash (.outboard size object)
      (state.server.checkOutboard tree hash requests state.now ⟨size, object⟩) := by
  have taken : (state.checkingAt hash (.outboard size object)).next tree
      (turn requests why state.nextId (.outboard size object)) =
        some ((state.checkingAt hash (.outboard size object)).outboardAnswered tree state.nextId hash
          size object (requests.outboard.reply why)) := by
    simp only [turn, Repairs.next, checks_checkingAt]
  unfold S3Server.checkOutboard
  rcases requests.outboard.reply_eq why with ⟨found, reply, known⟩ | ⟨error, reply, known⟩
  · rw [reply, outboardAnswered] at taken
    simp only [known]
    by_cases whole : found = some (tree.outboardSize size)
    · rw [if_pos whole, setCheck_checkingAt] at taken
      rw [if_pos whole]
      exact Answers.moves taken (answers_remember _)
    · rw [if_neg whole] at taken
      rw [if_neg whole]
      exact answers_backfill flight settled taken
  · rw [reply, outboardAnswered] at taken
    simp only [known]
    exact Answers.refuses taken

theorem answers_found (flight : state.SingleFlight) (settled : state.Settled)
    (taken : (state.checkingAt hash stage).next tree (turn requests why state.nextId stage) =
      some ((state.checkingAt hash stage).found tree state.nextId hash size object, [])) :
    Answers tree requests why log state hash stage
      (state.server.checkFound tree hash requests state.now ⟨size, object⟩) := by
  rw [found, setCheck_checkingAt] at taken
  apply Answers.moves taken
  unfold S3Server.checkFound
  by_cases large : tree.outboardSize size > 0
  · rw [if_pos large, if_pos large]
    exact answers_outboard flight settled
  · rw [if_neg large, if_neg large]
    exact answers_remember _

theorem answers_document (flight : state.SingleFlight) (settled : state.Settled) :
    Answers tree requests why log state hash .document
      (state.server.checkObject tree hash requests state.now requests.documentObject) := by
  have taken : (state.checkingAt hash .document).next tree (turn requests why state.nextId .document) =
      some ((state.checkingAt hash .document).documentAnswered tree state.nextId hash
        (requests.document.reply why)) := by
    simp only [turn, Repairs.next, checks_checkingAt]
  unfold HeadRequests.documentObject
  rcases requests.document.reply_eq why with ⟨found, reply, known⟩ | ⟨error, reply, known⟩
  · rw [reply] at taken
    rw [known]
    rcases found with _ | ⟨size, owner⟩
    · exact Answers.refuses taken
    · exact answers_found flight settled taken
  · rw [reply] at taken
    rw [known]
    exact Answers.refuses taken

theorem answers_blob (flight : state.SingleFlight) (settled : state.Settled) :
    Answers tree requests why log state hash .blob
      (state.server.checkObject tree hash requests state.now requests.object) := by
  have taken : (state.checkingAt hash .blob).next tree (turn requests why state.nextId .blob) =
      some ((state.checkingAt hash .blob).blobAnswered tree state.nextId hash
        (requests.blob.reply why)) := by
    simp only [turn, Repairs.next, checks_checkingAt]
  unfold HeadRequests.object
  rcases requests.blob.reply_eq why with ⟨found, reply, known⟩ | ⟨error, reply, known⟩
  · rw [reply] at taken
    rw [known]
    rcases found with _ | size
    · rw [blobAnswered, setCheck_checkingAt] at taken
      exact Answers.moves taken (answers_document flight settled)
    · exact answers_found flight settled taken
  · rw [reply] at taken
    rw [known]
    exact Answers.refuses taken

/-- Where every permit in use is that of a computation that runs, a call of `check` that no other task
interrupts returns what `S3Server.check` returns, and leaves the server as it does. -/
theorem check_alone (flight : state.SingleFlight) (settled : state.Settled) :
    Answers tree requests why log state hash .corrupt
      (state.server.check tree state.server hash requests state.now) := by
  cases marked : state.server.corrupt.contains hash with
  | true =>
      have known : state.server.known hash = some (.error .gone) := by
        simp [S3Server.known, marked]
      rw [S3Server.check_of_known known]
      apply Answers.refuses
      exact (next_proceed (checks_checkingAt _)).trans (if_pos marked)
  | false =>
      apply Answers.moves (next_corrupt marked)
      cases held : state.server.servable.get hash with
      | some servable =>
          have known : state.server.known hash = some (.ok servable) := by
            simp [S3Server.known, marked, held]
          rw [S3Server.check_of_known known]
          apply Answers.refuses
          have same : (state.checkingAt hash .servable).server.servable.get hash = some servable := held
          refine (next_proceed (checks_checkingAt _)).trans ?_
          simp only [proceed, same]
      | none =>
          rw [S3Server.check_of_unknown (known_none held marked)]
          exact Answers.moves (next_servable held) (answers_blob flight settled)

/-- So it is after any run of the tasks, whenever no computation is about to drop its permit. -/
theorem check_alone_of_run {now : Nat} (run : Leads tree [] (starting now) log state)
    (settled : state.Settled) :
    Answers tree requests why log state hash .corrupt
      (state.server.check tree state.server hash requests state.now) :=
  check_alone (sound_of_run run).1 settled

end Repairs

end TdfIrohS3
