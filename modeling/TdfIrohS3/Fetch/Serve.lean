import TdfIrohS3.Fetch.Cluster

namespace TdfIrohS3

open Library

inductive HeadRequest (α : Type)
  | answered (found : Option α)
  | failed
  | timedOut
  deriving DecidableEq, Repr

def head {α : Type} : HeadRequest α → Except Unit (Option α)
  | .answered found => .ok found
  | .failed => .error ()
  | .timedOut => .error ()

structure HeadRequests where
  blob : HeadRequest Nat
  document : HeadRequest (Nat × Option String)
  outboard : HeadRequest Nat
  deriving DecidableEq, Repr

def HeadRequests.object (requests : HeadRequests) : Except CheckRefusal Servable :=
  match head requests.blob with
  | .ok (some size) => .ok ⟨size, .blob⟩
  | .ok none =>
      match head requests.document with
      | .ok (some (size, owner)) => .ok ⟨size, .catalogDocument owner⟩
      | .ok none => .error .gone
      | .error _ => .error .busy
  | .error _ => .error .busy

/-- `check`, with what it leaves the server as. Other tasks may change the server while S3 answers:
`later` is the server it then finds. -/
def S3Server.check (tree : BaoTree) (server later : S3Server) (hash : String)
    (requests : HeadRequests) (now : Nat) : Except CheckRefusal Servable × S3Server :=
  match server.known hash with
  | some answer => (answer, server)
  | none =>
      match requests.object with
      | .error refusal => (.error refusal, later)
      | .ok servable =>
          if tree.outboardSize servable.size > 0 then
            match head requests.outboard with
            | .ok found =>
                if found = some (tree.outboardSize servable.size) then
                  (.ok servable, later.remember hash servable)
                else (.error .busy, (later.backfill hash now).getD later)
            | .error _ => (.error .busy, later)
          else (.ok servable, later.remember hash servable)

structure Sending where
  sized : Bool
  encoded : List UInt8
  transfer : Transfer
  server : S3Server

/-- A wanted hash with what its turn in `serve` meets: the node before and after the check, the server
at its start and after the look-ups, and S3. -/
structure Wanted where
  hash : String
  before : V2State
  server : S3Server
  requests : HeadRequests
  later : S3Server
  now : Nat
  after : V2State
  sending : Sending

inductive Write
  | size (hash : String) (size : Nat)
  | encoding (hash : String) (bytes : List UInt8)
  deriving DecidableEq, Repr

/-- What a `serve` wrote and how the stream ended (`none`: it was finished). `server` is the server as
a transfer that broke off left it. -/
structure ServeResult where
  written : List Write
  ending : Option Reset
  server : Option S3Server

namespace Wanted

def visit (tree : BaoTree) (wanted : Wanted) : Except Reset Servable :=
  if wanted.before.isBlocked wanted.hash then
    .error ⟨.permission, "blocked content", some wanted.hash⟩
  else
    match (wanted.server.check tree wanted.later wanted.hash wanted.requests wanted.now).1 with
    | .ok servable =>
        if servable.object.hidden wanted.after then
          .error ⟨.permission, "hidden catalog", some wanted.hash⟩
        else .ok servable
    | .error refusal => .error (refusal.reset wanted.hash)

def send (wanted : Wanted) (servable : Servable) : List Write × Option S3Server :=
  let sending := wanted.sending
  if !sending.sized then ([], some sending.server)
  else
    let written := [.size wanted.hash servable.size, .encoding wanted.hash sending.encoded]
    match sending.transfer with
    | .delivered => (written, none)
    | .broken => (written, some sending.server)
    | .mismatched => (written, some (sending.server.markCorrupt wanted.hash))

end Wanted

def visitAll (tree : BaoTree) : List Wanted → Except Reset (List (Wanted × Servable))
  | [] => .ok []
  | wanted :: rest => do
      let servable ← wanted.visit tree
      let servables ← visitAll tree rest
      return (wanted, servable) :: servables

def sendAll : List (Wanted × Servable) → ServeResult
  | [] => ⟨[], none, none⟩
  | (wanted, servable) :: rest =>
      match wanted.send servable with
      | (written, none) =>
          let later := sendAll rest
          { later with written := written ++ later.written }
      | (written, some server) =>
          ⟨written, some ⟨.limit, "serving from S3 broke off", some wanted.hash⟩,
            some (server.forget wanted.hash)⟩

/-- `serve`; `slot` is whether a permit is free. -/
def serve (tree : BaoTree) (slot : Bool) (wanted : List Wanted) : ServeResult :=
  if !slot then ⟨[], some ⟨.limit, "too many fetches at once", none⟩, none⟩
  else
    match visitAll tree wanted with
    | .error reset => ⟨[], some reset, none⟩
    | .ok servables => sendAll servables

def HeadRequest.Fails {α : Type} (request : HeadRequest α) : Prop :=
  request = .failed ∨ request = .timedOut

namespace HeadRequests

variable {requests : HeadRequests}

def Finds (requests : HeadRequests) (servable : Servable) : Prop :=
  (∃ size, requests.blob = .answered (some size) ∧ servable = ⟨size, .blob⟩) ∨
    (requests.blob = .answered none ∧ ∃ size owner,
      requests.document = .answered (some (size, owner)) ∧
      servable = ⟨size, .catalogDocument owner⟩)

def Absent (requests : HeadRequests) : Prop :=
  requests.blob = .answered none ∧ requests.document = .answered none

def Unanswered (requests : HeadRequests) : Prop :=
  requests.blob.Fails ∨ (requests.blob = .answered none ∧ requests.document.Fails)

def Outboarded (tree : BaoTree) (requests : HeadRequests) (servable : Servable) : Prop :=
  tree.outboardSize servable.size = 0 ∨
    requests.outboard = .answered (some (tree.outboardSize servable.size))

theorem object_ok_iff {servable : Servable} :
    requests.object = .ok servable ↔ requests.Finds servable := by
  obtain ⟨blob, document, outboard⟩ := requests
  rcases blob with (_ | size) | _ | _
  · rcases document with (_ | ⟨size, owner⟩) | _ | _ <;> simp [object, head, Finds, eq_comm]
  all_goals simp [object, head, Finds, eq_comm]

theorem object_gone_iff : requests.object = .error .gone ↔ requests.Absent := by
  obtain ⟨blob, document, outboard⟩ := requests
  rcases blob with (_ | size) | _ | _
  · rcases document with (_ | ⟨size, owner⟩) | _ | _ <;> simp [object, head, Absent]
  all_goals simp [object, head, Absent]

theorem object_busy_iff : requests.object = .error .busy ↔ requests.Unanswered := by
  obtain ⟨blob, document, outboard⟩ := requests
  rcases blob with (_ | size) | _ | _
  · rcases document with (_ | ⟨size, owner⟩) | _ | _ <;>
      simp [object, head, Unanswered, HeadRequest.Fails]
  all_goals simp [object, head, Unanswered, HeadRequest.Fails]

end HeadRequests

section Check

variable {tree : BaoTree} {server later : S3Server} {hash : String} {requests : HeadRequests}
variable {now : Nat}

def Available (tree : BaoTree) (server : S3Server) (hash : String) (requests : HeadRequests)
    (servable : Servable) : Prop :=
  server.servable.get hash = some servable ∨
    (server.servable.get hash = none ∧ requests.Finds servable ∧ requests.Outboarded tree servable)

/-- What `check` gives up on for now: S3 did not answer, or the outboard is missing or of the wrong
size. -/
def NotReady (tree : BaoTree) (server : S3Server) (hash : String) (requests : HeadRequests) : Prop :=
  server.servable.get hash = none ∧
    (requests.Unanswered ∨
      ∃ servable, requests.Finds servable ∧ ¬requests.Outboarded tree servable)

section Asked

variable (fresh : server.servable.get hash = none) (sound : server.corrupt.contains hash = false)

include fresh sound

theorem known_none : server.known hash = none := by
  simp [S3Server.known, sound, fresh]

theorem check_refused {refusal : CheckRefusal} (missing : requests.object = .error refusal) :
    (server.check tree later hash requests now).1 = .error refusal := by
  simp [S3Server.check, known_none fresh sound, missing]

theorem check_found {servable : Servable} (found : requests.object = .ok servable)
    (there : requests.Outboarded tree servable) :
    (server.check tree later hash requests now).1 = .ok servable := by
  unfold S3Server.check
  rw [known_none fresh sound, found]
  rcases there with empty | right
  · simp [empty]
  · simp only [right, head, if_true]
    split <;> rfl

theorem check_unready {servable : Servable} (found : requests.object = .ok servable)
    (missing : ¬requests.Outboarded tree servable) :
    (server.check tree later hash requests now).1 = .error .busy := by
  have large : tree.outboardSize servable.size > 0 :=
    Nat.pos_of_ne_zero fun empty => missing (.inl empty)
  unfold S3Server.check
  rw [known_none fresh sound, found]
  simp only [if_pos large]
  cases answer : requests.outboard with
  | answered size =>
      have other : size ≠ some (tree.outboardSize servable.size) := by
        rintro rfl
        exact missing (.inr answer)
      simp [head, other]
  | failed => rfl
  | timedOut => rfl

end Asked

theorem check_corrupt (marked : server.corrupt.contains hash = true) :
    (server.check tree later hash requests now).1 = .error .gone := by
  have known : server.known hash = some (.error .gone) := by simp [S3Server.known, marked]
  simp [S3Server.check, known]

theorem check_remembered {servable : Servable} (sound : server.corrupt.contains hash = false)
    (held : server.servable.get hash = some servable) :
    (server.check tree later hash requests now).1 = .ok servable := by
  have known : server.known hash = some (.ok servable) := by simp [S3Server.known, sound, held]
  simp [S3Server.check, known]

theorem check_ok_iff {servable : Servable} :
    (server.check tree later hash requests now).1 = .ok servable ↔
      server.corrupt.contains hash = false ∧ Available tree server hash requests servable := by
  cases marked : server.corrupt.contains hash with
  | true => simp [check_corrupt marked]
  | false =>
      cases held : server.servable.get hash with
      | some remembered => simp [check_remembered marked held, Available, held]
      | none =>
          simp only [Available, held, reduceCtorEq, false_or, true_and,
            ← HeadRequests.object_ok_iff]
          cases found : requests.object with
          | error refusal => simp [check_refused held marked found]
          | ok other =>
              by_cases there : requests.Outboarded tree other
              · rw [check_found held marked found there]
                constructor
                · intro same
                  cases same
                  exact ⟨rfl, there⟩
                · exact And.left
              · rw [check_unready held marked found there]
                constructor
                · intro impossible
                  cases impossible
                · rintro ⟨same, outboarded⟩
                  cases same
                  exact absurd outboarded there

theorem check_gone_iff :
    (server.check tree later hash requests now).1 = .error .gone ↔
      server.corrupt.contains hash = true ∨
        (server.servable.get hash = none ∧ requests.Absent) := by
  cases marked : server.corrupt.contains hash with
  | true => simp [check_corrupt marked]
  | false =>
      cases held : server.servable.get hash with
      | some remembered => simp [check_remembered marked held]
      | none =>
          simp only [Bool.false_eq_true, false_or, true_and, ← HeadRequests.object_gone_iff]
          cases found : requests.object with
          | error refusal => simp [check_refused held marked found]
          | ok other =>
              by_cases there : requests.Outboarded tree other
              · simp [check_found held marked found there]
              · simp [check_unready held marked found there]

theorem check_busy_iff :
    (server.check tree later hash requests now).1 = .error .busy ↔
      server.corrupt.contains hash = false ∧ NotReady tree server hash requests := by
  cases marked : server.corrupt.contains hash with
  | true => simp [check_corrupt marked]
  | false =>
      cases held : server.servable.get hash with
      | some remembered => simp [check_remembered marked held, NotReady, held]
      | none =>
          simp only [NotReady, held, true_and, ← HeadRequests.object_ok_iff,
            ← HeadRequests.object_busy_iff]
          cases found : requests.object with
          | error refusal => simp [check_refused held marked found]
          | ok other =>
              by_cases there : requests.Outboarded tree other
              · simp [check_found held marked found there, there]
              · simp [check_unready held marked found there, there]

end Check

namespace Wanted

variable {tree : BaoTree} {wanted : Wanted}

def Passes (tree : BaoTree) (wanted : Wanted) (servable : Servable) : Prop :=
  wanted.before.isBlocked wanted.hash = false ∧
    wanted.server.corrupt.contains wanted.hash = false ∧
    Available tree wanted.server wanted.hash wanted.requests servable ∧
    servable.object.hidden wanted.after = false

/-- The hash is refused for good: blocked, marked corrupt, absent under both prefixes, or an available
catalog document of a hidden owner. -/
def Final (tree : BaoTree) (wanted : Wanted) : Prop :=
  wanted.before.isBlocked wanted.hash = true ∨
    wanted.server.corrupt.contains wanted.hash = true ∨
    (wanted.server.servable.get wanted.hash = none ∧ wanted.requests.Absent) ∨
    ∃ servable, Available tree wanted.server wanted.hash wanted.requests servable ∧
      servable.object.hidden wanted.after = true

def Retry (tree : BaoTree) (wanted : Wanted) : Prop :=
  wanted.before.isBlocked wanted.hash = false ∧
    wanted.server.corrupt.contains wanted.hash = false ∧
    NotReady tree wanted.server wanted.hash wanted.requests

def answer (tree : BaoTree) (wanted : Wanted) : Except CheckRefusal Servable :=
  (wanted.server.check tree wanted.later wanted.hash wanted.requests wanted.now).1

theorem answer_ok_iff {servable : Servable} :
    wanted.answer tree = .ok servable ↔ wanted.server.corrupt.contains wanted.hash = false ∧
      Available tree wanted.server wanted.hash wanted.requests servable := check_ok_iff

theorem answer_gone_iff :
    wanted.answer tree = .error .gone ↔ wanted.server.corrupt.contains wanted.hash = true ∨
      (wanted.server.servable.get wanted.hash = none ∧ wanted.requests.Absent) := check_gone_iff

theorem answer_busy_iff :
    wanted.answer tree = .error .busy ↔ wanted.server.corrupt.contains wanted.hash = false ∧
      NotReady tree wanted.server wanted.hash wanted.requests := check_busy_iff

theorem passes_iff {servable : Servable} :
    wanted.Passes tree servable ↔ wanted.before.isBlocked wanted.hash = false ∧
      wanted.answer tree = .ok servable ∧ servable.object.hidden wanted.after = false := by
  rw [answer_ok_iff, Passes, and_assoc]

theorem final_iff :
    wanted.Final tree ↔ wanted.before.isBlocked wanted.hash = true ∨ wanted.answer tree = .error .gone ∨
      ∃ servable, wanted.answer tree = .ok servable ∧ servable.object.hidden wanted.after = true := by
  simp only [answer_gone_iff, answer_ok_iff, Final]
  cases wanted.server.corrupt.contains wanted.hash <;> simp

theorem retry_iff :
    wanted.Retry tree ↔
      wanted.before.isBlocked wanted.hash = false ∧ wanted.answer tree = .error .busy := by
  rw [answer_busy_iff, Retry]

theorem answer_known {known : Except CheckRefusal Servable}
    (remembered : wanted.server.known wanted.hash = some known) : wanted.answer tree = known := by
  simp [answer, S3Server.check, remembered]

theorem visit_eq (wanted : Wanted) :
    wanted.visit tree =
      if wanted.before.isBlocked wanted.hash then
        .error ⟨.permission, "blocked content", some wanted.hash⟩
      else
        match wanted.answer tree with
        | .ok servable =>
            if servable.object.hidden wanted.after then
              .error ⟨.permission, "hidden catalog", some wanted.hash⟩
            else .ok servable
        | .error refusal => .error (refusal.reset wanted.hash) := rfl

theorem visit_ok_iff {servable : Servable} :
    wanted.visit tree = .ok servable ↔ wanted.Passes tree servable := by
  rw [visit_eq, passes_iff]
  cases wanted.before.isBlocked wanted.hash with
  | true => simp
  | false =>
      cases wanted.answer tree with
      | error refusal => simp
      | ok found =>
          cases hides : found.object.hidden wanted.after with
          | true =>
              have other : found = servable → servable.object.hidden wanted.after = true := by
                rintro rfl
                exact hides
              simpa [hides] using other
          | false =>
              have same : found = servable → servable.object.hidden wanted.after = false := by
                rintro rfl
                exact hides
              simpa [hides] using same

theorem visit_error {reset : Reset} (refused : wanted.visit tree = .error reset) :
    reset.hash = some wanted.hash ∧ (reset.code = .permission ↔ wanted.Final tree) ∧
      (reset.code = .limit ↔ wanted.Retry tree) := by
  rw [visit_eq] at refused
  rw [final_iff, retry_iff]
  cases blocked : wanted.before.isBlocked wanted.hash with
  | true =>
      rw [if_pos blocked] at refused
      cases refused
      simp
  | false =>
      rw [if_neg (by simp [blocked])] at refused
      cases answered : wanted.answer tree with
      | error refusal =>
          rw [answered] at refused
          cases refused
          cases refusal <;> simp [CheckRefusal.reset]
      | ok servable =>
          simp only [answered] at refused
          split at refused
          · rename_i hides
            cases refused
            simp [hides]
          · cases refused

def writes (wanted : Wanted) (servable : Servable) : List Write :=
  if wanted.sending.sized then
    [.size wanted.hash servable.size, .encoding wanted.hash wanted.sending.encoded]
  else []

def Delivered (wanted : Wanted) : Prop :=
  wanted.sending.sized = true ∧ wanted.sending.transfer = .delivered

theorem send_cases (wanted : Wanted) (servable : Servable) :
    (wanted.Delivered ∧ wanted.send servable = (wanted.writes servable, none)) ∨
      (¬wanted.Delivered ∧ ∃ server, wanted.send servable = (wanted.writes servable, some server)) := by
  unfold Delivered send writes
  cases sized : wanted.sending.sized <;> cases transfer : wanted.sending.transfer <;>
    simp [sized, transfer]

end Wanted

section Serve

variable {tree : BaoTree}

/-- The sizes and encodings go out in request order, all of them, or up to the first transfer that
fails: then the stream is reset and the hash is no longer remembered. -/
def InOrder (servables : List (Wanted × Servable)) (result : ServeResult) : Prop :=
  (result.ending = none ∧ (∀ entry ∈ servables, entry.1.Delivered) ∧
      result.written = servables.flatMap fun entry => entry.1.writes entry.2) ∨
    ∃ sent broken rest server reset, servables = sent ++ broken :: rest ∧
      (∀ entry ∈ sent, entry.1.Delivered) ∧ ¬broken.1.Delivered ∧
      result.written = (sent ++ [broken]).flatMap (fun entry => entry.1.writes entry.2) ∧
      result.ending = some reset ∧ reset.code = .limit ∧ reset.hash = some broken.1.hash ∧
      result.server = some server ∧ server.servable.get broken.1.hash = none

theorem sendAll_inOrder (servables : List (Wanted × Servable)) :
    InOrder servables (sendAll servables) := by
  induction servables with
  | nil => exact .inl ⟨rfl, fun _ member => absurd member List.not_mem_nil, rfl⟩
  | cons entry rest ih =>
      obtain ⟨wanted, servable⟩ := entry
      rcases wanted.send_cases servable with ⟨delivered, sent⟩ | ⟨undelivered, server, sent⟩
      · have after : sendAll ((wanted, servable) :: rest) =
            { sendAll rest with
              written := wanted.writes servable ++ (sendAll rest).written } := by
          rw [sendAll, sent]
        rw [after]
        rcases ih with ⟨finished, all, order⟩ | ⟨done, broken, left, server, reset, split, all, stops,
          order, ended, code, named, dropped⟩
        · refine .inl ⟨finished, List.forall_mem_cons.mpr ⟨delivered, all⟩, ?_⟩
          simp [order]
        · refine .inr ⟨(wanted, servable) :: done, broken, left, server, reset, by rw [split]; rfl,
            List.forall_mem_cons.mpr ⟨delivered, all⟩, stops, ?_, ended, code, named, dropped⟩
          simp [order]
      · have after : sendAll ((wanted, servable) :: rest) =
            ⟨wanted.writes servable,
              some ⟨.limit, "serving from S3 broke off", some wanted.hash⟩,
              some (server.forget wanted.hash)⟩ := by
          rw [sendAll, sent]
        rw [after]
        refine .inr ⟨[], (wanted, servable), rest, _, _, rfl,
          fun _ member => absurd member List.not_mem_nil, undelivered, by simp, rfl, rfl, rfl, rfl, ?_⟩
        simp [S3Server.forget]

theorem visitAll_ok {wanted : List Wanted} {servables : List (Wanted × Servable)}
    (visited : visitAll tree wanted = .ok servables) :
    servables.map Prod.fst = wanted ∧ ∀ entry ∈ servables, entry.1.Passes tree entry.2 := by
  induction wanted generalizing servables with
  | nil =>
      cases visited
      exact ⟨rfl, fun _ member => absurd member List.not_mem_nil⟩
  | cons first rest ih =>
      simp only [visitAll, bind_ok] at visited
      obtain ⟨servable, passed, later, visits, same⟩ := visited
      cases same
      have known := ih visits
      exact ⟨by rw [List.map_cons, known.1], List.forall_mem_cons.mpr
        ⟨Wanted.visit_ok_iff.mp passed, known.2⟩⟩

theorem visitAll_error {wanted : List Wanted} {reset : Reset}
    (refused : visitAll tree wanted = .error reset) :
    ∃ passed stuck rest, wanted = passed ++ stuck :: rest ∧
      (∀ earlier ∈ passed, ∃ servable, earlier.Passes tree servable) ∧
      stuck.visit tree = .error reset := by
  induction wanted with
  | nil => cases refused
  | cons first rest ih =>
      simp only [visitAll, bind_error] at refused
      rcases refused with stops | ⟨servable, visited, stops | ⟨servables, -, impossible⟩⟩
      · exact ⟨[], first, rest, rfl, fun _ member => absurd member List.not_mem_nil, stops⟩
      · obtain ⟨passed, stuck, left, split, all, refused⟩ := ih stops
        exact ⟨first :: passed, stuck, left, by rw [split]; rfl, List.forall_mem_cons.mpr
          ⟨⟨servable, Wanted.visit_ok_iff.mp visited⟩, all⟩, refused⟩
      · cases impossible

theorem visitAll_cons {wanted : Wanted} {servable : Servable}
    (passes : wanted.visit tree = .ok servable) (rest : List Wanted) :
    visitAll tree (wanted :: rest) = (visitAll tree rest).map ((wanted, servable) :: ·) := by
  rw [visitAll, passes]
  cases visitAll tree rest <;> rfl

/-- Where a walk leaves the loop of `serve`: at a hash that is refused, at one that S3 is asked about,
or at its end. -/
def Stop.At (tree : BaoTree) : Stop → List Wanted → Prop
  | .refused reset, stuck :: _ => stuck.visit tree = .error reset
  | .waiting hash rest, stuck :: others =>
      stuck.hash = hash ∧ others.map Wanted.hash = rest ∧ stuck.server.known hash = none
  | .ready, [] => True
  | _, _ => False

/-- A walk over the hashes is the loop of `serve` while the node and its server stay as they are, up to
the first hash that S3 is asked about. -/
theorem walk_visitAll {node : V2State} {server : S3Server} {turns : List Wanted}
    (met : ∀ turn ∈ turns, turn.before = node ∧ turn.server = server ∧ turn.after = node) :
    ∃ passed left,
      passed.map (fun entry => (entry.1.hash, entry.2)) =
        (walk node server (turns.map Wanted.hash)).1 ∧
      (walk node server (turns.map Wanted.hash)).2.At tree left ∧
      visitAll tree turns = (visitAll tree left).map (passed ++ ·) := by
  induction turns with
  | nil => exact ⟨[], [], rfl, trivial, rfl⟩
  | cons turn rest ih =>
      obtain ⟨before, current, after⟩ := met turn List.mem_cons_self
      have here : visitAll tree (turn :: rest) = (visitAll tree (turn :: rest)).map ([] ++ ·) := by
        cases visitAll tree (turn :: rest) <;> rfl
      rw [List.map_cons, walk]
      split
      · rename_i blocked
        refine ⟨[], turn :: rest, rfl, ?_, here⟩
        simp [Stop.At, Wanted.visit_eq, before, blocked]
      · rename_i allowed
        split
        · rename_i unknown
          exact ⟨[], turn :: rest, rfl, ⟨rfl, rfl, by rw [current, unknown]⟩, here⟩
        · rename_i refusal known
          have answered : turn.answer tree = .error refusal := Wanted.answer_known (current ▸ known)
          refine ⟨[], turn :: rest, rfl, ?_, here⟩
          simp [Stop.At, Wanted.visit_eq, before, allowed, answered]
        · rename_i servable known
          have answered : turn.answer tree = .ok servable := Wanted.answer_known (current ▸ known)
          rw [clear]
          split
          · rename_i hides
            refine ⟨[], turn :: rest, rfl, ?_, here⟩
            simp [Stop.At, Wanted.visit_eq, before, allowed, answered, after, hides]
          · rename_i visible
            have visits : turn.visit tree = .ok servable := by
              simp [Wanted.visit_eq, before, allowed, answered, after, visible]
            obtain ⟨passed, left, same, stops, onward⟩ :=
              ih fun other member => met other (List.mem_cons_of_mem _ member)
            refine ⟨(turn, servable) :: passed, left, by rw [List.map_cons, same], stops, ?_⟩
            rw [visitAll_cons visits, onward]
            cases visitAll tree left <;> rfl

/-- A fetch is refused before a byte goes out, for the reason of the first hash that does not pass, or
every hash passes and they go out in order. -/
theorem fetch_refused_whole (tree : BaoTree) (slot : Bool) (wanted : List Wanted) :
    ((serve tree slot wanted).written = [] ∧ ∃ reset, (serve tree slot wanted).ending = some reset ∧
      ((slot = false ∧ reset.code = .limit) ∨
        (slot = true ∧ ∃ passed stuck rest, wanted = passed ++ stuck :: rest ∧
          (∀ earlier ∈ passed, ∃ servable, earlier.Passes tree servable) ∧
          (∀ servable, ¬stuck.Passes tree servable) ∧ reset.hash = some stuck.hash ∧
          (reset.code = .permission ↔ stuck.Final tree) ∧ (reset.code = .limit ↔ stuck.Retry tree)))) ∨
    (slot = true ∧ ∃ servables : List (Wanted × Servable), servables.map Prod.fst = wanted ∧
      (∀ entry ∈ servables, entry.1.Passes tree entry.2) ∧
      InOrder servables (serve tree slot wanted)) := by
  unfold serve
  cases slot with
  | false => exact .inl ⟨rfl, _, rfl, .inl ⟨rfl, rfl⟩⟩
  | true =>
      cases visited : visitAll tree wanted with
      | error reset =>
          obtain ⟨passed, stuck, rest, split, all, refused⟩ := visitAll_error visited
          have stops : ∀ servable, ¬stuck.Passes tree servable := by
            intro servable passes
            cases refused.symm.trans (Wanted.visit_ok_iff.mpr passes)
          have reason := Wanted.visit_error refused
          exact .inl ⟨rfl, reset, rfl, .inr ⟨rfl, passed, stuck, rest, split, all, stops, reason⟩⟩
      | ok servables =>
          have known := visitAll_ok visited
          exact .inr ⟨rfl, servables, known.1, known.2, sendAll_inOrder servables⟩

def hidingNode : V2State where
  publishing := some ⟨⟨none, none, 1, [], ⟨.local, false, "", none⟩⟩,
    Moderation.empty.applyCatalogBlock
      { subject := "alice", reason := "rights", reportId := none, by_ := "client:moderator", at_ := 0,
        liftedBy := none, liftedAt := none }⟩
  readers := ⟨false, "read", none⟩
  attributes := Table.empty

def shelvedDocument : Wanted where
  hash := "d0"
  before := hidingNode
  server := .new
  requests := ⟨.answered none, .answered (some (40000, some "alice")), .answered none⟩
  later := .new
  now := 0
  after := hidingNode
  sending := ⟨true, [], .delivered, .new⟩

/-- The outboard is asked for before the owner is looked at: such a document is to be tried again. -/
theorem hidden_document_retried :
    shelvedDocument.requests.Finds ⟨40000, .catalogDocument (some "alice")⟩ ∧
      Object.hidden shelvedDocument.after (.catalogDocument (some "alice")) = true ∧
      (serve pairedTree true [shelvedDocument]).written = [] ∧
      (serve pairedTree true [shelvedDocument]).ending =
        some ⟨.limit, "storage not ready", some "d0"⟩ := by
  refine ⟨.inr ⟨rfl, 40000, some "alice", rfl, rfl⟩, ?_⟩
  decide +kernel

end Serve

end TdfIrohS3
