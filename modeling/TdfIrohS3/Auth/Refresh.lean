import TdfIrohS3.Auth.Verifier
import TdfIrohS3.Library.Slots

namespace TdfIrohS3

open Library

namespace Verifying

variable {Key : Type} {platform : AuthPlatform Key}

/-- What a step can do. -/
inductive Effect (platform : AuthPlatform Key) (verifying : Verifying Key) :
    VerifyEvent → Verifying Key → List VerifyNotice → Prop
  | published (body : List UInt8) :
      Effect platform verifying (.publish body) { verifying with published := body } []
  | refused {sign1 : CoseSign1} {why : TokenError} (checked : checkHeader sign1 = .error why) :
      Effect platform verifying (.verify sign1) { verifying with nextId := verifying.nextId + 1 }
        [.returned verifying.nextId sign1 (.error why)]
  | begun {sign1 : CoseSign1} (checked : checkHeader sign1 = .ok sign1.header.keyId) :
      Effect platform verifying (.verify sign1)
        { verifying.goOn verifying.nextId sign1 .looking with nextId := verifying.nextId + 1 } []
  | cancelled {id : Nat} {call : SignCheck Key} (held : verifying.calls id = some call) :
      Effect platform verifying (.cancel id) (verifying.setCall id none) []
  | found {event : VerifyEvent} {id : Nat} {sign1 : CoseSign1} {phase : CheckPhase Key} {key : Key}
      (held : verifying.calls id = some ⟨sign1, phase⟩)
      (looks : phase = .looking ∨ phase = .lookingAgain)
      (present : verifying.keys.get sign1.header.keyId = some key) :
      Effect platform verifying event (verifying.setCall id none)
        [.returned id sign1 (checkSignature platform key sign1)]
  | missed {id : Nat} {sign1 : CoseSign1} (held : verifying.calls id = some ⟨sign1, .looking⟩)
      (absent : verifying.keys.get sign1.header.keyId = none) :
      Effect platform verifying (.lookUp id) (verifying.goOn id sign1 .refreshing) []
  | static {event : VerifyEvent} {id : Nat} {sign1 : CoseSign1}
      (held : verifying.calls id = some ⟨sign1, .refreshing⟩)
      (fixed : verifying.coseKeysUrl = none) :
      Effect platform verifying event (verifying.goOn id sign1 .lookingAgain) []
  | limited {event : VerifyEvent} {id now last : Nat} {sign1 : CoseSign1}
      (held : verifying.calls id = some ⟨sign1, .refreshing⟩)
      (stamped : verifying.lastFetch = some last) (recent : now - last < keyRefreshMinInterval) :
      Effect platform verifying event (verifying.goOn id sign1 .lookingAgain)
        [.limited id now last]
  | claimed {event : VerifyEvent} {id stamp : Nat} {sign1 : CoseSign1} {url : String}
      (held : verifying.calls id = some ⟨sign1, .refreshing⟩) :
      Effect platform verifying event
        { verifying.goOn id sign1 (.fetching url) with lastFetch := some stamp } [.claimed id stamp]
  | answered {id : Nat} {sign1 : CoseSign1} {url : String}
      (held : verifying.calls id = some ⟨sign1, .fetching url⟩) :
      Effect platform verifying (.answer id)
        (verifying.goOn id sign1 (.received verifying.published)) []
  | failed {event : VerifyEvent} {id : Nat} {sign1 : CoseSign1} {phase : CheckPhase Key}
      {why : String} (held : verifying.calls id = some ⟨sign1, phase⟩)
      (fetches : (∃ url, phase = .fetching url) ∨ ∃ body, phase = .received body) :
      Effect platform verifying event (verifying.setCall id none)
        [.returned id sign1 (.error (.keySet why))]
  | received {id : Nat} {sign1 : CoseSign1} {body : List UInt8} {keys : List (List UInt8 × Key)}
      (held : verifying.calls id = some ⟨sign1, .received body⟩)
      (parsed : parseCoseKeySet platform body = .ok keys) :
      Effect platform verifying (.receive id) (verifying.goOn id sign1 (.installing keys)) []
  | installed {id : Nat} {sign1 : CoseSign1} {keys : List (List UInt8 × Key)}
      (held : verifying.calls id = some ⟨sign1, .installing keys⟩) :
      Effect platform verifying (.install id)
        { verifying.goOn id sign1 .lookingAgain with keys := Table.ofPairs keys } [.installed id]
  | unknown {id : Nat} {sign1 : CoseSign1} (held : verifying.calls id = some ⟨sign1, .lookingAgain⟩)
      (absent : verifying.keys.get sign1.header.keyId = none) :
      Effect platform verifying (.lookAgain id) (verifying.setCall id none)
        [.returned id sign1 (.error .unknownKid)]

variable {verifying after : Verifying Key} {event : VerifyEvent} {notices : List VerifyNotice}

theorem checkHeader_ok {sign1 : CoseSign1} {kid : List UInt8} (checked : checkHeader sign1 = .ok kid) :
    kid = sign1.header.keyId := by
  simp only [checkHeader, unless_error_ok, Except.ok.injEq] at checked
  exact checked.2.2.2.symm

theorem verify_effect (sign1 : CoseSign1) :
    Effect platform verifying (.verify sign1) (verifying.verify sign1).1
      (verifying.verify sign1).2 := by
  cases checked : checkHeader sign1 with
  | error why =>
      simp only [verify, checked]
      exact .refused checked
  | ok kid =>
      simp only [verify, checked]
      exact .begun (by rw [checked, checkHeader_ok checked])

theorem lookUp_effect {id : Nat} {sign1 : CoseSign1}
    (held : verifying.calls id = some ⟨sign1, .looking⟩) :
    Effect platform verifying (.lookUp id) (verifying.lookUp platform id sign1).1
      (verifying.lookUp platform id sign1).2 := by
  cases looked : verifying.keys.get sign1.header.keyId with
  | some key =>
      simp only [lookUp, looked]
      exact .found held (.inl rfl) looked
  | none =>
      simp only [lookUp, looked]
      exact .missed held looked

theorem claimSlot_effect {id now stamp : Nat} {sign1 : CoseSign1}
    (held : verifying.calls id = some ⟨sign1, .refreshing⟩) :
    Effect platform verifying event (verifying.claimSlot id sign1 now stamp).1
      (verifying.claimSlot id sign1 now stamp).2 := by
  cases fixed : verifying.coseKeysUrl with
  | none =>
      simp only [claimSlot, fixed]
      exact .static held fixed
  | some url =>
      cases young : verifying.lastFetch.filter fun last => now - last < keyRefreshMinInterval with
      | some last =>
          simp only [claimSlot, fixed, young]
          obtain ⟨stamped, recent⟩ := Option.filter_eq_some_iff.mp young
          exact .limited held stamped (of_decide_eq_true recent)
      | none =>
          simp only [claimSlot, fixed, young]
          exact .claimed held

theorem receive_effect {id : Nat} {sign1 : CoseSign1} {body : List UInt8}
    (held : verifying.calls id = some ⟨sign1, .received body⟩) :
    Effect platform verifying (.receive id) (verifying.receive platform id sign1 body).1
      (verifying.receive platform id sign1 body).2 := by
  cases parsed : parseCoseKeySet platform body with
  | error why =>
      simp only [receive, parsed]
      exact .failed held (.inr ⟨body, rfl⟩)
  | ok keys =>
      simp only [receive, parsed]
      exact .received held parsed

theorem lookAgain_effect {id : Nat} {sign1 : CoseSign1}
    (held : verifying.calls id = some ⟨sign1, .lookingAgain⟩) :
    Effect platform verifying (.lookAgain id) (verifying.lookAgain platform id sign1).1
      (verifying.lookAgain platform id sign1).2 := by
  cases looked : verifying.keys.get sign1.header.keyId with
  | some key =>
      simp only [lookAgain, looked]
      exact .found held (.inr rfl) looked
  | none =>
      simp only [lookAgain, looked]
      exact .unknown held looked

theorem Effect.of_pair {moved : Verifying Key × List VerifyNotice}
    (taken : some moved = some (after, notices))
    (effect : Effect platform verifying event moved.1 moved.2) :
    Effect platform verifying event after notices := by
  rw [Option.some.inj taken] at effect
  exact effect

theorem advance_effect {call : SignCheck Key} {id : Nat} (moves : event.call = some id)
    (held : verifying.calls id = some call)
    (taken : verifying.advance platform call event = some (after, notices)) :
    Effect platform verifying event after notices := by
  obtain ⟨sign1, phase⟩ := call
  cases event with
  | publish body => cases moves
  | verify token => cases moves
  | cancel other =>
      cases moves
      cases taken
      exact .cancelled held
  | lookUp other | claim other now stamp | answer other | fail other failure | receive other
  | install other | lookAgain other =>
      cases moves
      cases phase <;> first
        | exact .of_pair taken (lookUp_effect held)
        | exact .of_pair taken (claimSlot_effect held)
        | exact .of_pair taken (receive_effect held)
        | exact .of_pair taken (lookAgain_effect held)
        | exact .of_pair taken (.answered held)
        | exact .of_pair taken (.failed held (.inl ⟨_, rfl⟩))
        | exact .of_pair taken (.installed held)
        | cases taken

theorem machine_effect (taken : (verifierMachine platform).next verifying event =
    some (after, notices)) : Effect platform verifying event after notices := by
  cases event with
  | publish body =>
      cases taken
      exact .published body
  | verify sign1 => exact .of_pair taken (verify_effect sign1)
  | cancel id | lookUp id | claim id now stamp | answer id | fail id failure | receive id
  | install id | lookAgain id =>
      obtain ⟨call, held, moved⟩ := Option.bind_eq_some_iff.mp taken
      exact advance_effect rfl held moved

theorem effect_single (effect : Effect platform verifying event after notices) :
    notices.length ≤ 1 := by
  cases effect <;> simp

theorem machine_single (verifying : Verifying Key) (event : VerifyEvent) (after : Verifying Key)
    (notices : List VerifyNotice)
    (taken : (verifierMachine platform).next verifying event = some (after, notices)) :
    notices.length ≤ 1 :=
  effect_single (machine_effect taken)

section Calls

@[simp] theorem setCall_calls_self (verifying : Verifying Key) (id : Nat)
    (call : Option (SignCheck Key)) : (verifying.setCall id call).calls id = call :=
  Function.update_self _ _ _

theorem setCall_calls_of_ne {id other : Nat} (verifying : Verifying Key)
    (call : Option (SignCheck Key)) (different : other ≠ id) :
    (verifying.setCall id call).calls other = verifying.calls other :=
  Function.update_of_ne different _ _

end Calls

section Answers

variable {start last : Verifying Key} {log : List VerifyNotice}

def Checked (verifying : Verifying Key) : Prop :=
  ∀ id call, verifying.calls id = some call →
    checkHeader call.sign1 = .ok call.sign1.header.keyId

theorem checked_goOn {id : Nat} {sign1 : CoseSign1} {phase : CheckPhase Key}
    (checked : Checked verifying) (header : checkHeader sign1 = .ok sign1.header.keyId) :
    Checked (verifying.goOn id sign1 phase) := by
  intro other call held
  rcases held_of_fill held with ⟨-, rfl⟩ | earlier
  · exact header
  · exact checked other call earlier

theorem checked_effect (checked : Checked verifying)
    (effect : Effect platform verifying event after notices) : Checked after := by
  cases effect with
  | published | refused => exact checked
  | begun header => exact checked_goOn checked header
  | cancelled | found | failed | unknown =>
      intro other call held
      exact checked other call (held_of_clear held)
  | missed held | static held | limited held | claimed held | answered held | received held
  | installed held => exact checked_goOn checked (checked _ _ held)

theorem verifySign1_of_checked {sign1 : CoseSign1} {kid : List UInt8} (answers : KeyAnswers Key)
    (header : checkHeader sign1 = .ok kid) :
    verifySign1 platform answers sign1 =
      match answers.cached.get kid with
      | some key => checkSignature platform key sign1
      | none =>
          match answers.refreshed with
          | .error why => .error (.keySet why)
          | .ok keys =>
              match keys.get kid with
              | some key => checkSignature platform key sign1
              | none => .error .unknownKid := by
  simp only [verifySign1, header]
  rfl

/-- What a step returns, `verify_sign1` returns with some answers to its look-ups. -/
theorem effect_verifySign1 {id : Nat} {sign1 : CoseSign1} {result : Except TokenError Unit}
    (checked : Checked verifying)
    (effect : Effect platform verifying event after [.returned id sign1 result]) :
    ∃ answers, result = verifySign1 platform answers sign1 := by
  cases effect with
  | refused header =>
      refine ⟨⟨Table.empty, .ok Table.empty⟩, ?_⟩
      simp only [verifySign1, header]
      rfl
  | found held looks present =>
      refine ⟨⟨verifying.keys, .ok Table.empty⟩, ?_⟩
      simp only [verifySign1_of_checked _ (checked _ _ held), present]
  | @failed _ _ _ phase why held fetches =>
      refine ⟨⟨Table.empty, .error why⟩, ?_⟩
      simp only [verifySign1_of_checked _ (checked _ _ held), Table.get_empty]
  | unknown held absent =>
      refine ⟨⟨Table.empty, .ok Table.empty⟩, ?_⟩
      simp only [verifySign1_of_checked _ (checked _ _ held), Table.get_empty]

/-- Whatever the interleaving, each call returns what `verify_sign1` returns with some answers. -/
theorem returned_verifySign1 {allowed : List VerifyNotice → Verifying Key → VerifyEvent → Prop}
    {id : Nat} {sign1 : CoseSign1} {result : Except TokenError Unit}
    (idle : ∀ id, start.calls id = none)
    (run : (verifierMachine platform).Run allowed [] start log last)
    (returned : .returned id sign1 result ∈ log) :
    ∃ answers, result = verifySign1 platform answers sign1 := by
  obtain ⟨newer, older, history⟩ := List.append_of_mem returned
  obtain ⟨state, event, next, earlier, -, taken⟩ := run.at_notice machine_single history
  have checked : Checked state := by
    refine earlier.state_invariant Checked ?_ ?_
    · intro id call held
      rw [idle] at held
      cases held
    · intro log before input after notices checked _ moved
      exact checked_effect checked (machine_effect moved)
  exact effect_verifySign1 checked (machine_effect taken)

end Answers

section History

variable {log : List VerifyNotice} {id : Nat}

def Silent (log : List VerifyNotice) (id : Nat) : Prop := ∀ notice ∈ log, notice.id ≠ id

def Unlimited (log : List VerifyNotice) (id : Nat) : Prop :=
  ∀ now last, .limited id now last ∉ log

def Agrees (log : List VerifyNotice) (id : Nat) : CheckPhase Key → Prop
  | .looking | .refreshing => Silent log id
  | .fetching _ | .received _ | .installing _ => Unlimited log id
  | .lookingAgain => (∃ now last, .limited id now last ∈ log) ∨ .installed id ∈ log

def Told (log : List VerifyNotice) (verifying : Verifying Key) (id : Nat) : Prop :=
  match verifying.calls id with
  | none => verifying.nextId ≤ id → Silent log id
  | some call => id < verifying.nextId ∧ Agrees log id call.phase

theorem Silent.unlimited (silent : Silent log id) : Unlimited log id := by
  intro now last member
  exact silent _ member rfl

theorem Silent.append (silent : Silent log id) (elsewhere : Silent notices id) :
    Silent (notices ++ log) id := by
  intro notice member
  rcases List.mem_append.mp member with new | old
  · exact elsewhere notice new
  · exact silent notice old

theorem Unlimited.append (unlimited : Unlimited log id) (elsewhere : Unlimited notices id) :
    Unlimited (notices ++ log) id := by
  intro now last member
  rcases List.mem_append.mp member with new | old
  · exact elsewhere now last new
  · exact unlimited now last old

theorem Agrees.append {phase : CheckPhase Key} (agrees : Agrees log id phase)
    (elsewhere : Silent notices id) : Agrees (notices ++ log) id phase := by
  cases phase with
  | looking | refreshing => exact Silent.append agrees elsewhere
  | fetching | received | installing => exact Unlimited.append agrees elsewhere.unlimited
  | lookingAgain =>
      rcases agrees with ⟨now, last, limited⟩ | installed
      · exact .inl ⟨now, last, List.mem_append_right _ limited⟩
      · exact .inr (List.mem_append_right _ installed)

theorem told_some {call : SignCheck Key} (told : Told log verifying id)
    (held : verifying.calls id = some call) :
    id < verifying.nextId ∧ Agrees log id call.phase := by
  simpa only [Told, held] using told

theorem told_fresh (told : Told log verifying verifying.nextId) :
    verifying.calls verifying.nextId = none ∧ Silent log verifying.nextId := by
  cases held : verifying.calls verifying.nextId with
  | none =>
      simp only [Told, held] at told
      exact ⟨rfl, told (Nat.le_refl _)⟩
  | some call => exact absurd (told_some told held).1 (Nat.lt_irrefl _)

theorem told_step {acting : Nat} (told : ∀ id, Told log verifying id)
    (others : ∀ id, id ≠ acting → after.calls id = verifying.calls id)
    (grown : verifying.nextId ≤ after.nextId) (about : ∀ notice ∈ notices, notice.id = acting)
    (begun : acting < after.nextId)
    (agrees : ∀ call, after.calls acting = some call → Agrees (notices ++ log) acting call.phase) :
    ∀ id, Told (notices ++ log) after id := by
  intro id
  by_cases same : id = acting
  · rw [same]
    cases held : after.calls acting with
    | none =>
        simp only [Told, held]
        intro unborn
        omega
    | some call =>
        simp only [Told, held]
        exact ⟨begun, agrees call held⟩
  · have elsewhere : Silent notices id := by
      intro notice member about'
      exact same (about'.symm.trans (about notice member))
    have story := told id
    cases held : verifying.calls id with
    | none =>
        simp only [Told, others id same, held] at story ⊢
        intro unborn
        exact (story (by omega)).append elsewhere
    | some call =>
        simp only [Told, others id same, held] at story ⊢
        exact ⟨by omega, story.2.append elsewhere⟩

theorem told_ended {call : SignCheck Key} (told : ∀ id, Told log verifying id)
    (held : verifying.calls id = some call) (about : ∀ notice ∈ notices, notice.id = id) :
    ∀ other, Told (notices ++ log) (verifying.setCall id none) other := by
  refine told_step told (fun other different => setCall_calls_of_ne verifying none different)
    (Nat.le_refl _) about (told_some (told id) held).1 ?_
  intro call' held'
  rw [setCall_calls_self] at held'
  cases held'

theorem told_goOn {call : SignCheck Key} {sign1 : CoseSign1} {phase : CheckPhase Key}
    (told : ∀ id, Told log verifying id) (held : verifying.calls id = some call)
    (calls : after.calls = (verifying.goOn id sign1 phase).calls)
    (same : after.nextId = verifying.nextId) (about : ∀ notice ∈ notices, notice.id = id)
    (agrees : Agrees (notices ++ log) id phase) : ∀ other, Told (notices ++ log) after other := by
  have begun := (told_some (told id) held).1
  refine told_step told ?_ (by omega) about (by omega) ?_
  · intro other different
    rw [calls]
    exact setCall_calls_of_ne verifying _ different
  · intro call' held'
    rw [calls, goOn, setCall_calls_self] at held'
    cases held'
    exact agrees

theorem told_effect (url : verifying.coseKeysUrl ≠ none) (told : ∀ id, Told log verifying id)
    (effect : Effect platform verifying event after notices) :
    ∀ id, Told (notices ++ log) after id := by
  cases effect with
  | published body => exact told
  | refused checked =>
      have fresh := (told_fresh (told verifying.nextId)).1
      refine told_step told (fun other _ => rfl) (Nat.le_succ _) (by simp [VerifyNotice.id])
        (Nat.lt_succ_self _) ?_
      intro call held
      rw [fresh] at held
      cases held
  | begun checked =>
      have silent := (told_fresh (told verifying.nextId)).2
      refine told_step told (fun other different => setCall_calls_of_ne verifying _ different)
        (Nat.le_succ _) (by simp) (Nat.lt_succ_self _) ?_
      intro call held
      rcases Option.some.inj ((setCall_calls_self verifying _ _).symm.trans held) with rfl
      exact silent
  | cancelled held => exact told_ended told held (by simp)
  | found held | failed held | unknown held => exact told_ended told held (by simp [VerifyNotice.id])
  | missed held =>
      exact told_goOn told held rfl rfl (by simp) (told_some (told _) held).2
  | static held fixed => exact absurd fixed url
  | limited held =>
      exact told_goOn told held rfl rfl (by simp [VerifyNotice.id])
        (.inl ⟨_, _, List.mem_cons_self⟩)
  | claimed held =>
      have silent : Silent log _ := (told_some (told _) held).2
      refine told_goOn told held rfl rfl (by simp [VerifyNotice.id]) ?_
      exact Unlimited.append silent.unlimited (by simp [Unlimited])
  | answered held | received held =>
      exact told_goOn told held rfl rfl (by simp) (told_some (told _) held).2
  | installed held =>
      exact told_goOn told held rfl rfl (by simp [VerifyNotice.id]) (.inr List.mem_cons_self)

end History

end Verifying

end TdfIrohS3
