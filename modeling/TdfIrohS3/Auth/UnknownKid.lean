import TdfIrohS3.Auth.Refresh

namespace TdfIrohS3

open Library

section KeySet

variable {Key : Type} {platform : AuthPlatform Key} {sign1 : CoseSign1}

def HasKey (platform : AuthPlatform Key) (sign1 : CoseSign1) (keys : List (List UInt8 × Key)) :
    Prop :=
  ∃ key, (Table.ofPairs keys).get sign1.header.keyId = some key ∧
    platform.verifies key sign1 = true

def Serves (platform : AuthPlatform Key) (sign1 : CoseSign1) (body : List UInt8) : Prop :=
  ∃ keys, parseCoseKeySet platform body = .ok keys ∧ HasKey platform sign1 keys

/-- The provider's key set holds the token's key throughout: a rotation never drops it. -/
def Throughout (platform : AuthPlatform Key) (sign1 : CoseSign1) (_ : List VerifyNotice)
    (_ : Verifying Key) (event : VerifyEvent) : Prop :=
  ∀ body, event = .publish body → Serves platform sign1 body

theorem usableKeys_kid (entries : List Cbor) :
    ∀ pair ∈ usableKeys platform entries, pair.1 ≠ [] := by
  induction entries with
  | nil =>
      intro pair member
      cases member
  | cons entry rest ih =>
      intro pair member
      simp only [usableKeys] at member
      split at member
      · exact ih pair member
      · split at member
        · exact ih pair member
        · split at member
          · exact ih pair member
          · rename_i named
            rcases List.mem_cons.mp member with rfl | later
            · simpa using named
            · exact ih pair later

theorem parseCoseKeySet_ok {body : List UInt8} {keys : List (List UInt8 × Key)}
    (parsed : parseCoseKeySet platform body = .ok keys) :
    ∃ entries, keys = usableKeys platform entries := by
  unfold parseCoseKeySet at parsed
  split at parsed
  · cases parsed
  · rename_i entries decoded
    rw [unless_error_ok] at parsed
    exact ⟨entries, (Except.ok.inj parsed.2).symm⟩
  · cases parsed

theorem Serves.kid {body : List UInt8} (serves : Serves platform sign1 body) :
    sign1.header.keyId ≠ [] := by
  obtain ⟨keys, parsed, key, found, -⟩ := serves
  obtain ⟨entries, rfl⟩ := parseCoseKeySet_ok parsed
  exact usableKeys_kid entries _ (Table.mem_of_get_ofPairs found)

theorem checkHeader_unknownKid (checked : checkHeader sign1 = .error .unknownKid) :
    sign1.header.keyId = [] := by
  by_contra named
  simp only [checkHeader, named, if_false] at checked
  split at checked
  · cases checked
  · split at checked <;> cases checked

end KeySet

namespace Verifying

variable {Key : Type} {platform : AuthPlatform Key} {sign1 : CoseSign1}
variable {verifying after start : Verifying Key} {event : VerifyEvent}
variable {notices log : List VerifyNotice}

def Carries (platform : AuthPlatform Key) (sign1 : CoseSign1) : CheckPhase Key → Prop
  | .received body => Serves platform sign1 body
  | .installing keys => HasKey platform sign1 keys
  | _ => True

structure Supplied (platform : AuthPlatform Key) (sign1 : CoseSign1) (log : List VerifyNotice)
    (verifying : Verifying Key) : Prop where
  url : verifying.coseKeysUrl ≠ none
  published : Serves platform sign1 verifying.published
  carried : ∀ id call, verifying.calls id = some call → Carries platform sign1 call.phase
  installed : ∀ id, .installed id ∈ log → verifying.keys.get sign1.header.keyId ≠ none

theorem Supplied.goOn {id : Nat} {token : CoseSign1} {phase : CheckPhase Key}
    (supplied : Supplied platform sign1 log verifying) (carries : Carries platform sign1 phase)
    (other : Nat) (call : SignCheck Key)
    (held : (verifying.goOn id token phase).calls other = some call) :
    Carries platform sign1 call.phase := by
  rcases held_of_fill held with ⟨-, rfl⟩ | earlier
  · exact carries
  · exact supplied.carried other call earlier

theorem supplied_effect (supplied : Supplied platform sign1 log verifying)
    (permitted : Throughout platform sign1 log verifying event)
    (effect : Effect platform verifying event after notices) :
    Supplied platform sign1 (notices ++ log) after := by
  have ended : ∀ {id : Nat} other call, (verifying.setCall id none).calls other = some call →
      Carries platform sign1 call.phase :=
    fun other call held => supplied.carried other call (held_of_clear held)
  have kept : (∀ id, .installed id ∉ notices) → ∀ id, .installed id ∈ notices ++ log →
      verifying.keys.get sign1.header.keyId ≠ none := by
    intro quiet id member
    rcases List.mem_append.mp member with new | old
    · exact absurd new (quiet id)
    · exact supplied.installed id old
  cases effect with
  | published body =>
      exact ⟨supplied.url, permitted body rfl, supplied.carried, supplied.installed⟩
  | refused =>
      exact ⟨supplied.url, supplied.published, supplied.carried, kept (by simp)⟩
  | cancelled | found | failed | unknown =>
      exact ⟨supplied.url, supplied.published, ended, kept (by simp)⟩
  | begun | missed | static | limited | claimed =>
      exact ⟨supplied.url, supplied.published, supplied.goOn trivial, kept (by simp)⟩
  | answered =>
      exact ⟨supplied.url, supplied.published, supplied.goOn supplied.published, supplied.installed⟩
  | received held parsed =>
      obtain ⟨keys, parsed', has⟩ := supplied.carried _ _ held
      cases parsed.symm.trans parsed'
      exact ⟨supplied.url, supplied.published, supplied.goOn has, supplied.installed⟩
  | installed held =>
      obtain ⟨key, found, -⟩ := supplied.carried _ _ held
      refine ⟨supplied.url, supplied.published, supplied.goOn trivial, ?_⟩
      intro id member
      change (Table.ofPairs _).get _ ≠ none
      rw [found]
      exact Option.some_ne_none key

def Missing (log : List VerifyNotice) (verifying : Verifying Key) : Prop :=
  (∀ id, .installed id ∉ log) → ∀ id call, verifying.calls id = some call →
    call.phase ≠ .looking → verifying.keys.get call.sign1.header.keyId = none

theorem missing_goOn {id : Nat} {call : SignCheck Key} {token : CoseSign1} {phase : CheckPhase Key}
    (missing : ∀ id call, verifying.calls id = some call → call.phase ≠ .looking →
      verifying.keys.get call.sign1.header.keyId = none)
    (held : verifying.calls id = some call) (same : call.sign1 = token)
    (past : call.phase ≠ .looking) (other : Nat) (call' : SignCheck Key)
    (held' : (verifying.goOn id token phase).calls other = some call')
    (past' : call'.phase ≠ .looking) :
    verifying.keys.get call'.sign1.header.keyId = none := by
  rcases held_of_fill held' with ⟨-, rfl⟩ | earlier
  · exact same ▸ missing id call held past
  · exact missing other call' earlier past'

theorem missing_effect (missing : Missing log verifying)
    (effect : Effect platform verifying event after notices) : Missing (notices ++ log) after := by
  intro none_installed
  have before := missing fun id member => none_installed id (List.mem_append_right _ member)
  cases effect with
  | published | refused => exact before
  | cancelled | found | failed | unknown =>
      intro other call held past
      exact before other call (held_of_clear held) past
  | begun =>
      intro other call held past
      rcases held_of_fill held with ⟨-, rfl⟩ | earlier
      · exact absurd rfl past
      · exact before other call earlier past
  | missed held absent =>
      intro other call held' past
      rcases held_of_fill held' with ⟨-, rfl⟩ | earlier
      · exact absent
      · exact before other call earlier past
  | static held | limited held | claimed held | answered held | received held =>
      exact missing_goOn before held rfl (fun looks => nomatch looks)
  | installed => exact absurd List.mem_cons_self (none_installed _)

def Stamped (start : Verifying Key) (log : List VerifyNotice) (verifying : Verifying Key) : Prop :=
  ∀ last, verifying.lastFetch = some last →
    start.lastFetch = some last ∨ ∃ id, .claimed id last ∈ log

theorem stamped_effect (stamped : Stamped start log verifying)
    (effect : Effect platform verifying event after notices) :
    Stamped start (notices ++ log) after := by
  have kept : ∀ last, verifying.lastFetch = some last →
      start.lastFetch = some last ∨ ∃ id, .claimed id last ∈ notices ++ log := by
    intro last held
    rcases stamped last held with first | ⟨id, claimed⟩
    · exact .inl first
    · exact .inr ⟨id, List.mem_append_right _ claimed⟩
  cases effect with
  | claimed held =>
      intro last stamp
      cases stamp
      exact .inr ⟨_, List.mem_cons_self⟩
  | _ => exact kept

structure Consistent (platform : AuthPlatform Key) (sign1 : CoseSign1) (start : Verifying Key)
    (log : List VerifyNotice) (verifying : Verifying Key) : Prop where
  supplied : Supplied platform sign1 log verifying
  told : ∀ id, Told log verifying id
  missing : Missing log verifying
  stamped : Stamped start log verifying

theorem consistent_start (idle : ∀ id, start.calls id = none) (url : start.coseKeysUrl ≠ none)
    (published : Serves platform sign1 start.published) :
    Consistent platform sign1 start [] start where
  supplied := ⟨url, published, fun id call held => by simp [idle] at held, fun id member => by
    cases member⟩
  told := by
    intro id
    simp [Told, idle, Silent]
  missing := by
    intro _ id call held
    simp [idle] at held
  stamped := fun _ first => .inl first

theorem consistent_run {last : Verifying Key} (idle : ∀ id, start.calls id = none)
    (url : start.coseKeysUrl ≠ none) (published : Serves platform sign1 start.published)
    (run : (verifierMachine platform).Run (Throughout platform sign1) [] start log last) :
    Consistent platform sign1 start log last := by
  refine run.invariant (Consistent platform sign1 start) (consistent_start idle url published) ?_
  intro log state event next notices before permitted taken
  have effect := machine_effect taken
  exact ⟨supplied_effect before.supplied permitted effect,
    told_effect before.supplied.url before.told effect, missing_effect before.missing effect,
    stamped_effect before.stamped effect⟩

theorem checkSignature_ne_unknownKid (key : Key) :
    checkSignature platform key sign1 ≠ .error .unknownKid := by
  intro refused
  unfold checkSignature at refused
  split at refused <;> cases refused

theorem limited_of_unknownKid {id : Nat} (consistent : Consistent platform sign1 start log verifying)
    (effect : Effect platform verifying event after [.returned id sign1 (.error .unknownKid)]) :
    (∃ now stamp, .limited id now stamp ∈ log) ∧ ∀ other, .installed other ∉ log := by
  generalize result : (.error .unknownKid : Except TokenError Unit) = outcome at effect
  cases effect with
  | refused checked =>
      cases result
      exact absurd (checkHeader_unknownKid checked) consistent.supplied.published.kid
  | found held looks present => exact absurd result.symm (checkSignature_ne_unknownKid _)
  | failed held fetches => cases result
  | unknown held absent =>
      have none_installed : ∀ other, .installed other ∉ log :=
        fun other member => consistent.supplied.installed other member absent
      rcases (told_some (consistent.told id) held).2 with limited | installed
      · exact ⟨limited, none_installed⟩
      · exact absurd installed (none_installed id)

/-- A call that was limited finds nothing before a key set is installed. -/
theorem unknownKid_of_limited {id now stamp : Nat} {result : Except TokenError Unit}
    (consistent : Consistent platform sign1 start log verifying)
    (effect : Effect platform verifying event after [.returned id sign1 result])
    (limited : .limited id now stamp ∈ log) (none_installed : ∀ other, .installed other ∉ log) :
    result = .error .unknownKid := by
  cases effect with
  | refused checked =>
      have silent := (told_fresh (consistent.told verifying.nextId)).2
      exact absurd rfl (silent _ limited)
  | @found _ _ _ phase key held looks present =>
      have agrees := (told_some (consistent.told id) held).2
      rcases looks with rfl | rfl
      · exact absurd rfl (agrees _ limited)
      · have absent := consistent.missing none_installed id _ held (fun looks => nomatch looks)
        rw [present] at absent
        cases absent
  | failed held fetches =>
      have agrees := (told_some (consistent.told id) held).2
      rcases fetches with ⟨url, rfl⟩ | ⟨body, rfl⟩
      · exact absurd limited (agrees now stamp)
      · exact absurd limited (agrees now stamp)
  | unknown held absent => rfl

/-- Who made the claim that a call was limited by. -/
theorem limited_by {id now stamp : Nat} (consistent : Consistent platform sign1 start log verifying)
    (effect : Effect platform verifying event after [.limited id now stamp]) :
    now - stamp < keyRefreshMinInterval ∧
      (start.lastFetch = some stamp ∨ ∃ other, other ≠ id ∧ .claimed other stamp ∈ log) := by
  cases effect with
  | limited held stamped recent =>
      have silent : Silent log id := (told_some (consistent.told id) held).2
      refine ⟨recent, ?_⟩
      rcases consistent.stamped stamp stamped with first | ⟨other, claimed⟩
      · exact .inl first
      · exact .inr ⟨other, fun same => silent _ claimed same, claimed⟩

/-- A token whose key the provider has throughout is refused for an unknown `kid` exactly when its
call was limited, by a claim younger than the interval that another call or the start made, and no
key set was installed before its second look-up. -/
theorem unknownKid_iff_limited {last : Verifying Key} {newer older : List VerifyNotice} {id : Nat}
    {result : Except TokenError Unit} (idle : ∀ id, start.calls id = none)
    (url : start.coseKeysUrl ≠ none) (published : Serves platform sign1 start.published)
    (run : (verifierMachine platform).Run (Throughout platform sign1) [] start log last)
    (history : log = newer ++ .returned id sign1 result :: older) :
    result = .error .unknownKid ↔
      (∃ now stamp, .limited id now stamp ∈ older ∧ now - stamp < keyRefreshMinInterval ∧
        (start.lastFetch = some stamp ∨
          ∃ other, other ≠ id ∧ .claimed other stamp ∈ older)) ∧
      ∀ other, .installed other ∉ older := by
  obtain ⟨state, event, next, earlier, -, taken⟩ := run.at_notice machine_single history
  have consistent := consistent_run idle url published earlier
  have effect := machine_effect taken
  constructor
  · rintro rfl
    obtain ⟨⟨now, stamp, limited⟩, none_installed⟩ := limited_of_unknownKid consistent effect
    obtain ⟨later, former, split⟩ := List.append_of_mem limited
    obtain ⟨state', event', next', earlier', -, taken'⟩ := earlier.at_notice machine_single split
    obtain ⟨recent, origin⟩ :=
      limited_by (consistent_run idle url published earlier') (machine_effect taken')
    refine ⟨⟨now, stamp, limited, recent, ?_⟩, none_installed⟩
    rcases origin with first | ⟨other, different, claimed⟩
    · exact .inl first
    · refine .inr ⟨other, different, ?_⟩
      rw [split]
      exact List.mem_append_right _ (List.mem_cons_of_mem _ claimed)
  · rintro ⟨⟨now, stamp, limited, -, -⟩, none_installed⟩
    exact unknownKid_of_limited consistent effect limited none_installed

section ColdStart

def baseX : List UInt8 :=
  [0x6B, 0x17, 0xD1, 0xF2, 0xE1, 0x2C, 0x42, 0x47, 0xF8, 0xBC, 0xE6, 0xE5, 0x63, 0xA4, 0x40, 0xF2,
    0x77, 0x03, 0x7D, 0x81, 0x2D, 0xEB, 0x33, 0xA0, 0xF4, 0xA1, 0x39, 0x45, 0xD8, 0x98, 0xC2, 0x96]

def baseY : List UInt8 :=
  [0x4F, 0xE3, 0x42, 0xE2, 0xFE, 0x1A, 0x7F, 0x9B, 0x8E, 0xE7, 0xEB, 0x4A, 0x7C, 0x0F, 0x9E, 0x16,
    0x2B, 0xCE, 0x33, 0x57, 0x6B, 0x31, 0x5E, 0xCE, 0xCB, 0xB6, 0x40, 0x68, 0x37, 0xBF, 0x51, 0xF5]

def keySetBody : List UInt8 :=
  [0x81, 0xA5, 1, 2, 2, 0x41, 1, 0x20, 1, 0x21, 0x58, 0x20] ++ baseX ++ [0x22, 0x58, 0x20] ++ baseY

def oneKey : AuthPlatform Unit where
  cbor body :=
    if body = keySetBody then
      some (.array [.map [(.integer 1, .integer 2), (.integer 2, .bytes [1]),
        (.integer (-1), .integer 1), (.integer (-2), .bytes baseX), (.integer (-3), .bytes baseY)]])
    else none
  decodeBase64Url _ := none
  encodeBase64Url _ := ""
  encodeBase64 _ := ""
  sign1 _ := none
  taggedSign1 _ := none
  coseKey
    | .map ((.integer 1, .integer 2) :: (.integer 2, .bytes kid) :: params) =>
        some ⟨.ec2, kid, params.filterMap fun
          | (.integer label, value) => some (.int label, value)
          | _ => none⟩
    | _ => none
  fromSec1 point := if point = 0x04 :: baseX ++ baseY then .ok () else .error "not a point"
  verifies _ sign1 := sign1.signature == [9]
  floatNumber _ := none
  debug _ := ""

def goodToken : CoseSign1 := ⟨⟨some .es256, [], none, [1]⟩, [], some [], [9]⟩

def coldStart : Verifying Unit where
  coseKeysUrl := some "https://identity.arkavo.net/.well-known/cose-keys"
  keys := Table.empty
  lastFetch := none
  published := keySetBody
  calls _ := none
  nextId := 0

theorem oneKey_serves : Serves oneKey goodToken coldStart.published := by
  refine ⟨[([1], ())], ?_, (), rfl, rfl⟩
  decide +kernel

/-- The key set stands as it is, every fetch is answered and no call is given up. -/
def Undisturbed (_ : List VerifyNotice) (_ : Verifying Unit) (event : VerifyEvent) : Prop :=
  (∀ body, event ≠ .publish body) ∧ (∀ id failure, event ≠ .fail id failure) ∧
    ∀ id, event ≠ .cancel id

def undisturbed (_ : List VerifyNotice) (_ : Verifying Unit) : VerifyEvent → Bool
  | .publish _ | .fail _ _ | .cancel _ => false
  | _ => true

theorem undisturbed_of_check (log : List VerifyNotice) (verifying : Verifying Unit)
    (event : VerifyEvent) (checked : undisturbed log verifying event = true) :
    Undisturbed log verifying event := by
  refine ⟨?_, ?_, ?_⟩
  · rintro body rfl
    cases checked
  · rintro id failure rfl
    cases checked
  · rintro id rfl
    cases checked

/-- Two requests at a cold start: the second looks up while the first is fetching, and is refused;
the first then installs the key set and verifies. -/
def twoRequests : List VerifyEvent :=
  [.verify goodToken, .verify goodToken, .lookUp 0, .claim 0 1000 1001, .lookUp 1,
    .claim 1 2000 2001, .lookAgain 1, .answer 0, .receive 0, .install 0, .lookAgain 0]

def twoRequestsLog : List VerifyNotice :=
  [.returned 0 goodToken (.ok ()), .installed 0, .returned 1 goodToken (.error .unknownKid),
    .limited 1 2000 1001, .claimed 0 1001]

theorem twoRequests_run : ∃ last, (verifierMachine oneKey).Run Undisturbed [] coldStart
    twoRequestsLog last := by
  have executed : ((verifierMachine oneKey).execute undisturbed twoRequests [] coldStart).map
      (fun ended => decide (ended.1 = twoRequestsLog)) = some true := by
    decide +kernel
  obtain ⟨log, last, run, same⟩ := Machine.execute_reaches undisturbed_of_check twoRequests
    (fun log _ => decide (log = twoRequestsLog)) executed
  exact ⟨last, of_decide_eq_true same ▸ run⟩

/-- A valid token is refused while another request fetches the key set, though no fetch fails. -/
theorem unknownKid_during_refresh : (∀ id, coldStart.calls id = none) ∧
    Serves oneKey goodToken coldStart.published ∧
    ∃ log last, (verifierMachine oneKey).Run Undisturbed [] coldStart log last ∧
      .returned 1 goodToken (.error .unknownKid) ∈ log := by
  obtain ⟨last, run⟩ := twoRequests_run
  exact ⟨fun _ => rfl, oneKey_serves, twoRequestsLog, last, run, by decide⟩

theorem unknownKid_iff_limited_cold_start :
    ((∃ now stamp, .limited 1 now stamp ∈ twoRequestsLog.drop 3 ∧
        now - stamp < keyRefreshMinInterval ∧
        (coldStart.lastFetch = some stamp ∨
          ∃ other, other ≠ 1 ∧ .claimed other stamp ∈ twoRequestsLog.drop 3)) ∧
      ∀ other, .installed other ∉ twoRequestsLog.drop 3) ∧
    ¬((∃ now stamp, .limited 0 now stamp ∈ twoRequestsLog.drop 1 ∧
        now - stamp < keyRefreshMinInterval ∧
        (coldStart.lastFetch = some stamp ∨
          ∃ other, other ≠ 0 ∧ .claimed other stamp ∈ twoRequestsLog.drop 1)) ∧
      ∀ other, .installed other ∉ twoRequestsLog.drop 1) := by
  obtain ⟨last, undisturbed⟩ := twoRequests_run
  have run : (verifierMachine oneKey).Run (Throughout oneKey goodToken) [] coldStart
      twoRequestsLog last :=
    undisturbed.mono fun _ _ event still body published => absurd published (still.1 body)
  have url : coldStart.coseKeysUrl ≠ none := Option.some_ne_none _
  constructor
  · have refused : twoRequestsLog = twoRequestsLog.take 2 ++
        .returned 1 goodToken (.error .unknownKid) :: twoRequestsLog.drop 3 := by decide
    exact (unknownKid_iff_limited (fun _ => rfl) url oneKey_serves run refused).mp rfl
  · have accepted : twoRequestsLog = twoRequestsLog.take 0 ++
        .returned 0 goodToken (.ok ()) :: twoRequestsLog.drop 1 := by decide
    intro limited
    cases (unknownKid_iff_limited (fun _ => rfl) url oneKey_serves run accepted).mpr limited

end ColdStart

end Verifying

end TdfIrohS3
