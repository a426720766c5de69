import TdfIrohS3.Publish.Authorization

namespace TdfIrohS3.Cluster

open Library

/-- Both clocks of every instance show one common time: the monotonic one counts from `epoch`. -/
def InStep (epoch : Nat) (clock : Clock) : Prop := clock.unix.val = clock.instant + epoch

def Timed (epoch ttl : Nat) (cluster : Cluster) : Event → Prop
  | .tick _ clock => InStep epoch clock
  | .restart _ _ clock => InStep epoch clock
  | .lookedUp push _ => ∀ task, cluster.pushes push = some task →
      (cluster.nodes task.gate).gate.sessionTtl = ttl
  | _ => True

/-- A record the store answers with that has time left has less than `ttl`: whole seconds, and one
more for the part of a second that `now_secs` drops. -/
def ShortLived (platform : Platform) (ttl : Nat) (cluster : Cluster) : Event → Prop
  | .lookedUp push (.found body) => ∀ task record, cluster.pushes push = some task →
      (cluster.nodes task.gate).gate.unsealRecord platform body = some record →
      record.endpointId = task.endpoint.toString →
      0 < wrappingSub record.expiresAt (nowSecs (cluster.nodes task.gate).clock) →
      (wrappingSub record.expiresAt (nowSecs (cluster.nodes task.gate).clock) + 1) * nanos ≤ ttl
  | _ => True

section Bound

variable {platform : Platform} {secret : List UInt8} {log notices : List Notice}
variable {cluster after : Cluster} {event : Event} {epoch ttl : Nat}

theorem clocks_in_step (tracked : RequestsTracked log cluster)
    (steady : ∀ gate, InStep epoch (cluster.nodes gate).clock)
    (timed : Timed epoch ttl cluster event)
    (effect : Effect platform secret cluster event after notices) (gate : Nat) :
    InStep epoch (after.nodes gate).clock := by
  have move := effect_node tracked effect gate
  generalize after.nodes gate = node at move
  cases move with
  | kept same quiet =>
      rw [same.clock]
      exact steady gate
  | ticked clock later => exact timed
  | restarted settings clock => exact timed
  | _ => exact steady gate

def ReadBacksShort (epoch ttl : Nat) (log : List Notice) : Prop :=
  ∀ gate endpoint record looked expires, Notice.readBack gate endpoint record looked expires ∈ log →
    InStep epoch looked ∧ (wrappingSub record.expiresAt (nowSecs looked) + 1) * nanos ≤ ttl

theorem read_backs_short_step (short : ReadBacksShort epoch ttl log)
    (steady : ∀ gate, InStep epoch (cluster.nodes gate).clock)
    (limited : ShortLived platform ttl cluster event)
    (effect : Effect platform secret cluster event after notices) :
    ReadBacksShort epoch ttl (notices ++ log) := by
  intro gate endpoint record looked expires member
  rcases List.mem_append.mp member with now | earlier
  · obtain ⟨push, answer, task, rfl, inFlight, rfl, rfl, accepted, rfl, -⟩ :=
      effect_readBack effect now
    obtain ⟨body, rfl, unsealed, named, left⟩ := PublishGate.acceptedRecord_eq_some accepted
    exact ⟨steady task.gate, limited task record inFlight unsealed named left⟩
  · exact short gate endpoint record looked expires earlier

theorem read_backs_short_run {start : Cluster} (fresh : Fresh start)
    (steady : ∀ gate, InStep epoch (start.nodes gate).clock)
    (run : (machine platform secret).Run (fun _ cluster event => Timed epoch ttl cluster event ∧
      ShortLived platform ttl cluster event) [] start log cluster) :
    (∀ gate, InStep epoch (cluster.nodes gate).clock) ∧ ReadBacksShort epoch ttl log := by
  have nothing : ReadBacksShort epoch ttl [] := by
    intro gate endpoint record looked expires member
    cases member
  have bounded := run.invariant (fun log cluster => Traced platform secret log cluster ∧
    (∀ gate, InStep epoch (cluster.nodes gate).clock) ∧ ReadBacksShort epoch ttl log)
    ⟨fresh_traced fresh, steady, nothing⟩ ?_
  · exact bounded.2
  · rintro log cluster event next notices ⟨traced, steady, shortLog⟩ ⟨timed, short⟩ taken
    have effect := machine_effect taken
    exact ⟨traced_step traced effect, clocks_in_step traced.tracked steady timed effect,
      read_backs_short_step shortLog steady short effect⟩

/-- Two readings of the clock that both leave a record time: it lost what the clock went on. -/
theorem wrappingSub_shift {first again : Clock} {expiresAt : Int}
    (live : 0 < wrappingSub expiresAt (nowSecs first))
    (unexpired : 0 < wrappingSub expiresAt (nowSecs again)) :
    wrappingSub expiresAt (nowSecs again) =
      wrappingSub expiresAt (nowSecs first) + nowSecs first - nowSecs again := by
  have firstPast := nowSecs_nonneg first
  have againPast := nowSecs_nonneg again
  have firstBelow := nowSecs_lt first
  have againBelow := nowSecs_lt again
  obtain ⟨turns, difference, -, high⟩ := bmod_spec (expiresAt - nowSecs first)
  obtain ⟨turns', difference', -, high'⟩ := bmod_spec (expiresAt - nowSecs again)
  simp only [wrappingSub] at *
  omega

/-- A record accepted at `first` with less than `ttl` left, and looked up again at `again`, is not
held beyond `ttl` after `first`. -/
theorem held_within_ttl {first again now : Clock} {expiresAt : Int} {expires : Nat}
    (firstInStep : InStep epoch first) (againInStep : InStep epoch again)
    (live : 0 < wrappingSub expiresAt (nowSecs first))
    (short : (wrappingSub expiresAt (nowSecs first) + 1) * nanos ≤ ttl)
    (unexpired : 0 < wrappingSub expiresAt (nowSecs again))
    (held : expires ≤ again.instant + (wrappingSub expiresAt (nowSecs again)).toNat * nanos)
    (used : again = now ∨ now.instant < expires) : now.instant ≤ first.instant + ttl := by
  have left := wrappingSub_shift live unexpired
  simp only [InStep, nowSecs, nanos] at *
  rcases used with rfl | before
  · omega
  · omega

/-- The bound, under its condition: no push is accepted on the strength of a record later than `ttl`
after any time at which some gate accepted that record. -/
theorem stored_session_within_ttl (platform : Platform) (secret : List UInt8) (epoch ttl : Nat)
    (start : Cluster) (fresh : Fresh start)
    (steady : ∀ gate, InStep epoch (start.nodes gate).clock) (log : List Notice)
    (cluster : Cluster)
    (run : (machine platform secret).Run (fun _ cluster event => Timed epoch ttl cluster event ∧
      ShortLived platform ttl cluster event) [] start log cluster)
    (event : Event)
    (permitted : Timed epoch ttl cluster event ∧ ShortLived platform ttl cluster event)
    (after : Cluster) (notices : List Notice)
    (taken : (machine platform secret).next cluster event = some (after, notices))
    (push gate connection : Nat) (hashHex s : String) (e : EndpointId)
    (accepted : Notice.accepted push gate connection hashHex s e ∈ notices)
    (record : SessionRecord) (looked : Clock) (expires : Nat)
    (strength : source gate e (notices ++ log) = some (.stored record looked expires))
    (gate' : Nat) (e' : EndpointId) (first : Clock) (expires' : Nat)
    (firstAccepted : Notice.readBack gate' e' record first expires' ∈ notices ++ log) :
    (cluster.nodes gate).clock.instant ≤ first.instant + ttl := by
  have effect := machine_effect taken
  have traced := run_traced fresh run
  have bounded := read_backs_short_run fresh steady run
  have shortLog := read_backs_short_step bounded.2 bounded.1 permitted.2 effect
  obtain ⟨-, -, -, origin, found, -, live, -⟩ := accepted_source traced effect accepted
  rw [strength] at found
  obtain rfl := Option.some.inj found
  have member := source_record_mem strength
  obtain ⟨firstInStep, firstShort⟩ := shortLog gate' e' record first expires' firstAccepted
  obtain ⟨lookedInStep, -⟩ := shortLog gate e record looked expires member
  have timely := (traced_step traced effect).timely
  obtain ⟨firstLive, -⟩ := timely gate' e' record first expires' firstAccepted
  obtain ⟨unexpired, held⟩ := timely gate e record looked expires member
  exact held_within_ttl firstInStep lookedInStep firstLive firstShort unexpired held live.2

end Bound

section Overrun

def timedCheck (epoch ttl : Nat) (cluster : Cluster) : Event → Bool
  | .tick _ clock => decide (clock.unix.val = clock.instant + epoch)
  | .restart _ _ clock => decide (clock.unix.val = clock.instant + epoch)
  | .lookedUp push _ =>
      match cluster.pushes push with
      | some task => decide ((cluster.nodes task.gate).gate.sessionTtl = ttl)
      | none => true
  | _ => true

theorem timed_of_check {epoch ttl : Nat} {cluster : Cluster} {event : Event}
    (checked : timedCheck epoch ttl cluster event = true) : Timed epoch ttl cluster event := by
  cases event with
  | tick gate clock =>
      simp only [timedCheck, decide_eq_true_eq] at checked
      exact checked
  | restart gate settings clock =>
      simp only [timedCheck, decide_eq_true_eq] at checked
      exact checked
  | lookedUp push answer =>
      intro task inFlight
      simp only [timedCheck, inFlight] at checked
      exact of_decide_eq_true checked
  | _ => exact trivial

def shortLivedCheck (platform : Platform) (ttl : Nat) (cluster : Cluster) : Event → Bool
  | .lookedUp push (.found body) =>
      match cluster.pushes push with
      | some task =>
          match (cluster.nodes task.gate).gate.unsealRecord platform body with
          | some record => decide ((wrappingSub record.expiresAt
              (nowSecs (cluster.nodes task.gate).clock) + 1) * nanos ≤ ttl)
          | none => true
      | none => true
  | _ => true

theorem shortLived_of_check {platform : Platform} {ttl : Nat} {cluster : Cluster} {event : Event}
    (checked : shortLivedCheck platform ttl cluster event = true) :
    ShortLived platform ttl cluster event := by
  cases event with
  | lookedUp push answer =>
      cases answer with
      | found body =>
          intro task record inFlight unsealed _ _
          simp only [shortLivedCheck, inFlight, unsealed] at checked
          exact of_decide_eq_true checked
      | _ => exact trivial
  | _ => exact trivial

def lastLooked (gate : Nat) (record : SessionRecord) (log : List Notice) : Option Clock :=
  match source gate sampleEndpoint log with
  | some (.stored record' looked _) => if record' = record then some looked else none
  | _ => none

theorem source_of_lastLooked {gate : Nat} {record : SessionRecord} {log : List Notice}
    {looked : Clock} (last : lastLooked gate record log = some looked) :
    ∃ expires, source gate sampleEndpoint log = some (.stored record looked expires) := by
  unfold lastLooked at last
  split at last
  · rename_i record' looked' expires found
    split at last
    · rename_i same
      cases last
      subst same
      exact ⟨expires, found⟩
    · cases last
  · cases last

def minuteStart (openTtl : Nat) : Cluster :=
  sampleStart fun gate => if gate = 0 then sampleSettings .local openTtl openTtl
    else sampleSettings .local 60 60

def readBackAndPush (answer : Nat → Event) (later : Nat) : List Event :=
  sampleOpening 0 0 "arkavo:alice" none ++
    [.recordPut 0, .setSessionKey 1, .connected 1 5 (some sampleEndpoint),
      .authorizePush 0 1 5 "ab", answer 0, .tick 1 (sampleClock later)]

def dayLongSession : SessionRecord := sampleRecord "arkavo:alice" 87400 none

def dayLongAnswer (push : Nat) : Event :=
  .lookedUp push (.found (sampleBody (samplePlatform [dayLongSession]) dayLongSession))

def Overrun (log : List Notice) (cluster : Cluster) (event : Event) : Prop :=
  Assumed (samplePlatform [dayLongSession]) [1] log cluster event ∧
    Timed (1000 * nanos) (60 * nanos) cluster event

def overrunCheck (log : List Notice) (cluster : Cluster) (event : Event) : Bool :=
  assumedCheck (samplePlatform [dayLongSession]) log cluster event &&
    timedCheck (1000 * nanos) (60 * nanos) cluster event

theorem overrun_of_check (log : List Notice) (cluster : Cluster) (event : Event)
    (checked : overrunCheck log cluster event = true) : Overrun log cluster event := by
  obtain ⟨assumed, timed⟩ := Bool.and_eq_true_iff.mp checked
  exact ⟨assumed_of_check assumed, timed_of_check timed⟩

def readAgain : List Event := readBackAndPush dayLongAnswer 61 ++ [.authorizePush 1 1 5 "ab"]

def overrunShown (log : List Notice) (cluster : Cluster) : Bool :=
  overrunCheck log cluster (dayLongAnswer 1) &&
    nextShows (samplePlatform [dayLongSession]) (dayLongAnswer 1) cluster (fun notices =>
      accepts 1 1 5 "ab" "alice" notices &&
        (lastLooked 1 dayLongSession (notices ++ log)).isSome) &&
    decide (lastLooked 1 dayLongSession log = some (sampleClock 0)) &&
    decide ((cluster.nodes 1).clock.instant = 61 * nanos)

private theorem overrun_executed :
    ((machine (samplePlatform [dayLongSession]) [1]).execute overrunCheck readAgain []
      (minuteStart 86400)).map (fun ended => overrunShown ended.1 ended.2) = some true := by
  decide +kernel

/-- A record accepted at 0 s, and a push accepted on its strength at 61 s, on a gate that caps
sessions at 60 s: the held copy had expired and the record was read again. -/
theorem stored_session_outlives_ttl :
    ∃ log cluster after notices looked expires first expires',
      (machine (samplePlatform [dayLongSession]) [1]).Run Overrun [] (minuteStart 86400) log
        cluster ∧
      Overrun log cluster (dayLongAnswer 1) ∧
      (machine (samplePlatform [dayLongSession]) [1]).next cluster (dayLongAnswer 1) =
        some (after, notices) ∧
      Notice.accepted 1 1 5 "ab" "alice" sampleEndpoint ∈ notices ∧
      source 1 sampleEndpoint (notices ++ log) = some (.stored dayLongSession looked expires) ∧
      Notice.readBack 1 sampleEndpoint dayLongSession first expires' ∈ notices ++ log ∧
      ¬(cluster.nodes 1).clock.instant ≤ first.instant + 60 * nanos := by
  obtain ⟨log, cluster, run, shown⟩ :=
    Machine.execute_reaches overrun_of_check readAgain overrunShown overrun_executed
  simp only [overrunShown, Bool.and_eq_true, decide_eq_true_eq] at shown
  obtain ⟨⟨⟨checked, shows⟩, lookedFirst⟩, late⟩ := shown
  obtain ⟨after, notices, taken, seen⟩ := next_of_nextShows shows
  obtain ⟨acceptedNow, lookedAgain⟩ := Bool.and_eq_true_iff.mp seen
  obtain ⟨looked, last⟩ := Option.isSome_iff_exists.mp lookedAgain
  obtain ⟨expires, found⟩ := source_of_lastLooked last
  obtain ⟨expires', foundFirst⟩ := source_of_lastLooked lookedFirst
  refine ⟨log, cluster, after, notices, looked, expires, (sampleClock 0), expires', run,
    overrun_of_check _ _ _ checked, taken, accepted_of_accepts acceptedNow, found,
    List.mem_append_right _ (source_record_mem foundFirst), ?_⟩
  rw [late]
  decide

def briefSession : SessionRecord := sampleRecord "arkavo:alice" 1030 none

def briefAnswer (push : Nat) : Event :=
  .lookedUp push (.found (sampleBody (samplePlatform [briefSession]) briefSession))

def briefCheck (_ : List Notice) (cluster : Cluster) (event : Event) : Bool :=
  timedCheck (1000 * nanos) (60 * nanos) cluster event &&
    shortLivedCheck (samplePlatform [briefSession]) (60 * nanos) cluster event

theorem brief_of_check (log : List Notice) (cluster : Cluster) (event : Event)
    (checked : briefCheck log cluster event = true) :
    Timed (1000 * nanos) (60 * nanos) cluster event ∧
      ShortLived (samplePlatform [briefSession]) (60 * nanos) cluster event := by
  obtain ⟨timed, short⟩ := Bool.and_eq_true_iff.mp checked
  exact ⟨timed_of_check timed, shortLived_of_check short⟩

def briefShown (log : List Notice) (cluster : Cluster) : Bool :=
  briefCheck log cluster (.authorizePush 1 1 5 "ab") &&
    nextShows (samplePlatform [briefSession]) (.authorizePush 1 1 5 "ab") cluster (fun notices =>
      accepts 1 1 5 "ab" "alice" notices &&
        decide (lastLooked 1 briefSession (notices ++ log) = some (sampleClock 0))) &&
    decide ((cluster.nodes 1).clock.instant = 20 * nanos)

private theorem brief_executed :
    ((machine (samplePlatform [briefSession]) [1]).execute briefCheck
      (readBackAndPush briefAnswer 20) [] (minuteStart 30)).map
        (fun ended => briefShown ended.1 ended.2) = some true := by
  decide +kernel

theorem stored_session_within_ttl_brief :
    ∃ log cluster after notices expires,
      (machine (samplePlatform [briefSession]) [1]).Run (fun _ cluster event =>
        Timed (1000 * nanos) (60 * nanos) cluster event ∧
          ShortLived (samplePlatform [briefSession]) (60 * nanos) cluster event) []
        (minuteStart 30) log cluster ∧
      (machine (samplePlatform [briefSession]) [1]).next cluster (.authorizePush 1 1 5 "ab") =
        some (after, notices) ∧
      Notice.accepted 1 1 5 "ab" "alice" sampleEndpoint ∈ notices ∧
      source 1 sampleEndpoint (notices ++ log) =
        some (.stored briefSession (sampleClock 0) expires) ∧
      (cluster.nodes 1).clock.instant = 20 * nanos ∧
      (cluster.nodes 1).clock.instant ≤ 0 + 60 * nanos := by
  obtain ⟨log, cluster, run, shown⟩ := Machine.execute_reaches brief_of_check
    (readBackAndPush briefAnswer 20) briefShown brief_executed
  simp only [briefShown, Bool.and_eq_true, decide_eq_true_eq] at shown
  obtain ⟨⟨checked, shows⟩, twenty⟩ := shown
  obtain ⟨after, notices, taken, seen⟩ := next_of_nextShows shows
  simp only [Bool.and_eq_true, decide_eq_true_eq] at seen
  obtain ⟨acceptedNow, last⟩ := seen
  obtain ⟨expires, found⟩ := source_of_lastLooked last
  have accepted := accepted_of_accepts acceptedNow
  have steady : ∀ gate, InStep (1000 * nanos) ((minuteStart 30).nodes gate).clock := by
    intro gate
    change (sampleClock 0).unix.val = (sampleClock 0).instant + 1000 * nanos
    decide
  have within := stored_session_within_ttl (samplePlatform [briefSession]) [1] (1000 * nanos)
    (60 * nanos) (minuteStart 30) (sampleStart_fresh _) steady log cluster run _
    (brief_of_check _ _ _ checked) after notices taken 1 1 5 "ab" "alice" sampleEndpoint accepted
    briefSession (sampleClock 0) expires found 1 sampleEndpoint (sampleClock 0) expires
    (source_record_mem found)
  exact ⟨log, cluster, after, notices, expires, run, taken, accepted, found, twenty, within⟩

end Overrun

end TdfIrohS3.Cluster
