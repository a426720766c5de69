import TdfIrohS3.Library.Machine

namespace TdfIrohS3

open Library

inductive ServiceCredential
  | static (token : String)
  | clientCredentials (tokenUrl clientId clientSecret : String)
  | none
  deriving DecidableEq, Repr

structure TokenResponse where
  accessToken : String
  /-- In seconds. -/
  expiresIn : UInt64
  deriving DecidableEq, Repr

/-- Instants and durations are counted in nanoseconds. -/
structure CachedToken where
  token : String
  expiresAt : Nat
  deriving DecidableEq, Repr

inductive TokenAnswer
  | unsent
  | rejected (status : String)
  | unreadable
  | minted (response : TokenResponse)
  deriving DecidableEq, Repr

/-- One call of `service_bearer`: what the clock reads when the cache is looked at, what the token
endpoint answers if it is asked, and what the clock reads after that. -/
structure BearerCall where
  asked : Nat
  answer : TokenAnswer
  answered : Nat
  deriving DecidableEq, Repr

inductive BearerOutcome
  | bare
  | static (token : String)
  | cached (token : String)
  | minted (response : TokenResponse)
  | failed (why : String)
  | panicked
  deriving DecidableEq, Repr

section ServiceBearer

def secondNanos : Nat := 1000000000

def tokenRefreshMargin : Nat := 60 * secondNanos

def TokenResponse.cachedFor (response : TokenResponse) : Nat :=
  max response.expiresIn.toNat 120 * secondNanos - tokenRefreshMargin

def TokenResponse.life (response : TokenResponse) : Nat := response.expiresIn.toNat * secondNanos

/-- `service_bearer`. The cache is locked from the look at it to the end of the call. `last` is the last
instant the clock's type holds: adding a duration beyond it panics. -/
def serviceBearer (last : Nat) (credential : ServiceCredential) (cache : Option CachedToken)
    (call : BearerCall) : BearerOutcome × Option CachedToken :=
  match credential with
  | .none => (.bare, cache)
  | .static token => (.static token, cache)
  | .clientCredentials tokenUrl _ _ =>
      match cache.filter fun cached => call.asked < cached.expiresAt with
      | some cached => (.cached cached.token, cache)
      | none =>
          match call.answer with
          | .unsent => (.failed ("token POST " ++ tokenUrl), cache)
          | .rejected status => (.failed ("token endpoint returned " ++ status), cache)
          | .unreadable => (.failed "token JSON parse", cache)
          | .minted response =>
              let expiresAt := call.answered + response.cachedFor
              if expiresAt ≤ last then
                (.minted response, some { token := response.accessToken, expiresAt })
              else (.panicked, cache)

end ServiceBearer

structure TokenState where
  cache : Option CachedToken
  now : Nat
  deriving DecidableEq, Repr

def TokenState.start : TokenState := ⟨none, 0⟩

structure BearerEvent where
  call : BearerCall
  outcome : BearerOutcome
  deriving DecidableEq, Repr

def tokenCalls (last : Nat) (tokenUrl clientId clientSecret : String) :
    Machine TokenState BearerCall BearerEvent where
  next state call :=
    if state.now ≤ call.asked ∧ call.asked ≤ call.answered ∧ call.answered ≤ last then
      let ended :=
        serviceBearer last (.clientCredentials tokenUrl clientId clientSecret) state.cache call
      some (⟨ended.2, call.answered⟩, [⟨call, ended.1⟩])
    else none

section Histories

def lastMinted : List BearerEvent → Option (TokenResponse × Nat)
  | [] => none
  | ⟨call, .minted response⟩ :: _ => some (response, call.answered)
  | _ :: older => lastMinted older

/-- No call panics, and a token from the cache is the last one minted, within its life. -/
def TokensLive : List BearerEvent → Prop
  | [] => True
  | ⟨call, .cached token⟩ :: older =>
      (∃ response minted, lastMinted older = some (response, minted) ∧
        token = response.accessToken ∧ call.asked < minted + response.life) ∧ TokensLive older
  | ⟨_, .panicked⟩ :: _ => False
  | _ :: older => TokensLive older

def BearerCall.Declares (declares : Nat → TokenResponse → Prop) (call : BearerCall) : Prop :=
  ∀ response, call.answer = .minted response → declares call.answered response

end Histories

section Effects

variable {last : Nat} {tokenUrl clientId clientSecret : String}

inductive BearerEffect (last : Nat) (state : TokenState) (call : BearerCall) :
    TokenState → BearerOutcome → Prop
  | cached {cached : CachedToken} (held : state.cache = some cached)
      (fresh : call.asked < cached.expiresAt) :
      BearerEffect last state call ⟨state.cache, call.answered⟩ (.cached cached.token)
  | failed (why : String) :
      BearerEffect last state call ⟨state.cache, call.answered⟩ (.failed why)
  | minted {response : TokenResponse} (answer : call.answer = .minted response)
      (holds : call.answered + response.cachedFor ≤ last) :
      BearerEffect last state call
        ⟨some ⟨response.accessToken, call.answered + response.cachedFor⟩, call.answered⟩
        (.minted response)
  | panicked {response : TokenResponse} (answer : call.answer = .minted response)
      (overflows : ¬call.answered + response.cachedFor ≤ last) :
      BearerEffect last state call ⟨state.cache, call.answered⟩ .panicked

theorem tokenCalls_effect {state next : TokenState} {call : BearerCall} {events : List BearerEvent}
    (taken : (tokenCalls last tokenUrl clientId clientSecret).next state call = some (next, events)) :
    call.answered ≤ last ∧
      ∃ outcome, events = [⟨call, outcome⟩] ∧ BearerEffect last state call next outcome := by
  simp only [tokenCalls] at taken
  split at taken
  · rename_i timed
    refine ⟨timed.2.2, ?_⟩
    cases taken
    refine ⟨_, rfl, ?_⟩
    unfold serviceBearer
    simp only
    split
    · rename_i cached found
      have both := Option.filter_eq_some_iff.mp found
      exact .cached both.1 (of_decide_eq_true both.2)
    · split
      · exact .failed _
      · exact .failed _
      · exact .failed _
      · rename_i response answer
        split
        · rename_i holds
          exact .minted answer holds
        · rename_i overflows
          exact .panicked answer overflows
  · cases taken

end Effects

section Life

variable {last : Nat} {tokenUrl clientId clientSecret : String}
  {allowed : List BearerEvent → TokenState → BearerCall → Prop}
  {declares : Nat → TokenResponse → Prop}

/-- A lifetime under which the cache lets go of a token in time and its deadline is an instant. -/
def Lasting (last answered : Nat) (response : TokenResponse) : Prop :=
  60 ≤ response.expiresIn.toNat ∧ answered + response.cachedFor ≤ last

theorem cachedFor_le_life {response : TokenResponse} (long : 60 ≤ response.expiresIn.toNat) :
    response.cachedFor ≤ response.life := by
  unfold TokenResponse.cachedFor TokenResponse.life tokenRefreshMargin secondNanos
  omega

def cachedAs (minted : TokenResponse × Nat) : CachedToken :=
  ⟨minted.1.accessToken, minted.2 + minted.1.cachedFor⟩

theorem cache_lastMinted {log : List BearerEvent} {state : TokenState}
    (run : Machine.Run (tokenCalls last tokenUrl clientId clientSecret) allowed [] .start log state) :
    state.cache = (lastMinted log).map cachedAs := by
  apply run.invariant (fun log state => state.cache = (lastMinted log).map cachedAs)
  · rfl
  · intro log state call next events kept permitted taken
    obtain ⟨-, outcome, rfl, effect⟩ := tokenCalls_effect taken
    cases effect with
    | minted answer holds => rfl
    | _ => exact kept

theorem lastMinted_declared {log : List BearerEvent} {state : TokenState}
    (run : Machine.Run (tokenCalls last tokenUrl clientId clientSecret)
      (fun _ _ call => call.Declares declares) [] .start log state) :
    ∀ response minted, lastMinted log = some (response, minted) →
      minted ≤ last ∧ declares minted response := by
  apply run.invariant (fun log _ => ∀ response minted, lastMinted log = some (response, minted) →
    minted ≤ last ∧ declares minted response)
  · intro response minted none
    cases none
  · intro log state call next events kept permitted taken
    obtain ⟨inTime, outcome, rfl, effect⟩ := tokenCalls_effect taken
    cases effect with
    | minted answer holds =>
        intro response minted newest
        cases newest
        exact ⟨inTime, permitted _ answer⟩
    | _ => exact kept

theorem tokensLive_step {log : List BearerEvent} {state next : TokenState} {call : BearerCall}
    {outcome : BearerOutcome} (live : TokensLive log)
    (kept : state.cache = (lastMinted log).map cachedAs)
    (lasting : ∀ response minted, lastMinted log = some (response, minted) →
      60 ≤ response.expiresIn.toNat)
    (fits : ∀ response, call.answer = .minted response → call.answered + response.cachedFor ≤ last)
    (effect : BearerEffect last state call next outcome) : TokensLive (⟨call, outcome⟩ :: log) := by
  cases effect with
  | cached held fresh =>
      rw [kept] at held
      obtain ⟨⟨response, minted⟩, newest, rfl⟩ := Option.map_eq_some_iff.mp held
      refine ⟨⟨response, minted, newest, rfl, ?_⟩, live⟩
      calc call.asked < minted + response.cachedFor := fresh
        _ ≤ minted + response.life :=
          Nat.add_le_add_left (cachedFor_le_life (lasting response minted newest)) minted
  | failed why => exact live
  | minted answer holds => exact live
  | panicked answer overflows => exact absurd (fits _ answer) overflows

theorem tokensLive_of_lasting
    (lasting : ∀ answered response, answered ≤ last → declares answered response →
      Lasting last answered response)
    {log : List BearerEvent} {state : TokenState}
    (run : Machine.Run (tokenCalls last tokenUrl clientId clientSecret)
      (fun _ _ call => call.Declares declares) [] .start log state) : TokensLive log := by
  induction run with
  | refl => trivial
  | @step log state next call events earlier permitted taken ih =>
      obtain ⟨inTime, outcome, rfl, effect⟩ := tokenCalls_effect taken
      apply tokensLive_step ih (cache_lastMinted earlier) _ _ effect
      · intro response minted newest
        have declared := lastMinted_declared earlier response minted newest
        exact (lasting minted response declared.1 declared.2).1
      · intro response answer
        exact (lasting call.answered response inTime (permitted response answer)).2

theorem life_lt_cachedFor {response : TokenResponse} (short : ¬60 ≤ response.expiresIn.toNat) :
    response.life < response.cachedFor := by
  unfold TokenResponse.cachedFor TokenResponse.life tokenRefreshMargin secondNanos
  omega

theorem call_run {log : List BearerEvent} {state : TokenState} {call : BearerCall}
    {outcome : BearerOutcome} {cache : Option CachedToken}
    (run : Machine.Run (tokenCalls last tokenUrl clientId clientSecret)
      (fun _ _ call => call.Declares declares) [] .start log state)
    (permitted : call.Declares declares)
    (timed : state.now ≤ call.asked ∧ call.asked ≤ call.answered ∧ call.answered ≤ last)
    (ended : serviceBearer last (.clientCredentials tokenUrl clientId clientSecret) state.cache call =
      (outcome, cache)) :
    Machine.Run (tokenCalls last tokenUrl clientId clientSecret)
      (fun _ _ call => call.Declares declares) [] .start (⟨call, outcome⟩ :: log)
      ⟨cache, call.answered⟩ := by
  have taken : (tokenCalls last tokenUrl clientId clientSecret).next state call =
      some (⟨cache, call.answered⟩, [⟨call, outcome⟩]) := by
    simp only [tokenCalls, if_pos timed, ended]
  exact Machine.Run.step run permitted taken

section Calls

variable {cache : Option CachedToken} {call : BearerCall} {response : TokenResponse}

theorem serviceBearer_cached {cached : CachedToken} (fresh : call.asked < cached.expiresAt) :
    serviceBearer last (.clientCredentials tokenUrl clientId clientSecret) (some cached) call =
      (.cached cached.token, some cached) := by
  simp only [serviceBearer, Option.filter_some, fresh, decide_true, if_true]

theorem serviceBearer_minted (answer : call.answer = .minted response)
    (fits : call.answered + response.cachedFor ≤ last) :
    serviceBearer last (.clientCredentials tokenUrl clientId clientSecret) none call =
      (.minted response, some (cachedAs (response, call.answered))) := by
  simp only [serviceBearer, Option.filter_none, answer, if_pos fits, cachedAs]

theorem serviceBearer_panics (answer : call.answer = .minted response)
    (unrepresentable : ¬call.answered + response.cachedFor ≤ last) :
    serviceBearer last (.clientCredentials tokenUrl clientId clientSecret) none call =
      (.panicked, none) := by
  simp only [serviceBearer, Option.filter_none, answer, if_neg unrepresentable]

end Calls

theorem mint_run {response : TokenResponse} {answered : Nat} (inTime : answered ≤ last)
    (declared : declares answered response) {outcome : BearerOutcome} {cache : Option CachedToken}
    (ended : serviceBearer last (.clientCredentials tokenUrl clientId clientSecret) none
      ⟨answered, .minted response, answered⟩ = (outcome, cache)) :
    Machine.Run (tokenCalls last tokenUrl clientId clientSecret)
      (fun _ _ call => call.Declares declares) [] .start
      [⟨⟨answered, .minted response, answered⟩, outcome⟩] ⟨cache, answered⟩ := by
  apply call_run Machine.Run.refl _ ⟨Nat.zero_le _, Nat.le_refl _, inTime⟩ ended
  intro other answer
  cases answer
  exact declared

/-- A token is in the cache when its life ends, if that is before its deadline. -/
theorem reuse_run {response : TokenResponse} {answered later : Nat} (inTime : answered ≤ last)
    (declared : declares answered response) (fits : answered + response.cachedFor ≤ last)
    (after : answered ≤ later) (early : later < answered + response.cachedFor) :
    Machine.Run (tokenCalls last tokenUrl clientId clientSecret)
      (fun _ _ call => call.Declares declares) [] .start
      [⟨⟨later, .unsent, later⟩, .cached response.accessToken⟩,
        ⟨⟨answered, .minted response, answered⟩, .minted response⟩]
      ⟨some (cachedAs (response, answered)), later⟩ := by
  have minted := @mint_run last tokenUrl clientId clientSecret declares response answered inTime
    declared _ _ (serviceBearer_minted rfl fits)
  have held : later ≤ last := Nat.le_trans (Nat.le_of_lt early) fits
  apply call_run minted _ ⟨after, Nat.le_refl _, held⟩ (serviceBearer_cached early)
  intro other answer
  cases answer

/-- The tokens stay live in every run exactly when every lifetime the endpoint declares lasts: it is at
least 60 seconds, and its deadline is still an instant of the clock. -/
theorem serviceBearer_live_iff (last : Nat) (tokenUrl clientId clientSecret : String)
    (declares : Nat → TokenResponse → Prop) :
    (∀ log state, Machine.Run (tokenCalls last tokenUrl clientId clientSecret)
        (fun _ _ call => call.Declares declares) [] .start log state → TokensLive log) ↔
      ∀ answered response, answered ≤ last → declares answered response →
        Lasting last answered response := by
  constructor
  · intro live answered response inTime declared
    by_cases fits : answered + response.cachedFor ≤ last
    · refine ⟨?_, fits⟩
      by_contra short
      -- the second call comes when the life of the token ends, and still finds it in the cache
      have early : answered + response.life < answered + response.cachedFor :=
        Nat.add_lt_add_left (life_lt_cachedFor short) answered
      have reused := live _ _
        (reuse_run inTime declared fits (Nat.le_add_right answered response.life) early)
      obtain ⟨⟨other, minted, newest, -, inside⟩, -⟩ := reused
      cases newest
      exact Nat.lt_irrefl _ inside
    · have panicked := live _ _ (mint_run inTime declared (serviceBearer_panics rfl fits))
      exact absurd panicked id
  · intro lasting log state run
    exact tokensLive_of_lasting lasting run

def lastInstant : Nat := 9223372036854775807 * secondNanos + 999999999

/-- A token that lives for a second is used from the cache half a minute later; a lifetime of all 64
bits makes the call panic. -/
theorem serviceBearer_past_life :
    let declares : Nat → TokenResponse → Prop := fun _ response => 1 ≤ response.expiresIn.toNat
    let brief : TokenResponse := ⟨"brief", 1⟩
    let endless : TokenResponse := ⟨"endless", 18446744073709551615⟩
    let stale : List BearerEvent := [⟨⟨30 * secondNanos, .unsent, 30 * secondNanos⟩, .cached "brief"⟩,
      ⟨⟨0, .minted brief, 0⟩, .minted brief⟩]
    let broken : List BearerEvent := [⟨⟨0, .minted endless, 0⟩, .panicked⟩]
    (∃ state, Machine.Run (tokenCalls lastInstant "https://idp/token" "node" "secret")
        (fun _ _ call => call.Declares declares) [] .start stale state) ∧
      ¬TokensLive stale ∧
      (∃ state, Machine.Run (tokenCalls lastInstant "https://idp/token" "node" "secret")
        (fun _ _ call => call.Declares declares) [] .start broken state) ∧
      ¬TokensLive broken := by
  intro declares brief endless stale broken
  have reused := @reuse_run lastInstant "https://idp/token" "node" "secret" declares brief 0
    (30 * secondNanos) (Nat.zero_le _) (Nat.le_refl 1) (by decide) (Nat.zero_le _) (by decide)
  have panicked := @mint_run lastInstant "https://idp/token" "node" "secret" declares endless 0
    (Nat.zero_le _) (by decide) _ _ (serviceBearer_panics rfl (by decide))
  refine ⟨⟨_, reused⟩, ?_, ⟨_, panicked⟩, id⟩
  rintro ⟨⟨_, _, newest, -, inside⟩, -⟩
  cases newest
  exact absurd inside (by decide)

end Life

end TdfIrohS3
