import TdfIrohS3.Publish.Authorization

namespace TdfIrohS3

open Library

/-- How the arithmetic was compiled: wrapping, or with overflow checks. -/
inductive Build
  | release
  | checked
  deriving DecidableEq, Repr

namespace Build

def exact (n : Int) : Option Int :=
  if Int64.minValue.toInt ≤ n ∧ n ≤ Int64.maxValue.toInt then some n else none

def sub (build : Build) (left right : Int) : Option Int :=
  match build with
  | .release => some (wrappingSub left right)
  | .checked => exact (left - right)

def abs (build : Build) (n : Int) : Option Int :=
  match build with
  | .release => some (wrappingAbs n)
  | .checked => exact (n.natAbs : Int)

def inRange (build : Build) (now timestamp : Int) : Option Bool := do
  let difference ← build.sub now timestamp
  let distance ← build.abs difference
  return !decide (distance > sessionSkewSecs)

end Build

def timestampOutOfRange : Refusal := ⟨400, "timestamp out of range"⟩

section Possession

variable (platform : Platform) (clock : Clock) (endpoint : EndpointId) (bearerToken : String)

def verifySignature (timestamp : Int) (signatureHex : String) : Except Refusal Unit :=
  match decodeSignature signatureHex with
  | none => .error ⟨400, "invalid signature"⟩
  | some signature =>
      if platform.verify endpoint (sessionMessage platform endpoint bearerToken timestamp) signature
      then .ok ()
      else .error ⟨403, "signature does not match endpointId"⟩

def verifyPossessionIn (build : Build) (timestamp : Int) (signatureHex : String) :
    Option (Except Refusal Unit) :=
  (build.inRange (nowSecs clock) timestamp).map fun inside =>
    if inside then verifySignature platform endpoint bearerToken timestamp signatureHex
    else .error timestampOutOfRange

end Possession

section Range

variable {now timestamp : Int}

structure Readings (now timestamp : Int) : Prop where
  past : 0 ≤ now
  now_lt : now < 9223372036854775808
  timestamp_ge : -9223372036854775808 ≤ timestamp
  timestamp_lt : timestamp < 9223372036854775808

theorem wrappingSub_of_small (readings : Readings now timestamp)
    (small : now - timestamp < 9223372036854775808) : wrappingSub now timestamp = now - timestamp := by
  have past := readings.past
  have above := readings.timestamp_lt
  apply Int.bmod_eq_of_le <;> simp only [Int64.size] <;> omega

theorem wrappingSub_of_large (readings : Readings now timestamp)
    (large : 9223372036854775808 ≤ now - timestamp) :
    wrappingSub now timestamp = now - timestamp - 18446744073709551616 := by
  have below := readings.now_lt
  have above := readings.timestamp_ge
  have shifted : wrappingSub now timestamp =
      (now - timestamp - 18446744073709551616).bmod Int64.size := by
    rw [wrappingSub]
    exact (Int.sub_bmod_right (now - timestamp) Int64.size).symm
  rw [shifted]
  apply Int.bmod_eq_of_le <;> simp only [Int64.size] <;> omega

theorem wrappingAbs_of_ne {n : Int} (other : n ≠ -9223372036854775808) :
    wrappingAbs n = (n.natAbs : Int) :=
  if_neg other

theorem tested {beyond within : Prop} [Decidable beyond] [Decidable within] (same : ¬beyond ↔ within) :
    (pure (!decide beyond) : Option Bool) = some (decide within) := by
  rw [← decide_not]
  exact congrArg some (decide_eq_decide.mpr same)

/-- Where the difference fits, every build tests the exact distance. -/
theorem inRange_of_small (build : Build) (readings : Readings now timestamp)
    (small : now - timestamp < 9223372036854775808) :
    build.inRange now timestamp = some (decide ((now - timestamp).natAbs ≤ 300)) := by
  have past := readings.past
  have below := readings.now_lt
  have above := readings.timestamp_lt
  have fits : -9223372036854775808 ≤ now - timestamp ∧ now - timestamp ≤ 9223372036854775807 := by
    omega
  have distance : (-9223372036854775808 : Int) ≤ (now - timestamp).natAbs ∧
      ((now - timestamp).natAbs : Int) ≤ 9223372036854775807 := by
    omega
  cases build with
  | release =>
      have ne : now - timestamp ≠ -9223372036854775808 := by omega
      simp only [Build.inRange, Build.sub, Build.abs, wrappingSub_of_small readings small,
        wrappingAbs_of_ne ne, sessionSkewSecs, Option.bind_eq_bind, Option.bind_some]
      apply tested
      omega
  | checked =>
      have whole : Build.exact (now - timestamp) = some (now - timestamp) := if_pos fits
      have positive : Build.exact ((now - timestamp).natAbs : Int) =
          some ((now - timestamp).natAbs : Int) := if_pos distance
      simp only [Build.inRange, Build.sub, Build.abs, whole, positive, sessionSkewSecs,
        Option.bind_eq_bind, Option.bind_some]
      apply tested
      omega

/-- With overflow checks the subtraction panics on any other difference. -/
theorem checked_of_large (large : 9223372036854775808 ≤ now - timestamp) :
    Build.checked.inRange now timestamp = none := by
  have outside : Build.exact (now - timestamp) = none :=
    if_neg fun fits => by
      have bound : now - timestamp ≤ 9223372036854775807 := fits.2
      omega
  simp [Build.inRange, Build.sub, outside]

/-- Wrapping, it lets the smallest integer through, which is its own absolute value, and whatever
wraps around to a short distance. -/
theorem release_of_large (readings : Readings now timestamp)
    (large : 9223372036854775808 ≤ now - timestamp) :
    Build.release.inRange now timestamp =
      some (decide (now - timestamp = 9223372036854775808 ∨
        18446744073709551316 ≤ now - timestamp)) := by
  have below := readings.now_lt
  have above := readings.timestamp_ge
  by_cases smallest : now - timestamp = 9223372036854775808
  · have wrapped : wrappingSub now timestamp = -9223372036854775808 := by
      rw [wrappingSub_of_large readings large]
      omega
    have negative : wrappingAbs (-9223372036854775808) = -9223372036854775808 := if_pos rfl
    simp [Build.inRange, Build.sub, Build.abs, wrapped, negative, sessionSkewSecs, smallest]
  · have ne : now - timestamp - 18446744073709551616 ≠ -9223372036854775808 := by omega
    simp only [Build.inRange, Build.sub, Build.abs, wrappingSub_of_large readings large,
      wrappingAbs_of_ne ne, sessionSkewSecs, Option.bind_eq_bind, Option.bind_some]
    apply tested
    omega

end Range

section Replay

variable (platform : Platform) (clock : Clock) (endpoint : EndpointId)
variable (bearerToken signatureHex : String)

theorem verifyPossessionIn_release (timestamp : Int) :
    verifyPossessionIn platform clock endpoint bearerToken .release timestamp signatureHex =
      some (verifyPossession platform clock endpoint bearerToken timestamp signatureHex) := by
  simp only [verifyPossessionIn, Build.inRange, Build.sub, Build.abs, Option.bind_eq_bind,
    Option.bind_some]
  by_cases beyond : wrappingAbs (wrappingSub (nowSecs clock) timestamp) > sessionSkewSecs
  · simp [verifyPossession, timestampOutOfRange, beyond]
  · simp only [verifyPossession, beyond, if_false]
    rfl

theorem verifySignature_ne_outOfRange (timestamp : Int) :
    verifySignature platform endpoint bearerToken timestamp signatureHex ≠
      .error timestampOutOfRange := by
  unfold verifySignature
  split
  · decide
  · split
    · exact fun passed => nomatch passed
    · decide

theorem verifyPossessionIn_of_inRange {build : Build} {timestamp : Int} {inside : Bool}
    (tests : build.inRange (nowSecs clock) timestamp = some inside) :
    ∃ result, verifyPossessionIn platform clock endpoint bearerToken build timestamp signatureHex =
        some result ∧ (result ≠ .error timestampOutOfRange ↔ inside = true) := by
  refine ⟨_, by rw [verifyPossessionIn, tests, Option.map_some], ?_⟩
  cases inside with
  | true =>
      have passes := verifySignature_ne_outOfRange platform endpoint bearerToken signatureHex timestamp
      exact ⟨fun _ => rfl, fun _ => passes⟩
  | false => simp

variable {clock}

theorem readings_of_clock (representable : nowSecs clock < 9223372036854775808)
    (timestamp : Int64) : Readings (nowSecs clock) timestamp.toInt where
  past := Int.natCast_nonneg _
  now_lt := representable
  timestamp_ge := Int64.le_toInt timestamp
  timestamp_lt := Int64.toInt_lt timestamp

/-- The signed timestamp bounds replay, in every build, exactly where the clock minus the timestamp
fits a signed 64-bit integer. A release build alone fails at one more than the largest, and where
the difference wraps around to at most the allowed skew. -/
theorem timestamp_bounds_replay_iff (representable : nowSecs clock < 9223372036854775808)
    (timestamp : Int64) :
    ((∀ build, ∃ result, verifyPossessionIn platform clock endpoint bearerToken build
          timestamp.toInt signatureHex = some result ∧
        (result ≠ .error timestampOutOfRange ↔
          ((nowSecs clock - timestamp.toInt).natAbs : Int) ≤ sessionSkewSecs)) ↔
      nowSecs clock - timestamp.toInt < 9223372036854775808) ∧
    ((verifyPossession platform clock endpoint bearerToken timestamp.toInt signatureHex ≠
          .error timestampOutOfRange ↔
        ((nowSecs clock - timestamp.toInt).natAbs : Int) ≤ sessionSkewSecs) ↔
      nowSecs clock - timestamp.toInt ≠ 9223372036854775808 ∧
        nowSecs clock - timestamp.toInt < 18446744073709551316) := by
  have readings := readings_of_clock representable timestamp
  simp only [sessionSkewSecs]
  by_cases small : nowSecs clock - timestamp.toInt < 9223372036854775808
  · have exactly : ∀ build, ∃ result, verifyPossessionIn platform clock endpoint bearerToken build
        timestamp.toInt signatureHex = some result ∧ (result ≠ .error timestampOutOfRange ↔
          ((nowSecs clock - timestamp.toInt).natAbs : Int) ≤ 300) := by
      intro build
      obtain ⟨result, ran, passes⟩ := verifyPossessionIn_of_inRange platform clock endpoint
        bearerToken signatureHex (inRange_of_small build readings small)
      refine ⟨result, ran, passes.trans ?_⟩
      rw [decide_eq_true_iff]
      omega
    refine ⟨⟨fun _ => small, fun _ => exactly⟩, fun _ => by omega, fun _ => ?_⟩
    obtain ⟨result, ran, passes⟩ := exactly .release
    rw [verifyPossessionIn_release] at ran
    cases ran
    exact passes
  · have large : 9223372036854775808 ≤ nowSecs clock - timestamp.toInt := by omega
    constructor
    · refine ⟨fun all => ?_, fun less => absurd less small⟩
      -- with overflow checks there is no result
      obtain ⟨result, ran, -⟩ := all .checked
      rw [verifyPossessionIn, checked_of_large large] at ran
      cases ran
    · obtain ⟨result, ran, passes⟩ := verifyPossessionIn_of_inRange platform clock endpoint
        bearerToken signatureHex (release_of_large readings large)
      rw [verifyPossessionIn_release] at ran
      cases ran
      rw [passes, decide_eq_true_iff]
      omega

end Replay

section Sample

def november : Clock := ⟨0, unixAt (1700000000 * nanos)⟩

def distantPast : Int64 := -9223372035154775808

/-- The oldest timestamp of all passes for a present one, signature and all. -/
theorem timestamp_wraps_into_range :
    ((nowSecs november - distantPast.toInt).natAbs : Int) > sessionSkewSecs ∧
      verifyPossession (Cluster.samplePlatform []) november Cluster.sampleEndpoint "token"
        distantPast.toInt (Text.hexEncode (List.replicate 64 0)) = .ok () ∧
      verifyPossessionIn (Cluster.samplePlatform []) november Cluster.sampleEndpoint "token"
        .checked distantPast.toInt (Text.hexEncode (List.replicate 64 0)) = none := by
  refine ⟨by decide, by decide +kernel, ?_⟩
  rw [verifyPossessionIn, checked_of_large (by decide)]
  rfl

theorem timestamp_bounds_replay_present :
    nowSecs november < 9223372036854775808 ∧
    ∀ build, ∃ result, verifyPossessionIn (Cluster.samplePlatform []) november
        Cluster.sampleEndpoint "token" build (1700000299 : Int64).toInt "" = some result ∧
      (result ≠ .error timestampOutOfRange ↔
        ((nowSecs november - (1700000299 : Int64).toInt).natAbs : Int) ≤ sessionSkewSecs) := by
  have representable : nowSecs november < 9223372036854775808 := by decide
  have bounds := timestamp_bounds_replay_iff (Cluster.samplePlatform []) Cluster.sampleEndpoint
    "token" "" representable 1700000299
  exact ⟨representable, bounds.1.mpr (by decide)⟩

end Sample

end TdfIrohS3
