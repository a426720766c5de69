import TdfIrohS3.Library.Machine
import TdfIrohS3.Library.Metered
import TdfIrohS3.Library.Slices

namespace TdfIrohS3

open Library
open Library.Metered (orFault refuse forEach Spec Free)

section Scan

def maxArchiveEntries : Nat := 65535

def maxCentralDirectoryRead : Nat := 16777216

def maxZip64Candidates : Nat := 4

def eocdSignature : List UInt8 := [0x50, 0x4B, 0x05, 0x06]

def locatorSignature : List UInt8 := [0x50, 0x4B, 0x06, 0x07]

def eocd64Signature : List UInt8 := [0x50, 0x4B, 0x06, 0x06]

def eocdLen : Nat := 22

def locatorLen : Nat := 20

def eocd64Len : Nat := 56

/-- The file of an archive. Its length is a `u64`; a read or the last seek may fail. -/
structure ArchiveFile where
  bytes : List UInt8
  readFails : Nat → Nat → Bool
  rewindFails : Bool
  addressed : bytes.length < 18446744073709551616

def readAt (file : ArchiveFile) (offset len : Nat) : Metered (List UInt8) where
  reads := [len]
  ending :=
    if file.readFails offset len then .refused "Failed to read TDF archive"
    else .done (stretch file.bytes offset len)

def addU64 (a b : Nat) : Metered Nat :=
  orFault (if a + b < 18446744073709551616 then some (a + b) else none)

def checkedSub (a b : Nat) : Option Nat := if b ≤ a then some (a - b) else none

def saturatingAdd (a b : Nat) : Nat := min (a + b) 18446744073709551615

def checkRecord (region : List UInt8) (q : Nat) : Metered Unit := do
  let stop ← addU64 q eocd64Len
  match getRange region q stop with
  | none => pure ()
  | some record =>
      let onDisk ← orFault (getRange record 24 32)
      let files ← orFault (getRange record 32 40)
      let listed := max (littleEndian files) (littleEndian onDisk)
      if listed > maxArchiveEntries then
        refuse ("TDF archive lists " ++ toString listed ++ " members, more than " ++
          toString maxArchiveEntries)
      else pure ()

def checkStretch (file : ArchiveFile) (window locatorAt start : Nat) : Metered Unit := do
  let stop := min locatorAt (saturatingAdd (saturatingAdd start window) eocd64Len)
  let length ← orFault (checkedSub stop start)
  let region ← readAt file start length
  forEach (checkRecord region) (positions region eocd64Signature)

def followLocator (file : ArchiveFile) (window locatorAt : Nat) (locator : List UInt8) :
    Metered Unit := do
  let signature ← orFault (getRange locator 0 4)
  if signature ≠ locatorSignature then pure ()
  else
    let named ← orFault (getRange locator 8 16)
    let start := littleEndian named
    if start ≥ locatorAt then pure () else checkStretch file window locatorAt start

/-- The locator sits just before the end record; it is in the tail unless the end record starts the
window. -/
def readLocator (file : ArchiveFile) (tail : List UInt8) (locatorAt p : Nat) :
    Metered (List UInt8) :=
  match checkedSub p locatorLen with
  | some q => orFault (getRange tail q p)
  | none => readAt file locatorAt locatorLen

def checkCandidate (file : ArchiveFile) (window tailStart : Nat) (tail : List UInt8) (p : Nat) :
    Metered Unit := do
  let eocdAt ← addU64 tailStart p
  match checkedSub eocdAt locatorLen with
  | none => pure ()
  | some locatorAt =>
      let locator ← readLocator file tail locatorAt p
      followLocator file window locatorAt locator

def checkEnds (file : ArchiveFile) (window tailStart : Nat) (tail : List UInt8) :
    List Nat → Nat → Metered Unit
  | [], _ => pure ()
  | p :: rest, candidates => do
      let stop ← addU64 p eocdLen
      match getRange tail p stop with
      | none => checkEnds file window tailStart tail rest candidates
      | some eocd =>
          let files ← orFault (getRange eocd 10 12)
          let cdOffset ← orFault (getRange eocd 16 20)
          -- not ZIP64
          if littleEndian files ≠ 65535 ∧ littleEndian cdOffset ≠ 4294967295 then
            checkEnds file window tailStart tail rest candidates
          else if candidates + 1 > maxZip64Candidates then
            refuse ("TDF archive has more than " ++ toString maxZip64Candidates ++
              " ZIP64 end records")
          else
            checkCandidate file window tailStart tail p
            checkEnds file window tailStart tail rest (candidates + 1)

def lastWindow (file : ArchiveFile) : Nat := min file.bytes.length maxCentralDirectoryRead

def checkTail (file : ArchiveFile) (window tailStart : Nat) (tail : List UInt8) : Metered Unit := do
  checkEnds file window tailStart tail (positions tail eocdSignature) 0
  if file.rewindFails then refuse "Failed to read TDF archive" else pure ()

def checkZip64EntryCounts (file : ArchiveFile) : Metered Unit := do
  let window := lastWindow file
  let tailStart ← orFault (checkedSub file.bytes.length window)
  let tail ← readAt file tailStart window
  checkTail file window tailStart tail

end Scan

section Format

variable (bytes : List UInt8)

def numberAt (place width : Nat) : Nat := littleEndian (stretch bytes place width)

structure DefersAt (place : Nat) : Prop where
  complete : place + eocdLen ≤ bytes.length
  signed : stretch bytes place 4 = eocdSignature
  defers : numberAt bytes (place + 10) 2 = 65535 ∨ numberAt bytes (place + 16) 4 = 4294967295

structure LocatorBefore (place start : Nat) : Prop where
  room : locatorLen ≤ place
  signed : stretch bytes (place - locatorLen) 4 = locatorSignature
  names : numberAt bytes (place - locatorLen + 8) 8 = start

structure RecordBetween (start stop place : Nat) : Prop where
  after : start ≤ place
  complete : place + eocd64Len ≤ stop
  signed : stretch bytes place 4 = eocd64Signature

def ListsFew (place : Nat) : Prop :=
  numberAt bytes (place + 24) 8 ≤ maxArchiveEntries ∧ numberAt bytes (place + 32) 8 ≤ maxArchiveEntries

def CountsFew (window place : Nat) : Prop :=
  ∀ start, LocatorBefore bytes place start → ∀ record,
    RecordBetween bytes start (min (place - locatorLen) (start + window + eocd64Len)) record →
      ListsFew bytes record

end Format

section Reads

def CandidateReads (window : Nat) (reads : List Nat) : Prop :=
  ∃ locator region, reads = locator ++ region ∧ (locator = [] ∨ locator = [locatorLen]) ∧
    (region = [] ∨ ∃ length, length ≤ window + eocd64Len ∧ region = [length])

def EndsReads (window most : Nat) (reads : List Nat) : Prop :=
  ∃ each : List (List Nat), reads = each.flatten ∧ each.length ≤ most ∧
    ∀ candidate ∈ each, CandidateReads window candidate

theorem candidateReads_nil (window : Nat) : CandidateReads window [] :=
  ⟨[], [], rfl, .inl rfl, .inl rfl⟩

theorem endsReads_nil (window most : Nat) : EndsReads window most [] :=
  ⟨[], rfl, Nat.zero_le most, fun _ member => nomatch member⟩

theorem endsReads_cons {window most : Nat} {reads later : List Nat}
    (first : CandidateReads window reads) (rest : EndsReads window most later) :
    EndsReads window (most + 1) (reads ++ later) := by
  obtain ⟨each, rfl, few, all⟩ := rest
  refine ⟨reads :: each, rfl, Nat.succ_le_succ few, ?_⟩
  intro candidate member
  rcases List.mem_cons.mp member with rfl | further
  · exact first
  · exact all candidate further

end Reads

section Specifications

theorem readAt_spec (file : ArchiveFile) (offset len : Nat) :
    Spec (readAt file offset len) (· = [len]) (· = stretch file.bytes offset len) := by
  refine ⟨?_, rfl, ?_⟩
  · unfold readAt
    split
    · exact fun impossible => nomatch impossible
    · exact fun impossible => nomatch impossible
  · intro value read
    unfold readAt at read
    split at read
    · cases read
    · cases read
      rfl

theorem checkRecord_spec {region : List UInt8} {q : Nat} (near : q + eocd64Len < 18446744073709551616) :
    Spec (checkRecord region q) Free fun _ =>
      q + eocd64Len ≤ region.length → ListsFew region q := by
  refine Spec.orFault_bind (if_pos near) ?_
  rcases getRange_cases region (Nat.le_add_right q eocd64Len) with
    ⟨within, found⟩ | ⟨beyond, absent⟩
  · simp only [found, Nat.add_sub_cancel_left]
    have complete : (stretch region q eocd64Len).length = eocd64Len := by
      rw [length_stretch]
      omega
    refine Spec.orFault_bind (getRange_eq_some (by decide) (by rw [complete]; decide)) ?_
    refine Spec.orFault_bind (getRange_eq_some (by decide) (by rw [complete]; decide)) ?_
    rw [stretch_stretch region (by decide), stretch_stretch region (by decide)]
    split
    · exact .refuse rfl
    · rename_i few
      refine .pure rfl fun _ => ⟨?_, ?_⟩
      · change littleEndian (stretch region (q + 24) (32 - 24)) ≤ maxArchiveEntries
        omega
      · change littleEndian (stretch region (q + 32) (40 - 32)) ≤ maxArchiveEntries
        omega
  · simp only [absent]
    exact .pure rfl fun complete => absurd complete (Nat.not_le_of_lt beyond)

structure TailOf (file : ArchiveFile) (window tailStart : Nat) (tail : List UInt8) : Prop where
  small : window ≤ maxCentralDirectoryRead
  total : tailStart + window = file.bytes.length
  read : tail = stretch file.bytes tailStart window

variable {file : ArchiveFile} {window tailStart : Nat} {tail : List UInt8}

theorem TailOf.length (is : TailOf file window tailStart tail) : tail.length = window := by
  rw [is.read, length_stretch, ← is.total]
  omega

theorem TailOf.number_eq (is : TailOf file window tailStart tail) {p length place width : Nat}
    (within : p + length ≤ window) (inside : place + width ≤ length) :
    littleEndian (stretch (stretch tail p length) place width) =
      numberAt file.bytes (tailStart + p + place) width := by
  rw [stretch_stretch _ inside, is.read, stretch_stretch _ (by omega), ← Nat.add_assoc]
  rfl

theorem checkedSub_of_le {a b : Nat} (le : b ≤ a) : checkedSub a b = some (a - b) := if_pos le

theorem checkedSub_of_lt {a b : Nat} (lt : a < b) : checkedSub a b = none :=
  if_neg (Nat.not_le_of_lt lt)

theorem readLocator_spec (is : TailOf file window tailStart tail) {p : Nat} (inTail : p ≤ window)
    (room : locatorLen ≤ tailStart + p) :
    Spec (readLocator file tail (tailStart + p - locatorLen) p)
      (fun reads => reads = [] ∨ reads = [locatorLen])
      (· = stretch file.bytes (tailStart + p - locatorLen) locatorLen) := by
  unfold readLocator
  by_cases inside : locatorLen ≤ p
  · rw [checkedSub_of_le inside]
    have within : p ≤ tail.length := by rw [is.length]; exact inTail
    have place : tailStart + (p - locatorLen) = tailStart + p - locatorLen := by omega
    have found : getRange tail (p - locatorLen) p =
        some (stretch file.bytes (tailStart + p - locatorLen) locatorLen) := by
      rw [getRange_eq_some (Nat.sub_le p locatorLen) within, is.read, stretch_stretch _ (by omega),
        place, Nat.sub_sub_self inside]
    simp only [found]
    exact .pure (.inl rfl) rfl
  · rw [checkedSub_of_lt (Nat.lt_of_not_le inside)]
    exact (readAt_spec file _ _).mono (fun reads same => .inr same) fun locator same => same

/-- The end of the stretch is where it would be without a 64-bit bound. -/
theorem min_saturatingAdd {locatorAt start : Nat} (addressed : locatorAt < 18446744073709551616) :
    min locatorAt (saturatingAdd (saturatingAdd start window) eocd64Len) =
      min locatorAt (start + window + eocd64Len) := by
  unfold saturatingAdd
  omega

theorem listsFew_of_stretch {bytes : List UInt8} {start length q : Nat}
    (within : q + eocd64Len ≤ length) (few : ListsFew (stretch bytes start length) q) :
    ListsFew bytes (start + q) := by
  unfold eocd64Len at within
  unfold ListsFew numberAt at few ⊢
  rw [stretch_stretch bytes (by omega), stretch_stretch bytes (by omega)] at few
  exact few

theorem records_spec {start stop : Nat} (small : stop - start ≤ maxCentralDirectoryRead + eocd64Len)
    (inFile : stop ≤ file.bytes.length) :
    Spec (forEach (checkRecord (stretch file.bytes start (stop - start)))
        (positions (stretch file.bytes start (stop - start)) eocd64Signature)) Free
      fun _ => ∀ record, RecordBetween file.bytes start stop record → ListsFew file.bytes record := by
  have length : (stretch file.bytes start (stop - start)).length = stop - start := by
    rw [length_stretch]
    omega
  have near : ∀ q ∈ positions (stretch file.bytes start (stop - start)) eocd64Signature,
      q + eocd64Len < 18446744073709551616 := by
    intro q member
    have fits := (mem_positions.mp member).1
    rw [length] at fits
    unfold maxCentralDirectoryRead eocd64Len at small
    unfold eocd64Len
    omega
  apply (Spec.forEach fun q member => checkRecord_spec (near q member)).mono fun _ free => free
  rintro _ checked record ⟨after, complete, signed⟩
  obtain ⟨q, rfl⟩ := Nat.exists_eq_add_of_le after
  have inside : q + eocd64Len ≤ stop - start := by omega
  have found : q ∈ positions (stretch file.bytes start (stop - start)) eocd64Signature := by
    have width : eocd64Signature.length = 4 := rfl
    unfold eocd64Len at inside
    rw [mem_positions, length, width, stretch_stretch _ (by omega)]
    exact ⟨by omega, signed⟩
  exact listsFew_of_stretch inside (checked q found (by rw [length]; exact inside))

def StretchReads (window : Nat) (reads : List Nat) : Prop :=
  reads = [] ∨ ∃ length, length ≤ window + eocd64Len ∧ reads = [length]

theorem checkStretch_spec {locatorAt start : Nat} (small : window ≤ maxCentralDirectoryRead)
    (inFile : locatorAt ≤ file.bytes.length) (before : start < locatorAt) :
    Spec (checkStretch file window locatorAt start) (StretchReads window) fun _ => ∀ record,
      RecordBetween file.bytes start (min locatorAt (start + window + eocd64Len)) record →
        ListsFew file.bytes record := by
  have addressed := file.addressed
  unfold checkStretch
  rw [min_saturatingAdd (by omega)]
  have ordered : start ≤ min locatorAt (start + window + eocd64Len) := by omega
  refine Spec.orFault_bind (checkedSub_of_le ordered) ?_
  generalize stopped : min locatorAt (start + window + eocd64Len) = stop at ordered ⊢
  have short : stop - start ≤ window + eocd64Len := by omega
  have later : ∀ region, region = stretch file.bytes start (stop - start) →
      Spec (forEach (checkRecord region) (positions region eocd64Signature)) Free
        fun _ => ∀ record, RecordBetween file.bytes start stop record → ListsFew file.bytes record := by
    rintro region rfl
    exact records_spec (by omega) (by omega)
  apply (readAt_spec file start (stop - start)).bind later
  · rintro _ rfl
    exact .inr ⟨_, short, rfl⟩
  · rintro _ _ rfl rfl
    exact .inr ⟨_, short, rfl⟩

theorem followLocator_spec {locatorAt : Nat} (small : window ≤ maxCentralDirectoryRead)
    (inFile : locatorAt + locatorLen ≤ file.bytes.length) :
    Spec (followLocator file window locatorAt (stretch file.bytes locatorAt locatorLen))
      (StretchReads window) fun _ => CountsFew file.bytes window (locatorAt + locatorLen) := by
  have length : (stretch file.bytes locatorAt locatorLen).length = locatorLen := by
    rw [length_stretch]
    omega
  have back : locatorAt + locatorLen - locatorLen = locatorAt := Nat.add_sub_cancel locatorAt locatorLen
  refine Spec.orFault_bind (getRange_eq_some (by decide) (by rw [length]; decide)) ?_
  rw [stretch_stretch _ (by decide)]
  by_cases signed : stretch file.bytes (locatorAt + 0) (4 - 0) ≠ locatorSignature
  · rw [if_pos signed]
    refine .pure (.inl rfl) fun start before => absurd ?_ signed
    have isSigned := before.signed
    rw [back] at isSigned
    exact isSigned
  rw [if_neg signed]
  refine Spec.orFault_bind (getRange_eq_some (by decide) (by rw [length]; decide)) ?_
  rw [stretch_stretch _ (by decide)]
  have names : ∀ start, LocatorBefore file.bytes (locatorAt + locatorLen) start →
      littleEndian (stretch file.bytes (locatorAt + 8) (16 - 8)) = start := by
    intro start before
    have isNamed := before.names
    rw [back] at isNamed
    exact isNamed
  generalize littleEndian (stretch file.bytes (locatorAt + 8) (16 - 8)) = start at names ⊢
  by_cases beyond : start ≥ locatorAt
  · simp only [if_pos beyond]
    refine .pure (.inl rfl) fun other before record between => ?_
    cases names other before
    have complete := between.complete
    have after := between.after
    unfold eocd64Len at complete
    omega
  · simp only [if_neg beyond]
    apply (checkStretch_spec small (by omega) (Nat.lt_of_not_le beyond)).mono fun reads within => within
    intro _ few other before record between
    cases names other before
    rw [back] at between
    exact few record between

theorem checkCandidate_spec (is : TailOf file window tailStart tail) {p : Nat} (inTail : p ≤ window) :
    Spec (checkCandidate file window tailStart tail p) (CandidateReads window)
      fun _ => CountsFew file.bytes window (tailStart + p) := by
  have addressed := file.addressed
  have total := is.total
  have nothing := candidateReads_nil window
  refine Spec.orFault_bind (if_pos (by omega)) ?_
  by_cases room : locatorLen ≤ tailStart + p
  · simp only [checkedSub_of_le room]
    have later : ∀ locator,
        locator = stretch file.bytes (tailStart + p - locatorLen) locatorLen →
        Spec (followLocator file window (tailStart + p - locatorLen) locator) (StretchReads window)
          fun _ => CountsFew file.bytes window (tailStart + p) := by
      rintro locator rfl
      have whole := Nat.sub_add_cancel room
      have follow := @followLocator_spec file window (tailStart + p - locatorLen) is.small (by omega)
      rw [whole] at follow
      exact follow
    apply (readLocator_spec is inTail room).bind later
    · intro reads locator
      exact ⟨reads, [], (List.append_nil reads).symm, locator, .inl rfl⟩
    · intro locator region first rest
      exact ⟨locator, region, rfl, first, rest⟩
  · rw [checkedSub_of_lt (Nat.lt_of_not_le room)]
    exact .pure nothing fun start before => absurd before.room room

def EndsFew (file : ArchiveFile) (window tailStart : Nat) (places : List Nat) : Prop :=
  ∀ p ∈ places, DefersAt file.bytes (tailStart + p) → CountsFew file.bytes window (tailStart + p)

theorem EndsFew.cons {p : Nat} {rest : List Nat} (later : EndsFew file window tailStart rest)
    (here : DefersAt file.bytes (tailStart + p) → CountsFew file.bytes window (tailStart + p)) :
    EndsFew file window tailStart (p :: rest) := by
  intro q member
  rcases List.mem_cons.mp member with rfl | further
  · exact here
  · exact later q further

theorem TailOf.not_defers_beyond (is : TailOf file window tailStart tail) {p : Nat}
    (beyond : window < p + eocdLen) : ¬DefersAt file.bytes (tailStart + p) := by
  intro record
  have complete := record.complete
  have total := is.total
  omega

theorem candidate_then {p most : Nat} {rest : List Nat} {further : Metered Unit}
    (is : TailOf file window tailStart tail) (inTail : p ≤ window)
    (later : Spec further (EndsReads window most) fun _ => EndsFew file window tailStart rest) :
    Spec (do
        checkCandidate file window tailStart tail p
        further) (EndsReads window (most + 1))
      fun _ => EndsFew file window tailStart (p :: rest) := by
  have whole : ∀ _ : Unit, CountsFew file.bytes window (tailStart + p) →
      Spec further (EndsReads window most) fun _ => EndsFew file window tailStart (p :: rest) := by
    intro _ here
    exact later.mono (fun _ within => within) fun _ few => few.cons fun _ => here
  apply (checkCandidate_spec is inTail).bind whole
  · intro reads first
    have alone := endsReads_cons first (endsReads_nil window most)
    rw [List.append_nil] at alone
    exact alone
  · exact fun _ _ => endsReads_cons

/-- The end records at `places` are checked, and at most four of them defer to ZIP64. -/
theorem checkEnds_spec (is : TailOf file window tailStart tail) (places : List Nat) :
    ∀ candidates, candidates ≤ maxZip64Candidates → (∀ p ∈ places, p ≤ window) →
      Spec (checkEnds file window tailStart tail places candidates)
        (EndsReads window (maxZip64Candidates - candidates))
        fun _ => EndsFew file window tailStart places := by
  induction places with
  | nil =>
      intro candidates _ _
      exact .pure (endsReads_nil _ _) fun p member => nomatch member
  | cons p rest ih =>
      intro candidates few inTail
      have inRest : ∀ q ∈ rest, q ≤ window := fun q member => inTail q (List.mem_cons_of_mem _ member)
      have inTailP : p ≤ window := inTail p List.mem_cons_self
      have small := is.small
      unfold maxCentralDirectoryRead at small
      have skip : ¬DefersAt file.bytes (tailStart + p) →
          Spec (checkEnds file window tailStart tail rest candidates)
            (EndsReads window (maxZip64Candidates - candidates))
            fun _ => EndsFew file window tailStart (p :: rest) := by
        intro other
        apply (ih candidates few inRest).mono fun reads within => within
        exact fun _ later => later.cons fun record => absurd record other
      unfold checkEnds
      refine Spec.orFault_bind (if_pos (by unfold eocdLen; omega)) ?_
      rcases getRange_cases tail (Nat.le_add_right p eocdLen) with ⟨within, found⟩ | ⟨beyond, absent⟩
      · have length : (stretch tail p eocdLen).length = eocdLen := by
          rw [length_stretch]
          omega
        rw [is.length] at within
        simp only [found, Nat.add_sub_cancel_left]
        refine Spec.orFault_bind (getRange_eq_some (by decide) (by rw [length]; decide)) ?_
        refine Spec.orFault_bind (getRange_eq_some (by decide) (by rw [length]; decide)) ?_
        rw [is.number_eq within (by decide), is.number_eq within (by decide)]
        split
        · rename_i zip32
          apply skip
          intro record
          rcases record.defers with deferred | deferred
          · exact zip32.1 deferred
          · exact zip32.2 deferred
        · split
          · exact .refuse (endsReads_nil _ _)
          · rename_i room
            have left : maxZip64Candidates - candidates =
                maxZip64Candidates - (candidates + 1) + 1 := by omega
            rw [left]
            exact candidate_then is inTailP (ih (candidates + 1) (Nat.le_of_not_gt room) inRest)
      · simp only [absent]
        rw [is.length] at beyond
        exact skip (is.not_defers_beyond beyond)

def OpeningReads (reads : List Nat) : Prop :=
  ∃ (tail : Nat) (each : List (List Nat)), reads = tail :: each.flatten ∧
    tail ≤ maxCentralDirectoryRead ∧ each.length ≤ maxZip64Candidates ∧
    ∀ candidate ∈ each, CandidateReads maxCentralDirectoryRead candidate

theorem openingReads_of_ends {reads : List Nat} (small : window ≤ maxCentralDirectoryRead)
    (ends : EndsReads window maxZip64Candidates reads) : OpeningReads (window :: reads) := by
  obtain ⟨each, rfl, few, all⟩ := ends
  refine ⟨window, each, rfl, small, few, ?_⟩
  intro candidate member
  obtain ⟨locator, region, rfl, ofLocator, ofRegion⟩ := all candidate member
  refine ⟨locator, region, rfl, ofLocator, ?_⟩
  rcases ofRegion with none | ⟨length, short, rfl⟩
  · exact .inl none
  · exact .inr ⟨length, by omega, rfl⟩

theorem checkTail_spec (is : TailOf file window tailStart tail) :
    Spec (checkTail file window tailStart tail) (EndsReads window maxZip64Candidates)
      fun _ => ∀ place, tailStart ≤ place → DefersAt file.bytes place →
        CountsFew file.bytes window place := by
  have width : eocdSignature.length = 4 := rfl
  have inTail : ∀ p ∈ positions tail eocdSignature, p ≤ window := by
    intro p member
    have fits := (mem_positions.mp member).1
    rw [is.length] at fits
    omega
  have ends := checkEnds_spec is (positions tail eocdSignature) 0 (Nat.zero_le _) inTail
  have rewound : ∀ _ : Unit, EndsFew file window tailStart (positions tail eocdSignature) →
      Spec (if file.rewindFails then refuse "Failed to read TDF archive" else pure ()) Free
        fun _ : Unit => ∀ place, tailStart ≤ place → DefersAt file.bytes place →
          CountsFew file.bytes window place := by
    intro _ checked
    split
    · exact .refuse rfl
    · refine .pure rfl fun place inside record => ?_
      obtain ⟨p, rfl⟩ := Nat.exists_eq_add_of_le inside
      apply checked p _ record
      have complete := record.complete
      have total := is.total
      unfold eocdLen at complete
      rw [mem_positions, is.length, width, is.read, stretch_stretch _ (by omega)]
      exact ⟨by omega, record.signed⟩
  apply ends.bind rewound
  · exact fun reads within => within
  · rintro reads _ within rfl
    rw [List.append_nil]
    exact within

theorem checkZip64EntryCounts_spec (file : ArchiveFile) :
    Spec (checkZip64EntryCounts file) OpeningReads fun _ => ∀ place,
      file.bytes.length - lastWindow file ≤ place → DefersAt file.bytes place →
        CountsFew file.bytes (lastWindow file) place := by
  have small : lastWindow file ≤ maxCentralDirectoryRead := Nat.min_le_right _ _
  have inFile : lastWindow file ≤ file.bytes.length := Nat.min_le_left _ _
  have total : file.bytes.length - lastWindow file + lastWindow file = file.bytes.length :=
    Nat.sub_add_cancel inFile
  refine Spec.orFault_bind (checkedSub_of_le inFile) ?_
  apply (readAt_spec file _ _).bind fun tail read => checkTail_spec ⟨small, total, read⟩
  · rintro _ rfl
    exact openingReads_of_ends small (endsReads_nil _ _)
  · rintro _ reads rfl ends
    exact openingReads_of_ends small ends

def crowdedArchive : ArchiveFile where
  bytes :=
    eocd64Signature ++ List.replicate 20 0 ++ [0x80, 0x96, 0x98, 0, 0, 0, 0, 0] ++
      List.replicate 24 0 ++ locatorSignature ++ List.replicate 16 0 ++ eocdSignature ++
      List.replicate 4 0 ++ [0xFF, 0xFF, 0xFF, 0xFF] ++ List.replicate 10 0
  readFails _ _ := false
  rewindFails := false
  addressed := by decide

example : (checkZip64EntryCounts crowdedArchive).ending =
    .refused "TDF archive lists 10000000 members, more than 65535" := by decide

end Specifications

section Budget

/-- A reader that fails once it has read its budget; `none` is unlimited. -/
structure BudgetReader where
  budget : Option Nat
  deriving DecidableEq, Repr

inductive OpenerCall
  | read (bufLen : Nat) (inner : Except String Nat)
  | seek

inductive OpenerNotice
  | obtained (n : Nat)
  | failed (why : String)
  | fault
  deriving DecidableEq, Repr

namespace BudgetReader

def room (reader : BudgetReader) (bufLen : Nat) : Nat :=
  match reader.budget with
  | none => bufLen
  | some left => min bufLen left

def read (reader : BudgetReader) (bufLen : Nat) (inner : Except String Nat) :
    BudgetReader × List OpenerNotice :=
  match reader.budget with
  | none =>
      match inner with
      | .ok n => (reader, [.obtained n])
      | .error why => (reader, [.failed why])
  | some left =>
      if left = 0 ∧ bufLen ≠ 0 then
        (reader, [.failed ("TDF archive central directory exceeds " ++
          toString maxCentralDirectoryRead ++ " bytes")])
      else
        match inner with
        | .error why => (reader, [.failed why])
        | .ok n =>
            match checkedSub left n with
            | some rest => (⟨some rest⟩, [.obtained n])
            | none => (reader, [.fault])

end BudgetReader

def opening : Machine BudgetReader OpenerCall OpenerNotice where
  next reader call :=
    match call with
    | .read bufLen inner => some (reader.read bufLen inner)
    | .seek => some (reader, [])

def FillsBuffer (_ : List OpenerNotice) (reader : BudgetReader) : OpenerCall → Prop
  | .read bufLen (.ok n) => n ≤ reader.room bufLen
  | _ => True

def obtained : List OpenerNotice → Nat
  | [] => 0
  | .obtained n :: rest => n + obtained rest
  | _ :: rest => obtained rest

/-- What was obtained and what is left of the budget. -/
def Budgeted (log : List OpenerNotice) (reader : BudgetReader) : Prop :=
  ∃ left, reader.budget = some left ∧ obtained log + left = maxCentralDirectoryRead ∧
    OpenerNotice.fault ∉ log

theorem budgeted_read {log notices : List OpenerNotice} {reader next : BudgetReader} {bufLen : Nat}
    {inner : Except String Nat} (budgeted : Budgeted log reader)
    (fills : FillsBuffer log reader (.read bufLen inner))
    (taken : reader.read bufLen inner = (next, notices)) : Budgeted (notices ++ log) next := by
  obtain ⟨left, budget, whole, sound⟩ := budgeted
  unfold BudgetReader.read at taken
  simp only [budget] at taken
  split at taken
  · cases taken
    exact ⟨left, budget, whole, by simpa using sound⟩
  · cases inner with
    | error why =>
        cases taken
        exact ⟨left, budget, whole, by simpa using sound⟩
    | ok n =>
        have most : n ≤ min bufLen left := by
          unfold FillsBuffer BudgetReader.room at fills
          simpa only [budget] using fills
        have within : n ≤ left := Nat.le_trans most (Nat.min_le_right _ _)
        simp only [checkedSub_of_le within] at taken
        cases taken
        refine ⟨left - n, rfl, ?_, by simpa using sound⟩
        change n + obtained log + (left - n) = maxCentralDirectoryRead
        omega

theorem budgeted_run {log : List OpenerNotice} {reader : BudgetReader}
    (run : opening.Run FillsBuffer [] ⟨some maxCentralDirectoryRead⟩ log reader) :
    Budgeted log reader := by
  apply run.invariant Budgeted
  · exact ⟨maxCentralDirectoryRead, rfl, Nat.zero_add _, List.not_mem_nil⟩
  · intro log reader call next notices budgeted fills taken
    cases call with
    | read bufLen inner => exact budgeted_read budgeted fills (Option.some.inj taken)
    | seek =>
        cases Option.some.inj taken
        exact budgeted

end Budget

/-- Opening an archive is bounded whatever its bytes: the check of its ZIP64 end records does not
fault, reads a bounded amount and accepts only bounded counts; the opener after it obtains no more
than its budget. -/
theorem opening_bounded (file : ArchiveFile) :
    (checkZip64EntryCounts file).ending ≠ .fault ∧
    OpeningReads (checkZip64EntryCounts file).reads ∧
    ((checkZip64EntryCounts file).ending = .done () → ∀ place,
      file.bytes.length - lastWindow file ≤ place → DefersAt file.bytes place →
        CountsFew file.bytes (lastWindow file) place) ∧
    ∀ log reader, opening.Run FillsBuffer [] ⟨some maxCentralDirectoryRead⟩ log reader →
      obtained log ≤ maxCentralDirectoryRead ∧
        reader.budget = some (maxCentralDirectoryRead - obtained log) ∧ .fault ∉ log := by
  obtain ⟨sound, cost, post⟩ := checkZip64EntryCounts_spec file
  refine ⟨sound, cost, post (), ?_⟩
  intro log reader run
  obtain ⟨left, budget, whole, noFault⟩ := budgeted_run run
  refine ⟨by omega, ?_, noFault⟩
  rw [budget]
  congr 1
  omega

end TdfIrohS3
