import TdfIrohS3.Catalog.Handlers
import TdfIrohS3.Library.Buffered

namespace TdfIrohS3

open Library

section LookUps

def ingestCheckConcurrency : Nat := 16

/-- Look up each hash, stopping at the first refusal in the order of the hashes. The schedule is the
order in which look-ups start, complete and are taken. -/
def lookUp {Found : Type} (schedule : Nat → Nat) (hashes : List String)
    (look : String → Except Refusal Found) : Option (Except Refusal (List (String × Found))) :=
  Buffered.collect ingestCheckConcurrency look schedule hashes

def recordingSize (bucket : Bucket) (down : List String) (hash : String) : Except Refusal Nat :=
  if down.contains hash then .error storageUnavailable
  else
    match bucket.blobs.get hash with
    | some bytes => .ok bytes.length
    | none => .error ⟨422, "payload " ++ hash ++ " is not ingested"⟩

def recordingManifest (formats : Formats) (bucket : Bucket) (down : List String) (hash : String) :
    Except Refusal ManifestPolicy :=
  if down.contains hash then .error storageUnavailable
  else
    match bucket.manifests.get hash with
    | none => .error ⟨422, "payload " ++ hash ++ " manifest is not stored"⟩
    | some bytes =>
        match readManifest formats bytes with
        | some manifest => .ok manifest
        | none => .error ⟨422, "payload " ++ hash ++ " manifest is unreadable"⟩

def checkPayloadsBuffered (platform : CatalogPlatform) (node : V2State) (bucket : Bucket)
    (entries : List CreatorCatalogEntry) (fqn : String) (sizesDown manifestsDown : List String)
    (sizesOrder manifestsOrder : Nat → Nat) : Option (Except Refusal Unit) :=
  if entries.any fun e => node.isBlocked e.payloadHash then some (.error ⟨403, "content is blocked"⟩)
  else
    match lookUp sizesOrder (hashes entries) (recordingSize bucket sizesDown) with
    | none => none
    | some (.error refusal) => some (.error refusal)
    | some (.ok sizes) =>
        match entries.find? fun e => sizes.lookup e.payloadHash ≠ some e.payloadSize with
        | some e => some (.error ⟨422, "payload " ++ e.payloadHash ++ " size does not match"⟩)
        | none =>
            match lookUp manifestsOrder (hashes entries)
                (recordingManifest platform.toFormats bucket manifestsDown) with
            | none => none
            | some (.error refusal) => some (.error refusal)
            | some (.ok manifests) =>
                match entries.find? fun e => !(manifests.lookup e.payloadHash).any fun manifest =>
                    manifest.hasAttribute platform.toOpentdf fqn with
                | some e => some (.error ⟨422, "entry " ++ e.contentId ++
                    " policy does not include the catalog attribute"⟩)
                | none => some (.ok ())

end LookUps

section Plain

variable (platform : CatalogPlatform) (node : V2State) (bucket : Bucket) (fqn : String)
  (sizesDown manifestsDown : List String)

def blockedRefusal (e : CreatorCatalogEntry) : Option Refusal :=
  if node.isBlocked e.payloadHash then some ⟨403, "content is blocked"⟩ else none

def ingestRefusal (e : CreatorCatalogEntry) : Option Refusal :=
  if sizesDown.contains e.payloadHash then some ⟨502, "storage unavailable"⟩
  else if (bucket.blobs.get e.payloadHash).isNone then
    some ⟨422, "payload " ++ e.payloadHash ++ " is not ingested"⟩
  else none

def sizeRefusal (e : CreatorCatalogEntry) : Option Refusal :=
  if (bucket.blobs.get e.payloadHash).any fun bytes => bytes.length ≠ e.payloadSize then
    some ⟨422, "payload " ++ e.payloadHash ++ " size does not match"⟩
  else none

def manifestRefusal (e : CreatorCatalogEntry) : Option Refusal :=
  if manifestsDown.contains e.payloadHash then some ⟨502, "storage unavailable"⟩
  else if (bucket.manifests.get e.payloadHash).isNone then
    some ⟨422, "payload " ++ e.payloadHash ++ " manifest is not stored"⟩
  else if ((bucket.manifests.get e.payloadHash).bind (readManifest platform.toFormats)).isNone then
    some ⟨422, "payload " ++ e.payloadHash ++ " manifest is unreadable"⟩
  else none

def attributeRefusal (e : CreatorCatalogEntry) : Option Refusal :=
  if ((bucket.manifests.get e.payloadHash).bind (readManifest platform.toFormats)).any fun manifest =>
      !manifest.hasAttribute platform.toOpentdf fqn then
    some ⟨422, "entry " ++ e.contentId ++ " policy does not include the catalog attribute"⟩
  else none

/-- What refuses a catalog: the first entry that is refused for the first of the five reasons. -/
def firstRefusal (entries : List CreatorCatalogEntry) : Option Refusal :=
  (entries.findSome? (blockedRefusal node)).or <|
    (entries.findSome? (ingestRefusal bucket sizesDown)).or <|
    (entries.findSome? (sizeRefusal bucket)).or <|
    (entries.findSome? (manifestRefusal platform bucket manifestsDown)).or <|
    entries.findSome? (attributeRefusal platform bucket fqn)

def checkEntries (entries : List CreatorCatalogEntry) : Except Refusal Unit :=
  match firstRefusal platform node bucket fqn sizesDown manifestsDown entries with
  | some refusal => .error refusal
  | none => .ok ()

end Plain

section Refines

variable {platform : CatalogPlatform} {node : V2State} {bucket : Bucket} {fqn : String}
  {sizesDown manifestsDown : List String} {entries : List CreatorCatalogEntry}

theorem refusalOf_recordingSize (e : CreatorCatalogEntry) :
    Buffered.refusalOf (recordingSize bucket sizesDown e.payloadHash) =
      ingestRefusal bucket sizesDown e := by
  unfold recordingSize ingestRefusal
  split
  · rfl
  · cases bucket.blobs.get e.payloadHash <;> rfl

theorem refusalOf_recordingManifest (e : CreatorCatalogEntry) :
    Buffered.refusalOf (recordingManifest platform.toFormats bucket manifestsDown e.payloadHash) =
      manifestRefusal platform bucket manifestsDown e := by
  unfold recordingManifest manifestRefusal
  split
  · rfl
  · cases bucket.manifests.get e.payloadHash with
    | none => rfl
    | some bytes =>
        cases read : readManifest platform.toFormats bytes <;> simp [Buffered.refusalOf, read]

/-- Asking the distinct hashes finds the first refusal over the entries. -/
theorem findSome_hashes {Out : Type} (look : String → Option Out) :
    (hashes entries).findSome? look = entries.findSome? fun e => look e.payloadHash := by
  rw [hashes, Buffered.findSome_eraseDups, List.findSome?_map]
  rfl

theorem mem_hashes {e : CreatorCatalogEntry} (member : e ∈ entries) :
    e.payloadHash ∈ hashes entries :=
  List.mem_eraseDups.mpr (List.mem_map_of_mem member)

theorem recordingSize_ok {hash : String} {size : Nat}
    (found : recordingSize bucket sizesDown hash = .ok size) :
    ∃ bytes, bucket.blobs.get hash = some bytes ∧ bytes.length = size := by
  unfold recordingSize at found
  split at found
  · cases found
  · cases stored : bucket.blobs.get hash with
    | none => simp [stored] at found
    | some bytes =>
        rw [stored] at found
        exact ⟨bytes, rfl, Except.ok.inj found⟩

theorem recordingManifest_ok {hash : String} {manifest : ManifestPolicy}
    (found : recordingManifest platform.toFormats bucket manifestsDown hash = .ok manifest) :
    (bucket.manifests.get hash).bind (readManifest platform.toFormats) = some manifest := by
  unfold recordingManifest at found
  split at found
  · cases found
  · cases stored : bucket.manifests.get hash with
    | none => simp [stored] at found
    | some bytes =>
        cases read : readManifest platform.toFormats bytes with
        | none => simp [stored, read] at found
        | some other => simpa [stored, read] using found

def FoundAll {Found : Type} (entries : List CreatorCatalogEntry)
    (look : String → Except Refusal Found) (found : List (String × Found)) : Prop :=
  ∀ hash ∈ hashes entries, ∃ value, look hash = .ok value ∧ found.lookup hash = some value

/-- A pass of look-ups, in whatever order: the refusal of the first entry that has one, or a value for
every hash. -/
theorem lookUp_cases {Found : Type} (entries : List CreatorCatalogEntry) (schedule : Nat → Nat)
    (look : String → Except Refusal Found) :
    (∃ refusal, lookUp schedule (hashes entries) look = some (.error refusal) ∧
      (entries.findSome? fun e => Buffered.refusalOf (look e.payloadHash)) = some refusal) ∨
    ∃ found, lookUp schedule (hashes entries) look = some (.ok found) ∧
      (entries.findSome? fun e => Buffered.refusalOf (look e.payloadHash)) = none ∧
      FoundAll entries look found := by
  rw [lookUp, Buffered.collect_eq (by decide),
    ← findSome_hashes fun hash => Buffered.refusalOf (look hash)]
  rcases Buffered.mapM_ask (hashes entries) with ⟨refusal, refused, first⟩ | ⟨found, all, none, each⟩
  · exact .inl ⟨refusal, congrArg some refused, first⟩
  · exact .inr ⟨found, congrArg some all, none, each⟩

theorem findSome_sizeRefusal {sizes : List (String × Nat)}
    (known : FoundAll entries (recordingSize bucket sizesDown) sizes) :
    entries.findSome? (sizeRefusal bucket) =
      (entries.find? fun e => sizes.lookup e.payloadHash ≠ some e.payloadSize).map fun e =>
        ⟨422, "payload " ++ e.payloadHash ++ " size does not match"⟩ := by
  apply Buffered.findSome_eq_find
  intro e member
  obtain ⟨size, found, held⟩ := known _ (mem_hashes member)
  obtain ⟨bytes, stored, rfl⟩ := recordingSize_ok found
  rw [sizeRefusal, stored, held]
  simp

theorem findSome_attributeRefusal {manifests : List (String × ManifestPolicy)}
    (known : FoundAll entries (recordingManifest platform.toFormats bucket manifestsDown) manifests) :
    entries.findSome? (attributeRefusal platform bucket fqn) =
      (entries.find? fun e => !(manifests.lookup e.payloadHash).any fun manifest =>
        manifest.hasAttribute platform.toOpentdf fqn).map fun e =>
          ⟨422, "entry " ++ e.contentId ++ " policy does not include the catalog attribute"⟩ := by
  apply Buffered.findSome_eq_find
  intro e member
  obtain ⟨manifest, found, held⟩ := known _ (mem_hashes member)
  rw [attributeRefusal, recordingManifest_ok found, held]
  simp

theorem findSome_blockedRefusal :
    entries.findSome? (blockedRefusal node) =
      if entries.any fun e => node.isBlocked e.payloadHash then some ⟨403, "content is blocked"⟩
      else none := by
  induction entries with
  | nil => rfl
  | cons e rest ih =>
      rw [List.findSome?_cons, List.any_cons, ih, blockedRefusal]
      cases node.isBlocked e.payloadHash <;> rfl

theorem checkPayloadsBuffered_eq (sizesOrder manifestsOrder : Nat → Nat) :
    checkPayloadsBuffered platform node bucket entries fqn sizesDown manifestsDown sizesOrder
        manifestsOrder =
      some (checkEntries platform node bucket fqn sizesDown manifestsDown entries) := by
  have sizePass : (entries.findSome? fun e =>
      Buffered.refusalOf (recordingSize bucket sizesDown e.payloadHash)) =
      entries.findSome? (ingestRefusal bucket sizesDown) :=
    congrArg (entries.findSome? ·) (funext refusalOf_recordingSize)
  have manifestPass : (entries.findSome? fun e =>
      Buffered.refusalOf (recordingManifest platform.toFormats bucket manifestsDown e.payloadHash)) =
      entries.findSome? (manifestRefusal platform bucket manifestsDown) :=
    congrArg (entries.findSome? ·) (funext refusalOf_recordingManifest)
  unfold checkPayloadsBuffered checkEntries firstRefusal
  rw [findSome_blockedRefusal]
  by_cases blocked : (entries.any fun e => node.isBlocked e.payloadHash) = true
  · rw [if_pos blocked, if_pos blocked]
    rfl
  rw [if_neg blocked, if_neg blocked, Option.none_or]
  rcases lookUp_cases entries sizesOrder (recordingSize bucket sizesDown) with
    ⟨refusal, looked, first⟩ | ⟨sizes, looked, none, known⟩
  · rw [looked, ← sizePass, first]
    rfl
  rw [looked, ← sizePass, none, Option.none_or, findSome_sizeRefusal known]
  simp only
  cases entries.find? fun e => sizes.lookup e.payloadHash ≠ some e.payloadSize with
  | some e => rfl
  | none =>
      rw [Option.map_none, Option.none_or]
      rcases lookUp_cases entries manifestsOrder
          (recordingManifest platform.toFormats bucket manifestsDown) with
        ⟨refusal, looked, first⟩ | ⟨manifests, looked, none, known⟩
      · simp only [looked, ← manifestPass, first]
        rfl
      simp only [looked, ← manifestPass, none, Option.none_or, findSome_attributeRefusal known]
      cases entries.find? fun e => !(manifests.lookup e.payloadHash).any fun manifest =>
          manifest.hasAttribute platform.toOpentdf fqn with
      | some e => rfl
      | none => rfl

theorem ask_recordingSize (hash : String) :
    Buffered.ask (recordingSize bucket sizesDown) hash =
      if sizesDown.contains hash then .error storageUnavailable
      else
        match bucket.blobs.get hash with
        | some bytes => .ok (hash, bytes.length)
        | none => .error ⟨422, "payload " ++ hash ++ " is not ingested"⟩ := by
  rw [Buffered.ask, recordingSize]
  split
  · rfl
  · cases bucket.blobs.get hash <;> rfl

theorem ask_recordingManifest (hash : String) :
    Buffered.ask (recordingManifest platform.toFormats bucket manifestsDown) hash =
      if manifestsDown.contains hash then .error storageUnavailable
      else
        match bucket.manifests.get hash with
        | none => .error ⟨422, "payload " ++ hash ++ " manifest is not stored"⟩
        | some bytes =>
            match readManifest platform.toFormats bytes with
            | some manifest => .ok (hash, manifest)
            | none => .error ⟨422, "payload " ++ hash ++ " manifest is unreadable"⟩ := by
  rw [Buffered.ask, recordingManifest]
  split
  · rfl
  · cases bucket.manifests.get hash with
    | none => rfl
    | some bytes =>
        simp only
        cases readManifest platform.toFormats bytes <;> rfl

theorem checkPayloads_eq (sizesOrder manifestsOrder : Nat → Nat) :
    checkPayloadsBuffered platform node bucket entries fqn sizesDown manifestsDown sizesOrder
        manifestsOrder =
      some (checkPayloads platform node bucket entries fqn sizesDown manifestsDown) := by
  unfold checkPayloadsBuffered checkPayloads lookUp
  rw [Buffered.collect_eq (by decide), funext ask_recordingSize]
  by_cases blocked : (entries.any fun e => node.isBlocked e.payloadHash) = true
  · rw [if_pos blocked, if_pos blocked]
    rfl
  rw [if_neg blocked, if_neg blocked]
  generalize ((hashes entries).mapM _ : Except Refusal (List (String × Nat))) = sizePass
  cases sizePass with
  | error refusal => rfl
  | ok sizes =>
      simp only [ok_bind]
      cases entries.find? fun e => sizes.lookup e.payloadHash ≠ some e.payloadSize with
      | some e => rfl
      | none =>
          simp only
          rw [Buffered.collect_eq (by decide), funext ask_recordingManifest]
          generalize ((hashes entries).mapM _ : Except Refusal (List (String × ManifestPolicy))) =
            manifestPass
          cases manifestPass with
          | error refusal => rfl
          | ok manifests =>
              simp only [ok_bind]
              cases entries.find? fun e => !(manifests.lookup e.payloadHash).any fun manifest =>
                  manifest.hasAttribute platform.toOpentdf fqn with
              | some e => rfl
              | none => rfl

/-- Whatever the order in which the look-ups complete, `check_payloads` finishes and answers as the
check of each entry on its own, and so does the check the handlers run. -/
theorem checkPayloads_any_order (platform : CatalogPlatform) (node : V2State) (bucket : Bucket)
    (entries : List CreatorCatalogEntry) (fqn : String) (sizesDown manifestsDown : List String) :
    (∀ sizesOrder manifestsOrder, checkPayloadsBuffered platform node bucket entries fqn sizesDown
        manifestsDown sizesOrder manifestsOrder =
      some (checkEntries platform node bucket fqn sizesDown manifestsDown entries)) ∧
    checkPayloads platform node bucket entries fqn sizesDown manifestsDown =
      checkEntries platform node bucket fqn sizesDown manifestsDown entries := by
  refine ⟨fun sizesOrder manifestsOrder => checkPayloadsBuffered_eq sizesOrder manifestsOrder, ?_⟩
  apply Option.some.inj
  rw [← checkPayloads_eq (fun _ => 0) fun _ => 0]
  exact checkPayloadsBuffered_eq _ _

end Refines

end TdfIrohS3
