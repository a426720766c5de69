import TdfIrohS3.Catalog.Envelope
import TdfIrohS3.Ingest.Validation

namespace TdfIrohS3

open Library

def extractPolicyFqns (formats : Formats) (opentdf : Opentdf) (policyJson : String) :
    Option (List String) :=
  match (formats.json policyJson.toUTF8.toList).toOption.map Value.lastWins with
  | some (.object policy) =>
      ManifestPolicy.extractAttributeFqns opentdf { mimeType := none, policy := policy }
  | _ => none

def HasAttribute (formats : Formats) (opentdf : Opentdf) (policyJson fqn : String) : Prop :=
  ∃ fqns, extractPolicyFqns formats opentdf policyJson = some fqns ∧ fqn ∈ fqns

namespace Value

mutual

def texts : Value → List String
  | .null | .bool _ | .number _ => []
  | .string s => [s]
  | .array items => textsOfItems items
  | .object members => textsOfMembers members

def textsOfItems : List Value → List String
  | [] => []
  | item :: rest => item.texts ++ textsOfItems rest

def textsOfMembers : List (String × Value) → List String
  | [] => []
  | (key, value) :: rest => key :: (value.texts ++ textsOfMembers rest)

end

variable {text key : String} {value found : Value}

theorem texts_of_item {items : List Value} (member : value ∈ items) (stands : text ∈ value.texts) :
    text ∈ textsOfItems items := by
  induction items with
  | nil => cases member
  | cons item rest ih =>
      rw [textsOfItems, List.mem_append]
      rcases List.mem_cons.mp member with rfl | member
      · exact .inl stands
      · exact .inr (ih member)

theorem texts_of_member {members : List (String × Value)} (present : members.lookup key = some value)
    (stands : text ∈ value.texts) : text ∈ textsOfMembers members := by
  induction members with
  | nil => cases present
  | cons member rest ih =>
      obtain ⟨name, first⟩ := member
      rw [textsOfMembers, List.mem_cons, List.mem_append]
      by_cases same : key = name
      · subst same
        rw [List.lookup_cons_self] at present
        cases present
        exact .inr (.inl stands)
      · rw [List.lookup_cons, beq_eq_false_iff_ne.mpr same] at present
        exact .inr (.inr (ih present))

theorem texts_of_get (present : value.get key = some found) (stands : text ∈ found.texts) :
    text ∈ value.texts := by
  cases value <;> simp only [get, reduceCtorEq] at present
  exact texts_of_member present stands

theorem texts_insertMember {members : List (String × Value)}
    (stands : text ∈ textsOfMembers (insertMember members key value)) :
    text ∈ textsOfMembers members ∨ text = key ∨ text ∈ value.texts := by
  unfold insertMember at stands
  split at stands
  · clear * - stands
    induction members with
    | nil => cases stands
    | cons member rest ih =>
        obtain ⟨name, first⟩ := member
        rw [List.map_cons] at stands
        split at stands <;> simp only [textsOfMembers, List.mem_cons, List.mem_append] at stands ⊢ <;>
          tauto
  · clear * - stands
    induction members with
    | nil => simpa [textsOfMembers] using stands
    | cons member rest ih =>
        obtain ⟨name, first⟩ := member
        simp only [List.cons_append, textsOfMembers, List.mem_cons, List.mem_append] at stands ih ⊢
        tauto

mutual

theorem texts_lastWins : ∀ tree : Value, text ∈ tree.lastWins.texts → text ∈ tree.texts
  | .null | .bool _ | .number _ | .string _ => id
  | .array items => texts_lastWinsItems items
  | .object members => fun stands =>
      (texts_lastWinsMembers members [] stands).resolve_right (by simp [textsOfMembers])

theorem texts_lastWinsItems : ∀ items : List Value,
    text ∈ textsOfItems (lastWinsItems items) → text ∈ textsOfItems items
  | [] => id
  | item :: rest => by
      simp only [lastWinsItems, textsOfItems, List.mem_append]
      exact Or.imp (texts_lastWins item) (texts_lastWinsItems rest)

theorem texts_lastWinsMembers : ∀ members kept : List (String × Value),
    text ∈ textsOfMembers (lastWinsMembers members kept) →
      text ∈ textsOfMembers members ∨ text ∈ textsOfMembers kept
  | [], kept => .inr
  | (key, value) :: rest, kept => by
      intro stands
      rw [lastWinsMembers] at stands
      rw [textsOfMembers, List.mem_cons, List.mem_append]
      rcases texts_lastWinsMembers rest _ stands with later | inserted
      · exact .inl (.inr (.inr later))
      · rcases texts_insertMember inserted with before | same | inside
        · exact .inr before
        · exact .inl (.inl same)
        · exact .inl (.inr (.inl (texts_lastWins value inside)))

end

end Value

section Attributes

variable {platform : IngestPlatform} {policyJson : String} {required : List String}

/-- The FQN reads as a namespace, a name and a value whose texts all stand somewhere in the policy's
text, as they are. -/
def Spelled (platform : IngestPlatform) (policyJson fqn : String) : Prop :=
  ∃ parsed value, platform.parseFqn fqn = some parsed ∧ parsed.value = some value ∧
    Text.contains policyJson parsed.space = true ∧ Text.contains policyJson parsed.name = true ∧
    Text.contains policyJson value = true

def CarriesValue (platform : IngestPlatform) (fqn : String) : Prop :=
  ∃ parsed value, platform.parseFqn fqn = some parsed ∧ parsed.value = some value

theorem attributeInPolicy_spelled (policyJson : String) {fqn : String}
    (carries : CarriesValue platform fqn) :
    (Spelled platform policyJson fqn ∧ attributeInPolicy platform policyJson fqn = .ok true) ∨
      (¬Spelled platform policyJson fqn ∧ attributeInPolicy platform policyJson fqn = .ok false) := by
  obtain ⟨parsed, value, reads, valued⟩ := carries
  have spelled : Spelled platform policyJson fqn ↔
      Text.contains policyJson parsed.space = true ∧ Text.contains policyJson parsed.name = true ∧
        Text.contains policyJson value = true := by
    constructor
    · rintro ⟨parsed', value', reads', valued', words⟩
      cases reads.symm.trans reads'
      cases valued.symm.trans valued'
      exact words
    · intro words
      exact ⟨parsed, value, reads, valued, words⟩
  rw [spelled]
  simp only [attributeInPolicy, reads, valued]
  cases Text.contains policyJson parsed.space <;> cases Text.contains policyJson parsed.name <;>
    cases Text.contains policyJson value <;> simp

theorem requireAttributes_ok_iff (carry : ∀ fqn ∈ required, CarriesValue platform fqn) :
    requireAttributes platform policyJson required = .ok () ↔
      ∀ fqn ∈ required, Spelled platform policyJson fqn := by
  induction required with
  | nil => simp [requireAttributes]
  | cons first rest ih =>
      have later := ih fun fqn member => carry fqn (List.mem_cons_of_mem _ member)
      rw [List.forall_mem_cons]
      rcases attributeInPolicy_spelled policyJson (carry first List.mem_cons_self) with
        ⟨spelled, found⟩ | ⟨unspelled, found⟩
      · simp only [requireAttributes, found, bind_ok, Except.ok.injEq, exists_eq_left', if_true,
          later, spelled, true_and]
      · simp [requireAttributes, found, unspelled]

theorem validateAttributes_ok_iff {manifest : TdfManifest}
    (raw : manifest.policyRaw = some policyJson)
    (carry : ∀ fqn ∈ required, CarriesValue platform fqn) :
    validateAttributes platform manifest required = .ok () ↔
      ∀ fqn ∈ required, Spelled platform policyJson fqn := by
  cases required with
  | nil => simp [validateAttributes]
  | cons first rest =>
      rw [← requireAttributes_ok_iff carry]
      simp [validateAttributes, raw]

/-- The words of a stray FQN all stand in the policy's text, and it is none of its attributes. -/
def Stray (platform : IngestPlatform) (formats : Formats) (opentdf : Opentdf)
    (policyJson fqn : String) : Prop :=
  Spelled platform policyJson fqn ∧ ¬HasAttribute formats opentdf policyJson fqn

section Exact

variable {formats : Formats} {opentdf : Opentdf} {tree : Value}

def quoted (text : String) : List (List Char) :=
  Text.everyOther false (Text.splitChars '"' text.toList)

def unquoted (text : String) : List (List Char) :=
  Text.everyOther true (Text.splitChars '"' text.toList)

def bareChars : List Char := "\x7b\x7d[],: \t\n\r0123456789+-.eEtruefalsn".toList

/-- What the formats say of a policy. By JSON's grammar a text without escapes alternates between what
may stand outside of strings and the texts of its tree, in order. The conditions of opentdf's
structured form take the namespace and the name from the attribute. -/
structure PolicyReaders (formats : Formats) (opentdf : Opentdf) : Prop where
  quotes : ∀ text tree, '\\' ∉ text.toList → formats.json text.toUTF8.toList = .ok tree →
    quoted text = tree.texts.map String.toList
  outside : ∀ text tree, '\\' ∉ text.toList → formats.json text.toUTF8.toList = .ok tree →
    ∀ piece ∈ unquoted text, ∀ c ∈ piece, c ∈ bareChars
  conditions : ∀ item policy, opentdf.attributePolicy item = some policy →
    ∀ c ∈ policy.conditions, c.space ∈ item.texts ∧ c.name ∈ item.texts

def policyAttributes (tree : Value) : List Value :=
  match tree.lastWins with
  | .object policy => ManifestPolicy.dataAttributes { mimeType := none, policy := policy }
  | _ => []

/-- A policy without escapes whose structured conditions have no slash in a namespace or a name, and
strings for values. -/
structure PlainPolicy (opentdf : Opentdf) (policyJson : String) (tree : Value) : Prop where
  unescaped : '\\' ∉ policyJson.toList
  structured : ∀ item ∈ policyAttributes tree, ∀ policy, opentdf.attributePolicy item = some policy →
    ∀ c ∈ policy.conditions, '/' ∉ c.space.toList ∧ '/' ∉ c.name.toList ∧
      ∀ value ∈ c.values.getD [], value ∈ item.texts

/-- The FQN carries a value, and its parts spell it. -/
def WrittenOut (platform : IngestPlatform) (fqn : String) : Prop :=
  ∃ space name value, platform.parseFqn fqn = some ⟨space, name, some value⟩ ∧
    fqn = "https://" ++ space ++ "/attr/" ++ name ++ "/value/" ++ value ∧
    '/' ∉ space.toList ∧ '/' ∉ name.toList

/-- A word that can stand in a JSON text only inside of a string. -/
def Wordy (word : String) : Prop := '"' ∉ word.toList ∧ ∃ c ∈ word.toList, c ∉ bareChars

section Words

variable (readers : PolicyReaders formats opentdf) (unescaped : '\\' ∉ policyJson.toList)
  (parsed : formats.json policyJson.toUTF8.toList = .ok tree)
include readers unescaped parsed

theorem contains_of_texts {text : String} (member : text ∈ tree.texts) :
    Text.contains policyJson text = true := by
  have between : text.toList ∈ quoted policyJson := by
    rw [readers.quotes policyJson tree unescaped parsed]
    exact List.mem_map_of_mem member
  exact Text.contains_iff.mpr (Text.splitChars_infix (Text.mem_of_everyOther between))

theorem texts_of_contains {word : String} (wordy : Wordy word)
    (stands : Text.contains policyJson word = true) :
    ∃ text ∈ tree.texts, Text.contains text word = true := by
  obtain ⟨noQuote, c, inWord, notBare⟩ := wordy
  obtain ⟨piece, member, inside⟩ := Text.infix_splitChars noQuote (Text.contains_iff.mp stands)
  rcases Text.mem_everyOther_or member with bare | between
  · exact absurd (readers.outside policyJson tree unescaped parsed piece bare c
      (inside.subset inWord)) notBare
  · have quotes := readers.quotes policyJson tree unescaped parsed
    rw [quoted] at quotes
    rw [quotes, List.mem_map] at between
    obtain ⟨text, among, rfl⟩ := between
    exact ⟨text, among, Text.contains_iff.mpr inside⟩

end Words

theorem texts_of_policyAttributes {item : Value} {text : String}
    (member : item ∈ policyAttributes tree) (stands : text ∈ item.texts) : text ∈ tree.texts := by
  apply Value.texts_lastWins
  unfold policyAttributes ManifestPolicy.dataAttributes ManifestPolicy.list at member
  split at member
  · next policy same =>
      rw [same]
      cases body : policy.lookup "body" with
      | none => simp [body] at member
      | some found =>
          cases attributes : found.get "dataAttributes" with
          | none => simp [body, attributes] at member
          | some list =>
              cases list <;> simp only [body, attributes, Option.bind_some, Option.getD_some,
                Option.getD_none, List.not_mem_nil] at member
              exact Value.texts_of_member body
                (Value.texts_of_get attributes (Value.texts_of_item member stands))
  · cases member

theorem HasAttribute.mentioned {fqn : String} (has : HasAttribute formats opentdf policyJson fqn)
    (parsed : formats.json policyJson.toUTF8.toList = .ok tree) :
    ∃ item ∈ policyAttributes tree, MentionedIn opentdf fqn item := by
  obtain ⟨fqns, read, member⟩ := has
  unfold extractPolicyFqns at read
  unfold policyAttributes
  rw [parsed] at read
  simp only [Except.toOption, Option.map_some] at read
  split at read
  · next policy same =>
      rw [Option.some.inj same]
      exact (mem_extractAttributeFqns_iff.mp ⟨fqns, read, member⟩).2
  · cases read

section Spelling

variable {space name value space' name' value' : String}

theorem toList_fqn : ("https://" ++ space ++ "/attr/" ++ name).toList =
    "https://".toList ++ (space.toList ++ '/' :: ("attr/".toList ++ name.toList)) := by
  simp

theorem toList_valueFqn : ("https://" ++ space ++ "/attr/" ++ name ++ "/value/" ++ value).toList =
    "https://".toList ++
      (space.toList ++ '/' :: ("attr/".toList ++
        (name.toList ++ '/' :: ("value/".toList ++ value.toList)))) := by
  simp

theorem parts_infix {fqn : String}
    (spells : fqn = "https://" ++ space ++ "/attr/" ++ name ++ "/value/" ++ value) :
    space.toList <:+: fqn.toList ∧ name.toList <:+: fqn.toList ∧ value.toList <:+: fqn.toList := by
  rw [spells, toList_valueFqn]
  refine ⟨⟨"https://".toList, _, List.append_assoc ..⟩, ?_, ?_⟩
  · exact ⟨"https://".toList ++ space.toList ++ '/' :: "attr/".toList,
      '/' :: ("value/".toList ++ value.toList), by simp⟩
  · exact ⟨"https://".toList ++ space.toList ++ '/' :: "attr/".toList ++ name.toList ++
      '/' :: "value/".toList, [], by simp⟩

/-- The parts of an FQN, where no slash stands in them. -/
theorem valueFqn_inj (plain : '/' ∉ space.toList ∧ '/' ∉ name.toList)
    (plain' : '/' ∉ space'.toList ∧ '/' ∉ name'.toList)
    (same : "https://" ++ space ++ "/attr/" ++ name ++ "/value/" ++ value =
      "https://" ++ space' ++ "/attr/" ++ name' ++ "/value/" ++ value') :
    space = space' ∧ name = name' ∧ value = value' := by
  have chars := congrArg String.toList same
  rw [toList_valueFqn, toList_valueFqn] at chars
  obtain ⟨spaces, later⟩ := Text.cut_inj plain.1 plain'.1 (List.append_cancel_left chars)
  obtain ⟨names, values⟩ := Text.cut_inj plain.2 plain'.2 (List.append_cancel_left later)
  exact ⟨String.toList_inj.mp spaces, String.toList_inj.mp names,
    String.toList_inj.mp (List.append_cancel_left values)⟩

theorem valueFqn_ne_fqn (plain : '/' ∉ space.toList)
    (plain' : '/' ∉ space'.toList ∧ '/' ∉ name'.toList) :
    "https://" ++ space ++ "/attr/" ++ name ++ "/value/" ++ value ≠
      "https://" ++ space' ++ "/attr/" ++ name' := by
  intro same
  have chars := congrArg String.toList same
  rw [toList_valueFqn, toList_fqn] at chars
  obtain ⟨-, later⟩ := Text.cut_inj plain plain'.1 (List.append_cancel_left chars)
  exact plain'.2 (List.append_cancel_left later ▸ by simp)

end Spelling

/-- The words of an attribute stand in the text of a plain policy. -/
theorem spelled_of_hasAttribute (readers : PolicyReaders formats opentdf)
    (parsed : formats.json policyJson.toUTF8.toList = .ok tree)
    (plain : PlainPolicy opentdf policyJson tree) {fqn : String} (written : WrittenOut platform fqn)
    (has : HasAttribute formats opentdf policyJson fqn) : Spelled platform policyJson fqn := by
  obtain ⟨space, name, value, reads, spells, noSlash⟩ := written
  obtain ⟨item, member, mentioned⟩ := has.mentioned parsed
  have stands : ∀ text ∈ item.texts, Text.contains policyJson text = true := fun text inside =>
    contains_of_texts readers plain.unescaped parsed (texts_of_policyAttributes member inside)
  refine ⟨_, value, reads, rfl, ?_⟩
  unfold MentionedIn at mentioned
  split at mentioned
  · next spec found =>
      -- the spec form is the FQN itself
      obtain ⟨stored, present, string⟩ := Option.bind_eq_some_iff.mp found
      cases stored <;> simp only [Value.asStr, reduceCtorEq, Option.some.injEq] at string
      subst string
      rw [← mentioned] at present
      have whole := Text.contains_iff.mp
        (stands fqn (Value.texts_of_get present (by simp [Value.texts])))
      obtain ⟨spaceIn, nameIn, valueIn⟩ := parts_infix spells
      exact ⟨Text.contains_iff.mpr (spaceIn.trans whole), Text.contains_iff.mpr (nameIn.trans whole),
        Text.contains_iff.mpr (valueIn.trans whole)⟩
  · obtain ⟨policy, structured, c, condition, named⟩ := mentioned
    obtain ⟨noSpaceSlash, noNameSlash, strings⟩ :=
      plain.structured item member policy structured c condition
    obtain ⟨spaceIn, nameIn⟩ := readers.conditions item policy structured c condition
    unfold AttributeCondition.fqns at named
    split at named
    · next values given =>
        obtain ⟨other, listed, same⟩ := List.mem_map.mp named
        rw [spells] at same
        obtain ⟨rfl, rfl, rfl⟩ := valueFqn_inj ⟨noSpaceSlash, noNameSlash⟩ noSlash same
        exact ⟨stands _ spaceIn, stands _ nameIn, stands _ (strings _ (by rw [given]; exact listed))⟩
    · rw [List.mem_singleton, spells] at named
      exact absurd named (valueFqn_ne_fqn noSlash.1 ⟨noSpaceSlash, noNameSlash⟩)

def words (platform : IngestPlatform) (fqn : String) : List String :=
  match platform.parseFqn fqn with
  | some ⟨space, name, some value⟩ => [space, name, value]
  | _ => []

theorem spelled_iff_words {fqn : String} (carries : CarriesValue platform fqn) :
    Spelled platform policyJson fqn ↔
      ∀ word ∈ words platform fqn, Text.contains policyJson word = true := by
  obtain ⟨⟨space, name, _⟩, value, reads, rfl⟩ := carries
  unfold Spelled words
  rw [reads]
  simp

theorem WrittenOut.carriesValue {fqn : String} (written : WrittenOut platform fqn) :
    CarriesValue platform fqn := by
  obtain ⟨space, name, value, reads, -⟩ := written
  exact ⟨_, value, reads, rfl⟩

end Exact

end Attributes

section Assertions

variable {α : Type} (verifies : α → String → Prop)

def Trusted (platform : IngestPlatform) (assertions : List α) (paths : List String) : Prop :=
  ∃ assertion ∈ assertions, ∃ path ∈ paths, ∃ key,
    platform.readKey path = some key ∧ verifies assertion key

def Unreadable (platform : IngestPlatform) (paths : List String) : Prop :=
  ∃ path ∈ paths, platform.readKey path = none

variable {platform : IngestPlatform} {manifest : TdfManifest} {config : ValidationConfig}

theorem readKeys_ok_iff {paths : List String} :
    readKeys platform paths = .ok () ↔ ¬Unreadable platform paths := by
  induction paths with
  | nil => simp [readKeys, Unreadable]
  | cons path rest ih =>
      have split : Unreadable platform (path :: rest) ↔
          platform.readKey path = none ∨ Unreadable platform rest := by
        simp [Unreadable]
      cases read : platform.readKey path with
      | none => simp [readKeys, read, split]
      | some key => simp [readKeys, read, split, ih]

theorem emptyBinding_none_iff {hashes : List String} :
    emptyBinding hashes = none ↔ "" ∉ hashes := by
  simp only [emptyBinding, List.findIdx?_eq_none_iff, beq_eq_false_iff_ne]
  exact ⟨fun bound member => bound "" member rfl, fun bound hash member empty => bound (empty ▸ member)⟩

/-- What an enabled check lets through: the assertions of the manifest play no part. -/
theorem validateAssertion_ok_iff (platform : IngestPlatform) (manifest : TdfManifest)
    {paths : List String} (configured : paths ≠ []) :
    validateAssertion platform manifest true paths = .ok () ↔
      "" ∉ manifest.bindingHashes ∧ ¬Unreadable platform paths := by
  rw [← emptyBinding_none_iff, ← readKeys_ok_iff]
  cases paths with
  | nil => exact absurd rfl configured
  | cons path rest =>
      cases bound : emptyBinding manifest.bindingHashes <;> simp [validateAssertion, bound]

theorem validateArchive_ok_iff {data : List UInt8} {size : Nat}
    (configured : config.assertion.trustedPublicKeys ≠ []) (enabled : config.assertion.enabled = true) :
    validateArchive platform config data size = .ok manifest ↔
      size ≤ config.maxBlobBytes ∧ validateTdfStructureFrom platform.toTdfReaders data = .ok manifest ∧
        validateAttributes platform manifest config.requiredAttributes = .ok () ∧
        "" ∉ manifest.bindingHashes ∧ ¬Unreadable platform config.assertion.trustedPublicKeys := by
  have checked := validateAssertion_ok_iff platform manifest configured
  rw [← checked]
  simp only [validateArchive, enabled, bind_ok, checkBlobSize, when_ok]
  constructor
  · rintro ⟨sized, ⟨small, -⟩, read, parsed, attributed, has, asserted, passed, same⟩
    cases same
    exact ⟨small, parsed, has, passed⟩
  · rintro ⟨small, parsed, has, passed⟩
    exact ⟨(), ⟨small, trivial⟩, manifest, parsed, (), has, (), passed, rfl⟩

theorem validateAssertion_refused_iff (platform : IngestPlatform) (manifest : TdfManifest)
    {paths : List String} (configured : paths ≠ []) :
    (∃ error, validateAssertion platform manifest true paths = .error error) ↔
      "" ∈ manifest.bindingHashes ∨ Unreadable platform paths := by
  have passes := validateAssertion_ok_iff platform manifest configured
  rw [refused_iff]
  constructor
  · intro refused
    by_contra fine
    exact refused () (passes.mpr (not_or.mp fine))
  · rintro wrong value accepted
    have fine := passes.mp accepted
    exact wrong.elim fine.1 fine.2

theorem validateArchive_refused_iff {data : List UInt8} {size : Nat}
    (configured : config.assertion.trustedPublicKeys ≠ []) (enabled : config.assertion.enabled = true) :
    (∃ error, validateArchive platform config data size = .error error) ↔
      config.maxBlobBytes < size ∨
        ∀ read, validateTdfStructureFrom platform.toTdfReaders data = .ok read →
          validateAttributes platform read config.requiredAttributes ≠ .ok () ∨
          "" ∈ read.bindingHashes ∨ Unreadable platform config.assertion.trustedPublicKeys := by
  rw [refused_iff]
  constructor
  · intro refused
    rw [or_iff_not_imp_left]
    intro large read parsed
    by_contra fine
    push Not at fine
    obtain ⟨has, bound, readable⟩ := fine
    have small : size ≤ config.maxBlobBytes := Nat.le_of_not_lt large
    exact refused read ((validateArchive_ok_iff configured enabled).mpr
      ⟨small, parsed, has, bound, readable⟩)
  · rintro wrong read accepted
    have fine := (validateArchive_ok_iff configured enabled).mp accepted
    rcases wrong with large | wrong
    · omega
    · rcases wrong read fine.2.1 with missing | unbound | unreadable
      · exact missing fine.2.2.1
      · exact fine.2.2.2.1 unbound
      · exact fine.2.2.2.2 unreadable

/-- Content without a trusted assertion is refused exactly when something else is wrong with it or
with the key files: no signature is looked at. -/
theorem untrusted_refused_iff (platform : IngestPlatform) (manifest : TdfManifest)
    (config : ValidationConfig) (assertions : List α) (data : List UInt8) (size : Nat)
    (configured : config.assertion.trustedPublicKeys ≠ []) (enabled : config.assertion.enabled = true) :
    ((¬Trusted verifies platform assertions config.assertion.trustedPublicKeys →
        ∃ error, validateAssertion platform manifest config.assertion.enabled
          config.assertion.trustedPublicKeys = .error error) ↔
      Trusted verifies platform assertions config.assertion.trustedPublicKeys ∨
        "" ∈ manifest.bindingHashes ∨ Unreadable platform config.assertion.trustedPublicKeys) ∧
    ((¬Trusted verifies platform assertions config.assertion.trustedPublicKeys →
        ∃ error, validateArchive platform config data size = .error error) ↔
      Trusted verifies platform assertions config.assertion.trustedPublicKeys ∨
        config.maxBlobBytes < size ∨
        ∀ read, validateTdfStructureFrom platform.toTdfReaders data = .ok read →
          validateAttributes platform read config.requiredAttributes ≠ .ok () ∨
          "" ∈ read.bindingHashes ∨ Unreadable platform config.assertion.trustedPublicKeys) := by
  have asserted := validateAssertion_refused_iff platform manifest configured
  rw [validateArchive_refused_iff configured enabled, enabled, asserted]
  exact ⟨or_iff_not_imp_left.symm, or_iff_not_imp_left.symm⟩

end Assertions

section Attributed

def plainFqn (fqn : String) : Option AttributeFqn :=
  match Text.split fqn '/' with
  | ["https:", "", space, "attr", name, "value", value] => some ⟨space, name, some value⟩
  | ["https:", "", space, "attr", name] => some ⟨space, name, none⟩
  | _ => none

def levelPolicy : String :=
  "\x7b\"body\":\x7b\"dataAttributes\":[\x7b\"attribute\":\"https://example.com/attr/level/value/public\"\x7d],\"dissem\":[\"storage\",\"permanent\"]\x7d\x7d"

def levelFqn : String := "https://example.com/attr/level/value/public"

def storageFqn : String := "https://example.com/attr/storage/value/permanent"

def levelTree : Value :=
  .object [("body", .object [
    ("dataAttributes", .array [.object [("attribute", .string levelFqn)]]),
    ("dissem", .array [.string "storage", .string "permanent"])])]

def levelFormats : Formats where
  json bytes :=
    if bytes = levelPolicy.toUTF8.toList then .ok levelTree else .error "expected value"
  mismatch _ := ""
  toVec _ := []
  base64Url _ := none
  base64Standard _ := none

def levelOpentdf : Opentdf := ⟨fun _ => none, fun _ => none⟩

def levelManifest : TdfManifest := ⟨some levelPolicy, ["binding"], "", none⟩

def levelArchive : ZipArchive where
  names := ["manifest.json", "0.payload"]
  byName _ := some ⟨0, fun _ => some []⟩

def levelIngest : IngestPlatform where
  zip _ := some levelArchive
  fromJson _ := some levelManifest
  debug name := name
  blake3 _ := []
  outboard _ := []
  parseFqn := plainFqn
  readKey path := if path = "trusted.pem" then some "a key" else none

theorem levelPolicy_fqns :
    extractPolicyFqns levelFormats levelOpentdf levelPolicy = some [levelFqn] := by
  decide +kernel

theorem levelFormats_json {text : String} {tree : Value}
    (parsed : levelFormats.json text.toUTF8.toList = .ok tree) :
    text = levelPolicy ∧ tree = levelTree := by
  rw [levelFormats, when_ok] at parsed
  exact ⟨Text.utf8_injective parsed.1, (Except.ok.inj parsed.2).symm⟩

theorem levelReaders : PolicyReaders levelFormats levelOpentdf where
  quotes := by
    intro text tree _ parsed
    obtain ⟨rfl, rfl⟩ := levelFormats_json parsed
    decide +kernel
  outside := by
    intro text tree _ parsed piece member c inside
    obtain ⟨rfl, rfl⟩ := levelFormats_json parsed
    have bare : (unquoted levelPolicy).all (fun piece => piece.all bareChars.contains) = true := by
      decide +kernel
    have all := List.all_eq_true.mp (List.all_eq_true.mp bare piece member) c inside
    exact List.contains_iff_mem.mp all
  conditions := nofun

def assertingConfig (keys : List String) : ValidationConfig := ⟨[], ⟨true, keys⟩, 100⟩

/-- A manifest without an assertion is accepted, whatever a signature is. -/
theorem unsigned_content_accepted :
    (∀ verifies : Unit → String → Prop, ¬Trusted verifies levelIngest [] ["trusted.pem"]) ∧
      validateAssertion levelIngest levelManifest true ["trusted.pem"] = .ok () ∧
      validateArchive levelIngest (assertingConfig ["trusted.pem"]) [] 0 = .ok levelManifest := by
  refine ⟨?_, by decide +kernel, by decide +kernel⟩
  rintro verifies ⟨assertion, member, -⟩
  exact absurd member List.not_mem_nil

theorem untrusted_refused_missing_key :
    ∃ error, validateAssertion levelIngest levelManifest true ["missing.pem"] = .error error := by
  have unreadable : Unreadable levelIngest ["missing.pem"] :=
    ⟨"missing.pem", List.mem_singleton_self _, by decide⟩
  have refused := untrusted_refused_iff (fun _ _ : String => False) levelIngest levelManifest
    (assertingConfig ["missing.pem"]) [] [] 0 (by simp [assertingConfig]) rfl
  refine refused.1.mpr (Or.inr (Or.inr unreadable)) ?_
  rintro ⟨assertion, member, -⟩
  exact absurd member List.not_mem_nil

end Attributed

end TdfIrohS3
