import Mathlib.Data.List.Dedup
import TdfIrohS3.Catalog.Format

namespace TdfIrohS3

open Library

inductive ConditionOperator
  | equals
  | other
  deriving DecidableEq, Repr

/-- The values of a condition, as the FQN spells them: `none` for a condition without a value. -/
structure AttributeCondition where
  space : String
  name : String
  operator : ConditionOperator
  values : Option (List String)
  deriving DecidableEq, Repr

inductive AttributePolicy
  | condition (condition : AttributeCondition)
  | and (conditions : List AttributePolicy)
  | or (conditions : List AttributePolicy)
  | not (condition : AttributePolicy)
  deriving Repr

/-- What the node takes from opentdf: a ZTDF's `manifest.json`, after its structure was checked, and
the structured form of a policy's attribute. -/
structure Opentdf where
  manifest : List UInt8 → Option (List UInt8)
  attributePolicy : Value → Option AttributePolicy

def catalogMimeType : String := "application/vnd.arkavo.creator-catalog+json"

def campaignFqnPrefix : String := "https://patreon.arkavo.com/attr/campaign/value/"

def creatorFqnPrefix : String := "https://arkavo.net/attr/creator/value/"

structure ManifestPolicy where
  mimeType : Option String
  policy : List (String × Value)
  deriving DecidableEq, Repr

inductive EnvelopeRefusal
  | notCatalog
  | noPolicyId
  | policy
  deriving DecidableEq, Repr

/-- A manifest with a base64 JSON-object policy and a `keyAccess` array whose elements each name a
`url`. -/
def readManifest (formats : Formats) (bytes : List UInt8) : Option ManifestPolicy := do
  let manifest ← (formats.json bytes).toOption.map Value.lastWins
  let mimeType := ((manifest.get "payload").bind fun p => p.get "mimeType").bind Value.asStr
  let info ← manifest.get "encryptionInformation"
  let text ← (← info.get "policy").asStr
  let policy ← formats.base64Standard text
  match (← (formats.json policy).toOption.map Value.lastWins), ← (← info.get "keyAccess").asArray with
  | .object policy, keyAccess =>
      if keyAccess.all fun k => ((k.get "url").bind Value.asStr).isSome then
        some { mimeType, policy }
      else none
  | _, _ => none

namespace ManifestPolicy

def policyId (manifest : ManifestPolicy) : Option String :=
  ((manifest.policy.lookup "uuid").bind Value.asStr).filter fun id => id ≠ ""

def list (manifest : ManifestPolicy) (key : String) : Option (List Value) :=
  match (manifest.policy.lookup "body").bind fun b => b.get key with
  | none | some .null => some []
  | some (.array items) => some items
  | some _ => none

mutual

def collectFqns : AttributePolicy → List String
  | .condition c =>
      let base := "https://" ++ c.space ++ "/attr/" ++ c.name
      match c.values with
      | some values => values.map fun value => base ++ "/value/" ++ value
      | none => [base]
  | .and conditions | .or conditions => collectAllFqns conditions
  | .not condition => collectFqns condition

def collectAllFqns : List AttributePolicy → List String
  | [] => []
  | condition :: rest => collectFqns condition ++ collectAllFqns rest

end

def attributeFqns (opentdf : Opentdf) (item : Value) : Option (List String) :=
  match (item.get "attribute").bind Value.asStr with
  | some fqn => some [fqn]
  | none => (opentdf.attributePolicy item).map collectFqns

def extractAttributeFqns (opentdf : Opentdf) (manifest : ManifestPolicy) : Option (List String) := do
  let body ← manifest.policy.lookup "body"
  let attributes ←
    match body.get "dataAttributes" with
    | none | some .null => some []
    | some (.array items) => some items
    | some _ => none
  let fqns ← attributes.mapM (attributeFqns opentdf)
  return (fqns.flatten.mergeSort fun a b => decide (a ≤ b)).dedup

def hasAttribute (opentdf : Opentdf) (manifest : ManifestPolicy) (fqn : String) : Bool :=
  (manifest.extractAttributeFqns opentdf).any fun fqns => fqns.contains fqn

end ManifestPolicy

/-- `xxxxxxxx-xxxx-xxxx-xxxx-xxxxxxxxxxxx` in lower-case hex. -/
def isLowerUuid (s : String) : Bool :=
  s.utf8ByteSize == 36 && s.toList.zipIdx.all fun (c, i) =>
    if i = 8 ∨ i = 13 ∨ i = 18 ∨ i = 23 then c == '-' else Text.isLowerHexDigit c

def isCampaignFqn (fqn : String) : Bool :=
  (Text.stripPrefix fqn campaignFqnPrefix).any fun id =>
    id != "" && id.toList.all fun c => '0' ≤ c && c ≤ '9'

def isCreatorFqn (sub fqn : String) : Bool :=
  Text.stripPrefix fqn creatorFqnPrefix == some sub && isLowerUuid sub

def ManifestPolicy.onlyFqn (manifest : ManifestPolicy) : Option String :=
  match manifest.list "dataAttributes" with
  | some [one] => (one.get "attribute").bind Value.asStr
  | _ => none

def ManifestPolicy.onlyBodyAndUuid (manifest : ManifestPolicy) : Bool :=
  let keys := manifest.policy.map Prod.fst
  keys == ["body", "uuid"] || keys == ["uuid", "body"]

def checkEnvelope (envelope : ManifestPolicy) (sub : String) : Except EnvelopeRefusal String :=
  if envelope.mimeType ≠ some catalogMimeType then .error .notCatalog
  else if !envelope.onlyBodyAndUuid then .error .policy
  else if envelope.policyId = none then .error .noPolicyId
  else if envelope.list "dissem" ≠ some [] then .error .policy
  else
    match envelope.onlyFqn with
    | some fqn => if isCampaignFqn fqn || isCreatorFqn sub fqn then .ok fqn else .error .policy
    | none => .error .policy

def EnvelopeRefusal.message : EnvelopeRefusal → String
  | .notCatalog => "document is not a catalog"
  | .noPolicyId => "catalog policy has no uuid"
  | .policy => "catalog policy must be one campaign or the creator attribute"

def envelopeAttribute (formats : Formats) (opentdf : Opentdf) (document : List UInt8) (sub : String) :
    Except String String :=
  match opentdf.manifest document with
  | none => .error "document is not a TDF"
  | some manifest =>
      match readManifest formats manifest with
      | none => .error "document is not a TDF"
      | some manifest =>
          match checkEnvelope manifest sub with
          | .error why => .error why.message
          | .ok fqn => .ok fqn

theorem checkEnvelope_ok {envelope : ManifestPolicy} {sub fqn : String}
    (checked : checkEnvelope envelope sub = .ok fqn) : envelope.onlyFqn = some fqn := by
  simp only [checkEnvelope, unless_error_ok] at checked
  rcases checked with ⟨-, -, -, -, checked⟩
  split at checked
  · rename_i found
    split at checked <;> cases checked
    exact found
  · cases checked

theorem checkEnvelope_named {envelope : ManifestPolicy} {sub fqn : String}
    (checked : checkEnvelope envelope sub = .ok fqn) :
    isCampaignFqn fqn = true ∨ isCreatorFqn sub fqn = true := by
  simp only [checkEnvelope, unless_error_ok] at checked
  rcases checked with ⟨-, -, -, -, checked⟩
  split at checked
  · split at checked
    · rename_i named
      cases checked
      exact Bool.or_eq_true_iff.mp named
    · cases checked
  · cases checked

theorem envelopeAttribute_named {formats : Formats} {opentdf : Opentdf} {document : List UInt8}
    {sub fqn : String} (enveloped : envelopeAttribute formats opentdf document sub = .ok fqn) :
    isCampaignFqn fqn = true ∨ isCreatorFqn sub fqn = true := by
  unfold envelopeAttribute at enveloped
  split at enveloped
  · cases enveloped
  · split at enveloped
    · cases enveloped
    · split at enveloped
      · cases enveloped
      · rename_i checked
        cases enveloped
        exact checkEnvelope_named checked

theorem envelopeAttribute_unique {formats : Formats} {opentdf : Opentdf} {document : List UInt8}
    {sub other fqn fqn' : String} (first : envelopeAttribute formats opentdf document sub = .ok fqn)
    (second : envelopeAttribute formats opentdf document other = .ok fqn') : fqn = fqn' := by
  unfold envelopeAttribute at first second
  split at first
  · cases first
  · rename_i bytes found
    rw [found] at second
    simp only at second
    split at first
    · cases first
    · rename_i manifest read
      rw [read] at second
      simp only at second
      split at first <;> cases first
      rename_i checked
      split at second <;> cases second
      rename_i checked'
      have same := (checkEnvelope_ok checked).symm.trans (checkEnvelope_ok checked')
      exact Option.some.inj same

section Mentions

mutual

def AttributePolicy.conditions : AttributePolicy → List AttributeCondition
  | .condition c => [c]
  | .and parts | .or parts => conditionsOf parts
  | .not part => part.conditions

def conditionsOf : List AttributePolicy → List AttributeCondition
  | [] => []
  | part :: rest => part.conditions ++ conditionsOf rest

end

def AttributeCondition.fqns (c : AttributeCondition) : List String :=
  let base := "https://" ++ c.space ++ "/attr/" ++ c.name
  match c.values with
  | some values => values.map fun value => base ++ "/value/" ++ value
  | none => [base]

mutual

theorem collectFqns_eq : ∀ policy : AttributePolicy,
    ManifestPolicy.collectFqns policy = policy.conditions.flatMap AttributeCondition.fqns
  | .condition c => by
      simp only [ManifestPolicy.collectFqns, AttributePolicy.conditions, AttributeCondition.fqns,
        List.flatMap_singleton]
  | .and parts => collectAllFqns_eq parts
  | .or parts => collectAllFqns_eq parts
  | .not part => collectFqns_eq part

theorem collectAllFqns_eq : ∀ parts : List AttributePolicy,
    ManifestPolicy.collectAllFqns parts = (conditionsOf parts).flatMap AttributeCondition.fqns
  | [] => rfl
  | part :: rest => by
      rw [ManifestPolicy.collectAllFqns, conditionsOf, List.flatMap_append, collectFqns_eq part,
        collectAllFqns_eq rest]

end

def ManifestPolicy.dataAttributes (manifest : ManifestPolicy) : List Value :=
  (manifest.list "dataAttributes").getD []

/-- A data attribute names the FQN: as its spec form, or in a condition at any depth. -/
def MentionedIn (opentdf : Opentdf) (fqn : String) (item : Value) : Prop :=
  match (item.get "attribute").bind Value.asStr with
  | some spec => fqn = spec
  | none => ∃ policy, opentdf.attributePolicy item = some policy ∧
      ∃ c ∈ policy.conditions, fqn ∈ c.fqns

variable {opentdf : Opentdf} {manifest : ManifestPolicy} {fqn : String}

theorem mentionedIn_iff {item : Value} :
    MentionedIn opentdf fqn item ↔
      ∃ fqns, ManifestPolicy.attributeFqns opentdf item = some fqns ∧ fqn ∈ fqns := by
  unfold MentionedIn ManifestPolicy.attributeFqns
  cases (item.get "attribute").bind Value.asStr with
  | some spec => simp
  | none => simp [collectFqns_eq]

theorem mapM_eq_ite {α β : Type} (read : α → Option (List β)) (items : List α) :
    items.mapM read =
      if ∀ item ∈ items, (read item).isSome = true then some (items.map fun item => (read item).getD [])
      else none := by
  induction items with
  | nil => simp
  | cons item rest ih =>
      rw [List.mapM_cons, ih]
      cases here : read item with
      | none => simp [here]
      | some fqns => split <;> simp_all

theorem mem_extractAttributeFqns_iff :
    (∃ fqns, manifest.extractAttributeFqns opentdf = some fqns ∧ fqn ∈ fqns) ↔
      (∀ item ∈ manifest.dataAttributes, (ManifestPolicy.attributeFqns opentdf item).isSome = true) ∧
        ∃ item ∈ manifest.dataAttributes, MentionedIn opentdf fqn item := by
  simp only [mentionedIn_iff]
  unfold ManifestPolicy.extractAttributeFqns ManifestPolicy.dataAttributes ManifestPolicy.list
  cases manifest.policy.lookup "body" with
  | none => simp
  | some body =>
      simp only [mapM_eq_ite, Option.bind_eq_bind, Option.bind_some]
      cases body.get "dataAttributes" with
      | none => simp
      | some attributes =>
          cases attributes with
          | array items =>
              simp only [Option.getD_some]
              split
              · next reads =>
                  simp only [Option.bind_some, Option.pure_def, Option.some.injEq, exists_eq_left',
                    List.mem_dedup, List.mem_mergeSort, List.mem_flatten, List.mem_map]
                  refine ⟨?_, ?_⟩
                  · rintro ⟨_, ⟨item, member, rfl⟩, named⟩
                    obtain ⟨fqns, read⟩ := Option.isSome_iff_exists.mp (reads item member)
                    rw [read] at named
                    exact ⟨reads, item, member, fqns, read, named⟩
                  · rintro ⟨-, item, member, fqns, read, named⟩
                    exact ⟨fqns, ⟨item, member, by rw [read]; rfl⟩, named⟩
              · next unread => simp [unread]
          | _ => simp

end Mentions

end TdfIrohS3
