import Mathlib.Data.Set.Insert
import TdfIrohS3.Catalog.Envelope
import TdfIrohS3.Library.Formula

namespace TdfIrohS3

open Library

section Meaning

def equalityFqn (c : AttributeCondition) : Option String :=
  match c.operator, c.values with
  | .equals, some [value] => some ("https://" ++ c.space ++ "/attr/" ++ c.name ++ "/value/" ++ value)
  | _, _ => none

variable (reading : AttributeCondition → Set String → Prop) (held : Set String)

mutual

/-- Whether the held attribute values satisfy a policy. `reading` is what the conditions other than
equality mean. -/
def AttributePolicy.Satisfied : AttributePolicy → Prop
  | .condition c =>
      match equalityFqn c with
      | some fqn => fqn ∈ held
      | none => reading c held
  | .and conditions => SatisfiedAll conditions
  | .or conditions => SatisfiedAny conditions
  | .not condition => ¬AttributePolicy.Satisfied condition

def SatisfiedAll : List AttributePolicy → Prop
  | [] => True
  | condition :: rest => AttributePolicy.Satisfied condition ∧ SatisfiedAll rest

def SatisfiedAny : List AttributePolicy → Prop
  | [] => False
  | condition :: rest => AttributePolicy.Satisfied condition ∨ SatisfiedAny rest

end

def SatisfiedAttribute (opentdf : Opentdf) (item : Value) : Prop :=
  match (item.get "attribute").bind Value.asStr with
  | some fqn => fqn ∈ held
  | none => ∀ policy, opentdf.attributePolicy item = some policy → policy.Satisfied reading held

def ManifestPolicy.SatisfiedBy (opentdf : Opentdf) (manifest : ManifestPolicy) : Prop :=
  ∀ item ∈ manifest.dataAttributes, SatisfiedAttribute reading held opentdf item

end Meaning

section Shape

inductive PolicyAtom
  | fqn (value : String)
  | other (condition : AttributeCondition)
  deriving DecidableEq

mutual

def AttributePolicy.formula : AttributePolicy → Formula PolicyAtom
  | .condition c =>
      match equalityFqn c with
      | some fqn => .atom (.fqn fqn)
      | none => .atom (.other c)
  | .and conditions => .all (policyFormulas conditions)
  | .or conditions => .any (policyFormulas conditions)
  | .not condition => .neg condition.formula

def policyFormulas : List AttributePolicy → List (Formula PolicyAtom)
  | [] => []
  | condition :: rest => condition.formula :: policyFormulas rest

end

def attributeFormula (opentdf : Opentdf) (item : Value) : Formula PolicyAtom :=
  match (item.get "attribute").bind Value.asStr with
  | some fqn => .atom (.fqn fqn)
  | none =>
      match opentdf.attributePolicy item with
      | some policy => policy.formula
      | none => .all []

def ManifestPolicy.formula (opentdf : Opentdf) (manifest : ManifestPolicy) : Formula PolicyAtom :=
  .all (manifest.dataAttributes.map (attributeFormula opentdf))

/-- Whether the shape of a recording's policy demands the value: some data attribute does, and a
data attribute does when it is the value in the spec form or an equality with it, when it is an `AND`
with a part that does or an `OR` of parts that all do; `NOT` turns the two round. -/
def ManifestPolicy.demands (opentdf : Opentdf) (manifest : ManifestPolicy) (fqn : String) : Bool :=
  Formula.forces (.fqn fqn) true (manifest.formula opentdf)

/-- No value and no condition stands twice in the policy. -/
def ManifestPolicy.MentionsOnce (opentdf : Opentdf) (manifest : ManifestPolicy) : Prop :=
  (manifest.formula opentdf).atoms.Nodup

def ManifestPolicy.Mentions (opentdf : Opentdf) (manifest : ManifestPolicy) (fqn : String) : Prop :=
  (∀ item ∈ manifest.dataAttributes, (ManifestPolicy.attributeFqns opentdf item).isSome = true) ∧
    ∃ item ∈ manifest.dataAttributes, MentionedIn opentdf fqn item

end Shape

section Audience

variable {reading : AttributeCondition → Set String → Prop} {held : Set String} {opentdf : Opentdf}
  {manifest : ManifestPolicy}

def truthOf (reading : AttributeCondition → Set String → Prop) (held : Set String) :
    PolicyAtom → Prop
  | .fqn value => value ∈ held
  | .other condition => reading condition held

mutual

theorem satisfied_iff : ∀ policy : AttributePolicy,
    policy.Satisfied reading held ↔ policy.formula.Holds (truthOf reading held)
  | .condition c => by
      rw [AttributePolicy.Satisfied, AttributePolicy.formula]
      cases equalityFqn c <;> rfl
  | .and conditions => by
      rw [AttributePolicy.Satisfied, AttributePolicy.formula, Formula.Holds]
      exact satisfiedAll_iff conditions
  | .or conditions => by
      rw [AttributePolicy.Satisfied, AttributePolicy.formula, Formula.Holds]
      exact satisfiedAny_iff conditions
  | .not condition => by
      rw [AttributePolicy.Satisfied, AttributePolicy.formula, Formula.Holds, satisfied_iff condition]

theorem satisfiedAll_iff : ∀ conditions : List AttributePolicy,
    SatisfiedAll reading held conditions ↔
      Formula.HoldAll (truthOf reading held) (policyFormulas conditions)
  | [] => Iff.rfl
  | condition :: rest => by
      rw [SatisfiedAll, policyFormulas, Formula.HoldAll, satisfied_iff condition, satisfiedAll_iff rest]

theorem satisfiedAny_iff : ∀ conditions : List AttributePolicy,
    SatisfiedAny reading held conditions ↔
      Formula.HoldAny (truthOf reading held) (policyFormulas conditions)
  | [] => Iff.rfl
  | condition :: rest => by
      rw [SatisfiedAny, policyFormulas, Formula.HoldAny, satisfied_iff condition, satisfiedAny_iff rest]

end

theorem satisfiedAttribute_iff (item : Value) :
    SatisfiedAttribute reading held opentdf item ↔
      (attributeFormula opentdf item).Holds (truthOf reading held) := by
  unfold SatisfiedAttribute attributeFormula
  cases (item.get "attribute").bind Value.asStr with
  | some fqn => rfl
  | none =>
      cases read : opentdf.attributePolicy item with
      | none => simp [Formula.Holds, Formula.HoldAll]
      | some policy =>
          simp only [Option.some.injEq, forall_eq']
          exact satisfied_iff policy

theorem satisfiedBy_iff :
    manifest.SatisfiedBy reading held opentdf ↔
      (manifest.formula opentdf).Holds (truthOf reading held) := by
  rw [ManifestPolicy.formula, Formula.Holds, Formula.holdAll_iff, List.forall_mem_map]
  unfold ManifestPolicy.SatisfiedBy
  simp only [satisfiedAttribute_iff]

theorem mem_of_demands {fqn : String} (demanded : manifest.demands opentdf fqn = true)
    (opens : manifest.SatisfiedBy reading held opentdf) : fqn ∈ held := by
  have holds := iff_of_true (satisfiedBy_iff.mp opens) (rfl : true = true)
  exact Formula.true_of_forces (a := PolicyAtom.fqn fqn) true _ demanded holds

/-- Where nothing stands twice, a policy that does not demand a value opens without it. -/
theorem opens_without {fqn : String} (once : manifest.MentionsOnce opentdf)
    (free : manifest.demands opentdf fqn = false) :
    ∃ reading held, manifest.SatisfiedBy reading held opentdf ∧ fqn ∉ held := by
  obtain ⟨truth, has, avoids⟩ := Formula.avoids_of_once true _ once free
  -- any valuation of the atoms is one of some held values and some reading
  have same : truthOf (fun condition _ => truth (.other condition)) {value | truth (.fqn value)} =
      truth := by
    funext atom
    cases atom <;> rfl
  refine ⟨fun condition _ => truth (.other condition), {value | truth (.fqn value)}, ?_, avoids⟩
  rw [satisfiedBy_iff, same]
  exact has.mpr rfl

theorem hasAttribute_iff {fqn : String} :
    manifest.hasAttribute opentdf fqn = true ↔ manifest.Mentions opentdf fqn := by
  rw [ManifestPolicy.Mentions, ← mem_extractAttributeFqns_iff, ManifestPolicy.hasAttribute]
  cases manifest.extractAttributeFqns opentdf <;> simp

/-- `has_attribute` asks that the value stands anywhere in the policy. Whoever opens the recording can
open the catalog where the shape of the policy demands the value, and, where nothing stands twice in
the policy, only there. -/
theorem hasAttribute_opens_iff (opentdf : Opentdf) (manifest : ManifestPolicy) (fqn : String) :
    (manifest.demands opentdf fqn = true →
      ∀ reading held, manifest.SatisfiedBy reading held opentdf → fqn ∈ held) ∧
    (manifest.MentionsOnce opentdf →
      ((manifest.hasAttribute opentdf fqn = true →
          ∀ reading held, manifest.SatisfiedBy reading held opentdf → fqn ∈ held) ↔
        (manifest.Mentions opentdf fqn → manifest.demands opentdf fqn = true))) := by
  refine ⟨fun demanded reading held opens => mem_of_demands demanded opens, fun once => ?_⟩
  rw [hasAttribute_iff]
  refine imp_congr_right fun _ => ⟨fun needed => ?_, fun demanded reading held opens =>
    mem_of_demands demanded opens⟩
  by_contra free
  obtain ⟨reading, held, opens, lacks⟩ := opens_without once (Bool.not_eq_true _ ▸ free)
  exact lacks (needed reading held opens)

end Audience

section Wider

def campaignFqn : String := "https://patreon.arkavo.com/attr/campaign/value/123"

def tierFqn : String := "https://patreon.arkavo.com/attr/tier/value/9"

def campaignCondition : AttributeCondition := ⟨"patreon.arkavo.com", "campaign", .equals, some ["123"]⟩

def tierCondition : AttributeCondition := ⟨"patreon.arkavo.com", "tier", .equals, some ["9"]⟩

def conditionValue (name value : String) : Value :=
  .object [("attribute", .object [("namespace", .string "patreon.arkavo.com"), ("name", .string name)]),
    ("operator", .string "equals"), ("value", .string value)]

def eitherAttribute : Value :=
  .object [("type", .string "OR"),
    ("conditions", .array [conditionValue "campaign" "123", conditionValue "tier" "9"])]

def eitherManifest : ManifestPolicy where
  mimeType := none
  policy := [("body", .object [("dataAttributes", .array [eitherAttribute])])]

def eitherOpentdf : Opentdf where
  manifest _ := none
  attributePolicy item :=
    if item = eitherAttribute then some (.or [.condition campaignCondition, .condition tierCondition])
    else none

/-- Whoever holds only the tier opens the recording, not the catalog. -/
theorem hasAttribute_wider_audience :
    eitherManifest.hasAttribute eitherOpentdf campaignFqn = true ∧
      eitherManifest.SatisfiedBy (fun _ _ => False) {tierFqn} eitherOpentdf ∧
      campaignFqn ∉ ({tierFqn} : Set String) := by
  have items : eitherManifest.dataAttributes = [eitherAttribute] := rfl
  have structured : (eitherAttribute.get "attribute").bind Value.asStr = none := rfl
  have read : eitherOpentdf.attributePolicy eitherAttribute =
      some (.or [.condition campaignCondition, .condition tierCondition]) := by
    simp [eitherOpentdf]
  have campaign : equalityFqn campaignCondition = some campaignFqn := by decide
  have tier : equalityFqn tierCondition = some tierFqn := by decide
  have different : campaignFqn ≠ tierFqn := by decide
  have named : ManifestPolicy.attributeFqns eitherOpentdf eitherAttribute =
      some [campaignFqn, tierFqn] := by
    rw [ManifestPolicy.attributeFqns, structured]
    simp only [read, Option.map_some]
    decide
  have extracted : eitherManifest.extractAttributeFqns eitherOpentdf =
      some (([campaignFqn, tierFqn].mergeSort fun a b => decide (a ≤ b)).dedup) := by
    have body : eitherManifest.policy.lookup "body" =
        some (.object [("dataAttributes", .array [eitherAttribute])]) := rfl
    have attributes : (Value.object [("dataAttributes", .array [eitherAttribute])]).get
        "dataAttributes" = some (.array [eitherAttribute]) := rfl
    simp [ManifestPolicy.extractAttributeFqns, body, attributes, named]
  refine ⟨?_, ?_, different⟩
  · simp [ManifestPolicy.hasAttribute, extracted]
  · intro item member
    rw [items, List.mem_singleton] at member
    subst member
    unfold SatisfiedAttribute
    rw [structured]
    intro policy found
    rw [read] at found
    cases found
    simp [AttributePolicy.Satisfied, SatisfiedAny, campaign, tier]

end Wider

end TdfIrohS3
