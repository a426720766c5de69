import Mathlib.Logic.Function.Basic
import TdfIrohS3.Auth.Cwt
import TdfIrohS3.Library.Decimal
import TdfIrohS3.Library.Pairs

namespace TdfIrohS3

open Library

section Labels

def labelOf : Cbor → Option Label
  | .integer n => some (.int n)
  | .text s => some (.text s)
  | _ => none

def Label.cbor : Label → Cbor
  | .int n => .integer n
  | .text s => .text s

def Label.key : Label → String
  | .int n => "i:" ++ toString n
  | .text s => "t:" ++ s

theorem Label.key_injective {one two : Label} (same : one.key = two.key) : one = two := by
  have chars := congrArg String.toList same
  cases one with
  | int m =>
      cases two with
      | int n =>
          simp only [Label.key, String.toList_append] at chars
          have digits := String.toList_inj.mp (List.append_cancel_left chars)
          rw [Decimal.toString_int_injective digits]
      | text t =>
          simp only [Label.key, String.toList_append] at chars
          cases chars
  | text s =>
      cases two with
      | int n =>
          simp only [Label.key, String.toList_append] at chars
          cases chars
      | text t =>
          simp only [Label.key, String.toList_append] at chars
          rw [String.toList_inj.mp (List.append_cancel_left chars)]

theorem labelOf_eq_some {key : Cbor} {label : Label} : labelOf key = some label ↔ key = label.cbor := by
  cases key <;> cases label <;> simp [labelOf, Label.cbor]

def claimLabels (entries : List (Cbor × Cbor)) : List Label :=
  entries.filterMap fun entry => labelOf entry.1

end Labels

section Fields

variable {Key : Type} (platform : AuthPlatform Key)

def textField : Option Cbor → Option String
  | some (.text s) => some s
  | _ => none

def integerField : Option Cbor → Option Int
  | some (.integer n) => toI64 n
  | _ => none

def bytesField : Option Cbor → Option (List UInt8)
  | some (.bytes b) => some b
  | _ => none

def boolField : Option Cbor → Option Bool
  | some (.bool b) => some b
  | _ => none

def audField : Option Cbor → Option Aud
  | some (.text s) => some (.one s)
  | some (.array items) =>
      match audMembers items with
      | .ok members => some (.many members)
      | .error _ => none
  | _ => none

def kidField : Option Cbor → Option String
  | some (.map entries) =>
      match parseCnfKid platform entries with
      | .ok kid => kid
      | .error _ => none
  | _ => none

def rolesField : Option Cbor → Option (List String)
  | some (.array items) =>
      match textArray items with
      | .ok roles => some roles
      | .error _ => none
  | _ => none

def entitlementsField : Option Cbor → List String
  | some (.array items) => entitlements items
  | _ => []

def patreonField : Option Cbor → Option Value
  | some (.map entries) => some (cborToJson platform (.map entries))
  | _ => none

def claimsOf (held : Label → Option Cbor) : ClaimsRead where
  iss := textField (held (.int 1))
  sub := textField (held (.int 2))
  aud := audField (held (.int 3))
  exp := integerField (held (.int 4))
  iat := integerField (held (.int 6))
  nbf := integerField (held (.int 5))
  cti := bytesField (held (.int 7))
  kid := kidField platform (held (.int 8))
  patreonUserId := (patreonField platform (held (.text "arkavo_patreon"))).bind fun json =>
    (json.get "patreon_user_id").bind Value.asStr
  email := textField (held (.text "email"))
  emailVerified := boolField (held (.text "email_verified"))
  idp := textField (held (.text "idp"))
  arkavoAccountId := textField (held (.text "arkavo_account_id"))
  arkavoRoles := rolesField (held (.text "arkavo_roles"))
  arkavoEntitlements := entitlementsField (held (.text "arkavo_entitlements"))
  clientId := textField (held (.text "client_id"))
  arkavoPatreon := patreonField platform (held (.text "arkavo_patreon"))

def ClaimsRead.marked (claims : ClaimsRead) (seen : List String) : ClaimsRead :=
  { claims with seen := seen }

theorem ClaimsRead.mark_marked (claims : ClaimsRead) (seen : List String) (key : String) :
    (claims.marked seen).mark key =
      if key ∈ seen then .error .duplicateKey else .ok (claims.marked (key :: seen)) := rfl

def fits : Label → Cbor → Bool
  | .int n, value =>
      if n = 3 then
        match value with
        | .array items =>
            match audMembers items with
            | .ok members => !members.isEmpty
            | .error _ => false
        | _ => true
      else if n = 5 then
        match value with
        | .integer nbf => (toI64 nbf).isSome
        | _ => false
      else if n = 8 then
        match value with
        | .map entries =>
            match parseCnfKid platform entries with
            | .ok _ => true
            | .error _ => false
        | _ => true
      else true
  | .text s, value =>
      if s = "typ" then false
      else if s = "arkavo_roles" then
        match value with
        | .array items =>
            match textArray items with
            | .ok _ => true
            | .error _ => false
        | _ => true
      else true

def ClaimsRead.claim (claims : ClaimsRead) (label : Label) (value : Cbor) :
    Except TokenError ClaimsRead :=
  match label with
  | .int n => claims.integerClaim platform n value
  | .text s => claims.textClaim platform s value

end Fields

section Step

variable {Key : Type} {platform : AuthPlatform Key} {held : Label → Option Cbor} {seen : List String}
  {label : Label} {value : Cbor}

theorem claim_int (n : Int) (fresh : held (.int n) = none)
    (fit : fits platform (.int n) value = true) :
    ({ claimsOf platform held with seen := seen } : ClaimsRead).integerClaim platform n value =
      .ok { claimsOf platform (Function.update held (.int n) (some value)) with seen := seen } := by
  by_cases text : n = 1 ∨ n = 2
  · rcases text with rfl | rfl
    · cases value <;> simp [ClaimsRead.integerClaim, claimsOf, textField, fresh]
    · cases value <;> simp [ClaimsRead.integerClaim, claimsOf, textField, fresh]
  by_cases aud : n = 3
  · subst aud
    cases value with
    | array items =>
        cases read : audMembers items with
        | error why => simp [fits, read] at fit
        | ok members =>
            have some : members ≠ [] := by simpa [fits, read] using fit
            simp [ClaimsRead.integerClaim, claimsOf, audField, read, some]
    | _ => simp [ClaimsRead.integerClaim, claimsOf, audField, fresh]
  by_cases time : n = 4 ∨ n = 6
  · rcases time with rfl | rfl
    · cases value <;> simp [ClaimsRead.integerClaim, claimsOf, integerField, fresh]
    · cases value <;> simp [ClaimsRead.integerClaim, claimsOf, integerField, fresh]
  by_cases start : n = 5
  · subst start
    cases value with
    | integer nbf =>
        obtain ⟨when_, read⟩ := Option.isSome_iff_exists.mp (show (toI64 nbf).isSome = true from fit)
        simp [ClaimsRead.integerClaim, claimsOf, integerField, read]
    | _ => cases fit
  by_cases id : n = 7
  · subst id
    cases value <;> simp [ClaimsRead.integerClaim, claimsOf, bytesField, fresh]
  by_cases cnf : n = 8
  · subst cnf
    cases value with
    | map entries =>
        cases read : parseCnfKid platform entries with
        | error why => simp [fits, read] at fit
        | ok kid =>
            simp only [ClaimsRead.integerClaim, read, ok_bind]
            simp [claimsOf, kidField, read]
            rfl
    | _ => simp [ClaimsRead.integerClaim, claimsOf, kidField, fresh]
  -- no other integer label is read
  rw [not_or] at text time
  have skipped : ({ claimsOf platform held with seen := seen } : ClaimsRead).integerClaim platform n
      value = .ok { claimsOf platform held with seen := seen } := by
    unfold ClaimsRead.integerClaim
    split <;> simp_all
  rw [skipped]
  simp [claimsOf, text.1, text.2, aud, time.1, time.2, start, id, cnf, eq_comm]

theorem claim_roles (claims : ClaimsRead) {items : List Cbor} {roles : List String}
    (read : textArray items = .ok roles) :
    claims.textClaim platform "arkavo_roles" (.array items) =
      .ok { claims with arkavoRoles := some roles } := by
  change (textArray items >>= fun roles => .ok { claims with arkavoRoles := some roles }) = _
  rw [read, ok_bind]

theorem claim_text (s : String) (fresh : held (.text s) = none)
    (fit : fits platform (.text s) value = true) :
    ({ claimsOf platform held with seen := seen } : ClaimsRead).textClaim platform s value =
      .ok { claimsOf platform (Function.update held (.text s) (some value)) with seen := seen } := by
  by_cases typ : s = "typ"
  · simp [fits, typ] at fit
  by_cases known : s = "email" ∨ s = "email_verified" ∨ s = "idp" ∨ s = "arkavo_account_id" ∨
    s = "client_id" ∨ s = "arkavo_entitlements" ∨ s = "arkavo_patreon"
  · rcases known with rfl | rfl | rfl | rfl | rfl | rfl | rfl <;> simp [claimsOf, fresh] <;>
      cases value <;> rfl
  by_cases roles : s = "arkavo_roles"
  · subst roles
    cases value with
    | array items =>
        cases read : textArray items with
        | error why => simp [fits, read] at fit
        | ok roles =>
            rw [claim_roles _ read]
            simp [claimsOf, rolesField, read]
    | _ =>
        simp [claimsOf, fresh]
        rfl
  -- no other text label is read
  simp only [not_or] at known
  have skipped : ({ claimsOf platform held with seen := seen } : ClaimsRead).textClaim platform s
      value = .ok { claimsOf platform held with seen := seen } := by
    unfold ClaimsRead.textClaim
    rw [if_neg typ]
    split
    · exact absurd rfl known.1
    · exact absurd rfl known.2.1
    · exact absurd rfl known.2.2.1
    · exact absurd rfl known.2.2.2.1
    · exact absurd rfl known.2.2.2.2.1
    · exact absurd rfl roles
    · exact absurd rfl known.2.2.2.2.2.1
    · exact absurd rfl known.2.2.2.2.2.2
    · rfl
  rw [skipped]
  simp [claimsOf, known, roles, eq_comm]

theorem claim_fits (fresh : held label = none) (fit : fits platform label value = true) :
    ((claimsOf platform held).marked seen).claim platform label value =
      .ok ((claimsOf platform (Function.update held label (some value))).marked seen) := by
  cases label with
  | int n => exact claim_int n fresh fit
  | text s => exact claim_text s fresh fit

theorem claim_unfit_int (claims : ClaimsRead) (n : Int) (unfit : fits platform (.int n) value = false) :
    ∃ why, claims.integerClaim platform n value = .error why := by
  by_cases aud : n = 3
  · subst aud
    cases value with
    | array items =>
        cases read : audMembers items with
        | error why => exact ⟨why, by simp only [ClaimsRead.integerClaim, read]; rfl⟩
        | ok members =>
            have empty : members = [] := by simpa [fits, read] using unfit
            exact ⟨_, by simp only [ClaimsRead.integerClaim, read, ok_bind, empty]; rfl⟩
    | _ => cases unfit
  by_cases start : n = 5
  · subst start
    cases value with
    | integer nbf =>
        have none : toI64 nbf = none :=
          Option.isNone_iff_eq_none.mp (Option.isSome_eq_false_iff.mp unfit)
        exact ⟨_, by simp only [ClaimsRead.integerClaim, none]; rfl⟩
    | _ => exact ⟨_, rfl⟩
  by_cases cnf : n = 8
  · subst cnf
    cases value with
    | map entries =>
        cases read : parseCnfKid platform entries with
        | error why => exact ⟨why, by simp only [ClaimsRead.integerClaim, read]; rfl⟩
        | ok kid => simp [fits, read] at unfit
    | _ => cases unfit
  simp [fits, aud, start, cnf] at unfit

theorem claim_unfit_text (claims : ClaimsRead) (s : String)
    (unfit : fits platform (.text s) value = false) :
    ∃ why, claims.textClaim platform s value = .error why := by
  by_cases typ : s = "typ"
  · subst typ
    exact ⟨_, rfl⟩
  by_cases roles : s = "arkavo_roles"
  · subst roles
    cases value with
    | array items =>
        cases read : textArray items with
        | error why =>
            refine ⟨why, ?_⟩
            change (textArray items >>= fun roles => .ok { claims with arkavoRoles := some roles }) = _
            rw [read]
            rfl
        | ok roles => simp [fits, read] at unfit
    | _ => simp [fits] at unfit
  simp [fits, typ, roles] at unfit

theorem claim_unfit (claims : ClaimsRead) (unfit : fits platform label value = false) :
    ∃ why, claims.claim platform label value = .error why := by
  cases label with
  | int n => exact claim_unfit_int claims n unfit
  | text s => exact claim_unfit_text claims s unfit

theorem read_label (claims : ClaimsRead) :
    claims.read platform (label.cbor, value) =
      claims.mark label.key >>= fun marked => marked.claim platform label value := by
  cases label <;> rfl

end Step

section Reading

variable {Key : Type} {platform : AuthPlatform Key}

def claimEntry (pair : Label × Cbor) : Cbor × Cbor := (pair.1.cbor, pair.2)

def heldWith (pairs : List (Label × Cbor)) (held : Label → Option Cbor) (label : Label) :
    Option Cbor :=
  (pairs.lookup label).or (held label)

def Tracked (held : Label → Option Cbor) (seen : List String) : Prop :=
  ∀ label : Label, label.key ∉ seen → held label = none

theorem Tracked.update {held : Label → Option Cbor} {seen : List String} (tracked : Tracked held seen)
    (label : Label) (value : Cbor) :
    Tracked (Function.update held label (some value)) (label.key :: seen) := by
  intro other unseen
  have ne : other ≠ label := by
    rintro rfl
    exact unseen List.mem_cons_self
  rw [Function.update_of_ne ne]
  exact tracked other fun earlier => unseen (List.mem_cons_of_mem _ earlier)

theorem read_fits {held : Label → Option Cbor} {seen : List String} (tracked : Tracked held seen)
    {label : Label} {value : Cbor} (unseen : label.key ∉ seen)
    (fit : fits platform label value = true) :
    ((claimsOf platform held).marked seen).read platform (label.cbor, value) =
      .ok ((claimsOf platform (Function.update held label (some value))).marked
        (label.key :: seen)) := by
  rw [read_label, ClaimsRead.mark_marked, if_neg unseen, ok_bind]
  exact claim_fits (tracked label unseen) fit

theorem fits_of_read {claims next : ClaimsRead} {label : Label} {value : Cbor}
    (read : claims.read platform (label.cbor, value) = .ok next) :
    label.key ∉ claims.seen ∧ fits platform label value = true := by
  rw [read_label, ClaimsRead.mark] at read
  by_cases seen : label.key ∈ claims.seen
  · rw [if_pos seen] at read
    cases read
  · rw [if_neg seen, ok_bind] at read
    refine ⟨seen, ?_⟩
    by_contra unfit
    obtain ⟨why, failed⟩ := claim_unfit _ (Bool.eq_false_iff.mpr unfit)
    rw [failed] at read
    cases read

theorem heldWith_cons {label : Label} {value : Cbor} {rest : List (Label × Cbor)}
    (fresh : label ∉ rest.map Prod.fst) (held : Label → Option Cbor) :
    heldWith rest (Function.update held label (some value)) =
      heldWith ((label, value) :: rest) held := by
  funext other
  unfold heldWith
  rw [List.lookup_cons]
  by_cases same : other = label
  · subst same
    have absent : rest.lookup other = none := by
      rw [List.lookup_eq_none_iff]
      intro pair member
      have ne : other ≠ pair.1 := fun same => fresh (same ▸ List.mem_map_of_mem member)
      simpa using ne
    simp [absent]
  · rw [beq_false_of_ne same, Function.update_of_ne same]

/-- Entries with distinct labels that all fit are read in one pass, into what they hold. -/
theorem foldlM_read_pairs (pairs : List (Label × Cbor)) :
    ∀ {held : Label → Option Cbor} {seen : List String}, Tracked held seen →
      (pairs.map Prod.fst).Nodup → (∀ pair ∈ pairs, pair.1.key ∉ seen) →
      (∀ pair ∈ pairs, fits platform pair.1 pair.2 = true) →
      ∃ marked, (pairs.map claimEntry).foldlM (ClaimsRead.read platform)
          ((claimsOf platform held).marked seen) =
        .ok ((claimsOf platform (heldWith pairs held)).marked marked) := by
  induction pairs with
  | nil =>
      intro held seen _ _ _ _
      exact ⟨seen, rfl⟩
  | cons pair rest ih =>
      intro held seen tracked distinct unseen fit
      obtain ⟨label, value⟩ := pair
      obtain ⟨fresh, distinctRest⟩ := List.nodup_cons.mp distinct
      have first : ((claimsOf platform held).marked seen).read platform (label.cbor, value) = _ :=
        read_fits tracked (unseen _ List.mem_cons_self) (fit _ List.mem_cons_self)
      have unseenRest : ∀ pair ∈ rest, pair.1.key ∉ label.key :: seen := by
        intro pair member again
        rcases List.mem_cons.mp again with same | earlier
        · exact fresh (List.mem_map.mpr ⟨pair, member, Label.key_injective same⟩)
        · exact unseen pair (List.mem_cons_of_mem _ member) earlier
      obtain ⟨marked, read⟩ := ih (tracked.update label value) distinctRest unseenRest
        fun pair member => fit pair (List.mem_cons_of_mem _ member)
      rw [heldWith_cons fresh] at read
      refine ⟨marked, ?_⟩
      rw [List.map_cons, List.foldlM_cons, claimEntry, first, ok_bind]
      exact read

/-- Conversely, what is read had distinct labels and only fitting values. -/
theorem pairs_of_foldlM_read (pairs : List (Label × Cbor)) :
    ∀ {held : Label → Option Cbor} {seen : List String} {last : ClaimsRead}, Tracked held seen →
      (pairs.map claimEntry).foldlM (ClaimsRead.read platform)
        ((claimsOf platform held).marked seen) = .ok last →
      (pairs.map Prod.fst).Nodup ∧ (∀ pair ∈ pairs, pair.1.key ∉ seen) ∧
        ∀ pair ∈ pairs, fits platform pair.1 pair.2 = true := by
  induction pairs with
  | nil =>
      intro held seen last _ _
      simp
  | cons pair rest ih =>
      intro held seen last tracked read
      obtain ⟨label, value⟩ := pair
      rw [List.map_cons, List.foldlM_cons] at read
      obtain ⟨next, first, later⟩ := bind_ok.mp read
      rw [claimEntry] at first
      obtain ⟨unseen, fit⟩ := fits_of_read first
      rw [read_fits tracked unseen fit] at first
      cases first
      obtain ⟨distinct, unseenRest, fitRest⟩ := ih (tracked.update label value) later
      refine ⟨List.nodup_cons.mpr ⟨?_, distinct⟩, ?_, ?_⟩
      · intro again
        obtain ⟨pair, member, same⟩ := List.mem_map.mp again
        exact unseenRest pair member (same ▸ List.mem_cons_self)
      · intro pair member
        rcases List.mem_cons.mp member with rfl | later
        · exact unseen
        · exact fun earlier => unseenRest pair later (List.mem_cons_of_mem _ earlier)
      · intro pair member
        rcases List.mem_cons.mp member with rfl | later
        · exact fit
        · exact fitRest pair later

end Reading

section Whole

variable {Key : Type} {platform : AuthPlatform Key}

def claimsFrom (platform : AuthPlatform Key) (entries : List (Cbor × Cbor)) :
    Except TokenError VerifiedClaims := do
  let claims ← entries.foldlM (ClaimsRead.read platform) {}
  claims.finish

theorem read_unlabelled {entry : Cbor × Cbor} (unlabelled : labelOf entry.1 = none)
    (claims : ClaimsRead) : claims.read platform entry = .error .malformed := by
  obtain ⟨key, value⟩ := entry
  cases key with
  | integer n => cases unlabelled
  | text s => cases unlabelled
  | _ => rfl

theorem labelled_of_foldlM_read (entries : List (Cbor × Cbor)) :
    ∀ {first last : ClaimsRead}, entries.foldlM (ClaimsRead.read platform) first = .ok last →
      ∃ pairs : List (Label × Cbor), entries = pairs.map claimEntry := by
  induction entries with
  | nil => exact fun _ => ⟨[], rfl⟩
  | cons entry rest ih =>
      intro first last read
      rw [List.foldlM_cons] at read
      obtain ⟨next, head, later⟩ := bind_ok.mp read
      obtain ⟨pairs, rfl⟩ := ih later
      cases labelled : labelOf entry.1 with
      | none =>
          rw [read_unlabelled labelled] at head
          cases head
      | some label =>
          refine ⟨(label, entry.2) :: pairs, ?_⟩
          rw [List.map_cons, claimEntry, ← labelOf_eq_some.mp labelled]

structure Readable (platform : AuthPlatform Key) (pairs : List (Label × Cbor)) : Prop where
  distinct : (pairs.map Prod.fst).Nodup
  fit : ∀ pair ∈ pairs, fits platform pair.1 pair.2 = true

/-- The claims of a map do not depend on how its entries are ordered: they are those held under
their labels. -/
theorem claimsFrom_eq_ok {entries : List (Cbor × Cbor)} {claims : VerifiedClaims} :
    claimsFrom platform entries = .ok claims ↔
      ∃ pairs : List (Label × Cbor), entries = pairs.map claimEntry ∧ Readable platform pairs ∧
        (claimsOf platform fun label => pairs.lookup label).finish = .ok claims := by
  have nothing : Tracked (fun _ => none) [] := fun _ _ => rfl
  have whole : ∀ pairs : List (Label × Cbor),
      heldWith pairs (fun _ => none) = fun label => pairs.lookup label := by
    intro pairs
    funext label
    exact Option.or_none
  constructor
  · intro read
    obtain ⟨last, folded, finished⟩ := bind_ok.mp read
    obtain ⟨pairs, rfl⟩ := labelled_of_foldlM_read entries folded
    obtain ⟨distinct, unseen, fit⟩ := pairs_of_foldlM_read pairs nothing folded
    obtain ⟨marked, again⟩ := foldlM_read_pairs pairs nothing distinct unseen fit
    cases folded.symm.trans again
    rw [whole] at finished
    exact ⟨pairs, rfl, ⟨distinct, fit⟩, finished⟩
  · rintro ⟨pairs, rfl, readable, finished⟩
    obtain ⟨marked, folded⟩ := foldlM_read_pairs pairs nothing readable.distinct
      (fun _ _ => List.not_mem_nil) readable.fit
    rw [whole] at folded
    exact bind_ok.mpr ⟨_, folded, finished⟩

end Whole

section Confirmation

variable {Key : Type} (platform : AuthPlatform Key)

def integerKey : Cbor × Cbor → Option Int
  | (.integer i, _) => some i
  | _ => none

def kidEntry : Cbor × Cbor → Option (List UInt8)
  | (.integer i, .bytes b) => if i = 2 ∨ i = 3 then some b else none
  | _ => none

def coseKidEntry : Cbor × Cbor → Option (List UInt8)
  | (.integer i, value) =>
      if i = 1 then ((platform.coseKey value).map CoseKey.keyId).filter fun kid => !kid.isEmpty
      else none
  | _ => none

def cnfLabels (cnf : List (Cbor × Cbor)) : List Int := cnf.filterMap integerKey

def kids (cnf : List (Cbor × Cbor)) : List (List UInt8) := cnf.filterMap kidEntry

def coseKids (cnf : List (Cbor × Cbor)) : List (List UInt8) := cnf.filterMap (coseKidEntry platform)

def kidText (kid : List UInt8) : Option String :=
  if kid.isEmpty then none else some (platform.encodeBase64Url kid)

variable {platform}

theorem cnf_read_integer (found : CnfKid) {i : Int} (value : Cbor) (unseen : i ∉ found.seen) :
    found.read platform (.integer i, value) =
      .ok ⟨i :: found.seen, (kidEntry (.integer i, value)).or found.kidBytes,
        (coseKidEntry platform (.integer i, value)).or found.coseKid⟩ := by
  by_cases cose : i = 1
  · subst cose
    have noKid : kidEntry (.integer 1, value) = none := by cases value <;> rfl
    cases key : platform.coseKey value with
    | none => simp [CnfKid.read, unseen, coseKidEntry, noKid, key]
    | some key' =>
        by_cases empty : key'.keyId = []
        · simp [CnfKid.read, unseen, coseKidEntry, noKid, key, empty, Option.filter_some]
        · simp [CnfKid.read, unseen, coseKidEntry, noKid, key, empty, Option.filter_some]
  have noCose : coseKidEntry platform (.integer i, value) = none := if_neg cose
  by_cases kid : i = 2 ∨ i = 3
  · rcases kid with rfl | rfl
    · cases value <;> simp [CnfKid.read, unseen, kidEntry, noCose]
    · cases value <;> simp [CnfKid.read, unseen, kidEntry, noCose]
  -- no other label of a `cnf` is read
  rw [not_or] at kid
  have noKid : kidEntry (.integer i, value) = none := by
    cases value <;> simp [kidEntry, kid]
  rw [noKid, noCose]
  unfold CnfKid.read
  simp only [if_neg unseen]
  split <;> simp_all

theorem eq_of_integerKey {entry : Cbor × Cbor} {i : Int} (key : integerKey entry = some i) :
    ∃ value, entry = (.integer i, value) := by
  obtain ⟨found, value⟩ := entry
  cases found with
  | integer j =>
      cases key
      exact ⟨value, rfl⟩
  | _ => cases key

theorem cnf_skips {entry : Cbor × Cbor} (other : integerKey entry = none) :
    kidEntry entry = none ∧ coseKidEntry platform entry = none ∧
      ∀ found : CnfKid, found.read platform entry = .ok found := by
  obtain ⟨key, value⟩ := entry
  cases key with
  | integer i => cases other
  | _ => exact ⟨rfl, rfl, fun _ => rfl⟩

/-- The last `kid` wins, under whichever label it stands, and no label may repeat. -/
theorem cnf_foldlM (entries : List (Cbor × Cbor)) : ∀ found : CnfKid,
    entries.foldlM (CnfKid.read platform) found =
      if (cnfLabels entries).Nodup ∧ ∀ i ∈ cnfLabels entries, i ∉ found.seen then
        .ok ⟨(cnfLabels entries).reverse ++ found.seen, (kids entries).getLast?.or found.kidBytes,
          (coseKids platform entries).getLast?.or found.coseKid⟩
      else .error .duplicateKey := by
  induction entries with
  | nil => exact fun found => (if_pos ⟨List.nodup_nil, by simp [cnfLabels]⟩).symm
  | cons entry rest ih =>
      intro found
      rw [List.foldlM_cons, kids, coseKids, getLast_filterMap_cons, getLast_filterMap_cons]
      cases key : integerKey entry with
      | none =>
          obtain ⟨noKid, noCose, skipped⟩ := @cnf_skips Key platform entry key
          have labels : cnfLabels (entry :: rest) = cnfLabels rest := by simp [cnfLabels, key]
          rw [skipped, ok_bind, ih, noKid, noCose, labels]
          rfl
      | some i =>
          have labels : cnfLabels (entry :: rest) = i :: cnfLabels rest := by simp [cnfLabels, key]
          obtain ⟨value, rfl⟩ := eq_of_integerKey key
          rw [labels]
          by_cases again : i ∈ found.seen
          · have repeated : found.read platform (.integer i, value) = .error .duplicateKey :=
              if_pos again
            rw [repeated, if_neg fun both => both.2 i List.mem_cons_self again]
            rfl
          · rw [cnf_read_integer found value again, ok_bind, ih]
            refine if_congr (apart_cons again fun _ => List.mem_cons) ?_ rfl
            simp [kids, coseKids]

theorem parseCnfKid_eq (cnf : List (Cbor × Cbor)) :
    parseCnfKid platform cnf =
      if (cnfLabels cnf).Nodup then
        .ok (((kids cnf).getLast?.or (coseKids platform cnf).getLast?).bind (kidText platform))
      else .error .duplicateKey := by
  rw [parseCnfKid, cnf_foldlM]
  by_cases distinct : (cnfLabels cnf).Nodup
  · rw [if_pos ⟨distinct, fun _ _ => List.not_mem_nil⟩, if_pos distinct, ok_bind]
    simp only [Option.or_none]
    cases (kids cnf).getLast?.or (coseKids platform cnf).getLast? with
    | none => rfl
    | some kid =>
        by_cases empty : kid = []
        · simp [Option.filter_some, kidText, empty]; rfl
        · simp [Option.filter_some, kidText, empty]; rfl
  · rw [if_neg fun both => distinct both.1, if_neg distinct]
    rfl

def TwoKids (platform : AuthPlatform Key) (cnf : List (Cbor × Cbor)) : Prop :=
  (cnfLabels cnf).Nodup ∧
    ∃ one ∈ kids cnf, ∃ other ∈ kids cnf, kidText platform one ≠ kidText platform other

theorem integerKey_of_coseKid {entry : Cbor × Cbor} {kid : List UInt8}
    (found : coseKidEntry platform entry = some kid) : integerKey entry = some 1 := by
  obtain ⟨key, value⟩ := entry
  cases key with
  | integer i =>
      by_cases cose : i = 1
      · rw [cose]
        rfl
      · rw [coseKidEntry, if_neg cose] at found
        cases found
  | _ => cases found

theorem length_coseKids_le (cnf : List (Cbor × Cbor)) :
    (coseKids platform cnf).length ≤ (cnfLabels cnf).count 1 := by
  induction cnf with
  | nil => exact le_rfl
  | cons entry rest ih =>
      have shrinks : (cnfLabels rest).count 1 ≤ (cnfLabels (entry :: rest)).count 1 := by
        apply List.Sublist.count_le
        exact (List.sublist_cons_self entry rest).filterMap integerKey
      cases found : coseKidEntry platform entry with
      | none =>
          have fewer : coseKids platform (entry :: rest) = coseKids platform rest := by
            simp [coseKids, found]
          rw [fewer]
          exact ih.trans shrinks
      | some kid =>
          have more : coseKids platform (entry :: rest) = kid :: coseKids platform rest := by
            simp [coseKids, found]
          have label : cnfLabels (entry :: rest) = 1 :: cnfLabels rest := by
            simp [cnfLabels, integerKey_of_coseKid found]
          rw [more, label, List.count_cons_self, List.length_cons]
          omega

theorem coseKids_perm {cnf other : List (Cbor × Cbor)} (distinct : (cnfLabels cnf).Nodup)
    (same : cnf.Perm other) : coseKids platform other = coseKids platform cnf := by
  have kept : (coseKids platform cnf).Perm (coseKids platform other) := same.filterMap _
  have few : (coseKids platform cnf).length ≤ 1 :=
    (length_coseKids_le cnf).trans (List.nodup_iff_count_le_one.mp distinct 1)
  match found : coseKids platform cnf with
  | [] =>
      rw [found] at kept
      exact kept.nil_eq.symm
  | [kid] =>
      rw [found] at kept
      exact List.perm_singleton.mp kept.symm
  | _ :: _ :: _ =>
      rw [found] at few
      simp at few

/-- Without two different `kid`s, the order of a `cnf` does not matter. -/
theorem parseCnfKid_perm {cnf other : List (Cbor × Cbor)} (same : cnf.Perm other)
    (one : ¬TwoKids platform cnf) : parseCnfKid platform other = parseCnfKid platform cnf := by
  have labels : (cnfLabels cnf).Nodup ↔ (cnfLabels other).Nodup :=
    (same.filterMap integerKey).nodup_iff
  rw [parseCnfKid_eq, parseCnfKid_eq]
  by_cases distinct : (cnfLabels cnf).Nodup
  · rw [if_pos distinct, if_pos (labels.mp distinct), coseKids_perm distinct same]
    have alike : ∀ one ∈ kids cnf, ∀ other ∈ kids cnf,
        kidText platform one = kidText platform other := by
      intro first member second member'
      by_contra differ
      exact one ⟨distinct, first, member, second, member', differ⟩
    have sameKids : (kids cnf).Perm (kids other) := same.filterMap kidEntry
    cases last : (kids cnf).getLast? with
    | none =>
        have empty := List.getLast?_eq_none_iff.mp last
        rw [empty] at sameKids
        rw [← sameKids.nil_eq]
        rfl
    | some kid =>
        cases last' : (kids other).getLast? with
        | none =>
            rw [List.getLast?_eq_none_iff.mp last'] at sameKids
            rw [sameKids.eq_nil] at last
            cases last
        | some kid' =>
            have member := sameKids.mem_iff.mpr (List.mem_of_getLast? last')
            have texts := alike kid' member kid (List.mem_of_getLast? last)
            simp [texts]
  · rw [if_neg distinct, if_neg fun other => distinct (labels.mpr other)]

/-- With two of them, some order is read differently. -/
theorem parseCnfKid_reordered {cnf : List (Cbor × Cbor)} (two : TwoKids platform cnf) :
    ∃ other, cnf.Perm other ∧ ∃ kid kid', parseCnfKid platform cnf = .ok kid ∧
      parseCnfKid platform other = .ok kid' ∧ kid ≠ kid' := by
  obtain ⟨distinct, first, member, second, member', differ⟩ := two
  obtain ⟨last, isLast⟩ : ∃ last, (kids cnf).getLast? = some last :=
    ⟨_, List.getLast?_eq_some_getLast (List.ne_nil_of_mem member)⟩
  -- one of the two is not kept as the last one is: it is moved to the end
  obtain ⟨moved, ofKids, unlike⟩ :
      ∃ moved ∈ kids cnf, kidText platform last ≠ kidText platform moved := by
    by_cases alike : kidText platform last = kidText platform first
    · exact ⟨second, member', fun also => differ (alike.symm.trans also)⟩
    · exact ⟨first, member, alike⟩
  obtain ⟨entry, inCnf, entryKid⟩ := List.mem_filterMap.mp ofKids
  obtain ⟨front, back, rfl⟩ := List.append_of_mem inCnf
  have perm : (front ++ entry :: back).Perm (front ++ back ++ [entry]) :=
    List.perm_middle.trans (List.perm_append_singleton entry (front ++ back)).symm
  have labels : (cnfLabels (front ++ back ++ [entry])).Nodup :=
    (perm.filterMap integerKey).nodup_iff.mp distinct
  refine ⟨_, perm, kidText platform last, kidText platform moved, ?_, ?_, unlike⟩
  · rw [parseCnfKid_eq, if_pos distinct, isLast]
    rfl
  · rw [parseCnfKid_eq, if_pos labels]
    simp [kids, entryKid]

end Confirmation

section Order

variable {Key : Type} {platform : AuthPlatform Key}

def Rearranged (entries other : List (Cbor × Cbor)) : Prop :=
  entries.Perm other ∨
    ∃ cnf cnf' rest, cnf.Perm cnf' ∧ entries.Perm ((.integer 8, .map cnf) :: rest) ∧
      other.Perm ((.integer 8, .map cnf') :: rest)

def SameReading (platform : AuthPlatform Key) (entries other : List (Cbor × Cbor)) : Prop :=
  ∀ claims, claimsFrom platform entries = .ok claims ↔ claimsFrom platform other = .ok claims

theorem claimLabels_map (pairs : List (Label × Cbor)) :
    claimLabels (pairs.map claimEntry) = pairs.map Prod.fst := by
  induction pairs with
  | nil => rfl
  | cons pair rest ih =>
      have label : labelOf (claimEntry pair).1 = some pair.1 := labelOf_eq_some.mpr rfl
      rw [List.map_cons, List.map_cons, ← ih]
      exact List.filterMap_cons_some label

theorem nodup_of_claimsFrom {entries : List (Cbor × Cbor)} {claims : VerifiedClaims}
    (read : claimsFrom platform entries = .ok claims) : (claimLabels entries).Nodup := by
  obtain ⟨pairs, rfl, readable, -⟩ := claimsFrom_eq_ok.mp read
  rw [claimLabels_map]
  exact readable.distinct

theorem claimsFrom_perm {entries other : List (Cbor × Cbor)} {claims : VerifiedClaims}
    (same : entries.Perm other) (read : claimsFrom platform entries = .ok claims) :
    claimsFrom platform other = .ok claims := by
  obtain ⟨pairs, rfl, readable, finished⟩ := claimsFrom_eq_ok.mp read
  have swapped := congrFun (congrFun (List.eq_map_comp_perm claimEntry) other) pairs
  obtain ⟨others, rfl, samePairs⟩ := swapped.mpr same.symm
  have held : (fun label => others.lookup label) = fun label => pairs.lookup label := by
    funext label
    exact (lookup_perm readable.distinct samePairs.symm label).symm
  refine claimsFrom_eq_ok.mpr ⟨others, rfl, ⟨?_, ?_⟩, ?_⟩
  · exact (samePairs.map Prod.fst).nodup_iff.mpr readable.distinct
  · exact fun pair member => readable.fit pair (samePairs.mem_iff.mp member)
  · rw [held]
    exact finished

theorem sameReading_of_perm {entries other : List (Cbor × Cbor)} (same : entries.Perm other) :
    SameReading platform entries other :=
  fun _ => ⟨claimsFrom_perm same, claimsFrom_perm same.symm⟩

theorem claimsFrom_cnf {cnf cnf' rest : List (Cbor × Cbor)} (same : cnf.Perm cnf')
    (one : ¬TwoKids platform cnf) :
    claimsFrom platform ((.integer 8, .map cnf') :: rest) =
      claimsFrom platform ((.integer 8, .map cnf) :: rest) := by
  unfold claimsFrom
  simp only [List.foldlM_cons, ClaimsRead.read, ClaimsRead.integerClaim, parseCnfKid_perm same one]

theorem claimLabels_rearranged {entries other : List (Cbor × Cbor)}
    (rearranged : Rearranged entries other) : (claimLabels entries).Perm (claimLabels other) := by
  rcases rearranged with same | ⟨cnf, cnf', rest, -, toFront, toFront'⟩
  · exact same.filterMap _
  · have front : (claimLabels entries).Perm (.int 8 :: claimLabels rest) := toFront.filterMap _
    have front' : (claimLabels other).Perm (.int 8 :: claimLabels rest) := toFront'.filterMap _
    exact front.trans front'.symm

theorem finish_kid {claims : ClaimsRead} {kid : Option String} {read : VerifiedClaims} :
    ClaimsRead.finish { claims with kid := kid } = .ok read ↔
      ∃ base, claims.finish = .ok base ∧ read = { base with kid := kid } := by
  simp only [ClaimsRead.finish, unless_error_ok, bind_ok]
  constructor
  · rintro ⟨named, iss, hasIss, sub, hasSub, aud, hasAud, exp, hasExp, iat, hasIat, cti, hasCti, made⟩
    exact ⟨_, ⟨named, iss, hasIss, sub, hasSub, aud, hasAud, exp, hasExp, iat, hasIat, cti, hasCti,
      rfl⟩, (Except.ok.inj made).symm⟩
  · rintro ⟨base, ⟨named, iss, hasIss, sub, hasSub, aud, hasAud, exp, hasExp, iat, hasIat, cti, hasCti,
      made⟩, rfl⟩
    refine ⟨named, iss, hasIss, sub, hasSub, aud, hasAud, exp, hasExp, iat, hasIat, cti, hasCti, ?_⟩
    rw [← Except.ok.inj made]
    rfl

theorem claimsOf_cons_cnf (pairs : List (Label × Cbor)) (cnf : List (Cbor × Cbor)) :
    claimsOf platform (fun label => ((Label.int 8, Cbor.map cnf) :: pairs).lookup label) =
      { claimsOf platform (fun label => pairs.lookup label) with
        kid := kidField platform (some (.map cnf)) } :=
  rfl

theorem claimsFrom_cons_cnf {cnf rest : List (Cbor × Cbor)} {kid : Option String}
    {claims : VerifiedClaims} (once : Label.int 8 ∉ claimLabels rest)
    (read : parseCnfKid platform cnf = .ok kid) :
    claimsFrom platform ((.integer 8, .map cnf) :: rest) = .ok claims ↔
      ∃ base, claimsFrom platform rest = .ok base ∧ claims = { base with kid := kid } := by
  have kept : kidField platform (some (.map cnf)) = kid := by simp [kidField, read]
  have fit : fits platform (.int 8) (.map cnf) = true := by simp [fits, read]
  simp only [claimsFrom_eq_ok]
  constructor
  · rintro ⟨_ | ⟨⟨label, value⟩, pairs⟩, whole, readable, finished⟩
    · cases whole
    · obtain ⟨first, rfl⟩ := List.cons.inj whole
      obtain ⟨key, rfl⟩ := Prod.ext_iff.mp first
      cases labelOf_eq_some.mpr key
      rw [claimsOf_cons_cnf, kept, finish_kid] at finished
      obtain ⟨base, finished, rfl⟩ := finished
      exact ⟨base, ⟨pairs, rfl, ⟨readable.distinct.of_cons,
        fun pair member => readable.fit pair (List.mem_cons_of_mem _ member)⟩, finished⟩, rfl⟩
  · rintro ⟨base, ⟨pairs, rfl, readable, finished⟩, rfl⟩
    rw [claimLabels_map] at once
    refine ⟨(.int 8, .map cnf) :: pairs, rfl, ⟨List.nodup_cons.mpr ⟨once, readable.distinct⟩, ?_⟩, ?_⟩
    · exact List.forall_mem_cons.mpr ⟨fit, readable.fit⟩
    · rw [claimsOf_cons_cnf, kept, finish_kid]
      exact ⟨base, finished, rfl⟩

/-- The order of a map's entries matters: its one `cnf` has two different `kid`s, and the claims beside
it are accepted. -/
def OrderMatters (platform : AuthPlatform Key) (entries : List (Cbor × Cbor)) : Prop :=
  ∃ cnf rest claims, entries.Perm ((.integer 8, .map cnf) :: rest) ∧
    Label.int 8 ∉ claimLabels rest ∧ TwoKids platform cnf ∧ claimsFrom platform rest = .ok claims

/-- Where it does not matter, any two orders are read alike. -/
theorem sameReading_of_rearranged {entries other : List (Cbor × Cbor)}
    (unmoved : ¬OrderMatters platform entries) (rearranged : Rearranged entries other) :
    SameReading platform entries other := by
  rcases rearranged with same | ⟨cnf, cnf', rest, sameCnf, toFront, toFront'⟩
  · exact sameReading_of_perm same
  have front : SameReading platform ((.integer 8, .map cnf) :: rest)
      ((.integer 8, .map cnf') :: rest) := by
    intro claims
    by_cases two : TwoKids platform cnf
    · -- the claims beside the `cnf` are rejected, and so are both maps
      have rejected : ∀ map, (cnfLabels map).Nodup →
          claimsFrom platform ((.integer 8, .map map) :: rest) ≠ .ok claims := by
        intro map distinct read
        have once : Label.int 8 ∉ claimLabels rest := (List.nodup_cons.mp (nodup_of_claimsFrom read)).1
        have parsed := @parseCnfKid_eq _ platform map
        rw [if_pos distinct] at parsed
        obtain ⟨base, accepted, -⟩ := (claimsFrom_cons_cnf once parsed).mp read
        exact unmoved ⟨cnf, rest, base, toFront, once, two, accepted⟩
      exact iff_of_false (rejected cnf two.1)
        (rejected cnf' ((sameCnf.filterMap integerKey).nodup_iff.mp two.1))
    · rw [claimsFrom_cnf sameCnf two]
  intro claims
  calc claimsFrom platform entries = .ok claims
      ↔ claimsFrom platform ((.integer 8, .map cnf) :: rest) = .ok claims :=
        sameReading_of_perm toFront claims
    _ ↔ claimsFrom platform ((.integer 8, .map cnf') :: rest) = .ok claims := front claims
    _ ↔ claimsFrom platform other = .ok claims := sameReading_of_perm toFront'.symm claims

def claimsWith (cnf : List (Cbor × Cbor)) : List (Cbor × Cbor) :=
  [(.integer 8, .map cnf), (.integer 1, .text "issuer"), (.integer 2, .text "subject"),
    (.integer 3, .text "audience"), (.integer 4, .integer 2000), (.integer 6, .integer 1000),
    (.integer 7, .bytes [1])]

theorem claimsFrom_claimsWith {cnf : List (Cbor × Cbor)} {kid : Option String}
    (read : parseCnfKid platform cnf = .ok kid) :
    ∃ claims, claimsFrom platform (claimsWith cnf) = .ok claims ∧ claims.kid = kid := by
  let pairs : List (Label × Cbor) := [(.int 8, .map cnf), (.int 1, .text "issuer"),
    (.int 2, .text "subject"), (.int 3, .text "audience"), (.int 4, .integer 2000),
    (.int 6, .integer 1000), (.int 7, .bytes [1])]
  have readable : Readable platform pairs := by
    refine ⟨by simp [pairs], ?_⟩
    simp [pairs, fits, read]
  have kept : kidField platform (some (.map cnf)) = kid := by simp [kidField, read]
  refine ⟨_, claimsFrom_eq_ok.mpr ⟨pairs, rfl, readable, rfl⟩, kept⟩

/-- For every claims map: it is read alike in every order of its entries and of those of its `cnf`,
unless the `cnf` has two different `kid`s and the other claims are accepted. One that repeats a label
is rejected in every order. -/
theorem parseClaims_order_iff (platform : AuthPlatform Key) (entries : List (Cbor × Cbor)) :
    (∀ payload, platform.cbor payload = some (.map entries) →
      parseClaims platform payload = claimsFrom platform entries) ∧
    ((∀ other, Rearranged entries other → SameReading platform entries other) ↔
      ¬OrderMatters platform entries) ∧
    (¬(claimLabels entries).Nodup →
      ∀ other, Rearranged entries other → ∀ claims, claimsFrom platform other ≠ .ok claims) := by
  refine ⟨?_, ⟨?_, ?_⟩, ?_⟩
  · intro payload decoded
    rw [parseClaims, decoded]
    rfl
  · rintro alike ⟨cnf, rest, base, toFront, once, two, accepted⟩
    obtain ⟨other, same, kid, kid', read, read', differ⟩ := parseCnfKid_reordered two
    have here := (claimsFrom_cons_cnf once read).mpr ⟨base, accepted, rfl⟩
    have there := (claimsFrom_cons_cnf once read').mpr ⟨base, accepted, rfl⟩
    have rearranged : Rearranged entries ((.integer 8, .map other) :: rest) :=
      .inr ⟨cnf, other, rest, same, toFront, .refl _⟩
    have both := (alike _ rearranged _).mp (claimsFrom_perm toFront.symm here)
    rw [there] at both
    exact differ (congrArg VerifiedClaims.kid (Except.ok.inj both)).symm
  · intro unmoved other rearranged
    exact sameReading_of_rearranged unmoved rearranged
  · intro repeated other rearranged claims read
    exact repeated ((claimLabels_rearranged rearranged).nodup_iff.mpr (nodup_of_claimsFrom read))

def encodedClaims : List UInt8 :=
  [0x01, 0x66, 0x69, 0x73, 0x73, 0x75, 0x65, 0x72, 0x02, 0x67, 0x73, 0x75, 0x62, 0x6A, 0x65, 0x63,
    0x74, 0x03, 0x68, 0x61, 0x75, 0x64, 0x69, 0x65, 0x6E, 0x63, 0x65, 0x04, 0x19, 0x07, 0xD0, 0x06,
    0x19, 0x03, 0xE8, 0x07, 0x41, 0x01]

def firstOrder : List UInt8 := [0xA7, 0x08, 0xA2, 0x02, 0x41, 0x01, 0x03, 0x41, 0x02] ++ encodedClaims

def otherOrder : List UInt8 := [0xA7, 0x08, 0xA2, 0x03, 0x41, 0x02, 0x02, 0x41, 0x01] ++ encodedClaims

def kidOne : Cbor × Cbor := (.integer 2, .bytes [1])

def kidTwo : Cbor × Cbor := (.integer 3, .bytes [2])

def twoOrders : AuthPlatform Unit where
  cbor bytes :=
    if bytes = firstOrder then some (.map (claimsWith [kidOne, kidTwo]))
    else if bytes = otherOrder then some (.map (claimsWith [kidTwo, kidOne]))
    else none
  decodeBase64Url _ := none
  encodeBase64Url bytes := if bytes = [1] then "AQ" else if bytes = [2] then "Ag" else ""
  encodeBase64 _ := ""
  sign1 _ := none
  taggedSign1 _ := none
  coseKey _ := none
  fromSec1 _ := .ok ()
  verifies _ _ := false
  floatNumber _ := none
  debug _ := ""

/-- Swapping the entries of a `cnf` with a `kid` under label 2 and another under label 3 changes the
`kid` of the token. -/
theorem parseClaims_order_matters :
    Rearranged (claimsWith [kidOne, kidTwo]) (claimsWith [kidTwo, kidOne]) ∧
      (∃ claims, parseClaims twoOrders firstOrder = .ok claims ∧ claims.kid = some "Ag") ∧
      ∃ claims, parseClaims twoOrders otherOrder = .ok claims ∧ claims.kid = some "AQ" := by
  have first : parseCnfKid twoOrders [kidOne, kidTwo] = .ok (some "Ag") := rfl
  have other : parseCnfKid twoOrders [kidTwo, kidOne] = .ok (some "AQ") := rfl
  refine ⟨.inr ⟨_, _, _, List.Perm.swap _ _ _, .refl _, .refl _⟩, ?_, ?_⟩
  · exact claimsFrom_claimsWith first
  · exact claimsFrom_claimsWith other

end Order

end TdfIrohS3
