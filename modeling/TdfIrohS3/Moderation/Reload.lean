import Mathlib.Data.List.Induction
import TdfIrohS3.Moderation.Change

namespace TdfIrohS3

open Library

section Listings

variable (kind : Kind)

def Listed (bodies : List (Option kind.Record)) (record : kind.Record) : Prop :=
  some record ∈ bodies ∧ kind.liftedAt record = none

def Names (bodies : List (Option kind.Record)) (key : String) : Prop :=
  ∃ record, Listed kind bodies record ∧ kind.key record = key

def pick (key : String) : Option kind.Record → Option kind.Record
  | some record => if kind.liftedAt record = none ∧ kind.key record = key then some record else none
  | none => none

def lastListed (bodies : List (Option kind.Record)) (key : String) : Option kind.Record :=
  bodies.reverse.findSome? (pick kind key)

theorem lastListed_concat (bodies : List (Option kind.Record)) (body : Option kind.Record)
    (key : String) :
    lastListed kind (bodies ++ [body]) key = (pick kind key body).or (lastListed kind bodies key) := by
  rw [lastListed, List.reverse_concat, List.findSome?_cons]
  cases pick kind key body with
  | none => rfl
  | some record => rfl

theorem pick_eq_some {key : String} {body : Option kind.Record} {record : kind.Record}
    (picked : pick kind key body = some record) :
    body = some record ∧ kind.liftedAt record = none ∧ kind.key record = key := by
  cases body with
  | none => cases picked
  | some other =>
      simp only [pick] at picked
      split at picked
      · rename_i facts
        cases picked
        exact ⟨rfl, facts⟩
      · cases picked

theorem get_collectOne (active : Active kind) (body : Option kind.Record) (key : String) :
    (active.collectOne body).table.get key = (pick kind key body).or (active.table.get key) := by
  cases body with
  | none => rfl
  | some record =>
      by_cases fresh : kind.liftedAt record = none
      · have inserted : (active.collectOne (some record)).table.get key =
            if key = kind.key record then some record else active.table.get key := by
          rw [Active.collectOne, dif_pos fresh]
          exact Table.get_insert _ _ _ _
        rw [inserted]
        by_cases same : key = kind.key record
        · rw [if_pos same, pick, if_pos ⟨fresh, same.symm⟩]
          rfl
        · rw [if_neg same, pick, if_neg fun facts => same facts.2.symm]
          rfl
      · rw [Active.collectOne, dif_neg fresh, pick, if_neg fun facts => fresh facts.1]
        rfl

theorem get_collect (bodies : List (Option kind.Record)) (key : String) :
    (Active.collect bodies).table.get key = lastListed kind bodies key := by
  induction bodies using List.reverseRecOn with
  | nil => rfl
  | append_singleton bodies body ih =>
      have folded : Active.collect (bodies ++ [body]) = (Active.collect bodies).collectOne body := by
        simp [Active.collect]
      rw [folded, get_collectOne, lastListed_concat, ih]

theorem contains_collect_iff (bodies : List (Option kind.Record)) (key : String) :
    (Active.collect bodies).table.contains key = true ↔ Names kind bodies key := by
  rw [Active.contains_collect, Names]
  constructor
  · rintro ⟨record, member, fresh, own⟩
    exact ⟨record, ⟨member, fresh⟩, own⟩
  · rintro ⟨record, ⟨member, fresh⟩, own⟩
    exact ⟨record, member, fresh, own⟩

theorem lastListed_eq_some {bodies : List (Option kind.Record)} {key : String}
    {record : kind.Record} (last : lastListed kind bodies key = some record) :
    Listed kind bodies record ∧ kind.key record = key := by
  obtain ⟨body, member, shown⟩ := List.exists_of_findSome?_eq_some last
  have facts := pick_eq_some kind shown
  exact ⟨⟨List.mem_reverse.mp (facts.1 ▸ member), facts.2.1⟩, facts.2.2⟩

end Listings

section Spellings

/-- Where a bounded set of subjects has a spelling of each of its prefixed members, it has no prefixed
member: with one come longer and longer ones. -/
theorem bare_of_closed {Named : String → Prop} (bounded : ∃ bound, ∀ s, Named s → s.length ≤ bound)
    (closed : ∀ rest, Named ("arkavo:" ++ rest) →
      ∃ t, Named t ∧ canonicalSubject t = "arkavo:" ++ rest)
    {s : String} (named : Named s) : canonicalSubject s = s := by
  rw [canonicalSubject_eq_self_iff]
  rintro rest rfl
  have longer : ∀ n, ∃ rest, Named ("arkavo:" ++ rest) ∧ n ≤ rest.length := by
    intro n
    induction n with
    | zero => exact ⟨rest, named, Nat.zero_le _⟩
    | succ n ih =>
        obtain ⟨shorter, inside, length⟩ := ih
        obtain ⟨t, other, canonical⟩ := closed shorter inside
        rcases canonicalSubject_cases t with ⟨more, rfl, stripped⟩ | ⟨bare, kept⟩
        · refine ⟨more, other, ?_⟩
          have seven : "arkavo:".length = 7 := rfl
          rw [← stripped, canonical, String.length_append]
          omega
        · exact absurd (kept.symm.trans canonical) (bare shorter)
  obtain ⟨bound, bounded⟩ := bounded
  obtain ⟨more, inside, length⟩ := longer (bound + 1)
  have short := bounded _ inside
  rw [String.length_append] at short
  omega

theorem names_bounded (kind : Kind) (bodies : List (Option kind.Record)) :
    ∃ bound, ∀ s, Names kind bodies s → s.length ≤ bound := by
  induction bodies with
  | nil => exact ⟨0, by rintro s ⟨record, ⟨member, -⟩, -⟩; cases member⟩
  | cons body rest ih =>
      obtain ⟨bound, bounded⟩ := ih
      refine ⟨max bound ((body.map fun record => (kind.key record).length).getD 0), ?_⟩
      rintro s ⟨record, ⟨member, fresh⟩, rfl⟩
      rcases List.mem_cons.mp member with rfl | inside
      · exact Nat.le_max_right _ _
      · have short := bounded _ ⟨record, ⟨inside, fresh⟩, rfl⟩
        exact Nat.le_trans short (Nat.le_max_left _ _)

theorem toLower_of_not_upper {c : Char} (other : ¬(c.val ≥ 65 ∧ c.val ≤ 90)) : c.toLower = c :=
  dif_neg other

theorem toLower_twice (c : Char) : c.toLower.toLower = c.toLower := by
  by_cases upper : c.val ≥ 65 ∧ c.val ≤ 90
  · have lower : c.toLower.val = c.val + 32 := congrArg Char.val (dif_pos upper)
    apply toLower_of_not_upper
    rw [lower]
    intro bounds
    have low := UInt32.le_iff_toNat_le.mp upper.1
    have high := UInt32.le_iff_toNat_le.mp upper.2
    have above := UInt32.le_iff_toNat_le.mp bounds.2
    simp only [UInt32.toNat_add, UInt32.reduceToNat] at low high above
    omega
  · rw [toLower_of_not_upper upper, toLower_of_not_upper upper]

theorem toAsciiLowercase_twice (text : String) :
    Text.toAsciiLowercase (Text.toAsciiLowercase text) = Text.toAsciiLowercase text := by
  have twice : Char.toLower ∘ Char.toLower = Char.toLower := funext toLower_twice
  rw [Text.toAsciiLowercase, Text.toAsciiLowercase, String.toList_ofList, List.map_map, twice]

end Spellings

section Exact

variable (view : Moderation) (suspensions : List (Option Suspension)) (blocks : List (Option Block))
variable (catalogBlocks : List (Option CatalogBlock))

def reloaded : Moderation :=
  (view.reload (some suspensions) (some blocks) (some catalogBlocks)).1

def NamesHidden (suspensions : List (Option Suspension)) (catalogBlocks : List (Option CatalogBlock))
    (account : String) : Prop :=
  (∃ b, Listed .catalogBlocks catalogBlocks b ∧ canonicalSubject b.subject = account) ∨
    ∃ r, Listed .suspensions suspensions r ∧ r.hideCatalog = true ∧
      canonicalSubject r.subject = account

structure ReloadExact (queries : String → Prop) : Prop where
  suspended : ∀ x, queries x →
    ((reloaded view suspensions blocks catalogBlocks).isSuspended x = true ↔
      ∃ r, Listed .suspensions suspensions r ∧
        canonicalSubject r.subject = canonicalSubject x)
  blocked : ∀ h,
    ((reloaded view suspensions blocks catalogBlocks).isBlocked h = true ↔
      ∃ b, Listed .blocks blocks b ∧
        Text.toAsciiLowercase b.hash = Text.toAsciiLowercase h)
  hidden : ∀ x, queries x →
    ((reloaded view suspensions blocks catalogBlocks).catalogHidden x = true ↔
      NamesHidden suspensions catalogBlocks (canonicalSubject x))

def Hides (suspensions : List (Option Suspension)) (key : String) : Prop :=
  ∃ r, lastListed .suspensions suspensions key = some r ∧ r.hideCatalog = true

variable {view suspensions blocks catalogBlocks}

theorem isSuspended_reloaded (x : String) :
    (reloaded view suspensions blocks catalogBlocks).isSuspended x = true ↔
      Names .suspensions suspensions (canonicalSubject x) :=
  contains_collect_iff .suspensions suspensions (canonicalSubject x)

theorem isBlocked_reloaded (h : String) :
    (reloaded view suspensions blocks catalogBlocks).isBlocked h = true ↔
      Names .blocks blocks (Text.toAsciiLowercase h) :=
  contains_collect_iff .blocks blocks (Text.toAsciiLowercase h)

theorem catalogHidden_reloaded (x : String) :
    (reloaded view suspensions blocks catalogBlocks).catalogHidden x = true ↔
      Names .catalogBlocks catalogBlocks (canonicalSubject x) ∨
        Hides suspensions (canonicalSubject (canonicalSubject x)) := by
  have blocked := contains_collect_iff .catalogBlocks catalogBlocks (canonicalSubject x)
  have found := get_collect .suspensions suspensions (canonicalSubject (canonicalSubject x))
  change ((Active.collect catalogBlocks : Active .catalogBlocks).table.contains _ ||
    ((Active.collect suspensions : Active .suspensions).table.get _).any _) = true ↔ _
  rw [Bool.or_eq_true, found, Option.any_eq_true]
  exact or_congr blocked Iff.rfl

/-- Every active record is stored as the look-ups spell it, and no suspension hides a catalog of its
own accord: each that asks for it has a catalog block beside it and is not the last of its subject. -/
structure Plain (suspensions : List (Option Suspension)) (blocks : List (Option Block))
    (catalogBlocks : List (Option CatalogBlock)) : Prop where
  suspensions_bare : ∀ r, Listed .suspensions suspensions r → canonicalSubject r.subject = r.subject
  blocks_lower : ∀ b, Listed .blocks blocks b →
    Names .blocks blocks (Text.toAsciiLowercase b.hash)
  catalogBlocks_bare : ∀ b, Listed .catalogBlocks catalogBlocks b →
    canonicalSubject b.subject = b.subject
  hiding_blocked : ∀ r, Listed .suspensions suspensions r → r.hideCatalog = true →
    Names .catalogBlocks catalogBlocks r.subject
  none_hides : ∀ key, ¬Hides suspensions key

theorem blocked_iff :
    (∀ h, ((reloaded view suspensions blocks catalogBlocks).isBlocked h = true ↔
      ∃ b, Listed .blocks blocks b ∧ Text.toAsciiLowercase b.hash = Text.toAsciiLowercase h)) ↔
    ∀ b, Listed .blocks blocks b → Names .blocks blocks (Text.toAsciiLowercase b.hash) := by
  simp only [isBlocked_reloaded]
  constructor
  · intro agree b listed
    exact (agree b.hash).mpr ⟨b, listed, rfl⟩
  · intro lower h
    constructor
    · rintro ⟨b, listed, spelled⟩
      have once : b.hash = Text.toAsciiLowercase h := spelled
      exact ⟨b, listed, by rw [once, toAsciiLowercase_twice]⟩
    · rintro ⟨b, listed, same⟩
      exact same ▸ lower b listed

/-- Over every query, the suspensions agree exactly when no active one carries a prefix. -/
theorem suspended_iff :
    (∀ x, ((reloaded view suspensions blocks catalogBlocks).isSuspended x = true ↔
      ∃ r, Listed .suspensions suspensions r ∧
        canonicalSubject r.subject = canonicalSubject x)) ↔
    ∀ r, Listed .suspensions suspensions r → canonicalSubject r.subject = r.subject := by
  simp only [isSuspended_reloaded]
  constructor
  · intro agree r listed
    refine bare_of_closed (names_bounded .suspensions suspensions) ?_ ⟨r, listed, rfl⟩
    intro rest named
    have asked := agree ("arkavo:" ++ ("arkavo:" ++ rest))
    rw [canonicalSubject_append] at asked
    obtain ⟨other, found, same⟩ := asked.mp named
    exact ⟨other.subject, ⟨other, found, rfl⟩, same⟩
  · intro bare x
    constructor
    · rintro ⟨r, listed, spelled⟩
      exact ⟨r, listed, (bare r listed).trans spelled⟩
    · rintro ⟨r, listed, same⟩
      exact ⟨r, listed, (bare r listed).symm.trans same⟩

/-- A query for a doubly prefixed subject looks for a suspension of the bare one, so a catalog that a
suspension hides is hidden for accounts no record names. -/
theorem none_hides_of_hidden
    (bare : ∀ r, Listed .suspensions suspensions r → canonicalSubject r.subject = r.subject)
    (bareBlocks : ∀ b, Listed .catalogBlocks catalogBlocks b → canonicalSubject b.subject = b.subject)
    (agree : ∀ x, (Names .catalogBlocks catalogBlocks (canonicalSubject x) ∨
      Hides suspensions (canonicalSubject (canonicalSubject x))) ↔
        NamesHidden suspensions catalogBlocks (canonicalSubject x)) (key : String) :
    ¬Hides suspensions key := by
  intro hides
  have asked := agree ("arkavo:" ++ ("arkavo:" ++ key))
  rw [canonicalSubject_append, canonicalSubject_append] at asked
  -- a record that names it would have to carry the prefix itself
  have unnamed : ∀ s, canonicalSubject s = s → canonicalSubject s ≠ "arkavo:" ++ key := by
    intro s kept same
    exact (canonicalSubject_eq_self_iff s).mp kept key (kept.symm.trans same)
  rcases asked.mp (.inr hides) with ⟨b, listed, same⟩ | ⟨r, listed, -, same⟩
  · exact unnamed _ (bareBlocks b listed) same
  · exact unnamed _ (bare r listed) same

theorem catalogBlocks_bare_of_hidden
    (bare : ∀ r, Listed .suspensions suspensions r → canonicalSubject r.subject = r.subject)
    (agree : ∀ x, (Names .catalogBlocks catalogBlocks (canonicalSubject x) ∨
      Hides suspensions (canonicalSubject (canonicalSubject x))) ↔
        NamesHidden suspensions catalogBlocks (canonicalSubject x)) :
    ∀ b, Listed .catalogBlocks catalogBlocks b → canonicalSubject b.subject = b.subject := by
  intro b listed
  refine bare_of_closed (names_bounded .catalogBlocks catalogBlocks) ?_ ⟨b, listed, rfl⟩
  intro rest named
  have asked := agree ("arkavo:" ++ ("arkavo:" ++ rest))
  rw [canonicalSubject_append] at asked
  rcases asked.mp (.inl named) with ⟨other, found, same⟩ | ⟨r, found, -, same⟩
  · exact ⟨other.subject, ⟨other, found, rfl⟩, same⟩
  · have kept := bare r found
    exact absurd (kept.symm.trans same) ((canonicalSubject_eq_self_iff r.subject).mp kept rest)

/-- Over every query, and with bare suspensions, the hidden catalogs agree exactly when the catalog
blocks are bare and do the hiding by themselves. -/
theorem hidden_iff
    (bare : ∀ r, Listed .suspensions suspensions r → canonicalSubject r.subject = r.subject) :
    (∀ x, ((reloaded view suspensions blocks catalogBlocks).catalogHidden x = true ↔
      NamesHidden suspensions catalogBlocks (canonicalSubject x))) ↔
    (∀ b, Listed .catalogBlocks catalogBlocks b → canonicalSubject b.subject = b.subject) ∧
      (∀ r, Listed .suspensions suspensions r → r.hideCatalog = true →
        Names .catalogBlocks catalogBlocks r.subject) ∧
      ∀ key, ¬Hides suspensions key := by
  simp only [catalogHidden_reloaded]
  constructor
  · intro agree
    have bareBlocks := catalogBlocks_bare_of_hidden bare agree
    have none_hides := none_hides_of_hidden bare bareBlocks agree
    refine ⟨bareBlocks, ?_, none_hides⟩
    intro r listed hides
    have kept := bare r listed
    have named := (agree r.subject).mpr (.inr ⟨r, listed, hides, rfl⟩)
    rw [kept] at named
    exact named.resolve_right (none_hides _)
  · rintro ⟨bareBlocks, blocked, none_hides⟩ x
    constructor
    · rintro (⟨b, listed, spelled⟩ | hides)
      · exact .inl ⟨b, listed, (bareBlocks b listed).trans spelled⟩
      · exact absurd hides (none_hides _)
    · rintro (⟨b, listed, same⟩ | ⟨r, listed, hides, same⟩)
      · exact .inl ⟨b, listed, (bareBlocks b listed).symm.trans same⟩
      · have named := blocked r listed hides
        rw [← bare r listed, same] at named
        exact .inl named

def Single (x : String) : Prop := Text.stripPrefix x "arkavo:arkavo:" = none

theorem Single.twice {x : String} (single : Single x) :
    canonicalSubject (canonicalSubject x) = canonicalSubject x :=
  (canonicalSubject_twice_iff x).mpr single

theorem single_of_canonical {x y : String} (same : canonicalSubject x = canonicalSubject y)
    (single : Single y) : Single x := by
  apply (canonicalSubject_twice_iff x).mp
  rw [same, single.twice]

/-- An active record with at most one prefix has one beside it that the look-ups find. -/
structure PlainOnce (suspensions : List (Option Suspension)) (blocks : List (Option Block))
    (catalogBlocks : List (Option CatalogBlock)) : Prop where
  suspensions_found : ∀ r, Listed .suspensions suspensions r → Single r.subject →
    Names .suspensions suspensions (canonicalSubject r.subject)
  blocks_lower : ∀ b, Listed .blocks blocks b →
    Names .blocks blocks (Text.toAsciiLowercase b.hash)
  catalogBlocks_found : ∀ b, Listed .catalogBlocks catalogBlocks b → Single b.subject →
    Names .catalogBlocks catalogBlocks (canonicalSubject b.subject) ∨
      Hides suspensions (canonicalSubject b.subject)
  hiding_found : ∀ r, Listed .suspensions suspensions r → r.hideCatalog = true →
    Single r.subject → Names .catalogBlocks catalogBlocks (canonicalSubject r.subject) ∨
      Hides suspensions (canonicalSubject r.subject)

theorem suspended_single_iff :
    (∀ x, Single x → ((reloaded view suspensions blocks catalogBlocks).isSuspended x = true ↔
      ∃ r, Listed .suspensions suspensions r ∧
        canonicalSubject r.subject = canonicalSubject x)) ↔
    ∀ r, Listed .suspensions suspensions r → Single r.subject →
      Names .suspensions suspensions (canonicalSubject r.subject) := by
  simp only [isSuspended_reloaded]
  constructor
  · intro agree r listed single
    exact (agree r.subject single).mpr ⟨r, listed, rfl⟩
  · intro found x single
    constructor
    · rintro ⟨r, listed, spelled⟩
      have own : r.subject = canonicalSubject x := spelled
      exact ⟨r, listed, by rw [own, single.twice]⟩
    · rintro ⟨r, listed, same⟩
      exact same ▸ found r listed (single_of_canonical same single)

theorem namesHidden_of_found {account : String} (bare : canonicalSubject account = account)
    (found : Names .catalogBlocks catalogBlocks account ∨ Hides suspensions account) :
    NamesHidden suspensions catalogBlocks account := by
  rcases found with ⟨b, listed, spelled⟩ | ⟨r, last, hides⟩
  · have own : b.subject = account := spelled
    exact .inl ⟨b, listed, by rw [own, bare]⟩
  · have facts := lastListed_eq_some .suspensions last
    have own : r.subject = account := facts.2
    exact .inr ⟨r, facts.1, hides, by rw [own, bare]⟩

theorem hidden_single_iff :
    (∀ x, Single x → ((reloaded view suspensions blocks catalogBlocks).catalogHidden x = true ↔
      NamesHidden suspensions catalogBlocks (canonicalSubject x))) ↔
    (∀ b, Listed .catalogBlocks catalogBlocks b → Single b.subject →
      Names .catalogBlocks catalogBlocks (canonicalSubject b.subject) ∨
        Hides suspensions (canonicalSubject b.subject)) ∧
    ∀ r, Listed .suspensions suspensions r → r.hideCatalog = true → Single r.subject →
      Names .catalogBlocks catalogBlocks (canonicalSubject r.subject) ∨
        Hides suspensions (canonicalSubject r.subject) := by
  simp only [catalogHidden_reloaded]
  constructor
  · intro agree
    constructor
    · intro b listed single
      have found := (agree b.subject single).mpr (.inl ⟨b, listed, rfl⟩)
      rwa [single.twice] at found
    · intro r listed hides single
      have found := (agree r.subject single).mpr (.inr ⟨r, listed, hides, rfl⟩)
      rwa [single.twice] at found
  · rintro ⟨blocksFound, hidingFound⟩ x single
    rw [single.twice]
    constructor
    · exact namesHidden_of_found single.twice
    · rintro (⟨b, listed, same⟩ | ⟨r, listed, hides, same⟩)
      · exact same ▸ blocksFound b listed (single_of_canonical same single)
      · exact same ▸ hidingFound r listed hides (single_of_canonical same single)

/-- When a reload puts exactly the active stored records into force: for every subject asked about,
and for those with at most one prefix. -/
theorem reload_exact_iff (view : Moderation) (suspensions : List (Option Suspension))
    (blocks : List (Option Block)) (catalogBlocks : List (Option CatalogBlock)) :
    (ReloadExact view suspensions blocks catalogBlocks (fun _ => True) ↔
      Plain suspensions blocks catalogBlocks) ∧
    (ReloadExact view suspensions blocks catalogBlocks Single ↔
      PlainOnce suspensions blocks catalogBlocks) := by
  constructor
  · constructor
    · intro agree
      have bare := suspended_iff.mp fun x => agree.suspended x trivial
      have hidden := (hidden_iff bare).mp fun x => agree.hidden x trivial
      exact ⟨bare, blocked_iff.mp agree.blocked, hidden.1, hidden.2.1, hidden.2.2⟩
    · intro plain
      refine ⟨fun x _ => suspended_iff.mpr plain.suspensions_bare x,
        blocked_iff.mpr plain.blocks_lower, fun x _ => ?_⟩
      apply (hidden_iff plain.suspensions_bare).mpr
      exact ⟨plain.catalogBlocks_bare, plain.hiding_blocked, plain.none_hides⟩
  · constructor
    · intro agree
      have hidden := hidden_single_iff.mp agree.hidden
      exact ⟨suspended_single_iff.mp agree.suspended, blocked_iff.mp agree.blocked, hidden.1,
        hidden.2⟩
    · intro plain
      exact ⟨suspended_single_iff.mpr plain.suspensions_found, blocked_iff.mpr plain.blocks_lower,
        hidden_single_iff.mpr ⟨plain.catalogBlocks_found, plain.hiding_found⟩⟩

def prefixedSuspension : Suspension := { sampleSuspension with subject := "arkavo:alice" }

def plainSuspension : Suspension := { sampleSuspension with hideCatalog := false }

def upperBlock : Block :=
  { hash := String.ofList (List.replicate 64 'A'), reason := "spam", reportId := none,
    by_ := "client:trust", at_ := 1000, liftedBy := none, liftedAt := none }

/-- Records that can be read and are not lifted, and yet a reload leaves them without force: a
suspension spelled with its prefix, a block in upper case, a hiding suspension listed before another
of its subject. And a hiding suspension hides a catalog that no record names. -/
theorem reload_misses_spellings :
    (Listed .suspensions [some prefixedSuspension] prefixedSuspension ∧
      (reloaded Moderation.empty [some prefixedSuspension] [] []).isSuspended "arkavo:alice" = false ∧
      (reloaded Moderation.empty [some prefixedSuspension] [] []).isSuspended "alice" = false) ∧
    (Listed .blocks [some upperBlock] upperBlock ∧
      (reloaded Moderation.empty [] [some upperBlock] []).isBlocked upperBlock.hash = false) ∧
    (Listed .suspensions [some sampleSuspension, some plainSuspension] sampleSuspension ∧
      sampleSuspension.hideCatalog = true ∧
      (reloaded Moderation.empty [some sampleSuspension, some plainSuspension] [] []).catalogHidden
        "alice" = false) ∧
    (reloaded Moderation.empty [some sampleSuspension] [] []).catalogHidden
      "arkavo:arkavo:alice" = true ∧
    ¬NamesHidden [some sampleSuspension] [] (canonicalSubject "arkavo:arkavo:alice") := by
  refine ⟨⟨⟨by simp, rfl⟩, by decide +kernel⟩, ⟨⟨by simp, rfl⟩, by decide +kernel⟩,
    ⟨⟨by simp, rfl⟩, by decide +kernel⟩, by decide +kernel, ?_⟩
  rintro (⟨b, listed, -⟩ | ⟨r, listed, -, same⟩)
  · cases listed.1
  · have only : r = sampleSuspension := by simpa using listed.1
    rw [only] at same
    exact absurd same (by decide +kernel)

end Exact

end TdfIrohS3
