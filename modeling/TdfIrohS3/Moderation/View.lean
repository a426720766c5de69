import TdfIrohS3.Library.Table
import TdfIrohS3.Subject

namespace TdfIrohS3

open Library

structure Suspension where
  subject : String
  reason : String
  reportId : Option String
  hideCatalog : Bool
  by_ : String
  at_ : Int
  liftedBy : Option String
  liftedAt : Option Int
  deriving DecidableEq, Repr

structure Block where
  hash : String
  reason : String
  reportId : Option String
  by_ : String
  at_ : Int
  liftedBy : Option String
  liftedAt : Option Int
  deriving DecidableEq, Repr

structure CatalogBlock where
  subject : String
  reason : String
  reportId : Option String
  by_ : String
  at_ : Int
  liftedBy : Option String
  liftedAt : Option Int
  deriving DecidableEq, Repr

inductive Kind
  | suspensions
  | blocks
  | catalogBlocks
  deriving DecidableEq, Repr

namespace Kind

def name : Kind → String
  | .suspensions => "suspensions"
  | .blocks => "blocks"
  | .catalogBlocks => "catalog-blocks"

abbrev Record : Kind → Type
  | .suspensions => Suspension
  | .blocks => Block
  | .catalogBlocks => CatalogBlock

instance instDecidableEqRecord : (kind : Kind) → DecidableEq kind.Record
  | .suspensions => inferInstanceAs (DecidableEq Suspension)
  | .blocks => inferInstanceAs (DecidableEq Block)
  | .catalogBlocks => inferInstanceAs (DecidableEq CatalogBlock)

def key : (kind : Kind) → kind.Record → String
  | .suspensions, record => record.subject
  | .blocks, record => record.hash
  | .catalogBlocks, record => record.subject

def liftedAt : (kind : Kind) → kind.Record → Option Int
  | .suspensions, record => record.liftedAt
  | .blocks, record => record.liftedAt
  | .catalogBlocks, record => record.liftedAt

def lift : (kind : Kind) → kind.Record → String → Int → kind.Record
  | .suspensions, record, by_, at_ => { record with liftedBy := some by_, liftedAt := some at_ }
  | .blocks, record, by_, at_ => { record with liftedBy := some by_, liftedAt := some at_ }
  | .catalogBlocks, record, by_, at_ => { record with liftedBy := some by_, liftedAt := some at_ }

def keyOf : Kind → String → String
  | .suspensions, path => canonicalSubject path
  | .blocks, path => Text.toAsciiLowercase path
  | .catalogBlocks, path => canonicalSubject path

@[simp] theorem key_lift (kind : Kind) (record : kind.Record) (by_ : String) (at_ : Int) :
    kind.key (kind.lift record by_ at_) = kind.key record := by
  cases kind <;> rfl

@[simp] theorem liftedAt_lift (kind : Kind) (record : kind.Record) (by_ : String) (at_ : Int) :
    kind.liftedAt (kind.lift record by_ at_) = some at_ := by
  cases kind <;> rfl

end Kind

/-- The active records of one kind: each under its own key, none lifted. -/
structure Active (kind : Kind) where
  table : Table String kind.Record
  keyed : ∀ key record, table.get key = some record → kind.key record = key
  unlifted : ∀ key record, table.get key = some record → kind.liftedAt record = none

namespace Active

variable {kind : Kind}

def empty (kind : Kind) : Active kind where
  table := Table.empty
  keyed := by intro key record found; cases found
  unlifted := by intro key record found; cases found

def insert (active : Active kind) (record : kind.Record)
    (fresh : kind.liftedAt record = none) : Active kind where
  table := active.table.insert (kind.key record) record
  keyed := by
    intro key other found
    rw [Table.get_insert] at found
    split at found
    · rename_i same
      obtain rfl := Option.some.inj found
      exact same.symm
    · exact active.keyed key other found
  unlifted := by
    intro key other found
    rw [Table.get_insert] at found
    split at found
    · obtain rfl := Option.some.inj found
      exact fresh
    · exact active.unlifted key other found

def remove (active : Active kind) (key : String) : Active kind where
  table := active.table.remove key
  keyed := by
    intro other record found
    rw [Table.get_remove] at found
    split at found
    · cases found
    · exact active.keyed other record found
  unlifted := by
    intro other record found
    rw [Table.get_remove] at found
    split at found
    · cases found
    · exact active.unlifted other record found

/-- `apply_suspension`, `apply_block` and `apply_catalog_block`: a lifted record goes, another
replaces what its key held. -/
def apply (active : Active kind) (record : kind.Record) : Active kind :=
  if fresh : kind.liftedAt record = none then active.insert record fresh
  else active.remove (kind.key record)

theorem get_apply_of_unlifted (active : Active kind) {record : kind.Record}
    (fresh : kind.liftedAt record = none) (key : String) :
    (active.apply record).table.get key =
      if key = kind.key record then some record else active.table.get key := by
  rw [apply, dif_pos fresh]
  exact Table.get_insert _ _ _ _

theorem get_apply_of_lifted (active : Active kind) {record : kind.Record}
    (gone : kind.liftedAt record ≠ none) (key : String) :
    (active.apply record).table.get key =
      if key = kind.key record then none else active.table.get key := by
  rw [apply, dif_neg gone]
  exact Table.get_remove _ _ _

def collectOne (active : Active kind) : Option kind.Record → Active kind
  | none => active
  | some record => if fresh : kind.liftedAt record = none then active.insert record fresh else active

def collect (bodies : List (Option kind.Record)) : Active kind :=
  bodies.foldl collectOne (empty kind)

theorem contains_collectOne (active : Active kind) (body : Option kind.Record) (key : String) :
    (active.collectOne body).table.contains key = true ↔
      active.table.contains key = true ∨
        ∃ record, body = some record ∧ kind.liftedAt record = none ∧ kind.key record = key := by
  cases body with
  | none => simp [collectOne]
  | some record =>
      by_cases fresh : kind.liftedAt record = none
      · have inserted : (active.collectOne (some record)).table.get key =
            if key = kind.key record then some record else active.table.get key := by
          rw [collectOne, dif_pos fresh]
          exact Table.get_insert _ _ _ _
        rw [Table.contains, inserted]
        by_cases same : key = kind.key record
        · simp [same, fresh]
        · have other : kind.key record ≠ key := fun reversed => same reversed.symm
          simp [same, other, Table.contains]
      · simp [collectOne, fresh]

/-- A key is active after a reload exactly when a listed record for it can be read and is not
lifted. -/
theorem contains_collect (bodies : List (Option kind.Record)) (key : String) :
    (collect bodies).table.contains key = true ↔
      ∃ record, some record ∈ bodies ∧ kind.liftedAt record = none ∧ kind.key record = key := by
  have general : ∀ active : Active kind,
      (bodies.foldl collectOne active).table.contains key = true ↔
        active.table.contains key = true ∨
          ∃ record, some record ∈ bodies ∧ kind.liftedAt record = none ∧ kind.key record = key := by
    induction bodies with
    | nil => simp
    | cons body rest ih =>
        intro active
        rw [List.foldl_cons, ih, contains_collectOne, or_assoc]
        apply or_congr_right
        constructor
        · rintro (⟨record, rfl, facts⟩ | ⟨record, member, facts⟩)
          · exact ⟨record, List.mem_cons_self, facts⟩
          · exact ⟨record, List.mem_cons_of_mem _ member, facts⟩
        · rintro ⟨record, member, facts⟩
          rcases List.mem_cons.mp member with same | member
          · exact .inl ⟨record, same.symm, facts⟩
          · exact .inr ⟨record, member, facts⟩
  rw [collect, general]
  simp [empty, Table.contains]

end Active

structure Moderation where
  active : (kind : Kind) → Active kind

namespace Moderation

def empty : Moderation := ⟨Active.empty⟩

instance : Inhabited Moderation := ⟨empty⟩

def suspension (view : Moderation) (subject : String) : Option Suspension :=
  (view.active .suspensions).table.get (canonicalSubject subject)

def isSuspended (view : Moderation) (subject : String) : Bool := (view.suspension subject).isSome

def isBlocked (view : Moderation) (hashHex : String) : Bool :=
  (view.active .blocks).table.contains (Text.toAsciiLowercase hashHex)

/-- A catalog block, or a suspension with `hideCatalog`. The second test canonicalises the
canonical form once more. -/
def catalogHidden (view : Moderation) (subject : String) : Bool :=
  let subject := canonicalSubject subject
  (view.active .catalogBlocks).table.contains subject ||
    (view.suspension subject).any fun s => s.hideCatalog

def set (view : Moderation) (kind : Kind) (active : Active kind) : Moderation :=
  ⟨Function.update view.active kind active⟩

@[simp] theorem set_active_self (view : Moderation) (kind : Kind) (active : Active kind) :
    (view.set kind active).active kind = active := by
  simp [set]

theorem set_active_of_ne (view : Moderation) {kind other : Kind} (active : Active kind)
    (different : other ≠ kind) : (view.set kind active).active other = view.active other := by
  simp [set, Function.update_of_ne different]

def applySuspension (view : Moderation) (s : Suspension) : Moderation :=
  view.set .suspensions ((view.active .suspensions).apply s)

def applyBlock (view : Moderation) (b : Block) : Moderation :=
  view.set .blocks ((view.active .blocks).apply b)

def applyCatalogBlock (view : Moderation) (b : CatalogBlock) : Moderation :=
  view.set .catalogBlocks ((view.active .catalogBlocks).apply b)

def applyRecord (view : Moderation) : (kind : Kind) → kind.Record → Moderation
  | .suspensions, record => view.applySuspension record
  | .blocks, record => view.applyBlock record
  | .catalogBlocks, record => view.applyCatalogBlock record

theorem applyRecord_eq (view : Moderation) (kind : Kind) (record : kind.Record) :
    view.applyRecord kind record = view.set kind ((view.active kind).apply record) := by
  cases kind <;> rfl

def inForce (view : Moderation) : Kind → String → Bool
  | .suspensions, path => view.isSuspended path
  | .blocks, path => view.isBlocked path
  | .catalogBlocks, path => view.catalogHidden path

/-- An active record answers its kind's query. For catalogs the converse fails: a suspension may
hide the catalog too. -/
theorem inForce_of_contains (view : Moderation) (kind : Kind) (path : String)
    (held : (view.active kind).table.contains (kind.keyOf path) = true) :
    view.inForce kind path = true := by
  cases kind with
  | suspensions => exact held
  | blocks => exact held
  | catalogBlocks =>
      change ((view.active .catalogBlocks).table.contains (canonicalSubject path) || _) = true
      rw [show (view.active .catalogBlocks).table.contains (canonicalSubject path) = true from held,
        Bool.true_or]

end Moderation

end TdfIrohS3
