import TdfIrohS3.Library.Decimal
import TdfIrohS3.Moderation.InForce

namespace TdfIrohS3

open Library

section Keys

/-- `10^20` ns: a clock value below it has at most 20 digits. -/
def clockLimit : Nat := 100000000000000000000

theorem fits_of_limit {nanos : Nat} (below : nanos < clockLimit) : nanos < Nat.pow 10 20 := by
  have same : Nat.pow 10 20 = clockLimit := by decide
  omega

theorem auditKey_toList (kind : Kind) (key : String) {nanos : Nat} (below : nanos < clockLimit) :
    (auditKey kind key nanos).toList =
      (kind.name.toList ++ '/' :: key.toList) ++ '/' :: Decimal.fixed 20 nanos := by
  rw [← Decimal.pad_toList 19 (fits_of_limit below)]
  simp [auditKey, Decimal.pad, String.toList_append]

/-- An audit key names its kind, its record's key and its time. -/
theorem auditKey_injective {kind kind' : Kind} {key key' : String} {nanos nanos' : Nat}
    (below : nanos < clockLimit) (below' : nanos' < clockLimit)
    (same : auditKey kind key nanos = auditKey kind' key' nanos') :
    kind = kind' ∧ key = key' ∧ nanos = nanos' := by
  have lists := congrArg String.toList same
  rw [auditKey_toList kind key below, auditKey_toList kind' key' below'] at lists
  have parts := List.append_inj' lists (by simp)
  have times := Decimal.fixed_injective 20 (fits_of_limit below) (fits_of_limit below')
    (List.cons.inj parts.2).2
  cases kind <;> cases kind' <;> simp [Kind.name] at parts
  all_goals exact ⟨rfl, String.toList_injective parts.1, times⟩

theorem append_lt_append_iff (front a b : List Char) : front ++ a < front ++ b ↔ a < b := by
  induction front with
  | nil => rfl
  | cons head tail ih => simp [ih]

/-- The events of one key are listed in the order of their clocks. -/
theorem auditKey_lt_iff (kind : Kind) (key : String) {nanos nanos' : Nat}
    (below : nanos < clockLimit) (below' : nanos' < clockLimit) :
    auditKey kind key nanos < auditKey kind key nanos' ↔ nanos < nanos' := by
  rw [String.lt_iff_toList_lt, auditKey_toList kind key below, auditKey_toList kind key below',
    append_lt_append_iff]
  have last := Decimal.fixed_lt_iff 20 (fits_of_limit below) (fits_of_limit below')
  simpa [List.cons_lt_cons_iff] using last

end Keys

structure Fleet where
  nodes : Nat → ModerationNode
  store : (kind : Kind) → Table String (Option kind.Record)
  audit : Table String AuditEvent

inductive FleetEvent
  | node (node : Nat) (event : ModerationEvent)
  /-- A request is dropped where it waits. -/
  | stopped (node id : Nat)

inductive FleetNotice
  | node (node : Nat) (notice : ModerationNotice)
  /-- An event is stored under `audit/<kind>/<key>/`. -/
  | audited (node id : Nat) (kind : Kind) (key : String) (nanos : Nat)
  /-- A change is answered 200 with its record. -/
  | answered (node id : Nat) (kind : Kind) (record : kind.Record)

namespace Fleet

def at_ (fleet : Fleet) (node : Nat) : ModerationNode :=
  { fleet.nodes node with store := fleet.store, audit := fleet.audit }

def set (fleet : Fleet) (node : Nat) (after : ModerationNode) : Fleet :=
  { nodes := Function.update fleet.nodes node after, store := after.store, audit := after.audit }

def told (fleet : Fleet) (node : Nat) : ModerationEvent → List FleetNotice
  | .audited id nanos =>
      match (fleet.nodes node).changes id with
      | some task =>
          match task.phase with
          | .auditing record => [.audited node id task.kind (task.kind.key record) nanos]
          | _ => []
      | none => []
  | .applied id =>
      match (fleet.nodes node).changes id with
      | some task =>
          match task.phase with
          | .applying record => [.answered node id task.kind record]
          | _ => []
      | none => []
  | _ => []

def next (fleet : Fleet) : FleetEvent → Option (Fleet × List FleetNotice)
  | .node node event =>
      match (fleet.at_ node).next event with
      | none => none
      | some (after, notices) =>
          some (fleet.set node after, fleet.told node event ++ notices.map (.node node))
  | .stopped node id => some (fleet.set node ((fleet.at_ node).setChange id none), [])

end Fleet

def fleetMachine : Machine Fleet FleetEvent FleetNotice := ⟨Fleet.next⟩

end TdfIrohS3
