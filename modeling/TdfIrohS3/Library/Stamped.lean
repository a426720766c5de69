import Mathlib.Data.List.Basic

namespace TdfIrohS3.Library

/-- A file as what was written to it, newest first: each version has the stamp its writing gave the
file. A file that was never written is missing. -/
structure Stamped (Stamp Contents : Type) where
  versions : List (Stamp × Contents)

namespace Stamped

variable {Stamp Contents : Type}

def stamp (file : Stamped Stamp Contents) : Option Stamp := file.versions.head?.map Prod.fst

def contents (file : Stamped Stamp Contents) : Option Contents := file.versions.head?.map Prod.snd

def write (file : Stamped Stamp Contents) (stamp : Stamp) (contents : Contents) :
    Stamped Stamp Contents := ⟨(stamp, contents) :: file.versions⟩

def Fresh (file : Stamped Stamp Contents) (stamp : Stamp) : Prop :=
  stamp ∉ file.versions.map Prod.fst

instance [DecidableEq Stamp] (file : Stamped Stamp Contents) (stamp : Stamp) :
    Decidable (file.Fresh stamp) := inferInstanceAs (Decidable (_ ∉ _))

def Seen (file : Stamped Stamp Contents) (mark : Option Stamp) : Prop :=
  ∀ stamp, mark = some stamp → stamp ∈ file.versions.map Prod.fst

/-- While the file has the stamp `mark`, it holds `contents`. -/
def HoldsAt (file : Stamped Stamp Contents) (mark : Option Stamp) (contents : Contents) : Prop :=
  file.stamp = mark → file.contents = some contents

variable {file : Stamped Stamp Contents} {mark : Option Stamp} {stamp : Stamp}
variable {contents written : Contents}

theorem seen_none (file : Stamped Stamp Contents) : file.Seen none := by
  intro stamp impossible
  cases impossible

theorem seen_stamp (file : Stamped Stamp Contents) : file.Seen file.stamp := by
  intro stamp newest
  obtain ⟨version, first, rfl⟩ := Option.map_eq_some_iff.mp newest
  exact List.mem_map.mpr ⟨version, List.mem_of_mem_head? first, rfl⟩

theorem Seen.write (seen : file.Seen mark) (stamp : Stamp) (written : Contents) :
    (file.write stamp written).Seen mark := by
  intro earlier marked
  exact List.mem_cons_of_mem _ (seen earlier marked)

/-- What was just read is held, whatever stamp was seen before the reading. -/
theorem holdsAt_of_read (read : file.contents = some contents) (mark : Option Stamp) :
    file.HoldsAt mark contents := fun _ => read

/-- A write under a fresh stamp ends what a stamp seen before it said. -/
theorem holdsAt_write (seen : file.Seen mark) (fresh : file.Fresh stamp) (written : Contents) :
    (file.write stamp written).HoldsAt mark contents := by
  intro same
  have marked : mark = some stamp := same.symm
  exact absurd (seen stamp marked) fresh

end Stamped

end TdfIrohS3.Library
