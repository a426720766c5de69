import TdfIrohS3.Library.Machine

namespace TdfIrohS3.Library.Machine

variable {State Input Lower Given Notice : Type}
variable {machine : Machine State Input Notice} {below : Machine Lower Given Notice}
variable {allowed : List Notice → Lower → Given → Prop}
variable {before after : List Notice} {first last : Lower} {start : State}

abbrev Free (machine : Machine State Input Notice) : List Notice → State → List Notice → State → Prop :=
  Run machine fun _ _ _ => True

theorem Run.one {log notices : List Notice} {state next : State} {input : Input}
    (taken : machine.next state input = some (next, notices)) :
    machine.Free log state (notices ++ log) next :=
  Run.step Run.refl trivial taken

/-- Each step of the lower machine is matched by any number of steps of the upper one, which say the
same. -/
def Matched (machine : Machine State Input Notice) (below : Machine Lower Given Notice)
    (allowed : List Notice → Lower → Given → Prop) (Shows : Lower → State → Prop) : Prop :=
  ∀ log lower upper input next notices, Shows lower upper → allowed log lower input →
    below.next lower input = some (next, notices) →
    ∃ reached, Shows next reached ∧ machine.Free log upper (notices ++ log) reached

/-- Then every run of the lower machine is a run of the upper one, with the same history. -/
theorem Run.simulates {Shows : Lower → State → Prop}
    (matched : Matched machine below allowed Shows) (shown : Shows first start)
    (run : Run below allowed before first after last) :
    ∃ reached, Shows last reached ∧ machine.Free before start after reached := by
  induction run with
  | refl => exact ⟨start, shown, Run.refl⟩
  | step _ permitted taken ih =>
      obtain ⟨upper, shown, front⟩ := ih
      obtain ⟨reached, shows, back⟩ := matched _ _ _ _ _ _ shown permitted taken
      exact ⟨reached, shows, front.trans back⟩

end TdfIrohS3.Library.Machine
