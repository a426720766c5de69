import TdfIrohS3.Staging.Pending
import TdfIrohS3.Library.Slots

namespace TdfIrohS3

open Library

namespace Staging

variable {Hash : Type}

section Phases

variable {staging after : Staging Hash} {run : Nat}

inductive Moves (staging : Staging Hash) : CollectorRun Hash → CollectorRun Hash → Prop
  | read : Moves staging .started (.listing staging.pending.keys)
  | listed (keep : List Hash) : Moves staging (.listing keep) (.listed keep staging.stored)
  | settled (keep stored : List Hash) :
      Moves staging (.listed keep stored) (.sweeping (keep ++ staging.pending.keys))

inductive RunCame (staging after : Staging Hash) (run : Nat) (phase : CollectorRun Hash) : Prop
  | kept (held : staging.runs run = some phase)
  | started (new : run = staging.nextId) (counted : after.nextId = staging.nextId + 1)
  | moved {before : CollectorRun Hash} (held : staging.runs run = some before)
      (moves : Moves staging before phase)

theorem setRun_runs (staging : Staging Hash) (run other : Nat)
    (phase : Option (CollectorRun Hash)) :
    (staging.setRun run phase).runs other = if other = run then phase else staging.runs other :=
  Function.update_apply _ _ _ _

theorem came_of_moved {other : Nat} {before moved phase : CollectorRun Hash}
    (held : staging.runs other = some before) (moves : Moves staging before moved)
    (came : (staging.setRun other (some moved)).runs run = some phase) :
    RunCame staging after run phase := by
  rcases held_of_fill came with ⟨same, rfl⟩ | came
  · exact .moved (same ▸ held) moves
  · exact .kept came

theorem came_of_ended {other : Nat} {phase : CollectorRun Hash}
    (came : (staging.setRun other none).runs run = some phase) : RunCame staging after run phase := by
  exact .kept (held_of_clear came)

structure InPhase (kind : CollectorRun Hash → Prop) (run : Nat) (staging : Staging Hash) : Prop where
  begun : run < staging.nextId
  phase : ∀ phase, staging.runs run = some phase → kind phase

def FirstKept (found : List Hash → Prop) : CollectorRun Hash → Prop
  | .started => False
  | .listing keep | .listed keep _ => found keep
  | .sweeping _ => True

def BothKept (found : List Hash → Prop) : CollectorRun Hash → Prop
  | .sweeping keep => found keep
  | _ => False

theorem firstKept_closed {found : List Hash → Prop} (staging : Staging Hash)
    (before later : CollectorRun Hash) (kind : FirstKept found before)
    (moves : Moves staging before later) : FirstKept found later := by
  cases moves with
  | read => exact kind.elim
  | listed keep => exact kind
  | settled keep stored => trivial

theorem bothKept_closed {found : List Hash → Prop} (staging : Staging Hash)
    (before later : CollectorRun Hash) (kind : BothKept found before)
    (moves : Moves staging before later) : BothKept found later := by
  cases moves <;> exact kind.elim

def Over (run : Nat) (staging : Staging Hash) : Prop := InPhase (fun _ => False) run staging

theorem Over.none (finished : Over run staging) : staging.runs run = none := by
  cases held : staging.runs run with
  | none => rfl
  | some phase => exact (finished.phase phase held).elim

end Phases

variable [DecidableEq Hash]

def live (guards : List (PendingPush Hash)) (hash : Hash) : Nat :=
  guards.countP fun guard => guard.hash = hash

/-- The stored hashes that a run with this listing would have deleted. -/
def Doomed (staging : Staging Hash) (keep stored : List Hash) : Prop :=
  ∃ hash ∈ stored, hash ∉ keep ∧ staging.isPending hash = false

inductive Effect (staging : Staging Hash) :
    StagingEvent Hash → Staging Hash → List (StagingNotice Hash) → Prop
  | tracked (hash : Hash) :
      Effect staging (.track hash)
        { staging with
          pending := increment staging.pending hash
          guards := ⟨staging.nextId, hash⟩ :: staging.guards
          nextId := staging.nextId + 1 } [.tracked staging.nextId hash]
  | dropped {event : StagingEvent Hash} {id : Nat} {guard : PendingPush Hash}
      {pending : Table Hash Nat} (held : guard ∈ staging.guards)
      (ended : decrement staging.pending guard.hash = some pending) :
      Effect staging event { staging with pending, guards := staging.guards.erase guard }
        [.dropped id guard.hash]
  | underflow {event : StagingEvent Hash} {id : Nat} {guard : PendingPush Hash}
      (held : guard ∈ staging.guards) (failed : decrement staging.pending guard.hash = none) :
      Effect staging event { staging with guards := staging.guards.erase guard } [.underflow id]
  | attached {event : StagingEvent Hash} : Effect staging event { staging with attached := true } []
  | wrote {event : StagingEvent Hash} {stored : List Hash} (grown : staging.stored ⊆ stored) :
      Effect staging event { staging with stored := stored } []
  | started :
      Effect staging .start
        { staging.setRun staging.nextId (some .started) with nextId := staging.nextId + 1 }
        [.started staging.nextId]
  | read {run : Nat} (held : staging.runs run = some .started) :
      Effect staging (.read run) (staging.setRun run (some (.listing staging.pending.keys))) []
  | listed {run : Nat} {keep : List Hash} (held : staging.runs run = some (.listing keep)) :
      Effect staging (.list run true) (staging.setRun run (some (.listed keep staging.stored))) []
  | settled {run : Nat} {keep stored : List Hash}
      (held : staging.runs run = some (.listed keep stored)) (doomed : Doomed staging keep stored) :
      Effect staging (.readAgain run)
        (staging.setRun run (some (.sweeping (keep ++ staging.pending.keys)))) []
  | skipped {event : StagingEvent Hash} {run : Nat} {phase : CollectorRun Hash}
      (held : staging.runs run = some phase) (waiting : ∀ keep, phase ≠ .sweeping keep) :
      Effect staging event (staging.setRun run none) [.skipped run]
  | swept {run : Nat} {keep : List Hash} (held : staging.runs run = some (.sweeping keep)) :
      Effect staging (.sweep run)
        { staging.setRun run none with stored := staging.stored.filter fun h => h ∈ keep }
        ((staging.stored.filter fun h => h ∉ keep).map (.deleted run))

variable {staging after : Staging Hash} {event : StagingEvent Hash}
variable {notices : List (StagingNotice Hash)}

theorem doomed_of_length {keep stored : List Hash}
    (some_ : ¬(stored.filter fun hash => hash ∉ keep ++ staging.pending.keys).length = 0) :
    Doomed staging keep stored := by
  rw [List.length_eq_zero_iff, List.filter_eq_nil_iff] at some_
  push Not at some_
  obtain ⟨hash, member, outside⟩ := some_
  simp only [decide_eq_true_eq, List.mem_append, Table.mem_keys_iff, not_or,
    Bool.not_eq_true] at outside
  exact ⟨hash, member, outside.1, outside.2⟩

theorem drop_effect {id : Nat}
    (taken : staging.next (.drop id) = some (after, notices)) :
    Effect staging (.drop id) after notices := by
  simp only [next] at taken
  split at taken
  · cases taken
  · rename_i guard found
    have held := List.mem_of_find?_eq_some found
    split at taken
    · rename_i failed
      cases taken
      exact .underflow held failed
    · rename_i pending ended
      cases taken
      exact .dropped held ended

theorem run_effect {run : Nat}
    (about : event = .read run ∨ (∃ answered, event = .list run answered) ∨
      event = .readAgain run ∨ event = .taskFailed run ∨ event = .sweep run)
    (taken : staging.next event = some (after, notices)) : Effect staging event after notices := by
  rcases about with rfl | ⟨answered, rfl⟩ | rfl | rfl | rfl <;> simp only [next] at taken
  · split at taken
    · rename_i held
      split at taken
      · cases taken
        exact .read held
      · cases taken
        exact .skipped held (fun _ => nofun)
    · cases taken
  · split at taken
    · rename_i keep held
      split at taken
      · rename_i yes
        cases taken
        subst yes
        exact .listed held
      · cases taken
        exact .skipped held (fun _ => nofun)
    · cases taken
  · split at taken
    · rename_i keep stored held
      simp only [settle] at taken
      split at taken
      · cases taken
        exact .skipped held (fun _ => nofun)
      · rename_i doomed
        cases taken
        exact .settled held (doomed_of_length doomed)
    · cases taken
  · split at taken
    · cases taken
    · cases taken
    · rename_i phase notSweeping held
      cases taken
      exact .skipped held notSweeping
  · split at taken
    · rename_i keep held
      cases taken
      exact .swept held
    · cases taken

theorem machine_effect (taken : (stagingMachine Hash).next staging event = some (after, notices)) :
    Effect staging event after notices := by
  cases event with
  | track hash =>
      cases taken
      exact .tracked hash
  | drop id => exact drop_effect taken
  | attach =>
      cases taken
      exact .attached
  | write hash =>
      simp only [stagingMachine, next] at taken
      split at taken
      · cases taken
        exact .wrote (List.Subset.refl _)
      · cases taken
        exact .wrote (List.subset_cons_self _ _)
  | start =>
      cases taken
      exact .started
  | read run => exact run_effect (.inl rfl) taken
  | list run answered => exact run_effect (.inr (.inl ⟨answered, rfl⟩)) taken
  | readAgain run => exact run_effect (.inr (.inr (.inl rfl))) taken
  | taskFailed run => exact run_effect (.inr (.inr (.inr (.inl rfl)))) taken
  | sweep run => exact run_effect (.inr (.inr (.inr (.inr rfl)))) taken

section Counts

theorem live_cons (guard : PendingPush Hash) (guards : List (PendingPush Hash)) (hash : Hash) :
    live (guard :: guards) hash = live guards hash + if guard.hash = hash then 1 else 0 := by
  simp [live, List.countP_cons]

theorem live_erase {guard : PendingPush Hash} {guards : List (PendingPush Hash)}
    (held : guard ∈ guards) (hash : Hash) :
    live guards hash = live (guards.erase guard) hash + if guard.hash = hash then 1 else 0 := by
  rw [← live_cons]
  exact (List.perm_cons_erase held).countP_eq _

theorem live_pos {guard : PendingPush Hash} {guards : List (PendingPush Hash)}
    (held : guard ∈ guards) : 0 < live guards guard.hash := by
  have counts := live_erase held guard.hash
  rw [if_pos rfl] at counts
  omega

def Counted (staging : Staging Hash) : Prop :=
  ∀ hash, staging.pending.get hash =
    if live staging.guards hash = 0 then none else some (live staging.guards hash)

theorem getD_counted (counted : Counted staging) (hash : Hash) :
    (staging.pending.get hash).getD 0 = live staging.guards hash := by
  rw [counted hash]
  split
  · rename_i none
    exact none.symm
  · rfl

theorem counted_tracked (counted : Counted staging) (hash : Hash) :
    Counted { staging with
      pending := increment staging.pending hash
      guards := ⟨staging.nextId, hash⟩ :: staging.guards
      nextId := staging.nextId + 1 } := by
  intro other
  simp only [live_cons, increment, Table.get_insert, getD_counted counted]
  by_cases same : other = hash
  · subst same
    simp
  · rw [if_neg same, if_neg (Ne.symm same), Nat.add_zero]
    exact counted other

/-- The entry of a held guard counts it, so taking it away does not underflow. -/
theorem get_of_held (counted : Counted staging) {guard : PendingPush Hash}
    (held : guard ∈ staging.guards) :
    staging.pending.get guard.hash = some (live (staging.guards.erase guard) guard.hash + 1) := by
  have positive := live_pos held
  have counts := live_erase held guard.hash
  rw [if_pos rfl] at counts
  rw [counted guard.hash, if_neg (by omega), counts]

theorem counted_dropped (counted : Counted staging) {guard : PendingPush Hash}
    {pending : Table Hash Nat} (held : guard ∈ staging.guards)
    (ended : decrement staging.pending guard.hash = some pending) :
    Counted { staging with pending, guards := staging.guards.erase guard } := by
  simp only [decrement, get_of_held counted held] at ended
  intro other
  by_cases same : other = guard.hash
  · subst same
    split at ended
    · rename_i last
      cases ended
      rw [Table.get_remove_self, if_pos last]
    · rename_i more
      cases ended
      rw [Table.get_insert_self, if_neg more]
  · have counts := live_erase held other
    rw [if_neg (Ne.symm same), Nat.add_zero] at counts
    have kept : pending.get other = staging.pending.get other := by
      split at ended
      · cases ended
        exact Table.get_remove_of_ne _ same
      · cases ended
        exact Table.get_insert_of_ne _ _ same
    rw [kept, counted other, counts]

theorem counted_step (counted : Counted staging) (effect : Effect staging event after notices) :
    Counted after ∧ ∀ id, .underflow id ∉ notices := by
  cases effect with
  | tracked hash => exact ⟨counted_tracked counted hash, by simp⟩
  | dropped held ended => exact ⟨counted_dropped counted held ended, by simp⟩
  | underflow held failed =>
      simp only [decrement, get_of_held counted held] at failed
      split at failed <;> cases failed
  | swept held => exact ⟨counted, by simp⟩
  | _ => exact ⟨counted, by simp⟩

end Counts

section Runs

variable {run : Nat}

theorem effect_run (effect : Effect staging event after notices) {phase : CollectorRun Hash}
    (came : after.runs run = some phase) : RunCame staging after run phase := by
  cases effect with
  | started =>
      simp only [setRun_runs] at came
      split at came
      · rename_i new
        exact .started new rfl
      · exact .kept came
  | read held => exact came_of_moved held .read came
  | listed held => exact came_of_moved held (.listed _) came
  | settled held doomed => exact came_of_moved held (.settled _ _) came
  | skipped held waiting => exact came_of_ended came
  | swept held => exact came_of_ended came
  | _ => exact .kept came

theorem effect_nextId (effect : Effect staging event after notices) :
    staging.nextId ≤ after.nextId := by
  cases effect <;> simp [setRun]

theorem inPhase_step {kind : CollectorRun Hash → Prop}
    (closed : ∀ (staging : Staging Hash) before later, kind before → Moves staging before later →
      kind later)
    (inPhase : InPhase kind run staging) (effect : Effect staging event after notices) :
    InPhase kind run after := by
  refine ⟨Nat.lt_of_lt_of_le inPhase.begun (effect_nextId effect), ?_⟩
  intro phase held
  cases effect_run effect held with
  | kept before => exact inPhase.phase phase before
  | started new counted => exact absurd new (Nat.ne_of_lt inPhase.begun)
  | moved before moves => exact closed staging _ phase (inPhase.phase _ before) moves

theorem over_step (finished : Over run staging) (effect : Effect staging event after notices) :
    Over run after :=
  inPhase_step (fun _ _ _ kind _ => kind) finished effect

theorem deleted_effect {hash : Hash} (effect : Effect staging event after notices)
    (deleted : .deleted run hash ∈ notices) :
    ∃ keep, staging.runs run = some (.sweeping keep) ∧ hash ∉ keep ∧ after.runs run = none := by
  cases effect with
  | swept held =>
      simp only [List.mem_map, List.mem_filter, decide_eq_true_eq] at deleted
      obtain ⟨found, ⟨-, outside⟩, same⟩ := deleted
      cases same
      exact ⟨_, held, outside, by rw [setRun_runs, if_pos rfl]⟩
  | _ => simp at deleted

theorem skipped_effect (effect : Effect staging event after notices)
    (skipped : .skipped run ∈ notices) :
    (∃ phase, staging.runs run = some phase) ∧ after.runs run = none := by
  cases effect with
  | skipped held waiting =>
      cases List.mem_singleton.mp skipped
      exact ⟨⟨_, held⟩, by rw [setRun_runs, if_pos rfl]⟩
  | _ => simp at skipped

structure Past (log : List (StagingNotice Hash)) (staging : Staging Hash) : Prop where
  begun : ∀ run phase, staging.runs run = some phase → run < staging.nextId
  finished : ∀ run, (.skipped run ∈ log ∨ ∃ hash, .deleted run hash ∈ log) → Over run staging

variable {log : List (StagingNotice Hash)}

theorem begun_step (past : Past log staging) (effect : Effect staging event after notices)
    (run : Nat) (phase : CollectorRun Hash) (held : after.runs run = some phase) :
    run < after.nextId := by
  have grown := effect_nextId effect
  cases effect_run effect held with
  | kept before => exact Nat.lt_of_lt_of_le (past.begun run phase before) grown
  | started new counted =>
      rw [new, counted]
      exact Nat.lt_succ_self _
  | moved before moves => exact Nat.lt_of_lt_of_le (past.begun run _ before) grown

theorem over_of_none (past : Past log staging) (effect : Effect staging event after notices)
    {run : Nat} {phase : CollectorRun Hash} (held : staging.runs run = some phase)
    (ended : after.runs run = none) : Over run after := by
  refine ⟨Nat.lt_of_lt_of_le (past.begun run phase held) (effect_nextId effect), ?_⟩
  intro later still
  rw [ended] at still
  cases still

theorem past_step (past : Past log staging) (effect : Effect staging event after notices) :
    Past (notices ++ log) after := by
  refine ⟨begun_step past effect, ?_⟩
  rintro run (skipped | ⟨hash, deleted⟩)
  · rcases List.mem_append.mp skipped with new | old
    · obtain ⟨⟨phase, held⟩, ended⟩ := skipped_effect effect new
      exact over_of_none past effect held ended
    · exact over_step (past.finished run (.inl old)) effect
  · rcases List.mem_append.mp deleted with new | old
    · obtain ⟨keep, held, -, ended⟩ := deleted_effect effect new
      exact over_of_none past effect held ended
    · exact over_step (past.finished run (.inr ⟨hash, old⟩)) effect

def Continues (log : List (StagingNotice Hash)) (staging : Staging Hash) :
    List (StagingNotice Hash) → Staging Hash → Prop :=
  (stagingMachine Hash).Run (fun _ _ _ => True) log staging

variable {hash : Hash} {history : List (StagingNotice Hash)} {last : Staging Hash}

theorem inPhase_continues {kind : CollectorRun Hash → Prop}
    (closed : ∀ (staging : Staging Hash) before later, kind before → Moves staging before later →
      kind later)
    (inPhase : InPhase kind run staging) (on : Continues log staging history last) :
    InPhase kind run last := by
  refine Machine.Run.state_invariant (InPhase kind run) on inPhase ?_
  intro _ state event next notices now _ taken
  exact inPhase_step closed now (machine_effect taken)

/-- A run that keeps a hash after its second read never deletes it. -/
theorem spares (kept : InPhase (BothKept fun keep => hash ∈ keep) run staging)
    (unseen : .deleted run hash ∉ log) (on : Continues log staging history last) :
    .deleted run hash ∉ history := by
  have both := Machine.Run.invariant
    (fun log state => InPhase (BothKept fun keep => hash ∈ keep) run state ∧
      .deleted run hash ∉ log) on ⟨kept, unseen⟩ ?_
  · exact both.2
  intro log state event next notices ⟨now, before⟩ _ taken
  have effect := machine_effect taken
  refine ⟨inPhase_step bothKept_closed now effect, ?_⟩
  intro seen
  rcases List.mem_append.mp seen with new | old
  · obtain ⟨keep, held, outside, -⟩ := deleted_effect effect new
    exact outside (now.phase _ held)
  · exact before old

theorem spares_over (finished : Over run staging) (unseen : .deleted run hash ∉ log)
    (on : Continues log staging history last) : .deleted run hash ∉ history :=
  spares ⟨finished.begun, fun phase held => (finished.phase phase held).elim⟩ unseen on

theorem readAgain_eq
    (taken : (stagingMachine Hash).next staging (.readAgain run) = some (after, notices)) :
    ∃ keep stored, staging.runs run = some (.listed keep stored) ∧
      (after, notices) = staging.settle run (keep ++ staging.pending.keys) stored := by
  simp only [stagingMachine, next] at taken
  split at taken
  · rename_i keep stored held
    exact ⟨keep, stored, held, (Option.some.inj taken).symm⟩
  · cases taken

theorem settle_inPhase (run : Nat) (keep stored : List Hash) (begun : run < staging.nextId)
    {found : List Hash → Prop} (holds : found keep) :
    InPhase (BothKept found) run (staging.settle run keep stored).1 := by
  unfold settle
  split
  · refine ⟨begun, ?_⟩
    intro phase held
    simp only [skip, setRun_runs, if_pos] at held
    cases held
  · refine ⟨begun, ?_⟩
    intro phase held
    simp only [setRun_runs, if_pos] at held
    cases held
    exact holds

theorem settle_notices {keep stored : List Hash} :
    .deleted run hash ∉ (staging.settle run keep stored).2 := by
  unfold settle
  split <;> simp [skip]

end Runs

def EndsRun (staging : Staging Hash) (run : Nat) (event : StagingEvent Hash) : Prop :=
  event = .list run false ∨
    event = .readAgain run ∧ ∀ keep stored, staging.runs run = some (.listed keep stored) →
      ¬Doomed staging keep stored

/-- What holds in a state, with its history, of the pending pushes and of every collector run. -/
structure CollectorSafe (log : List (StagingNotice Hash)) (staging : Staging Hash) : Prop where
  counted : ∀ hash, staging.pending.get hash =
    if live staging.guards hash = 0 then none else some (live staging.guards hash)
  no_underflow : ∀ id, .underflow id ∉ log
  /-- Only a sweep deletes. -/
  deletes : ∀ event after notices hash,
    (stagingMachine Hash).next staging event = some (after, notices) → hash ∈ staging.stored →
    hash ∉ after.stored → ∃ run, event = .sweep run ∧ .deleted run hash ∈ notices
  /-- A guard that is alive at the second read of a run keeps its hash from that run. -/
  spares : ∀ guard ∈ staging.guards, ∀ run after notices history last,
    (stagingMachine Hash).next staging (.readAgain run) = some (after, notices) →
    Continues (notices ++ log) after history last → .deleted run guard.hash ∉ history
  /-- A stored hash that was pending at neither read goes when the run sweeps. -/
  collects : ∀ hash run first firstNotices, staging.isPending hash = false →
    (stagingMachine Hash).next staging (.read run) = some (first, firstNotices) →
    ∀ middle second secondLog secondNotices,
    Continues (firstNotices ++ log) first secondLog middle → middle.isPending hash = false →
    (stagingMachine Hash).next middle (.readAgain run) = some (second, secondNotices) →
    ∀ sweeper sweepLog swept sweepNotices,
    Continues (secondNotices ++ secondLog) second sweepLog sweeper → hash ∈ sweeper.stored →
    (stagingMachine Hash).next sweeper (.sweep run) = some (swept, sweepNotices) →
    hash ∉ swept.stored ∧ .deleted run hash ∈ sweepNotices
  /-- A run that is told to abort deletes nothing. -/
  aborts : ∀ run event after notices history last, EndsRun staging run event →
    (stagingMachine Hash).next staging event = some (after, notices) →
    Continues (notices ++ log) after history last → ∀ hash, .deleted run hash ∉ history

section Safety

variable {log : List (StagingNotice Hash)}

theorem deletes_of_next {hash : Hash}
    (taken : (stagingMachine Hash).next staging event = some (after, notices))
    (stored : hash ∈ staging.stored) (gone : hash ∉ after.stored) :
    ∃ run, event = .sweep run ∧ .deleted run hash ∈ notices := by
  cases machine_effect taken with
  | swept held =>
      refine ⟨_, rfl, ?_⟩
      simp only [List.mem_filter, stored, true_and, decide_eq_true_eq] at gone
      exact List.mem_map.mpr ⟨hash, List.mem_filter.mpr ⟨stored, by simpa using gone⟩, rfl⟩
  | wrote grown => exact absurd (grown stored) gone
  | _ => exact absurd stored gone

/-- The second read leaves the run with what both reads found, or over. -/
theorem second_read (past : Past log staging) {run : Nat}
    (taken : (stagingMachine Hash).next staging (.readAgain run) = some (after, notices)) :
    ∃ keep stored, staging.runs run = some (.listed keep stored) ∧
      (∀ found, found (keep ++ staging.pending.keys) → InPhase (BothKept found) run after) ∧
      ∀ hash, .deleted run hash ∉ notices ++ log := by
  obtain ⟨keep, stored, held, equal⟩ := readAgain_eq taken
  have state : after = (staging.settle run (keep ++ staging.pending.keys) stored).1 :=
    congrArg Prod.fst equal
  have told : notices = (staging.settle run (keep ++ staging.pending.keys) stored).2 :=
    congrArg Prod.snd equal
  refine ⟨keep, stored, held, ?_, ?_⟩
  · intro found holds
    rw [state]
    exact settle_inPhase run _ stored (past.begun run _ held) holds
  · intro hash seen
    rcases List.mem_append.mp seen with new | old
    · exact settle_notices (told ▸ new)
    · have ended := (past.finished run (.inr ⟨hash, old⟩)).none
      rw [held] at ended
      cases ended

theorem first_read (past : Past log staging) {run : Nat} {found : List Hash → Prop}
    (holds : found staging.pending.keys)
    (taken : (stagingMachine Hash).next staging (.read run) = some (after, notices)) :
    InPhase (FirstKept found) run after := by
  simp only [stagingMachine, next] at taken
  split at taken
  · rename_i held
    have begun := past.begun run _ held
    split at taken
    · cases taken
      refine ⟨begun, ?_⟩
      intro phase now
      rw [setRun_runs, if_pos rfl] at now
      cases now
      exact holds
    · cases taken
      refine ⟨begun, ?_⟩
      intro phase now
      rw [setRun_runs, if_pos rfl] at now
      cases now
  · cases taken

theorem pending_of_guard (counted : Counted staging) {guard : PendingPush Hash}
    (alive : guard ∈ staging.guards) : guard.hash ∈ staging.pending.keys := by
  rw [Table.mem_keys_iff, Table.contains, get_of_held counted alive]
  rfl

theorem not_mem_keys {hash : Hash} (idle : staging.isPending hash = false) :
    hash ∉ staging.pending.keys := by
  rw [Table.mem_keys_iff]
  exact Bool.eq_false_iff.mp idle

theorem sweep_eq {run : Nat}
    (taken : (stagingMachine Hash).next staging (.sweep run) = some (after, notices)) :
    ∃ keep, staging.runs run = some (.sweeping keep) ∧
      after.stored = (staging.stored.filter fun h => h ∈ keep) ∧
      notices = (staging.stored.filter fun h => h ∉ keep).map (.deleted run) := by
  simp only [stagingMachine, next] at taken
  split at taken
  · rename_i keep held
    cases taken
    exact ⟨keep, held, rfl, rfl⟩
  · cases taken

theorem endsRun_skips {run : Nat} (ends : EndsRun staging run event)
    (taken : (stagingMachine Hash).next staging event = some (after, notices)) :
    ∃ phase, staging.runs run = some phase ∧ (after, notices) = staging.skip run := by
  rcases ends with rfl | ⟨rfl, nothing⟩
  · simp only [stagingMachine, next] at taken
    split at taken
    · rename_i keep held
      exact ⟨_, held, (Option.some.inj taken).symm⟩
    · cases taken
  · obtain ⟨keep, stored, held, equal⟩ := readAgain_eq taken
    refine ⟨_, held, ?_⟩
    unfold settle at equal
    split at equal
    · exact equal
    · rename_i doomed
      exact absurd (doomed_of_length doomed) (nothing keep stored held)

theorem aborts_of_past (past : Past log staging) {run : Nat} (ends : EndsRun staging run event)
    (taken : (stagingMachine Hash).next staging event = some (after, notices))
    {history : List (StagingNotice Hash)} {last : Staging Hash}
    (on : Continues (notices ++ log) after history last) (hash : Hash) :
    .deleted run hash ∉ history := by
  have effect := machine_effect taken
  obtain ⟨phase, held, skips⟩ := endsRun_skips ends taken
  cases skips
  have finished : Over run (staging.setRun run none) := by
    apply over_of_none past effect held
    rw [setRun_runs, if_pos rfl]
  refine spares_over finished ?_ on
  intro seen
  rcases List.mem_append.mp seen with new | old
  · cases List.mem_singleton.mp new
  · have ended := (past.finished run (.inr ⟨hash, old⟩)).none
    rw [held] at ended
    cases ended

end Safety

section Main

variable {log : List (StagingNotice Hash)}

theorem past_continues {history : List (StagingNotice Hash)} {last : Staging Hash}
    (past : Past log staging) (on : Continues log staging history last) : Past history last := by
  refine Machine.Run.invariant Past on past ?_
  intro log state event next notices now _ taken
  exact past_step now (machine_effect taken)

theorem collects_of_past (past : Past log staging) {hash : Hash} {run : Nat}
    {first middle second sweeper swept : Staging Hash}
    {firstNotices secondLog secondNotices sweepLog sweepNotices : List (StagingNotice Hash)}
    (idle : staging.isPending hash = false)
    (read : (stagingMachine Hash).next staging (.read run) = some (first, firstNotices))
    (on : Continues (firstNotices ++ log) first secondLog middle)
    (idleStill : middle.isPending hash = false)
    (again : (stagingMachine Hash).next middle (.readAgain run) = some (second, secondNotices))
    (onward : Continues (secondNotices ++ secondLog) second sweepLog sweeper)
    (stored : hash ∈ sweeper.stored)
    (sweep : (stagingMachine Hash).next sweeper (.sweep run) = some (swept, sweepNotices)) :
    hash ∉ swept.stored ∧ .deleted run hash ∈ sweepNotices := by
  have started : InPhase (FirstKept fun keep => hash ∉ keep) run first :=
    first_read past (not_mem_keys idle) read
  have waiting := inPhase_continues firstKept_closed started on
  have middlePast := past_continues (past_step past (machine_effect read)) on
  obtain ⟨keep, listing, held, found, -⟩ := second_read middlePast again
  have outside : hash ∉ keep ++ middle.pending.keys := by
    rw [List.mem_append, not_or]
    exact ⟨waiting.phase _ held, not_mem_keys idleStill⟩
  have sweeping := inPhase_continues bothKept_closed (found (fun keep => hash ∉ keep) outside) onward
  obtain ⟨kept, sweeps, left, gone⟩ := sweep_eq sweep
  have lost : hash ∉ kept := sweeping.phase _ sweeps
  constructor
  · rw [left, List.mem_filter]
    exact fun still => lost (of_decide_eq_true still.2)
  · rw [gone]
    exact List.mem_map.mpr ⟨hash, List.mem_filter.mpr ⟨stored, decide_eq_true lost⟩, rfl⟩

/-- Garbage collection never deletes a push in flight, deletes what no push needs, and deletes
nothing in a run that is skipped, whatever the interleaving. -/
theorem collector_safe (stored : List Hash)
    (run : (stagingMachine Hash).Run (fun _ _ _ => True) [] (new stored) log staging) :
    CollectorSafe log staging := by
  have reached : (Counted staging ∧ ∀ id, .underflow id ∉ log) ∧ Past log staging := by
    refine run.invariant
      (fun log staging => (Counted staging ∧ ∀ id, .underflow id ∉ log) ∧ Past log staging) ?_ ?_
    · refine ⟨⟨fun hash => rfl, fun id => List.not_mem_nil⟩, ?_, ?_⟩
      · intro run phase held
        cases held
      · rintro run (skipped | ⟨hash, deleted⟩)
        · cases skipped
        · cases deleted
    · rintro log staging event after notices ⟨⟨counted, clean⟩, past⟩ _ taken
      have effect := machine_effect taken
      have step := counted_step counted effect
      refine ⟨⟨step.1, ?_⟩, past_step past effect⟩
      intro id seen
      rcases List.mem_append.mp seen with new | old
      · exact step.2 id new
      · exact clean id old
  obtain ⟨⟨counted, clean⟩, past⟩ := reached
  refine ⟨counted, clean, fun _ _ _ _ taken => deletes_of_next taken, ?_, ?_, ?_⟩
  · intro guard alive run after notices history last taken on
    obtain ⟨keep, listing, held, found, unseen⟩ := second_read past taken
    have kept := found (fun keep => guard.hash ∈ keep)
      (List.mem_append_right _ (pending_of_guard counted alive))
    exact spares kept (unseen guard.hash) on
  · intro hash run first firstNotices idle read middle second secondLog secondNotices on idleStill
      again sweeper sweepLog swept sweepNotices onward present sweep
    exact collects_of_past past idle read on idleStill again onward present sweep
  · intro run event after notices history last ends taken on hash
    exact aborts_of_past past ends taken on hash

end Main

def pushAndLeftover : List (StagingEvent String) :=
  [.attach, .track "a", .write "a", .write "b", .start, .read 1, .list 1 true]

def sweepAfterDrop (log : List (StagingNotice String)) (staging : Staging String) :
    Option (List (StagingNotice String) × Staging String) :=
  match (stagingMachine String).next staging (.readAgain 1) with
  | none => none
  | some (after, notices) =>
      (stagingMachine String).execute (fun _ _ _ => true) [.drop 0, .sweep 1] (notices ++ log) after

def leftoverSwept (log : List (StagingNotice String)) (staging : Staging String) : Bool :=
  decide (⟨0, "a"⟩ ∈ staging.guards) &&
    (sweepAfterDrop log staging).any fun ended => decide (.deleted 1 "b" ∈ ended.1)

theorem pushAndLeftover_executed :
    ((stagingMachine String).execute (fun _ _ _ => true) pushAndLeftover [] (new [])).map
      (fun ended => leftoverSwept ended.1 ended.2) = some true := by
  decide +kernel

theorem collector_safe_leftover :
    ∃ log staging history last, (stagingMachine String).Run (fun _ _ _ => True) [] (new []) log
        staging ∧
      ⟨0, "a"⟩ ∈ staging.guards ∧ sweepAfterDrop log staging = some (history, last) ∧
      .deleted 1 "b" ∈ history ∧ .deleted 1 "a" ∉ history := by
  obtain ⟨log, staging, run, shown⟩ := Machine.execute_reaches (fun _ _ _ _ => trivial)
    pushAndLeftover leftoverSwept pushAndLeftover_executed
  simp only [leftoverSwept, Bool.and_eq_true, decide_eq_true_eq, Option.any_eq_true] at shown
  obtain ⟨alive, ⟨history, last⟩, swept, deleted⟩ := shown
  refine ⟨log, staging, history, last, run, alive, swept, deleted, ?_⟩
  unfold sweepAfterDrop at swept
  split at swept
  · cases swept
  · rename_i after notices taken
    have on : Continues (notices ++ log) after history last :=
      Machine.execute_run (fun _ _ _ _ => trivial) _ swept
    exact (collector_safe [] run).spares ⟨0, "a"⟩ alive 1 after notices history last taken on

end Staging

end TdfIrohS3
