import Mathlib.Data.String.Basic
import TdfIrohS3.Library.Paging
import TdfIrohS3.Moderation.Reload

namespace TdfIrohS3

open Library

structure Reloading where
  task : ReloadTask
  listing : (kind : Kind) → Paging String (Option kind.Record)

def Reloading.start : Reloading := ⟨⟨fun _ => none⟩, fun _ => .start⟩

/-- A node as the refresh loop sees it: it waits for one reload to end before it starts another. -/
structure RefreshNode where
  view : Moderation
  reloading : Option Reloading

structure Propagation where
  store : (kind : Kind) → Table String (Option kind.Record)
  nodes : Nat → RefreshNode

inductive PropagationEvent
  /-- A body is written, by a node or by hand. -/
  | put (kind : Kind) (key : String) (body : Option kind.Record)
  /-- A node applies the record of a request it has written. -/
  | apply (node : Nat) (kind : Kind) (record : kind.Record)
  /-- The refresh loop of a node ticks. -/
  | tick (node : Nat)
  /-- The next request of a node's listing. -/
  | advance (node : Nat) (size : Nat)
  | install (node : Nat)
  /-- A request fails; the view stays. -/
  | fail (node : Nat)

inductive PropagationNotice
  | began (node : Nat)
  | installed (node : Nat)
  deriving DecidableEq, Repr

namespace Propagation

def setNode (state : Propagation) (node : Nat) (after : RefreshNode) : Propagation :=
  { state with nodes := Function.update state.nodes node after }

theorem setNode_self (state : Propagation) (node : Nat) (after : RefreshNode) :
    (state.setNode node after).nodes node = after :=
  Function.update_self ..

theorem setNode_of_ne (state : Propagation) {node other : Nat} (after : RefreshNode)
    (different : other ≠ node) : (state.setNode node after).nodes other = state.nodes other :=
  Function.update_of_ne different ..

def putBody (state : Propagation) (kind : Kind) (key : String) (body : Option kind.Record) :
    Propagation :=
  { state with store := Function.update state.store kind ((state.store kind).insert key body) }

theorem putBody_self (state : Propagation) (kind : Kind) (key : String)
    (body : Option kind.Record) :
    (state.putBody kind key body).store kind = (state.store kind).insert key body :=
  Function.update_self ..

theorem putBody_of_ne (state : Propagation) {kind other : Kind} (key : String)
    (body : Option kind.Record) (different : other ≠ kind) :
    (state.putBody kind key body).store other = state.store other :=
  Function.update_of_ne different ..

def setReloading (state : Propagation) (node : Nat) (reloading : Option Reloading) : Propagation :=
  state.setNode node { state.nodes node with reloading }

/-- One request of a reload: the kind it lists goes on, or is done and kept. `none` when an object
of the page is gone. -/
def advanced (store : (kind : Kind) → Table String (Option kind.Record)) (reloading : Reloading)
    (kind : Kind) (size : Nat) : Option Reloading :=
  match (reloading.listing kind).advance (store kind) (fun _ => true) size with
  | .going paging => some { reloading with listing := Function.update reloading.listing kind paging }
  | .done found =>
      let kept := Active.collect (found.map Prod.snd)
      some { reloading with
        task := ⟨Function.update reloading.task.collected kind (some kept)⟩ }
  | .missing => none

def next (state : Propagation) : PropagationEvent → Option (Propagation × List PropagationNotice)
  | .put kind key body =>
      -- a node writes a record under the record's own key
      if body.all fun record => kind.key record == key then some (state.putBody kind key body, [])
      else none
  | .apply node kind record =>
      let before := state.nodes node
      some (state.setNode node { before with view := before.view.applyRecord kind record }, [])
  | .tick node =>
      match (state.nodes node).reloading with
      | some _ => none
      | none => some (state.setReloading node (some .start), [.began node])
  | .advance node size =>
      (state.nodes node).reloading.bind fun reloading =>
        reloading.task.pending.map fun kind =>
          (state.setReloading node (advanced state.store reloading kind size), [])
  | .install node =>
      (state.nodes node).reloading.bind fun reloading =>
        reloading.task.view.map fun view => (state.setNode node ⟨view, none⟩, [.installed node])
  | .fail node =>
      (state.nodes node).reloading.map fun _ => (state.setReloading node none, [])

inductive Effect (state : Propagation) :
    PropagationEvent → Propagation → List PropagationNotice → Prop
  | put (kind : Kind) (key : String) (body : Option kind.Record)
      (own : ∀ record, body = some record → kind.key record = key) :
      Effect state (.put kind key body) (state.putBody kind key body) []
  | apply (node : Nat) (kind : Kind) (record : kind.Record) :
      Effect state (.apply node kind record)
        (state.setNode node
          ⟨(state.nodes node).view.applyRecord kind record, (state.nodes node).reloading⟩) []
  | tick (node : Nat) :
      Effect state (.tick node)
        (state.setNode node ⟨(state.nodes node).view, some .start⟩) [.began node]
  | advance (node : Nat) (size : Nat) (reloading : Reloading) (kind : Kind)
      (running : (state.nodes node).reloading = some reloading)
      (pending : reloading.task.pending = some kind) :
      Effect state (.advance node size)
        (state.setNode node
          ⟨(state.nodes node).view, advanced state.store reloading kind size⟩) []
  | install (node : Nat) (reloading : Reloading) (view : Moderation)
      (running : (state.nodes node).reloading = some reloading)
      (complete : reloading.task.view = some view) :
      Effect state (.install node) (state.setNode node ⟨view, none⟩) [.installed node]
  | fail (node : Nat) :
      Effect state (.fail node) (state.setNode node ⟨(state.nodes node).view, none⟩) []

theorem effect_of_next {state after : Propagation} {event : PropagationEvent}
    {notices : List PropagationNotice} (taken : state.next event = some (after, notices)) :
    Effect state event after notices := by
  cases event with
  | put kind key body =>
      simp only [next] at taken
      split at taken
      · rename_i own
        cases taken
        refine Effect.put kind key body ?_
        rintro record rfl
        simpa using own
      · cases taken
  | apply node kind record =>
      cases taken
      exact Effect.apply node kind record
  | tick node =>
      simp only [next] at taken
      split at taken
      · cases taken
      · cases taken
        exact Effect.tick node
  | advance node size =>
      obtain ⟨reloading, running, rest⟩ := Option.bind_eq_some_iff.mp taken
      obtain ⟨kind, pending, same⟩ := Option.map_eq_some_iff.mp rest
      cases same
      exact Effect.advance node size reloading kind running pending
  | install node =>
      obtain ⟨reloading, running, rest⟩ := Option.bind_eq_some_iff.mp taken
      obtain ⟨view, complete, same⟩ := Option.map_eq_some_iff.mp rest
      cases same
      exact Effect.install node reloading view running complete
  | fail node =>
      obtain ⟨reloading, running, same⟩ := Option.map_eq_some_iff.mp taken
      cases same
      exact Effect.fail node

end Propagation

def propagationMachine : Machine Propagation PropagationEvent PropagationNotice :=
  ⟨Propagation.next⟩

namespace Propagation

variable {kind : Kind} {key : String} {body : Option (Option kind.Record)}

/-- What a view has for a key whose stored body is `body`: the record, if it can be read and is not
lifted. -/
def settled (body : Option (Option kind.Record)) : Option kind.Record :=
  body.join.filter fun record => (kind.liftedAt record).isNone

theorem settled_eq_some_iff {record : kind.Record} :
    settled body = some record ↔ body = some (some record) ∧ kind.liftedAt record = none := by
  simp [settled, Option.filter_eq_some_iff, Option.join_eq_some_iff]

section Collected

variable {found : List (String × Option kind.Record)}

/-- Of records listed under their own keys, each key once, a reload keeps for a key the one that is
under it. -/
theorem get_collect_iff (distinct : (found.map Prod.fst).Nodup)
    (keyed : ∀ pair ∈ found, ∀ record, pair.2 = some record → kind.key record = pair.1)
    {record : kind.Record} :
    (Active.collect (found.map Prod.snd)).table.get key = some record ↔
      (key, some record) ∈ found ∧ kind.liftedAt record = none := by
  have sound : ∀ record, (Active.collect (found.map Prod.snd)).table.get key = some record →
      (key, some record) ∈ found ∧ kind.liftedAt record = none := by
    intro record got
    rw [get_collect] at got
    obtain ⟨⟨listed, fresh⟩, own⟩ := lastListed_eq_some kind got
    obtain ⟨⟨name, body⟩, member, rfl⟩ := List.mem_map.mp listed
    have same := keyed _ member record rfl
    rw [← own, same]
    exact ⟨member, fresh⟩
  refine ⟨sound record, ?_⟩
  rintro ⟨member, fresh⟩
  have own := keyed _ member record rfl
  have kept : (Active.collect (found.map Prod.snd)).table.contains key = true :=
    (Active.contains_collect _ _).mpr ⟨record, List.mem_map_of_mem member, fresh, own⟩
  obtain ⟨other, got⟩ := Option.isSome_iff_exists.mp kept
  have same := List.inj_on_of_nodup_map distinct (sound other got).1 member rfl
  rw [got]
  cases same
  rfl

end Collected

structure Sighted (kind : Kind) (key : String) (body : Option (Option kind.Record))
    (paging : Paging String (Option kind.Record)) : Prop where
  exact : paging.Exact (fun _ => true) (fun other => other = key ∧ body.isSome = true)
  keyed : ∀ pair ∈ paging.found, ∀ record, pair.2 = some record → kind.key record = pair.1
  same : ∀ pair ∈ paging.found, pair.1 = key → body = some pair.2

def Keyed (kind : Kind) (table : Table String (Option kind.Record)) : Prop :=
  ∀ key record, table.get key = some (some record) → kind.key record = key

section Reload

variable {paging after : Paging String (Option kind.Record)}
  {table : Table String (Option kind.Record)} {size : Nat}

theorem Sighted.start : Sighted kind key body .start where
  exact := Paging.Exact.start _ _
  keyed := by intro pair member; cases member
  same := by intro pair member; cases member

theorem Sighted.advance (sighted : Sighted kind key body paging) (keyed : Keyed kind table)
    (stored : table.get key = body)
    (moved : paging.advance table (fun _ => true) size = .going after) :
    Sighted kind key body after where
  exact := by
    refine sighted.exact.advance ?_ moved
    rintro other ⟨rfl, present⟩
    rw [Table.contains, stored, present]
  keyed := by
    intro pair member record readable
    rcases Paging.mem_found_advance moved member with old | read
    · exact sighted.keyed pair old record readable
    · exact keyed pair.1 record (readable ▸ read)
  same := by
    intro pair member here
    rcases Paging.mem_found_advance moved member with old | read
    · exact sighted.same pair old here
    · rw [← stored, ← here, read]

theorem Sighted.collected {found : List (String × Option kind.Record)}
    (sighted : Sighted kind key body (.reading [] none found)) :
    (Active.collect (found.map Prod.snd)).table.get key = settled body := by
  apply Option.ext
  intro record
  have distinct : (found.map Prod.fst).Nodup := sighted.exact.found_pairwise.imp ne_of_lt
  rw [get_collect_iff distinct sighted.keyed, settled_eq_some_iff]
  apply and_congr_left
  intro _
  constructor
  · intro member
    exact sighted.same _ member rfl
  · rintro rfl
    have listed := sighted.exact.mem_found_of_kept rfl ⟨rfl, rfl⟩
    obtain ⟨⟨name, value⟩, member, rfl⟩ := List.mem_map.mp listed
    have stored := sighted.same _ member rfl
    cases stored
    exact member

end Reload

structure Current (kind : Kind) (key : String) (body : Option (Option kind.Record))
    (reloading : Reloading) : Prop where
  kept : ∀ active, reloading.task.collected kind = some active →
    active.table.get key = settled body
  listing : reloading.task.collected kind = none →
    Sighted kind key body (reloading.listing kind)

theorem Current.start : Current kind key body .start where
  kept := by intro active kept; cases kept
  listing := fun _ => Sighted.start

theorem pending_none {task : ReloadTask} (pending : task.pending = some kind) :
    task.collected kind = none := by
  have missing := List.find?_some pending
  exact Option.isNone_iff_eq_none.mp missing

theorem Current.advanced {store : (kind : Kind) → Table String (Option kind.Record)}
    {reloading after : Reloading} {other : Kind} {size : Nat}
    (current : Current kind key body reloading) (keyed : Keyed kind (store kind))
    (stored : (store kind).get key = body) (pending : reloading.task.pending = some other)
    (moved : Propagation.advanced store reloading other size = some after) :
    Current kind key body after := by
  unfold Propagation.advanced at moved
  by_cases same : kind = other
  · subst same
    have listing := current.listing (pending_none pending)
    split at moved
    · rename_i paging went
      cases moved
      refine ⟨current.kept, fun _ => ?_⟩
      simpa using listing.advance keyed stored went
    · rename_i found ended
      cases moved
      rw [Paging.advance_done ended] at listing
      refine ⟨?_, ?_⟩
      · intro active kept
        simp only [Function.update_self] at kept
        cases kept
        exact listing.collected
      · intro missing
        simp only [Function.update_self] at missing
        cases missing
    · cases moved
  · split at moved
    · cases moved
      refine ⟨current.kept, fun missing => ?_⟩
      simp only [Function.update_of_ne same]
      exact current.listing missing
    · cases moved
      refine ⟨?_, ?_⟩
      · intro active kept
        simp only [Function.update_of_ne same] at kept
        exact current.kept active kept
      · intro missing
        simp only [Function.update_of_ne same] at missing
        exact current.listing missing
    · cases moved

def Quiet (kind : Kind) (key : String) : PropagationEvent → Prop
  | .put other name _ => ¬ (other = kind ∧ name = key)
  | .apply _ other record => ¬ (other = kind ∧ other.key record = key)
  | _ => True

/-- Some reload of the node began and, after that, one was installed. -/
def Refreshed (node : Nat) (log : List PropagationNotice) : Prop :=
  ∃ newer older, log = newer ++ .began node :: older ∧ .installed node ∈ newer

theorem refreshed_cons {node : Nat} {notice : PropagationNotice} {log : List PropagationNotice}
    (refreshed : Refreshed node (notice :: log)) :
    Refreshed node log ∨ notice = .installed node ∧ .began node ∈ log := by
  obtain ⟨newer, older, history, member⟩ := refreshed
  cases newer with
  | nil => cases member
  | cons newest newer =>
      obtain ⟨rfl, rfl⟩ := List.cons.inj history
      rcases List.mem_cons.mp member with here | there
      · exact .inr ⟨here.symm, by simp⟩
      · exact .inl ⟨newer, older, rfl, there⟩

theorem Refreshed.began {node : Nat} {log : List PropagationNotice} (refreshed : Refreshed node log) :
    .began node ∈ log := by
  obtain ⟨newer, older, rfl, -⟩ := refreshed
  simp

theorem elsewhere {node other : Nat} {notice : PropagationNotice} {log : List PropagationNotice}
    (own : notice = .began node ∨ notice = .installed node) (different : other ≠ node) :
    (.began other ∈ [notice] ++ log → .began other ∈ log) ∧
      (Refreshed other ([notice] ++ log) → Refreshed other log) := by
  refine ⟨?_, ?_⟩
  · intro began
    rcases List.mem_cons.mp began with here | before
    · rcases own with rfl | rfl <;> cases here
      exact absurd rfl different
    · exact before
  · intro refreshed
    rcases refreshed_cons refreshed with before | ⟨here, -⟩
    · exact before
    · rcases own with rfl | rfl <;> cases here
      exact absurd rfl different

structure Converging (kind : Kind) (key : String) (body : Option (Option kind.Record))
    (log : List PropagationNotice) (state : Propagation) : Prop where
  stored : (state.store kind).get key = body
  keyed : Keyed kind (state.store kind)
  current : ∀ node, .began node ∈ log → ∀ reloading,
    (state.nodes node).reloading = some reloading → Current kind key body reloading
  settled_of_refreshed : ∀ node, Refreshed node log →
    ((state.nodes node).view.active kind).table.get key = settled body

section Steps

variable {log : List PropagationNotice} {state : Propagation}

theorem keyed_insert {table : Table String (Option kind.Record)} (keyed : Keyed kind table)
    {name : String} {written : Option kind.Record}
    (own : ∀ record, written = some record → kind.key record = name) :
    Keyed kind (table.insert name written) := by
  intro other record found
  rw [Table.get_insert] at found
  split at found
  · rename_i same
    rw [same]
    exact own record (Option.some.inj found)
  · exact keyed other record found

theorem get_applyRecord_of_quiet (view : Moderation) {other : Kind} {record : other.Record}
    (quiet : ¬ (other = kind ∧ other.key record = key)) :
    ((view.applyRecord other record).active kind).table.get key =
      (view.active kind).table.get key := by
  rw [Moderation.applyRecord_eq]
  by_cases same : kind = other
  · subst same
    have elsewhere : key ≠ kind.key record := fun here => quiet ⟨rfl, here.symm⟩
    rw [Moderation.set_active_self]
    by_cases fresh : kind.liftedAt record = none
    · rw [Active.get_apply_of_unlifted _ fresh, if_neg elsewhere]
    · rw [Active.get_apply_of_lifted _ fresh, if_neg elsewhere]
  · rw [Moderation.set_active_of_ne _ _ same]

theorem Converging.setNode (converging : Converging kind key body log state) {node : Nat}
    {after : RefreshNode} {notices : List PropagationNotice}
    (current : .began node ∈ notices ++ log → ∀ reloading, after.reloading = some reloading →
      Current kind key body reloading)
    (refreshed : Refreshed node (notices ++ log) →
      (after.view.active kind).table.get key = settled body)
    (others : ∀ other, other ≠ node →
      (.began other ∈ notices ++ log → .began other ∈ log) ∧
        (Refreshed other (notices ++ log) → Refreshed other log)) :
    Converging kind key body (notices ++ log) (state.setNode node after) where
  stored := converging.stored
  keyed := converging.keyed
  current := by
    intro other began reloading running
    by_cases same : other = node
    · subst same
      rw [setNode_self] at running
      exact current began reloading running
    · rw [setNode_of_ne _ _ same] at running
      exact converging.current other ((others other same).1 began) reloading running
  settled_of_refreshed := by
    intro other done
    by_cases same : other = node
    · subst same
      rw [setNode_self]
      exact refreshed done
    · rw [setNode_of_ne _ _ same]
      exact converging.settled_of_refreshed other ((others other same).2 done)

theorem converging_step (converging : Converging kind key body log state)
    {event : PropagationEvent} {after : Propagation} {notices : List PropagationNotice}
    (quiet : Quiet kind key event) (effect : Effect state event after notices) :
    Converging kind key body (notices ++ log) after := by
  cases effect with
  | put other name written own =>
      have kept : ((state.putBody other name written).store kind).get key = body ∧
          Keyed kind ((state.putBody other name written).store kind) := by
        by_cases same : kind = other
        · subst same
          have elsewhere : key ≠ name := fun here => quiet ⟨rfl, here.symm⟩
          rw [putBody_self, Table.get_insert_of_ne _ _ elsewhere]
          exact ⟨converging.stored, keyed_insert converging.keyed own⟩
        · rw [putBody_of_ne _ _ _ same]
          exact ⟨converging.stored, converging.keyed⟩
      exact ⟨kept.1, kept.2, converging.current, converging.settled_of_refreshed⟩
  | apply node other record =>
      refine converging.setNode (converging.current node) ?_ fun _ _ => ⟨id, id⟩
      intro done
      rw [get_applyRecord_of_quiet _ quiet]
      exact converging.settled_of_refreshed node done
  | tick node =>
      refine converging.setNode ?_ ?_ ?_
      · intro _ reloading begun
        cases begun
        exact Current.start
      · intro done
        rcases refreshed_cons done with before | ⟨installs, -⟩
        · exact converging.settled_of_refreshed node before
        · cases installs
      · exact fun _ => elsewhere (.inl rfl)
  | advance node size reloading other running pending =>
      refine converging.setNode ?_ (converging.settled_of_refreshed node) fun _ _ => ⟨id, id⟩
      intro began next moved
      exact (converging.current node began reloading running).advanced converging.keyed
        converging.stored pending moved
  | install node reloading view running complete =>
      have collected := ReloadTask.view_active complete kind
      refine converging.setNode ?_ ?_ ?_
      · rintro - next none
        cases none
      · intro done
        have began : .began node ∈ log := by
          rcases refreshed_cons done with before | ⟨-, began⟩
          · exact before.began
          · exact began
        exact (converging.current node began reloading running).kept _ collected
      · exact fun _ => elsewhere (.inr rfl)
  | fail node =>
      refine converging.setNode ?_ (converging.settled_of_refreshed node) fun _ _ => ⟨id, id⟩
      rintro - next none
      cases none

end Steps

end Propagation

open Propagation

/-- Every node that has refreshed since the last change of a key agrees with the store on it: the
record stored, if it can be read and is not lifted, and nothing otherwise. The nodes refresh at
their own pace, over any number of pages, while any other keys are written and applied; the reload
that was in flight when the key last changed may still install what it saw before. -/
theorem refreshed_nodes_agree_with_store (kind : Kind) (key : String) (first last : Propagation)
    (log : List PropagationNotice) (keyed : Keyed kind (first.store kind))
    (run : propagationMachine.Run (fun _ _ event => Quiet kind key event) [] first log last)
    (node : Nat) (newer older : List PropagationNotice)
    (history : log = newer ++ .began node :: older) (installed : .installed node ∈ newer) :
    ((last.nodes node).view.active kind).table.get key = settled ((last.store kind).get key) := by
  have converging : Converging kind key ((first.store kind).get key) log last := by
    refine run.invariant (Converging kind key ((first.store kind).get key)) ?_ ?_
    · refine ⟨rfl, keyed, ?_, ?_⟩
      · intro other began
        cases began
      · intro other refreshed
        cases refreshed.began
    · intro log state event after notices converging quiet taken
      exact converging_step converging quiet (effect_of_next taken)
  rw [converging.stored]
  exact converging.settled_of_refreshed node ⟨newer, older, history, installed⟩

private def blockA : Block where
  hash := "a"
  reason := "spam"
  reportId := none
  by_ := "op"
  at_ := 1
  liftedBy := none
  liftedAt := none

private def blockStored : Propagation where
  store
    | .suspensions => Table.empty
    | .blocks => Table.empty.insert "a" (some blockA)
    | .catalogBlocks => Table.empty
  nodes := fun _ => ⟨Moderation.empty, none⟩

private def oneRefresh : List PropagationEvent :=
  [.tick 1, .advance 1 1, .advance 1 1, .put .blocks "b" none, .advance 1 1, .advance 1 1,
    .advance 1 1, .advance 1 1, .advance 1 1, .advance 1 1, .advance 1 1, .advance 1 1,
    .install 1]

private def quietCheck : PropagationEvent → Bool
  | .put kind name _ => !(decide (kind = .blocks) && name == "a")
  | .apply _ _ _ => false
  | _ => true

private theorem quiet_of_check (event : PropagationEvent) (checked : quietCheck event = true) :
    Quiet .blocks "a" event := by
  cases event with
  | put kind name body =>
      rintro ⟨rfl, rfl⟩
      cases checked
  | apply node kind record => cases checked
  | _ => trivial

private def oneInstalled (log : List PropagationNotice) (_ : Propagation) : Bool :=
  log == [.installed 1, .began 1]

private theorem oneRefresh_executed :
    (propagationMachine.execute (fun _ _ event => quietCheck event) oneRefresh []
      blockStored).map (fun ended => oneInstalled ended.1 ended.2) = some true := by
  decide +kernel

theorem refreshed_node_has_stored_block :
    ∃ log last, propagationMachine.Run (fun _ _ event => Quiet .blocks "a" event) [] blockStored
        log last ∧
      ((last.nodes 1).view.active .blocks).table.get "a" =
        settled ((last.store .blocks).get "a") := by
  obtain ⟨log, last, run, shown⟩ := Machine.execute_reaches (fun _ _ event => quiet_of_check event)
    oneRefresh oneInstalled oneRefresh_executed
  refine ⟨log, last, run, ?_⟩
  refine refreshed_nodes_agree_with_store .blocks "a" blockStored last log ?_ run 1 [.installed 1] []
    (eq_of_beq shown) List.mem_cons_self
  intro key record found
  change (Table.empty.insert "a" (some blockA)).get key = some (some record) at found
  rw [Table.get_insert] at found
  split at found
  · rename_i same
    cases found
    exact same.symm
  · cases found

end TdfIrohS3
