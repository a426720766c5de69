import TdfIrohS3.Catalog.Serving
import TdfIrohS3.Catalog.Visibility

namespace TdfIrohS3

open Library

namespace Catalogs

variable {platform : CatalogPlatform}

section Steps

variable {catalogs after : Catalogs platform} {event : CatalogEvent} {id seq size : Nat}
variable {log notices : List CatalogNotice} {sub hash : String} {stored : StoredPointer}

/-- A publish is answered 200 in the step that stores its bundle. -/
theorem published_found (readsBack : BundleReadsBack catalogs event)
    (effect : Effect catalogs event after notices)
    (seen : .published id sub seq hash size ∈ notices) :
    ∃ old body, .replaced id sub old body ∈ notices ∧ Found after sub ⟨body, seq, hash⟩ := by
  cases effect with
  | replaced id outcome task admitted answer held phase expected answers =>
      rcases List.mem_pair.mp seen with same | same
      · rcases answers with rfl | rfl <;> cases same
        have reads := Admitted.storedPointer_bundleBody (readsBack task admitted held phase)
        exact ⟨_, admitted.bundleBody, List.mem_cons_of_mem _ List.mem_cons_self,
          Table.get_insert_self .., storedSeq_of_storedPointer reads⟩
      · cases same
  | getCached => cases attributeKnown_notice _ _ _ _ _ _ seen
  | getRead => cases attributeKnown_notice _ _ _ _ _ _ seen
  | getDecided id devices decision task claims stored fqn answer held phase answers =>
      rcases answers with rfl | ⟨refusal, rfl⟩ <;> simp at seen
  | _ => simp at seen

/-- Every publish answered 200 is stored, or a newer one is. -/
structure Acknowledged (sub : String) (log : List CatalogNotice) (catalogs : Catalogs platform) :
    Prop where
  current : Current sub log catalogs
  complete : Complete log catalogs
  published : ∀ id seq hash size, .published id sub seq hash size ∈ log → ∃ old body,
    .replaced id sub old body ∈ log ∧ storedSeq platform.toFormats body = some (seq, hash) ∧
      NotBefore sub ⟨body, seq, hash⟩ catalogs

theorem acknowledged_step (etags : Function.Injective platform.etag)
    (collisionFree : Function.Injective platform.blake3) (acknowledged : Acknowledged sub log catalogs)
    (readsBack : ReadsBack catalogs event) (effect : Effect catalogs event after notices) :
    Acknowledged sub (notices ++ log) after where
  current := current_step etags acknowledged.current readsBack.1 effect
  complete := complete_step collisionFree acknowledged.complete readsBack effect
  published := by
    intro id seq hash size seen
    rcases List.mem_append.mp seen with here | there
    · obtain ⟨old, body, replaced, found⟩ := published_found readsBack.1 effect here
      exact ⟨old, body, List.mem_append_left _ replaced, found.reads, notBefore_of_found found⟩
    · obtain ⟨old, body, replaced, reads, kept⟩ := acknowledged.published id seq hash size there
      exact ⟨old, body, List.mem_append_right _ replaced, reads,
        notBefore_step etags acknowledged.current.rising readsBack.1 effect kept⟩

theorem Current.floored (current : Current sub log catalogs) (kept : NotBefore sub stored catalogs) :
    Floored sub stored catalogs.nextId log catalogs where
  rising := current.rising
  stored := kept
  held := fun id task _ late inFlight =>
    absurd (current.ids id task inFlight) (Nat.not_lt.mpr late)
  served := fun id _ late seen => absurd (current.servedIds id _ seen) (Nat.not_lt.mpr late)

theorem acknowledged_of_empty (empty : Empty catalogs) : Acknowledged sub [] catalogs where
  current := by
    refine current_of_idle empty.idle ?_
    intro body seq hash stored
    rw [empty.pointers] at stored
    cases stored
  complete := complete_of_empty empty
  published := nofun

theorem Complete.getPointer_found (complete : Complete log catalogs)
    (found : Found catalogs sub stored) {node : Nat} {reader : Reader}
    (permitted : Permitted (catalogs.nodes node) reader)
    (shown : (catalogs.nodes node).ownerHidden (some sub) = false)
    (free : (catalogs.nodes node).isBlocked stored.hash = false) :
    getPointer platform.toFormats (catalogs.nodes node) catalogs.bucket sub reader = .ok stored := by
  obtain ⟨job, -, reads, kept⟩ := complete.pointers sub stored.body found.body
  obtain ⟨-, named⟩ :=
    Prod.mk.inj (Option.some.inj ((storedSeq_of_storedPointer reads).symm.trans found.reads))
  obtain ⟨index, indexed⟩ := Option.isSome_iff_exists.mp kept.index
  obtain ⟨record, -, parsed, -⟩ := complete.indexes _ index indexed
  have valid : validIdentifier sub maxOwnerBytes = true :=
    job.owned ▸ (parsePointer_wellFormed job.parsed).owner
  have resolved : resolvePointer platform.toFormats (catalogs.nodes node)
      (catalogs.bucket.pointers.get sub) = .ok stored := by
    rw [found.body]
    simp only [resolvePointer, found.reads, free]
    rfl
  have known : (catalogAttribute platform.toFormats (catalogs.nodes node) catalogs.bucket
      stored.hash).toOption.isSome = true := by
    rw [named] at indexed
    rw [catalogAttribute_isSome indexed, parsed]
    exact Bool.or_true _
  rw [getPointer_permitted permitted valid, shown, resolved]
  cases fqn : catalogAttribute platform.toFormats (catalogs.nodes node) catalogs.bucket stored.hash with
  | ok _ => simp [Except.map, fqn]
  | error _ => simp [fqn, Except.toOption] at known

end Steps

/-- A publish that was answered 200 is kept and can be read. From then on the bundle it wrote is
stored for its subject, or a newer one; every node that hides neither the creator nor that catalog
answers every permitted reader with what is stored; and no read received later is served an older
bundle. -/
theorem acknowledged_publish_is_served (etags : Function.Injective platform.etag)
    (collisionFree : Function.Injective platform.blake3) {start catalogs : Catalogs platform}
    {log : List CatalogNotice} (empty : Empty start)
    (run : (catalogMachine platform).Run (fun _ catalogs event => ReadsBack catalogs event) [] start
      log catalogs)
    {id seq size : Nat} {sub hash : String} (answered : .published id sub seq hash size ∈ log) :
    ∃ old body, .replaced id sub old body ∈ log ∧
      storedSeq platform.toFormats body = some (seq, hash) ∧
      (∃ stored, Found catalogs sub stored ∧ AtLeast ⟨body, seq, hash⟩ stored ∧
        ∀ node reader, Permitted (catalogs.nodes node) reader →
          (catalogs.nodes node).ownerHidden (some sub) = false →
          (catalogs.nodes node).isBlocked stored.hash = false →
          getPointer platform.toFormats (catalogs.nodes node) catalogs.bucket sub reader =
            .ok stored ∧
          ∃ received, (catalogMachine platform).next catalogs (.get node sub reader.headers) =
              some (received, []) ∧
            ∃ history after,
              (catalogMachine platform).Run (fun _ _ _ => True) [] received history after ∧
              .served catalogs.nextId sub stored ∈ history) ∧
      ∀ history later,
        (catalogMachine platform).Run (fun _ catalogs event => ReadsBack catalogs event) log catalogs
          history later →
        ∀ reading again, catalogs.nextId ≤ reading → .served reading sub again ∈ history →
          AtLeast ⟨body, seq, hash⟩ again := by
  have acknowledged : Acknowledged sub log catalogs := by
    apply run.invariant (Acknowledged sub) (acknowledged_of_empty empty)
    intro log state input next notices acknowledged readsBack taken
    exact acknowledged_step etags collisionFree acknowledged readsBack (machine_effect taken)
  obtain ⟨old, body, replaced, reads, kept⟩ := acknowledged.published id seq hash size answered
  refine ⟨old, body, replaced, reads, ?_, ?_⟩
  · obtain ⟨stored, found, newer⟩ := kept
    refine ⟨stored, found, newer, ?_⟩
    intro node reader permitted shown free
    have read := acknowledged.complete.getPointer_found found permitted shown free
    obtain ⟨received, asked, history, after, reading, answer⟩ :=
      getPointer_answered catalogs node sub reader
    rw [read] at answer
    exact ⟨read, received, asked, history, after, reading, answer⟩
  · intro history later rest
    have floored : Floored sub ⟨body, seq, hash⟩ catalogs.nextId history later := by
      apply rest.invariant (Floored sub ⟨body, seq, hash⟩ catalogs.nextId)
        (acknowledged.current.floored kept)
      intro log state input next notices floored readsBack taken
      exact floored_step etags floored readsBack.1 (machine_effect taken)
    exact floored.served

private def firstPublished (log : List CatalogNotice) (catalogs : Catalogs samplePlatform) : Bool :=
  decide (.published 0 sampleSub 1 sampleHash 32 ∈ log) &&
    (readerChain (catalogs.nodes 0) sampleToken sampleReader []).toOption.isSome &&
    !(catalogs.nodes 0).ownerHidden (some sampleSub) &&
    decide (catalogs.bucket.pointers.get sampleSub = some [11]) &&
    decide (storedSeq samplePlatform.toFormats [11] = some (1, sampleHash)) &&
    !(catalogs.nodes 0).isBlocked sampleHash

private theorem firstPublished_executed :
    ((catalogMachine samplePlatform).execute (fun _ catalogs event => readsBackCheck catalogs event)
      (sampleChecks 0 [] [21] ++ sampleWrites 0) [] sampleCatalogs).map
      (fun ended => firstPublished ended.1 ended.2) = some true := by
  decide +kernel

theorem acknowledged_publish_is_served_at_once :
    ∃ log catalogs,
      (catalogMachine samplePlatform).Run (fun _ catalogs event => ReadsBack catalogs event) []
        sampleCatalogs log catalogs ∧
      .published 0 sampleSub 1 sampleHash 32 ∈ log ∧
      getPointer samplePlatform.toFormats (catalogs.nodes 0) catalogs.bucket sampleSub sampleReading =
        .ok (sampleStored 1 [11]) := by
  obtain ⟨log, catalogs, run, shown⟩ := Machine.execute_reaches (fun _ _ _ => readsBack_of_check)
    (sampleChecks 0 [] [21] ++ sampleWrites 0) firstPublished firstPublished_executed
  simp only [firstPublished, Bool.and_eq_true, decide_eq_true_eq, Bool.not_eq_true'] at shown
  obtain ⟨⟨⟨⟨⟨published, chain⟩, visible⟩, pointer⟩, reads⟩, free⟩ := shown
  obtain ⟨-, -, -, -, ⟨stored, found, -, answers⟩, -⟩ := acknowledged_publish_is_served
    Text.hexEncode_injective Function.injective_id sampleCatalogs_empty run published
  -- what is stored is the bundle that was published
  obtain ⟨body, seq, hash⟩ := stored
  obtain rfl : body = [11] := Option.some.inj (found.body.symm.trans pointer)
  obtain ⟨rfl, rfl⟩ := Prod.mk.inj (Option.some.inj (found.reads.symm.trans reads))
  exact ⟨log, catalogs, run, published,
    (answers 0 sampleReading (sampleReading_permitted chain) visible free).1⟩

end Catalogs

end TdfIrohS3
