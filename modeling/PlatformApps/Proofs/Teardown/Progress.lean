/-
# A teardown from its first pass to its last

Between two passes the Apps whose deletion has been requested go, once their finalizers
have been taken off. Each such round reduces the store, so the phase never goes back, and
an App that has been asked to go is not asked again. The main statement is that with the
fourth pass a teardown is done, unless a GitOps controller owns a tenant.
-/

import PlatformApps.Proofs.Teardown.Reentry

namespace PlatformApps

/-- The App whose deletion a call requests. -/
def StoreCall.deletion? : StoreCall → Option ObjectKey
  | .deleteApp space name => some (space, name)
  | _ => none

namespace Memory

variable {store memory : Memory}

/-- The end of all deletions in a namespace that have been requested. -/
def finishDeletions (store : Memory) (space : String) : Memory :=
  (store.apps.keys.filter fun key => key.1 == space).foldl
    (fun store key => store.finishDeletion key.1 key.2) store

theorem app?_finishDeletion (store : Memory) (space name otherSpace otherName : String) :
    (store.finishDeletion space name).app? otherSpace otherName =
      if (otherSpace, otherName) = (space, name) then
        (store.app? space name).filter fun app => !app.isDeleting
      else store.app? otherSpace otherName := by
  rw [finishDeletion]
  cases found : store.app? space name with
  | none =>
      dsimp only
      split
      · rename_i same
        cases same
        exact found
      · rfl
  | some app =>
      dsimp only
      cases deleting : app.isDeleting with
      | false =>
          rw [if_neg Bool.false_ne_true]
          split
          · rename_i same
            cases same
            rw [found, Option.filter_some, deleting]
            rfl
          · rfl
      | true =>
          rw [if_pos rfl, app?, Table.find?_erase, Option.filter_some, deleting]
          rfl

theorem reduced_finishDeletion (store : Memory) (space name : String) :
    Reduced (· = (space, name)) store (store.finishDeletion space name) where
  remains otherSpace otherName app found := by
    rw [app?_finishDeletion] at found
    split at found
    · rename_i same
      cases same
      exact ⟨app, (Option.filter_eq_some_iff.mp found).1, .inl rfl⟩
    · exact ⟨app, found, .inl rfl⟩
  untouched otherSpace otherName away := by
    rw [app?_finishDeletion, if_neg away]
  others := by
    rw [finishDeletion]
    split
    · split <;> rfl
    · rfl

private theorem app?_finishEach (keys : List ObjectKey) (store : Memory) (space name : String) :
    (keys.foldl (fun store key => store.finishDeletion key.1 key.2) store).app? space name =
      if (space, name) ∈ keys then (store.app? space name).filter fun app => !app.isDeleting
      else store.app? space name := by
  induction keys generalizing store with
  | nil => rfl
  | cons key rest ih =>
      rw [List.foldl_cons, ih, app?_finishDeletion]
      by_cases same : (space, name) = key
      · subst same
        rw [if_pos rfl, if_pos List.mem_cons_self, Option.filter_filter]
        simp only [Bool.and_self, ite_self]
      · rw [if_neg same]
        simp only [List.mem_cons, same, false_or]

/-- In one namespace the Apps are left that are not being deleted, in others all are. -/
theorem app?_finishDeletions (store : Memory) (ended space name : String) :
    (store.finishDeletions ended).app? space name =
      if space = ended then (store.app? space name).filter fun app => !app.isDeleting
      else store.app? space name := by
  rw [finishDeletions, app?_finishEach]
  by_cases inside : (space, name) ∈ store.apps.keys.filter fun key => key.1 == ended
  · rw [if_pos inside, if_pos (beq_iff_eq.mp (List.mem_filter.mp inside).2)]
  · rw [if_neg inside]
    split
    · rename_i same
      cases found : store.app? space name with
      | none => rfl
      | some app =>
          have listed : (space, name) ∈ store.apps.keys :=
            List.mem_map.mpr ⟨_, (Table.mem_toList_iff _ _ _).mpr found, rfl⟩
          exact (inside (List.mem_filter.mpr ⟨listed, beq_iff_eq.mpr same⟩)).elim
    · rfl

theorem reduced_finishDeletions (store : Memory) (space : String) :
    Reduced (fun key => key.1 = space) store (store.finishDeletions space) := by
  have each (keys : List ObjectKey) (store : Memory) : Reduced (fun _ => True) store
      (keys.foldl (fun store key => store.finishDeletion key.1 key.2) store) := by
    induction keys generalizing store with
    | nil => exact .refl _ store
    | cons key rest ih =>
        exact ((store.reduced_finishDeletion key.1 key.2).mono fun _ _ => trivial).trans (ih _)
  have whole := each (store.apps.keys.filter fun key => key.1 == space) store
  refine ⟨whole.remains, fun otherSpace name away => ?_, whole.others⟩
  rw [app?_finishDeletions, if_neg away]

/-- Once deletions have ended, no App of the namespace is being deleted. -/
theorem live_of_finishDeletions {space name : String} {app : App}
    (found : (store.finishDeletions space).app? space name = some app) :
    app.isDeleting = false ∧ store.app? space name = some app := by
  rw [app?_finishDeletions, if_pos rfl, Option.filter_eq_some_iff, Bool.not_eq_true'] at found
  exact found.symm

/-- An App stands at a place, and its deletion has not been requested. -/
def isLive (memory : Memory) (key : ObjectKey) : Bool :=
  (memory.app? key.1 key.2).any fun app => !app.isDeleting

theorem isLive_iff {key : ObjectKey} :
    memory.isLive key = true ↔
      ∃ app, memory.app? key.1 key.2 = some app ∧ app.isDeleting = false := by
  rw [isLive, Option.any_eq_true]
  simp only [Bool.not_eq_true']

theorem Reduced.isLive_le {touched : ObjectKey → Prop} {before after : Memory}
    (reduced : Reduced touched before after) (key : ObjectKey) :
    (after.isLive key).toNat ≤ (before.isLive key).toNat := by
  cases live : after.isLive key with
  | false => exact Nat.zero_le _
  | true =>
      obtain ⟨app, found, notDeleting⟩ := isLive_iff.mp live
      obtain ⟨old, foundOld, same | same⟩ := reduced.remains found
      · have liveBefore := isLive_iff.mpr ⟨old, foundOld, same ▸ notDeleting⟩
        exact Nat.le_of_eq (by rw [liveBefore])
      · rw [same, marked_isDeleting] at notDeleting
        cases notDeleting

/-- A live App whose deletion is requested is live no more. -/
theorem isLive_afterDelete (memory : Memory) (space name : String) :
    (memory.afterDelete space name).isLive (space, name) = false := by
  by_contra live
  obtain ⟨app, found, notDeleting⟩ := isLive_iff.mp (Bool.not_eq_false _ ▸ live)
  cases notDeleting.symm.trans (memory.requested_afterDelete space name app found).1

end Memory

namespace Teardown

variable {α : Type} {teardown : Teardown} {memory : Memory}

/-! How often a deletion is requested. -/

/-- A call that changes Apps by requests for deletion only. -/
def OnlyDeletes (call : StoreCall) : Prop :=
  call.writesApps = false ∨ ∃ space name, call = .deleteApp space name

theorem OnlyDeletes.isLive_le {call : StoreCall} (only : OnlyDeletes call) (key : ObjectKey)
    (memory : Memory) :
    ((memory.handle call).2.isLive key).toNat ≤ (memory.isLive key).toNat := by
  rcases only with reads | ⟨space, name, rfl⟩
  · rw [Memory.isLive, Memory.app?, Memory.apps_handle memory reads]
    exact Nat.le_refl _
  · exact (memory.reduced_afterDelete space name).isLive_le key

theorem asks_delete (name : String) : (teardown.delete name).Asks OnlyDeletes :=
  Dialogue.Asks.tolerate (I := Store) (.inr ⟨_, _, rfl⟩) _ _

theorem asks_removeApp (name : String) : (teardown.removeApp name).Asks OnlyDeletes := by
  have finds : (teardown.find? name).Asks OnlyDeletes :=
    (asks_find? name).mono fun _ => .inl
  refine finds.bind fun found => ?_
  cases found with
  | none => trivial
  | some app =>
      have last : ((teardown.find? name).bind fun found =>
          Dialogue.done (.ok found.isSome)).Asks OnlyDeletes := finds.bind fun _ => trivial
      dsimp only
      split
      · exact last
      · exact (asks_delete name).bind fun _ => last

theorem asks_removeOperators : teardown.removeOperators.Asks OnlyDeletes := by
  refine (asks_removeApp teardown.secondTier).bind fun there => ?_
  split
  · trivial
  · refine (asks_removeApp teardown.agent).bind fun there => ?_
    split <;> trivial

theorem asks_deleteTenants (apps : List App) : (teardown.deleteTenants apps).Asks OnlyDeletes := by
  induction apps with
  | nil => trivial
  | cons app rest ih =>
      rw [deleteTenants]
      split
      · exact ih
      · exact (asks_delete app.name).bind fun _ => ih

theorem asks_run : teardown.run.Asks OnlyDeletes := by
  have lists : teardown.tenants.Asks OnlyDeletes := asks_tenants.mono fun _ => .inl
  refine lists.bind fun tenants => ?_
  split
  · exact asks_removeOperators
  · refine (asks_deleteTenants tenants).bind fun _ => lists.bind fun remaining => ?_
    split
    · exact asks_removeOperators
    · trivial

/-- The Apps whose deletion a dialogue requests, in order. -/
def deletions (dialogue : Dialogue Store α) (memory : Memory) : List ObjectKey :=
  (dialogue.questions Memory.handle memory).filterMap StoreCall.deletion?

theorem count_deletions_ask (call : StoreCall)
    (answered : Outcome call.Reply → Dialogue Store α) (memory : Memory) (key : ObjectKey) :
    (deletions (.ask call answered) memory).count key =
      (if call.deletion? = some key then 1 else 0) +
        (deletions (answered (memory.handle call).1) (memory.handle call).2).count key := by
  have unfolded : deletions (.ask call answered) memory =
      call.deletion?.toList ++
        deletions (answered (memory.handle call).1) (memory.handle call).2 := by
    rw [deletions, Dialogue.questions, List.filterMap_cons]
    cases call.deletion? <;> rfl
  rw [unfolded, List.count_append]
  cases call.deletion? with
  | none => rfl
  | some other =>
      rw [Option.toList_some, List.count_singleton]
      simp only [beq_iff_eq, Option.some.injEq]

/-- Where only live Apps are asked to go, each request for one is the end of its life. -/
theorem count_deletions_le {dialogue : Dialogue Store α} (key : ObjectKey)
    (asks : dialogue.Asks OnlyDeletes)
    (live : ∀ before, (StoreCall.deleteApp key.1 key.2, before) ∈
      dialogue.moments Memory.handle memory → before.isLive key = true) :
    (deletions dialogue memory).count key +
        ((dialogue.run Memory.handle memory).2.isLive key).toNat ≤
      (memory.isLive key).toNat := by
  induction dialogue generalizing memory with
  | done outcome => exact Nat.le_of_eq (Nat.zero_add _)
  | ask call answered ih =>
      have rest : (deletions (answered (memory.handle call).1) (memory.handle call).2).count key +
          (((answered (memory.handle call).1).run Memory.handle
            (memory.handle call).2).2.isLive key).toNat ≤
          ((memory.handle call).2.isLive key).toNat :=
        ih _ (asks.2 _) fun before later => live before (List.mem_cons_of_mem _ later)
      have played : (Dialogue.ask call answered).run Memory.handle memory =
          (answered (memory.handle call).1).run Memory.handle (memory.handle call).2 := rfl
      rw [count_deletions_ask, played]
      split
      · rename_i same
        obtain rfl : call = .deleteApp key.1 key.2 := by
          cases call with
          | deleteApp space name => rw [← Option.some.inj same]
          | _ => cases same
        have before : memory.isLive key = true := live memory List.mem_cons_self
        have after : (memory.handle (.deleteApp key.1 key.2)).2.isLive key = false :=
          memory.isLive_afterDelete key.1 key.2
        rw [after] at rest
        rw [before]
        simp only [Bool.toNat_false, Bool.toNat_true] at rest ⊢
        omega
      · have step := asks.1.isLive_le key memory
        omega

/-- What a pass asks to go is live at that moment. -/
theorem live_of_asked {space name : String} {before : Memory} (filed : memory.Filed)
    (asked : (StoreCall.deleteApp space name, before) ∈
      teardown.run.moments Memory.handle memory) : before.isLive (space, name) = true := by
  obtain ⟨rfl, request⟩ := requests_of_asked asked
  rw [Memory.isLive_iff]
  cases request with
  | tenant listed live own => exact ⟨_, found_of_listed filed listed, live⟩
  | secondTier cleared found live => exact ⟨_, found, live⟩
  | agent left cleared gone found live => exact ⟨_, found, live⟩

/-! Rounds: a pass, and then the end of the deletions that it has requested. -/

variable (teardown memory)

/-- The store that a pass finds after a number of rounds. -/
def storeAt : Nat → Memory
  | 0 => memory
  | rounds + 1 =>
    (teardown.run.run Memory.handle (storeAt rounds)).2.finishDeletions teardown.space

/-- What comes of the pass after a number of rounds. -/
def outcomeAt (rounds : Nat) : Outcome TeardownStep :=
  (teardown.run.run Memory.handle (teardown.storeAt memory rounds)).1

/-- The Apps whose deletion that pass requests. -/
def deletionsAt (rounds : Nat) : List ObjectKey :=
  deletions teardown.run (teardown.storeAt memory rounds)

theorem storeAt_succ (rounds : Nat) :
    teardown.storeAt memory (rounds + 1) =
      (teardown.afterRun (teardown.storeAt memory rounds)).finishDeletions teardown.space := by
  rw [storeAt, run_run]

theorem outcomeAt_eq (rounds : Nat) :
    teardown.outcomeAt memory rounds =
      .ok (teardown.stepIn (teardown.afterRun (teardown.storeAt memory rounds))) := by
  rw [outcomeAt, run_run]

/-- A round only takes away and marks. -/
theorem reduced_round (rounds : Nat) :
    Memory.Reduced (fun _ => True) (teardown.afterRun (teardown.storeAt memory rounds))
      (teardown.storeAt memory (rounds + 1)) := by
  rw [storeAt_succ]
  exact (Memory.reduced_finishDeletions _ _).mono fun _ _ => trivial

theorem reduced_storeAt_succ (rounds : Nat) :
    Memory.Reduced (fun _ => True) (teardown.storeAt memory rounds)
      (teardown.storeAt memory (rounds + 1)) :=
  ((teardown.reduced_afterRun _).mono fun _ _ => trivial).trans
    (teardown.reduced_round memory rounds)

theorem reduced_storeAt {rounds later : Nat} (order : rounds ≤ later) :
    Memory.Reduced (fun _ => True) (teardown.storeAt memory rounds)
      (teardown.storeAt memory later) := by
  induction order with
  | refl => exact .refl _ _
  | step _ ih => exact ih.trans (teardown.reduced_storeAt_succ memory _)

variable {teardown memory}

theorem filed_storeAt (filed : memory.Filed) (rounds : Nat) :
    (teardown.storeAt memory rounds).Filed :=
  (teardown.reduced_storeAt memory rounds.zero_le).filed filed

theorem ordinal_stepIn (teardown : Teardown) (memory : Memory) :
    (teardown.stepIn memory).phase.ordinal =
      if teardown.tenantsIn memory ≠ [] then 2
      else if (memory.app? teardown.space teardown.secondTier).isSome then 4
      else if (memory.app? teardown.space teardown.agent).isSome then 6
      else 7 := by
  rw [stepIn]
  split
  · rfl
  · split
    · rfl
    · split <;> rfl

/-- Deletions take a teardown forward. -/
theorem ordinal_stepIn_le_of_reduced {touched : ObjectKey → Prop} {before after : Memory}
    (reduced : Memory.Reduced touched before after) :
    (teardown.stepIn before).phase.ordinal ≤ (teardown.stepIn after).phase.ordinal := by
  have tenants : teardown.tenantsIn before = [] → teardown.tenantsIn after = [] :=
    tenantsIn_eq_nil_of_reduced reduced
  have gone (name : String) (there : (after.app? teardown.space name).isSome = true) :
      (before.app? teardown.space name).isSome = true := by
    by_contra absent
    rw [reduced.absent (Option.not_isSome_iff_eq_none.mp absent)] at there
    cases there
  rw [ordinal_stepIn, ordinal_stepIn]
  by_cases cleared : teardown.tenantsIn before = []
  · rw [if_neg (not_not_intro cleared), if_neg (not_not_intro (tenants cleared))]
    grind
  · rw [if_pos cleared]
    grind

/-- What is being deleted when a pass ends is gone when the next one begins. -/
theorem absent_after_round {rounds : Nat} {name : String}
    (deleting : ∀ app, (teardown.afterRun (teardown.storeAt memory rounds)).app? teardown.space
      name = some app → app.isDeleting = true) :
    (teardown.storeAt memory (rounds + 1)).app? teardown.space name = none := by
  rw [storeAt_succ]
  by_contra there
  obtain ⟨app, found⟩ := Option.ne_none_iff_exists'.mp there
  obtain ⟨live, foundBefore⟩ := Memory.live_of_finishDeletions found
  cases live.symm.trans (deleting app foundBefore)

/-- Where no GitOps controller owns a live tenant, the first round takes all tenants away. -/
theorem cleared_after_first_round (filed : memory.Filed)
    (disowned : ∀ app ∈ teardown.tenantsIn memory, isForeign app.labels = true →
      app.isDeleting = true) :
    teardown.tenantsIn (teardown.storeAt memory 1) = [] := by
  rw [List.eq_nil_iff_forall_not_mem]
  intro app inside
  obtain ⟨tenant, name, found⟩ := mem_tenantsIn_iff.mp inside
  rw [storeAt_succ, storeAt] at found
  obtain ⟨live, foundLeft⟩ := Memory.live_of_finishDeletions found
  have left : app ∈ teardown.tenantsIn (teardown.afterRun memory) :=
    mem_tenantsIn_iff.mpr ⟨tenant, name, foundLeft⟩
  have passedOver := (quiet_afterRun filed).tenants app left
  rw [isPassedOver, live, Bool.false_or] at passedOver
  -- the App has not been marked, so it was there before the pass
  obtain ⟨old, foundOld, same | same⟩ := (teardown.reduced_afterRun memory).remains foundLeft
  · subst same
    have before := disowned app (mem_tenantsIn_iff.mpr ⟨tenant, name, foundOld⟩) passedOver
    cases live.symm.trans before
  · rw [same, Memory.marked_isDeleting] at live
    cases live

theorem count_deletionsAt_le (filed : memory.Filed) (key : ObjectKey) (rounds : Nat) :
    ((List.range rounds).flatMap (teardown.deletionsAt memory)).count key +
        ((teardown.storeAt memory rounds).isLive key).toNat ≤ (memory.isLive key).toNat := by
  induction rounds with
  | zero => exact Nat.le_of_eq (Nat.zero_add _)
  | succ rounds ih =>
      have here := count_deletions_le key teardown.asks_run fun before asked =>
        live_of_asked (teardown.filed_storeAt filed rounds) asked
      have between := (teardown.reduced_round memory rounds).isLive_le key
      rw [run_run] at here
      dsimp only at here
      rw [List.range_succ, List.flatMap_append, List.count_append, List.flatMap_singleton,
        deletionsAt]
      omega

/-- A teardown makes progress. Where no GitOps controller owns a live tenant, the fourth
pass is done at the latest; the phase that passes report never goes back; and however often
the pass is repeated, no App is asked to go twice. -/
theorem progresses (teardown : Teardown) (memory : Memory) (filed : memory.Filed)
    (disowned : ∀ app ∈ teardown.tenantsIn memory, isForeign app.labels = true →
      app.isDeleting = true) :
    (∀ rounds, 3 ≤ rounds → teardown.outcomeAt memory rounds = .ok .done) ∧
      (∀ rounds, ∃ step next, teardown.outcomeAt memory rounds = .ok step ∧
        teardown.outcomeAt memory (rounds + 1) = .ok next ∧
        step.phase.ordinal ≤ next.phase.ordinal) ∧
      ∀ rounds, ((List.range rounds).flatMap (teardown.deletionsAt memory)).Nodup := by
  refine ⟨fun rounds enough => ?_, fun rounds => ?_, fun rounds => ?_⟩
  · have cleared (rounds : Nat) (enough : 1 ≤ rounds) :
        teardown.tenantsIn (teardown.storeAt memory rounds) = [] :=
      tenantsIn_eq_nil_of_reduced (teardown.reduced_storeAt memory enough)
        (cleared_after_first_round filed disowned)
    have left (rounds : Nat) (enough : 1 ≤ rounds) :
        teardown.tenantsIn (teardown.afterRun (teardown.storeAt memory rounds)) = [] :=
      tenantsIn_eq_nil_of_reduced (teardown.reduced_afterRun _) (cleared rounds enough)
    have secondTier : (teardown.storeAt memory 2).app? teardown.space teardown.secondTier = none :=
      absent_after_round ((quiet_afterRun (filed_storeAt filed 1)).secondTier (left 1 (by omega)))
    have secondTierLeft := (teardown.reduced_afterRun _).absent secondTier
    have agent : (teardown.storeAt memory 3).app? teardown.space teardown.agent = none :=
      absent_after_round ((quiet_afterRun (filed_storeAt filed 2)).agent (left 2 (by omega))
        secondTierLeft)
    have sinceSecond := teardown.reduced_storeAt memory (Nat.le_of_succ_le enough)
    have sinceThird := teardown.reduced_storeAt memory enough
    have reduced := teardown.reduced_afterRun (teardown.storeAt memory rounds)
    rw [outcomeAt_eq, stepIn_of_cleared (left rounds (by omega)),
      reduced.absent (sinceSecond.absent secondTier), reduced.absent (sinceThird.absent agent)]
    rfl
  · refine ⟨_, _, teardown.outcomeAt_eq memory rounds,
      teardown.outcomeAt_eq memory (rounds + 1), ?_⟩
    exact ordinal_stepIn_le_of_reduced ((teardown.reduced_round memory rounds).trans
      ((teardown.reduced_afterRun _).mono fun _ _ => trivial))
  · rw [List.nodup_iff_count_le_one]
    intro key
    have bound := teardown.count_deletionsAt_le filed key rounds
    have atMost := (memory.isLive key).toNat_le
    omega

/-- An App that this operator manages and that finalizers hold. -/
def heldOperator (name : String) : App :=
  { managedApp name with
    metadata := { (managedApp name).metadata with finalizers := some [agentFinalizer] } }

/-- A store in which every App of the cluster takes a pass of its own. -/
def heldThroughout : Memory :=
  ((({} : Memory).putApp heldApp).putApp (heldOperator usual.secondTier)).putApp
    (heldOperator usual.agent)

theorem progresses_heldThroughout :
    heldThroughout.Filed ∧
      (∀ app ∈ usual.tenantsIn heldThroughout, isForeign app.labels = true →
        app.isDeleting = true) ∧
      usual.outcomeAt heldThroughout 2 =
        .ok (.suspended .waitingPlatformAgentGone [usual.agent]) ∧
      usual.outcomeAt heldThroughout 3 = .ok .done ∧
      ((List.range 4).flatMap (usual.deletionsAt heldThroughout)).Nodup := by
  have filed : heldThroughout.Filed :=
    ((Memory.filed_empty.putApp heldApp).putApp (heldOperator _)).putApp (heldOperator _)
  have disowned : ∀ app ∈ usual.tenantsIn heldThroughout, isForeign app.labels = true →
      app.isDeleting = true := by
    decide +kernel
  have waits : usual.outcomeAt heldThroughout 2 =
      .ok (.suspended .waitingPlatformAgentGone [usual.agent]) := by
    decide +kernel
  obtain ⟨done, _, once⟩ := progresses usual heldThroughout filed disowned
  exact ⟨filed, disowned, waits, done 3 (Nat.le_refl 3), once 4⟩

end Teardown

end PlatformApps
