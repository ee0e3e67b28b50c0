/-
# What a sweep leaves

A sweep of the in-memory store always succeeds. Of the Apps that it looks at it names those whose
deletion has not been requested, and leaves them; the others lose the finalizer of the platform
agent, and are gone where no other is left. Nothing else changes, and a second sweep names the
same Apps as pending and changes nothing.
-/

import PlatformApps.Proofs.Store.Removal
import PlatformApps.Proofs.Table

namespace PlatformApps

namespace App

/-- Does a sweep for a cluster look at the App? -/
def isSwept (app : App) (id : String) : Bool := app.isOf id && !app.isAgent

/-- Does the finalizer of the platform agent hold the App? -/
def isHeldByAgent (app : App) : Bool := app.finalizers.contains agentFinalizer

/-- An App without the finalizer of the platform agent, its other finalizers in their order. -/
def freed (app : App) : App :=
  { app with metadata := { app.metadata with
      finalizers := some (app.finalizers.filter (· != agentFinalizer)) } }

/-- What a sweep leaves of an App that is being deleted: nothing without other finalizers. -/
def leftover (app : App) : Option App :=
  if app.freed.finalizers = [] then none else some app.freed

/-- What a sweep for a cluster leaves of an App in the namespace. -/
def afterSweep (id : String) (app : App) : Option App :=
  if app.isSwept id && app.isDeleting then app.leftover else some app

variable {app left : App} {id : String}

theorem finalizers_freed (app : App) :
    app.freed.finalizers = app.finalizers.filter (· != agentFinalizer) := rfl

theorem isHeldByAgent_freed (app : App) : app.freed.isHeldByAgent = false := by
  rw [isHeldByAgent, finalizers_freed, Bool.eq_false_iff, Ne, List.contains_iff_mem,
    List.mem_filter]
  exact fun inside => bne_iff_ne.mp inside.2 rfl

/-- The agent holds an App just when it has fewer finalizers without the agent's. -/
theorem length_freed_ne_iff (app : App) :
    (app.freed.finalizers.length != app.finalizers.length) = app.isHeldByAgent := by
  rw [Bool.eq_iff_iff, bne_iff_ne, finalizers_freed, isHeldByAgent, List.contains_iff_mem, Ne,
    List.length_filter_eq_length_iff]
  simp

/-- An App that others hold and the agent does not is free already. -/
theorem freed_eq_self (apart : app.isHeldByAgent = false) (held : app.finalizers ≠ []) :
    app.freed = app := by
  have kept : app.finalizers.filter (· != agentFinalizer) = app.finalizers := by
    rw [List.filter_eq_self]
    intro finalizer inside
    refine bne_iff_ne.mpr fun same => ?_
    rw [isHeldByAgent, ← same, List.contains_iff_mem.mpr inside] at apart
    cases apart
  have listed : app.metadata.finalizers = some app.finalizers := by
    rcases given : app.metadata.finalizers with _ | present
    · refine absurd ?_ held
      rw [App.finalizers, Metadata.finalizerList, given, Option.getD_none]
    · rw [App.finalizers, Metadata.finalizerList, given, Option.getD_some]
  rw [freed, kept, ← listed]

theorem leftover_eq_some_iff :
    app.leftover = some left ↔ app.freed.finalizers ≠ [] ∧ left = app.freed := by
  rw [leftover, Option.ite_none_left_eq_some, Option.some.injEq, @eq_comm _ app.freed]

/-- What a sweep leaves of an App is left by another one as it is. -/
theorem leftover_of_leftover (remains : app.leftover = some left) :
    left.leftover = some left ∧ left.isHeldByAgent = false := by
  obtain ⟨held, rfl⟩ := leftover_eq_some_iff.mp remains
  have apart := isHeldByAgent_freed app
  have still := freed_eq_self apart held
  exact ⟨leftover_eq_some_iff.mpr ⟨by rwa [still], still.symm⟩, apart⟩

theorem name_of_afterSweep (remains : app.afterSweep id = some left) : left.name = app.name := by
  rw [afterSweep] at remains
  split at remains
  · obtain ⟨-, rfl⟩ := leftover_eq_some_iff.mp remains
    rfl
  · rw [Option.some.inj remains]

/-- What is left after a sweep is left by another one as it is, and the agent holds nothing of
it that is being deleted. -/
theorem afterSweep_of_afterSweep (remains : app.afterSweep id = some left) :
    left.afterSweep id = some left ∧
      (left.isSwept id = true → left.isDeleting = true → left.isHeldByAgent = false) := by
  rw [afterSweep] at remains
  split at remains
  · obtain ⟨again, free⟩ := leftover_of_leftover remains
    rw [afterSweep, again, ite_self]
    exact ⟨rfl, fun _ _ => free⟩
  · rename_i spared
    obtain rfl := Option.some.inj remains
    rw [afterSweep, if_neg spared]
    exact ⟨rfl, fun swept deleting => absurd (by rw [swept, deleting]; rfl) spared⟩

end App

namespace Memory

variable {store before after middle : Memory} {space id : String} {app : App}

theorem mem_sweptApps_iff :
    app ∈ store.sweptApps space id ↔
      app.isSwept id = true ∧ ∃ name, store.app? space name = some app := by
  rw [sweptApps, List.mem_filter, mem_appsOf_iff, App.isSwept, Bool.and_eq_true]
  exact and_right_comm

/-- In a store where Apps stand under their names, so do those that a sweep looks at. -/
theorem Filed.found_of_mem_sweptApps (filed : store.Filed)
    (inside : app ∈ store.sweptApps space id) : store.app? space app.name = some app := by
  obtain ⟨-, name, found⟩ := mem_sweptApps_iff.mp inside
  exact (filed found).symm ▸ found

theorem Filed.nodup_names_sweptApps (filed : store.Filed) (space id : String) :
    ((store.sweptApps space id).map App.name).Nodup :=
  (filed.nodup_names space id).sublist (List.filter_sublist.map App.name)

/-- The note of a finalizer that has been taken off. -/
def freedEntry (space name : String) : String := "remove_finalizer " ++ (space ++ "/" ++ name)

/-- The store after the agent's finalizer has been taken off an App that is being deleted. -/
def afterFree (store : Memory) (space : String) (app : App) : Memory :=
  { store with
    apps := match app.leftover with
      | none => store.apps.erase (space, app.name)
      | some left => store.apps.insert (space, app.name) left
    log := store.log ++ if app.isHeldByAgent then [freedEntry space app.name] else [] }

theorem handle_removeAppFinalizer (found : store.app? space app.name = some app)
    (deleting : app.isDeleting = true) :
    store.handle (.removeAppFinalizer space app.name agentFinalizer) =
      (.ok app.isHeldByAgent, store.afterFree space app) := by
  have stripped : withoutFinalizer app agentFinalizer = app.freed := rfl
  simp only [handle, removeAppFinalizer, found, stripped, App.length_freed_ne_iff, deleting,
    Bool.and_true, List.isEmpty_iff, afterFree, App.leftover]
  congr 1
  -- whether an App is left decides about the Apps, and whether it was held about the log
  by_cases gone : app.freed.finalizers = []
  · simp only [gone, if_true]
    cases app.isHeldByAgent with
    | true => rfl
    | false => simp only [Bool.false_eq_true, if_false, List.append_nil]
  · simp only [gone, if_false]
    cases app.isHeldByAgent with
    | true => rfl
    | false => simp only [Bool.false_eq_true, if_false, List.append_nil]

/-- Taking a finalizer off concerns one place. -/
theorem app?_afterFree (store : Memory) (space : String) (app : App)
    (otherSpace name : String) :
    (store.afterFree space app).app? otherSpace name =
      if (otherSpace, name) = (space, app.name) then app.leftover
      else store.app? otherSpace name := by
  rw [app?, afterFree]
  cases app.leftover with
  | none => exact Table.find?_erase _ _ _
  | some left => exact Table.find?_insert _ _ _ _

/-- Those of some Apps that are being deleted and held by the agent. -/
def heldAmong (apps : List App) : List App :=
  apps.filter fun app => app.isDeleting && app.isHeldByAgent

/-- Those of some Apps whose deletion has not been requested. -/
def pendingAmong (apps : List App) : List App := apps.filter fun app => !app.isDeleting

/-- What going through Apps leaves of a store. -/
structure SweptThrough (space : String) (apps : List App) (before after : Memory) : Prop where
  each : ∀ app ∈ apps,
    after.app? space app.name = if app.isDeleting then app.leftover else some app
  others : ∀ ⦃otherSpace name⦄, (otherSpace = space → name ∉ apps.map App.name) →
    after.app? otherSpace name = before.app? otherSpace name
  rest : after = { before with
    apps := after.apps
    log := before.log ++ (heldAmong apps).map fun app => freedEntry space app.name }

theorem pendingAmong_sweptApps (store : Memory) (space id : String) :
    pendingAmong (store.sweptApps space id) =
      (store.apps.toList.filter fun entry =>
        entry.1.1 == space && (entry.2.isSwept id && !entry.2.isDeleting)).map (·.2) := by
  rw [pendingAmong, sweptApps, appsOf, List.filter_map, List.filter_map, List.filter_filter,
    List.filter_filter]
  congr 2
  funext entry
  simp only [Function.comp_apply, App.isSwept]
  cases entry.1.1 == space <;> cases entry.2.isOf id <;> simp [Bool.and_comm]

namespace SweptThrough

variable {apps : List App}

theorem nil (space : String) (store : Memory) : SweptThrough space [] store store where
  each _ inside := nomatch inside
  others _ _ _ := rfl
  rest := by
    rw [heldAmong, List.filter_nil, List.map_nil, List.append_nil]

theorem cons_of_live (through : SweptThrough space apps before after)
    (live : app.isDeleting = false) (found : before.app? space app.name = some app)
    (alone : app.name ∉ apps.map App.name) : SweptThrough space (app :: apps) before after where
  each := by
    refine List.forall_mem_cons.mpr ⟨?_, through.each⟩
    rw [through.others fun _ => alone, found, if_neg (Bool.eq_false_iff.mp live)]
  others _ _ away :=
    through.others fun here inside => away here (List.mem_cons_of_mem _ inside)
  rest := by
    have held : heldAmong (app :: apps) = heldAmong apps := by
      simp [heldAmong, live]
    rw [held]
    exact through.rest

theorem cons_of_deleting (through : SweptThrough space apps (before.afterFree space app) after)
    (deleting : app.isDeleting = true) (alone : app.name ∉ apps.map App.name) :
    SweptThrough space (app :: apps) before after where
  each := by
    refine List.forall_mem_cons.mpr ⟨?_, through.each⟩
    rw [through.others fun _ => alone, app?_afterFree, if_pos rfl, if_pos deleting]
  others otherSpace name away := by
    have different : (otherSpace, name) ≠ (space, app.name) := fun same => by
      obtain ⟨rfl, rfl⟩ := Prod.mk.inj same
      exact away rfl List.mem_cons_self
    rw [through.others fun here inside => away here (List.mem_cons_of_mem _ inside),
      app?_afterFree, if_neg different]
  rest := by
    have held : heldAmong (app :: apps) =
        (if app.isHeldByAgent then [app] else []) ++ heldAmong apps := by
      cases holds : app.isHeldByAgent <;> simp [heldAmong, deleting, holds]
    have noted : (if app.isHeldByAgent then [freedEntry space app.name] else []) =
        (if app.isHeldByAgent then [app] else []).map fun app => freedEntry space app.name := by
      split <;> rfl
    rw [through.rest, afterFree, held, List.map_append, noted, List.append_assoc]

end SweptThrough

end Memory

open Memory

variable {store after : Memory} {space id : String}

/-- Going through Apps that stand under their own names, each one once. -/
theorem run_sweepEach {apps : List App}
    (found : ∀ app ∈ apps, store.app? space app.name = some app)
    (distinct : (apps.map App.name).Nodup) (known : SweepOutcome) :
    ∃ after, (sweepEach space apps known).run Memory.handle store =
        (.ok ⟨known.released ++ (heldAmong apps).map App.name,
          known.pending ++ (pendingAmong apps).map App.name⟩, after) ∧
      SweptThrough space apps store after := by
  induction apps generalizing store known with
  | nil =>
      refine ⟨store, ?_, .nil space store⟩
      simp [sweepEach, heldAmong, pendingAmong]
  | cons app rest ih =>
      obtain ⟨alone, distinct⟩ := List.nodup_cons.mp distinct
      obtain ⟨here, later⟩ := List.forall_mem_cons.mp found
      rw [sweepEach]
      cases deleting : app.isDeleting with
      | false =>
          obtain ⟨after, goesOn, through⟩ := ih later distinct
            { known with pending := known.pending ++ [app.name] }
          refine ⟨after, ?_, through.cons_of_live deleting here alone⟩
          rw [if_neg Bool.false_ne_true, goesOn]
          simp [heldAmong, pendingAmong, deleting]
      | true =>
          have freeing := Dialogue.run_tolerate_of_ok (I := Store)
            (handle_removeAppFinalizer here deleting) Failure.isNotFound false
          have stillFound : ∀ other ∈ rest,
              (store.afterFree space app).app? space other.name = some other := by
            intro other inside
            have different : (space, other.name) ≠ (space, app.name) := fun same =>
              alone ((Prod.mk.inj same).2 ▸ List.mem_map_of_mem inside)
            rw [app?_afterFree, if_neg different, later other inside]
          obtain ⟨after, goesOn, through⟩ := ih stillFound distinct
            (if app.isHeldByAgent then { known with released := known.released ++ [app.name] }
              else known)
          refine ⟨after, ?_, through.cons_of_deleting deleting alone⟩
          rw [if_pos rfl, Dialogue.run_bind_of_ok freeing, goesOn]
          cases holds : app.isHeldByAgent <;> simp [heldAmong, pendingAmong, deleting, holds]

theorem run_sweep (filed : store.Filed) (id space : String) :
    ∃ after, (sweep id space).run Memory.handle store =
        (.ok ⟨(heldAmong (store.sweptApps space id)).map App.name,
          (pendingAmong (store.sweptApps space id)).map App.name⟩, after) ∧
      SweptThrough space (store.sweptApps space id) store after := by
  rw [run_sweep_eq]
  exact run_sweepEach (fun app inside => filed.found_of_mem_sweptApps inside)
    (filed.nodup_names_sweptApps space id) {}

namespace Memory.SweptThrough

/-- Each App of the namespace is left as a sweep leaves it, wherever it stands. -/
theorem app?_eq (through : SweptThrough space (store.sweptApps space id) store after)
    (filed : store.Filed) (otherSpace name : String) :
    after.app? otherSpace name =
      if otherSpace = space then (store.app? space name).bind (App.afterSweep id)
      else store.app? otherSpace name := by
  split
  · rename_i here
    subst here
    cases found : store.app? otherSpace name with
    | none =>
        rw [through.others fun _ inside => ?_, found, Option.bind_none]
        obtain ⟨app, listed, rfl⟩ := List.mem_map.mp inside
        cases found.symm.trans (filed.found_of_mem_sweptApps listed)
    | some app =>
        obtain rfl := filed found
        rw [Option.bind_some, App.afterSweep]
        cases swept : app.isSwept id with
        | true =>
            rw [through.each app (mem_sweptApps_iff.mpr ⟨swept, _, found⟩), Bool.true_and]
        | false =>
            rw [through.others fun _ inside => ?_, found, Bool.false_and,
              if_neg Bool.false_ne_true]
            obtain ⟨other, listed, named⟩ := List.mem_map.mp inside
            have alsoFound := filed.found_of_mem_sweptApps listed
            rw [named, found] at alsoFound
            cases alsoFound
            cases swept.symm.trans (mem_sweptApps_iff.mp listed).1
  · rename_i away
    exact through.others fun here => absurd here away

theorem filed (through : SweptThrough space (store.sweptApps space id) store after)
    (filed : store.Filed) : after.Filed := by
  intro otherSpace name app found
  rw [through.app?_eq filed] at found
  split at found
  · obtain ⟨old, before, remains⟩ := Option.bind_eq_some_iff.mp found
    exact (App.name_of_afterSweep remains).trans (filed before)
  · exact filed found

theorem pendingAmong_eq (through : SweptThrough space (store.sweptApps space id) store after)
    (filed : store.Filed) :
    pendingAmong (after.sweptApps space id) = pendingAmong (store.sweptApps space id) := by
  rw [pendingAmong_sweptApps, pendingAmong_sweptApps]
  congr 1
  refine (after.apps.sorted.filter _).ext (store.apps.sorted.filter _) fun key => ?_
  obtain ⟨otherSpace, name⟩ := key
  rw [Entries.find?_filter after.apps.sorted.nodup_keys,
    Entries.find?_filter store.apps.sorted.nodup_keys]
  change (after.app? otherSpace name).filter _ = (store.app? otherSpace name).filter _
  rw [through.app?_eq filed]
  split
  · rename_i here
    subst here
    cases store.app? otherSpace name with
    | none => rfl
    | some app =>
        rw [Option.bind_some, App.afterSweep]
        split
        · rename_i released
          rw [Bool.and_eq_true] at released
          -- an App that is being deleted is not pending, and neither is what is left of it
          cases remains : app.leftover with
          | none => simp [Option.filter_some, released.2]
          | some left =>
              have still : left.isDeleting = true := by
                obtain ⟨-, rfl⟩ := App.leftover_eq_some_iff.mp remains
                exact released.2
              simp [Option.filter_some, released.2, still]
        · rfl
  · rfl

theorem heldAmong_eq_nil (through : SweptThrough space (store.sweptApps space id) store after)
    (filed : store.Filed) : heldAmong (after.sweptApps space id) = [] := by
  rw [heldAmong, List.filter_eq_nil_iff]
  intro app inside holds
  have found := (through.filed filed).found_of_mem_sweptApps inside
  rw [through.app?_eq filed, if_pos rfl] at found
  obtain ⟨old, -, remains⟩ := Option.bind_eq_some_iff.mp found
  rw [Bool.and_eq_true] at holds
  have free := (App.afterSweep_of_afterSweep remains).2 (mem_sweptApps_iff.mp inside).1 holds.1
  cases free.symm.trans holds.2

/-- A second sweep finds all as it would leave it. -/
theorem eq_of_again (through : SweptThrough space (store.sweptApps space id) store middle)
    (filed : store.Filed)
    (again : SweptThrough space (middle.sweptApps space id) middle after) : after = middle := by
  have apps : after.apps = middle.apps := by
    refine Table.ext fun key => ?_
    obtain ⟨otherSpace, name⟩ := key
    change after.app? otherSpace name = middle.app? otherSpace name
    rw [again.app?_eq (through.filed filed)]
    split
    · rename_i here
      rw [here, through.app?_eq filed, if_pos rfl]
      cases store.app? space name with
      | none => rfl
      | some app =>
          rw [Option.bind_some]
          cases remains : app.afterSweep id with
          | none => rfl
          | some left => exact (App.afterSweep_of_afterSweep remains).1
    · rfl
  rw [again.rest, apps, through.heldAmong_eq_nil filed, List.map_nil, List.append_nil]

end Memory.SweptThrough

/-- A sweep succeeds. It reports as pending the Apps that it looks at whose deletion has not been
requested, and as released those that are being deleted and were held by the agent. Each App of
the namespace is left as it should be, all others stay, and nothing but the log changes beside the
Apps. A second sweep releases nothing, reports the same Apps as pending, and changes nothing. -/
theorem sweep_exact (filed : store.Filed) (id space : String) :
    let swept := store.sweptApps space id
    let pending := (swept.filter fun app => !app.isDeleting).map App.name
    let released := (swept.filter fun app => app.isDeleting && app.isHeldByAgent).map App.name
    ∃ after, (sweep id space).run Memory.handle store = (.ok ⟨released, pending⟩, after) ∧
      (∀ otherSpace name, after.app? otherSpace name =
        if otherSpace = space then (store.app? space name).bind (App.afterSweep id)
        else store.app? otherSpace name) ∧
      after = { store with
        apps := after.apps
        log := store.log ++ released.map (freedEntry space) } ∧
      (sweep id space).run Memory.handle after = (.ok ⟨[], pending⟩, after) := by
  intro swept pending released
  obtain ⟨after, sweeps, through⟩ := run_sweep filed id space
  obtain ⟨settled, sweepsAgain, again⟩ := run_sweep (through.filed filed) id space
  refine ⟨after, sweeps, through.app?_eq filed, ?_, ?_⟩
  · rw [List.map_map]
    exact through.rest
  · rw [sweepsAgain, through.eq_of_again filed again, through.heldAmong_eq_nil filed,
      through.pendingAmong_eq filed]
    rfl

/-- An App of the cluster `demo0` with its finalizers, on its way out or not. -/
def finalized (name chart : String) (isDeleting : Bool) (finalizers : List String) : App where
  metadata := {
    name := some name
    namespace_ := some "org-acme"
    labels := some (.ofList [(Label.cluster, "demo0"), (Label.appName, chart)])
    finalizers := some finalizers
    deletionTimestamp := if isDeleting then some Timestamp.epoch else none }

/-- Apps that are being deleted, one of them the agent, and one that is not. -/
def mixed : Memory :=
  (((({} : Memory).putApp
    (finalized "demo0-app-operator" "app-operator" true [agentFinalizer])).putApp
    (finalized "demo0-coredns" "coredns" true
      [agentFinalizer, "example.com/keep", agentFinalizer])).putApp
    (finalized "demo0-hello" "hello" false [agentFinalizer])).putApp
    (finalized "demo0-nginx" "nginx" true [agentFinalizer])

/-- Two Apps are released, of which one stays for another finalizer. -/
theorem sweep_exact_mixed : mixed.Filed ∧
    ∃ after, (sweep "demo0" "org-acme").run Memory.handle mixed =
        (.ok ⟨["demo0-coredns", "demo0-nginx"], ["demo0-hello"]⟩, after) ∧
      after.app? "org-acme" "demo0-coredns" =
        some (finalized "demo0-coredns" "coredns" true ["example.com/keep"]) ∧
      after.app? "org-acme" "demo0-nginx" = none ∧
      after.app? "org-acme" "demo0-app-operator" =
        mixed.app? "org-acme" "demo0-app-operator" ∧
      (sweep "demo0" "org-acme").run Memory.handle after = (.ok ⟨[], ["demo0-hello"]⟩, after) := by
  have filed : mixed.Filed := (((filed_empty.putApp _).putApp _).putApp _).putApp _
  have pending : ((mixed.sweptApps "org-acme" "demo0").filter fun app => !app.isDeleting).map
      App.name = ["demo0-hello"] := by decide +kernel
  have released : ((mixed.sweptApps "org-acme" "demo0").filter fun app =>
      app.isDeleting && app.isHeldByAgent).map App.name = ["demo0-coredns", "demo0-nginx"] := by
    decide +kernel
  obtain ⟨after, sweeps, left, -, again⟩ := sweep_exact filed "demo0" "org-acme"
  rw [pending, released] at sweeps
  rw [pending] at again
  refine ⟨filed, after, sweeps, ?_, ?_, ?_, again⟩
  · rw [left, if_pos rfl]
    decide +kernel
  · rw [left, if_pos rfl]
    decide +kernel
  · rw [left, if_pos rfl]
    decide +kernel

end PlatformApps
