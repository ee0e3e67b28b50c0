/-
# Setting version labels, and again

Setting the version label of the Apps of users always succeeds. It patches just those that have
another version and are not being deleted, it keeps all else that their written form holds, and it
leaves all other Apps alone. A second time it finds the same Apps and changes none.
-/

import PlatformApps.Proofs.Convergence

namespace PlatformApps

/-- Is the App one of a cluster that this operator does not manage? -/
def App.isUsers (id : String) (app : App) : Bool := app.isOf id && !isManaged app.labels

/-- Does the App stay, under another version than the given one? -/
def App.isStale (version : String) (app : App) : Bool :=
  !(app.isDeleting || app.labels.find? Label.agentVersion == some version)

/-- The App with the version label, if it is to get one. -/
def App.followed (version : String) (app : App) : App :=
  if app.isStale version then (app.withVersion version).asRead else app

namespace Memory

variable {store before after : Memory} {space id version : String}

/-- The App under a name is being deleted, or it has the version label. -/
def Labelled (store : Memory) (space version name : String) : Prop :=
  ∃ app, store.app? space name = some app ∧
    (app.isDeleting || app.labels.find? Label.agentVersion == some version) = true

theorem Labelled.of_apps_eq {name : String} (labelled : before.Labelled space version name)
    (same : after.apps = before.apps) : after.Labelled space version name := by
  rw [Labelled, app?, same]
  exact labelled

theorem listApps_eq_filter_toList (store : Memory) (space id : String) :
    store.listApps space (unmanagedSelector id) =
      (store.apps.toList.filter fun entry =>
        entry.1.1 == space && entry.2.isUsers id).map (·.2) := by
  have means (app : App) : (unmanagedSelector id).isMatch app.labels = app.isUsers id := by
    simp only [unmanagedSelector, Selector.isMatch, Requirement.holds, List.all_cons,
      List.all_nil, Bool.and_true, App.isUsers, App.isOf, isManaged, bne]
  simp only [listApps, means]

/-- Stores in which the same places hold Apps of users list these under the same names. -/
theorem names_listApps (filedBefore : before.Filed) (filedAfter : after.Filed)
    (same : ∀ name, (after.app? space name).map (App.isUsers id) =
      (before.app? space name).map (App.isUsers id)) :
    (after.listApps space (unmanagedSelector id)).map App.name =
      (before.listApps space (unmanagedSelector id)).map App.name := by
  have places {store : Memory} (filed : store.Filed) :
      (store.listApps space (unmanagedSelector id)).map App.name =
        ((store.apps.toList.filter fun entry =>
          entry.1.1 == space && entry.2.isUsers id).map (·.1)).map (·.2) := by
    rw [listApps_eq_filter_toList, List.map_map, List.map_map]
    refine List.map_congr_left fun entry inside => ?_
    exact filed ((Table.mem_toList_iff _ _ _).mp (List.mem_filter.mp inside).1)
  rw [places filedBefore, places filedAfter]
  refine congrArg _ (Entries.Sorted.keys_ext (after.apps.sorted.filter _)
    (before.apps.sorted.filter _) fun key => ?_)
  rw [Entries.find?_filter after.apps.sorted.nodup_keys,
    Entries.find?_filter before.apps.sorted.nodup_keys]
  have left (found : Option App) :
      (found.filter fun app => key.1 == space && app.isUsers id).isSome =
        (key.1 == space && (found.map (App.isUsers id)).getD false) := by
    cases found with
    | none => simp
    | some app => cases key.1 == space <;> cases users : app.isUsers id <;> simp [users]
  rw [left, left]
  by_cases here : key.1 = space
  · subst here
    exact congrArg (fun users => _ && users.getD false) (same key.2)
  · rw [beq_eq_false_iff_ne.mpr here, Bool.false_and, Bool.false_and]

/-- The Apps of users that are listed stand under their names, each one once. -/
theorem found_of_listApps (filed : store.Filed) (space id : String) :
    (∀ app ∈ store.listApps space (unmanagedSelector id),
      store.app? space app.name = some app ∧ app.isUsers id = true) ∧
      ((store.listApps space (unmanagedSelector id)).map App.name).Nodup := by
  rw [listApps_unmanagedSelector]
  refine ⟨fun app inside => ?_, (filed.nodup_names space id).sublist
    (List.filter_sublist.map App.name)⟩
  obtain ⟨inside, unmanaged⟩ := List.mem_filter.mp inside
  obtain ⟨marks, name, found⟩ := mem_appsOf_iff.mp inside
  refine ⟨(filed found).symm ▸ found, ?_⟩
  rw [App.isUsers, marks, unmanaged]
  rfl

end Memory

/-! The loop. -/

theorem asks_relabelEach {allowed : StoreCall → Prop}
    (patches : ∀ space name patch, allowed (.patchApp space name patch)) (space version : String)
    (apps : List App) : (relabelEach space version apps).Asks allowed := by
  induction apps with
  | nil => trivial
  | cons app rest ih =>
      rw [relabelEach]
      split
      · exact ih
      · exact Dialogue.Asks.bind ⟨patches _ _ _, fun _ => trivial⟩ fun _ =>
          ih.bind fun _ => trivial

section Loop

variable {space id version : String} {app : App}

theorem withVersion_labels (app : App) (version : String) :
    (app.withVersion version).asRead.labels = app.labels.insert Label.agentVersion version := rfl

/-- An App that has got the version label needs no other. -/
theorem isStale_followed (app : App) (version : String) :
    (app.followed version).isStale version = false := by
  cases stale : app.isStale version with
  | true =>
      rw [App.followed, if_pos stale, App.isStale, withVersion_labels, Table.find?_insert,
        if_pos rfl, beq_self_eq_true, Bool.or_true, Bool.not_true]
  | false => rw [App.followed, if_neg (Bool.eq_false_iff.mp stale), stale]

/-- A version label says nothing about whose an App is. -/
theorem isUsers_withVersion (app : App) (version id : String) :
    (app.withVersion version).asRead.isUsers id = app.isUsers id := by
  have others (key : String) (different : key ≠ Label.agentVersion) :
      (app.withVersion version).asRead.labels.find? key = app.labels.find? key := by
    rw [withVersion_labels, Table.find?_insert, if_neg different]
  rw [App.isUsers, App.isUsers, App.isOf, App.isOf, isManaged, isManaged,
    others Label.cluster (by decide), others Label.managedBy (by decide)]

theorem isHeld_of_isUsers (users : app.isUsers id = true) (space : String) :
    app.isHeld id space = false := by
  rw [App.isUsers, Bool.and_eq_true, Bool.not_eq_true'] at users
  rw [App.isHeld, users.2, Bool.and_false, Bool.false_and]

/-- How setting labels may change what stands at a place: not at all, or by the version label of
an App of a user. -/
inductive Memory.Relabels (space id version : String) :
    ObjectKey → Option App → Option App → Prop where
  | stays (place : ObjectKey) (app : Option App) : Relabels space id version place app app
  | labelled {name : String} {app : App} (users : app.isUsers id = true) :
      Relabels space id version (space, name) (some app)
        (some (app.withVersion version).asRead)

/-- What setting the labels of Apps leaves. -/
structure Relabelled (space id version : String) (apps : List App) (before after : Memory) :
    Prop where
  filed : after.Filed
  tended : before.Tended (Memory.Relabels space id version) after
  others : ∀ name, name ∉ apps.map App.name → after.app? space name = before.app? space name
  each : ∀ app ∈ apps, after.app? space app.name = some (app.followed version)

/-- Setting labels leaves alone what this operator manages, and Apps of users remain theirs. -/
theorem Memory.Tended.relabels_eq {before after : Memory}
    (tended : before.Tended (Relabels space id version) after) (name : String) :
    after.heldAt space id name = before.heldAt space id name ∧
      (after.app? space name).map (App.isUsers id) =
        (before.app? space name).map (App.isUsers id) := by
  have each := tended.each space name
  rw [heldAt, heldAt]
  generalize before.app? space name = old, after.app? space name = new at each ⊢
  cases each with
  | stays => exact ⟨rfl, rfl⟩
  | labelled users =>
      have stillUsers := (isUsers_withVersion _ version id).trans users
      simp only [Option.map_some, isHeld_of_isUsers users, isHeld_of_isUsers stillUsers,
        isUsers_withVersion]
      exact ⟨rfl, trivial⟩

namespace Relabelled

variable {apps rest : List App} {before middle after : Memory}

/-- None of the Apps needs another label. -/
theorem labelled (relabelled : Relabelled space id version apps before after) :
    ∀ app ∈ apps, after.Labelled space version app.name := by
  intro app inside
  refine ⟨app.followed version, relabelled.each app inside, ?_⟩
  exact Bool.not_inj (isStale_followed app version)

theorem nil {store : Memory} (filed : store.Filed) :
    Relabelled space id version [] store store where
  filed := filed
  tended := .refl .stays store
  others _ _ := rfl
  each _ inside := nomatch inside

/-- An App that is not to be labelled stays. -/
theorem cons_of_fresh (relabelled : Relabelled space id version rest before after)
    (found : before.app? space app.name = some app) (alone : app.name ∉ rest.map App.name)
    (fresh : app.isStale version = false) :
    Relabelled space id version (app :: rest) before after where
  filed := relabelled.filed
  tended := relabelled.tended
  others name absent := relabelled.others name fun inside => absent (List.mem_cons_of_mem _ inside)
  each := by
    refine List.forall_mem_cons.mpr ⟨?_, relabelled.each⟩
    rw [relabelled.others app.name alone, found, App.followed,
      if_neg (Bool.eq_false_iff.mp fresh)]

/-- One App gets its label, then others get theirs. -/
theorem cons_of_patched {entry : String}
    (put : middle = { before with
      apps := before.apps.insert (space, app.name) (app.withVersion version).asRead }.record entry)
    (relabelled : Relabelled space id version rest middle after)
    (found : before.app? space app.name = some app) (users : app.isUsers id = true)
    (alone : app.name ∉ rest.map App.name) (stale : app.isStale version = true) :
    Relabelled space id version (app :: rest) before after := by
  have here : middle.app? space app.name = some (app.withVersion version).asRead := by
    rw [put, Memory.app?_record_insert, if_pos rfl]
  have elsewhere {otherSpace name : String} (away : (otherSpace, name) ≠ (space, app.name)) :
      middle.app? otherSpace name = before.app? otherSpace name := by
    rw [put, Memory.app?_record_insert, if_neg away]
  have stays : after.app? space app.name = some (app.withVersion version).asRead :=
    (relabelled.others app.name alone).trans here
  refine ⟨relabelled.filed, ⟨fun otherSpace name => ?_, ?_⟩, fun name absent => ?_,
    List.forall_mem_cons.mpr ⟨?_, relabelled.each⟩⟩
  · by_cases same : (otherSpace, name) = (space, app.name)
    · obtain ⟨rfl, rfl⟩ := Prod.mk.inj same
      rw [stays, found]
      exact .labelled users
    · rw [← elsewhere same]
      exact relabelled.tended.each otherSpace name
  · rw [relabelled.tended.others, put, Memory.record]
  · obtain ⟨different, absent⟩ := not_or.mp (mt List.mem_cons.mpr absent)
    rw [relabelled.others name absent, elsewhere fun same => different (Prod.mk.inj same).2]
  · rw [stays, App.followed, if_pos stale]

end Relabelled

theorem relabelEach_cons (space version : String) (app : App) (rest : List App) :
    relabelEach space version (app :: rest) =
      if app.isStale version then
        (Store.patchApp space app.name (versionPatch version)).bind fun _ =>
          (relabelEach space version rest).bind fun others => pure (app.name :: others)
      else relabelEach space version rest := by
  rw [relabelEach, App.isStale]
  cases app.isDeleting || app.labels.find? Label.agentVersion == some version <;> rfl

/-- Setting labels leaves them set. The Apps that need it are patched one after the other. -/
theorem run_relabelEach (version : String) {apps : List App} {store : Memory} (filed : store.Filed)
    (listed : ∀ app ∈ apps, store.app? space app.name = some app ∧ app.isUsers id = true)
    (distinct : (apps.map App.name).Nodup) :
    ∃ after, (relabelEach space version apps).run Memory.handle store =
        (.ok ((apps.filter (App.isStale version)).map App.name), after) ∧
      (relabelEach space version apps).questions Memory.handle store =
        (apps.filter (App.isStale version)).map (fun app =>
          .patchApp space app.name (versionPatch version)) ∧
      Relabelled space id version apps store after := by
  induction apps generalizing store with
  | nil => exact ⟨_, rfl, rfl, .nil filed⟩
  | cons app rest ih =>
      obtain ⟨⟨found, users⟩, listedRest⟩ := List.forall_mem_cons.mp listed
      obtain ⟨alone, distinct⟩ := List.nodup_cons.mp distinct
      rw [relabelEach_cons]
      cases stale : app.isStale version with
      | false =>
          rw [if_neg Bool.false_ne_true, List.filter_cons_of_neg (Bool.eq_false_iff.mp stale)]
          obtain ⟨after, runs, patches, relabelled⟩ := ih filed listedRest distinct
          exact ⟨after, runs, patches, relabelled.cons_of_fresh found alone stale⟩
      | true =>
          rw [if_pos rfl, List.filter_cons_of_pos stale]
          obtain ⟨entry, patched⟩ :=
            Memory.handle_patchApp_of_patched found (patched_versionPatch app version)
          let middle : Memory := { store with
            apps := store.apps.insert (space, app.name) (app.withVersion version).asRead }.record
              entry
          have patching : (Store.patchApp space app.name (versionPatch version)).run
              Memory.handle store = (.ok (), middle) :=
            Dialogue.run_ask_of_answer (I := Store) patched _
          have stillListed : ∀ other ∈ rest, middle.app? space other.name = some other ∧
              other.isUsers id = true := by
            intro other inside
            have away : (space, other.name) ≠ (space, app.name) := fun same =>
              alone ((Prod.mk.inj same).2 ▸ List.mem_map_of_mem inside)
            rw [Memory.app?_record_insert, if_neg away]
            exact listedRest other inside
          have middleFiled : middle.Filed :=
            (filed.insert space (app.withVersion version).asRead).of_apps_eq rfl
          obtain ⟨after, runs, patches, relabelled⟩ := ih middleFiled stillListed distinct
          refine ⟨after, ?_, ?_, .cons_of_patched rfl relabelled found users alone stale⟩
          · rw [Dialogue.run_bind_of_ok patching, Dialogue.run_bind_of_ok runs]
            rfl
          · rw [Dialogue.questions_bind_of_ok patching, Dialogue.questions_bind_of_ok runs,
              patches]
            simp [Store.patchApp, Dialogue.questions]

/-- Where no App needs another label, nothing is asked. -/
theorem relabelEach_of_fresh {apps : List App} (fresh : ∀ app ∈ apps, app.isStale version = false) :
    relabelEach space version apps = pure [] := by
  induction apps with
  | nil => rfl
  | cons app rest ih =>
      obtain ⟨freshFirst, freshRest⟩ := List.forall_mem_cons.mp fresh
      rw [relabelEach_cons, if_neg (Bool.eq_false_iff.mp freshFirst), ih freshRest]

/-- Where all labels are set, setting them changes nothing. -/
theorem ends_relabelEach {apps : List App} {store : Memory}
    (labelled : ∀ app ∈ apps, store.app? space app.name = some app ∧
      store.Labelled space version app.name) :
    (relabelEach space version apps).Ends Memory.handle Memory.Idle store (.ok [], store) := by
  have fresh : ∀ app ∈ apps, app.isStale version = false := by
    intro app inside
    obtain ⟨found, known, foundKnown, fits⟩ := labelled app inside
    cases found.symm.trans foundKnown
    rw [App.isStale, fits, Bool.not_true]
  rw [relabelEach_of_fresh fresh]
  exact .done _ _ _ _

end Loop

end PlatformApps
