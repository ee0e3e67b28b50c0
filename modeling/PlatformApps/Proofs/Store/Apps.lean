/-
# The Apps of the in-memory store

What a request for deletion does to the Apps of a store and what it leaves alone. `Filed`
says that every App stands under its own name. It is the one restriction that statements about
passes put on the state of a store in general, and it excludes no state that comes about: the empty
store meets it, and every call keeps it but a patch that renames an App, which no pass asks for.
`Reduced` says that a store differs from an earlier one by deletions only, and `Tended` that Apps
have been written only.
-/

import PlatformApps.Convergence
import PlatformApps.Store.Memory

namespace PlatformApps

/-- Does the label of a cluster mark the App? -/
def App.isOf (app : App) (id : String) : Bool := app.labels.find? Label.cluster == some id

namespace Memory

@[simp] theorem missing_isNotFound (kind space name : String) :
    (missing kind space name).isNotFound = true := rfl

section Marked

variable (app : App) (now later : Timestamp)

theorem marked_eq_ite :
    marked app now =
      if app.isDeleting then app
      else { app with metadata := { app.metadata with deletionTimestamp := some now } } := rfl

@[simp] theorem marked_name : (marked app now).name = app.name := by
  rw [marked_eq_ite]
  split <;> rfl

@[simp] theorem marked_labels : (marked app now).labels = app.labels := by
  rw [marked_eq_ite]
  split <;> rfl

@[simp] theorem marked_isDeleting : (marked app now).isDeleting = true := by
  rw [marked_eq_ite]
  split
  · assumption
  · rfl

theorem marked_of_isDeleting {app : App} (deleting : app.isDeleting = true) :
    marked app now = app := by
  rw [marked_eq_ite, if_pos deleting]

/-- The first mark stays. -/
@[simp] theorem marked_marked : marked (marked app now) later = marked app now :=
  marked_of_isDeleting later (marked_isDeleting app now)

end Marked

/-- What a request for its deletion leaves of an App: nothing, unless finalizers hold it. -/
def remainder (app : App) (now : Timestamp) : Option App :=
  if app.finalizers.isEmpty then none else some (marked app now)

variable (store : Memory)

/-- The store after a request for the deletion of an App. -/
def afterDelete (space name : String) : Memory := (store.deleteApp space name).2

variable {store}

theorem handle_getApp_of_found {space name : String} {app : App}
    (found : store.app? space name = some app) :
    handle (.getApp space name) store = (.ok app, store) := by
  rw [handle, found]
  rfl

theorem handle_getApp_of_absent {space name : String} (absent : store.app? space name = none) :
    handle (.getApp space name) store = (.error (missing "App" space name), store) := by
  rw [handle, absent]
  rfl

theorem handle_deleteApp_of_found {space name : String} {app : App}
    (found : store.app? space name = some app) :
    handle (.deleteApp space name) store = (.ok (), store.afterDelete space name) := by
  simp only [handle, afterDelete, deleteApp, found]

theorem handle_deleteApp_of_absent {space name : String}
    (absent : store.app? space name = none) :
    handle (.deleteApp space name) store = (.error (missing "App" space name), store) := by
  simp only [handle, deleteApp, absent]

theorem afterDelete_of_absent {space name : String} (absent : store.app? space name = none) :
    store.afterDelete space name = store := by
  simp [afterDelete, deleteApp, absent]

theorem apps_afterDelete_of_found {space name : String} {app : App}
    (found : store.app? space name = some app) :
    (store.afterDelete space name).apps =
      if app.finalizers.isEmpty then store.apps.erase (space, name)
      else store.apps.insert (space, name) (marked app store.now) := by
  simp only [afterDelete, deleteApp, found, record]

/-- A request for deletion concerns one App. -/
theorem app?_afterDelete (space name otherSpace otherName : String) :
    (store.afterDelete space name).app? otherSpace otherName =
      if (otherSpace, otherName) = (space, name) then
        (store.app? space name).bind fun app => remainder app store.now
      else store.app? otherSpace otherName := by
  cases found : store.app? space name with
  | none =>
      rw [afterDelete_of_absent found]
      split
      · simp_all
      · rfl
  | some app =>
      rw [app?, apps_afterDelete_of_found found, Option.bind_some, remainder]
      split
      · exact Table.find?_erase _ _ _
      · exact Table.find?_insert _ _ _ _

theorem app?_afterDelete_self (space name : String) :
    (store.afterDelete space name).app? space name =
      (store.app? space name).bind fun app => remainder app store.now := by
  rw [app?_afterDelete, if_pos rfl]

theorem app?_afterDelete_of_ne {space name otherSpace otherName : String}
    (different : (otherSpace, otherName) ≠ (space, name)) :
    (store.afterDelete space name).app? otherSpace otherName =
      store.app? otherSpace otherName := by
  rw [app?_afterDelete, if_neg different]

theorem afterDelete_others (space name : String) :
    store.afterDelete space name =
      { store with
        apps := (store.afterDelete space name).apps
        log := (store.afterDelete space name).log } := by
  cases found : store.app? space name <;> simp [afterDelete, deleteApp, found, record]

/-- A store that differs from an earlier one by requested deletions only: what is left of
the Apps is unchanged but for deletion marks, and all else but the log is the same. -/
structure Reduced (touched : ObjectKey → Prop) (before after : Memory) : Prop where
  remains : ∀ ⦃space name app⦄, after.app? space name = some app →
    ∃ old, before.app? space name = some old ∧ (app = old ∨ app = marked old before.now)
  untouched : ∀ ⦃space name⦄, ¬ touched (space, name) →
    after.app? space name = before.app? space name
  others : after = { before with apps := after.apps, log := after.log }

namespace Reduced

variable {touched larger : ObjectKey → Prop} {before middle after : Memory}

theorem refl (touched : ObjectKey → Prop) (store : Memory) : Reduced touched store store where
  remains _ _ _ found := ⟨_, found, .inl rfl⟩
  untouched _ _ _ := rfl
  others := rfl

theorem now_eq (reduced : Reduced touched before after) : after.now = before.now := by
  rw [reduced.others]

theorem trans (first : Reduced touched before middle) (second : Reduced touched middle after) :
    Reduced touched before after where
  remains _ _ _ found := by
    obtain ⟨between, foundBetween, asBetween⟩ := second.remains found
    obtain ⟨old, foundOld, asOld⟩ := first.remains foundBetween
    refine ⟨old, foundOld, ?_⟩
    rw [first.now_eq] at asBetween
    rcases asOld with rfl | rfl
    · exact asBetween
    · rw [marked_marked, or_self] at asBetween
      exact .inr asBetween
  untouched _ _ away := (second.untouched away).trans (first.untouched away)
  others := by rw [second.others, first.others]

theorem mono (reduced : Reduced touched before after)
    (subset : ∀ key, touched key → larger key) : Reduced larger before after where
  remains := reduced.remains
  untouched _ _ away := reduced.untouched fun inside => away (subset _ inside)
  others := reduced.others

/-- An App that is left carries the name and the labels that it had. -/
theorem kept_of_found (reduced : Reduced touched before after) {space name : String} {app : App}
    (found : after.app? space name = some app) :
    ∃ old, before.app? space name = some old ∧ app.name = old.name ∧ app.labels = old.labels := by
  obtain ⟨old, foundOld, rfl | rfl⟩ := reduced.remains found
  · exact ⟨app, foundOld, rfl, rfl⟩
  · exact ⟨old, foundOld, marked_name old _, marked_labels old _⟩

theorem absent (reduced : Reduced touched before after) {space name : String}
    (missing : before.app? space name = none) : after.app? space name = none := by
  cases found : after.app? space name with
  | none => rfl
  | some app =>
      obtain ⟨old, foundOld, _⟩ := reduced.remains found
      rw [missing] at foundOld
      cases foundOld

end Reduced

/-- A request for deletion reduces a store at one place. -/
theorem reduced_afterDelete (store : Memory) (space name : String) :
    Reduced (· = (space, name)) store (store.afterDelete space name) where
  remains otherSpace otherName app found := by
    by_cases same : (otherSpace, otherName) = (space, name)
    · obtain ⟨rfl, rfl⟩ := Prod.mk.inj same
      rw [app?_afterDelete_self, Option.bind_eq_some_iff] at found
      obtain ⟨old, foundOld, left⟩ := found
      refine ⟨old, foundOld, .inr ?_⟩
      unfold remainder at left
      split at left
      · cases left
      · exact (Option.some.inj left).symm
    · rw [app?_afterDelete_of_ne same] at found
      exact ⟨app, found, .inl rfl⟩
  untouched _ _ away := app?_afterDelete_of_ne away
  others := afterDelete_others space name

/-- Writing an App concerns one place. -/
theorem app?_record_insert (store : Memory) (space name : String) (app : App)
    (entry otherSpace otherName : String) :
    ({ store with apps := store.apps.insert (space, name) app }.record entry).app?
        otherSpace otherName =
      if (otherSpace, otherName) = (space, name) then some app
      else store.app? otherSpace otherName :=
  Table.find?_insert _ _ _ _

/-- A store that differs from an earlier one in its log and in Apps only. What stands at a
place has changed in a permitted way. -/
structure Tended (permitted : ObjectKey → Option App → Option App → Prop)
    (before after : Memory) : Prop where
  each : ∀ space name, permitted (space, name) (before.app? space name) (after.app? space name)
  others : after = { before with apps := after.apps, log := after.log }

namespace Tended

variable {permitted first second : ObjectKey → Option App → Option App → Prop}
  {before middle after : Memory}

theorem refl (stays : ∀ place app, permitted place app app) (store : Memory) :
    Tended permitted store store where
  each _ _ := stays _ _
  others := rfl

theorem trans (tended : Tended first before middle) (further : Tended second middle after)
    (compose : ∀ {place one two three}, first place one two → second place two three →
      permitted place one three) : Tended permitted before after where
  each space name := compose (tended.each space name) (further.each space name)
  others := by rw [further.others, tended.others]

theorem insert (stays : ∀ place app, permitted place app app) (store : Memory)
    {space name : String} {app : App}
    (changes : permitted (space, name) (store.app? space name) (some app)) (entry : String) :
    Tended permitted store
      ({ store with apps := store.apps.insert (space, name) app }.record entry) where
  each otherSpace otherName := by
    rw [app?_record_insert]
    split
    · rename_i same
      obtain ⟨rfl, rfl⟩ := Prod.mk.inj same
      exact changes
    · exact stays _ _
  others := rfl

end Tended

/-- Apps of a namespace that the label of a cluster marks, in the order of a listing. -/
def appsOf (store : Memory) (space id : String) : List App :=
  (store.apps.toList.filter fun entry => entry.1.1 == space && entry.2.isOf id).map (·.2)

theorem mem_appsOf_iff {store : Memory} {space id : String} {app : App} :
    app ∈ store.appsOf space id ↔
      app.isOf id = true ∧ ∃ name, store.app? space name = some app := by
  simp only [appsOf, List.mem_map, List.mem_filter, Bool.and_eq_true, beq_iff_eq]
  constructor
  · rintro ⟨⟨⟨otherSpace, name⟩, entry⟩, ⟨inside, rfl, marks⟩, rfl⟩
    exact ⟨marks, name, (Table.mem_toList_iff _ _ _).mp inside⟩
  · rintro ⟨marks, name, found⟩
    exact ⟨((space, name), app), ⟨(Table.mem_toList_iff _ _ _).mpr found, rfl, marks⟩, rfl⟩

theorem appsOf_eq_nil_iff {store : Memory} {space id : String} :
    store.appsOf space id = [] ↔
      ∀ name app, store.app? space name = some app → app.isOf id = false := by
  rw [List.eq_nil_iff_forall_not_mem]
  constructor
  · intro none name app found
    exact Bool.eq_false_iff.mpr fun marks => none app (mem_appsOf_iff.mpr ⟨marks, name, found⟩)
  · intro none app inside
    obtain ⟨marks, name, found⟩ := mem_appsOf_iff.mp inside
    cases marks.symm.trans (none name app found)

/-- A selector that asks for the label of a cluster and for something more lists what has
the second among the Apps of the cluster. -/
theorem listApps_eq_filter_appsOf {selector : Selector} {id : String} {isWanted : App → Bool}
    (means : ∀ app, selector.isMatch app.labels = (app.isOf id && isWanted app))
    (store : Memory) (space : String) :
    store.listApps space selector = (store.appsOf space id).filter isWanted := by
  rw [listApps, appsOf, List.filter_map, List.filter_filter]
  congr 2
  funext entry
  rw [means, Function.comp_apply, Bool.and_comm (isWanted entry.2), Bool.and_assoc]

theorem listApps_managedSelector (store : Memory) (space id : String) :
    store.listApps space (managedSelector id) =
      (store.appsOf space id).filter fun app => isManaged app.labels := by
  apply listApps_eq_filter_appsOf
  intro app
  simp only [managedSelector, Selector.isMatch, Requirement.holds, List.all_cons, List.all_nil,
    Bool.and_true, App.isOf, isManaged]

theorem listApps_unmanagedSelector (store : Memory) (space id : String) :
    store.listApps space (unmanagedSelector id) =
      (store.appsOf space id).filter fun app => !isManaged app.labels := by
  apply listApps_eq_filter_appsOf
  intro app
  simp only [unmanagedSelector, Selector.isMatch, Requirement.holds, List.all_cons,
    List.all_nil, Bool.and_true, App.isOf, isManaged, bne]

/-- Every App stands under its own name: the one general restriction on store states. The empty
store meets it (`filed_empty`) and calls keep it (`Filed.handle`). -/
def Filed (store : Memory) : Prop :=
  ∀ ⦃space name app⦄, store.app? space name = some app → app.name = name

theorem Reduced.filed {touched : ObjectKey → Prop} {before after : Memory}
    (reduced : Reduced touched before after) (filed : before.Filed) : after.Filed := by
  intro space name app found
  obtain ⟨old, foundOld, sameName, _⟩ := reduced.kept_of_found found
  exact sameName.trans (filed foundOld)

theorem Filed.of_apps_eq {before after : Memory} (filed : before.Filed)
    (same : after.apps = before.apps) : after.Filed := by
  intro space name app found
  rw [app?, same] at found
  exact filed found

theorem filed_empty : ({} : Memory).Filed := by
  intro space name app found
  cases found

theorem Filed.insert {store : Memory} (filed : store.Filed) (space : String) (app : App) :
    Filed { store with apps := store.apps.insert (space, app.name) app } := by
  intro otherSpace name other found
  rw [app?, Table.find?_insert] at found
  split at found
  · rename_i same
    cases same
    cases found
    rfl
  · exact filed found

theorem Filed.erase {store : Memory} (filed : store.Filed) (key : ObjectKey) :
    Filed { store with apps := store.apps.erase key } := by
  intro space name app found
  rw [app?, Table.find?_erase] at found
  split at found
  · cases found
  · exact filed found

/-- Putting an App into a store files it. -/
theorem Filed.putApp {store : Memory} (filed : store.Filed) (app : App) :
    (store.putApp app).Filed := filed.insert _ app

theorem Filed.finishDeletion {store : Memory} (filed : store.Filed) (space name : String) :
    (store.finishDeletion space name).Filed := by
  rw [Memory.finishDeletion]
  split
  · split
    · exact filed.erase _
    · exact filed
  · exact filed

/-- A listing of a namespace is in the order of the names. -/
theorem Filed.sorted_names {store : Memory} (filed : store.Filed) (space id : String) :
    ((store.appsOf space id).map App.name).Pairwise (· < ·) := by
  rw [appsOf, List.map_map, List.pairwise_map]
  refine (store.apps.sorted.filter _).imp_of_mem fun {first second} inFirst inSecond less => ?_
  obtain ⟨inFirst, firstSpace⟩ := List.mem_filter.mp inFirst
  obtain ⟨inSecond, secondSpace⟩ := List.mem_filter.mp inSecond
  simp only [Bool.and_eq_true, beq_iff_eq] at firstSpace secondSpace
  rw [Function.comp_apply, Function.comp_apply,
    filed ((Table.mem_toList_iff _ _ _).mp inFirst),
    filed ((Table.mem_toList_iff _ _ _).mp inSecond)]
  rcases less with otherSpace | ⟨_, less⟩
  · rw [firstSpace.1, secondSpace.1] at otherSpace
    exact absurd otherSpace (Key.irrefl space)
  · exact less

/-- No two Apps of a namespace share a name. -/
theorem Filed.nodup_names {store : Memory} (filed : store.Filed) (space id : String) :
    ((store.appsOf space id).map App.name).Nodup := by
  refine (filed.sorted_names space id).imp fun {first second} less same => ?_
  exact Key.irrefl second (same ▸ less)

end Memory

end PlatformApps
