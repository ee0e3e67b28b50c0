/-
# Bringing Apps in line, and again

Bringing the Apps of a cluster in line always succeeds. It puts Apps under wanted names only,
and there it leaves alone what is not this operator's. An App that has been brought in line
needs no patch, so a second time changes nothing.
-/

import Mathlib.Data.List.Nodup
import PlatformApps.Proofs.Manifest
import PlatformApps.Proofs.Store.Calls
import PlatformApps.Proofs.Store.Patch
import PlatformApps.Proofs.Store.Writes

namespace PlatformApps

/-! Annotations that are kept. -/

theorem find?_mergeAnnotations (current desired : Labels) (key : String) :
    (mergeAnnotations current desired).find? key =
      if key ∈ Annotation.preserved ∧ desired.find? key = none then current.find? key
      else desired.find? key := by
  obtain ⟨keep, unfolds, step⟩ : ∃ keep : Labels → String → Labels,
      mergeAnnotations current desired = Annotation.preserved.foldl keep desired ∧
      ∀ merged first, (keep merged first).find? key =
        if key = first ∧ desired.find? key = none then (current.find? key).or (merged.find? key)
        else merged.find? key := by
    refine ⟨_, rfl, fun merged first => ?_⟩
    by_cases same : key = first
    · subst same
      cases wanted : desired.find? key <;> cases noted : current.find? key <;>
        simp [Table.find?_insert]
    · cases wanted : desired.find? first <;> cases noted : current.find? first <;>
        simp [same, Table.find?_insert]
  have each (keys : List String) (merged : Labels) : (keys.foldl keep merged).find? key =
      if key ∈ keys ∧ desired.find? key = none then (current.find? key).or (merged.find? key)
      else merged.find? key := by
    induction keys generalizing merged with
    | nil => simp
    | cons first rest ih =>
        rw [List.foldl_cons, ih, step]
        by_cases here : key = first <;> by_cases later : key ∈ rest <;>
          cases desired.find? key <;> cases current.find? key <;> simp [here, later]
  rw [unfolds, each]
  split
  · rename_i free
    rw [free.2, Option.or_none]
  · rfl

/-- What has been kept once is kept again. -/
theorem mergeAnnotations_mergeAnnotations (current desired : Labels) :
    mergeAnnotations (mergeAnnotations current desired) desired =
      mergeAnnotations current desired := by
  apply Table.ext
  intro key
  rw [find?_mergeAnnotations, find?_mergeAnnotations]
  split
  · rfl
  · rfl

theorem mergeAnnotations_self (annotations : Labels) :
    mergeAnnotations annotations annotations = annotations := by
  apply Table.ext
  intro key
  rw [find?_mergeAnnotations, ite_self]

/-! When an App needs no patch. -/

/-- There is no patch for an App just when it is as wanted. -/
theorem updatePatch_eq_none_iff {current desired : App} :
    updatePatch current desired = none ↔
      current.labels = desired.labels ∧
        current.annotations = mergeAnnotations current.annotations desired.annotations ∧
        current.spec = desired.spec := by
  constructor
  · intro fits
    by_contra differs
    rw [updatePatch, if_neg differs] at fits
    have reached := (plain_patchableView desired.labels
      (mergeAnnotations current.annotations desired.annotations) desired.spec).changed_mergeDiff
        (plain_patchableView current.labels current.annotations current.spec).canonical
    rw [fits] at reached
    have view := Json.find?_eq_of_ofFields (by simp) (by simp) reached
    have metadata := Json.find?_eq_of_ofFields (by simp) (by simp)
      (Option.some.inj (view "metadata"))
    have spec := congrArg (fun written => AppSpec.read? (.ofJson written))
      (Option.some.inj (view "spec"))
    simp only [AppSpec.read?_toJson] at spec
    apply differs
    exact ⟨ofTexts_injective (Option.some.inj (metadata "labels")),
      ofTexts_injective (Option.some.inj (metadata "annotations")), Option.some.inj spec⟩
  · intro same
    exact if_pos same

/-- An App as wanted needs no patch. -/
theorem updatePatch_self (app : App) : updatePatch app app = none :=
  updatePatch_eq_none_iff.mpr ⟨rfl, (mergeAnnotations_self app.annotations).symm, rfl⟩

/-- An App after the patch that brings it in line. -/
structure App.IsRevised (current desired result : App) : Prop where
  labels : result.labels = desired.labels
  annotations : result.annotations =
    mergeAnnotations current.annotations desired.annotations
  spec : result.spec = desired.spec
  /-- All other metadata stay as they read. -/
  metadata : result.metadata = { current.metadata.asRead with
    labels := result.metadata.labels
    annotations := result.metadata.annotations }

namespace App.IsRevised

variable {current desired result : App}

/-- All other metadata stay as they are just where their written form holds them. -/
theorem metadata_eq_iff (revised : current.IsRevised desired result) :
    result.metadata = { current.metadata with
      labels := result.metadata.labels
      annotations := result.metadata.annotations } ↔ current.metadata.IsWritten := by
  rw [← Metadata.asRead_eq_self_iff]
  constructor
  · intro same
    have asRead := revised.metadata.symm.trans same
    exact congrArg (fun metadata : Metadata => { metadata with
      labels := current.metadata.labels
      annotations := current.metadata.annotations }) asRead
  · intro same
    rw [← same]
    exact revised.metadata

theorem name (revised : current.IsRevised desired result) : result.name = current.name := by
  rw [App.name, revised.metadata]
  rfl

theorem namespaceOr (revised : current.IsRevised desired result) (space : String) :
    result.namespaceOr space = current.namespaceOr space := by
  rw [App.namespaceOr, revised.metadata]
  rfl

theorem isDeleting (revised : current.IsRevised desired result) :
    result.isDeleting = current.isDeleting := by
  rw [App.isDeleting, Metadata.isDeleting, revised.metadata]
  exact Option.isSome_map

/-- Once revised, an App needs no patch. -/
theorem updatePatch_eq_none (revised : current.IsRevised desired result) :
    updatePatch result desired = none := by
  rw [updatePatch_eq_none_iff]
  refine ⟨revised.labels, ?_, revised.spec⟩
  rw [revised.annotations, mergeAnnotations_mergeAnnotations]

end App.IsRevised

/-- The patch for an App can be applied and brings it in line. -/
theorem exists_isRevised {current desired : App} {patch : Json}
    (patches : updatePatch current desired = some patch) :
    ∃ result, Memory.patched current patch = .ok result ∧ current.IsRevised desired result := by
  obtain ⟨labels, annotations, applied, sameLabels, sameAnnotations⟩ :=
    patched_updatePatch patches
  exact ⟨_, applied, sameLabels, sameAnnotations, rfl, rfl⟩

/-! What bringing Apps in line asks. -/

section Asks

variable {allowed : StoreCall → Prop} {space : String} {desired : List App}

/-- Wanted Apps are created, and Apps that are known may be patched. -/
theorem asks_convergeEach {current : Table (String × String) App}
    (creates : ∀ app ∈ desired, allowed (.createApp app))
    (patches : ∀ key app, current.find? key = some app →
      ∀ space name patch, allowed (.patchApp space name patch)) (counts : Convergence) :
    (convergeEach space current desired counts).Asks allowed := by
  induction desired generalizing counts with
  | nil => trivial
  | cons app rest ih =>
      obtain ⟨createsFirst, createsRest⟩ := List.forall_mem_cons.mp creates
      refine Dialogue.Asks.bind ?_ fun counted => ih createsRest counted
      rw [convergeApp]
      split
      · exact Dialogue.Asks.bind (Dialogue.Asks.tolerate createsFirst _ _) fun _ => trivial
      · rename_i known found
        split
        · exact Dialogue.Asks.bind ⟨patches _ known found _ _ _, fun _ => trivial⟩ fun _ => trivial
        · trivial

theorem asks_converge {id : String} (lists : allowed (.listApps space (managedSelector id)))
    (creates : ∀ app ∈ desired, allowed (.createApp app))
    (patches : ∀ space name patch, allowed (.patchApp space name patch)) :
    (converge id space desired).Asks allowed :=
  Dialogue.Asks.bind ⟨lists, fun _ => trivial⟩ fun _ =>
    asks_convergeEach creates (fun _ _ _ => patches) {}

end Asks

/-! What stands under a name. -/

/-- Is the App one of a cluster that this operator manages? -/
def App.isHeld (app : App) (id space : String) : Bool :=
  app.isOf id && isManaged app.labels && app.namespaceOr "" == space

namespace App

variable {app other : App} {id space : String}

theorem isHeld_iff : app.isHeld id space = true ↔
    (app.isOf id = true ∧ isManaged app.labels = true) ∧ app.namespaceOr "" = space := by
  rw [isHeld, Bool.and_eq_true, Bool.and_eq_true, beq_iff_eq]

theorem isHeld_of_isMadeFor (made : app.IsMadeFor id space) : app.isHeld id space = true :=
  isHeld_iff.mpr ⟨⟨made.isOf, made.isManaged⟩, made.namespaceOr ""⟩

theorem namespaceOr_of_isHeld (held : app.isHeld id space = true) :
    app.namespaceOr space = space := by
  have place := (isHeld_iff.mp held).2
  rw [namespaceOr] at place ⊢
  cases stated : app.metadata.namespace_ with
  | none => rfl
  | some given => rwa [stated] at place

/-- Labels and namespace decide whose an App is. -/
theorem isHeld_congr (labels : app.labels = other.labels)
    (place : app.namespaceOr "" = other.namespaceOr "") (id space : String) :
    app.isHeld id space = other.isHeld id space := by
  rw [isHeld, isHeld, isOf, isOf, labels, place]

end App

namespace Memory

/-- What stands under a name: nothing, an App that is none of this operator's for a cluster,
or one that is. -/
def heldAt (store : Memory) (space id name : String) : Option (Option App) :=
  (store.app? space name).map fun app => if app.isHeld id space then some app else none

variable {store before after : Memory} {space id : String} {desired : App}

theorem join_heldAt_eq_some_iff {name : String} {app : App} :
    (store.heldAt space id name).join = some app ↔
      store.app? space name = some app ∧ app.isHeld id space = true := by
  rw [heldAt]
  cases store.app? space name with
  | none => simp
  | some other =>
      rw [Option.map_some, Option.join_some, Option.ite_none_right_eq_some, Option.some.injEq]
      constructor
      · rintro ⟨held, rfl⟩
        exact ⟨rfl, held⟩
      · rintro ⟨rfl, held⟩
        exact ⟨held, rfl⟩

/-- The Apps to compare with are those that this operator manages. -/
theorem find?_current (filed : store.Filed) (space id name : String) :
    (Table.ofList ((store.listApps space (managedSelector id)).map fun app =>
      ((app.namespaceOr "", app.name), app))).find? (space, name) =
        (store.heldAt space id name).join := by
  have distinct : (((store.listApps space (managedSelector id)).map fun app =>
      ((app.namespaceOr "", app.name), app)).map (·.1)).Nodup := by
    apply List.Nodup.of_map Prod.snd
    rw [List.map_map, List.map_map, listApps_managedSelector]
    exact (filed.nodup_names space id).sublist (List.filter_sublist.map App.name)
  rw [Table.find?_ofList distinct]
  apply Option.ext
  intro app
  rw [Entries.find?_eq_some_iff distinct, join_heldAt_eq_some_iff, List.mem_map,
    listApps_managedSelector]
  constructor
  · rintro ⟨listed, inside, same⟩
    obtain ⟨place, rfl⟩ := Prod.mk.inj same
    obtain ⟨rfl, rfl⟩ := Prod.mk.inj place
    obtain ⟨inside, managed⟩ := List.mem_filter.mp inside
    obtain ⟨marks, name, found⟩ := mem_appsOf_iff.mp inside
    exact ⟨(filed found).symm ▸ found, App.isHeld_iff.mpr ⟨⟨marks, managed⟩, rfl⟩⟩
  · rintro ⟨found, held⟩
    obtain ⟨⟨marks, managed⟩, rfl⟩ := App.isHeld_iff.mp held
    obtain rfl := filed found
    exact ⟨app, List.mem_filter.mpr ⟨mem_appsOf_iff.mpr ⟨marks, app.name, found⟩, managed⟩, rfl⟩

/-- Nothing has to be done for a wanted App: it is there as wanted, or its name is taken. -/
def InLine (store : Memory) (space id : String) (desired : App) : Prop :=
  ∃ taken, store.heldAt space id desired.name = some taken ∧
    ∀ app, taken = some app → updatePatch app desired = none

theorem InLine.of_heldAt_eq (inLine : before.InLine space id desired)
    (same : after.heldAt space id desired.name = before.heldAt space id desired.name) :
    after.InLine space id desired := by
  rw [InLine, same]
  exact inLine

/-- A call that creates or patches something is refused. -/
def Idle (call : StoreCall) (store : Memory) : Prop :=
  call.makes = true → ∃ failure, store.handle call = (.error failure, store)

theorem heldAt_congr {name : String} (same : after.app? space name = before.app? space name) :
    after.heldAt space id name = before.heldAt space id name := by
  rw [heldAt, same, heldAt]

/-- How bringing Apps in line may change what stands at a place: not at all, or, under a wanted
name where nothing stands or something of this operator's for the cluster, by something else
of this operator's. -/
inductive Fills (id space : String) (names : List String) :
    ObjectKey → Option App → Option App → Prop where
  | stays (place : ObjectKey) (app : Option App) : Fills id space names place app app
  | filled {name : String} {old : Option App} {app : App} (wanted : name ∈ names)
      (ours : ∀ known, old = some known → known.isHeld id space = true)
      (held : app.isHeld id space = true) : Fills id space names (space, name) old (some app)

namespace Fills

variable {names more : List String} {place : ObjectKey} {one two three : Option App}

theorem trans (first : Fills id space names place one two)
    (second : Fills id space names place two three) : Fills id space names place one three := by
  cases second with
  | stays => exact first
  | filled wanted ours held =>
      cases first with
      | stays => exact .filled wanted ours held
      | filled _ oursFirst _ => exact .filled wanted oursFirst held

theorem mono (fills : Fills id space names place one two) (subset : ∀ name ∈ names, name ∈ more) :
    Fills id space more place one two := by
  cases fills with
  | stays => exact .stays _ _
  | filled wanted ours held => exact .filled (subset _ wanted) ours held

theorem eq_of_notMem (fills : Fills id space names place one two)
    (away : place.1 ≠ space ∨ place.2 ∉ names) : two = one := by
  cases fills with
  | stays => rfl
  | filled wanted => exact absurd wanted (away.resolve_left fun other => other rfl)

/-- What is not this operator's for the cluster stays. -/
theorem eq_of_notHeld {app : App} (fills : Fills id space names place (some app) two)
    (notHeld : app.isHeld id space = false) : two = some app := by
  cases fills with
  | stays => rfl
  | filled _ ours _ => cases notHeld.symm.trans (ours app rfl)

end Fills

end Memory

/-! Bringing Apps in line. -/

/-- How many Apps have been dealt with. -/
def Convergence.total (counts : Convergence) : Nat :=
  counts.created.length + counts.updated.length + counts.unchanged

theorem Convergence.total_created (counts : Convergence) (name : String) :
    { counts with created := counts.created ++ [name] }.total = counts.total + 1 := by
  simp only [total, List.length_append, List.length_singleton]
  omega

theorem Convergence.total_updated (counts : Convergence) (name : String) :
    { counts with updated := counts.updated ++ [name] }.total = counts.total + 1 := by
  simp only [total, List.length_append, List.length_singleton]
  omega

theorem Convergence.total_unchanged (counts : Convergence) :
    { counts with unchanged := counts.unchanged + 1 }.total = counts.total + 1 := rfl

/-- What bringing Apps in line leaves. -/
structure BroughtInLine (space id : String) (desired : List App) (before after : Memory) :
    Prop where
  filed : after.Filed
  tended : before.Tended (Memory.Fills id space (desired.map App.name)) after
  inLine : ∀ app ∈ desired, after.InLine space id app

namespace BroughtInLine

variable {space id : String} {before middle after store : Memory} {app : App} {rest : List App}

theorem heldAt_eq {desired : List App} (brought : BroughtInLine space id desired before after)
    {name : String} (absent : name ∉ desired.map App.name) :
    after.heldAt space id name = before.heldAt space id name :=
  Memory.heldAt_congr ((brought.tended.each space name).eq_of_notMem (.inr absent))

/-- An App stays in line while others are brought in line. -/
theorem cons (first : BroughtInLine space id [app] before middle)
    (others : BroughtInLine space id rest middle after) (alone : app.name ∉ rest.map App.name) :
    BroughtInLine space id (app :: rest) before after where
  filed := others.filed
  tended := by
    refine first.tended.trans others.tended fun {place one two three} fills further => ?_
    refine (fills.mono fun name inside => ?_).trans (further.mono fun name inside => ?_)
    · exact List.mem_cons.mpr (.inl (List.mem_singleton.mp inside))
    · exact List.mem_cons_of_mem _ inside
  inLine := by
    refine List.forall_mem_cons.mpr ⟨?_, others.inLine⟩
    exact (first.inLine app List.mem_cons_self).of_heldAt_eq (others.heldAt_eq alone)

/-- An App that is written in its place and needs no patch is in line. -/
theorem of_insert {desired : App} (filed : store.Filed) (named : app.name = desired.name)
    (free : ∀ known, store.app? space desired.name = some known →
      known.isHeld id space = true)
    (held : app.isHeld id space = true) (fits : updatePatch app desired = none)
    (entry : String) :
    BroughtInLine space id [desired] store
      ({ store with apps := store.apps.insert (space, desired.name) app }.record entry) where
  filed := named ▸ (filed.insert space app).of_apps_eq rfl
  tended := .insert .stays store (.filled List.mem_cons_self free held) entry
  inLine := by
    rintro _ inside
    obtain rfl := List.mem_singleton.mp inside
    refine ⟨some app, ?_, fun _ same => Option.some.inj same ▸ fits⟩
    rw [Memory.heldAt, Memory.app?_record_insert, if_pos rfl, Option.map_some, if_pos held]

end BroughtInLine

section One

variable {store : Memory} {space id : String} {desired : App}
  {current : Table (String × String) App} (due : desired.isHeld id space = true)
  (known : current.find? (space, desired.name) = (store.heldAt space id desired.name).join)

include due known in
/-- Where nothing has to be done, nothing is. -/
theorem ends_convergeApp (inLine : store.InLine space id desired) (counts : Convergence) :
    ∃ counted, counted.total = counts.total + 1 ∧
      (convergeApp space current desired counts).Ends Memory.handle Memory.Idle store
        (.ok counted, store) := by
  obtain ⟨taken, held, fits⟩ := inLine
  rw [held, Option.join_some] at known
  rw [convergeApp, App.namespaceOr_of_isHeld due]
  cases taken with
  | none =>
      obtain ⟨app, found, _⟩ := Option.map_eq_some_iff.mp held
      obtain ⟨failure, harmless, refused⟩ :=
        Memory.handle_createApp_of_taken ((App.isHeld_iff.mp due).2.symm ▸ found)
      have idle : Memory.Idle (.createApp desired) store := fun _ => ⟨failure, refused⟩
      have tolerated : (Store.createApp desired Failure.isAlreadyExists).Ends Memory.handle
          Memory.Idle store (.ok (), store) :=
        Dialogue.Ends.tolerate_of_harmless (I := Store) idle refused harmless ()
      simp only [known]
      exact ⟨_, Convergence.total_created counts _, tolerated.bind (.done _ _ _ _)⟩
  | some app =>
      simp only [known, fits app rfl]
      exact ⟨_, Convergence.total_unchanged counts, .done _ _ _ _⟩

include due known in
theorem run_convergeApp (filed : store.Filed) (counts : Convergence) :
    ∃ counted after, (convergeApp space current desired counts).run Memory.handle store =
        (.ok counted, after) ∧ counted.total = counts.total + 1 ∧
      BroughtInLine space id [desired] store after := by
  have unchanged (inLine : store.InLine space id desired) :
      ∃ counted after, (convergeApp space current desired counts).run Memory.handle store =
        (.ok counted, after) ∧ counted.total = counts.total + 1 ∧
          BroughtInLine space id [desired] store after := by
    obtain ⟨counted, one, ends⟩ := ends_convergeApp due known inLine counts
    refine ⟨counted, store, ends.run, one, filed, .refl .stays store, fun app inside => ?_⟩
    exact List.mem_singleton.mp inside ▸ inLine
  have place := (App.isHeld_iff.mp due).2
  cases held : store.heldAt space id desired.name with
  | none =>
      have free : store.app? space desired.name = none := Option.map_eq_none_iff.mp held
      obtain ⟨entry, created⟩ := Memory.handle_createApp_of_free (place.symm ▸ free)
      have creates : (Store.createApp desired Failure.isAlreadyExists).run Memory.handle store =
          (.ok (), (store.putApp desired).record entry) :=
        Dialogue.run_tolerate_of_ok (I := Store) created _ _
      rw [held, Option.join_none] at known
      rw [convergeApp, App.namespaceOr_of_isHeld due]
      simp only [known]
      refine ⟨_, _, Dialogue.run_bind_of_ok creates _, Convergence.total_created counts _, ?_⟩
      rw [Memory.putApp, place]
      exact .of_insert filed rfl (fun _ found => nomatch free.symm.trans found) due
        (updatePatch_self desired) entry
  | some taken =>
      cases taken with
      | none => exact unchanged ⟨none, held, fun _ same => absurd same.symm (Option.some_ne_none _)⟩
      | some app =>
          cases patches : updatePatch app desired with
          | none => exact unchanged ⟨some app, held, fun _ same => Option.some.inj same ▸ patches⟩
          | some patch =>
              obtain ⟨found, ours⟩ := Memory.join_heldAt_eq_some_iff.mp (congrArg Option.join held)
              obtain ⟨result, applied, revised⟩ := exists_isRevised patches
              obtain ⟨entry, patched⟩ := Memory.handle_patchApp_of_patched found applied
              have runs : (Store.patchApp space desired.name patch).run Memory.handle store =
                  (.ok (), _) := Dialogue.run_ask_of_answer (I := Store) patched _
              have still : result.isHeld id space = true := by
                rw [App.isHeld_congr revised.labels ((revised.namespaceOr "").trans ?_), due]
                rw [(App.isHeld_iff.mp ours).2, place]
              rw [held, Option.join_some] at known
              rw [convergeApp, App.namespaceOr_of_isHeld due]
              simp only [known, patches]
              refine ⟨_, _, Dialogue.run_bind_of_ok runs _, Convergence.total_updated counts _, ?_⟩
              refine .of_insert filed (revised.name.trans (filed found)) (fun other there => ?_)
                still revised.updatePatch_eq_none entry
              cases found.symm.trans there
              exact ours

end One

section All

variable {space id : String} {desired : List App} {current : Table (String × String) App}

/-- Bringing Apps in line one after the other leaves them in line. -/
theorem run_convergeEach (due : ∀ app ∈ desired, app.isHeld id space = true)
    (distinct : (desired.map App.name).Nodup) {store : Memory} (filed : store.Filed)
    (known : ∀ app ∈ desired, current.find? (space, app.name) =
      (store.heldAt space id app.name).join) (counts : Convergence) :
    ∃ counted after, (convergeEach space current desired counts).run Memory.handle store =
        (.ok counted, after) ∧ counted.total = counts.total + desired.length ∧
      BroughtInLine space id desired store after := by
  induction desired generalizing store counts with
  | nil => exact ⟨_, _, rfl, rfl, filed, .refl .stays store, fun _ inside => nomatch inside⟩
  | cons app rest ih =>
      obtain ⟨dueFirst, dueRest⟩ := List.forall_mem_cons.mp due
      obtain ⟨knownFirst, knownRest⟩ := List.forall_mem_cons.mp known
      obtain ⟨alone, distinct⟩ := List.nodup_cons.mp distinct
      obtain ⟨counted, middle, runs, one, first⟩ :=
        run_convergeApp dueFirst knownFirst filed counts
      have stillKnown : ∀ other ∈ rest, current.find? (space, other.name) =
          (middle.heldAt space id other.name).join := by
        intro other inside
        rw [knownRest other inside, first.heldAt_eq]
        intro same
        exact alone (List.mem_singleton.mp same ▸ List.mem_map_of_mem inside)
      obtain ⟨total, after, follows, further, others⟩ :=
        ih dueRest distinct first.filed stillKnown counted
      refine ⟨total, after, ?_, ?_, first.cons others alone⟩
      · rw [convergeEach, Dialogue.run_bind_of_ok runs, follows]
      · rw [further, one, List.length_cons]
        omega

/-- Where all is in line, bringing it in line changes nothing. -/
theorem ends_convergeEach {store : Memory}
    (inLine : ∀ app ∈ desired, store.InLine space id app)
    (due : ∀ app ∈ desired, app.isHeld id space = true)
    (known : ∀ app ∈ desired, current.find? (space, app.name) =
      (store.heldAt space id app.name).join) (counts : Convergence) :
    ∃ counted, (convergeEach space current desired counts).Ends Memory.handle Memory.Idle store
      (.ok counted, store) := by
  induction desired generalizing counts with
  | nil => exact ⟨_, .done _ _ _ _⟩
  | cons app rest ih =>
      obtain ⟨inLineFirst, inLineRest⟩ := List.forall_mem_cons.mp inLine
      obtain ⟨dueFirst, dueRest⟩ := List.forall_mem_cons.mp due
      obtain ⟨knownFirst, knownRest⟩ := List.forall_mem_cons.mp known
      obtain ⟨counted, _, ends⟩ := ends_convergeApp dueFirst knownFirst inLineFirst counts
      obtain ⟨total, follows⟩ := ih inLineRest dueRest knownRest counted
      exact ⟨total, ends.bind follows⟩

/-- Bringing the Apps of a cluster in line succeeds. -/
theorem run_converge (due : ∀ app ∈ desired, app.isHeld id space = true)
    (distinct : (desired.map App.name).Nodup) {store : Memory} (filed : store.Filed) :
    ∃ counted after, (converge id space desired).run Memory.handle store =
        (.ok counted, after) ∧ counted.total = desired.length ∧
      BroughtInLine space id desired store after := by
  obtain ⟨counted, after, runs, total, brought⟩ := run_convergeEach due distinct filed
    (fun app _ => Memory.find?_current filed space id app.name) {}
  exact ⟨counted, after, runs, total.trans (Nat.zero_add _), brought⟩

theorem ends_converge {store : Memory} (filed : store.Filed)
    (inLine : ∀ app ∈ desired, store.InLine space id app)
    (due : ∀ app ∈ desired, app.isHeld id space = true) :
    ∃ counted, (converge id space desired).Ends Memory.handle Memory.Idle store
      (.ok counted, store) := by
  obtain ⟨counted, ends⟩ := ends_convergeEach inLine due
    (fun app _ => Memory.find?_current filed space id app.name) {}
  have lists : (Store.listApps space (managedSelector id)).Ends Memory.handle Memory.Idle store
      (.ok _, store) :=
    .ask (fun makes => nomatch makes) rfl (.done _ _ _ _)
  exact ⟨counted, lists.bind ends⟩

end All

end PlatformApps
