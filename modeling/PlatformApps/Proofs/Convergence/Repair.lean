/-
# What has drifted

An App of a cluster that has drifted is repaired when the Apps of the cluster are brought in
line: its labels, its annotations and its specification become the wanted ones, whatever they
have become. It has to be found for that, by the two labels that say whose it is. An App that
has lost one of them keeps its name from the wanted App, which then only counts as created.
-/

import PlatformApps.Proofs.Cleanup.Undo
import PlatformApps.Proofs.Convergence.Framed
import PlatformApps.Proofs.Convergence.WriteBack

namespace PlatformApps

/-- An App is as wanted, with what the agent had noted on it. -/
structure App.AsWanted (found desired : App) (noted : Labels) : Prop where
  labels : found.labels = desired.labels
  annotations : found.annotations = mergeAnnotations noted desired.annotations
  spec : found.spec = desired.spec

/-- What bringing a wanted App in line makes of what stands under its name. -/
inductive Becomes (id space : String) (desired : App) : Option App → Option App → Prop where
  | created : Becomes id space desired none (some desired)
  | repaired {old found : App} (held : old.isHeld id space = true)
      (wanted : found.AsWanted desired old.annotations) :
      Becomes id space desired (some old) (some found)
  | taken {old : App} (notHeld : old.isHeld id space = false) :
      Becomes id space desired (some old) (some old)

namespace Becomes

variable {id space : String} {desired old : App} {left : Option App}

theorem eq_of_none (becomes : Becomes id space desired none left) : left = some desired := by
  cases becomes
  rfl

theorem exists_of_held (becomes : Becomes id space desired (some old) left)
    (held : old.isHeld id space = true) :
    ∃ found, left = some found ∧ found.AsWanted desired old.annotations := by
  cases becomes with
  | repaired _ wanted => exact ⟨_, rfl, wanted⟩
  | taken notHeld => cases held.symm.trans notHeld

theorem eq_of_notHeld (becomes : Becomes id space desired (some old) left)
    (notHeld : old.isHeld id space = false) : left = some old := by
  cases becomes with
  | repaired held _ => cases held.symm.trans notHeld
  | taken => rfl

end Becomes

/-! One App. -/

section One

variable {id space : String} {desired : App} {current : Table (String × String) App}
  {counts counted : Convergence}

theorem becomes_of_convergeApp {store after : Memory} (due : desired.isHeld id space = true)
    (known : current.find? (space, desired.name) = (store.heldAt space id desired.name).join)
    (filed : store.Filed)
    (runs : (convergeApp space current desired counts).run Memory.handle store =
      (.ok counted, after)) :
    Becomes id space desired (store.app? space desired.name) (after.app? space desired.name) := by
  have place : desired.namespaceOr space = space := App.namespaceOr_of_isHeld due
  cases found : store.app? space desired.name with
  | none =>
      have written : desired.namespaceOr "" = space := (App.isHeld_iff.mp due).2
      obtain ⟨entry, created⟩ := Memory.handle_createApp_of_free (written.symm ▸ found)
      have creates : (Store.createApp desired Failure.isAlreadyExists).run Memory.handle store =
          (.ok (), (store.putApp desired).record entry) :=
        Dialogue.run_tolerate_of_ok (I := Store) created _ _
      rw [Memory.heldAt, found, Option.map_none, Option.join_none] at known
      rw [convergeApp, place] at runs
      simp only [known, Dialogue.bind_eq] at runs
      rw [Dialogue.run_bind_of_ok creates] at runs
      cases runs
      rw [Memory.putApp, written, Memory.app?_record_insert, if_pos rfl]
      exact .created
  | some old =>
      cases held : old.isHeld id space with
      | true =>
          have listed : current.find? (space, desired.name) = some old :=
            known.trans (Memory.join_heldAt_eq_some_iff.mpr ⟨found, held⟩)
          obtain ⟨result, updates, labels, annotations, spec⟩ := exists_updated old desired
          obtain ⟨_, _, alsoRuns, left⟩ := run_convergeApp_of_seen (place.symm ▸ listed)
            (place.symm ▸ found) updates counts
          cases runs.symm.trans alsoRuns
          rw [place] at left
          rw [left]
          exact .repaired held ⟨labels, annotations, spec⟩
      | false =>
          obtain ⟨_, _, alsoRuns, _, brought⟩ := run_convergeApp due known filed counts
          cases runs.symm.trans alsoRuns
          have fills := brought.tended.each space desired.name
          rw [found] at fills
          rw [fills.eq_of_notHeld held]
          exact .taken held

/-- A wanted App that has not been listed counts as created. -/
theorem created_of_convergeApp {σ : Type} {handler : Store.Handler σ} {state after : σ}
    (runs : (convergeApp space current desired counts).run handler state = (.ok counted, after)) :
    counted.created = counts.created ++
      if (current.find? (desired.namespaceOr space, desired.name)).isNone then [desired.name]
      else [] := by
  rw [convergeApp] at runs
  cases listed : current.find? (desired.namespaceOr space, desired.name) with
  | none =>
      simp only [listed, Dialogue.bind_eq] at runs
      obtain ⟨_, _, _, runs⟩ := Dialogue.run_bind_eq_ok_iff.mp runs
      cases runs
      rfl
  | some app =>
      simp only [listed] at runs
      split at runs
      · obtain ⟨_, _, _, runs⟩ := Dialogue.run_bind_eq_ok_iff.mp runs
        cases runs
        exact (List.append_nil _).symm
      · cases runs
        exact (List.append_nil _).symm

end One

/-! All Apps. -/

section All

variable {id space : String} {desired : List App} {current : Table (String × String) App}
  {counts counted : Convergence}

/-- The wanted Apps become what each becomes alone, as none touches the name of another. -/
theorem becomes_of_convergeEach {store after : Memory}
    (due : ∀ app ∈ desired, app.isHeld id space = true)
    (distinct : (desired.map App.name).Nodup) (filed : store.Filed)
    (known : ∀ app ∈ desired, current.find? (space, app.name) =
      (store.heldAt space id app.name).join)
    (runs : (convergeEach space current desired counts).run Memory.handle store =
      (.ok counted, after)) :
    ∀ app ∈ desired, Becomes id space app (store.app? space app.name)
      (after.app? space app.name) := by
  induction desired generalizing store counts with
  | nil => exact fun _ inside => nomatch inside
  | cons app rest ih =>
      obtain ⟨dueFirst, dueRest⟩ := List.forall_mem_cons.mp due
      obtain ⟨knownFirst, knownRest⟩ := List.forall_mem_cons.mp known
      obtain ⟨alone, distinct⟩ := List.nodup_cons.mp distinct
      obtain ⟨onceCounted, middle, runsFirst, _, first⟩ :=
        run_convergeApp dueFirst knownFirst filed counts
      have untouched : ∀ other ∈ rest, middle.app? space other.name =
          store.app? space other.name := by
        intro other inside
        refine (first.tended.each space other.name).eq_of_notMem (.inr fun same => ?_)
        exact alone (List.mem_singleton.mp same ▸ List.mem_map_of_mem inside)
      have stillKnown : ∀ other ∈ rest, current.find? (space, other.name) =
          (middle.heldAt space id other.name).join := by
        intro other inside
        rw [knownRest other inside, Memory.heldAt_congr (untouched other inside)]
      obtain ⟨_, _, runsRest, _, others⟩ :=
        run_convergeEach dueRest distinct first.filed stillKnown onceCounted
      rw [convergeEach, Dialogue.run_bind_of_ok runsFirst] at runs
      cases runs.symm.trans runsRest
      refine List.forall_mem_cons.mpr ⟨?_, fun other inside => ?_⟩
      · rw [(others.tended.each space app.name).eq_of_notMem (.inr alone)]
        exact becomes_of_convergeApp dueFirst knownFirst filed runsFirst
      · rw [← untouched other inside]
        exact ih dueRest distinct first.filed stillKnown runs other inside

/-- Just the wanted Apps that have not been listed count as created. -/
theorem created_of_convergeEach {σ : Type} {handler : Store.Handler σ} {state after : σ}
    (runs : (convergeEach space current desired counts).run handler state =
      (.ok counted, after)) :
    counted.created = counts.created ++
      (desired.filter fun app =>
        (current.find? (app.namespaceOr space, app.name)).isNone).map App.name := by
  induction desired generalizing state counts with
  | nil =>
      cases runs
      exact (List.append_nil _).symm
  | cons app rest ih =>
      rw [convergeEach] at runs
      obtain ⟨_, _, first, others⟩ := Dialogue.run_bind_eq_ok_iff.mp runs
      rw [ih others, created_of_convergeApp first, List.append_assoc, List.filter_cons]
      split <;> rfl

/-- Drift is repaired where it leaves an App among those that are listed. Let a store have every
App under its own name, and let wanted Apps with different names lie in one namespace and carry
the labels of what this operator manages for a cluster. Then bringing them in line succeeds. Where
nothing stands under a wanted name, the wanted App comes to stand there. An App there that carries
both labels gets the labels and the specification that are wanted, and the annotations that are
wanted of it, whatever it had otherwise. An App there that lacks one of the labels stays as it is,
although its name counts as created. -/
theorem converge_repairs_drift {store : Memory} (filed : store.Filed)
    (due : ∀ app ∈ desired,
      (managedSelector id).isMatch app.labels = true ∧ app.namespaceOr "" = space)
    (distinct : (desired.map App.name).Nodup) :
    ∃ counted after,
      (converge id space desired).run Memory.handle store = (.ok counted, after) ∧
      ∀ app ∈ desired,
        (store.app? space app.name = none → after.app? space app.name = some app) ∧
        ∀ old, store.app? space app.name = some old →
          ((managedSelector id).isMatch old.labels = true ∧ old.namespaceOr "" = space →
            ∃ found, after.app? space app.name = some found ∧
              found.AsWanted app old.annotations) ∧
          (¬((managedSelector id).isMatch old.labels = true ∧ old.namespaceOr "" = space) →
            after.app? space app.name = some old ∧ app.name ∈ counted.created) := by
  have held : ∀ app ∈ desired, app.isHeld id space = true := by
    intro app inside
    exact isHeld_iff_isMatch.mpr (due app inside)
  have known := fun (app : App) (_ : app ∈ desired) => Memory.find?_current filed space id app.name
  obtain ⟨counted, after, runs, _⟩ := run_convergeEach held distinct filed known {}
  have becomes := becomes_of_convergeEach held distinct filed known runs
  have created := created_of_convergeEach runs
  refine ⟨counted, after, runs, fun app inside => ⟨?free, fun old there => ⟨?listed, ?missed⟩⟩⟩
  case free => exact fun free => (free ▸ becomes app inside).eq_of_none
  case listed =>
    intro labelled
    exact (there ▸ becomes app inside).exists_of_held (isHeld_iff_isMatch.mpr labelled)
  case missed =>
    intro unlabelled
    have notHeld : old.isHeld id space = false :=
      Bool.eq_false_iff.mpr (mt isHeld_iff_isMatch.mp unlabelled)
    refine ⟨(there ▸ becomes app inside).eq_of_notHeld notHeld, ?_⟩
    have notListed : (store.heldAt space id app.name).join = none := by
      rw [Memory.heldAt, there, Option.map_some, notHeld]
      rfl
    rw [created, List.nil_append]
    refine List.mem_map_of_mem (List.mem_filter.mpr ⟨inside, ?_⟩)
    rw [App.namespaceOr_of_isHeld (held app inside), known app inside, notListed]
    rfl

end All

section Drifted

/-- An App that somebody has labelled, and on which they and the agent have noted something. -/
def driftedHello : App := appOf "hello" "1.0.0" (operatorLabels.insert "team" "fluxy")
  (some (.ofList [("note", "mine"), ("app-operator.giantswarm.io/latest-configmap-version", "7")]))

/-- An App whose cluster label has come to name another cluster. -/
def driftedTaken : App where
  metadata := {
    name := some "taken"
    namespace_ := some "org-acme"
    labels := some (operatorLabels.insert Label.cluster "demo1") }
  spec := { name := "taken", version := "0.1.0" }

def drifted : Memory := (({} : Memory).putApp driftedHello).putApp driftedTaken

/-- The first App is repaired and keeps what the agent has noted. The other one stays as it is and
counts as created. -/
theorem converge_repairs_drift_drifted : drifted.Filed ∧
    (∀ app ∈ wantedThree,
      (managedSelector "demo0").isMatch app.labels = true ∧ app.namespaceOr "" = "org-acme") ∧
    (wantedThree.map App.name).Nodup ∧
    ∃ counted after hello,
      (converge "demo0" "org-acme" wantedThree).run Memory.handle drifted =
        (.ok counted, after) ∧
      after.app? "org-acme" "hello" = some hello ∧
      hello.labels = operatorLabels.insert Label.cluster "demo0" ∧
      hello.annotations = .ofList
        [("app-operator.giantswarm.io/latest-configmap-version", "7")] ∧
      hello.spec.version = "2.0.0" ∧
      after.app? "org-acme" "taken" = some driftedTaken ∧ "taken" ∈ counted.created := by
  have filed : drifted.Filed := (Memory.filed_empty.putApp _).putApp _
  have due : ∀ app ∈ wantedThree,
      (managedSelector "demo0").isMatch app.labels = true ∧ app.namespaceOr "" = "org-acme" := by
    decide +kernel
  have distinct : (wantedThree.map App.name).Nodup := by decide +kernel
  obtain ⟨counted, after, runs, becomes⟩ := converge_repairs_drift filed due distinct
  obtain ⟨_, ofHello⟩ := becomes (appOf "hello" "2.0.0" operatorLabels none) (by decide +kernel)
  obtain ⟨_, ofTaken⟩ := becomes (appOf "taken" "2.0.0" operatorLabels none) (by decide +kernel)
  obtain ⟨repairs, _⟩ := ofHello driftedHello (by decide +kernel)
  obtain ⟨_, stays⟩ := ofTaken driftedTaken (by decide +kernel)
  obtain ⟨hello, found, wanted⟩ := repairs (by decide +kernel)
  obtain ⟨still, created⟩ := stays (by decide +kernel)
  have noted : mergeAnnotations driftedHello.annotations ∅ =
      .ofList [("app-operator.giantswarm.io/latest-configmap-version", "7")] := by
    decide +kernel
  exact ⟨filed, due, distinct, counted, after, hello, runs, found, wanted.labels,
    wanted.annotations.trans noted, congrArg AppSpec.version wanted.spec, still, created⟩

/-- The App of an entry that has lost the label of its cluster. -/
def stripped : App where
  metadata := {
    name := some "demo0-hello"
    namespace_ := some "org-acme"
    labels := some operatorLabels }
  spec := { name := "hello-app", version := "0.9.0" }

/-- The App still is this operator's and has the name of a wanted one, and yet it stays as it is. -/
theorem stripped_not_repaired : (({} : Memory).putApp stripped).Filed ∧
    ∃ compiled known counted after app,
      (compile {} Cleanup.deserted).run Cleanup.stocked.handle
        ((), ({} : Memory).putApp stripped) = (.ok compiled, known) ∧
      (converge Cleanup.deserted.id Cleanup.deserted.space compiled.apps).run Memory.handle
        (({} : Memory).putApp stripped) = (.ok counted, after) ∧
      app ∈ compiled.apps ∧ app.name = stripped.name ∧ isManaged stripped.labels = true ∧
      after.app? Cleanup.deserted.space app.name = some stripped ∧
      stripped.labels ≠ app.labels ∧ stripped.spec ≠ app.spec := by
  let store := ({} : Memory).putApp stripped
  let pass (compiled : Compiled) :=
    (converge Cleanup.deserted.id Cleanup.deserted.space compiled.apps).run Memory.handle store
  have asks : ((compile {} Cleanup.deserted).run Cleanup.stocked.handle ((), store)).1.map
      (fun compiled => (compiled.apps.find? fun app => app.name == stripped.name).map fun app =>
        (app.labels.find? Label.cluster, app.spec.version)) =
      .ok (some (some "demo0", "1.0.0")) := by
    decide +kernel
  have comesTo : ((compile {} Cleanup.deserted).run Cleanup.stocked.handle ((), store)).1.map
      (fun compiled => ((pass compiled).1,
        (pass compiled).2.app? Cleanup.deserted.space stripped.name)) =
      .ok (.ok { created := ["demo0-app-operator", "demo0-hello"] }, some stripped) := by
    decide +kernel
  rcases compiles : (compile {} Cleanup.deserted).run Cleanup.stocked.handle ((), store) with
    ⟨failure | compiled, known⟩
  · rw [compiles] at asks
    cases asks
  · rw [compiles] at asks comesTo
    obtain ⟨app, found, same⟩ := Option.map_eq_some_iff.mp (Except.ok.inj asks)
    obtain ⟨ofCluster, version⟩ := Prod.mk.inj same
    obtain ⟨succeeds, stays⟩ := Prod.mk.inj (Except.ok.inj comesTo)
    have named := List.find?_some found
    rw [beq_iff_eq] at named
    refine ⟨(Memory.filed_empty.putApp _), compiled, known, _, _, app, compiles,
      Prod.ext succeeds rfl, List.mem_of_find?_eq_some found, named, by decide, named ▸ stays,
      fun sameLabels => ?_, fun sameSpec => ?_⟩
    · rw [← sameLabels] at ofCluster
      revert ofCluster
      decide
    · rw [← sameSpec] at version
      revert version
      decide

end Drifted

end PlatformApps
