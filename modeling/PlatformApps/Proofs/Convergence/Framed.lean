/-
# Whom bringing Apps in line concerns

The Apps that a cluster should have carry the two labels that this operator lists by, and they
lie in the namespace of the cluster. Whatever else a store holds, bringing them in line
succeeds. It concerns wanted names only, and of what stands there only Apps with both labels.
Once is enough.
-/

import PlatformApps.Proofs.Convergence

namespace PlatformApps

variable {app : App} {id space : String}

theorem isMatch_managedSelector (labels : Labels) (id : String) :
    (managedSelector id).isMatch labels =
      (labels.find? Label.cluster == some id && isManaged labels) := by
  simp only [managedSelector, Selector.isMatch, Requirement.holds, List.all_cons, List.all_nil,
    Bool.and_true, isManaged]

/-- What this operator manages for a cluster is what it lists of the cluster's namespace. -/
theorem isHeld_iff_isMatch : app.isHeld id space = true ↔
    (managedSelector id).isMatch app.labels = true ∧ app.namespaceOr "" = space := by
  rw [App.isHeld_iff, isMatch_managedSelector, Bool.and_eq_true]
  rfl

/-- What is in line stands under its name, and is as wanted where this operator manages it. -/
theorem Memory.InLine.exists_app {store : Memory} {desired : App}
    (inLine : store.InLine space id desired) :
    ∃ found, store.app? space desired.name = some found ∧
      (found.isHeld id space = true →
        found.labels = desired.labels ∧
        found.annotations = mergeAnnotations found.annotations desired.annotations ∧
        found.spec = desired.spec) := by
  obtain ⟨taken, held, fits⟩ := inLine
  obtain ⟨found, there, same⟩ := Option.map_eq_some_iff.mp held
  refine ⟨found, there, ?_⟩
  intro ours
  rw [if_pos ours] at same
  exact updatePatch_eq_none_iff.mp (fits found same.symm)

/-- Let a store have every App under its own name, and let wanted Apps with different names lie
in one namespace and carry the labels of what this operator manages for a cluster. Then bringing
them in line succeeds and counts each of them once. Each wanted name stands for an App, which is
as wanted if it has both labels. No other place changes, nor does an App without both labels, nor
anything that is not an App. A second time leaves the store and its log as they are. -/
theorem converge_framed {store : Memory} (filed : store.Filed) {desired : List App}
    (due : ∀ app ∈ desired,
      (managedSelector id).isMatch app.labels = true ∧ app.namespaceOr "" = space)
    (distinct : (desired.map App.name).Nodup) :
    ∃ counted again after,
      (converge id space desired).run Memory.handle store = (.ok counted, after) ∧
      counted.created.length + counted.updated.length + counted.unchanged = desired.length ∧
      (∀ app ∈ desired, ∃ found, after.app? space app.name = some found ∧
        ((managedSelector id).isMatch found.labels = true ∧ found.namespaceOr "" = space →
          found.labels = app.labels ∧
          found.annotations = mergeAnnotations found.annotations app.annotations ∧
          found.spec = app.spec)) ∧
      (∀ otherSpace name, otherSpace ≠ space ∨ name ∉ desired.map App.name →
        after.app? otherSpace name = store.app? otherSpace name) ∧
      (∀ otherSpace name app, store.app? otherSpace name = some app →
        (managedSelector id).isMatch app.labels = false →
          after.app? otherSpace name = some app) ∧
      after = { store with apps := after.apps, log := after.log } ∧
      (converge id space desired).run Memory.handle after = (.ok again, after) := by
  have held : ∀ app ∈ desired, app.isHeld id space = true := by
    intro app inside
    exact isHeld_iff_isMatch.mpr (due app inside)
  obtain ⟨counted, after, runs, total, brought⟩ := run_converge held distinct filed
  obtain ⟨again, ends⟩ := ends_converge brought.filed brought.inLine held
  refine ⟨counted, again, after, runs, total, ?wanted, ?outside, ?unlabelled,
    brought.tended.others, ends.run⟩
  case wanted =>
    intro app inside
    obtain ⟨found, there, fits⟩ := (brought.inLine app inside).exists_app
    exact ⟨found, there, fun labelled => fits (isHeld_iff_isMatch.mpr labelled)⟩
  case outside =>
    intro otherSpace name away
    exact (brought.tended.each otherSpace name).eq_of_notMem away
  case unlabelled =>
    intro otherSpace name app found lacks
    have each := brought.tended.each otherSpace name
    rw [found] at each
    refine each.eq_of_notHeld (Bool.eq_false_iff.mpr fun ours => ?_)
    cases lacks.symm.trans (isHeld_iff_isMatch.mp ours).1

section Taken

/-- An App of a cluster, in its namespace. -/
def appOf (name version : String) (labels : Labels) (annotations : Option Labels) : App where
  metadata := {
    name := some name
    namespace_ := some "org-acme"
    labels := some (labels.insert Label.cluster "demo0")
    annotations := annotations }
  spec := { name := name, version := version }

def operatorLabels : Labels := .ofList [(Label.managedBy, projectName)]

/-- Beside an App of this operator, onto which the agent has written, stands one of a user. -/
def shared : Memory :=
  (({} : Memory).putApp (appOf "hello" "1.0.0" operatorLabels
    ( Annotation.preserved.head?.map fun key => .ofList [(key, "fluxy")]))).putApp
    (appOf "taken" "0.1.0" ∅ none)

def wantedThree : List App :=
  ["hello", "taken", "extra"].map fun name => appOf name "2.0.0" operatorLabels none

/-- One App is patched and one is created, the one whose name is taken stays a user's, and the
second time nothing is left to do. -/
theorem converge_framed_shared : shared.Filed ∧
    (∀ app ∈ wantedThree,
      (managedSelector "demo0").isMatch app.labels = true ∧ app.namespaceOr "" = "org-acme") ∧
    (wantedThree.map App.name).Nodup ∧
    ∃ counted again after,
      (converge "demo0" "org-acme" wantedThree).run Memory.handle shared = (.ok counted, after) ∧
      counted = { created := ["taken", "extra"], updated := ["hello"] } ∧
      after.app? "org-acme" "taken" = some (appOf "taken" "0.1.0" ∅ none) ∧
      after.log = ["patch_app org-acme/hello", "create_app org-acme/extra"] ∧
      (converge "demo0" "org-acme" wantedThree).run Memory.handle after = (.ok again, after) ∧
      again = { created := ["taken"], unchanged := 2 } := by
  have filed : shared.Filed := (Memory.filed_empty.putApp _).putApp _
  have due : ∀ app ∈ wantedThree,
      (managedSelector "demo0").isMatch app.labels = true ∧ app.namespaceOr "" = "org-acme" := by
    decide +kernel
  have distinct : (wantedThree.map App.name).Nodup := by decide +kernel
  let pass (store : Memory) := (converge "demo0" "org-acme" wantedThree).run Memory.handle store
  have comesTo : (pass shared).1 = .ok { created := ["taken", "extra"], updated := ["hello"] } ∧
      (pass shared).2.log = ["patch_app org-acme/hello", "create_app org-acme/extra"] ∧
      (pass (pass shared).2).1 = .ok { created := ["taken"], unchanged := 2 } := by
    decide +kernel
  obtain ⟨counted, again, after, runs, _, _, _, stays, _, reruns⟩ :=
    converge_framed filed due distinct
  simp only [pass, runs, reruns] at comesTo
  obtain ⟨first, logged, second⟩ := comesTo
  refine ⟨filed, due, distinct, counted, again, after, runs, Except.ok.inj first, ?_, logged,
    reruns, Except.ok.inj second⟩
  exact stays "org-acme" "taken" _ (by decide +kernel) (by decide +kernel)

end Taken

end PlatformApps
