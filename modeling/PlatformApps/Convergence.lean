/-
# Bringing Apps in line

The Apps that a cluster has are compared with those it should have, by namespace and name.
Missing ones are created, different ones are patched. What the platform agent writes back
onto an App is kept.
-/

import PlatformApps.Json.MergePatch
import PlatformApps.Naming
import PlatformApps.Store.Call

namespace PlatformApps

/-- The wanted annotations, and those that the agent wrote back and nobody wants
otherwise. -/
def mergeAnnotations (current desired : Labels) : Labels :=
  Annotation.preserved.foldl (fun merged key =>
    match desired.find? key, current.find? key with
    | none, some value => merged.insert key value
    | _, _ => merged) desired

/-- What a patch may change of an App. -/
def patchableView (labels annotations : Labels) (spec : AppSpec) : Json :=
  .ofFields [
    ("metadata", .ofFields [
      ("labels", .ofTexts labels),
      ("annotations", .ofTexts annotations)]),
    ("spec", spec.toJson)]

/-- The merge patch that brings an App in line with the wanted one. -/
def updatePatch (current desired : App) : Option Json :=
  let annotations := mergeAnnotations current.annotations desired.annotations
  if current.labels = desired.labels ∧ current.annotations = annotations ∧
      current.spec = desired.spec then none
  else
    (patchableView current.labels current.annotations current.spec).mergeDiff
      (patchableView desired.labels annotations desired.spec)

/-- What became of the wanted Apps. -/
structure Convergence where
  created : List String := []
  updated : List String := []
  unchanged : Nat := 0
  deriving DecidableEq, Inhabited

def Convergence.mutations (convergence : Convergence) : Nat :=
  convergence.created.length + convergence.updated.length

/-- The Apps of a cluster that this operator manages. -/
def managedSelector (id : String) : Selector :=
  ⟨[.equals Label.cluster id, .equals Label.managedBy projectName]⟩

/-- The Apps of a cluster that it does not manage. -/
def unmanagedSelector (id : String) : Selector :=
  ⟨[.equals Label.cluster id, .differs Label.managedBy projectName]⟩

/-- Brings one App in line. Somebody else creating it in between is no failure. -/
def convergeApp (space : String) (current : Table (String × String) App) (desired : App)
    (known : Convergence) : Dialogue Store Convergence :=
  let name := desired.name
  let appSpace := desired.namespaceOr space
  match current.find? (appSpace, name) with
  | none => do
    Store.createApp desired Failure.isAlreadyExists
    pure { known with created := known.created ++ [name] }
  | some app =>
    match updatePatch app desired with
    | some patch => do
      Store.patchApp appSpace name patch
      pure { known with updated := known.updated ++ [name] }
    | none => pure { known with unchanged := known.unchanged + 1 }

/-- Brings Apps in line one after the other. -/
def convergeEach (space : String) (current : Table (String × String) App) :
    List App → Convergence → Dialogue Store Convergence
  | [], known => pure known
  | desired :: rest, known =>
    (convergeApp space current desired known).bind (convergeEach space current rest)

/-- Brings the managed Apps of a cluster in line with the wanted ones. -/
def converge (id space : String) (desired : List App) : Dialogue Store Convergence := do
  let listed ← Store.listApps space (managedSelector id)
  let current := Table.ofList (listed.map fun app => ((app.namespaceOr "", app.name), app))
  convergeEach space current desired {}

end PlatformApps
