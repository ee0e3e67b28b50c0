/-
# Looking after the clusters

The controller lists the clusters and the Apps that the operator manages, visits every
cluster it finds, and visits it again when the last pass said so. A list may come in pages;
a list of which a page cannot be read is begun again. What is to be done, and when, is an
agenda of errands: an errand stands on it once, at the earliest time asked for.
-/

import PlatformApps.Outside
import PlatformApps.Reconcile

namespace PlatformApps

/-- What tells clusters apart. -/
structure ClusterKey where
  space : Option String
  name : String
  deriving DecidableEq, Repr

def Cluster.key (cluster : Cluster) : ClusterKey :=
  ⟨cluster.metadata.namespace_, cluster.metadata.name.getD ""⟩

/-- The cluster that is visited when an App changes: Apps carry no owner, so their label
tells. -/
def App.clusterKey? (app : App) : Option ClusterKey := do
  let name ← app.labels.find? Label.cluster
  let space ← app.metadata.namespace_
  pure ⟨some space, name⟩

/-- The Apps that are watched. -/
def watchedApps : Selector := ⟨[.equals Label.managedBy projectName]⟩

inductive Errand where
  /-- Reads the page of clusters behind a mark, or the first one, after some attempts that
  failed. -/
  | listClusters (failed : Nat) (mark : Option String)
  | listApps (failed : Nat) (mark : Option String)
  | visit (key : ClusterKey)
  deriving DecidableEq, Repr

namespace Errand

/-- A cluster is visited once the clusters are known. -/
def isReady (areKnown : Bool) : Errand → Bool
  | visit _ => areKnown
  | _ => true

end Errand

/-- Errands, and from when on each may be run. -/
abbrev Agenda := List (Rat × Errand)

namespace Agenda

/-- Puts an errand on the agenda, unless it stands there for an earlier time. -/
def plan (agenda : Agenda) (time : Rat) (errand : Errand) : Agenda :=
  if agenda.any fun entry => entry.2 = errand && decide (entry.1 ≤ time) then agenda
  else agenda.filter (fun entry => entry.2 ≠ errand) ++ [(time, errand)]

/-- The earliest of the errands that are ready, of several the one planned first. -/
def earliest? (isReady : Errand → Bool) (agenda : Agenda) : Option (Rat × Errand) :=
  (agenda.filter fun entry => isReady entry.2).foldl (fun found entry =>
    match found with
    | none => some entry
    | some earlier => if entry.1 < earlier.1 then some entry else some earlier) none

def remove (agenda : Agenda) (errand : Errand) : Agenda :=
  agenda.filter fun entry => entry.2 ≠ errand

end Agenda

/-- What the controller reports about an errand. -/
inductive ControllerEvent where
  | passed (report : PassReport)
  | unknownCluster (key : ClusterKey)
  | notListed (failure : Failure)
  deriving DecidableEq

structure Controller where
  /-- The clusters, once they have been listed; of several with one key the first counts. -/
  clusters : Option (List Cluster) := none
  /-- Those of the pages so far, in the same manner. -/
  listed : List Cluster := []
  agenda : Agenda := []
  keepings : Keepings := {}

namespace Controller

/-- Starts with a look at the clusters, to see whether their type is known at all. -/
def start (settings : Settings) : Dialogue Outside Controller :=
  (Outside.api ((Collection.clusters settings.watchNamespace).list none Cluster.read?)).attempt.bind
    fun
    | .error _ => .fail (.config .clusterKindMissing)
    | .ok _ => do
      let now ← Outside.clock.now
      pure { agenda := [(now, .listApps 0 none), (now, .listClusters 0 none)] }

/-- Seconds until a list is asked for again. -/
def listPause (failed : Nat) : Rat :=
  let pause := 4 / 5 * Rat.pow 2 failed
  if pause ≤ 30 then pause else 30

def nextErrand? (controller : Controller) : Option (Rat × Errand) :=
  controller.agenda.earliest? (Errand.isReady controller.clusters.isSome)

def plan (controller : Controller) (time : Rat) (errand : Errand) : Controller :=
  { controller with agenda := controller.agenda.plan time errand }

/-- Visits clusters as soon as may be. -/
def planVisits (controller : Controller) (now : Rat) (keys : List ClusterKey) : Controller :=
  keys.foldl (fun controller key => controller.plan now (.visit key)) controller

/-- The cluster of a key, as it was listed. -/
def cluster? (controller : Controller) (key : ClusterKey) : Option Cluster :=
  (controller.clusters.getD []).find? fun cluster => cluster.key = key

/-- Reads a page of a collection. The last page must tell the state of the collection,
from which on changes are watched. -/
def readPage {α : Type} (collection : Collection) (selector mark : Option String)
    (read : Written → Option α) : Dialogue Outside (Outcome (Collection.Page α)) :=
  (Outside.api (collection.page selector mark read)).attempt.bind fun
  | .ok page =>
    if page.next.isNone && page.resourceVersion.isNone then
      pure (.error (.exchange "the list has no version"))
    else pure (.ok page)
  | .error failure => pure (.error failure)

/-- Visits a cluster. -/
def visit (settings : Settings) (liveness : Backoff) (leads : Bool) (controller : Controller)
    (key : ClusterKey) : Dialogue Outside (ControllerEvent × Controller) :=
  match controller.cluster? key with
  | none => pure (.unknownCluster key, controller)
  | some cluster => do
    let (outcome, keepings) ←
      Outside.play settings (pass settings liveness leads cluster) controller.keepings
    let report :=
      match outcome with
      | .ok report => report
      | .error failure => ⟨.error failure, .afterFailure failure⟩
    let controller := { controller with keepings }
    match report.next with
    | .onChange => pure (.passed report, controller)
    | .after seconds => do
      let now ← Outside.clock.now
      pure (.passed report, controller.plan (now + seconds) (.visit key))

/-- Runs an errand. -/
def run (settings : Settings) (liveness : Backoff) (leads : Bool) (controller : Controller)
    (errand : Errand) : Dialogue Outside (Option ControllerEvent × Controller) := do
  let controller := { controller with agenda := controller.agenda.remove errand }
  let now ← Outside.clock.now
  match errand with
  | .visit key => do
    let (event, controller) ← visit settings liveness leads controller key
    pure (some event, controller)
  | .listClusters failed mark =>
    match ← readPage (Collection.clusters settings.watchNamespace) none mark Cluster.read? with
    | .ok page =>
      let listed := page.members.reverse ++ controller.listed
      let controller := controller.planVisits now (page.members.map Cluster.key)
      match page.next with
      | some mark =>
        pure (none, { controller with listed }.plan now (.listClusters failed (some mark)))
      | none => pure (none, { controller with clusters := some listed, listed := [] })
    | .error failure =>
      pure (some (.notListed failure),
        { controller with listed := [] }.plan (now + listPause failed)
          (.listClusters (failed + 1) none))
  | .listApps failed mark =>
    match ← readPage (Collection.apps settings.watchNamespace) (some watchedApps.render) mark
        App.read? with
    | .ok page =>
      let controller := controller.planVisits now (page.members.filterMap App.clusterKey?)
      match page.next with
      | some mark => pure (none, controller.plan now (.listApps failed (some mark)))
      | none => pure (none, controller)
    | .error failure =>
      pure (some (.notListed failure),
        controller.plan (now + listPause failed) (.listApps (failed + 1) none))

/-- Runs the next errand, waiting until its time has come. Nothing is left to do where
there is none before the limit. -/
def step (settings : Settings) (liveness : Backoff) (leads : Bool) (limit : Rat)
    (controller : Controller) : Dialogue Outside (Option (Option ControllerEvent × Controller)) :=
  match controller.nextErrand? with
  | none => pure none
  | some (time, errand) =>
    if limit ≤ time then pure none
    else do
      let now ← Outside.clock.now
      if now < time then Outside.clock.pause (time - now)
      some <$> run settings liveness leads controller errand

/-- The events of a number of errands, with the times at which they came to pass. -/
def events (settings : Settings) (liveness : Backoff) (leads : Bool) (limit : Rat) :
    (errands wanted : Nat) → Controller →
      Dialogue Outside (List (Rat × ControllerEvent) × Controller)
  | 0, _, controller | _, 0, controller => pure ([], controller)
  | errands + 1, wanted + 1, controller => do
    match ← step settings liveness leads limit controller with
    | none => pure ([], controller)
    | some (none, controller) =>
      events settings liveness leads limit errands (wanted + 1) controller
    | some (some event, controller) =>
      let now ← Outside.clock.now
      if limit < now then pure ([], controller)
      else do
        let (later, controller) ← events settings liveness leads limit errands wanted controller
        pure ((now, event) :: later, controller)

/-- Looks after the clusters until a number of events has come to pass. Every errand but
the reading of a page reports an event. -/
def watch (settings : Settings) (leads : Bool) (limit : Rat) (pages wanted : Nat)
    (controller : Controller) : Dialogue Outside (List (Rat × ControllerEvent) × Controller) :=
  events settings Backoff.liveness leads limit (pages + wanted) wanted controller

end Controller

end PlatformApps
