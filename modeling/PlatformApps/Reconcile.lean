/-
# Passes over a cluster

A pass over a live cluster brings its namespace, its artifacts and its Apps in line. A pass
over a deleted cluster takes them away in order. `supervise` chooses between the two and
handles the finalizer, which comes off after every cleanup that does not fail; `pass` adds
what the operator counts about its passes.
-/

import PlatformApps.Artifacts
import PlatformApps.ClusterSpace
import PlatformApps.Sweep
import PlatformApps.Teardown
import PlatformApps.VersionLabels

namespace PlatformApps

/-- When a cluster is looked at again. -/
inductive NextPass where
  /-- After some seconds, or earlier when it changes. -/
  | after (seconds : Nat)
  /-- When it changes. -/
  | onChange
  deriving DecidableEq, Repr, Inhabited

namespace NextPass

/-- A cluster in its wanted state is looked at from time to time. -/
def resync : NextPass := .after 300

/-- Something is still going away or not there yet. -/
def suspended : NextPass := .after 30

/-- Another instance looks after the clusters. -/
def notLeading : NextPass := .after 15

/-- A pass has failed: soon again where that may help. -/
def afterFailure (failure : Failure) : NextPass := .after (if failure.isRetriable then 15 else 60)

end NextPass

/-- Brings a live cluster in line. -/
def applyCluster (settings : Settings) (cluster : Cluster) : Dialogue Operator NextPass := do
  let id := cluster.id
  if id = "" then
    .fail (.validation (.clusterWithoutId cluster.name Label.cluster Label.clusterName))
  else
    Operator.calls (ClusterSpace.ensure id)
    let artifacts ← Artifacts.ensure settings cluster
    match ← (compile settings cluster).attempt with
    | .error failure =>
      if failure.isNotFound then pure NextPass.suspended else .fail failure
    | .ok compiled =>
      let _ ← Operator.calls (converge id cluster.space compiled.apps)
      let _ ← ensureVersionLabels cluster
      match compiled.failure? with
      | some failure => .fail failure
      | none => pure (if artifacts = .applied then NextPass.resync else NextPass.suspended)

/-- Reports what a teardown waits for. -/
def reportTeardown (id : String) (step : TeardownStep) : Dialogue Operator Unit := do
  let dangling :=
    match step with
    | .suspended .waitingTenantGone remaining => remaining.length
    | _ => 0
  Operator.metric (.dangling id dangling)
  Operator.metric (.phase id step.phase.ordinal)

/-- Takes away what a deleted cluster has. A pass that has nothing left to wait for lets
the cluster go. -/
def cleanupCluster (settings : Settings) (liveness : Backoff) (cluster : Cluster) :
    Dialogue Operator NextPass := do
  let id := cluster.id
  let space := cluster.space
  if id = "" then pure .onChange
  else
    let compiled ← (compileAsLive settings cluster).attempt
    let secondTier ← .ofOutcome (secondTierName compiled id)
    let step ← Operator.calls (Teardown.run { id, space, secondTier })
    reportTeardown id step
    match step with
    | .suspended .. => pure NextPass.suspended
    | .done =>
      awaitAgentGone liveness id space
      let swept ← Operator.calls (sweep id space)
      if swept.keepsFinalizer then pure NextPass.suspended
      else
        Operator.calls (Artifacts.remove id space)
        Operator.calls (ClusterSpace.remove id)
        Operator.metric (.forget id)
        pure .onChange

/-- Changes the finalizers of a cluster, which must have a name. -/
def changeFinalizers (cluster : Cluster) (change : FinalizerChange) : Dialogue Operator Unit :=
  match cluster.metadata.name with
  | none => .fail (.finalizer .unnamedObject)
  | some name =>
    (Operator.finalizers cluster.space name change).attempt.bind fun
    | .ok () => pure ()
    | .error failure => .fail (change.failure failure)

/-- Does for a cluster what its stage asks for. -/
def supervise (settings : Settings) (liveness : Backoff) (cluster : Cluster) :
    Dialogue Operator NextPass :=
  match cluster.stage with
  | .apply => applyCluster settings cluster
  | .adopt => do
    changeFinalizers cluster (.add cluster.finalizers)
    pure .onChange
  | .cleanUp place =>
    if cluster.metadata.name = none then .fail (.finalizer .unnamedObject)
    else do
      let next ← cleanupCluster settings liveness cluster
      changeFinalizers cluster (.remove place)
      pure next
  | .leave => pure .onChange

/-- Name under which passes are counted. -/
def controllerName : String := "cluster"

/-- What came of a pass, and when the cluster is looked at again. -/
structure PassReport where
  outcome : Outcome NextPass
  next : NextPass
  deriving DecidableEq

/-- Reports a pass. A failed one is counted and repeated before long. -/
def reportPass (outcome : Outcome NextPass) : Dialogue Operator PassReport :=
  match outcome with
  | .ok next => pure ⟨outcome, next⟩
  | .error failure => do
    Operator.metric (.failure controllerName failure.kind)
    pure ⟨outcome, .afterFailure failure⟩

/-- Looks at a cluster, and reports how long that took. Only the leader does anything. -/
def pass (settings : Settings) (liveness : Backoff) (leads : Bool) (cluster : Cluster) :
    Dialogue Operator PassReport :=
  if leads then do
    let started ← Operator.clock.now
    let outcome ← (supervise settings liveness cluster).attempt
    let ended ← Operator.clock.now
    let taken := ended - started
    let seconds := (Binary64.ofFraction false taken.num.toNat taken.den).getD .zero
    Operator.metric (.duration controllerName seconds)
    reportPass outcome
  else reportPass (.ok .notLeading)

end PlatformApps
