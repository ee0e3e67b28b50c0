/-
# Releasing Apps from the platform agent

Once the platform agent is gone, nobody takes its finalizer off the Apps that it looked
after. The sweep does, for Apps that are being deleted, and reports the others.
-/

import PlatformApps.Naming
import PlatformApps.Store.Call

namespace PlatformApps

structure SweepOutcome where
  /-- Apps that have lost the finalizer. -/
  released : List String := []
  /-- Apps whose deletion has not been requested. -/
  pending : List String := []
  deriving DecidableEq, Inhabited

/-- Does the cluster have to wait for an App? -/
def SweepOutcome.keepsFinalizer (outcome : SweepOutcome) : Bool := !outcome.pending.isEmpty

/-- Releases Apps one after the other. -/
def sweepEach (space : String) : List App → SweepOutcome → Dialogue Store SweepOutcome
  | [], known => pure known
  | app :: rest, known =>
    if app.isDeleting then
      (Dialogue.tolerate (I := Store)
        (StoreCall.removeAppFinalizer space app.name agentFinalizer)
        Failure.isNotFound false).bind fun (removed : Bool) =>
          sweepEach space rest
            (if removed then { known with released := known.released ++ [app.name] } else known)
    else sweepEach space rest { known with pending := known.pending ++ [app.name] }

/-- Releases the Apps of a cluster, all but the agent's own. -/
def sweep (id space : String) : Dialogue Store SweepOutcome := do
  let apps ← Store.listApps space
    ⟨[.equals Label.cluster id, .differs Label.appName platformAgent]⟩
  sweepEach space apps {}

end PlatformApps
