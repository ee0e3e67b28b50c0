/-
# What a pass of the operator asks

Beside the object store a pass needs to know what the release of a cluster holds, the name
of a chart in a catalog and the pod addresses of a cluster. It reports metrics and waits.
-/

import PlatformApps.Backoff
import PlatformApps.Finalizer
import PlatformApps.Metrics
import PlatformApps.Resource.Release
import PlatformApps.Store.Call

namespace PlatformApps

inductive OperatorRequest where
  | store (call : StoreCall)
  /-- Components of the release that a cluster selects. -/
  | components (cluster : Cluster)
  /-- Apps of the release that a cluster selects. -/
  | releaseApps (cluster : Cluster)
  | chartName (catalog app version : String)
  | podCidr (cluster : Cluster)
  /-- Changes the finalizers of a cluster. -/
  | finalizers (space name : String) (change : FinalizerChange)
  | metric (change : MetricChange)
  | now
  | jitter
  | pause (seconds : Rat)

@[reducible]
def OperatorRequest.Reply : OperatorRequest → Type
  | .store call => call.Reply
  | .components _ => Table String ReleaseComponent
  | .releaseApps _ => Table String ReleaseApp
  | .chartName .. => String
  | .podCidr _ => String
  | .finalizers .. => Unit
  | .metric _ => Unit
  | .now | .jitter => Rat
  | .pause _ => Unit

@[reducible]
def Operator : Interface := ⟨OperatorRequest, OperatorRequest.Reply⟩

namespace Operator

/-- Calls of the store as part of a pass. -/
def calls {α : Type} (dialogue : Dialogue Store α) : Dialogue Operator α :=
  dialogue.embed OperatorRequest.store fun _ reply => reply

def store (call : StoreCall) : Dialogue Operator call.Reply :=
  .ask (OperatorRequest.store call) .done

def components (cluster : Cluster) : Dialogue Operator (Table String ReleaseComponent) :=
  .ask (OperatorRequest.components cluster) .done

def releaseApps (cluster : Cluster) : Dialogue Operator (Table String ReleaseApp) :=
  .ask (OperatorRequest.releaseApps cluster) .done

def chartName (catalog app version : String) : Dialogue Operator String :=
  .ask (OperatorRequest.chartName catalog app version) .done

def podCidr (cluster : Cluster) : Dialogue Operator String :=
  .ask (OperatorRequest.podCidr cluster) .done

def finalizers (space name : String) (change : FinalizerChange) : Dialogue Operator Unit :=
  .ask (OperatorRequest.finalizers space name change) .done

def metric (change : MetricChange) : Dialogue Operator Unit :=
  .ask (OperatorRequest.metric change) .done

def clock : Clock Operator where
  now := .ask OperatorRequest.now .done
  jitter := .ask OperatorRequest.jitter .done
  pause seconds := .ask (OperatorRequest.pause seconds) .done

end Operator

/-- The component that installs all others. A release without a version of it cannot be
used. -/
def agentComponent (components : Table String ReleaseComponent) : Outcome ReleaseComponent :=
  match (components.find? platformAgent).filter fun component => component.version ≠ "" with
  | some component => .ok component
  | none => .error (.validation (.releaseWithoutComponent platformAgent))

end PlatformApps
