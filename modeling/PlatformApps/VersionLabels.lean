/-
# Version labels

The platform agent looks after the Apps that carry its own version as a label. Apps that
users install are therefore kept at the version of the agent in the cluster's release.
-/

import PlatformApps.Convergence
import PlatformApps.Manifest

namespace PlatformApps

/-- The patch that sets the version label of an App. -/
def versionPatch (version : String) : Json :=
  .ofFields [("metadata", .ofFields [("labels", .ofFields [(Label.agentVersion, .str version)])])]

/-- Sets the label of each App that is not being deleted and has another version. The
answer holds the names of the patched Apps. -/
def relabelEach (space version : String) : List App → Dialogue Store (List String)
  | [] => pure []
  | app :: rest =>
    if app.isDeleting || app.labels.find? Label.agentVersion == some version then
      relabelEach space version rest
    else
      (Store.patchApp space app.name (versionPatch version)).bind fun _ =>
        (relabelEach space version rest).bind fun others => pure (app.name :: others)

/-- Sets the version label of the unmanaged Apps of a cluster. -/
def ensureVersionLabels (cluster : Cluster) : Dialogue Operator (List String) := do
  let apps ← Operator.calls (Store.listApps cluster.space (unmanagedSelector cluster.id))
  if apps.isEmpty then pure []
  else
    let agent ← .ofOutcome (agentComponent (← Operator.components cluster))
    Operator.calls (relabelEach cluster.space agent.version apps)

end PlatformApps
