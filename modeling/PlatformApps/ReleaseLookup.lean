/-
# The release of a cluster

A label of the cluster selects the release by its version. Both the label and the release
may be missing, early in the life of a cluster or once the release is retired.
-/

import PlatformApps.Dialogue
import PlatformApps.Naming
import PlatformApps.Resource.Release

namespace PlatformApps

/-- Questions for releases by name; there may be none. -/
@[reducible]
def Releases : Interface := ⟨String, fun _ => Option Release⟩

namespace Releases

/-- Name of the release that a cluster selects. -/
def selectedBy (cluster : Cluster) : Outcome String :=
  match cluster.releaseVersion with
  | some version => .ok (releaseName version)
  | none => .error (.notFound (Label.releaseVersion ++ " label") cluster.name)

def ofCluster (cluster : Cluster) : Dialogue Releases Release := do
  let name ← .ofOutcome (selectedBy cluster)
  let found : Option Release ← Dialogue.request (I := Releases) name
  match found with
  | some release => pure release
  | none => .fail (.notFound "Release" name)

end Releases

end PlatformApps
