/-
# The namespace of a cluster

Every cluster has a namespace with its id for a name. Only a namespace that carries this
operator's label is ever deleted.
-/

import PlatformApps.Naming
import PlatformApps.Store.Call

namespace PlatformApps.ClusterSpace

def desired (id : String) : Namespace where
  metadata := { name := some id, labels := some (managedLabels id) }

/-- Creates the namespace where there is none. -/
def ensure (id : String) : Dialogue Store Unit :=
  Dialogue.tolerate (I := Store) (StoreCall.createNamespace (desired id))
    Failure.isAlreadyExists ()

/-- Deletes the namespace, if it is this operator's. -/
def remove (id : String) : Dialogue Store Unit :=
  .ask (StoreCall.getNamespace id) fun
  | .error failure => if failure.isNotFound then pure () else .fail failure
  | .ok (space : Namespace) =>
    if isManaged space.metadata.labelTable then
      Dialogue.tolerate (I := Store) (StoreCall.deleteNamespace id) Failure.isNotFound ()
    else pure ()

end PlatformApps.ClusterSpace
