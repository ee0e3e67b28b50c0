/-
# Leases, releases and catalogs of the API server

What is read or changed at the API server beside the object store.
-/

import PlatformApps.Api.Collection
import PlatformApps.Leadership
import PlatformApps.ReleaseLookup
import PlatformApps.Resource.Catalog

namespace PlatformApps

namespace Collection

def clusters (space : Option String) : Collection := ⟨Cluster.type.apiVersion, "clusters", space⟩

def leases (space : String) : Collection := ⟨Lease.type.apiVersion, "leases", some space⟩

def releases : Collection := ⟨Release.type.apiVersion, "releases", none⟩

def catalogs : Collection := ⟨AppCatalog.type.apiVersion, "appcatalogs", none⟩

end Collection

namespace Api

/-- Answers a call about the lease of a namespace. -/
def lease (space : String) (call : LeaseCall) : Dialogue Api Lease :=
  let leases := Collection.leases space
  match call with
  | .read => leases.get Leadership.leaseName Lease.read?
  | .amend patch => leases.mergePatch Leadership.leaseName patch Lease.read?
  | .create lease => leases.create lease.toJson Lease.read?

/-- Attempts to lead, by the lease of a namespace. -/
def acquireLead (space identity : String) (now : Timestamp) : Dialogue Api Bool :=
  ((Leadership.acquire space identity now).translate
    (fun call (_ : Unit) => (lease space call).attempt.bind fun outcome => pure (outcome, ()))
    ()).bind fun result => .ofOutcome result.1

/-- The release of a name, if there is one. -/
def release (name : String) : Dialogue Api (Option Release) :=
  Collection.releases.get? name Release.read?

/-- The release that a cluster selects. -/
def releaseOf (cluster : Cluster) : Dialogue Api Release :=
  ((Releases.ofCluster cluster).translate
    (fun name (_ : Unit) => (release name).attempt.bind fun outcome => pure (outcome, ()))
    ()).bind fun result => .ofOutcome result.1

/-- Where a catalog is stored. -/
def storageUrl (catalog : String) : Dialogue Api String := do
  match ← Collection.catalogs.get? catalog AppCatalog.read? with
  | some found => pure found.spec.storage.url
  | none => .fail (.notFound "AppCatalog" catalog)

end Api

end PlatformApps
