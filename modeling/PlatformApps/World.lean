/-
# A world in memory

Everything that passes meet, as a value: a store, the faults of its calls, clusters, an API
server with releases and catalogs, web servers, the metrics, and a clock on which a pause
takes just its time.
-/

import PlatformApps.Api.Sources
import PlatformApps.Catalog.Charts
import PlatformApps.Reconcile
import PlatformApps.Store.Fault

namespace PlatformApps

structure World where
  settings : Settings := {}
  memory : Memory := {}
  faults : List Fault := []
  /-- Clusters by namespace and name. -/
  clusters : Table (String × String) Cluster := ∅
  /-- What the API server replies for the releases and catalogs that there are, by path. -/
  served : Table String ApiReply := ∅
  /-- How many requests the API server has had. -/
  requests : Nat := 0
  /-- What web servers answer; nothing where none can be reached. -/
  reach : String → Option WebReply := fun _ => none
  cache : IndexCache := ∅
  indexLifetime : Rat := Catalogs.usualLifetime
  indexBackoff : Backoff := Backoff.catalogIndex
  metrics : Metrics := {}
  now : Rat := 0

namespace World

/-- Answers a call to the store, unless a fault is in its way. -/
def call (call : StoreCall) (world : World) : Outcome call.Reply × World :=
  match Fault.meet call world.faults with
  | (some failure, faults) => (.error failure, { world with faults })
  | (none, faults) =>
    let (outcome, memory) := world.memory.handle call
    (outcome, { world with faults, memory })

/-- Answers a request to the API server. -/
def reply (request : ApiRequest) (world : World) : Outcome ApiReply × World :=
  (.ok ((world.served.find? request.path).getD (Api.absence request.path)),
    { world with requests := world.requests + 1 })

/-- Plays a dialogue with the API server. -/
def api {α : Type} (dialogue : Dialogue Api α) (world : World) : Outcome α × World :=
  dialogue.run (I := Api) reply world

/-- Answers a question about catalogs. -/
def catalog (request : CatalogRequest) (world : World) : Outcome request.Reply × World :=
  match request with
  | .storageUrl catalog => world.api (Api.storageUrl catalog)
  | .download url =>
    match world.reach url with
    | some reply => (.ok reply, world)
    | none => (.error (.transport s!"{url} cannot be reached"), world)
  | .now => (.ok world.now, world)
  | .jitter => (.ok (1 : Rat), world)
  | .pause seconds => (.ok (), { world with now := world.now + seconds })

/-- Name of a chart, from the index of its catalog. -/
def chartName (catalog app version : String) (world : World) : Outcome String × World :=
  match (Catalogs.chartName world.indexLifetime world.indexBackoff catalog app version
      world.cache).run World.catalog world with
  | (.ok (some (outcome, cache)), world) => (outcome, { world with cache })
  | (.ok none, world) => (.error .unended, world)
  | (.error failure, world) => (.error failure, world)

/-- Pod addresses of a cluster: its first block, or those of the settings. -/
def podCidr (world : World) (cluster : Cluster) : Outcome String :=
  cluster.podCidr world.settings.defaultPodCidr

/-- Changes the finalizers of a cluster. A deleted cluster without finalizers is gone. -/
def finalizers (space name : String) (change : FinalizerChange) (world : World) :
    Outcome Unit × World :=
  match world.clusters.find? (space, name) with
  | none => (.error (.status 404 "NotFound" s!"Cluster {space}/{name} not found"), world)
  | some cluster =>
    match change.result? cluster.finalizers with
    | none => (.error (.status 422 "Invalid" "the finalizers have changed"), world)
    | some remaining =>
      let clusters :=
        if remaining = [] ∧ cluster.metadata.isDeleting then world.clusters.erase (space, name)
        else
          let metadata := { cluster.metadata with finalizers := some remaining }
          world.clusters.insert (space, name) { cluster with metadata }
      (.ok (), { world with clusters })

/-- Answers a request of a pass. -/
def handle (request : OperatorRequest) (world : World) : Outcome request.Reply × World :=
  match request with
  | .store call => world.call call
  | .components cluster => world.api (Release.components <$> Api.releaseOf cluster)
  | .releaseApps cluster => world.api (Release.apps <$> Api.releaseOf cluster)
  | .chartName catalog app version => world.chartName catalog app version
  | .podCidr cluster => (world.podCidr cluster, world)
  | .finalizers space name change => world.finalizers space name change
  | .metric change => (.ok (), { world with metrics := world.metrics.apply change })
  | .now => (.ok world.now, world)
  | .jitter => (.ok (1 : Rat), world)
  | .pause seconds => (.ok (), { world with now := world.now + seconds })

/-- Plays a pass in the world. -/
def play {α : Type} (pass : Dialogue Operator α) (world : World) : Outcome α × World :=
  pass.run handle world

end World

end PlatformApps
