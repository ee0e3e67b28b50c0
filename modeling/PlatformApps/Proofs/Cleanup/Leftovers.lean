/-
# What a cleanup leaves

A cleanup over the in-memory store either ends with nothing left of the cluster or leaves
all config maps, secrets and namespaces as they were: they go last, and what removes them
does not fail. Where nothing is left, another cleanup finds nothing to do.
-/

import PlatformApps.Proofs.Cleanup.Stages
import PlatformApps.Proofs.Store.Removal
import PlatformApps.Proofs.Surroundings
import PlatformApps.Proofs.Teardown.Run

namespace PlatformApps.Cleanup

/-- The Apps of a cluster are gone, with all that have the name of an operator. -/
structure Cleared (cluster : Cluster) (memory : Memory) : Prop where
  apps : ∀ name app, memory.app? cluster.space name = some app → app.isOf cluster.id = false
  secondTier : memory.app? cluster.space (secondTierAppName cluster.id) = none
  agent : memory.app? cluster.space (agentAppName cluster.id) = none

/-- Nothing is left of a cluster in a store. -/
structure Emptied (cluster : Cluster) (memory : Memory) : Prop extends
    Cleared cluster memory where
  deployment : memory.deployments.find? (cluster.space, agentDeploymentName cluster.id) = none
  artifacts : Artifacts.AbsentFrom cluster.id cluster.space memory
  space : ClusterSpace.AbsentFrom cluster.id memory

variable {σ : Type} {surroundings : Surroundings σ} {settings : Settings} {liveness : Backoff}
  {cluster : Cluster} {state after : σ} {memory left : Memory}

/-- A compilation only reads the store. -/
theorem memory_of_compileAsLive (surroundings : Surroundings σ) (settings : Settings)
    (cluster : Cluster) (state : σ) (memory : Memory) :
    ((compileAsLive settings cluster).run surroundings.handle (state, memory)).2.2 = memory := by
  have asks : (compileAsLive settings cluster).Asks fun request : OperatorRequest =>
      ∀ state, (surroundings.handle request state).2.2 = state.2 :=
    asks_compileAsLive (fun _ => rfl) (fun _ => rfl) (fun _ => rfl) (fun _ => rfl)
      fun _ _ _ _ => rfl
  exact asks.run_keeps (fun state => state.2) (fun request keeps => keeps) (state, memory)

/-- Whether a compilation succeeds, and how it fails, is settled by the release and by the
first listing. -/
theorem map_compileAsLive :
    ((compileAsLive settings cluster).run surroundings.handle (state, memory)).1.map
        (fun _ => ()) =
      (surroundings.components cluster state).1.bind fun known =>
        (agentComponent known).bind fun _ =>
          (surroundings.releaseApps cluster (surroundings.components cluster state).2).1.bind
            fun _ => (memory.listed "ConfigMaps" memory.configMaps cluster.space).map
              fun _ => () := by
  simp only [compileAsLive, Dialogue.bind_eq, Dialogue.pure_eq, Dialogue.fst_run_bind,
    Operator.components, Operator.releaseApps, Operator.store, Dialogue.ofOutcome, Dialogue.run,
    Surroundings.handle, Memory.handle_listConfigMapNames, Memory.handle_listSecretNames]
  rcases (surroundings.components cluster state).1 with failure | known
  · rfl
  · rcases agent : agentComponent known with failure | agent
    · simp only [Except.bind, Except.map, agent]
    · simp only [Except.bind, agent]
      rcases (surroundings.releaseApps cluster (surroundings.components cluster state).2).1
        with failure | entries
      · rfl
      · simp only [Memory.listed]
        rcases memory.listingFailure with _ | code
        · obtain ⟨charts, _, found⟩ := run_chartsFor surroundings.handle settings
            (installedEntries cluster entries)
            ((surroundings.releaseApps cluster (surroundings.components cluster state).2).2,
              memory)
          dsimp only
          rw [found]
          rfl
        · rfl

/-- Where the release reads the same and listings fare the same, the second tier is looked
for under the same name. -/
theorem secondTierName_of_readsAlike {other : σ} {second : Memory}
    (alike : surroundings.ReadsAlike cluster state other)
    (listing : memory.listingFailure = second.listingFailure) :
    secondTierName ((compileAsLive settings cluster).run surroundings.handle
        (state, memory)).1 cluster.id =
      secondTierName ((compileAsLive settings cluster).run surroundings.handle
        (other, second)).1 cluster.id := by
  have same : ((compileAsLive settings cluster).run surroundings.handle (state, memory)).1.map
        (fun _ => ()) =
      ((compileAsLive settings cluster).run surroundings.handle (other, second)).1.map
        (fun _ => ()) := by
    rw [map_compileAsLive, map_compileAsLive, alike.components, alike.releaseApps]
    simp only [Memory.listed, listing]
    cases second.listingFailure <;> rfl
  rw [secondTierName_compileAsLive, secondTierName_compileAsLive, same]

/-- While the agent is waited for, only its deployment can go. -/
theorem memory_of_awaitAgentGone {outcome : Outcome Unit} {id space : String}
    (awaited : (awaitAgentGone liveness id space).run surroundings.handle (state, memory) =
      (outcome, (after, left))) :
    left = { memory with deployments := left.deployments } := by
  have asks : (awaitAgentGone liveness id space).Asks fun request : OperatorRequest =>
      ∀ state, (fun deployments => { (surroundings.handle request state).2.2 with deployments }) =
        fun deployments => { state.2 with deployments } := by
    refine asks_awaitAgentGone (fun _ => rfl) (fun _ => rfl) (fun _ _ => rfl) fun state => ?_
    simp only [Surroundings.handle, Memory.handle, Memory.deploymentExists]
    split <;> rfl
  have kept : (fun deployments => { ((awaitAgentGone liveness id space).run surroundings.handle
        (state, memory)).2.2 with deployments }) =
      fun deployments => { memory with deployments } :=
    asks.run_keeps (fun state deployments => { state.2 with deployments })
      (fun request keeps => keeps) (state, memory)
  rw [awaited] at kept
  exact congrFun kept left.deployments

/-- A check for the deployment that finds none leaves none. -/
theorem deployment_absent_of_check {space name : String} {before : σ × Memory}
    (absent : surroundings.handle (.store (.deploymentExists space name)) before =
      (.ok false, (after, left))) : left.deployments.find? (space, name) = none := by
  simp only [Surroundings.handle, Memory.handle, Memory.deploymentExists] at absent
  split at absent
  · rename_i missing
    cases absent
    exact missing
  · cases absent
  · cases absent
    simp only [Table.find?_erase, if_true]
  · cases absent

theorem run_reportTeardown (surroundings : Surroundings σ) (id : String) (step : TeardownStep)
    (state : σ) (memory : Memory) :
    ∃ after, (reportTeardown id step).run surroundings.handle (state, memory) =
      (.ok (), (after, memory)) :=
  ⟨_, rfl⟩

/-- Once the name of the second tier is known, a teardown plays on the store alone. -/
theorem exists_tornDown_iff {step : TeardownStep} :
    (∃ after, TornDown surroundings.handle settings cluster (state, memory) step (after, left)) ↔
      secondTierName ((compileAsLive settings cluster).run surroundings.handle
          (state, memory)).1 cluster.id = .ok (secondTierAppName cluster.id) ∧
        (Teardown.run ⟨cluster.id, cluster.space, secondTierAppName cluster.id⟩).run
          Memory.handle memory = (.ok step, left) := by
  have read := memory_of_compileAsLive surroundings settings cluster state memory
  rcases compiles : (compileAsLive settings cluster).run surroundings.handle (state, memory) with
    ⟨compiled, compiledAt, same⟩
  rw [compiles] at read ⊢
  obtain rfl : memory = same := read.symm
  constructor
  · rintro ⟨after, ⟨compiles', named, runs, reports⟩⟩
    cases compiles.symm.trans compiles'
    obtain rfl := eq_of_secondTierName compiles named
    rw [Surroundings.run_stored, Prod.mk.injEq] at runs
    obtain ⟨stepped, rfl⟩ := runs
    obtain ⟨_, reported⟩ := run_reportTeardown surroundings cluster.id step compiledAt
      ((Teardown.run ⟨cluster.id, cluster.space, secondTierAppName cluster.id⟩).run
        Memory.handle memory).2
    cases reported.symm.trans reports
    exact ⟨named, Prod.ext stepped rfl⟩
  · rintro ⟨named, runs⟩
    obtain ⟨after, reports⟩ := run_reportTeardown surroundings cluster.id step compiledAt left
    refine ⟨after, .intro compiles named ?_ reports⟩
    rw [Surroundings.run_stored, runs]

theorem Cleared.appsOf_eq_nil (cleared : Cleared cluster memory) :
    memory.appsOf cluster.space cluster.id = [] :=
  Memory.appsOf_eq_nil_iff.mpr cleared.apps

theorem Cleared.of_apps_eq (cleared : Cleared cluster memory) (same : left.apps = memory.apps) :
    Cleared cluster left := by
  have sameApp (space name : String) : left.app? space name = memory.app? space name := by
    rw [Memory.app?, same, Memory.app?]
  constructor
  · intro name app found
    exact cleared.apps name app (sameApp _ _ ▸ found)
  · exact (sameApp _ _).trans cleared.secondTier
  · exact (sameApp _ _).trans cleared.agent

/-- A teardown that is done leaves no App of the cluster. -/
theorem TornDown.cleared (filed : memory.Filed)
    (tornDown : TornDown surroundings.handle settings cluster (state, memory) .done
      (after, left)) :
    Cleared cluster left ∧ left.listingFailure = memory.listingFailure := by
  obtain ⟨_, runs⟩ := exists_tornDown_iff.mp ⟨_, tornDown⟩
  rw [Teardown.run_run, Prod.mk.injEq, Except.ok.injEq] at runs
  obtain ⟨done, rfl⟩ := runs
  have reduced : Memory.Reduced _ memory (Teardown.afterRun
      ⟨cluster.id, cluster.space, secondTierAppName cluster.id⟩ memory) :=
    Teardown.reduced_afterRun memory
  obtain ⟨apps, secondTier, agent⟩ :=
    Teardown.absent_of_stepIn_eq_done (reduced.filed filed) done
  refine ⟨⟨Memory.appsOf_eq_nil_iff.mp apps, secondTier, agent⟩, ?_⟩
  rw [reduced.others]

/-- Where the sweep has been reached there is nothing to sweep. -/
theorem Swept.cleared {swept : SweepOutcome} (filed : memory.Filed)
    (isSwept : Swept surroundings.handle settings liveness cluster (state, memory) swept
      (after, left)) :
    Cleared cluster left ∧
      left.deployments.find? (cluster.space, agentDeploymentName cluster.id) = none ∧
      left.listingFailure = memory.listingFailure := by
  obtain ⟨tornDown, agentGone, sweeps⟩ := isSwept
  rename_i torn alone
  obtain ⟨cleared, listing⟩ := tornDown.cleared filed
  obtain ⟨last, _, checked⟩ := deployment_absent_of_awaitAgentGone agentGone
  have waited := memory_of_awaitAgentGone agentGone
  have clearedAlone : Cleared cluster alone.2 := cleared.of_apps_eq (by rw [waited])
  rw [Surroundings.run_stored, run_sweep_of_none clearedAlone.appsOf_eq_nil, Prod.mk.injEq,
    Prod.mk.injEq] at sweeps
  obtain ⟨_, _, rfl⟩ := sweeps
  refine ⟨clearedAlone, deployment_absent_of_check checked, ?_⟩
  rw [waited, ← listing]

/-- A cleanup that goes through all of its stages leaves nothing of its cluster, and
listings of names fare as before. -/
theorem Finishes.emptied (filed : memory.Filed)
    (finishes : Finishes surroundings.handle settings liveness cluster (state, memory)
      (after, left)) :
    Emptied cluster left ∧ left.listingFailure = memory.listingFailure := by
  obtain ⟨isSwept, nothingPending, artifacts, space, forgotten⟩ := finishes
  rename_i clear bare spaceless swept
  obtain ⟨cleared, deployment, listing⟩ := isSwept.cleared filed
  obtain ⟨withoutArtifacts, removed, artifactsAbsent, sameBut⟩ :=
    Artifacts.run_remove cluster.id cluster.space clear.2
  rw [Surroundings.run_stored, removed, Prod.mk.injEq] at artifacts
  obtain ⟨_, rfl⟩ := artifacts
  obtain ⟨withoutSpace, removedSpace, spaceAbsent, sameButSpace⟩ :=
    ClusterSpace.run_remove cluster.id withoutArtifacts
  rw [Surroundings.run_stored, removedSpace, Prod.mk.injEq] at space
  obtain ⟨_, rfl⟩ := space
  cases forgotten
  have finallyCleared : Cleared cluster withoutSpace :=
    cleared.of_apps_eq (by rw [sameButSpace, sameBut])
  refine ⟨{
    toCleared := finallyCleared
    deployment := by rw [sameButSpace, sameBut, deployment]
    artifacts := by
      rw [sameButSpace]
      exact ⟨artifactsAbsent.agentValues, artifactsAbsent.clusterValues,
        artifactsAbsent.clusterSecrets⟩
    space := spaceAbsent }, ?_⟩
  rw [sameButSpace, sameBut, ← listing]

theorem run_awaitAgentGone_of_absent (surroundings : Surroundings σ)
    (absent : memory.deployments.find? (cluster.space, agentDeploymentName cluster.id) = none)
    (liveness : Backoff) (state : σ) :
    ∃ after, (awaitAgentGone liveness cluster.id cluster.space).run surroundings.handle
      (state, memory) = (.ok (), (after, memory)) := by
  have answer : memory.handle (.deploymentExists cluster.space (agentDeploymentName cluster.id)) =
      (.ok false, memory) := by
    simp only [Memory.handle, Memory.deploymentExists, absent]
  have now : Operator.clock.now.run surroundings.handle (state, memory) =
      (.ok (surroundings.now state).1, ((surroundings.now state).2, memory)) := rfl
  have nothingThere (state : σ) : (Operator.calls (Store.deploymentExists cluster.space
      (agentDeploymentName cluster.id))).run surroundings.handle (state, memory) =
        (.ok false, (state, memory)) := by
    rw [Operator.run_calls, Surroundings.run_stored, Store.deploymentExists,
      Dialogue.run_ask_of_answer answer, Dialogue.run_done]
  refine ⟨(surroundings.now state).2, Backoff.retry_of_first now ?_⟩
  rw [Dialogue.bind_eq, Dialogue.run_bind_of_ok (nothingThere _)]
  rfl

/-- Where nothing is left of a cluster, a cleanup goes through and changes nothing. -/
theorem finishes_of_emptied (emptied : Emptied cluster memory)
    (named : secondTierName ((compileAsLive settings cluster).run surroundings.handle
      (state, memory)).1 cluster.id = .ok (secondTierAppName cluster.id)) :
    ∃ after, Finishes surroundings.handle settings liveness cluster (state, memory)
      (after, memory) := by
  have apps := emptied.appsOf_eq_nil
  obtain ⟨torn, tornDown⟩ := exists_tornDown_iff.mpr
    ⟨named, Teardown.run_run_of_absent apps emptied.secondTier emptied.agent⟩
  obtain ⟨alone, agentGone⟩ := run_awaitAgentGone_of_absent surroundings
    emptied.deployment liveness torn
  have sweeps : (sweep cluster.id cluster.space).run (Operator.stored surroundings.handle)
      (alone, memory) = (.ok {}, (alone, memory)) := by
    rw [Surroundings.run_stored, run_sweep_of_none apps]
  have artifacts : (Artifacts.remove cluster.id cluster.space).run
      (Operator.stored surroundings.handle) (alone, memory) = (.ok (), (alone, memory)) := by
    rw [Surroundings.run_stored, Artifacts.run_remove_of_absent emptied.artifacts]
  have space : (ClusterSpace.remove cluster.id).run
      (Operator.stored surroundings.handle) (alone, memory) = (.ok (), (alone, memory)) := by
    rw [Surroundings.run_stored, ClusterSpace.run_remove_of_absent emptied.space]
  exact ⟨_, .intro (.intro tornDown agentGone sweeps) rfl artifacts space rfl⟩

/-- What removes config maps, secrets and the namespace does not fail, so a cleanup that
does not go through has left them alone. -/
theorem provisions_of_cleanupCluster (surroundings : Surroundings σ) (settings : Settings)
    (liveness : Backoff) (cluster : Cluster) (state : σ) (memory : Memory) :
    ((cleanupCluster settings liveness cluster).run surroundings.handle (state, memory)).1 =
        .ok .onChange ∨
      ((cleanupCluster settings liveness cluster).run surroundings.handle
        (state, memory)).2.2.provisions = memory.provisions := by
  let view (state : σ × Memory) := state.2.provisions
  let endsWell (outcome : Outcome NextPass) := outcome = .ok .onChange
  have compiles (between : σ × Memory) :
      view ((compileAsLive settings cluster).attempt.run surroundings.handle between).2 =
        view between := by
    rw [Dialogue.run_attempt]
    exact congrArg Memory.provisions
      (memory_of_compileAsLive surroundings settings cluster between.1 between.2)
  have tearsDown (teardown : Teardown) (between : σ × Memory) :
      view ((Operator.calls teardown.run).run surroundings.handle between).2 =
        view between := by
    obtain ⟨state, memory⟩ := between
    rw [Operator.run_calls, Surroundings.run_stored, Teardown.run_run]
    exact (teardown.reduced_afterRun memory).provisions_eq
  have waits (between : σ × Memory) :
      view ((awaitAgentGone liveness cluster.id cluster.space).run surroundings.handle
        between).2 = view between := by
    obtain ⟨state, memory⟩ := between
    rcases awaited : (awaitAgentGone liveness cluster.id cluster.space).run surroundings.handle
      (state, memory) with ⟨outcome, after, left⟩
    have waited := memory_of_awaitAgentGone awaited
    rw [awaited]
    exact (congrArg Memory.provisions waited).trans rfl
  have sweeps (between : σ × Memory) :
      view ((Operator.calls (sweep cluster.id cluster.space)).run surroundings.handle
        between).2 = view between := by
    obtain ⟨state, memory⟩ := between
    rw [Operator.run_calls, Surroundings.run_stored]
    exact (asks_sweep cluster.id cluster.space).run_keeps Memory.provisions
      (fun call other memory => memory.provisions_handle other) memory
  rw [cleanupCluster]
  split
  · exact .inl rfl
  · simp only [Dialogue.bind_eq, Dialogue.pure_eq]
    refine Dialogue.run_bind_keeps view endsWell (compiles _) fun compiled between => ?_
    refine Dialogue.run_bind_keeps view endsWell (by rfl) fun secondTier between => ?_
    refine Dialogue.run_bind_keeps view endsWell (tearsDown _ _) fun step between => ?_
    refine Dialogue.run_bind_keeps view endsWell (by rfl) fun _ between => ?_
    cases step with
    | suspended phase remaining => exact .inr rfl
    | done =>
        refine Dialogue.run_bind_keeps view endsWell (waits _) fun _ between => ?_
        refine Dialogue.run_bind_keeps view endsWell (sweeps _) fun swept between => ?_
        split
        · exact .inr rfl
        · -- what is left to do removes config maps, secrets and the namespace
          obtain ⟨clear, memory⟩ := between
          obtain ⟨bare, artifacts, _⟩ := Artifacts.run_remove cluster.id cluster.space memory
          obtain ⟨spaceless, space, _⟩ := ClusterSpace.run_remove cluster.id bare
          left
          rw [Dialogue.run_bind, Operator.run_calls, Surroundings.run_stored, artifacts]
          dsimp only
          rw [Dialogue.run_bind, Operator.run_calls, Surroundings.run_stored, space]
          rfl

/-- A cleanup either goes through and leaves nothing of its cluster, or it leaves config
maps, secrets and namespaces as they were. Once it has gone through, another one does so
as well and changes nothing, if the release of the cluster still reads as before. -/
theorem emptied_or_provisions_kept (surroundings : Surroundings σ) (settings : Settings)
    (liveness : Backoff) (cluster : Cluster) (identified : cluster.id ≠ "") (state : σ)
    (memory : Memory) (filed : memory.Filed) :
    ∃ outcome after left,
      (cleanupCluster settings liveness cluster).run surroundings.handle (state, memory) =
        (outcome, (after, left)) ∧
      (outcome = .ok .onChange →
        Emptied cluster left ∧
        ∀ later, surroundings.ReadsAlike cluster state later → ∃ ended,
          (cleanupCluster settings liveness cluster).run surroundings.handle (later, left) =
            (.ok .onChange, (ended, left))) ∧
      (outcome ≠ .ok .onChange →
        left.configMaps = memory.configMaps ∧ left.secrets = memory.secrets ∧
          left.namespaces = memory.namespaces) := by
  rcases played : (cleanupCluster settings liveness cluster).run surroundings.handle
    (state, memory) with ⟨outcome, after, left⟩
  refine ⟨outcome, after, left, played, ?_, ?_⟩
  · rintro rfl
    obtain ⟨_, finishes⟩ | ⟨waits, _⟩ := (run_cleanupCluster_eq_ok_iff identified).mp played
    · obtain ⟨emptied, listing⟩ := finishes.emptied filed
      refine ⟨emptied, fun later alike => ?_⟩
      obtain ⟨⟨tornDown, _, _⟩, _⟩ := finishes
      obtain ⟨named, _⟩ := exists_tornDown_iff.mp ⟨_, tornDown⟩
      rw [secondTierName_of_readsAlike alike listing.symm] at named
      obtain ⟨ended, again⟩ := finishes_of_emptied emptied named
      exact ⟨ended, (run_cleanupCluster_eq_ok_iff identified).mpr (.inl ⟨rfl, again⟩)⟩
    · cases waits
  · intro unfinished
    have kept := (provisions_of_cleanupCluster surroundings settings liveness cluster state
      memory).resolve_left (by rwa [played])
    rw [played] at kept
    obtain ⟨configMaps, rest⟩ := Prod.mk.inj kept
    obtain ⟨secrets, namespaces⟩ := Prod.mk.inj rest
    exact ⟨configMaps, secrets, namespaces⟩

/-- A cluster of which only the agent's App and what goes last is left. -/
def deserted : Cluster where
  metadata := {
    name := some "demo0"
    namespace_ := some "org-acme"
    labels := some (.ofList [(Label.cluster, "demo0")]) }

def desertedApp : App where
  metadata := {
    name := some (agentAppName "demo0")
    namespace_ := some "org-acme"
    labels := some (managedLabels "demo0") }

def desertedStore : Memory :=
  { ({} : Memory).putApp desertedApp with
    configMaps := (∅ : Table ObjectKey ConfigMap).insert
      ("org-acme", agentValuesName "demo0") {}
    secrets := (∅ : Table ObjectKey Secret).insert ("org-acme", clusterValuesName "demo0") {}
    namespaces := (∅ : Table String Namespace).insert "demo0" (ClusterSpace.desired "demo0") }

theorem emptied_or_provisions_kept_deserted :
    deserted.id ≠ "" ∧ desertedStore.Filed ∧ ∃ after left,
      (cleanupCluster {} .immediate deserted).run World.surroundings.handle ({}, desertedStore) =
        (.ok .onChange, (after, left)) ∧ Emptied deserted left := by
  have identified : deserted.id ≠ "" := by decide
  have filed : desertedStore.Filed := (Memory.filed_empty.putApp desertedApp).of_apps_eq rfl
  have finished : ((cleanupCluster {} .immediate deserted).run World.surroundings.handle
      ({}, desertedStore)).1 = .ok .onChange := by
    decide +kernel
  obtain ⟨outcome, after, left, played, emptied, _⟩ := emptied_or_provisions_kept
    World.surroundings {} .immediate deserted identified {} desertedStore filed
  rw [played] at finished
  cases finished
  exact ⟨identified, filed, after, left, played, (emptied rfl).1⟩

end PlatformApps.Cleanup
