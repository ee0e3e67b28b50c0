/-
# One version for the Apps of a cluster

The agent of a cluster looks after the Apps that carry its own version. Two hands see to that:
Apps of this operator are made with it, and Apps of users are labelled with it. They deal with
different Apps, so that after an apply all Apps of the cluster follow one version, but for the
agent's own App, which another instance looks after.
-/

import PlatformApps.Proofs.Apply.Confined
import PlatformApps.Proofs.Apply.Unresolved
import PlatformApps.Proofs.Convergence.Framed

namespace PlatformApps

/-- The patch of an App that a request asks for. -/
def OperatorRequest.patch? : OperatorRequest → Option (String × String × Json)
  | .store (.patchApp space name patch) => some (space, name, patch)
  | _ => none

namespace Memory

variable {store before after : Memory} {space id version : String} {app : App}

/-- The Apps of a cluster in a namespace that this operator does not manage, that are not being
deleted and that have another version. -/
def staleApps (store : Memory) (space id version : String) : List App :=
  (store.apps.toList.filter fun entry =>
    entry.1.1 == space && entry.2.isUsers id && entry.2.isStale version).map (·.2)

theorem filter_isStale_listApps (store : Memory) (space id version : String) :
    (store.listApps space (unmanagedSelector id)).filter (App.isStale version) =
      store.staleApps space id version := by
  rw [listApps_eq_filter_toList, List.filter_map, List.filter_filter, staleApps]
  congr 2
  funext entry
  exact Bool.and_comm _ _

theorem mem_listApps_unmanagedSelector_iff :
    app ∈ store.listApps space (unmanagedSelector id) ↔
      app.isUsers id = true ∧ ∃ name, store.app? space name = some app := by
  rw [listApps_unmanagedSelector, List.mem_filter, mem_appsOf_iff, App.isUsers, Bool.and_eq_true,
    and_right_comm]

end Memory

namespace Relabelled

variable {space id version : String} {before after : Memory}

/-- What stands at each place once the Apps of users have got their labels. -/
theorem app?_eq
    (relabelled : Relabelled space id version (before.listApps space (unmanagedSelector id))
      before after) (filed : before.Filed) (otherSpace name : String) :
    after.app? otherSpace name = (before.app? otherSpace name).map fun app =>
      if otherSpace = space ∧ app.isUsers id = true then app.followed version else app := by
  have each := relabelled.tended.each otherSpace name
  cases found : before.app? otherSpace name with
  | none =>
      rw [found] at each
      generalize after.app? otherSpace name = left at each ⊢
      cases each
      rfl
  | some app =>
      rw [Option.map_some]
      split
      · rename_i ours
        obtain ⟨rfl, users⟩ := ours
        have listed : app ∈ before.listApps otherSpace (unmanagedSelector id) :=
          Memory.mem_listApps_unmanagedSelector_iff.mpr ⟨users, name, found⟩
        exact filed found ▸ relabelled.each app listed
      · rename_i others
        rw [found] at each
        generalize after.app? otherSpace name = left at each ⊢
        cases each with
        | stays => rfl
        | labelled users => exact absurd ⟨rfl, users⟩ others

/-- Then no App of a user needs another label. -/
theorem fresh_of_listed
    (relabelled : Relabelled space id version (before.listApps space (unmanagedSelector id))
      before after) (filed : before.Filed) :
    ∀ app ∈ after.listApps space (unmanagedSelector id), app.isStale version = false := by
  intro app inside
  obtain ⟨users, name, found⟩ := Memory.mem_listApps_unmanagedSelector_iff.mp inside
  rw [relabelled.app?_eq filed] at found
  obtain ⟨old, -, same⟩ := Option.map_eq_some_iff.mp found
  split at same
  · rw [← same]
    exact isStale_followed old version
  · rename_i others
    exact absurd ⟨rfl, same ▸ users⟩ others

end Relabelled

/-! ## The versions that Apps are made with -/

theorem find?_agentVersion_appMetadata (id space name entry agentVersion : String)
    (forceUpgrade : Bool) :
    (appMetadata id space name entry agentVersion forceUpgrade).labelTable.find?
      Label.agentVersion = some agentVersion := by
  rw [appMetadata, Metadata.labelTable, Option.getD_some, Table.find?_insert, if_pos rfl]

namespace Apply

variable {σ : Type} {surroundings : Surroundings σ} {settings : Settings} {cluster : Cluster}

/-- What is compiled follows the agent of the release, but for the agent's own App. -/
theorem exists_agent_of_compile (live : cluster.isDeleting = false) {start known : σ × Memory}
    {compiled : Compiled}
    (compiles : (compile settings cluster).run surroundings.handle start =
      (.ok compiled, known)) :
    ∃ agent, (surroundings.components cluster start.1).1.bind agentComponent = .ok agent ∧
      agentAppName cluster.id ∈ compiled.apps.map App.name ∧
      ∀ app ∈ compiled.apps, app.labels.find? Label.agentVersion =
        some (if app.name = agentAppName cluster.id then managementVersion else agent.version) := by
  have distinct := nodup_names_of_compile compiles
  obtain ⟨supplies, charts, apps⟩ := exists_supplies_of_compile live compiles
  rw [apps] at distinct ⊢
  refine ⟨supplies.agent, supplies.bind_agentComponent, List.mem_cons_self,
    fun app inside => ?_⟩
  rcases List.mem_cons.mp inside with rfl | charted
  · have own : (agentApp settings cluster.id cluster.space supplies.agent).name =
        agentAppName cluster.id := rfl
    rw [if_pos own]
    exact find?_agentVersion_appMetadata ..
  · -- names are distinct, so that no other App has the agent's
    have other : app.name ≠ agentAppName cluster.id := fun same =>
      (List.nodup_cons.mp distinct).1 (List.mem_map.mpr ⟨app, charted, same⟩)
    obtain ⟨name, entry, chart, -, rfl⟩ := mem_chartedApps_iff.mp charted
    rw [if_neg other]
    exact find?_agentVersion_appMetadata ..

/-- All Apps of a cluster follow one version of the agent: those of users, unless they are being
deleted, and those that this operator manages under wanted names. The agent's own App is looked
after from elsewhere. -/
structure FollowsAgent (cluster : Cluster) (wanted : List String) (version : String)
    (store : Memory) : Prop where
  users : ∀ ⦃name app⦄, store.app? cluster.space name = some app →
    app.isUsers cluster.id = true → app.isDeleting = false →
      app.labels.find? Label.agentVersion = some version
  managed : ∀ ⦃name app⦄, name ∈ wanted → name ≠ agentAppName cluster.id →
    store.app? cluster.space name = some app → app.isHeld cluster.id cluster.space = true →
      app.labels.find? Label.agentVersion = some version
  agent : ∀ ⦃app⦄, store.app? cluster.space (agentAppName cluster.id) = some app →
    app.isHeld cluster.id cluster.space = true →
      app.labels.find? Label.agentVersion = some "0.0.0"

/-- What is compiled is made with its versions, and the rest is labelled: so all Apps follow. -/
theorem followsAgent_of_brought {version : String} {desired : List App}
    (hasAgent : agentAppName cluster.id ∈ desired.map App.name)
    (versions : ∀ app ∈ desired, app.labels.find? Label.agentVersion =
      some (if app.name = agentAppName cluster.id then managementVersion else version))
    {store middle left : Memory}
    (brought : BroughtInLine cluster.space cluster.id desired store middle)
    (relabelled : Relabelled cluster.space cluster.id version
      (middle.listApps cluster.space (unmanagedSelector cluster.id)) middle left) :
    FollowsAgent cluster (desired.map App.name) version left := by
  -- what is in line carries the labels that it was made with, also after others were labelled
  have held ⦃name : String⦄ ⦃app : App⦄ (wanted : name ∈ desired.map App.name)
      (found : left.app? cluster.space name = some app)
      (ours : app.isHeld cluster.id cluster.space = true) :
      app.labels.find? Label.agentVersion =
        some (if name = agentAppName cluster.id then managementVersion else version) := by
    obtain ⟨made, inside, rfl⟩ := List.mem_map.mp wanted
    have inLine := (brought.inLine made inside).of_heldAt_eq
      (relabelled.tended.relabels_eq made.name).1
    obtain ⟨known, there, fits⟩ := inLine.exists_app
    cases found.symm.trans there
    rw [(fits ours).1, versions made inside]
  refine ⟨fun name app found users stays => ?_, fun name app wanted other found ours => ?_,
    fun app found ours => ?_⟩
  · have fresh := relabelled.fresh_of_listed brought.filed app
      (Memory.mem_listApps_unmanagedSelector_iff.mpr ⟨users, name, found⟩)
    rw [App.isStale, stays, Bool.false_or, Bool.not_eq_false'] at fresh
    exact beq_iff_eq.mp fresh
  · rw [held wanted found ours, if_neg other]
  · exact (held hasAgent found ours).trans (congrArg some (if_pos rfl))

/-! ## What setting labels asks for -/

theorem questions_agentOf (surroundings : Surroundings σ) (cluster : Cluster)
    (state : σ × Memory) :
    (agentOf cluster).questions surroundings.handle state = [.components cluster] := by
  rw [agentOf]
  cases reads : (surroundings.components cluster state.1).1 with
  | error failure =>
      have asked : (Operator.components cluster).run surroundings.handle state =
          (.error failure, _) := Prod.ext reads rfl
      rw [Dialogue.questions_bind_of_error asked]
      rfl
  | ok components =>
      have asked : (Operator.components cluster).run surroundings.handle state =
          (.ok components, _) := Prod.ext reads rfl
      rw [Dialogue.questions_bind_of_ok asked]
      rfl

theorem filterMap_patch?_patches (space version : String) (apps : List App) :
    ((apps.map fun app =>
        StoreCall.patchApp space app.name (versionPatch version)).map
      OperatorRequest.store).filterMap OperatorRequest.patch? =
        apps.map fun app => (space, app.name, versionPatch version) := by
  rw [List.map_map, List.filterMap_map]
  exact congrFun (List.filterMap_eq_map (f := fun app =>
    (space, app.name, versionPatch version))) apps

/-- Where the agent is known, setting version labels patches just the Apps that need it. -/
theorem run_ensureVersionLabels_of_known {agent : ReleaseComponent} {state : σ}
    (known : (surroundings.components cluster state).1.bind agentComponent = .ok agent)
    {memory : Memory} (filed : memory.Filed) :
    let stale := memory.staleApps cluster.space cluster.id agent.version
    ∃ ended left,
      (ensureVersionLabels cluster).run surroundings.handle (state, memory) =
        (.ok (stale.map App.name), (ended, left)) ∧
      ((ensureVersionLabels cluster).questions surroundings.handle
        (state, memory)).filterMap OperatorRequest.patch? =
          stale.map (fun app => (cluster.space, app.name, versionPatch agent.version)) ∧
      Relabelled cluster.space cluster.id agent.version
        (memory.listApps cluster.space (unmanagedSelector cluster.id)) memory left ∧
      (stale = [] → left = memory) := by
  intro stale
  have isStale : (memory.listApps cluster.space (unmanagedSelector cluster.id)).filter
      (App.isStale agent.version) = stale := Memory.filter_isStale_listApps ..
  by_cases none : memory.listApps cluster.space (unmanagedSelector cluster.id) = []
  · obtain ⟨runs, asks⟩ := run_ensureVersionLabels_of_none surroundings state none
    rw [none] at isStale ⊢
    rw [← isStale]
    exact ⟨state, memory, runs, congrArg _ asks, .nil filed, fun _ => rfl⟩
  · obtain ⟨listed, distinct⟩ := Memory.found_of_listApps filed cluster.space cluster.id
    obtain ⟨left, labels, patches, relabelled⟩ :=
      run_relabelEach agent.version filed listed distinct
    have knows := (ends_agentOf surroundings cluster state memory).run
    rw [known] at knows
    obtain ⟨runs, asks⟩ := run_ensureVersionLabels_of_some surroundings state none
    rw [Dialogue.run_bind_of_ok knows, Operator.run_calls, Surroundings.run_stored, labels,
      isStale] at runs
    rw [Dialogue.questions_bind_of_ok knows, questions_agentOf, Surroundings.questions_calls,
      patches, isStale] at asks
    refine ⟨_, left, runs, ?_, relabelled, fun nothing => ?_⟩
    · rw [asks, ← filterMap_patch?_patches]
      rfl
    · have fresh : ∀ app ∈ memory.listApps cluster.space (unmanagedSelector cluster.id),
          app.isStale agent.version = false := by
        intro app inside
        exact Bool.eq_false_iff.mpr (List.filter_eq_nil_iff.mp (isStale.trans nothing) app inside)
      rw [relabelEach_of_fresh fresh] at labels
      exact (congrArg Prod.snd labels).symm

/-- Where it is not, no App is patched. -/
theorem run_ensureVersionLabels_of_unknown {failure : Failure} {state : σ}
    (lacks : (surroundings.components cluster state).1.bind agentComponent = .error failure)
    (memory : Memory) :
    ∃ outcome ended,
      (ensureVersionLabels cluster).run surroundings.handle (state, memory) =
        (outcome, (ended, memory)) ∧
      (outcome = .ok [] ∨ outcome = .error failure) ∧
      ((ensureVersionLabels cluster).questions surroundings.handle
        (state, memory)).filterMap OperatorRequest.patch? = [] := by
  by_cases none : memory.listApps cluster.space (unmanagedSelector cluster.id) = []
  · obtain ⟨runs, asks⟩ := run_ensureVersionLabels_of_none surroundings state none
    exact ⟨_, _, runs, .inl rfl, congrArg _ asks⟩
  · obtain ⟨runs, asks⟩ := run_ensureVersionLabels_of_some surroundings state none
    have knows := (ends_agentOf surroundings cluster state memory).run
    rw [lacks] at knows
    rw [Dialogue.run_bind, knows] at runs
    rw [Dialogue.questions_bind_of_error knows, questions_agentOf] at asks
    exact ⟨_, _, runs, .inr rfl, congrArg _ asks⟩

/-- An apply that gets as far as compiling comes to its end, and leaves Apps that follow the
agent. -/
theorem run_applyCluster_follows {release : Outcome (Table String ReleaseComponent)}
    (answers : ∀ state, (surroundings.components cluster state).1 = release) {state : σ}
    {memory : Memory} (filed : memory.Filed) (live : cluster.isDeleting = false)
    {artifacts : ArtifactsOutcome} {between known : σ × Memory} {compiled : Compiled}
    (provides : (provide settings cluster).run surroundings.handle (state, memory) =
      (.ok artifacts, between))
    (compiles : (compile settings cluster).run surroundings.handle between =
      (.ok compiled, known)) :
    ∃ agent ended left, release.bind agentComponent = .ok agent ∧
      (applyCluster settings cluster).run surroundings.handle (state, memory) =
        (compiled.failure?.elim
          (.ok (if artifacts = .applied then .resync else .suspended)) .error, (ended, left)) ∧
      FollowsAgent cluster (compiled.apps.map App.name) agent.version left := by
  obtain ⟨agent, hasAgent, named, versions⟩ := exists_agent_of_compile live compiles
  rw [answers] at hasAgent
  have start : Prepared cluster memory (state, memory).2 := ⟨.refl cluster memory, rfl⟩
  have provided : Prepared cluster memory ((provide settings cluster).run
      surroundings.handle (state, memory)).2.2 := start.run (asks_provide settings cluster)
  rw [provides] at provided
  have asks : (compile settings cluster).Asks (Prepares cluster) :=
    asks_compile trivial trivial ⟨.read rfl, rfl⟩ ⟨.read rfl, rfl⟩ fun _ _ _ => trivial
  have prepared : Prepared cluster memory ((compile settings cluster).run
      surroundings.handle between).2.2 := provided.run asks
  rw [compiles] at prepared
  obtain ⟨counted, middle, brought, converges⟩ := exists_run_converge (σ := σ)
    (isMadeFor_of_compile compiles) (nodup_names_of_compile compiles)
    (filed.of_apps_eq prepared.sameApps)
  -- the agent is asked for a second time, and it is the same
  have knows : (surroundings.components cluster known.1).1.bind agentComponent = .ok agent := by
    rw [answers, hasAgent]
  obtain ⟨ended, left, labels, -, relabelled, -⟩ :=
    run_ensureVersionLabels_of_known knows brought.filed
  refine ⟨agent, ended, left, hasAgent, ?_,
    followsAgent_of_brought named versions brought relabelled⟩
  rw [run_applyCluster_of_compiles provides compiles, settle,
    Dialogue.run_bind_of_ok (converges surroundings known.1), Dialogue.run_bind_of_ok labels]
  cases compiled.failure? <;> rfl

/-- All Apps of a cluster follow one version of the agent. Let the components of a release be
answered steadily, and let a store have every App under its own name.

An apply for a cluster that is not being deleted, if it gets as far as compiling, comes to its
end, and then all Apps follow the agent of the release. Setting the labels changes the version
label of the Apps that need it, and reads these from their written form, as any patch does; it
changes nothing else. It patches just these and reports them, and it patches none a second time.
Without an agent in the release it patches none at all. -/
theorem versions_follow_agent {release : Outcome (Table String ReleaseComponent)}
    (answers : ∀ state, (surroundings.components cluster state).1 = release) (state : σ)
    {memory : Memory} (filed : memory.Filed) :
    (∀ settings artifacts between compiled known, cluster.isDeleting = false →
      (provide settings cluster).run surroundings.handle (state, memory) =
        (.ok artifacts, between) →
      (compile settings cluster).run surroundings.handle between = (.ok compiled, known) →
      ∃ agent ended left, release.bind agentComponent = .ok agent ∧
        (applyCluster settings cluster).run surroundings.handle (state, memory) =
          (compiled.failure?.elim
            (.ok (if artifacts = .applied then .resync else .suspended)) .error,
            (ended, left)) ∧
        FollowsAgent cluster (compiled.apps.map App.name) agent.version left) ∧
    (∀ agent, release.bind agentComponent = .ok agent →
      ∃ ended left later,
        (ensureVersionLabels cluster).run surroundings.handle (state, memory) =
          (.ok ((memory.staleApps cluster.space cluster.id agent.version).map App.name),
            (ended, left)) ∧
        ((ensureVersionLabels cluster).questions surroundings.handle
          (state, memory)).filterMap OperatorRequest.patch? =
            (memory.staleApps cluster.space cluster.id agent.version).map (fun app =>
              (cluster.space, app.name, versionPatch agent.version)) ∧
        (∀ space name, left.app? space name = (memory.app? space name).map fun app =>
          if space = cluster.space ∧ app.isUsers cluster.id = true ∧
              app.isStale agent.version = true then
            (app.withVersion agent.version).asRead
          else app) ∧
        left = { memory with apps := left.apps, log := left.log } ∧
        (ensureVersionLabels cluster).run surroundings.handle (ended, left) =
          (.ok [], (later, left)) ∧
        ((ensureVersionLabels cluster).questions surroundings.handle
          (ended, left)).filterMap OperatorRequest.patch? = []) ∧
    (∀ failure, release.bind agentComponent = .error failure →
      ∃ outcome ended,
        (ensureVersionLabels cluster).run surroundings.handle (state, memory) =
          (outcome, (ended, memory)) ∧
        (outcome = .ok [] ∨ outcome = .error failure) ∧
        ((ensureVersionLabels cluster).questions surroundings.handle
          (state, memory)).filterMap OperatorRequest.patch? = []) := by
  refine ⟨?follows, ?exact, ?lacking⟩
  case follows =>
    intro settings artifacts between compiled known live provides compiles
    exact run_applyCluster_follows answers filed live provides compiles
  case exact =>
    intro agent known
    have knows (state : σ) : (surroundings.components cluster state).1.bind agentComponent =
        .ok agent := by rw [answers, known]
    obtain ⟨ended, left, runs, patches, relabelled, -⟩ :=
      run_ensureVersionLabels_of_known (knows state) filed
    obtain ⟨later, last, again, patchesAgain, -, same⟩ :=
      run_ensureVersionLabels_of_known (knows ended) relabelled.filed
    have fresh : left.staleApps cluster.space cluster.id agent.version = [] := by
      rw [← Memory.filter_isStale_listApps, List.filter_eq_nil_iff]
      exact fun app inside => Bool.eq_false_iff.mp (relabelled.fresh_of_listed filed app inside)
    rw [fresh] at again patchesAgain
    rw [same fresh] at again
    refine ⟨ended, left, later, runs, patches, fun space name => ?_, relabelled.tended.others,
      again, patchesAgain⟩
    rw [relabelled.app?_eq filed]
    congr 1
    funext app
    simp only [App.followed, ← ite_and, and_assoc]
  case lacking =>
    intro failure lacks
    exact run_ensureVersionLabels_of_unknown (by rw [answers, lacks]) memory

/-- An App of the cluster `demo0` under a version of the agent. -/
def versioned (name version : String) (labels : Labels) : App :=
  appOf name "1.0.0" (labels.insert Label.agentVersion version) none

def leaving : App :=
  let app := versioned "leaving" "6.0.0" ∅
  { app with metadata := { app.metadata with deletionTimestamp := some Timestamp.epoch } }

/-- Apps of users under an old version, under the new one and on their way out, and two Apps of
this operator. -/
def outdated : Memory :=
  ((((({} : Memory).putApp (versioned "hello" "6.0.0" ∅)).putApp
    (versioned "world" "6.11.0" ∅)).putApp leaving).putApp
    (versioned "demo0-hello" "6.0.0" operatorLabels)).putApp
    (versioned "demo0-app-operator" "6.0.0" operatorLabels)

/-- Surroundings in which a release has no agent. -/
def agentless : Surroundings Unit :=
  { Cleanup.stocked with components := fun _ state => (.ok ∅, state) }

/-- All Apps but the one on its way out get their versions, of users' Apps just one is patched,
and without an agent none is. -/
theorem versions_follow_agent_outdated : outdated.Filed ∧
    (∃ artifacts between compiled known ended left,
      (provide {} Cleanup.deserted).run Cleanup.stocked.handle ((), outdated) =
        (.ok artifacts, between) ∧
      (compile {} Cleanup.deserted).run Cleanup.stocked.handle between = (.ok compiled, known) ∧
      (applyCluster {} Cleanup.deserted).run Cleanup.stocked.handle ((), outdated) =
        (.ok .resync, (ended, left)) ∧
      compiled.apps.map App.name = ["demo0-app-operator", "demo0-hello"] ∧
      FollowsAgent Cleanup.deserted (compiled.apps.map App.name) "6.11.0" left ∧
      left.apps.toList.map (fun entry =>
          (entry.1.2, entry.2.labels.find? Label.agentVersion)) =
        [("demo0-app-operator", some "0.0.0"), ("demo0-hello", some "6.11.0"),
          ("hello", some "6.11.0"), ("leaving", some "6.0.0"), ("world", some "6.11.0")]) ∧
    (∃ ended left later,
      (ensureVersionLabels Cleanup.deserted).run Cleanup.stocked.handle ((), outdated) =
        (.ok ["hello"], (ended, left)) ∧
      ((ensureVersionLabels Cleanup.deserted).questions Cleanup.stocked.handle
        ((), outdated)).filterMap OperatorRequest.patch? =
          [("org-acme", "hello", versionPatch "6.11.0")] ∧
      (ensureVersionLabels Cleanup.deserted).run Cleanup.stocked.handle (ended, left) =
        (.ok [], (later, left))) ∧
    ∃ ended,
      (ensureVersionLabels Cleanup.deserted).run agentless.handle ((), outdated) =
        (.error (.validation (.releaseWithoutComponent platformAgent)), (ended, outdated)) ∧
      ((ensureVersionLabels Cleanup.deserted).questions agentless.handle
        ((), outdated)).filterMap OperatorRequest.patch? = [] := by
  have filed : outdated.Filed :=
    ((((Memory.filed_empty.putApp _).putApp _).putApp _).putApp _).putApp _
  let release : Table String ReleaseComponent :=
    .ofList [(platformAgent, ⟨platformAgent, "6.11.0", none, none⟩)]
  have answers (state : Unit) : (Cleanup.stocked.components Cleanup.deserted state).1 =
      .ok release := rfl
  have known : (Except.ok release : Outcome _).bind agentComponent =
      .ok ⟨platformAgent, "6.11.0", none, none⟩ := by decide +kernel
  obtain ⟨follows, labels, -⟩ := versions_follow_agent answers () filed
  refine ⟨filed, ?_, ?_, ?_⟩
  · let provided := (provide {} Cleanup.deserted).run Cleanup.stocked.handle ((), outdated)
    have comesTo : provided.1 = .ok .applied ∧
        ((compile {} Cleanup.deserted).run Cleanup.stocked.handle provided.2).1.map
          (fun compiled => (compiled.apps.map App.name, compiled.failure?)) =
            .ok (["demo0-app-operator", "demo0-hello"], none) ∧
        ((applyCluster {} Cleanup.deserted).run Cleanup.stocked.handle
          ((), outdated)).2.2.apps.toList.map (fun entry =>
            (entry.1.2, entry.2.labels.find? Label.agentVersion)) =
          [("demo0-app-operator", some "0.0.0"), ("demo0-hello", some "6.11.0"),
            ("hello", some "6.11.0"), ("leaving", some "6.0.0"), ("world", some "6.11.0")] := by
      decide +kernel
    obtain ⟨applied, names, versions⟩ := comesTo
    have provides : (provide {} Cleanup.deserted).run Cleanup.stocked.handle ((), outdated) =
        (.ok .applied, provided.2) := Prod.ext applied rfl
    rcases compiles : (compile {} Cleanup.deserted).run Cleanup.stocked.handle provided.2 with
      ⟨failure | compiled, after⟩
    · rw [compiles] at names
      cases names
    · rw [compiles] at names
      obtain ⟨names, complete⟩ := Prod.mk.inj (Except.ok.inj names)
      obtain ⟨agent, ended, left, hasAgent, applies, followed⟩ :=
        follows {} _ _ _ _ rfl provides compiles
      cases known.symm.trans hasAgent
      rw [applies] at versions
      rw [complete] at applies
      exact ⟨_, _, compiled, after, ended, left, provides, compiles, applies, names, followed,
        versions⟩
  · obtain ⟨ended, left, later, runs, patches, -, -, again, -⟩ := labels _ known
    have stale : (outdated.staleApps Cleanup.deserted.space Cleanup.deserted.id "6.11.0").map
        App.name = ["hello"] := by decide +kernel
    have requests : (outdated.staleApps Cleanup.deserted.space Cleanup.deserted.id "6.11.0").map
        (fun app => (Cleanup.deserted.space, app.name, versionPatch "6.11.0")) =
          [("org-acme", "hello", versionPatch "6.11.0")] := by decide +kernel
    exact ⟨ended, left, later, stale ▸ runs, requests ▸ patches, again⟩
  · have lacks : (Except.ok ∅ : Outcome (Table String ReleaseComponent)).bind agentComponent =
        .error (.validation (.releaseWithoutComponent platformAgent)) := by decide +kernel
    have lacking (state : Unit) : (agentless.components Cleanup.deserted state).1 = .ok ∅ := rfl
    obtain ⟨outcome, ended, runs, -, patches⟩ :=
      (versions_follow_agent lacking () filed).2.2 _ lacks
    have fails : ((ensureVersionLabels Cleanup.deserted).run agentless.handle
        ((), outdated)).1 = .error (.validation (.releaseWithoutComponent platformAgent)) := by
      decide +kernel
    rw [runs] at fails
    exact ⟨ended, fails ▸ runs, patches⟩

/-- Setting the version label of an App takes the fraction of a second from its creation time. -/
theorem labelling_cuts_creation_time : ∃ ended left result,
    (ensureVersionLabels Cleanup.deserted).run Cleanup.stocked.handle
      ((), ({} : Memory).putApp momentary) = (.ok ["hello"], (ended, left)) ∧
    left.app? "org-acme" "hello" = some result ∧
    result.metadata.creationTimestamp ≠ momentary.metadata.creationTimestamp := by
  let labelling := (ensureVersionLabels Cleanup.deserted).run Cleanup.stocked.handle
    ((), ({} : Memory).putApp momentary)
  have labels : labelling.1 = .ok ["hello"] ∧
      labelling.2.2.app? "org-acme" "hello" = some (momentary.withVersion "6.11.0").asRead := by
    decide +kernel
  rcases runs : (ensureVersionLabels Cleanup.deserted).run Cleanup.stocked.handle
    ((), ({} : Memory).putApp momentary) with ⟨outcome, ended, left⟩
  simp only [labelling, runs] at labels
  obtain ⟨rfl, found⟩ := labels
  exact ⟨ended, left, _, runs, found, by decide +kernel⟩

end Apply

end PlatformApps
