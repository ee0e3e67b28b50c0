/-
# Entries without a chart

An entry of the manifest whose chart cannot be found gets no App, and it keeps no other entry
from getting one. An apply over a manifest leaves the store that an apply over the other entries
alone leaves. It only ends otherwise, with a failure that names the entries without a chart.
-/

import PlatformApps.Proofs.Apply.Confined
import PlatformApps.Proofs.Manifest.Partition

namespace PlatformApps

variable {σ τ : Type}

/-! ## Without some entries -/

/-- A table without some of its keys. -/
def Table.without {κ α : Type} [Key κ] (table : Table κ α) (keys : List κ) : Table κ α :=
  ⟨table.toList.filter fun entry => entry.1 ∉ keys, table.sorted.filter _⟩

theorem installedEntries_without (cluster : Cluster) (entries : Table String ReleaseApp)
    (names : List String) :
    installedEntries cluster (entries.without names) =
      (installedEntries cluster entries).filter fun entry => entry.1 ∉ names := by
  rw [installedEntries, installedEntries, Table.without, List.filter_filter, List.filter_filter]
  congr 1
  funext entry
  rw [Bool.and_comm]

section Charts

variable {charts : List (String × ReleaseApp × Outcome String)}

/-- Without the entries whose charts are missing, no chart is missing. -/
theorem chartFailures_filter (charts : List (String × ReleaseApp × Outcome String)) :
    chartFailures
      (charts.filter fun chart => chart.1 ∉ (chartFailures charts).map (·.1)) = [] := by
  rw [List.eq_nil_iff_forall_not_mem]
  rintro ⟨name, failure⟩ failed
  obtain ⟨entry, inside⟩ := mem_chartFailures_iff.mp failed
  obtain ⟨inside, spared⟩ := List.mem_filter.mp inside
  exact of_decide_eq_true spared (mem_names_chartFailures_iff.mpr ⟨entry, failure, inside⟩)

/-- Without them there are the same Apps. -/
theorem chartedApps_filter (distinct : (charts.map (·.1)).Nodup) (settings : Settings)
    (cluster : Cluster) (agentVersion : String) (objects : UserObjects) :
    chartedApps settings cluster agentVersion objects
        (charts.filter fun chart => chart.1 ∉ (chartFailures charts).map (·.1)) =
      chartedApps settings cluster agentVersion objects charts := by
  rw [chartedApps, chartedApps, List.filterMap_filter]
  apply List.filterMap_congr
  rintro ⟨name, entry, failure | chart⟩ inside
  · split <;> rfl
  · have spared : name ∉ (chartFailures charts).map (·.1) := by
      intro failed
      obtain ⟨other, failure, alsoInside⟩ := mem_names_chartFailures_iff.mp failed
      cases chart_eq_of_mem distinct inside alsoInside
    rw [if_pos (decide_eq_true spared)]

end Charts

/-! ## Surroundings with one manifest or another -/

/-- Does a request read the manifest of a release? -/
def OperatorRequest.readsManifest : OperatorRequest → Bool
  | .releaseApps _ => true
  | _ => false

namespace Surroundings

variable {surroundings : Surroundings σ} {settings : Settings} {cluster : Cluster}

/-- The same surroundings with a given manifest. -/
def withManifest (surroundings : Surroundings σ) (entries : Table String ReleaseApp) :
    Surroundings σ :=
  { surroundings with
    releaseApps := fun cluster state => (.ok entries, (surroundings.releaseApps cluster state).2) }

/-- The components of a release and the chart of an entry do not depend on what has been asked
before. -/
structure IsSteady (surroundings : Surroundings σ) : Prop where
  components : ∀ cluster one other,
    (surroundings.components cluster one).1 = (surroundings.components cluster other).1
  chartName : ∀ catalog app version one other,
    (surroundings.chartName catalog app version one).1 =
      (surroundings.chartName catalog app version other).1

/-- What does not read the manifest comes to the same with any. -/
theorem run_withManifest {α : Type} {dialogue : Dialogue Operator α}
    (asks : dialogue.Asks fun request : OperatorRequest => request.readsManifest = false)
    (one other : Table String ReleaseApp) (state : σ × Memory) :
    dialogue.run (surroundings.withManifest other).handle state =
      dialogue.run (surroundings.withManifest one).handle state := by
  have alike : ∀ request : OperatorRequest, request.readsManifest = false →
      ∀ state later, state = later →
        ((surroundings.withManifest other).handle request later).1 =
            ((surroundings.withManifest one).handle request state).1 ∧
          ((surroundings.withManifest one).handle request state).2 =
            ((surroundings.withManifest other).handle request later).2 := by
    rintro request permitted state _ rfl
    cases request with
    | releaseApps cluster => cases permitted
    | _ => exact ⟨rfl, rfl⟩
  obtain ⟨outcome, left⟩ := asks.run_related (· = ·) alike rfl
  exact Prod.ext outcome left.symm

/-- The chart of an entry: the one that its rule states, else what is answered for it. -/
def chartOf (surroundings : Surroundings σ) (settings : Settings) (state : σ) (name : String)
    (entry : ReleaseApp) : Outcome String :=
  match (settings.ruleFor name).chart.filter fun chart => chart ≠ "" with
  | some chart => .ok chart
  | none => (surroundings.chartName (catalogFor settings entry) name entry.version state).1

/-- The entries of a manifest that are due, with their charts. -/
def chartsOf (surroundings : Surroundings σ) (settings : Settings) (cluster : Cluster) (state : σ)
    (entries : Table String ReleaseApp) : List (String × ReleaseApp × Outcome String) :=
  (installedEntries cluster entries).map fun entry =>
    (entry.1, entry.2, surroundings.chartOf settings state entry.1 entry.2)

/-- The entries of a manifest that get no App, as their charts cannot be found, with the reasons
and in the order of the manifest. -/
def unresolved (surroundings : Surroundings σ) (settings : Settings) (cluster : Cluster)
    (state : σ) (entries : Table String ReleaseApp) : List (String × Failure) :=
  chartFailures (surroundings.chartsOf settings cluster state entries)

/-- A manifest without these entries. -/
def resolved (surroundings : Surroundings σ) (settings : Settings) (cluster : Cluster) (state : σ)
    (entries : Table String ReleaseApp) : Table String ReleaseApp :=
  entries.without ((surroundings.unresolved settings cluster state entries).map (·.1))

theorem nodup_names_chartsOf (surroundings : Surroundings σ) (settings : Settings)
    (cluster : Cluster) (state : σ) (entries : Table String ReleaseApp) :
    ((surroundings.chartsOf settings cluster state entries).map (·.1)).Nodup := by
  rw [chartsOf, List.map_map]
  exact (List.nodup_cons.mp (nodup_names_installedEntries cluster entries)).2

theorem chartsOf_resolved (surroundings : Surroundings σ) (settings : Settings)
    (cluster : Cluster) (state : σ) (entries : Table String ReleaseApp) :
    surroundings.chartsOf settings cluster state
        (surroundings.resolved settings cluster state entries) =
      (surroundings.chartsOf settings cluster state entries).filter fun chart =>
        chart.1 ∉ (surroundings.unresolved settings cluster state entries).map (·.1) := by
  rw [chartsOf, resolved, installedEntries_without, chartsOf, List.filter_map]
  rfl

theorem unresolved_resolved (surroundings : Surroundings σ) (settings : Settings)
    (cluster : Cluster) (state : σ) (entries : Table String ReleaseApp) :
    surroundings.unresolved settings cluster state
      (surroundings.resolved settings cluster state entries) = [] := by
  rw [unresolved, chartsOf_resolved]
  exact chartFailures_filter (surroundings.chartsOf settings cluster state entries)

theorem chartedApps_resolved (surroundings : Surroundings σ) (settings : Settings)
    (cluster : Cluster) (state : σ) (entries : Table String ReleaseApp) (agentVersion : String)
    (objects : UserObjects) :
    chartedApps settings cluster agentVersion objects
        (surroundings.chartsOf settings cluster state
          (surroundings.resolved settings cluster state entries)) =
      chartedApps settings cluster agentVersion objects
        (surroundings.chartsOf settings cluster state entries) := by
  rw [chartsOf_resolved]
  exact chartedApps_filter (surroundings.nodup_names_chartsOf settings cluster state entries)
    settings cluster agentVersion objects

/-- Where charts are answered steadily, those of entries do not depend on each other. -/
theorem run_chartsFor_of_steady
    (steady : ∀ catalog app version one other,
      (surroundings.chartName catalog app version one).1 =
        (surroundings.chartName catalog app version other).1)
    (settings : Settings) (state : σ) (entries : List (String × ReleaseApp)) (later : σ)
    (memory : Memory) :
    ∃ after, (chartsFor settings entries).run surroundings.handle (later, memory) =
      (.ok (entries.map fun entry =>
        (entry.1, entry.2, surroundings.chartOf settings state entry.1 entry.2)),
        (after, memory)) := by
  induction entries generalizing later with
  | nil => exact ⟨later, rfl⟩
  | cons entry rest ih =>
      obtain ⟨name, entry⟩ := entry
      obtain ⟨between, finds⟩ : ∃ between,
          (chartFor settings name entry).run surroundings.handle (later, memory) =
            (surroundings.chartOf settings state name entry, (between, memory)) := by
        rw [chartFor, chartOf]
        cases (settings.ruleFor name).chart.filter fun chart => chart ≠ "" with
        | some chart => exact ⟨later, rfl⟩
        | none =>
            have same := steady (catalogFor settings entry) name entry.version later state
            exact ⟨_, Prod.ext same rfl⟩
      obtain ⟨after, findsOthers⟩ := ih between
      refine ⟨after, ?_⟩
      rw [chartsFor, Dialogue.run_bind_of_ok (Dialogue.run_attempt_eq_ok_iff.mpr finds),
        Dialogue.run_bind_of_ok findsOthers]
      rfl

end Surroundings

/-! ## A compilation with one manifest or another -/

section Compilation

variable {surroundings : Surroundings σ} {settings : Settings} {cluster : Cluster}

/-- A compilation that succeeds has had its supplies. -/
theorem nonempty_supplies {handler : Operator.Handler σ} {start after : σ} {compiled : Compiled}
    (compiles : (compileAsLive settings cluster).run handler start = (.ok compiled, after)) :
    Nonempty (Supplies handler cluster start) := by
  simp only [compileAsLive, Dialogue.bind_eq, Dialogue.pure_eq] at compiles
  obtain ⟨components, knowsComponents, componentsRead, compiles⟩ :=
    Dialogue.run_bind_eq_ok_iff.mp compiles
  obtain ⟨agent, _, agentRead, compiles⟩ := Dialogue.run_bind_eq_ok_iff.mp compiles
  obtain ⟨usable, rfl⟩ := Prod.mk.inj agentRead
  obtain ⟨entries, knowsEntries, entriesRead, compiles⟩ := Dialogue.run_bind_eq_ok_iff.mp compiles
  obtain ⟨configMaps, knowsConfigMaps, configMapsListed, compiles⟩ :=
    Dialogue.run_bind_eq_ok_iff.mp compiles
  obtain ⟨secrets, ready, secretsListed, _⟩ := Dialogue.run_bind_eq_ok_iff.mp compiles
  have versioned : (components.find? platformAgent).filter (fun component =>
      component.version ≠ "") = some agent := by
    rw [agentComponent] at usable
    split at usable
    · rename_i found
      rw [found, Except.ok.inj usable]
    · cases usable
  obtain ⟨listed, filled⟩ := Option.filter_eq_some_iff.mp versioned
  exact ⟨{
    components, agent, entries, configMaps, secrets, knowsComponents, knowsEntries,
    knowsConfigMaps, ready, componentsRead, entriesRead, configMapsListed, secretsListed
    agentListed := listed
    agentVersioned := of_decide_eq_true filled }⟩

/-- The Apps of a compilation are made of its supplies, where it is for a cluster that is not being
deleted. -/
theorem exists_supplies_of_compile {handler : Operator.Handler σ} {start after : σ}
    {compiled : Compiled} (live : cluster.isDeleting = false)
    (compiles : (compile settings cluster).run handler start = (.ok compiled, after)) :
    ∃ supplies : Supplies handler cluster start, ∃ charts,
      compiled.apps = agentApp settings cluster.id cluster.space supplies.agent ::
        chartedApps settings cluster supplies.agent.version
          ⟨supplies.configMaps, supplies.secrets⟩ charts := by
  rw [compile, if_neg (Bool.eq_false_iff.mp live)] at compiles
  obtain ⟨supplies⟩ := nonempty_supplies compiles
  obtain ⟨charts, _, _, alsoCompiles, _⟩ := run_compileAsLive_of_supplies settings supplies
  cases compiles.symm.trans alsoCompiles
  exact ⟨supplies, charts, rfl⟩

/-- The agent among the supplies is that of the release. -/
theorem Supplies.bind_agentComponent {start : σ × Memory}
    (supplies : Supplies surroundings.handle cluster start) :
    (surroundings.components cluster start.1).1.bind agentComponent = .ok supplies.agent := by
  have readable : (surroundings.components cluster start.1).1 = .ok supplies.components :=
    (Prod.mk.inj supplies.componentsRead).1
  rw [readable]
  exact supplies.agentComponent_eq

/-- The same supplies, with another manifest. -/
def Supplies.exchange {one : Table String ReleaseApp} {start : σ × Memory}
    (supplies : Supplies (surroundings.withManifest one).handle cluster start)
    (other : Table String ReleaseApp) :
    Supplies (surroundings.withManifest other).handle cluster start where
  components := supplies.components
  agent := supplies.agent
  entries := other
  configMaps := supplies.configMaps
  secrets := supplies.secrets
  knowsComponents := supplies.knowsComponents
  knowsEntries := supplies.knowsEntries
  knowsConfigMaps := supplies.knowsConfigMaps
  ready := supplies.ready
  componentsRead := supplies.componentsRead
  agentListed := supplies.agentListed
  agentVersioned := supplies.agentVersioned
  entriesRead := Prod.ext rfl (Prod.mk.inj supplies.entriesRead).2
  configMapsListed := supplies.configMapsListed
  secretsListed := supplies.secretsListed

/-- With the supplies for one manifest, a compilation with any has the Apps of the entries that
have charts, and the failures are the entries that have none. -/
theorem run_compile_of_supplies (settings : Settings) (steady : surroundings.IsSteady)
    (live : cluster.isDeleting = false) {one : Table String ReleaseApp} {start : σ × Memory}
    (supplies : Supplies (surroundings.withManifest one).handle cluster start) (state : σ)
    (entries : Table String ReleaseApp) :
    ∃ after, (compile settings cluster).run (surroundings.withManifest entries).handle start =
      (.ok {
        apps := agentApp settings cluster.id cluster.space supplies.agent ::
          chartedApps settings cluster supplies.agent.version
            ⟨supplies.configMaps, supplies.secrets⟩
            (surroundings.chartsOf settings cluster state entries)
        failures := surroundings.unresolved settings cluster state entries },
        (after, start.2)) := by
  have steadyToo : (surroundings.withManifest entries).IsSteady :=
    ⟨steady.components, steady.chartName⟩
  obtain ⟨charts, _, finds, compiles, _⟩ :=
    run_compileAsLive_of_supplies settings (supplies.exchange entries)
  obtain ⟨after, steadily⟩ := Surroundings.run_chartsFor_of_steady steadyToo.chartName settings
    state (installedEntries cluster entries) supplies.ready.1 supplies.ready.2
  cases finds.symm.trans steadily
  have kept : supplies.ready.2 = start.2 := by
    have same := Cleanup.memory_of_compileAsLive (surroundings.withManifest entries) settings
      cluster start.1 start.2
    rwa [compiles] at same
  refine ⟨after, ?_⟩
  rw [compile, if_neg (Bool.eq_false_iff.mp live), compiles, kept]
  rfl

/-- A compilation that succeeds comes to the same Apps without the entries that have no chart, and
then nothing is missing. -/
theorem exists_run_compile_resolved (steady : surroundings.IsSteady)
    (live : cluster.isDeleting = false) {entries : Table String ReleaseApp}
    {start after : σ × Memory} {compiled : Compiled}
    (compiles : (compile settings cluster).run (surroundings.withManifest entries).handle start =
      (.ok compiled, after)) (state : σ) :
    ∃ agent apps known rest,
      (surroundings.components cluster start.1).1.bind agentComponent = .ok agent ∧
      (compile settings cluster).run (surroundings.withManifest entries).handle start =
        (.ok ⟨apps, surroundings.unresolved settings cluster state entries⟩, (known, start.2)) ∧
      (compile settings cluster).run
          (surroundings.withManifest
            (surroundings.resolved settings cluster state entries)).handle start =
        (.ok ⟨apps, []⟩, (rest, start.2)) := by
  rw [compile, if_neg (Bool.eq_false_iff.mp live)] at compiles
  obtain ⟨supplies⟩ := nonempty_supplies compiles
  obtain ⟨known, all⟩ := run_compile_of_supplies settings steady live supplies state entries
  obtain ⟨rest, others⟩ := run_compile_of_supplies settings steady live supplies state
    (surroundings.resolved settings cluster state entries)
  refine ⟨supplies.agent, _, known, rest, supplies.bind_agentComponent, all, ?_⟩
  rw [others, surroundings.unresolved_resolved, surroundings.chartedApps_resolved]

end Compilation

/-! ## The whole pass -/

namespace Apply

variable {settings : Settings} {cluster : Cluster}

/-- Setting version labels comes to the same wherever the agent has the same version. -/
theorem run_ensureVersionLabels_of_agent (cluster : Cluster) (agent : ReleaseComponent)
    {memory : Memory} (filed : memory.Filed) :
    ∃ names after, ∀ (surroundings : Surroundings σ) state,
      (surroundings.components cluster state).1.bind agentComponent = .ok agent →
        ∃ ended, (ensureVersionLabels cluster).run surroundings.handle (state, memory) =
          (.ok names, (ended, after)) := by
  let users := memory.listApps cluster.space (unmanagedSelector cluster.id)
  obtain ⟨listed, distinct⟩ := Memory.found_of_listApps filed cluster.space cluster.id
  obtain ⟨after, runs, -, -⟩ := run_relabelEach agent.version filed listed distinct
  -- where there is none to label, the agent is not asked for
  by_cases none : users = []
  · exact ⟨[], memory, fun surroundings state _ =>
      ⟨state, (run_ensureVersionLabels_of_none surroundings state none).1⟩⟩
  · refine ⟨(users.filter (App.isStale agent.version)).map App.name, after,
      fun surroundings state known => ?_⟩
    have asks := (ends_agentOf surroundings cluster state memory).run
    rw [known] at asks
    refine ⟨(surroundings.components cluster state).2, ?_⟩
    rw [(run_ensureVersionLabels_of_some surroundings state none).1,
      Dialogue.run_bind_of_ok asks, Operator.run_calls, Surroundings.run_stored, runs]

/-- What is done about Apps does not depend on which entries have no chart, nor on what has been
asked before. Only the outcome does. -/
theorem run_settle_of_agent (artifacts : ArtifactsOutcome) (agent : ReleaseComponent)
    {apps : List App} (made : ∀ app ∈ apps, app.IsMadeFor cluster.id cluster.space)
    (distinct : (apps.map App.name).Nodup) {memory : Memory} (filed : memory.Filed) :
    ∃ after, ∀ (surroundings : Surroundings σ) state (failures : List (String × Failure)),
      (surroundings.components cluster state).1.bind agentComponent = .ok agent →
        ∃ ended,
          (settle cluster artifacts (.ok ⟨apps, failures⟩)).run surroundings.handle
              (state, memory) =
            (if failures = [] then
                .ok (if artifacts = .applied then NextPass.resync else NextPass.suspended)
              else .error (.validation (.uncompiled
                (failures.map fun entry => (entry.1, entry.2.message)))),
              (ended, after)) := by
  obtain ⟨counted, middle, brought, converges⟩ := exists_run_converge (σ := σ) made distinct filed
  obtain ⟨names, after, labels⟩ :=
    run_ensureVersionLabels_of_agent (σ := σ) cluster agent brought.filed
  refine ⟨after, fun surroundings state failures known => ?_⟩
  obtain ⟨ended, relabels⟩ := labels surroundings state known
  refine ⟨ended, ?_⟩
  rw [settle, Dialogue.run_bind_of_ok (converges surroundings state),
    Dialogue.run_bind_of_ok relabels, Compiled.failure?]
  cases failures with
  | nil => rfl
  | cons failure rest => rfl

/-- An apply does not read the manifest before it compiles. -/
theorem run_provide_withManifest (surroundings : Surroundings σ) (settings : Settings)
    (cluster : Cluster) (one other : Table String ReleaseApp) (state : σ × Memory) :
    (provide settings cluster).run (surroundings.withManifest other).handle state =
      (provide settings cluster).run (surroundings.withManifest one).handle state := by
  apply Surroundings.run_withManifest
  rw [provide]
  split
  · trivial
  · apply Dialogue.Asks.bind
    · apply Operator.asks_calls
      apply Dialogue.Asks.tolerate
      rfl
    · intro _
      exact Artifacts.asks_ensure rfl (fun _ _ _ _ => rfl) (fun _ _ => rfl)
        fun _ _ _ => ⟨rfl, rfl, rfl⟩

/-- An apply in which the compilation succeeds goes on with what has been compiled. -/
theorem run_applyCluster_of_compiles {handler : Operator.Handler τ} {start between known : τ}
    {artifacts : ArtifactsOutcome} {compiled : Compiled}
    (provides : (provide settings cluster).run handler start = (.ok artifacts, between))
    (compiles : (compile settings cluster).run handler between = (.ok compiled, known)) :
    (applyCluster settings cluster).run handler start =
      (settle cluster artifacts (.ok compiled)).run handler known := by
  rw [applyCluster_eq_provide, Dialogue.run_bind_of_ok provides,
    Dialogue.run_bind_of_ok (Dialogue.run_attempt_eq_ok_iff.mpr compiles)]

/-- What has no chart does not affect the rest. Let charts not depend on what has been asked
before, and let a store have every App under its own name. If an apply for a cluster that is not
being deleted makes the artifacts and compiles a manifest, and some of its entries have no chart,
it leaves the same store, with the same log, as an apply over the manifest without these entries.
The one fails and names just these entries, in their order; the other succeeds. -/
theorem applyCluster_spares_resolved {surroundings : Surroundings σ}
    (steady : surroundings.IsSteady) (live : cluster.isDeleting = false)
    (entries : Table String ReleaseApp) {state : σ} {memory : Memory} (filed : memory.Filed)
    {artifacts : ArtifactsOutcome} {between known : σ × Memory} {compiled : Compiled}
    (provides : (provide settings cluster).run (surroundings.withManifest entries).handle
      (state, memory) = (.ok artifacts, between))
    (compiles : (compile settings cluster).run (surroundings.withManifest entries).handle
      between = (.ok compiled, known))
    (lacking : surroundings.unresolved settings cluster state entries ≠ []) :
    ∃ ended endedRest after,
      (applyCluster settings cluster).run (surroundings.withManifest entries).handle
          (state, memory) =
        (.error (.validation (.uncompiled
          ((surroundings.unresolved settings cluster state entries).map fun entry =>
            (entry.1, entry.2.message)))), (ended, after)) ∧
      (applyCluster settings cluster).run
          (surroundings.withManifest
            (surroundings.resolved settings cluster state entries)).handle (state, memory) =
        (.ok (if artifacts = .applied then .resync else .suspended), (endedRest, after)) := by
  obtain ⟨agent, apps, whole, rest, hasAgent, compilesAll, compilesRest⟩ :=
    exists_run_compile_resolved steady live compiles state
  have stillFiled : between.2.Filed := by
    have start : Prepared cluster memory (state, memory).2 := ⟨.refl cluster memory, rfl⟩
    have ready : Prepared cluster memory ((provide settings cluster).run
        (surroundings.withManifest entries).handle (state, memory)).2.2 :=
      start.run (asks_provide settings cluster)
    rw [provides] at ready
    exact filed.of_apps_eq ready.sameApps
  -- both passes ask for the agent once more, each where its charts have left the surroundings
  have known (later : σ) : (surroundings.components cluster later).1.bind agentComponent =
      .ok agent := by
    rw [steady.components cluster later between.1, hasAgent]
  obtain ⟨after, settles⟩ := run_settle_of_agent (σ := σ) artifacts agent
    (isMadeFor_of_compile compilesAll) (nodup_names_of_compile compilesAll) stillFiled
  obtain ⟨ended, endsAll⟩ := settles (surroundings.withManifest entries) whole
    (surroundings.unresolved settings cluster state entries) (known whole)
  obtain ⟨endedRest, endsRest⟩ := settles (surroundings.withManifest
    (surroundings.resolved settings cluster state entries)) rest [] (known rest)
  refine ⟨ended, endedRest, after, ?_, ?_⟩
  · rw [run_applyCluster_of_compiles provides compilesAll, endsAll, if_neg lacking]
  · have alsoProvides := run_provide_withManifest surroundings settings cluster entries
      (surroundings.resolved settings cluster state entries) (state, memory)
    rw [provides] at alsoProvides
    rw [run_applyCluster_of_compiles alsoProvides compilesRest, endsRest, if_pos rfl]

/-- Surroundings that find every chart but that of `broken`. -/
def partlyCharted : Surroundings Unit :=
  { Cleanup.stocked with
    chartName := fun _ app _ state =>
      (if app = "broken" then .error (.notFound "chart" app) else .ok (app ++ "-app"), state) }

def helloEntry : String × ReleaseApp := ("hello", ⟨"hello", "1.0.0", none⟩)

def brokenAndHello : Table String ReleaseApp :=
  .ofList [("broken", ⟨"broken", "1.0.0", none⟩), helloEntry]

/-- The entry that has a chart gets its App, beside one that has none. -/
theorem applyCluster_spares_resolved_broken :
    partlyCharted.IsSteady ∧ Cleanup.deserted.isDeleting = false ∧ ({} : Memory).Filed ∧
    partlyCharted.unresolved {} Cleanup.deserted () brokenAndHello ≠ [] ∧
    ∃ artifacts between compiled known ended endedRest after,
      (provide {} Cleanup.deserted).run (partlyCharted.withManifest brokenAndHello).handle
          ((), {}) =
        (.ok artifacts, between) ∧
      (compile {} Cleanup.deserted).run (partlyCharted.withManifest brokenAndHello).handle between =
        (.ok compiled, known) ∧
      (applyCluster {} Cleanup.deserted).run (partlyCharted.withManifest brokenAndHello).handle
          ((), {}) =
        (.error (.validation (.uncompiled
          [("broken", (Failure.notFound "chart" "broken").message)])), (ended, after)) ∧
      (applyCluster {} Cleanup.deserted).run
          (partlyCharted.withManifest (.ofList [helloEntry])).handle ((), {}) =
        (.ok .resync, (endedRest, after)) ∧
      (after.app? "org-acme" "demo0-hello").isSome = true := by
  let handler := (partlyCharted.withManifest brokenAndHello).handle
  have steady : partlyCharted.IsSteady := ⟨fun _ _ _ => rfl, fun _ _ _ _ _ => rfl⟩
  have missing : partlyCharted.unresolved {} Cleanup.deserted () brokenAndHello =
      [("broken", .notFound "chart" "broken")] := by
    decide +kernel
  have spared : partlyCharted.resolved {} Cleanup.deserted () brokenAndHello =
      .ofList [helloEntry] := by
    decide +kernel
  have lacking : partlyCharted.unresolved {} Cleanup.deserted () brokenAndHello ≠ [] := by
    rw [missing]
    exact List.cons_ne_nil _ _
  have succeeds : ((provide {} Cleanup.deserted).run handler ((), {})).1 = .ok .applied ∧
      ((compile {} Cleanup.deserted).run handler
        ((provide {} Cleanup.deserted).run handler ((), {})).2).1.isOk = true := by
    decide +kernel
  rcases provides : (provide {} Cleanup.deserted).run handler ((), {}) with ⟨outcome, between⟩
  rw [provides] at succeeds
  obtain ⟨rfl, compilesWell⟩ := succeeds
  rcases compiles : (compile {} Cleanup.deserted).run handler between with
    ⟨failure | compiled, known⟩
  · rw [compiles] at compilesWell
    cases compilesWell
  obtain ⟨ended, endedRest, after, whole, rest⟩ := applyCluster_spares_resolved steady rfl
    brokenAndHello Memory.filed_empty provides compiles lacking
  rw [missing] at whole
  rw [spared] at rest
  have made : (((applyCluster {} Cleanup.deserted).run
      (partlyCharted.withManifest (.ofList [helloEntry])).handle ((), ({} : Memory))).2.2.app?
        "org-acme" "demo0-hello").isSome = true := by
    decide +kernel
  rw [rest] at made
  exact ⟨steady, rfl, Memory.filed_empty, lacking, .applied, between, compiled, known, ended,
    endedRest, after, provides, compiles, whole, rest, made⟩

end Apply

end PlatformApps
