/-
# A compilation divides the manifest

Each entry of the manifest that is due comes out of a compilation once: as an App when its
chart is known, else as a failure. Nothing is lost or repeated, both lists keep the order of
the manifest, and only the answer for its own chart decides on which side an entry ends up.
The statement holds for whatever answers the compilation; `Supplies` lists what has to be
read before charts are looked for.
-/

import Mathlib.Data.List.Nodup
import PlatformApps.Proofs.Manifest

namespace PlatformApps

variable {σ : Type} {handler : Operator.Handler σ} {settings : Settings} {cluster : Cluster}

/-- What a compilation reads before it looks for charts: a release with a usable agent, and
the objects with values of users. -/
structure Supplies (handler : Operator.Handler σ) (cluster : Cluster) (start : σ) where
  components : Table String ReleaseComponent
  agent : ReleaseComponent
  entries : Table String ReleaseApp
  configMaps : List String
  secrets : List String
  knowsComponents : σ
  knowsEntries : σ
  knowsConfigMaps : σ
  ready : σ
  componentsRead : handler (.components cluster) start = (.ok components, knowsComponents)
  agentListed : components.find? platformAgent = some agent
  agentVersioned : agent.version ≠ ""
  entriesRead : handler (.releaseApps cluster) knowsComponents = (.ok entries, knowsEntries)
  configMapsListed : handler (.store (.listConfigMapNames cluster.space)) knowsEntries =
    (.ok configMaps, knowsConfigMaps)
  secretsListed : handler (.store (.listSecretNames cluster.space)) knowsConfigMaps =
    (.ok secrets, ready)

theorem Supplies.agentComponent_eq {handler : Operator.Handler σ} {cluster : Cluster} {start : σ}
    (supplies : Supplies handler cluster start) :
    agentComponent supplies.components = .ok supplies.agent := by
  rw [agentComponent, supplies.agentListed, Option.filter_some,
    if_pos (decide_eq_true supplies.agentVersioned)]

/-- Does an entry get an App or a failure? -/
def Cluster.Awaits (cluster : Cluster) (name : String) : Prop :=
  name ≠ platformAgent ∧ ¬ (cluster.spec.isManagedAws = true ∧ name ∈ providedByManagedAws)

/-- Is there no rule that states the chart of an entry? -/
def Settings.LeavesChartOpen (settings : Settings) (name : String) : Prop :=
  ∀ chart, (settings.ruleFor name).chart = some chart → chart = ""

/-! ## Charts, one for each entry -/

/-- What is known of the chart of an entry: what its rule states, else what has been answered
for it. -/
def ChartKnown (handler : Operator.Handler σ) (settings : Settings)
    (asked : List (OperatorRequest × σ)) (name : String) (entry : ReleaseApp)
    (chart : Outcome String) : Prop :=
  (∀ stated, (settings.ruleFor name).chart = some stated → stated ≠ "" → chart = .ok stated) ∧
    (settings.LeavesChartOpen name → ∃ seen,
      (OperatorRequest.chartName (catalogFor settings entry) name entry.version, seen) ∈ asked ∧
        (handler (.chartName (catalogFor settings entry) name entry.version) seen).1 = chart)

theorem ChartKnown.mono {asked later : List (OperatorRequest × σ)} {name : String}
    {entry : ReleaseApp} {chart : Outcome String}
    (known : ChartKnown handler settings asked name entry chart) (subset : asked ⊆ later) :
    ChartKnown handler settings later name entry chart := by
  refine ⟨known.1, fun leftOpen => ?_⟩
  obtain ⟨seen, inside, answered⟩ := known.2 leftOpen
  exact ⟨seen, subset inside, answered⟩

theorem chartKnown_chartFor (handler : Operator.Handler σ) (settings : Settings) (name : String)
    (entry : ReleaseApp) (state : σ) :
    ChartKnown handler settings ((chartFor settings name entry).moments handler state) name entry
      ((chartFor settings name entry).run handler state).1 := by
  cases rule : (settings.ruleFor name).chart.filter fun chart => chart ≠ "" with
  | some chart =>
      obtain ⟨given, filled⟩ := Option.filter_eq_some_iff.mp rule
      rw [chartFor, rule]
      refine ⟨?_, fun leftOpen => ?_⟩
      · intro stated found _
        cases given.symm.trans found
        rfl
      · have notEmpty : chart ≠ "" := of_decide_eq_true filled
        exact absurd (leftOpen chart given) notEmpty
  | none =>
      rw [chartFor, rule]
      refine ⟨?_, fun _ => ⟨state, List.mem_cons_self, rfl⟩⟩
      intro stated found filled
      have kept := Option.filter_eq_none_iff.mp rule stated found
      exact absurd (decide_eq_true filled) kept

theorem entries_of_chartsFor {entries : List (String × ReleaseApp)} {state after : σ}
    {charts : List (String × ReleaseApp × Outcome String)}
    (finds : (chartsFor settings entries).run handler state = (.ok charts, after)) :
    charts.map (fun chart => (chart.1, chart.2.1)) = entries := by
  induction entries generalizing state charts with
  | nil =>
      cases finds
      rfl
  | cons entry rest ih =>
      obtain ⟨name, entry⟩ := entry
      obtain ⟨chart, _, _, finds⟩ := Dialogue.run_bind_eq_ok_iff.mp finds
      obtain ⟨others, _, found, finds⟩ := Dialogue.run_bind_eq_ok_iff.mp finds
      cases finds
      rw [List.map_cons, ih found]

theorem chartKnown_of_chartsFor {entries : List (String × ReleaseApp)} {state after : σ}
    {charts : List (String × ReleaseApp × Outcome String)}
    (finds : (chartsFor settings entries).run handler state = (.ok charts, after)) :
    ∀ chart ∈ charts, ChartKnown handler settings
      ((chartsFor settings entries).moments handler state) chart.1 chart.2.1 chart.2.2 := by
  induction entries generalizing state charts with
  | nil =>
      cases finds
      intro chart inside
      cases inside
  | cons entry rest ih =>
      obtain ⟨name, entry⟩ := entry
      obtain ⟨chart, between, played, finds⟩ := Dialogue.run_bind_eq_ok_iff.mp finds
      obtain ⟨others, _, found, finds⟩ := Dialogue.run_bind_eq_ok_iff.mp finds
      cases finds
      rw [Dialogue.run_attempt] at played
      cases played
      intro other inside
      rcases List.mem_cons.mp inside with rfl | later
      · refine (chartKnown_chartFor handler settings name entry state).mono fun moment asked => ?_
        rw [← Dialogue.moments_attempt] at asked
        exact Dialogue.mem_moments_bind_iff.mpr (.inl asked)
      · refine (ih found other later).mono fun moment asked => ?_
        refine Dialogue.mem_moments_bind_of_ok (Dialogue.run_attempt _ _ _) ?_
        exact Dialogue.mem_moments_bind_iff.mpr (.inl asked)

/-! ## Two lists from the charts -/

/-- Names of the entries whose charts are known. -/
def chartedNames (charts : List (String × ReleaseApp × Outcome String)) : List String :=
  charts.filterMap fun
    | (name, _, .ok _) => some name
    | (_, _, .error _) => none

/-- Entries whose charts are missing, with the reasons. -/
def chartFailures (charts : List (String × ReleaseApp × Outcome String)) :
    List (String × Failure) :=
  charts.filterMap fun
    | (_, _, .ok _) => none
    | (name, _, .error failure) => some (name, failure)

variable {charts : List (String × ReleaseApp × Outcome String)}

theorem mem_chartedNames_iff {name : String} :
    name ∈ chartedNames charts ↔ ∃ entry chart, (name, entry, .ok chart) ∈ charts := by
  rw [chartedNames, List.mem_filterMap]
  constructor
  · rintro ⟨⟨_, entry, _ | chart⟩, inside, ⟨⟩⟩
    exact ⟨entry, chart, inside⟩
  · rintro ⟨entry, chart, inside⟩
    exact ⟨_, inside, rfl⟩

theorem mem_chartFailures_iff {name : String} {failure : Failure} :
    (name, failure) ∈ chartFailures charts ↔ ∃ entry, (name, entry, .error failure) ∈ charts := by
  rw [chartFailures, List.mem_filterMap]
  constructor
  · rintro ⟨⟨_, entry, _ | chart⟩, inside, ⟨⟩⟩
    exact ⟨entry, inside⟩
  · rintro ⟨entry, inside⟩
    exact ⟨_, inside, rfl⟩

theorem mem_names_chartFailures_iff {name : String} :
    name ∈ (chartFailures charts).map (·.1) ↔
      ∃ entry failure, (name, entry, .error failure) ∈ charts := by
  constructor
  · intro inside
    obtain ⟨⟨_, failure⟩, failed, rfl⟩ := List.mem_map.mp inside
    obtain ⟨entry, inside⟩ := mem_chartFailures_iff.mp failed
    exact ⟨entry, failure, inside⟩
  · rintro ⟨entry, failure, inside⟩
    exact List.mem_map.mpr ⟨_, mem_chartFailures_iff.mpr ⟨entry, inside⟩, rfl⟩

theorem sublist_chartedNames (charts : List (String × ReleaseApp × Outcome String)) :
    (chartedNames charts).Sublist (charts.map (·.1)) := by
  induction charts with
  | nil => exact .slnil
  | cons chart rest ih =>
      obtain ⟨name, entry, _ | chart⟩ := chart
      · exact ih.cons name
      · exact ih.cons_cons name

theorem sublist_names_chartFailures (charts : List (String × ReleaseApp × Outcome String)) :
    ((chartFailures charts).map (·.1)).Sublist (charts.map (·.1)) := by
  induction charts with
  | nil => exact .slnil
  | cons chart rest ih =>
      obtain ⟨name, entry, _ | chart⟩ := chart
      · exact ih.cons_cons name
      · exact ih.cons name

/-- Where names are distinct, an entry has one chart. -/
theorem chart_eq_of_mem (distinct : (charts.map (·.1)).Nodup) {name : String}
    {entry other : ReleaseApp} {chart otherChart : Outcome String}
    (inside : (name, entry, chart) ∈ charts) (alsoInside : (name, other, otherChart) ∈ charts) :
    chart = otherChart := by
  have same := List.inj_on_of_nodup_map distinct inside alsoInside rfl
  cases same
  rfl

/-! ## The division -/

theorem mem_installedEntries_iff {entries : Table String ReleaseApp} {name : String}
    {entry : ReleaseApp} :
    (name, entry) ∈ installedEntries cluster entries ↔
      entries.find? name = some entry ∧ cluster.Awaits name := by
  rw [installedEntries, List.mem_filter, Table.mem_toList_iff, Cluster.Awaits]
  simp only [Bool.and_eq_true, bne_iff_ne, ne_eq, Bool.not_eq_true', Bool.and_eq_false_iff,
    List.contains_eq_mem, decide_eq_false_iff_not, not_and_or, Bool.not_eq_true]

theorem names_chartedApps (settings : Settings) (cluster : Cluster) (agentVersion : String)
    (objects : UserObjects) (charts : List (String × ReleaseApp × Outcome String)) :
    (chartedApps settings cluster agentVersion objects charts).map App.name =
      (chartedNames charts).map (manifestAppName cluster.id) := by
  induction charts with
  | nil => rfl
  | cons chart rest ih =>
      obtain ⟨name, entry, _ | chart⟩ := chart
      · exact ih
      · exact congrArg (manifestAppName cluster.id name :: ·) ih

theorem labels_chartedApps (settings : Settings) (cluster : Cluster) (agentVersion : String)
    (objects : UserObjects) (charts : List (String × ReleaseApp × Outcome String)) :
    (chartedApps settings cluster agentVersion objects charts).map
        (·.labels.find? Label.appName) = (chartedNames charts).map some := by
  induction charts with
  | nil => rfl
  | cons chart rest ih =>
      obtain ⟨name, entry, _ | chart⟩ := chart
      · exact ih
      · refine List.cons_eq_cons.mpr ⟨?_, ih⟩
        exact find?_appName_appMetadata ..

/-- With its supplies a compilation comes to the charts of the entries that are due. -/
theorem run_compileAsLive_of_supplies (settings : Settings) {start : σ}
    (supplies : Supplies handler cluster start) :
    ∃ charts after,
      (chartsFor settings (installedEntries cluster supplies.entries)).run handler
        supplies.ready = (.ok charts, after) ∧
      (compileAsLive settings cluster).run handler start = (.ok {
        apps := agentApp settings cluster.id cluster.space supplies.agent ::
          chartedApps settings cluster supplies.agent.version
            ⟨supplies.configMaps, supplies.secrets⟩ charts
        failures := chartFailures charts }, after) ∧
      (chartsFor settings (installedEntries cluster supplies.entries)).moments handler
        supplies.ready ⊆ (compileAsLive settings cluster).moments handler start := by
  obtain ⟨charts, after, finds⟩ := run_chartsFor handler settings
    (installedEntries cluster supplies.entries) supplies.ready
  have components : (Operator.components cluster).run handler start =
      (.ok supplies.components, supplies.knowsComponents) :=
    Dialogue.run_ask_of_answer supplies.componentsRead _
  have agent : (Dialogue.ofOutcome (I := Operator) (agentComponent supplies.components)).run
      handler supplies.knowsComponents = (.ok supplies.agent, supplies.knowsComponents) := by
    rw [supplies.agentComponent_eq]
    rfl
  have entries : (Operator.releaseApps cluster).run handler supplies.knowsComponents =
      (.ok supplies.entries, supplies.knowsEntries) :=
    Dialogue.run_ask_of_answer supplies.entriesRead _
  have configMaps : (Operator.store (.listConfigMapNames cluster.space)).run handler
      supplies.knowsEntries = (.ok supplies.configMaps, supplies.knowsConfigMaps) :=
    Dialogue.run_ask_of_answer supplies.configMapsListed _
  have secrets : (Operator.store (.listSecretNames cluster.space)).run handler
      supplies.knowsConfigMaps = (.ok supplies.secrets, supplies.ready) :=
    Dialogue.run_ask_of_answer supplies.secretsListed _
  refine ⟨charts, after, finds, ?_, fun moment asked => ?_⟩
  · simp only [compileAsLive, Dialogue.bind_eq]
    rw [Dialogue.run_bind_of_ok components, Dialogue.run_bind_of_ok agent,
      Dialogue.run_bind_of_ok entries, Dialogue.run_bind_of_ok configMaps,
      Dialogue.run_bind_of_ok secrets, Dialogue.run_bind_of_ok finds]
    rfl
  · simp only [compileAsLive, Dialogue.bind_eq]
    refine Dialogue.mem_moments_bind_of_ok components ?_
    refine Dialogue.mem_moments_bind_of_ok agent ?_
    refine Dialogue.mem_moments_bind_of_ok entries ?_
    refine Dialogue.mem_moments_bind_of_ok configMaps ?_
    refine Dialogue.mem_moments_bind_of_ok secrets ?_
    exact Dialogue.mem_moments_bind_iff.mpr (.inl asked)

/-- The Apps and failures of a compilation divide a manifest: those of `made` have the Apps
after the agent's. -/
structure Compiled.Divides (compiled : Compiled) (cluster : Cluster)
    (entries : Table String ReleaseApp) (agent : App) (others : List App) (made : List String) :
    Prop where
  apps : compiled.apps = agent :: others
  agentNamed : agent.name = agentAppName cluster.id
  agentVersion : agent.labels.find? Label.agentVersion = some "0.0.0"
  agentOnce : ∀ app ∈ others, app.name ≠ agentAppName cluster.id ∧
    app.labels.find? Label.appName ≠ some platformAgent
  named : others.map App.name = made.map (manifestAppName cluster.id)
  labelled : others.map (·.labels.find? Label.appName) = made.map some
  covers : ∀ name, name ∈ made ∨ name ∈ compiled.failures.map (·.1) ↔
    entries.contains name = true ∧ cluster.Awaits name
  apart : ∀ name ∈ made, name ∉ compiled.failures.map (·.1)
  madeInOrder : made.Pairwise (· < ·)
  failuresInOrder : (compiled.failures.map (·.1)).Pairwise (· < ·)
  namesDistinct : (compiled.apps.map App.name).Nodup
  marked : ∀ app ∈ compiled.apps, app.metadata.namespace_ = some cluster.space ∧
    app.labels.find? Label.cluster = some cluster.id ∧
    app.labels.find? Label.managedBy = some projectName

theorem names_of_supplied {entries : Table String ReleaseApp}
    {charts : List (String × ReleaseApp × Outcome String)}
    (listed : charts.map (fun chart => (chart.1, chart.2.1)) = installedEntries cluster entries) :
    charts.map (·.1) = (installedEntries cluster entries).map (·.1) := by
  rw [← listed, List.map_map]
  rfl

/-- An entry has a chart, known or missing, just when it is due. -/
theorem exists_chart_iff {entries : Table String ReleaseApp}
    (listed : charts.map (fun chart => (chart.1, chart.2.1)) = installedEntries cluster entries)
    (name : String) (entry : ReleaseApp) :
    (∃ chart, (name, entry, chart) ∈ charts) ↔
      entries.find? name = some entry ∧ cluster.Awaits name := by
  rw [← mem_installedEntries_iff, ← listed, List.mem_map]
  constructor
  · rintro ⟨chart, inside⟩
    exact ⟨_, inside, rfl⟩
  · rintro ⟨⟨_, _, chart⟩, inside, ⟨⟩⟩
    exact ⟨chart, inside⟩

/-- Every entry that is due is charted or has failed. -/
theorem charted_or_failed_iff {entries : Table String ReleaseApp}
    (listed : charts.map (fun chart => (chart.1, chart.2.1)) = installedEntries cluster entries)
    (name : String) :
    name ∈ chartedNames charts ∨ name ∈ (chartFailures charts).map (·.1) ↔
      entries.contains name = true ∧ cluster.Awaits name := by
  rw [mem_chartedNames_iff, mem_names_chartFailures_iff, Table.contains, Option.isSome_iff_exists]
  constructor
  · rintro (⟨entry, chart, inside⟩ | ⟨entry, failure, inside⟩)
    · obtain ⟨found, awaits⟩ := (exists_chart_iff listed name entry).mp ⟨_, inside⟩
      exact ⟨⟨entry, found⟩, awaits⟩
    · obtain ⟨found, awaits⟩ := (exists_chart_iff listed name entry).mp ⟨_, inside⟩
      exact ⟨⟨entry, found⟩, awaits⟩
  · rintro ⟨⟨entry, found⟩, awaits⟩
    obtain ⟨failure | chart, inside⟩ := (exists_chart_iff listed name entry).mpr ⟨found, awaits⟩
    · exact .inr ⟨entry, failure, inside⟩
    · exact .inl ⟨entry, chart, inside⟩

theorem App.IsMadeFor.marked {app : App} {id space : String} (made : app.IsMadeFor id space) :
    app.metadata.namespace_ = some space ∧ app.labels.find? Label.cluster = some id ∧
      app.labels.find? Label.managedBy = some projectName := by
  refine ⟨?_, ?_, ?_⟩
  · obtain ⟨name, entry, agentVersion, forceUpgrade, same⟩ := made
    rw [same]
    rfl
  · rw [made.find?_labels (by decide) (by decide), find?_managedLabels, if_neg (by decide),
      if_pos rfl]
  · rw [made.find?_labels (by decide) (by decide), find?_managedLabels, if_pos rfl]

/-- Charts for the entries that are due divide the manifest. -/
theorem divides_of_charts {entries : Table String ReleaseApp} (settings : Settings)
    (component : ReleaseComponent) (objects : UserObjects)
    (listed : charts.map (fun chart => (chart.1, chart.2.1)) = installedEntries cluster entries)
    {compiled : Compiled} (failures : compiled.failures = chartFailures charts)
    (apps : compiled.apps = agentApp settings cluster.id cluster.space component ::
      chartedApps settings cluster component.version objects charts)
    (distinct : (compiled.apps.map App.name).Nodup)
    (made : ∀ app ∈ compiled.apps, app.IsMadeFor cluster.id cluster.space) :
    compiled.Divides cluster entries (agentApp settings cluster.id cluster.space component)
      (chartedApps settings cluster component.version objects charts) (chartedNames charts) := by
  have names := names_of_supplied listed
  have ordered : (charts.map (·.1)).Pairwise (· < ·) := by
    rw [names, List.pairwise_map]
    exact entries.sorted.filter _
  have separate : (platformAgent :: charts.map (·.1)).Nodup :=
    names ▸ nodup_names_installedEntries cluster entries
  refine {
    apps, agentNamed := rfl, agentVersion := ?_, agentOnce := ?_,
    named := names_chartedApps .., labelled := labels_chartedApps .., covers := ?_, apart := ?_,
    madeInOrder := ordered.sublist (sublist_chartedNames charts), failuresInOrder := ?_,
    namesDistinct := distinct, marked := fun app inside => (made app inside).marked }
  · show (appMetadata ..).labelTable.find? Label.agentVersion = _
    rw [appMetadata, Metadata.labelTable, Option.getD_some, Table.find?_insert, if_pos rfl]
    rfl
  · intro app inside
    rw [apps, List.map_cons, List.nodup_cons] at distinct
    refine ⟨fun same => distinct.1 ?_, fun same => (List.nodup_cons.mp separate).1 ?_⟩
    · have named : app.name = (agentApp settings cluster.id cluster.space component).name := same
      exact named ▸ List.mem_map_of_mem inside
    · have labelled : some platformAgent ∈ (chartedNames charts).map some := by
        rw [← labels_chartedApps, ← same]
        exact List.mem_map_of_mem (f := fun app => app.labels.find? Label.appName) inside
      obtain ⟨_, charted, ⟨⟩⟩ := List.mem_map.mp labelled
      exact (sublist_chartedNames charts).subset charted
  · rw [failures]
    exact charted_or_failed_iff listed
  · intro name charted failed
    rw [failures] at failed
    obtain ⟨_, chart, inside⟩ := mem_chartedNames_iff.mp charted
    obtain ⟨_, failure, alsoInside⟩ := mem_names_chartFailures_iff.mp failed
    cases chart_eq_of_mem (List.nodup_cons.mp separate).2 inside alsoInside
  · rw [failures]
    exact ordered.sublist (sublist_names_chartFailures charts)

/-- A compilation divides the manifest of a live cluster. The agent comes first; each other
entry that is due has its App or its failure, in the order of the manifest, and a failure just
where no rule states the chart of the entry and the answer for that chart is a failure. -/
theorem compile_divides_manifest (settings : Settings) (live : cluster.isDeleting = false)
    {start : σ} (supplies : Supplies handler cluster start) :
    ∃ compiled after agent others made,
      (compile settings cluster).run handler start = (.ok compiled, after) ∧
      compiled.Divides cluster supplies.entries agent others made ∧
      ∀ name entry, supplies.entries.find? name = some entry → cluster.Awaits name →
        (¬ settings.LeavesChartOpen name → name ∉ compiled.failures.map (·.1)) ∧
        (settings.LeavesChartOpen name → ∃ seen,
          (OperatorRequest.chartName (catalogFor settings entry) name entry.version, seen) ∈
            (compile settings cluster).moments handler start ∧
          ∀ failure, (name, failure) ∈ compiled.failures ↔
            (handler (.chartName (catalogFor settings entry) name entry.version) seen).1 =
              .error failure) := by
  have asLive : compile settings cluster = compileAsLive settings cluster := by
    rw [compile, if_neg (Bool.eq_false_iff.mp live)]
  rw [asLive]
  obtain ⟨charts, after, finds, compiles, asked⟩ := run_compileAsLive_of_supplies settings supplies
  have listed := entries_of_chartsFor finds
  have distinct : (charts.map (·.1)).Nodup := by
    rw [names_of_supplied listed]
    exact (List.nodup_cons.mp (nodup_names_installedEntries cluster supplies.entries)).2
  refine ⟨_, after, _, _, _, compiles, divides_of_charts settings supplies.agent _ listed rfl rfl
    (nodup_names_of_compileAsLive compiles) (isMadeFor_of_compileAsLive compiles), ?_⟩
  intro name entry found awaits
  obtain ⟨chart, inside⟩ := (exists_chart_iff listed name entry).mpr ⟨found, awaits⟩
  have known := (chartKnown_of_chartsFor finds _ inside).mono asked
  -- by the distinct names, the failure of an entry is that of its own chart
  have failed (failure : Failure) : (name, failure) ∈ chartFailures charts ↔
      chart = .error failure := by
    rw [mem_chartFailures_iff]
    constructor
    · rintro ⟨other, alsoInside⟩
      exact chart_eq_of_mem distinct inside alsoInside
    · rintro rfl
      exact ⟨entry, inside⟩
  constructor
  · intro ruled fails
    obtain ⟨⟨_, failure⟩, listedFailure, rfl⟩ := List.mem_map.mp fails
    refine ruled fun stated given => ?_
    by_contra filled
    cases (known.1 stated given filled).symm.trans ((failed failure).mp listedFailure)
  · intro leftOpen
    obtain ⟨seen, inMoments, answered⟩ := known.2 leftOpen
    refine ⟨seen, inMoments, fun failure => ?_⟩
    rw [answered]
    exact failed failure

/-- A live cluster with a control plane managed by AWS. -/
def managedControlPlane : Cluster where
  metadata := {
    name := some "demo0"
    namespace_ := some "org-acme"
    labels := some (.ofList [(Label.cluster, "demo0")]) }
  spec := {
    controlPlaneRef := some { kind := "AWSManagedControlPlane", name := "demo0-control-plane" }
    infrastructureRef := some { kind := "AWSManagedCluster", name := "demo0" } }

/-- Answers a compilation; the catalogs hold every chart but that of `broken`. -/
def partlyStocked : Operator.Handler Unit
  | .components _, state =>
    (.ok (.ofList [(platformAgent, ⟨platformAgent, "6.11.0", none, none⟩)]), state)
  | .releaseApps _, state =>
    (.ok (.ofList [
      (platformAgent, ⟨platformAgent, "6.11.0", none⟩), ("broken", ⟨"broken", "1.0.0", none⟩),
      ("coredns", ⟨"coredns", "1.21.0", none⟩), ("hello", ⟨"hello", "1.0.0", none⟩)]), state)
  | .store (.listConfigMapNames _), state | .store (.listSecretNames _), state => (.ok [], state)
  | .chartName _ app _, state =>
    (if app = "broken" then .error (.notFound "chart" app) else .ok (app ++ "-app"), state)
  | _, state => (.error (.exchange "not answered"), state)

def partlyStockedSupplies : Supplies partlyStocked managedControlPlane () where
  components := _
  agent := ⟨platformAgent, "6.11.0", none, none⟩
  entries := _
  configMaps := _
  secrets := _
  knowsComponents := ()
  knowsEntries := ()
  knowsConfigMaps := ()
  ready := ()
  componentsRead := rfl
  agentListed := by decide
  agentVersioned := by decide
  entriesRead := rfl
  configMapsListed := rfl
  secretsListed := rfl

/-- The missing chart of one entry does not keep another from its App. -/
theorem compile_divides_manifest_unresolved :
    managedControlPlane.isDeleting = false ∧ ∃ compiled after agent others made,
      (compile {} managedControlPlane).run partlyStocked () = (.ok compiled, after) ∧
      compiled.Divides managedControlPlane partlyStockedSupplies.entries agent others made ∧
      compiled.apps.map App.name = ["demo0-app-operator", "demo0-hello"] ∧
      compiled.failures.map (·.1) = ["broken"] := by
  have lists : ((compile {} managedControlPlane).run partlyStocked ()).1.map (fun compiled =>
      (compiled.apps.map App.name, compiled.failures.map (·.1))) =
        .ok (["demo0-app-operator", "demo0-hello"], ["broken"]) := by
    decide +kernel
  have live : managedControlPlane.isDeleting = false := rfl
  obtain ⟨compiled, after, agent, others, made, compiles, divides, _⟩ :=
    compile_divides_manifest {} live partlyStockedSupplies
  rw [compiles] at lists
  obtain ⟨names, failed⟩ := Prod.mk.inj (Except.ok.inj lists)
  exact ⟨live, compiled, after, agent, others, made, compiles, divides, names, failed⟩

end PlatformApps
