/-
# What the rule for one app acts on

Settings may state a rule for single apps. A rule that changes is seen in the App of its own
entry and nowhere else: the agent and all other entries come out of a compilation as before. To
its own entry a text that is empty is no text, what is stated wins, and where a chart is stated
no catalog is asked for one. The agent follows no rule at all.
-/

import PlatformApps.Proofs.Apply.Unresolved

namespace PlatformApps

variable {σ : Type}

/-! ## Rules -/

/-- The rule without its empty texts. -/
def OverrideRule.withoutEmpty (rule : OverrideRule) : OverrideRule :=
  { rule with
    chart := rule.chart.filter fun chart => chart ≠ ""
    namespace_ := rule.namespace_.filter fun text => text ≠ ""
    configMapName := rule.configMapName.filter fun text => text ≠ "" }

namespace Settings

/-- Two settings differ in the rule for one app at most. -/
structure DifferAt (one other : Settings) (name : String) : Prop where
  others : other = { one with overrides := other.overrides }
  rules : ∀ app, app ≠ name → other.overrides.find? app = one.overrides.find? app

/-- Two settings treat an app alike: they have the same defaults and, but for empty texts, the
same rule for it. -/
structure TreatsAlike (one other : Settings) (name : String) : Prop where
  defaults : other.appDefaults = one.appDefaults
  rule : (other.ruleFor name).withoutEmpty = (one.ruleFor name).withoutEmpty

variable {one other : Settings} {name : String}

theorem DifferAt.appDefaults (differ : one.DifferAt other name) :
    other.appDefaults = one.appDefaults := by
  rw [differ.others]

theorem DifferAt.treatsAlike (differ : one.DifferAt other name) {app : String}
    (different : app ≠ name) : one.TreatsAlike other app where
  defaults := differ.appDefaults
  rule := by rw [ruleFor, ruleFor, differ.rules app different]

namespace TreatsAlike

theorem chartFor (alike : one.TreatsAlike other name) (entry : ReleaseApp) :
    chartFor other name entry = chartFor one name entry := by
  have charts := congrArg OverrideRule.chart alike.rule
  simp only [OverrideRule.withoutEmpty] at charts
  rw [PlatformApps.chartFor, PlatformApps.chartFor, charts, catalogFor, catalogFor,
    alike.defaults]

theorem chartOf (alike : one.TreatsAlike other name) (surroundings : Surroundings σ) (state : σ)
    (entry : ReleaseApp) :
    surroundings.chartOf other state name entry = surroundings.chartOf one state name entry := by
  have charts := congrArg OverrideRule.chart alike.rule
  simp only [OverrideRule.withoutEmpty] at charts
  rw [Surroundings.chartOf, Surroundings.chartOf, charts, catalogFor, catalogFor,
    alike.defaults]

theorem manifestApp (alike : one.TreatsAlike other name) (id space agentVersion : String)
    (objects : UserObjects) (entry : ReleaseApp) (chart : String) :
    manifestApp other id space agentVersion objects name entry chart =
      manifestApp one id space agentVersion objects name entry chart := by
  obtain ⟨defaults, rule⟩ := alike
  simp only [OverrideRule.withoutEmpty, OverrideRule.mk.injEq] at rule
  obtain ⟨-, space, force, secret, configMap, inCluster⟩ := rule
  simp only [PlatformApps.manifestApp, catalogFor, kubeConfigFor, statedOr, defaults, space, force,
    secret, configMap, inCluster]

end TreatsAlike

theorem agentApp_of_appDefaults (defaults : other.appDefaults = one.appDefaults) (id space : String)
    (component : ReleaseComponent) :
    agentApp other id space component = agentApp one id space component := by
  rw [agentApp, agentApp, defaults]

end Settings

/-! ## Compilations -/

/-- What a compilation reads before it looks for charts: the agent's component, the manifest and
the objects of users. -/
def supply (cluster : Cluster) :
    Dialogue Operator (ReleaseComponent × Table String ReleaseApp × UserObjects) := do
  let agent ← .ofOutcome (agentComponent (← Operator.components cluster))
  let entries ← Operator.releaseApps cluster
  let configMaps ← Operator.store (.listConfigMapNames cluster.space)
  let secrets ← Operator.store (.listSecretNames cluster.space)
  pure (agent, entries, ⟨configMaps, secrets⟩)

/-- What is compiled from charts. -/
def compiledOf (settings : Settings) (cluster : Cluster) (agent : ReleaseComponent)
    (objects : UserObjects) (charts : List (String × ReleaseApp × Outcome String)) : Compiled where
  apps := agentApp settings cluster.id cluster.space agent ::
    chartedApps settings cluster agent.version objects charts
  failures := chartFailures charts

theorem compileAsLive_eq_bind (settings : Settings) (cluster : Cluster) :
    compileAsLive settings cluster = (supply cluster).bind fun (agent, entries, objects) =>
      (chartsFor settings (installedEntries cluster entries)).bind fun charts =>
        pure (compiledOf settings cluster agent objects charts) := by
  simp only [compileAsLive, supply, Dialogue.bind_eq, Dialogue.bind_assoc]
  rfl

/-- Where entries are treated alike, looking for their charts goes on alike. -/
theorem chartsFor_bind_congr {β : Type} {one other : Settings}
    {entries : List (String × ReleaseApp)}
    (alike : ∀ entry ∈ entries, one.TreatsAlike other entry.1)
    {next nextOther : List (String × ReleaseApp × Outcome String) → Dialogue Operator β}
    (same : ∀ charts, charts.map (·.1) = entries.map (·.1) → nextOther charts = next charts) :
    (chartsFor other entries).bind nextOther = (chartsFor one entries).bind next := by
  induction entries generalizing next nextOther with
  | nil => exact same [] rfl
  | cons entry rest ih =>
      obtain ⟨name, entry⟩ := entry
      obtain ⟨first, others⟩ := List.forall_mem_cons.mp alike
      rw [chartsFor, chartsFor, first.chartFor, Dialogue.bind_assoc, Dialogue.bind_assoc]
      congr 1
      funext chart
      rw [Dialogue.bind_assoc, Dialogue.bind_assoc]
      apply ih others
      intro charts names
      apply same
      rw [List.map_cons, List.map_cons, names]

/-- Settings that treat all entries alike compile a cluster alike. -/
theorem compileAsLive_congr {one other : Settings} (cluster : Cluster)
    (alike : ∀ name, name ≠ platformAgent → one.TreatsAlike other name)
    (defaults : other.appDefaults = one.appDefaults) :
    compileAsLive other cluster = compileAsLive one cluster := by
  rw [compileAsLive_eq_bind, compileAsLive_eq_bind]
  congr 1
  funext ⟨agent, entries, objects⟩
  have apart := List.nodup_cons.mp (nodup_names_installedEntries cluster entries)
  have treated : ∀ name ∈ (installedEntries cluster entries).map (·.1),
      one.TreatsAlike other name := by
    intro name inside
    apply alike
    rintro rfl
    exact apart.1 inside
  apply chartsFor_bind_congr
  · intro entry inside
    exact treated _ (List.mem_map_of_mem inside)
  · intro charts names
    have apps : chartedApps other cluster agent.version objects charts =
        chartedApps one cluster agent.version objects charts := by
      apply List.filterMap_congr
      rintro ⟨name, entry, failure | chart⟩ inside
      · rfl
      · have listed : name ∈ charts.map (·.1) := List.mem_map_of_mem inside
        rw [names] at listed
        exact congrArg some ((treated name listed).manifestApp _ _ _ _ _ _)
    rw [compiledOf, compiledOf, apps, Settings.agentApp_of_appDefaults defaults]

/-- A rule that changes in empty texts only, or that is for the agent, changes nothing. -/
theorem Settings.DifferAt.compile_eq {one other : Settings} {name : String}
    (differ : one.DifferAt other name) (cluster : Cluster)
    (same : name ≠ platformAgent →
      (other.ruleFor name).withoutEmpty = (one.ruleFor name).withoutEmpty) :
    compile other cluster = compile one cluster := by
  have alike : ∀ app, app ≠ platformAgent → one.TreatsAlike other app := by
    intro app different
    by_cases own : app = name
    · subst own
      exact ⟨differ.appDefaults, same different⟩
    · exact differ.treatsAlike own
  rw [compile, compile, compileAsLive_congr cluster alike differ.appDefaults]

/-! ## Charts that nobody asks for -/

namespace Surroundings

variable {surroundings : Surroundings σ}

/-- The same surroundings with other charts for one app. -/
def withChartsOf (surroundings : Surroundings σ) (name : String)
    (answer : String → String → σ → Outcome String × σ) : Surroundings σ :=
  { surroundings with
    chartName := fun catalog app version state =>
      if app = name then answer catalog version state
      else surroundings.chartName catalog app version state }

/-- What does not ask for the chart of an app comes to the same whatever that is. -/
theorem run_withChartsOf {α : Type} {name : String} {dialogue : Dialogue Operator α}
    (asks : dialogue.Asks fun request : OperatorRequest =>
      ∀ catalog version, request ≠ .chartName catalog name version)
    (answer : String → String → σ → Outcome String × σ) (state : σ × Memory) :
    dialogue.run (surroundings.withChartsOf name answer).handle state =
      dialogue.run surroundings.handle state := by
  have alike : ∀ request : OperatorRequest,
      (∀ catalog version, request ≠ .chartName catalog name version) →
      ∀ state later, state = later →
        ((surroundings.withChartsOf name answer).handle request later).1 =
            (surroundings.handle request state).1 ∧
          (surroundings.handle request state).2 =
            ((surroundings.withChartsOf name answer).handle request later).2 := by
    rintro request spared state _ rfl
    cases request with
    | chartName catalog app version =>
        have different : app ≠ name := by
          rintro rfl
          exact spared catalog version rfl
        simp [handle, withChartsOf, different]
    | _ => exact ⟨rfl, rfl⟩
  obtain ⟨outcome, left⟩ := asks.run_related (· = ·) alike rfl
  exact Prod.ext outcome left.symm

end Surroundings

/-- Does the rule for an app state its chart? -/
def Settings.StatesChart (settings : Settings) (name chart : String) : Prop :=
  (settings.ruleFor name).chart = some chart ∧ chart ≠ ""

theorem Settings.StatesChart.filter {settings : Settings} {name chart : String}
    (states : settings.StatesChart name chart) :
    ((settings.ruleFor name).chart.filter fun chart => chart ≠ "") = some chart := by
  rw [states.1, Option.filter_some, if_pos (decide_eq_true states.2)]

/-- A catalog is not asked for a chart that is stated. -/
theorem asks_chartsFor_of_states {settings : Settings} {name chart : String}
    (states : settings.StatesChart name chart) (entries : List (String × ReleaseApp)) :
    (chartsFor settings entries).Asks fun request : OperatorRequest =>
      ∀ catalog version, request ≠ .chartName catalog name version := by
  induction entries with
  | nil => trivial
  | cons entry rest ih =>
      obtain ⟨app, entry⟩ := entry
      have first : (chartFor settings app entry).Asks fun request : OperatorRequest =>
          ∀ catalog version, request ≠ .chartName catalog name version := by
        by_cases same : app = name
        · subst same
          rw [chartFor, states.filter]
          trivial
        · rw [chartFor]
          split
          · trivial
          · refine ⟨fun catalog version asked => same ?_, fun _ => trivial⟩
            cases asked
            rfl
      apply first.attempt.bind
      intro chart
      apply ih.bind
      intro others
      trivial

theorem asks_compile_of_states {settings : Settings} {name chart : String}
    (states : settings.StatesChart name chart) (cluster : Cluster) :
    (compile settings cluster).Asks fun request : OperatorRequest =>
      ∀ catalog version, request ≠ .chartName catalog name version := by
  have supplied : (supply cluster).Asks fun request : OperatorRequest =>
      ∀ catalog version, request ≠ .chartName catalog name version := by
    refine Dialogue.Asks.bind ⟨nofun, fun _ => trivial⟩ fun known => ?_
    refine Dialogue.Asks.bind trivial fun agent => ?_
    refine Dialogue.Asks.bind ⟨nofun, fun _ => trivial⟩ fun entries => ?_
    refine Dialogue.Asks.bind ⟨nofun, fun _ => trivial⟩ fun configMaps => ?_
    exact Dialogue.Asks.bind ⟨nofun, fun _ => trivial⟩ fun secrets => trivial
  rw [compile]
  split
  · trivial
  · rw [compileAsLive_eq_bind]
    apply supplied.bind
    rintro ⟨agent, entries, objects⟩
    apply (asks_chartsFor_of_states states _).bind
    intro charts
    trivial

/-! ## One entry and the others -/

section Charts

variable {settings : Settings} {cluster : Cluster} {agent : ReleaseComponent}
  {objects : UserObjects} {charts : List (String × ReleaseApp × Outcome String)}

/-- The Apps of other entries are those of the charts of other entries. -/
theorem filter_chartedApps (agentVersion name : String) :
    (chartedApps settings cluster agentVersion objects charts).filter
        (fun app => app.labels.find? Label.appName ≠ some name) =
      chartedApps settings cluster agentVersion objects
        (charts.filter fun chart => chart.1 ≠ name) := by
  rw [chartedApps, chartedApps, List.filter_filterMap, List.filterMap_filter]
  apply List.filterMap_congr
  rintro ⟨app, entry, failure | chart⟩ _
  · exact (ite_self none).symm
  · simp only [Option.filter_some, find?_appName_manifestApp, ne_eq, Option.some.injEq]

theorem filter_chartFailures (charts : List (String × ReleaseApp × Outcome String))
    (name : String) :
    (chartFailures charts).filter (fun failure => failure.1 ≠ name) =
      chartFailures (charts.filter fun chart => chart.1 ≠ name) := by
  rw [chartFailures, chartFailures, List.filter_filterMap, List.filterMap_filter]
  apply List.filterMap_congr
  rintro ⟨app, entry, failure | chart⟩ _
  · rfl
  · exact (ite_self none).symm

end Charts

/-- Two Apps of one entry differ at most in what a rule is about: the chart, the namespace, the
configuration, the way to the cluster and the forced upgrade. -/
def App.SameButForRule (app other : App) : Prop :=
  other = {
    metadata := { app.metadata with annotations := other.metadata.annotations }
    spec := { app.spec with
      name := other.spec.name
      namespace_ := other.spec.namespace_
      config := other.spec.config
      kubeConfig := other.spec.kubeConfig } }

/-- Two compilations have the same agent and, besides one entry, the same Apps and failures. -/
structure Compiled.SameBeside (one other : Compiled) (name : String) : Prop where
  agent : other.apps.head? = one.apps.head?
  apps : other.apps.filter (fun app => app.labels.find? Label.appName ≠ some name) =
    one.apps.filter fun app => app.labels.find? Label.appName ≠ some name
  failures : other.failures.filter (fun failure => failure.1 ≠ name) =
    one.failures.filter fun failure => failure.1 ≠ name
  own : ∀ app, one.appFor? name = some app → ∀ otherApp, other.appFor? name = some otherApp →
    app.SameButForRule otherApp

/-! ## The entry itself -/

/-- A text that is stated wins, unless it is empty; else there is the default. -/
structure Takes (stated : Option String) (default result : String) : Prop where
  wins : ∀ text, stated = some text → text ≠ "" → result = text
  otherwise : (∀ text, stated = some text → text = "") → result = default

theorem filter_eq_none_of_empty {stated : Option String}
    (unstated : ∀ text, stated = some text → text = "") :
    (stated.filter fun text => text ≠ "") = none := by
  rw [Option.filter_eq_none_iff]
  intro text given
  simp [unstated text given]

theorem takes_statedOr (stated : Option String) (default : String) :
    Takes stated default (statedOr stated default) := by
  constructor
  · rintro text rfl filled
    rw [statedOr, Option.filter_some, if_pos (decide_eq_true filled), Option.getD_some]
  · intro unstated
    rw [statedOr, filter_eq_none_of_empty unstated, Option.getD_none]

/-- An App is as the rule for its entry says, and by default where the rule says nothing. -/
structure App.Heeds (app : App) (settings : Settings) (cluster : Cluster) (name : String) :
    Prop where
  namespace_ : Takes (settings.ruleFor name).namespace_ settings.appDefaults.namespace_
    app.spec.namespace_
  forceUpgrade : app.annotations.find? Annotation.forceUpgrade =
    some (if (settings.ruleFor name).useUpgradeForce.getD settings.appDefaults.useUpgradeForce
      then "true" else "false")
  configMap : ∃ configMap,
    Takes (settings.ruleFor name).configMapName (clusterValuesName cluster.id) configMap ∧
      app.spec.config.bind (·.configMap) = some ⟨configMap, cluster.space⟩
  secret : app.spec.config.bind (·.secret) =
    if (settings.ruleFor name).hasClusterValuesSecret = some true then
      some ⟨clusterValuesName cluster.id, cluster.space⟩
    else none
  kubeConfig : app.spec.kubeConfig =
    if (settings.ruleFor name).inCluster = some true then { inCluster := true }
    else {
      context := some (kubeconfigName cluster.id)
      secret := some ⟨kubeconfigName cluster.id, cluster.space⟩ }

theorem heeds_manifestApp (settings : Settings) (cluster : Cluster) (agentVersion : String)
    (objects : UserObjects) (name : String) (entry : ReleaseApp) (chart : String) :
    (manifestApp settings cluster.id cluster.space agentVersion objects name entry chart).Heeds
      settings cluster name := by
  have flag (stated : Option Bool) : stated.getD false = true ↔ stated = some true := by
    cases stated <;> simp
  constructor
  · exact takes_statedOr _ _
  · exact (Table.find?_ofList (by simp) _).trans (if_pos rfl)
  · exact ⟨_, takes_statedOr _ _, rfl⟩
  · simp only [manifestApp, Option.bind_some, flag]
  · simp only [manifestApp, kubeConfigFor, flag]

section Own

variable {settings : Settings} {cluster : Cluster} {agent : ReleaseComponent}
  {objects : UserObjects} {charts : List (String × ReleaseApp × Outcome String)} {name : String}

theorem appFor?_compiledOf_agent :
    (compiledOf settings cluster agent objects charts).appFor? platformAgent =
      some (agentApp settings cluster.id cluster.space agent) := by
  rw [Compiled.appFor?, compiledOf, List.find?_cons_of_pos]
  rw [find?_appName_agentApp, beq_self_eq_true]

/-- An entry with a chart has its App. -/
theorem appFor?_compiledOf_of_mem (notAgent : name ≠ platformAgent)
    (distinct : (charts.map (·.1)).Nodup) {entry : ReleaseApp} {chart : String}
    (inside : (name, entry, .ok chart) ∈ charts) :
    (compiledOf settings cluster agent objects charts).appFor? name =
      some (manifestApp settings cluster.id cluster.space agent.version objects name entry
        chart) := by
  have made : manifestApp settings cluster.id cluster.space agent.version objects name entry
      chart ∈ (compiledOf settings cluster agent objects charts).apps :=
    List.mem_cons_of_mem _ (mem_chartedApps_iff.mpr ⟨_, _, _, inside, rfl⟩)
  cases found : (compiledOf settings cluster agent objects charts).appFor? name with
  | none =>
      have other := List.find?_eq_none.mp found _ made
      rw [find?_appName_manifestApp, beq_self_eq_true] at other
      exact absurd rfl other
  | some app =>
      obtain ⟨_, _, alsoInside, rfl⟩ := Compiled.exists_of_appFor? rfl notAgent found
      cases List.inj_on_of_nodup_map distinct inside alsoInside rfl
      rfl

/-- An entry without a chart has none. -/
theorem appFor?_compiledOf_of_failed (notAgent : name ≠ platformAgent)
    (distinct : (charts.map (·.1)).Nodup) {entry : ReleaseApp} {failure : Failure}
    (inside : (name, entry, .error failure) ∈ charts) :
    (compiledOf settings cluster agent objects charts).appFor? name = none := by
  cases found : (compiledOf settings cluster agent objects charts).appFor? name with
  | none => rfl
  | some app =>
      obtain ⟨_, _, alsoInside, _⟩ := Compiled.exists_of_appFor? rfl notAgent found
      cases chart_eq_of_mem distinct inside alsoInside

end Own

/-- What a compilation has for an entry that is due, given the answer for its chart. -/
structure Compiled.Follows (compiled : Compiled) (settings : Settings) (cluster : Cluster)
    (name : String) (answer : Outcome String) : Prop where
  stated : ∀ chart, settings.StatesChart name chart →
    name ∉ compiled.failures.map (·.1) ∧ ∃ app, compiled.appFor? name = some app ∧
      app.spec.name = chart ∧ app.Heeds settings cluster name
  answered : settings.LeavesChartOpen name → ∀ chart, answer = .ok chart →
    name ∉ compiled.failures.map (·.1) ∧ ∃ app, compiled.appFor? name = some app ∧
      app.spec.name = chart ∧ app.Heeds settings cluster name
  failed : settings.LeavesChartOpen name → ∀ failure, answer = .error failure →
    (name, failure) ∈ compiled.failures ∧ compiled.appFor? name = none

theorem follows_compiledOf (surroundings : Surroundings σ) (settings : Settings)
    (cluster : Cluster) (state : σ) (agent : ReleaseComponent) (objects : UserObjects)
    {entries : Table String ReleaseApp} {name : String} {entry : ReleaseApp}
    (found : entries.find? name = some entry) (awaits : cluster.Awaits name) :
    (compiledOf settings cluster agent objects
      (surroundings.chartsOf settings cluster state entries)).Follows settings cluster name
        (surroundings.chartName (catalogFor settings entry) name entry.version state).1 := by
  have distinct := surroundings.nodup_names_chartsOf settings cluster state entries
  have inside : (name, entry, surroundings.chartOf settings state name entry) ∈
      surroundings.chartsOf settings cluster state entries :=
    List.mem_map.mpr ⟨_, mem_installedEntries_iff.mpr ⟨found, awaits⟩, rfl⟩
  have charted {chart : String}
      (known : surroundings.chartOf settings state name entry = .ok chart) :
      name ∉ (chartFailures (surroundings.chartsOf settings cluster state entries)).map (·.1) ∧
        ∃ app, (compiledOf settings cluster agent objects
          (surroundings.chartsOf settings cluster state entries)).appFor? name = some app ∧
            app.spec.name = chart ∧ app.Heeds settings cluster name := by
    rw [known] at inside
    refine ⟨fun failed => ?_, _, appFor?_compiledOf_of_mem awaits.1 distinct inside, rfl,
      heeds_manifestApp ..⟩
    obtain ⟨_, _, alsoInside⟩ := mem_names_chartFailures_iff.mp failed
    cases chart_eq_of_mem distinct inside alsoInside
  have asked (leftOpen : settings.LeavesChartOpen name) :
      surroundings.chartOf settings state name entry =
        (surroundings.chartName (catalogFor settings entry) name entry.version state).1 := by
    rw [Surroundings.chartOf, filter_eq_none_of_empty leftOpen]
  constructor
  · intro chart states
    apply charted
    rw [Surroundings.chartOf, states.filter]
  · intro leftOpen chart answer
    exact charted ((asked leftOpen).trans answer)
  · intro leftOpen failure answer
    rw [(asked leftOpen).trans answer] at inside
    exact ⟨mem_chartFailures_iff.mpr ⟨entry, inside⟩,
      appFor?_compiledOf_of_failed awaits.1 distinct inside⟩

/-! ## Two runs -/

section TwoRuns

variable {surroundings : Surroundings σ} {one other : Settings} {name : String}

theorem find?_of_mem_chartsOf {settings : Settings} {cluster : Cluster} {state : σ}
    {entries : Table String ReleaseApp} {entry : ReleaseApp} {chart : Outcome String}
    (inside : (name, entry, chart) ∈ surroundings.chartsOf settings cluster state entries) :
    entries.find? name = some entry := by
  obtain ⟨⟨_, _⟩, due, same⟩ := List.mem_map.mp inside
  cases same
  exact (mem_installedEntries_iff.mp due).1

theorem filter_chartsOf (differ : one.DifferAt other name) (cluster : Cluster) (state : σ)
    (entries : Table String ReleaseApp) :
    (surroundings.chartsOf other cluster state entries).filter (fun chart => chart.1 ≠ name) =
      (surroundings.chartsOf one cluster state entries).filter fun chart => chart.1 ≠ name := by
  rw [Surroundings.chartsOf, Surroundings.chartsOf, List.filter_map, List.filter_map]
  apply List.map_congr_left
  rintro ⟨app, entry⟩ inside
  have different : app ≠ name := of_decide_eq_true (List.mem_filter.mp inside).2
  rw [(differ.treatsAlike different).chartOf]

theorem sameBeside_compiledOf (differ : one.DifferAt other name) (cluster : Cluster) (state : σ)
    (agent : ReleaseComponent) (entries : Table String ReleaseApp) (objects : UserObjects) :
    (compiledOf one cluster agent objects
      (surroundings.chartsOf one cluster state entries)).SameBeside
        (compiledOf other cluster agent objects
          (surroundings.chartsOf other cluster state entries)) name := by
  have agents := Settings.agentApp_of_appDefaults differ.appDefaults cluster.id cluster.space agent
  have apps : chartedApps other cluster agent.version objects
        ((surroundings.chartsOf one cluster state entries).filter fun chart => chart.1 ≠ name) =
      chartedApps one cluster agent.version objects
        ((surroundings.chartsOf one cluster state entries).filter fun chart => chart.1 ≠ name) := by
    apply List.filterMap_congr
    rintro ⟨app, entry, failure | chart⟩ inside
    · rfl
    · have different : app ≠ name := of_decide_eq_true (List.mem_filter.mp inside).2
      exact congrArg some ((differ.treatsAlike different).manifestApp _ _ _ _ _ _)
  refine ⟨congrArg some agents, ?_, ?_, ?_⟩
  · rw [compiledOf, compiledOf, List.filter_cons, List.filter_cons, filter_chartedApps,
      filter_chartedApps, filter_chartsOf differ, apps, agents]
  · rw [compiledOf, compiledOf, filter_chartFailures, filter_chartFailures, filter_chartsOf differ]
  · intro app found otherApp otherFound
    by_cases own : name = platformAgent
    · subst own
      rw [appFor?_compiledOf_agent, Option.some.injEq] at found otherFound
      rw [← found, ← otherFound, agents]
      rfl
    · obtain ⟨entry, chart, inside, rfl⟩ := Compiled.exists_of_appFor? rfl own found
      obtain ⟨otherEntry, otherChart, otherInside, rfl⟩ :=
        Compiled.exists_of_appFor? rfl own otherFound
      have due := find?_of_mem_chartsOf inside
      cases due.symm.trans (find?_of_mem_chartsOf otherInside)
      rw [App.SameButForRule, manifestApp, manifestApp, catalogFor, catalogFor, differ.appDefaults]
      rfl

/-- What a compilation reads before it looks for charts includes the manifest of the release. -/
theorem releaseApps_of_supply {cluster : Cluster} {start after : σ × Memory}
    {agent : ReleaseComponent} {entries : Table String ReleaseApp} {objects : UserObjects}
    (supplies : (supply cluster).run surroundings.handle start =
      (.ok (agent, entries, objects), after)) :
    (surroundings.releaseApps cluster (surroundings.components cluster start.1).2).1 =
      .ok entries := by
  simp only [supply, Dialogue.bind_eq] at supplies
  obtain ⟨components, known, componentsRead, supplies⟩ := Dialogue.run_bind_eq_ok_iff.mp supplies
  obtain ⟨_, _, agentRead, supplies⟩ := Dialogue.run_bind_eq_ok_iff.mp supplies
  obtain ⟨_, _, read, supplies⟩ := Dialogue.run_bind_eq_ok_iff.mp supplies
  obtain ⟨_, _, _, supplies⟩ := Dialogue.run_bind_eq_ok_iff.mp supplies
  obtain ⟨_, _, _, supplies⟩ := Dialogue.run_bind_eq_ok_iff.mp supplies
  cases supplies
  obtain rfl : ((surroundings.components cluster start.1).2, start.2) = known :=
    congrArg (·.2) componentsRead
  obtain ⟨_, rfl⟩ := Prod.mk.inj agentRead
  exact congrArg (·.1) read

variable {cluster : Cluster}

section Steady

/-! Catalogs may change, but not in what they answer. -/

variable (steady : ∀ catalog app version one other,
  (surroundings.chartName catalog app version one).1 =
    (surroundings.chartName catalog app version other).1)
  (live : cluster.isDeleting = false)

include steady live in
/-- A compilation fails as reading its supplies does, or it comes to the charts of the entries,
each as it is answered or stated. -/
theorem run_compile_of_steady (start : σ × Memory) :
    (∃ failure after, ∀ settings,
      (compile settings cluster).run surroundings.handle start = (.error failure, after)) ∨
    ∃ agent entries objects,
      (surroundings.releaseApps cluster (surroundings.components cluster start.1).2).1 =
        .ok entries ∧
      ∀ settings, ∃ after, (compile settings cluster).run surroundings.handle start =
        (.ok (compiledOf settings cluster agent objects
          (surroundings.chartsOf settings cluster start.1 entries)), after) := by
  have asLive (settings : Settings) : compile settings cluster = compileAsLive settings cluster :=
    if_neg (Bool.eq_false_iff.mp live)
  rcases supplies : (supply cluster).run surroundings.handle start with
    ⟨failure | ⟨agent, entries, objects⟩, after⟩
  · refine .inl ⟨failure, after, fun settings => ?_⟩
    rw [asLive, compileAsLive_eq_bind, Dialogue.run_bind, supplies]
  · refine .inr ⟨agent, entries, objects, releaseApps_of_supply supplies, fun settings => ?_⟩
    obtain ⟨ended, finds⟩ := Surroundings.run_chartsFor_of_steady steady settings start.1
      (installedEntries cluster entries) after.1 after.2
    refine ⟨(ended, after.2), ?_⟩
    rw [asLive, compileAsLive_eq_bind, Dialogue.run_bind_of_ok supplies,
      Dialogue.run_bind_of_ok finds]
    rfl

include steady live in
/-- Settings that differ in one rule fail alike, or they compile the same beside its entry. -/
theorem runs_of_differAt (differ : one.DifferAt other name) (start : σ × Memory) :
    (∃ failure after,
      (compile one cluster).run surroundings.handle start = (.error failure, after) ∧
      (compile other cluster).run surroundings.handle start = (.error failure, after)) ∨
    ∃ compiled otherCompiled after otherAfter,
      (compile one cluster).run surroundings.handle start = (.ok compiled, after) ∧
      (compile other cluster).run surroundings.handle start = (.ok otherCompiled, otherAfter) ∧
      compiled.SameBeside otherCompiled name := by
  rcases run_compile_of_steady steady live start with
    ⟨failure, after, fails⟩ | ⟨agent, entries, objects, _, compiles⟩
  · left
    exact ⟨failure, after, fails one, fails other⟩
  · right
    obtain ⟨after, compilesOne⟩ := compiles one
    obtain ⟨otherAfter, compilesOther⟩ := compiles other
    exact ⟨_, _, after, otherAfter, compilesOne, compilesOther,
      sameBeside_compiledOf differ cluster start.1 agent entries objects⟩

include steady live in
/-- What is compiled for an entry that is due follows its rule and the answer for its chart. -/
theorem follows_of_compile {settings : Settings} {start after : σ × Memory}
    {compiled : Compiled} {entries : Table String ReleaseApp} {entry : ReleaseApp}
    (compiles : (compile settings cluster).run surroundings.handle start = (.ok compiled, after))
    (read : (surroundings.releaseApps cluster (surroundings.components cluster start.1).2).1 =
      .ok entries)
    (found : entries.find? name = some entry) (awaits : cluster.Awaits name) :
    compiled.Follows settings cluster name
      (surroundings.chartName (catalogFor settings entry) name entry.version start.1).1 := by
  rcases run_compile_of_steady steady live start with
    ⟨failure, _, fails⟩ | ⟨agent, known, objects, alsoRead, alsoCompiles⟩
  · cases (fails settings).symm.trans compiles
  · obtain ⟨_, alsoCompiles⟩ := alsoCompiles settings
    cases alsoRead.symm.trans read
    cases alsoCompiles.symm.trans compiles
    exact follows_compiledOf surroundings settings cluster start.1 agent objects found awaits

end Steady

/-- Settings that differ in the rule for one app compile a live cluster to the same agent and,
for all other entries, to the same Apps and failures. Empty texts in the rule are as good as
none, and a rule for the agent itself is as good as none. The App of the entry is as its rule
says, and by default where the rule says nothing; where a chart is stated, nothing that catalogs
may answer for the entry matters. -/
theorem rule_acts_on_own_entry
    (steady : ∀ catalog app version one other,
      (surroundings.chartName catalog app version one).1 =
        (surroundings.chartName catalog app version other).1)
    (live : cluster.isDeleting = false) (differ : one.DifferAt other name) (start : σ × Memory) :
    let compiling (settings : Settings) := (compile settings cluster).run surroundings.handle start
    ((∃ failure after, compiling one = (.error failure, after) ∧
        compiling other = (.error failure, after)) ∨
      ∃ compiled otherCompiled after otherAfter, compiling one = (.ok compiled, after) ∧
        compiling other = (.ok otherCompiled, otherAfter) ∧
        compiled.SameBeside otherCompiled name) ∧
    ((other.ruleFor name).withoutEmpty = (one.ruleFor name).withoutEmpty →
      compile other cluster = compile one cluster) ∧
    (name = platformAgent → compile other cluster = compile one cluster) ∧
    ∀ settings,
      (∀ chart, settings.StatesChart name chart → ∀ answer,
        (compile settings cluster).run (surroundings.withChartsOf name answer).handle start =
          compiling settings) ∧
      ∀ compiled after entries entry, compiling settings = (.ok compiled, after) →
        (surroundings.releaseApps cluster (surroundings.components cluster start.1).2).1 =
          .ok entries →
        entries.find? name = some entry → cluster.Awaits name →
          compiled.Follows settings cluster name
            (surroundings.chartName (catalogFor settings entry) name entry.version start.1).1 := by
  intro compiling
  refine ⟨runs_of_differAt steady live differ start, ?empty, ?agent,
    fun settings => ⟨?irrelevant, ?own⟩⟩
  case empty =>
    intro same
    exact differ.compile_eq cluster fun _ => same
  case agent =>
    intro agent
    exact differ.compile_eq cluster fun different => absurd agent different
  case irrelevant =>
    intro chart states answer
    exact Surroundings.run_withChartsOf (asks_compile_of_states states cluster) answer start
  case own =>
    intro compiled after entries entry compiles read found awaits
    exact follows_of_compile steady live compiles read found awaits

end TwoRuns

/-- Settings without rules for single apps. -/
def ruleless : Settings := { appDefaults := { catalog := "default", namespace_ := "kube-system" } }

/-- The same settings with a chart for the entry that has none. -/
def mending : Settings :=
  { ruleless with
    overrides := .ofList [("broken", { chart := some "mended", namespace_ := some "" })] }

/-- With a chart that is stated for it, the entry that has none gets its App. -/
theorem rule_acts_on_own_entry_mended :
    let compiling (settings : Settings) := (compile settings Cleanup.deserted).run
      (Apply.partlyCharted.withManifest Apply.brokenAndHello).handle ((), ({} : Memory))
    Cleanup.deserted.isDeleting = false ∧ ruleless.DifferAt mending "broken" ∧
      ∃ compiled mended after mendedAfter, compiling ruleless = (.ok compiled, after) ∧
        compiling mending = (.ok mended, mendedAfter) ∧
        compiled.SameBeside mended "broken" ∧ compiled.appFor? "broken" = none ∧
        ∃ app, mended.appFor? "broken" = some app ∧ app.spec.name = "mended" ∧
          app.spec.namespace_ = "kube-system" := by
  intro compiling
  have differ : ruleless.DifferAt mending "broken" := by
    refine ⟨rfl, fun app different => ?_⟩
    exact (Table.find?_ofList (by simp) app).trans (if_neg different)
  have steady (catalog app version : String) (one other : Unit) :
      ((Apply.partlyCharted.withManifest Apply.brokenAndHello).chartName
          catalog app version one).1 =
        ((Apply.partlyCharted.withManifest Apply.brokenAndHello).chartName
          catalog app version other).1 := rfl
  obtain ⟨beside, _, _, own⟩ := rule_acts_on_own_entry steady
    (rfl : Cleanup.deserted.isDeleting = false) differ ((), ({} : Memory))
  have states : mending.StatesChart "broken" "mended" :=
    ⟨by decide +kernel, by decide⟩
  have leftOpen : ruleless.LeavesChartOpen "broken" := nofun
  have awaits : Cleanup.deserted.Awaits "broken" := by
    constructor <;> decide
  have found : Apply.brokenAndHello.find? "broken" = some ⟨"broken", "1.0.0", none⟩ := by decide
  have succeeds : (compiling ruleless).1.isOk = true := by decide +kernel
  rcases beside with ⟨failure, after, fails, _⟩ |
    ⟨compiled, mended, after, mendedAfter, compiles, mends, beside⟩
  · change compiling ruleless = _ at fails
    rw [fails] at succeeds
    cases succeeds
  · refine ⟨rfl, differ, compiled, mended, after, mendedAfter, compiles, mends, beside, ?_, ?_⟩
    · have follows := (own ruleless).2 _ _ _ _ compiles rfl found awaits
      exact (follows.failed leftOpen _ rfl).2
    · have follows := (own mending).2 _ _ _ _ mends rfl found awaits
      obtain ⟨_, app, its, chart, heeds⟩ := follows.stated "mended" states
      refine ⟨app, its, chart, heeds.namespace_.otherwise ?_⟩
      intro text given
      have empty : (mending.ruleFor "broken").namespace_ = some "" := by decide +kernel
      exact (Option.some.inj (empty.symm.trans given)).symm

end PlatformApps
