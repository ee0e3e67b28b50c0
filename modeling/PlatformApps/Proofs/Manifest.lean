/-
# What the compilation of a cluster asks and finds

A compilation asks for the release, the names of user objects and charts, and nothing
else. Whatever it finds, each of its Apps has the metadata that marks it as one of the
cluster, and the App of the second tier has its usual name.
-/

import PlatformApps.Proofs.Operator
import PlatformApps.Proofs.Store.Apps
import PlatformApps.Proofs.Table
import PlatformApps.Teardown

namespace PlatformApps

variable {σ : Type} {handler : Operator.Handler σ} {allowed : OperatorRequest → Prop}

theorem asks_chartFor (permits : ∀ catalog app version, allowed (.chartName catalog app version))
    (settings : Settings) (name : String) (entry : ReleaseApp) :
    (chartFor settings name entry).Asks allowed := by
  rw [chartFor]
  split
  · trivial
  · exact ⟨permits _ _ _, fun _ => trivial⟩

theorem asks_chartsFor (permits : ∀ catalog app version, allowed (.chartName catalog app version))
    (settings : Settings) (entries : List (String × ReleaseApp)) :
    (chartsFor settings entries).Asks allowed := by
  induction entries with
  | nil => trivial
  | cons entry rest ih =>
      refine (asks_chartFor permits settings _ _).attempt.bind fun chart => ?_
      exact ih.bind fun others => trivial

theorem asks_compileAsLive {settings : Settings} {cluster : Cluster}
    (components : allowed (.components cluster)) (releaseApps : allowed (.releaseApps cluster))
    (configMaps : allowed (.store (.listConfigMapNames cluster.space)))
    (secrets : allowed (.store (.listSecretNames cluster.space)))
    (charts : ∀ catalog app version, allowed (.chartName catalog app version)) :
    (compileAsLive settings cluster).Asks allowed := by
  refine Dialogue.Asks.bind ⟨components, fun _ => trivial⟩ fun known => ?_
  refine Dialogue.Asks.bind trivial fun agent => ?_
  refine Dialogue.Asks.bind ⟨releaseApps, fun _ => trivial⟩ fun entries => ?_
  refine Dialogue.Asks.bind ⟨configMaps, fun _ => trivial⟩ fun _ => ?_
  refine Dialogue.Asks.bind ⟨secrets, fun _ => trivial⟩ fun _ => ?_
  exact (asks_chartsFor charts settings _).bind fun _ => trivial

theorem asks_compile {settings : Settings} {cluster : Cluster}
    (components : allowed (.components cluster)) (releaseApps : allowed (.releaseApps cluster))
    (configMaps : allowed (.store (.listConfigMapNames cluster.space)))
    (secrets : allowed (.store (.listSecretNames cluster.space)))
    (charts : ∀ catalog app version, allowed (.chartName catalog app version)) :
    (compile settings cluster).Asks allowed := by
  rw [compile]
  split
  · trivial
  · exact asks_compileAsLive components releaseApps configMaps secrets charts

/-- Charts are found or missed one by one, so looking for them never fails. -/
theorem run_chartsFor (handler : Operator.Handler σ) (settings : Settings)
    (entries : List (String × ReleaseApp)) (state : σ) :
    ∃ charts after, (chartsFor settings entries).run handler state = (.ok charts, after) := by
  induction entries generalizing state with
  | nil => exact ⟨[], state, rfl⟩
  | cons entry rest ih =>
      obtain ⟨others, after, found⟩ :=
        ih ((chartFor settings entry.1 entry.2).run handler state).2
      refine ⟨(entry.1, entry.2, ((chartFor settings entry.1 entry.2).run handler state).1) ::
        others, after, ?_⟩
      rw [chartsFor, Dialogue.run_bind_of_ok (Dialogue.run_attempt _ _ _),
        Dialogue.run_bind_of_ok found]
      rfl

theorem names_of_chartsFor {settings : Settings} {entries : List (String × ReleaseApp)}
    {state after : σ} {charts : List (String × ReleaseApp × Outcome String)}
    (finds : (chartsFor settings entries).run handler state = (.ok charts, after)) :
    charts.map (·.1) = entries.map (·.1) := by
  induction entries generalizing state charts with
  | nil =>
      cases finds
      rfl
  | cons entry rest ih =>
      obtain ⟨name, entry⟩ := entry
      obtain ⟨chart, _, _, finds⟩ := Dialogue.run_bind_eq_ok_iff.mp finds
      obtain ⟨others, _, found, finds⟩ := Dialogue.run_bind_eq_ok_iff.mp finds
      cases finds
      rw [List.map_cons, List.map_cons, ih found]

/-- No two entries have one name, and none has that of the agent. -/
theorem nodup_names_installedEntries (cluster : Cluster) (entries : Table String ReleaseApp) :
    (platformAgent :: (installedEntries cluster entries).map (·.1)).Nodup := by
  refine List.nodup_cons.mpr ⟨fun inside => ?_, (entries.sorted.filter _).nodup_keys⟩
  obtain ⟨entry, installed, same⟩ := List.mem_map.mp inside
  have allowed := (List.mem_filter.mp installed).2
  rw [same, bne_self_eq_false] at allowed
  cases allowed

/-- The Apps for the entries whose charts are known. -/
def chartedApps (settings : Settings) (cluster : Cluster) (agentVersion : String)
    (objects : UserObjects) (charts : List (String × ReleaseApp × Outcome String)) : List App :=
  charts.filterMap fun
    | (name, entry, .ok chart) =>
      some (manifestApp settings cluster.id cluster.space agentVersion objects name entry chart)
    | (_, _, .error _) => none

/-- An App for an entry is made from the chart of that entry. -/
theorem mem_chartedApps_iff {settings : Settings} {cluster : Cluster} {agentVersion : String}
    {objects : UserObjects} {charts : List (String × ReleaseApp × Outcome String)} {app : App} :
    app ∈ chartedApps settings cluster agentVersion objects charts ↔
      ∃ name entry chart, (name, entry, .ok chart) ∈ charts ∧
        app = manifestApp settings cluster.id cluster.space agentVersion objects name entry
          chart := by
  rw [chartedApps, List.mem_filterMap]
  constructor
  · rintro ⟨⟨name, entry, _ | chart⟩, listed, made⟩
    · cases made
    · exact ⟨name, entry, chart, listed, (Option.some.inj made).symm⟩
  · rintro ⟨name, entry, chart, listed, rfl⟩
    exact ⟨_, listed, rfl⟩

/-- The Apps that a compilation finds: the agent's, and one for each entry with a chart. -/
theorem apps_of_compileAsLive {settings : Settings} {cluster : Cluster} {state after : σ}
    {compiled : Compiled}
    (compiles : (compileAsLive settings cluster).run handler state = (.ok compiled, after)) :
    ∃ (agent : ReleaseComponent) (objects : UserObjects)
        (charts : List (String × ReleaseApp × Outcome String)),
      (platformAgent :: charts.map (·.1)).Nodup ∧
      compiled.apps = agentApp settings cluster.id cluster.space agent ::
        chartedApps settings cluster agent.version objects charts := by
  simp only [compileAsLive, Dialogue.bind_eq, Dialogue.pure_eq] at compiles
  obtain ⟨known, _, _, compiles⟩ := Dialogue.run_bind_eq_ok_iff.mp compiles
  obtain ⟨agent, _, _, compiles⟩ := Dialogue.run_bind_eq_ok_iff.mp compiles
  obtain ⟨entries, _, _, compiles⟩ := Dialogue.run_bind_eq_ok_iff.mp compiles
  obtain ⟨configMaps, _, _, compiles⟩ := Dialogue.run_bind_eq_ok_iff.mp compiles
  obtain ⟨secrets, _, _, compiles⟩ := Dialogue.run_bind_eq_ok_iff.mp compiles
  obtain ⟨charts, _, finds, compiles⟩ := Dialogue.run_bind_eq_ok_iff.mp compiles
  cases compiles
  refine ⟨agent, ⟨configMaps, secrets⟩, charts, ?_, rfl⟩
  rw [names_of_chartsFor finds]
  exact nodup_names_installedEntries cluster entries

/-- Has the App metadata as this operator gives them to the Apps of a cluster? -/
def App.IsMadeFor (app : App) (id space : String) : Prop :=
  ∃ name entry agentVersion forceUpgrade,
    app.metadata = appMetadata id space name entry agentVersion forceUpgrade

theorem find?_managedLabels (id key : String) :
    (managedLabels id).find? key =
      if key = Label.managedBy then some projectName
      else if key = Label.cluster then some id else none := by
  simp only [managedLabels, Table.ofList, List.foldl_cons, List.foldl_nil, Table.find?_insert,
    Table.find?_empty]

namespace App.IsMadeFor

variable {app : App} {id space : String}

theorem find?_labels (made : app.IsMadeFor id space) {key : String}
    (notEntry : key ≠ Label.appName) (notVersion : key ≠ Label.agentVersion) :
    app.labels.find? key = (managedLabels id).find? key := by
  obtain ⟨name, entry, agentVersion, forceUpgrade, same⟩ := made
  rw [App.labels, same, appMetadata, Metadata.labelTable, Option.getD_some, Table.find?_insert,
    if_neg notVersion, Table.find?_insert, if_neg notEntry]

theorem isOf (made : app.IsMadeFor id space) : app.isOf id = true := by
  rw [App.isOf, made.find?_labels (by decide) (by decide), find?_managedLabels,
    if_neg (by decide), if_pos rfl, beq_self_eq_true]

theorem isManaged (made : app.IsMadeFor id space) : isManaged app.labels = true := by
  rw [PlatformApps.isManaged, made.find?_labels (by decide) (by decide), find?_managedLabels,
    if_pos rfl, beq_self_eq_true]

/-- No GitOps controller owns what this operator makes. -/
theorem isForeign (made : app.IsMadeFor id space) : isForeign app.labels = false := by
  rw [PlatformApps.isForeign, Table.contains, made.find?_labels (by decide) (by decide),
    find?_managedLabels, if_neg (by decide), if_neg (by decide)]
  rfl

theorem finalizers (made : app.IsMadeFor id space) : app.finalizers = [] := by
  obtain ⟨name, entry, agentVersion, forceUpgrade, same⟩ := made
  rw [App.finalizers, same]
  rfl

theorem isDeleting (made : app.IsMadeFor id space) : app.isDeleting = false := by
  obtain ⟨name, entry, agentVersion, forceUpgrade, same⟩ := made
  rw [App.isDeleting, same]
  rfl

theorem namespaceOr (made : app.IsMadeFor id space) (fallback : String) :
    app.namespaceOr fallback = space := by
  obtain ⟨name, entry, agentVersion, forceUpgrade, same⟩ := made
  rw [App.namespaceOr, same]
  rfl

end App.IsMadeFor

theorem isMadeFor_of_compileAsLive {settings : Settings} {cluster : Cluster} {state after : σ}
    {compiled : Compiled}
    (compiles : (compileAsLive settings cluster).run handler state = (.ok compiled, after)) :
    ∀ app ∈ compiled.apps, app.IsMadeFor cluster.id cluster.space := by
  obtain ⟨agent, objects, charts, _, apps⟩ := apps_of_compileAsLive compiles
  intro app inside
  rw [apps, List.mem_cons, mem_chartedApps_iff] at inside
  rcases inside with rfl | ⟨name, entry, chart, _, rfl⟩
  · exact ⟨_, _, _, _, rfl⟩
  · exact ⟨_, _, _, _, rfl⟩

/-- Every App that a cluster should have is made for it. -/
theorem isMadeFor_of_compile {settings : Settings} {cluster : Cluster} {state after : σ}
    {compiled : Compiled}
    (compiles : (compile settings cluster).run handler state = (.ok compiled, after)) :
    ∀ app ∈ compiled.apps, app.IsMadeFor cluster.id cluster.space := by
  rw [compile] at compiles
  split at compiles
  · cases compiles
    intro app inside
    cases inside
  · exact isMadeFor_of_compileAsLive compiles

/-- No two Apps of a compilation have one name. -/
theorem nodup_names_of_compileAsLive {settings : Settings} {cluster : Cluster} {state after : σ}
    {compiled : Compiled}
    (compiles : (compileAsLive settings cluster).run handler state = (.ok compiled, after)) :
    (compiled.apps.map App.name).Nodup := by
  obtain ⟨agent, objects, charts, distinct, apps⟩ := apps_of_compileAsLive compiles
  obtain ⟨notAgent, distinct⟩ := List.nodup_cons.mp distinct
  have differ {one other : String} (different : one ≠ other) :
      manifestAppName cluster.id one ≠ manifestAppName cluster.id other :=
    fun same => different ((String.append_right_inj _).mp same)
  rw [apps, List.map_cons]
  refine List.nodup_cons.mpr ⟨fun inside => ?_, ?_⟩
  · obtain ⟨app, inside, named⟩ := List.mem_map.mp inside
    obtain ⟨name, entry, chart, listed, rfl⟩ := mem_chartedApps_iff.mp inside
    refine differ (fun same => notAgent ?_) named
    exact same ▸ List.mem_map_of_mem listed
  · rw [chartedApps, List.Nodup, List.pairwise_map, List.pairwise_filterMap]
    refine (List.pairwise_map.mp distinct).imp fun {first second} different => ?_
    obtain ⟨_, _, _ | _⟩ := first <;> obtain ⟨_, _, _ | _⟩ := second <;>
      rintro _ ⟨⟩ _ ⟨⟩
    exact differ different

theorem nodup_names_of_compile {settings : Settings} {cluster : Cluster} {state after : σ}
    {compiled : Compiled}
    (compiles : (compile settings cluster).run handler state = (.ok compiled, after)) :
    (compiled.apps.map App.name).Nodup := by
  rw [compile] at compiles
  split at compiles
  · cases compiles
    exact List.nodup_nil
  · exact nodup_names_of_compileAsLive compiles

theorem find?_appName_appMetadata (id space name entry agentVersion : String)
    (forceUpgrade : Bool) :
    (appMetadata id space name entry agentVersion forceUpgrade).labelTable.find? Label.appName =
      some entry := by
  have different : Label.appName ≠ Label.agentVersion := by decide
  rw [appMetadata, Metadata.labelTable, Option.getD_some, Table.find?_insert,
    if_neg different, Table.find?_insert, if_pos rfl]

theorem find?_appName_agentApp (settings : Settings) (id space : String)
    (component : ReleaseComponent) :
    (agentApp settings id space component).labels.find? Label.appName = some platformAgent :=
  find?_appName_appMetadata ..

theorem find?_appName_manifestApp (settings : Settings) (id space agentVersion : String)
    (objects : UserObjects) (name : String) (entry : ReleaseApp) (chart : String) :
    (manifestApp settings id space agentVersion objects name entry chart).labels.find?
      Label.appName = some name :=
  find?_appName_appMetadata ..

/-- What is compiled for an entry other than the agent's is made from the entry's chart. -/
theorem Compiled.exists_of_appFor? {settings : Settings} {cluster : Cluster}
    {compiled : Compiled} {agent : ReleaseComponent} {objects : UserObjects}
    {charts : List (String × ReleaseApp × Outcome String)} {name : String} {app : App}
    (apps : compiled.apps = agentApp settings cluster.id cluster.space agent ::
      chartedApps settings cluster agent.version objects charts)
    (notAgent : name ≠ platformAgent) (found : compiled.appFor? name = some app) :
    ∃ entry chart, (name, entry, .ok chart) ∈ charts ∧
      app = manifestApp settings cluster.id cluster.space agent.version objects name entry
        chart := by
  have labelled := List.find?_some found
  have inside := List.mem_of_find?_eq_some found
  rw [apps, List.mem_cons, mem_chartedApps_iff] at inside
  rcases inside with rfl | ⟨other, entry, chart, listed, rfl⟩
  · rw [find?_appName_agentApp, beq_iff_eq] at labelled
    exact absurd (Option.some.inj labelled).symm notAgent
  · rw [find?_appName_manifestApp, beq_iff_eq] at labelled
    cases labelled
    exact ⟨entry, chart, listed, rfl⟩

/-- An App compiled for the second tier has the usual name. -/
theorem name_of_appFor?_secondTier {settings : Settings} {cluster : Cluster} {state after : σ}
    {compiled : Compiled} {app : App}
    (compiles : (compileAsLive settings cluster).run handler state = (.ok compiled, after))
    (found : compiled.appFor? secondTier = some app) :
    app.name = secondTierAppName cluster.id := by
  obtain ⟨agent, objects, charts, _, apps⟩ := apps_of_compileAsLive compiles
  obtain ⟨entry, chart, _, rfl⟩ := Compiled.exists_of_appFor? apps (by decide) found
  rfl

/-- Whatever a compilation comes to, an App of the second tier is looked for under the
usual name, unless the compilation fails in a way that may pass. -/
theorem secondTierName_compileAsLive (handler : Operator.Handler σ) (settings : Settings)
    (cluster : Cluster) (state : σ) :
    secondTierName ((compileAsLive settings cluster).run handler state).1 cluster.id =
      match ((compileAsLive settings cluster).run handler state).1.map fun _ => () with
      | .ok () => .ok (secondTierAppName cluster.id)
      | .error failure =>
        if failure.isNotFound || failure.isValidation then .ok (secondTierAppName cluster.id)
        else .error failure := by
  rcases compiles : (compileAsLive settings cluster).run handler state with
    ⟨failure | compiled, after⟩
  · rfl
  · dsimp only
    rw [secondTierName]
    cases found : compiled.appFor? secondTier with
    | none => rfl
    | some app =>
        rw [Option.map_some, Option.getD_some, name_of_appFor?_secondTier compiles found]
        rfl

theorem eq_of_secondTierName {settings : Settings} {cluster : Cluster} {state after : σ}
    {compiled : Outcome Compiled} {name : String}
    (compiles : (compileAsLive settings cluster).run handler state = (compiled, after))
    (named : secondTierName compiled cluster.id = .ok name) :
    name = secondTierAppName cluster.id := by
  have usual := secondTierName_compileAsLive handler settings cluster state
  rw [compiles, named] at usual
  split at usual
  · exact Except.ok.inj usual
  · split at usual
    · exact Except.ok.inj usual
    · cases usual

end PlatformApps
