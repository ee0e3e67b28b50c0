/-
# What Apps refer to

The Apps of a cluster take their values from objects that are made elsewhere: from the artifacts
of the cluster, which the same apply writes, and from objects that users keep under the name of
an App. Once the artifacts have been written, the Apps that are compiled refer to artifacts that
are there, and to just those objects of users that are there.
-/

import PlatformApps.Proofs.Apply.Unresolved

namespace PlatformApps

/-! ## Names and what they stand for -/

theorem mem_namesIn_iff {α : Type} {table : Table ObjectKey α} {space name : String} :
    name ∈ Memory.namesIn table space ↔ table.contains (space, name) = true := by
  rw [Table.contains, Option.isSome_iff_exists, Memory.namesIn, List.mem_map]
  constructor
  · rintro ⟨⟨place, value⟩, inside, named⟩
    obtain ⟨inside, here⟩ := List.mem_filter.mp inside
    obtain rfl : place = (space, name) := Prod.ext (beq_iff_eq.mp here) named
    exact ⟨value, (table.mem_toList_iff _ _).mp inside⟩
  · rintro ⟨value, found⟩
    have inside := (table.mem_toList_iff _ _).mpr found
    exact ⟨((space, name), value), List.mem_filter.mpr ⟨inside, beq_self_eq_true space⟩, rfl⟩

theorem contains_namesIn {α : Type} (table : Table ObjectKey α) (space name : String) :
    (Memory.namesIn table space).contains name = table.contains (space, name) := by
  rw [Bool.eq_iff_iff, List.contains_iff_mem, mem_namesIn_iff]

theorem Memory.eq_namesIn_of_listed {α : Type} {store : Memory} {what space : String}
    {table : Table ObjectKey α} {names : List String}
    (lists : store.listed what table space = .ok names) : names = namesIn table space := by
  rw [listed] at lists
  split at lists
  · cases lists
  · exact (Except.ok.inj lists).symm

/-- The objects of users that a store holds. -/
def Memory.userObjects (store : Memory) (space : String) : UserObjects :=
  ⟨namesIn store.configMaps space, namesIn store.secrets space⟩

/-- Of an App's values those are stated that are there. -/
theorem UserObjects.valuesFor_eq (objects : UserObjects) (space appName : String) :
    ((objects.valuesFor space appName).bind (·.configMap) =
        if objects.configMaps.contains (userValuesName appName) then
          some ⟨userValuesName appName, space⟩ else none) ∧
      ((objects.valuesFor space appName).bind (·.secret) =
        if objects.secrets.contains (userSecretsName appName) then
          some ⟨userSecretsName appName, space⟩ else none) ∧
      (objects.valuesFor space appName = none ↔
        objects.configMaps.contains (userValuesName appName) = false ∧
          objects.secrets.contains (userSecretsName appName) = false) := by
  rw [valuesFor]
  cases objects.configMaps.contains (userValuesName appName) <;>
    cases objects.secrets.contains (userSecretsName appName) <;>
    simp [ValuesSource.isEmpty]

/-! ## Apps and what they refer to -/

/-- An App is configured by objects in a namespace that are in a store: by a config map, which may
only be missing where it has been named by a rule, and by a secret if it asks for one. -/
structure App.IsConfigured (app : App) (space : String) (named : Option String) (store : Memory) :
    Prop where
  configMap : ∃ name, app.spec.config.bind (·.configMap) = some ⟨name, space⟩ ∧
    (store.configMaps.contains (space, name) = true ∨ named = some name ∧ name ≠ "")
  secret : ∀ reference, app.spec.config.bind (·.secret) = some reference →
    reference.namespace_ = space ∧ store.secrets.contains (space, reference.name) = true

/-- An App takes the values that users keep for it in a namespace of a store, and no others. -/
structure App.TakesUserValues (app : App) (space : String) (store : Memory) : Prop where
  configMap : ∀ reference, app.spec.userConfig.bind (·.configMap) = some reference ↔
    store.configMaps.contains (space, app.name ++ "-user-values") = true ∧
      reference = ⟨app.name ++ "-user-values", space⟩
  secret : ∀ reference, app.spec.userConfig.bind (·.secret) = some reference ↔
    store.secrets.contains (space, app.name ++ "-user-secrets") = true ∧
      reference = ⟨app.name ++ "-user-secrets", space⟩
  absent : app.spec.userConfig = none ↔
    store.configMaps.contains (space, app.name ++ "-user-values") = false ∧
      store.secrets.contains (space, app.name ++ "-user-secrets") = false

section Apps

variable {id space : String} {store : Memory} {artifacts : Artifacts}

/-- The agent is configured by the artifact with its values. -/
theorem isConfigured_agentApp (held : artifacts.HeldBy id space store) (settings : Settings)
    (component : ReleaseComponent) :
    (agentApp settings id space component).IsConfigured space none store where
  configMap := by
    refine ⟨agentValuesName id, rfl, .inl ?_⟩
    rw [Table.contains, held.agentValues]
    rfl
  secret := by
    rintro reference ⟨⟩

/-- The App of an entry is configured by the artifacts with the values of the cluster, or by the
config map that its rule names. -/
theorem isConfigured_manifestApp (held : artifacts.HeldBy id space store) (settings : Settings)
    (agentVersion : String) (objects : UserObjects) (name : String) (entry : ReleaseApp)
    (chart : String) :
    (manifestApp settings id space agentVersion objects name entry chart).IsConfigured space
      (settings.ruleFor name).configMapName store where
  configMap := by
    refine ⟨statedOr (settings.ruleFor name).configMapName (clusterValuesName id), rfl, ?_⟩
    rw [statedOr]
    cases given : (settings.ruleFor name).configMapName.filter fun text => text ≠ "" with
    | none =>
        left
        rw [Option.getD_none, Table.contains, held.clusterValues]
        rfl
    | some stated =>
        obtain ⟨named, filled⟩ := Option.filter_eq_some_iff.mp given
        exact .inr ⟨named, of_decide_eq_true filled⟩
  secret := by
    intro reference asked
    have present : store.secrets.contains (space, clusterValuesName id) = true := by
      rw [Table.contains, held.clusterSecrets]
      rfl
    simp only [manifestApp, Option.bind_some, Option.ite_none_right_eq_some,
      Option.some.injEq] at asked
    obtain ⟨_, rfl⟩ := asked
    exact ⟨rfl, present⟩

/-- An App that states the values for its name takes those of users that are there. -/
theorem takesUserValues_of_eq {app : App}
    (states : app.spec.userConfig = (store.userObjects space).valuesFor space app.name) :
    app.TakesUserValues space store := by
  obtain ⟨configMap, secret, absent⟩ := (store.userObjects space).valuesFor_eq space app.name
  have configMaps := contains_namesIn store.configMaps space (userValuesName app.name)
  have secrets := contains_namesIn store.secrets space (userSecretsName app.name)
  rw [← states] at configMap secret absent
  rw [Memory.userObjects, configMaps] at configMap
  rw [Memory.userObjects, secrets] at secret
  rw [Memory.userObjects, configMaps, secrets] at absent
  refine ⟨fun reference => ?_, fun reference => ?_, absent⟩
  · rw [configMap, Option.ite_none_right_eq_some, Option.some.injEq, eq_comm (b := reference)]
    rfl
  · rw [secret, Option.ite_none_right_eq_some, Option.some.injEq, eq_comm (b := reference)]
    rfl

end Apps

/-! ## What an apply compiles -/

namespace Apply

variable {σ : Type} {surroundings : Surroundings σ} {settings : Settings} {cluster : Cluster}
  {start between known : σ × Memory}

/-- The artifacts are there once they have been provided. -/
theorem exists_heldBy_of_provide
    (provides : (provide settings cluster).run surroundings.handle start =
      (.ok .applied, between)) :
    ∃ artifacts : Artifacts, artifacts.HeldBy cluster.id cluster.space between.2 := by
  rw [provide] at provides
  split at provides
  · cases provides
  · obtain ⟨_, spaced, _, ensures⟩ := Dialogue.run_bind_eq_ok_iff.mp provides
    rw [Artifacts.ensure_eq_bind] at ensures
    obtain ⟨found, surveyed, _, ensures⟩ := Dialogue.run_bind_eq_ok_iff.mp ensures
    cases found with
    | error reason => cases ensures
    | ok found =>
        obtain ⟨_, written, makes, done⟩ := Dialogue.run_bind_eq_ok_iff.mp ensures
        cases done
        rw [Operator.run_calls, Surroundings.run_stored, Prod.mk.injEq] at makes
        obtain ⟨finished, left⟩ := makes
        obtain ⟨artifacts, gathered, gathers, writes⟩ :=
          Dialogue.run_bind_eq_ok_iff.mp (Prod.ext finished rfl)
        refine ⟨artifacts, ?_⟩
        rw [← left]
        exact Artifacts.heldBy_of_write (Artifacts.areOf_of_gather gathers) writes

/-- A compilation lists the objects of users that are there. -/
theorem exists_charts_of_compile (live : cluster.isDeleting = false) {compiled : Compiled}
    (compiles : (compile settings cluster).run surroundings.handle between =
      (.ok compiled, known)) :
    ∃ agent charts, compiled.apps = agentApp settings cluster.id cluster.space agent ::
      chartedApps settings cluster agent.version (between.2.userObjects cluster.space) charts := by
  obtain ⟨supplies, charts, apps⟩ := exists_supplies_of_compile live compiles
  -- reading leaves the store as it is, so both listings are of the store at the start
  have sameComponents : supplies.knowsComponents.2 = between.2 :=
    (congrArg (·.2.2) supplies.componentsRead).symm
  have sameEntries : supplies.knowsEntries.2 = between.2 :=
    (congrArg (·.2.2) supplies.entriesRead).symm.trans sameComponents
  have sameConfigMaps : supplies.knowsConfigMaps.2 = between.2 :=
    (congrArg (·.2.2) supplies.configMapsListed).symm.trans sameEntries
  have configMaps : supplies.configMaps = Memory.namesIn between.2.configMaps cluster.space := by
    rw [← sameEntries]
    exact Memory.eq_namesIn_of_listed (congrArg (·.1) supplies.configMapsListed)
  have secrets : supplies.secrets = Memory.namesIn between.2.secrets cluster.space := by
    rw [← sameConfigMaps]
    exact Memory.eq_namesIn_of_listed (congrArg (·.1) supplies.secretsListed)
  rw [configMaps, secrets] at apps
  exact ⟨supplies.agent, charts, apps⟩

/-- Once the artifacts have been written, the rest of an apply only concerns Apps. -/
theorem withoutApps_of_provide
    (provides : (provide settings cluster).run surroundings.handle start =
      (.ok .applied, between)) :
    ((applyCluster settings cluster).run surroundings.handle start).2.2.withoutApps =
      between.2.withoutApps := by
  rw [applyCluster_eq_provide, Dialogue.run_bind_of_ok provides]
  exact view_run (asks_compile_settle settings cluster .applied)
    (fun store _ => store.withoutApps_handle) between

/-- No App refers to what is not there. Let an apply for a live cluster have written the artifacts
and compiled the Apps, and let it end as it may. The first App is then the agent's, which is
configured by an artifact in the store that is left and takes no values of users. Each other App
is that of an entry: it is configured by artifacts there, unless the rule for the entry names a
config map, and it takes the values that users keep under its name there, and no others. -/
theorem applyCluster_refers_to_existing (live : cluster.isDeleting = false) {compiled : Compiled}
    (provides : (provide settings cluster).run surroundings.handle start =
      (.ok .applied, between))
    (compiles : (compile settings cluster).run surroundings.handle between =
      (.ok compiled, known)) :
    ∃ outcome after left agent others,
      (applyCluster settings cluster).run surroundings.handle start = (outcome, (after, left)) ∧
      compiled.apps = agent :: others ∧
      (agent.name = agentAppName cluster.id ∧ agent.IsConfigured cluster.space none left ∧
        agent.spec.userConfig = none) ∧
      ∀ app ∈ others, ∃ entry, app.name = manifestAppName cluster.id entry ∧
        app.labels.find? Label.appName = some entry ∧
        app.IsConfigured cluster.space (settings.ruleFor entry).configMapName left ∧
        app.TakesUserValues cluster.space left := by
  obtain ⟨artifacts, written⟩ := exists_heldBy_of_provide provides
  obtain ⟨agent, charts, apps⟩ := exists_charts_of_compile live compiles
  have kept := withoutApps_of_provide provides
  rcases ends : (applyCluster settings cluster).run surroundings.handle start with
    ⟨outcome, after, left⟩
  rw [ends] at kept
  have sameConfigMaps : left.configMaps = between.2.configMaps := congrArg (·.configMaps) kept
  have sameSecrets : left.secrets = between.2.secrets := congrArg (·.secrets) kept
  have held := written.of_eq sameConfigMaps sameSecrets
  have sameObjects : between.2.userObjects cluster.space = left.userObjects cluster.space := by
    rw [Memory.userObjects, Memory.userObjects, sameConfigMaps, sameSecrets]
  refine ⟨outcome, after, left, _, _, ends, apps,
    ⟨rfl, isConfigured_agentApp held settings agent, rfl⟩, fun app inside => ?_⟩
  rw [chartedApps, List.mem_filterMap, sameObjects] at inside
  obtain ⟨⟨name, entry, _ | chart⟩, _, made⟩ := inside
  · cases made
  · cases made
    exact ⟨name, rfl, find?_appName_appMetadata ..,
      isConfigured_manifestApp held settings _ _ name entry chart,
      takesUserValues_of_eq rfl⟩

/-- A store in which a user keeps values for one App. -/
def valuedStore : Memory where
  configMaps := (∅ : Table ObjectKey ConfigMap).insert ("org-acme", "demo0-hello-user-values") {}

/-- The App of the only entry is to be configured by a secret as well. -/
def secretiveSettings : Settings where
  overrides := (∅ : Table String OverrideRule).insert "hello"
    { hasClusterValuesSecret := some true }

/-- The App takes the values that are there, and both objects that configure it are there. -/
theorem applyCluster_refers_to_existing_valued :
    Cleanup.deserted.isDeleting = false ∧ ∃ between known compiled,
      (provide secretiveSettings Cleanup.deserted).run Cleanup.stocked.handle ((), valuedStore) =
        (.ok .applied, between) ∧
      (compile secretiveSettings Cleanup.deserted).run Cleanup.stocked.handle between =
        (.ok compiled, known) ∧
      compiled.apps.map (fun app =>
          (app.labels.find? Label.appName, app.spec.config.bind (·.secret))) =
        [(some platformAgent, none),
          (some "hello", some ⟨"demo0-cluster-values", "org-acme"⟩)] ∧
      ∃ agent app left, compiled.apps = [agent, app] ∧
        ((applyCluster secretiveSettings Cleanup.deserted).run Cleanup.stocked.handle
          ((), valuedStore)).2.2 = left ∧
        app.IsConfigured "org-acme" none left ∧ app.TakesUserValues "org-acme" left ∧
        app.spec.userConfig =
          some { configMap := some ⟨"demo0-hello-user-values", "org-acme"⟩ } := by
  have live : Cleanup.deserted.isDeleting = false := rfl
  let provided := (provide secretiveSettings Cleanup.deserted).run Cleanup.stocked.handle
    ((), valuedStore)
  have lists : provided.1 = .ok .applied ∧
      ((compile secretiveSettings Cleanup.deserted).run Cleanup.stocked.handle provided.2).1.map
        (fun compiled => (compiled.apps.map fun app =>
            (app.labels.find? Label.appName, app.spec.config.bind (·.secret)),
          compiled.apps.map fun app => app.spec.userConfig)) =
      .ok ([(some platformAgent, none),
          (some "hello", some ⟨"demo0-cluster-values", "org-acme"⟩)],
        [none, some { configMap := some ⟨"demo0-hello-user-values", "org-acme"⟩ }]) := by
    decide +kernel
  obtain ⟨applied, lists⟩ := lists
  rcases compiles : (compile secretiveSettings Cleanup.deserted).run Cleanup.stocked.handle
    provided.2 with ⟨failure | compiled, known⟩
  · rw [compiles] at lists
    cases lists
  · rw [compiles] at lists
    obtain ⟨references, values⟩ := Prod.mk.inj (Except.ok.inj lists)
    have provides : (provide secretiveSettings Cleanup.deserted).run Cleanup.stocked.handle
        ((), valuedStore) = (.ok .applied, provided.2) := Prod.ext applied rfl
    obtain ⟨_, _, left, agent, others, ends, apps, _, each⟩ :=
      applyCluster_refers_to_existing live provides compiles
    refine ⟨live, _, known, compiled, provides, compiles, references, ?_⟩
    rw [apps] at references values
    have single : others.length = 1 := by simpa using congrArg List.length references
    obtain ⟨app, rfl⟩ := List.length_eq_one_iff.mp single
    simp only [List.map_cons, List.map_nil, List.cons.injEq, Prod.mk.injEq] at references values
    obtain ⟨_, ⟨isHello, _⟩, _⟩ := references
    obtain ⟨entry, _, labelled, configured, takes⟩ := each app List.mem_cons_self
    cases isHello.symm.trans labelled
    exact ⟨agent, app, left, apps, congrArg (·.2.2) ends, configured, takes, values.2.1⟩

end Apply

end PlatformApps
