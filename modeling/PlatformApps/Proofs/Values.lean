/-
# Values documents read back

The values of a cluster and those of the platform agent are read as they were written. Texts that
are empty are written too, so that an address of a name service that is empty on purpose stays
apart from one that is not there.
-/

import PlatformApps.Proofs.Json.Canonical
import PlatformApps.Values.Agent
import PlatformApps.Values.Cluster

namespace PlatformApps

open Written

/-- A nested record is read from the object in its field, whatever the order of what is in it. -/
theorem exists_nested? {fields inner : List (String × Json)} {name : String}
    (distinct : (fields.map (·.1)).Nodup)
    (there : Entries.find? name fields = some (Json.obj inner).canonical)
    (innerDistinct : (inner.map (·.1)).Nodup) :
    ∃ given, (given.map (·.1)).Nodup ∧
      (∀ key, Entries.find? key given = (Entries.find? key inner).map Json.canonical) ∧
      ∀ {α : Type} (names : List String) (read : List (String × Written) → Option α),
        nested? (ofFields fields) name names read = read (ofFields given) := by
  obtain ⟨given, same, sorted, found⟩ := Json.eq_obj_of_canonical rfl innerDistinct
  refine ⟨given, sorted.nodup_keys, found, fun names read => ?_⟩
  rw [nested?, required?_ofFields distinct, there, same, Option.bind_some,
    record?_ofJson sorted.nodup_keys, Option.bind_some]

namespace AgentValues

theorem read?_toJson (values : AgentValues) : read? (.ofJson values.toJson) = some values := by
  obtain ⟨fields, same, sorted, found⟩ :=
    Json.eq_obj_of_canonical (rfl : values.document = _) (by simp)
  have distinct := sorted.nodup_keys
  obtain ⟨app, appDistinct, inApp, readApp⟩ := exists_nested? distinct (found "app") (by simp)
  obtain ⟨provider, providerDistinct, inProvider, readProvider⟩ :=
    exists_nested? distinct (found "provider") (by simp)
  obtain ⟨registry, registryDistinct, inRegistry, readRegistry⟩ :=
    exists_nested? distinct (found "registry") (by simp)
  have space := required?_of_written text?_str appDistinct (inApp "watchNamespace")
  have id := required?_of_written text?_str appDistinct (inApp "workloadClusterID")
  have kind := required?_of_written text?_str providerDistinct (inProvider "kind")
  have domain := required?_of_written text?_str registryDistinct (inRegistry "domain")
  rw [toJson, same, read?, record?_ofJson distinct, Option.bind_eq_bind, Option.bind_some,
    readApp, readProvider, readRegistry, space, id, kind, domain]
  rfl

end AgentValues

namespace ClusterValues

/-- Flags are read as they were written, in order of their names. -/
theorem table?_flags (table : Table String Bool) :
    table? bool? (ofJson (flags table).canonical) = some table := by
  have plain : (flags table).Plain := by
    refine .obj (table.sorted.map Json.bool) fun field inside => ?_
    obtain ⟨entry, _, rfl⟩ := List.mem_map.mp inside
    exact .bool entry.2
  rw [plain.canonical.eq]
  exact table?_obj bool?_bool table

theorem textTable?_canonical (table : Table String String) :
    textTable? (ofJson (Json.ofTexts table).canonical) = some table := by
  rw [(Json.Plain.ofTexts table).canonical.eq, textTable?_ofTexts]

theorem proxy?_document (proxy : ProxySettings) :
    proxy? (ofJson (proxyDocument proxy).canonical) = some proxy := by
  obtain ⟨fields, same, sorted, found⟩ :=
    Json.eq_obj_of_canonical (rfl : proxyDocument proxy = _) (by simp)
  have distinct := sorted.nodup_keys
  have http := required?_of_written text?_str distinct (found "httpProxy")
  have https := required?_of_written text?_str distinct (found "httpsProxy")
  have exceptions := required?_of_written text?_str distinct (found "noProxy")
  rw [same, proxy?, record?_ofJson distinct, Option.bind_eq_bind, Option.bind_some, http, https,
    exceptions]
  rfl

theorem read?_toJson (values : ClusterValues) : read? (.ofJson values.toJson) = some values := by
  obtain ⟨fields, same, sorted, found⟩ :=
    Json.eq_obj_of_canonical (rfl : values.document = _)
      (by cases values.externalNameServiceIp <;> simp)
  have distinct := sorted.nodup_keys
  obtain ⟨bootstrap, bootstrapDistinct, inBootstrap, readBootstrap⟩ :=
    exists_nested? distinct (found "bootstrapMode") (by simp)
  obtain ⟨chartOperator, operatorDistinct, inOperator, readOperator⟩ :=
    exists_nested? distinct (found "chartOperator") (by simp)
  obtain ⟨cluster, clusterDistinct, inCluster, readCluster⟩ :=
    exists_nested? distinct (found "cluster") (by cases values.proxy <;> simp)
  obtain ⟨kubernetes, kubernetesDistinct, inKubernetes, readKubernetes⟩ :=
    exists_nested? clusterDistinct (inCluster "kubernetes") (by simp)
  have enabled := required?_of_written bool?_bool bootstrapDistinct (inBootstrap "enabled")
  have port := required?_of_written int32?_toInt bootstrapDistinct (inBootstrap "apiServerPodPort")
  have plugin := required?_of_written table?_flags operatorDistinct (inOperator "cni")
  have calico := required?_of_written textTable?_canonical clusterDistinct (inCluster "calico")
  have apiServer := required?_of_written textTable?_canonical kubernetesDistinct
    (inKubernetes "API")
  have nameService := required?_of_written textTable?_canonical kubernetesDistinct
    (inKubernetes "DNS")
  have isPrivate := required?_of_written bool?_bool clusterDistinct (inCluster "private")
  have proxy : optional? (ofFields cluster) "proxy" proxy? = some values.proxy := by
    refine optional?_of_written proxy?_document (fun _ => rfl) clusterDistinct ?_
    rw [inCluster]
    cases values.proxy <;> rfl
  have text {name value : String} (there : Entries.find? name fields = some (.str value)) :
      required? (ofFields fields) name text? = some value :=
    required?_of_written text?_str distinct there
  -- these stand behind a field that may be missing
  have provider : Entries.find? "provider" fields = some (.str values.provider) := by
    rw [found]
    cases values.externalNameServiceIp <;> rfl
  have project : Entries.find? "gcpProject" fields = some (.str values.gcpProject) := by
    rw [found]
    cases values.externalNameServiceIp <;> rfl
  have subscription :
      Entries.find? "subscriptionID" fields = some (.str values.subscriptionId) := by
    rw [found]
    cases values.externalNameServiceIp <;> rfl
  have externalIp : optional? (ofFields fields) "externalDNSIP" text? =
      some values.externalNameServiceIp := by
    refine optional?_of_written text?_str (fun _ => rfl) distinct ?_
    rw [found]
    cases values.externalNameServiceIp <;> rfl
  rw [toJson, same, read?, record?_ofJson distinct, Option.bind_eq_bind, Option.bind_some,
    readBootstrap, readOperator, readCluster, readKubernetes]
  dsimp only [Option.bind_eq_bind]
  rw [text (found "baseDomain"), enabled, port, plugin, calico, apiServer, nameService, isPrivate,
    proxy, text (found "clusterCA"), text (found "clusterDNSIP"), text (found "clusterID"),
    text (found "clusterCIDR"), externalIp, text provider, text project, text subscription]
  rfl

end ClusterValues

end PlatformApps
