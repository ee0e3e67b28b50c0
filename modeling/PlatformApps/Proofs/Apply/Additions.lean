/-
# What an apply adds to a store

An apply for a cluster of which a store holds nothing only adds to that store: Apps that are
made for the cluster, under names that were free, its artifacts, and its namespace. `Extends`
says so of two stores. The main statement is that it holds however the apply ends.
-/

import PlatformApps.Proofs.Artifacts
import PlatformApps.Proofs.Cleanup.Leftovers
import PlatformApps.Proofs.Convergence

namespace PlatformApps.Apply

variable {σ : Type} {cluster : Cluster} {before after : Memory}

/-- A store that holds an earlier one and beside it nothing but what is made for a cluster. -/
structure Extends (cluster : Cluster) (before after : Memory) : Prop where
  apps : ∀ space name, after.app? space name = before.app? space name ∨
    before.app? space name = none ∧ space = cluster.space ∧ ∃ app,
      after.app? space name = some app ∧ app.name = name ∧ app.IsMadeFor cluster.id cluster.space
  configMaps : ∀ key, key ≠ (cluster.space, agentValuesName cluster.id) →
    key ≠ (cluster.space, clusterValuesName cluster.id) →
    after.configMaps.find? key = before.configMaps.find? key
  secrets : ∀ key, key ≠ (cluster.space, clusterValuesName cluster.id) →
    after.secrets.find? key = before.secrets.find? key
  namespaces : after.namespaces = before.namespaces ∨
    before.namespaces.find? cluster.id = none ∧
      after.namespaces = before.namespaces.insert cluster.id (ClusterSpace.desired cluster.id)
  others : after = { before with
    apps := after.apps
    configMaps := after.configMaps
    secrets := after.secrets
    namespaces := after.namespaces
    log := after.log }

/-- The same for a store whose Apps are as before. -/
structure Prepared (cluster : Cluster) (before after : Memory) : Prop extends
    Extends cluster before after where
  sameApps : after.apps = before.apps

/-- The calls of an apply that finds no App of its cluster. -/
inductive Additive (cluster : Cluster) : StoreCall → Prop where
  | read {call : StoreCall} (reads : call.isReading = true) : Additive cluster call
  | createApp {app : App} (made : app.IsMadeFor cluster.id cluster.space) :
      Additive cluster (.createApp app)
  | applyConfigMap {configMap : ConfigMap} {name : String}
      (placed : configMap.metadata = Artifacts.metadata name cluster.space cluster.id)
      (named : name = agentValuesName cluster.id ∨ name = clusterValuesName cluster.id) :
      Additive cluster (.applyConfigMap configMap)
  | applySecret {secret : Secret}
      (placed : secret.metadata =
        Artifacts.metadata (clusterValuesName cluster.id) cluster.space cluster.id) :
      Additive cluster (.applySecret secret)
  | createNamespace : Additive cluster (.createNamespace (ClusterSpace.desired cluster.id))

/-- The requests of an apply before it comes to the Apps. -/
def Prepares (cluster : Cluster) : OperatorRequest → Prop
  | .store call => Additive cluster call ∧ call.writesApps = false
  | _ => True

namespace Extends

theorem refl (cluster : Cluster) (memory : Memory) : Extends cluster memory memory where
  apps _ _ := .inl rfl
  configMaps _ _ _ := rfl
  secrets _ _ := rfl
  namespaces := .inl rfl
  others := rfl

/-- What is only noted adds nothing. -/
theorem record (extended : Extends cluster before after) (entry : String) :
    Extends cluster before (after.record entry) where
  apps := extended.apps
  configMaps := extended.configMaps
  secrets := extended.secrets
  namespaces := extended.namespaces
  others := by
    rw [Memory.record, extended.others]

/-- An App is only created where there is none. -/
theorem createApp (extended : Extends cluster before after) {app : App}
    (made : app.IsMadeFor cluster.id cluster.space) :
    Extends cluster before (after.handle (.createApp app)).2 := by
  have place : app.namespaceOr "" = cluster.space := made.namespaceOr ""
  cases found : after.app? (app.namespaceOr "") app.name with
  | some other =>
      obtain ⟨failure, _, refused⟩ := Memory.handle_createApp_of_taken found
      rw [refused]
      exact extended
  | none =>
      obtain ⟨entry, created⟩ := Memory.handle_createApp_of_free found
      rw [created]
      apply Extends.record
      refine ⟨fun space name => ?_, extended.configMaps, extended.secrets, extended.namespaces, ?_⟩
      · rw [Memory.app?_putApp, place]
        split
        · rename_i same
          obtain ⟨rfl, rfl⟩ := Prod.mk.inj same
          rw [place] at found
          refine .inr ⟨?_, rfl, app, rfl, rfl, made⟩
          rcases extended.apps cluster.space app.name with kept | ⟨free, _⟩
          · exact kept.symm.trans found
          · exact free
        · exact extended.apps space name
      · rw [Memory.putApp, extended.others]

theorem applyConfigMap (extended : Extends cluster before after) {configMap : ConfigMap}
    {name : String}
    (placed : configMap.metadata = Artifacts.metadata name cluster.space cluster.id)
    (named : name = agentValuesName cluster.id ∨ name = clusterValuesName cluster.id) :
    Extends cluster before (after.handle (.applyConfigMap configMap)).2 := by
  obtain ⟨entry, applied⟩ := after.handle_applyConfigMap configMap
  rw [applied, placed]
  apply Extends.record
  refine ⟨extended.apps, fun key notAgent notCluster => ?_, extended.secrets,
    extended.namespaces, ?_⟩
  · have elsewhere : key ≠ (cluster.space, name) := by
      rcases named with rfl | rfl
      · exact notAgent
      · exact notCluster
    exact (Table.find?_insert _ _ _ _).trans
      ((if_neg elsewhere).trans (extended.configMaps key notAgent notCluster))
  · rw [extended.others]

theorem applySecret (extended : Extends cluster before after) {secret : Secret}
    (placed : secret.metadata =
      Artifacts.metadata (clusterValuesName cluster.id) cluster.space cluster.id) :
    Extends cluster before (after.handle (.applySecret secret)).2 := by
  obtain ⟨entry, applied⟩ := after.handle_applySecret secret
  rw [applied, placed]
  apply Extends.record
  refine ⟨extended.apps, extended.configMaps, fun key elsewhere => ?_, extended.namespaces, ?_⟩
  · exact (Table.find?_insert _ _ _ _).trans
      ((if_neg elsewhere).trans (extended.secrets key elsewhere))
  · rw [extended.others]

theorem createNamespace (extended : Extends cluster before after) :
    Extends cluster before
      (after.handle (.createNamespace (ClusterSpace.desired cluster.id))).2 := by
  have named : (ClusterSpace.desired cluster.id).metadata.anyName = cluster.id := rfl
  cases found : after.namespaces.find? cluster.id with
  | some space =>
      obtain ⟨failure, _, refused⟩ := Memory.handle_createNamespace_of_taken (named ▸ found)
      rw [refused]
      exact extended
  | none =>
      obtain ⟨entry, created⟩ := Memory.handle_createNamespace_of_free (named ▸ found)
      rw [created]
      have untouched : after.namespaces = before.namespaces := by
        rcases extended.namespaces with kept | ⟨_, added⟩
        · exact kept
        · rw [added, Table.find?_insert, if_pos rfl] at found
          cases found
      apply Extends.record
      refine ⟨extended.apps, extended.configMaps, extended.secrets, .inr ⟨?_, ?_⟩, ?_⟩
      · rw [← untouched, found]
      · rw [← untouched, named]
      · rw [extended.others]

/-- No call that an apply may make does more than add. -/
theorem handle (extended : Extends cluster before after) {call : StoreCall}
    (additive : Additive cluster call) : Extends cluster before (after.handle call).2 := by
  cases additive with
  | read reads =>
      rw [after.handle_of_isReading reads]
      exact extended
  | createApp made => exact extended.createApp made
  | applyConfigMap placed named => exact extended.applyConfigMap placed named
  | applySecret placed => exact extended.applySecret placed
  | createNamespace => exact extended.createNamespace

end Extends

/-! The stages of an apply. -/

theorem asks_ensureSpace (cluster : Cluster) :
    (Operator.calls (ClusterSpace.ensure cluster.id)).Asks (Prepares cluster) :=
  Operator.asks_calls (Dialogue.Asks.tolerate ⟨.createNamespace, rfl⟩ _ _)

theorem asks_ensureArtifacts (settings : Settings) (cluster : Cluster) :
    (Artifacts.ensure settings cluster).Asks (Prepares cluster) := by
  apply Artifacts.asks_ensure
  · trivial
  · exact fun _ _ _ _ => ⟨.read rfl, rfl⟩
  · exact fun _ _ => ⟨.read rfl, rfl⟩
  · intro agent values document
    exact ⟨⟨.applyConfigMap rfl (.inl rfl), rfl⟩, ⟨.applyConfigMap rfl (.inr rfl), rfl⟩,
      ⟨.applySecret rfl, rfl⟩⟩

/-- Where the cluster had no App, all its Apps are made by this operator. -/
theorem Extends.isMadeFor (extended : Extends cluster before after)
    (none : ∀ name app, before.app? cluster.space name = some app → app.isOf cluster.id = false)
    {name : String} {app : App} (found : after.app? cluster.space name = some app)
    (marks : app.isOf cluster.id = true) :
    app.name = name ∧ app.IsMadeFor cluster.id cluster.space := by
  rcases extended.apps cluster.space name with kept | ⟨_, _, other, foundOther, filed, made⟩
  · rw [kept] at found
    cases marks.symm.trans (none name app found)
  · cases found.symm.trans foundOther
    exact ⟨filed, made⟩

theorem Extends.unmanaged_eq_nil (extended : Extends cluster before after)
    (none : ∀ name app, before.app? cluster.space name = some app → app.isOf cluster.id = false) :
    after.listApps cluster.space (unmanagedSelector cluster.id) = [] := by
  rw [Memory.listApps_unmanagedSelector, List.filter_eq_nil_iff]
  intro app inside
  obtain ⟨marks, name, found⟩ := Memory.mem_appsOf_iff.mp inside
  rw [(extended.isMadeFor none found marks).2.isManaged]
  decide

variable {surroundings : Surroundings σ} {settings : Settings} {memory : Memory}
  {state : σ × Memory}

/-- What an apply does before it comes to the Apps only adds, and it leaves the Apps alone. -/
theorem Prepared.run {α : Type} {dialogue : Dialogue Operator α}
    (asks : dialogue.Asks (Prepares cluster)) (prepared : Prepared cluster memory state.2) :
    Prepared cluster memory (dialogue.run surroundings.handle state).2.2 := by
  refine asks.run_preserves (fun state : σ × Memory => Prepared cluster memory state.2)
    (fun request permitted state prepared => ?_) prepared
  cases request with
  | store call =>
      exact ⟨prepared.handle permitted.1,
        (state.2.apps_handle permitted.2).trans prepared.sameApps⟩
  | _ => exact prepared

/-- Where the cluster has no App, bringing its Apps in line creates them. -/
theorem Prepared.run_converge (prepared : Prepared cluster memory state.2)
    (none : memory.appsOf cluster.space cluster.id = []) {desired : List App}
    (made : ∀ app ∈ desired, app.IsMadeFor cluster.id cluster.space) :
    Extends cluster memory ((Operator.calls (converge cluster.id cluster.space desired)).run
      surroundings.handle state).2.2 := by
  have listed : state.2.handle (.listApps cluster.space (managedSelector cluster.id)) =
      (.ok [], state.2) := by
    rw [Memory.handle, Memory.listApps_managedSelector, Memory.appsOf, prepared.sameApps,
      ← Memory.appsOf, none, List.filter_nil]
  rw [Operator.run_calls, Surroundings.run_stored, converge, Dialogue.bind_eq, Store.listApps,
    Dialogue.bind, Dialogue.run_ask_of_answer (I := Store) listed]
  -- where no App is known, none is patched
  have asks : (convergeEach cluster.space ∅ desired {}).Asks (Additive cluster) :=
    asks_convergeEach (fun app inside => .createApp (made app inside))
      (fun _ _ known => absurd ((Table.find?_empty _).symm.trans known).symm
        (Option.some_ne_none _)) {}
  exact asks.run_preserves (Extends cluster memory)
    (fun call additive store extended => extended.handle additive) prepared.toExtends

/-- Where the cluster had no App, there is none to label. -/
theorem Extends.run_ensureVersionLabels (extended : Extends cluster memory state.2)
    (none : memory.appsOf cluster.space cluster.id = []) :
    (ensureVersionLabels cluster).run surroundings.handle state = (.ok [], state) := by
  have listed : state.2.handle (.listApps cluster.space (unmanagedSelector cluster.id)) =
      (.ok [], state.2) := by
    rw [Memory.handle, extended.unmanaged_eq_nil (Memory.appsOf_eq_nil_iff.mp none)]
  have lists : (Operator.calls (Store.listApps cluster.space
      (unmanagedSelector cluster.id))).run surroundings.handle state = (.ok [], state) := by
    rw [Operator.run_calls, Surroundings.run_stored, Store.listApps,
      Dialogue.run_ask_of_answer (I := Store) listed]
    rfl
  rw [ensureVersionLabels, Dialogue.bind_eq, Dialogue.run_bind_of_ok lists]
  rfl

/-- An apply for a cluster without Apps only adds to the store, however it ends. -/
theorem extends_applyCluster (surroundings : Surroundings σ) (settings : Settings)
    (cluster : Cluster) (state : σ) {memory : Memory}
    (none : memory.appsOf cluster.space cluster.id = []) :
    Extends cluster memory
      ((applyCluster settings cluster).run surroundings.handle (state, memory)).2.2 := by
  let adds (state : σ × Memory) := Extends cluster memory state.2
  let prepared (state : σ × Memory) := Prepared cluster memory state.2
  have isEnough (between : σ × Memory) (ready : prepared between) : adds between :=
    ready.toExtends
  have start : prepared (state, memory) := ⟨.refl cluster memory, rfl⟩
  rw [applyCluster]
  split
  · exact .refl cluster memory
  · simp only [Dialogue.bind_eq, Dialogue.pure_eq]
    refine Dialogue.run_bind_reaches prepared adds isEnough (start.run (asks_ensureSpace cluster))
      fun _ between _ ready => ?_
    refine Dialogue.run_bind_reaches prepared adds isEnough
      (ready.run (asks_ensureArtifacts settings cluster)) fun artifacts between _ ready => ?_
    refine Dialogue.run_bind_reaches prepared adds isEnough
      (ready.run (asks_compile trivial trivial ⟨.read rfl, rfl⟩ ⟨.read rfl, rfl⟩
        fun _ _ _ => trivial).attempt) fun outcome between compiles ready => ?_
    cases outcome with
    | error failure =>
        dsimp only
        split <;> exact ready.toExtends
    | ok compiled =>
        have made : ∀ app ∈ compiled.apps, app.IsMadeFor cluster.id cluster.space := by
          rw [Dialogue.run_attempt, Prod.mk.injEq, Except.ok.injEq] at compiles
          exact isMadeFor_of_compile (Prod.ext compiles.1 rfl)
        refine Dialogue.run_bind_reaches adds adds (fun _ extended => extended)
          (ready.run_converge none made) fun _ between _ extended => ?_
        rw [Dialogue.run_bind_of_ok (extended.run_ensureVersionLabels none)]
        cases compiled.failure? <;> exact extended

end PlatformApps.Apply
