/-
# One apply is enough

Every stage of an apply can be repeated, and none touches what an earlier one depends on. So a
second apply that is told the same as the first leaves the store as it is, and it creates and
patches nothing, however the two end.
-/

import PlatformApps.Proofs.Apply.Repeat
import PlatformApps.Proofs.Cleanup.Undo

namespace PlatformApps.Apply

variable {σ τ : Type} {first : Surroundings σ} {second : Surroundings τ} {alike : σ → τ → Prop}

/-- What an apply does once it knows which Apps there should be. -/
def settle (cluster : Cluster) (artifacts : ArtifactsOutcome) :
    Outcome Compiled → Dialogue Operator NextPass
  | .error failure => if failure.isNotFound then pure NextPass.suspended else .fail failure
  | .ok compiled =>
    (Operator.calls (converge cluster.id cluster.space compiled.apps)).bind fun _ =>
      (ensureVersionLabels cluster).bind fun _ =>
        match compiled.failure? with
        | some failure => .fail failure
        | none => pure (if artifacts = .applied then NextPass.resync else NextPass.suspended)

theorem applyCluster_eq_bind (settings : Settings) {cluster : Cluster}
    (identified : cluster.id ≠ "") :
    applyCluster settings cluster =
      (Operator.calls (ClusterSpace.ensure cluster.id)).bind fun _ =>
        (Artifacts.ensure settings cluster).bind fun artifacts =>
          (compile settings cluster).attempt.bind (settle cluster artifacts) := by
  rw [applyCluster, if_neg identified]
  rfl

/-- What an apply does before it looks for the Apps that there should be. -/
def provide (settings : Settings) (cluster : Cluster) : Dialogue Operator ArtifactsOutcome :=
  if cluster.id = "" then
    .fail (.validation (.clusterWithoutId cluster.name Label.cluster Label.clusterName))
  else
    (Operator.calls (ClusterSpace.ensure cluster.id)).bind fun _ =>
      Artifacts.ensure settings cluster

theorem applyCluster_eq_provide (settings : Settings) (cluster : Cluster) :
    applyCluster settings cluster =
      (provide settings cluster).bind fun artifacts =>
        (compile settings cluster).attempt.bind (settle cluster artifacts) := by
  by_cases identified : cluster.id = ""
  · rw [applyCluster, provide, if_pos identified, if_pos identified]
    rfl
  · rw [applyCluster_eq_bind settings identified, provide, if_neg identified, Dialogue.bind_assoc]

/-! What later stages leave alone. -/

theorem asks_ensureVersionLabels (cluster : Cluster) :
    (ensureVersionLabels cluster).Asks
      (Within fun call => call.sparesAllButApps = true) := by
  rw [ensureVersionLabels_eq_bind]
  refine Dialogue.Asks.bind (Operator.asks_calls ⟨rfl, fun _ => trivial⟩) fun apps => ?_
  rw [relabel]
  split
  · trivial
  · refine Dialogue.Asks.bind ?_ fun agent => ?_
    · exact ⟨trivial, fun outcome => by cases outcome <;> trivial⟩
    · exact Operator.asks_calls (asks_relabelEach (fun _ _ _ => rfl) _ _ _)

theorem asks_settle (cluster : Cluster) (artifacts : ArtifactsOutcome)
    (compiled : Outcome Compiled) :
    (settle cluster artifacts compiled).Asks
      (Within fun call => call.sparesAllButApps = true) := by
  cases compiled with
  | error failure =>
      rw [settle]
      split <;> trivial
  | ok compiled =>
      refine Dialogue.Asks.bind ?_ fun _ => ?_
      · exact Operator.asks_calls (asks_converge rfl (fun _ _ => rfl) fun _ _ _ => rfl)
      · refine (asks_ensureVersionLabels cluster).bind fun _ => ?_
        cases compiled.failure? <;> trivial

theorem asks_compile_settle (settings : Settings) (cluster : Cluster)
    (artifacts : ArtifactsOutcome) :
    ((compile settings cluster).attempt.bind (settle cluster artifacts)).Asks
      (Within fun call => call.sparesAllButApps = true) := by
  have asks : (compile settings cluster).Asks
      (Within fun call => call.sparesAllButApps = true) :=
    asks_compile trivial trivial rfl rfl fun _ _ _ => trivial
  exact asks.attempt.bind (asks_settle cluster artifacts)

theorem asks_ensureArtifacts_settle (settings : Settings) (cluster : Cluster) :
    ((Artifacts.ensure settings cluster).bind fun artifacts =>
      (compile settings cluster).attempt.bind (settle cluster artifacts)).Asks
        (Within fun call => call.writesNamespaces = false) := by
  have asks : (Artifacts.ensure settings cluster).Asks
      (Within fun call => call.writesNamespaces = false) :=
    Artifacts.asks_ensure trivial (fun _ _ _ _ => rfl) (fun _ _ => rfl)
      fun _ _ _ => ⟨rfl, rfl, rfl⟩
  refine asks.bind fun artifacts => ?_
  refine (asks_compile_settle settings cluster artifacts).mono fun request within => ?_
  cases request with
  | store call => exact StoreCall.writesNamespaces_of_spares within
  | _ => trivial

/-! The whole pass. -/

theorem repeats_settle (agree : first.Agree second alike) (cluster : Cluster)
    (artifacts : ArtifactsOutcome) {compiled : Outcome Compiled}
    (made : ∀ known, compiled = .ok known →
      (∀ app ∈ known.apps, app.IsMadeFor cluster.id cluster.space) ∧
        (known.apps.map App.name).Nodup) :
    Repeats first second alike Memory.content (· = ·) (settle cluster artifacts compiled) := by
  cases compiled with
  | error failure =>
      rw [settle]
      split <;> exact repeats_done _ _
  | ok known =>
      obtain ⟨made, distinct⟩ := made known rfl
      have due : ∀ app ∈ known.apps, app.isHeld cluster.id cluster.space = true :=
        fun app inside => App.isHeld_of_isMadeFor (made app inside)
      refine (repeats_converge due distinct).bind id ?_ (fun _ _ _ => rfl) (fun _ => ?_)
        fun {_ _ between} _ filed => ?_
      · intro one other same
        have sameApps : one.apps = other.apps := congrArg (·.apps) same
        funext name
        rw [Memory.heldAt, Memory.heldAt, Memory.app?, Memory.app?, sameApps]
      · refine (repeats_ensureVersionLabels agree cluster).bind id
          (fun same => congrArg (·.apps) same) (fun _ _ _ => rfl) (fun _ => ?_) fun _ _ => ?_
        · cases known.failure? <;> exact repeats_done _ _
        · cases known.failure? <;> rfl
      · let holds (store : Memory) (name : String) := store.heldAt cluster.space cluster.id name
        obtain ⟨_, _, tended⟩ := tended_ensureVersionLabels first cluster between.1 filed
        let kept (after : σ × Memory) := holds after.2 = holds between.2
        refine Dialogue.run_bind_reaches kept kept (fun _ same => same)
          (funext fun name => (tended.relabels_eq name).1) fun _ after _ same => ?_
        cases known.failure? <;> exact same

/-- An apply can be repeated as a whole. -/
theorem repeats_applyCluster (agree : first.Agree second alike) (settings : Settings)
    (cluster : Cluster) :
    Repeats first second alike Memory.content (· = ·) (applyCluster settings cluster) := by
  by_cases identified : cluster.id = ""
  · rw [applyCluster, if_pos identified]
    exact repeats_done _ _
  · rw [applyCluster_eq_bind settings identified]
    have consults : (compile settings cluster).Asks
        (Surroundings.Consults fun call => call.consults = true) :=
      asks_compile trivial trivial rfl rfl fun _ _ _ => trivial
    have compiles : Repeats first second alike Memory.withoutApps (· = ·)
        (compile settings cluster).attempt :=
      repeats_of_asks agree (fun _ => StoreCall.isReading_of_consults)
        (fun _ consults _ _ same => Memory.handle_of_consults consults same) consults.attempt
    refine (repeats_ensureSpace cluster).bind id (fun same => congrArg (·.namespaces) same)
      (fun _ _ _ => rfl) (fun _ => ?_) fun _ _ =>
        view_run (asks_ensureArtifacts_settle settings cluster)
          (fun store _ => store.namespaces_handle) _
    refine (repeats_ensureArtifacts agree settings cluster).bind id
      Memory.withoutApps_of_content (fun _ _ same => same ▸ rfl) (fun _ => ?_) fun _ _ =>
        view_run (asks_compile_settle settings cluster _)
          (fun store _ => store.withoutApps_handle) _
    refine compiles.bind id Memory.withoutApps_of_content (fun _ _ same => same ▸ rfl)
      (fun {state compiled between} finds => ?_) fun _ _ =>
        view_run (asks_settle cluster _ _) (fun store _ => store.withoutApps_handle) _
    refine repeats_settle agree cluster _ fun known same => ?_
    have compilation := Dialogue.run_attempt_eq_ok_iff.mp finds
    rw [same] at compilation
    exact ⟨isMadeFor_of_compile compilation, nodup_names_of_compile compilation⟩

/-- One apply is enough. Let an apply of a store with every App under its own name end as it
may, and let another follow that is told the same. It leaves the store as it finds it, each of
its requests to create or patch an App or to create a namespace is refused, and it ends as the
first, unless it fails. -/
theorem applyCluster_settles (agree : first.Agree second alike) (settings : Settings)
    (cluster : Cluster) (state : σ) (later : τ) (close : alike state later) (memory : Memory)
    (filed : memory.Filed) :
    ∃ outcome ended applied again still settled,
      (applyCluster settings cluster).run first.handle (state, memory) =
        (outcome, (ended, applied)) ∧
      (applyCluster settings cluster).run second.handle (later, applied) =
        (again, (still, settled)) ∧
      settled = { applied with log := settled.log } ∧
      (∀ call before, (OperatorRequest.store call, before) ∈
          (applyCluster settings cluster).moments second.handle (later, applied) →
        call.makes = true → ∃ failure, before.2.handle call = (.error failure, before.2)) ∧
      (again = outcome ∨ ∃ failure, again = .error failure) := by
  rcases applies : (applyCluster settings cluster).run first.handle (state, memory) with
    ⟨outcome, ended, applied⟩
  obtain ⟨stillFiled, repeats⟩ := repeats_applyCluster agree settings cluster filed applies
  obtain ⟨again, still, settled, ends, kept, goesWith⟩ := repeats close stillFiled rfl
  refine ⟨outcome, ended, applied, again, still, settled, applies, ends.run,
    Memory.eq_of_content kept, fun call before asked => ends.asked _ asked, ?_⟩
  rcases goesWith with fails | ⟨value, _, rfl, rfl, rfl, _⟩
  · exact .inr fails
  · exact .inl rfl

/-- An App of a user, without a version label. -/
def unlabelledApp : App where
  metadata := {
    name := some "hello"
    namespace_ := some "org-acme"
    labels := some (.ofList [(Label.cluster, "demo0")]) }

theorem agree_stocked : Cleanup.stocked.Agree Cleanup.stocked fun _ _ => True where
  components _ _ _ _ := ⟨rfl, trivial⟩
  releaseApps _ _ _ _ := ⟨rfl, trivial⟩
  chartName _ _ _ _ _ _ := ⟨rfl, trivial⟩
  podCidr _ _ _ _ := ⟨rfl, trivial⟩

/-- Beside an App of a user, the first apply makes what there has to be and labels that App;
the second only writes the artifacts as they are. -/
theorem applyCluster_settles_unlabelled :
    (({} : Memory).putApp unlabelledApp).Filed ∧ ∃ ended applied still settled,
      (applyCluster {} Cleanup.deserted).run Cleanup.stocked.handle
        ((), ({} : Memory).putApp unlabelledApp) = (.ok .resync, (ended, applied)) ∧
      applied.log.drop 4 =
        ["create_app org-acme/demo0-app-operator", "create_app org-acme/demo0-hello",
          "patch_app org-acme/hello"] ∧
      (applyCluster {} Cleanup.deserted).run Cleanup.stocked.handle ((), applied) =
        (.ok .resync, (still, settled)) ∧
      settled.log.drop applied.log.length =
        ["apply_config_map org-acme/demo0-app-operator-values",
          "apply_config_map org-acme/demo0-cluster-values",
          "apply_secret org-acme/demo0-cluster-values"] ∧
      settled = { applied with log := settled.log } := by
  have filed : (({} : Memory).putApp unlabelledApp).Filed := Memory.filed_empty.putApp _
  let pass (store : Memory) := (applyCluster {} Cleanup.deserted).run Cleanup.stocked.handle
    ((), store)
  have early : (pass (({} : Memory).putApp unlabelledApp)).1 = .ok .resync ∧
      (pass (({} : Memory).putApp unlabelledApp)).2.2.log.drop 4 =
        ["create_app org-acme/demo0-app-operator", "create_app org-acme/demo0-hello",
          "patch_app org-acme/hello"] := by
    decide +kernel
  have late : (pass (pass (({} : Memory).putApp unlabelledApp)).2.2).1 = .ok .resync ∧
      (pass (pass (({} : Memory).putApp unlabelledApp)).2.2).2.2.log.drop
        (pass (({} : Memory).putApp unlabelledApp)).2.2.log.length =
        ["apply_config_map org-acme/demo0-app-operator-values",
          "apply_config_map org-acme/demo0-cluster-values",
          "apply_secret org-acme/demo0-cluster-values"] := by
    decide +kernel
  obtain ⟨outcome, ended, applied, again, still, settled, applies, reapplies, kept, _⟩ :=
    applyCluster_settles agree_stocked {} Cleanup.deserted () () trivial _ filed
  simp only [pass, applies, reapplies] at early late
  obtain ⟨rfl, earlyLog⟩ := early
  obtain ⟨rfl, lateLog⟩ := late
  exact ⟨filed, ended, applied, still, settled, applies, earlyLog, reapplies, lateLog, kept⟩

end PlatformApps.Apply
