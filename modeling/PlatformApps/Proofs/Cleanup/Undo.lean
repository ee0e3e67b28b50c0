/-
# A cleanup undoes an apply

What an apply adds to a store that holds nothing of its cluster is what a cleanup takes away
again: the Apps that it makes carry the label by which the teardown finds them and nothing
keeps them, and artifacts and namespace are removed under the names under which they are
made. The main statement is that a cleanup that succeeds restores the store, however the
apply before it ended.
-/

import PlatformApps.Proofs.Apply.Additions
import PlatformApps.Proofs.Teardown.Unheld

namespace PlatformApps

/-- A cluster whose deletion has been requested. -/
def Cluster.deletedAt (cluster : Cluster) (time : Timestamp) : Cluster :=
  { cluster with metadata := { cluster.metadata with deletionTimestamp := some time } }

/-! The request for its deletion changes neither the id nor the namespace of a cluster. -/

theorem Cleanup.Emptied.deletedAt {cluster : Cluster} {memory : Memory}
    (emptied : Emptied cluster memory) (time : Timestamp) :
    Emptied (cluster.deletedAt time) memory where
  apps := emptied.apps
  secondTier := emptied.secondTier
  agent := emptied.agent
  deployment := emptied.deployment
  artifacts := emptied.artifacts
  space := emptied.space

theorem Apply.Extends.deletedAt {cluster : Cluster} {before after : Memory}
    (extended : Extends cluster before after) (time : Timestamp) :
    Extends (cluster.deletedAt time) before after where
  apps := extended.apps
  configMaps := extended.configMaps
  secrets := extended.secrets
  namespaces := extended.namespaces
  others := extended.others

namespace Cleanup

variable {σ τ : Type} {surroundings : Surroundings σ} {settings : Settings} {liveness : Backoff}
  {cluster : Cluster} {state : σ} {before after : Memory}

/-- What a teardown takes away after an apply is what the apply has added. -/
theorem concerns_iff_of_extends (cleared : Cleared cluster before)
    (extended : Apply.Extends cluster before after) {name : String} {app : App}
    (found : after.app? cluster.space name = some app) :
    Teardown.concerns ⟨cluster.id, cluster.space, secondTierAppName cluster.id⟩ name app = true ↔
      before.app? cluster.space name = none := by
  rcases extended.apps cluster.space name with kept | ⟨free, _, other, foundOther, _, made⟩
  · rw [kept] at found
    rw [found]
    have stranger : app.isOf cluster.id = false := cleared.apps name app found
    have notSecondTier : name ≠ secondTierAppName cluster.id := by
      rintro rfl
      cases cleared.secondTier.symm.trans found
    have notAgent : name ≠ agentAppName cluster.id := by
      rintro rfl
      cases cleared.agent.symm.trans found
    simp [Teardown.concerns, Teardown.agent, stranger, notSecondTier, notAgent]
  · cases found.symm.trans foundOther
    have marks : app.isOf cluster.id = true := made.isOf
    simp [Teardown.concerns, marks, free]

theorem unheld_of_extends (cleared : Cleared cluster before)
    (extended : Apply.Extends cluster before after) :
    Teardown.Unheld ⟨cluster.id, cluster.space, secondTierAppName cluster.id⟩ after := by
  intro name app found concerned
  have free := (concerns_iff_of_extends cleared extended found).mp concerned
  rcases extended.apps cluster.space name with kept | ⟨_, _, other, foundOther, filed, made⟩
  · cases found.symm.trans (kept.trans free)
  · cases found.symm.trans foundOther
    refine ⟨filed, made.finalizers, ?_⟩
    rw [Teardown.isPassedOver, made.isDeleting, made.isForeign]
    rfl

/-- The teardown after an apply is done at once and leaves the Apps that were there before. -/
theorem run_teardown_of_extends (cleared : Cleared cluster before)
    (extended : Apply.Extends cluster before after) :
    ∃ torn, (Teardown.run ⟨cluster.id, cluster.space, secondTierAppName cluster.id⟩).run
        Memory.handle after = (.ok .done, torn) ∧ torn.apps = before.apps ∧
      torn = { after with apps := torn.apps, log := torn.log } := by
  obtain ⟨torn, done, inSpace, elsewhere, others⟩ :=
    Teardown.run_run_of_unheld (unheld_of_extends cleared extended)
  refine ⟨torn, done, ?_, others⟩
  apply Table.ext
  rintro ⟨space, name⟩
  show torn.app? space name = before.app? space name
  by_cases here : space = cluster.space
  · subst here
    rw [inSpace]
    cases found : after.app? cluster.space name with
    | none =>
        rcases extended.apps cluster.space name with kept | ⟨_, _, other, foundOther, _⟩
        · rw [Option.filter_none, ← kept, found]
        · cases found.symm.trans foundOther
    | some app =>
        have concerned := concerns_iff_of_extends cleared extended found
        rcases extended.apps cluster.space name with kept | ⟨free, _⟩
        · have there : before.app? cluster.space name ≠ none := by
            rw [← kept, found]
            exact Option.some_ne_none app
          rw [Option.filter_some, Bool.eq_false_iff.mpr (mt concerned.mp there), ← kept, found]
          rfl
        · rw [Option.filter_some, concerned.mpr free, free]
          rfl
  · rw [elsewhere space here]
    rcases extended.apps space name with kept | ⟨_, same, _⟩
    · exact kept
    · exact absurd same here

/-- The namespace that an apply has made is removed again, and no other. -/
theorem run_removeSpace_of_extends (emptied : Emptied cluster before)
    (extended : Apply.Extends cluster before after) (bare : Memory)
    (same : bare.namespaces = after.namespaces) :
    ∃ spaceless, (ClusterSpace.remove cluster.id).run Memory.handle bare = (.ok (), spaceless) ∧
      spaceless.namespaces = before.namespaces ∧
      spaceless = { bare with namespaces := spaceless.namespaces, log := spaceless.log } := by
  rcases extended.namespaces with kept | ⟨free, added⟩
  · have absent : ClusterSpace.AbsentFrom cluster.id bare := by
      intro space found
      rw [same, kept] at found
      exact emptied.space space found
    exact ⟨bare, ClusterSpace.run_remove_of_absent absent, same.trans kept, rfl⟩
  · have found : bare.namespaces.find? cluster.id = some (ClusterSpace.desired cluster.id) := by
      rw [same, added, Table.find?_insert, if_pos rfl]
    have managed : isManaged (ClusterSpace.desired cluster.id).metadata.labelTable = true := by
      rw [ClusterSpace.desired, Metadata.labelTable, Option.getD_some, isManaged,
        find?_managedLabels, if_pos rfl, beq_self_eq_true]
    obtain ⟨spaceless, removed, erased, others⟩ := ClusterSpace.run_remove_of_managed found managed
    refine ⟨spaceless, removed, ?_, others⟩
    rw [erased, same, added, Table.erase_insert_of_absent free]

/-- The artifacts that an apply has made are removed again, and no others. -/
theorem run_removeArtifacts_of_extends (emptied : Emptied cluster before)
    (extended : Apply.Extends cluster before after) (torn : Memory)
    (configMaps : torn.configMaps = after.configMaps) (secrets : torn.secrets = after.secrets) :
    ∃ bare, (Artifacts.remove cluster.id cluster.space).run Memory.handle torn = (.ok (), bare) ∧
      bare.configMaps = before.configMaps ∧ bare.secrets = before.secrets ∧
      bare = { torn with
        configMaps := bare.configMaps, secrets := bare.secrets, log := bare.log } := by
  obtain ⟨bare, removed, _, others⟩ := Artifacts.run_remove cluster.id cluster.space torn
  obtain ⟨leftConfigMaps, leftSecrets⟩ := Artifacts.find?_run_remove cluster.id cluster.space torn
  rw [removed] at leftConfigMaps leftSecrets
  refine ⟨bare, removed, ?_, ?_, others⟩
  · apply Table.ext
    intro key
    rw [leftConfigMaps]
    split
    · rename_i artifact
      rcases artifact with rfl | rfl
      · exact emptied.artifacts.agentValues.symm
      · exact emptied.artifacts.clusterValues.symm
    · rename_i stranger
      rw [not_or] at stranger
      rw [configMaps, extended.configMaps key stranger.1 stranger.2]
  · apply Table.ext
    intro key
    rw [leftSecrets]
    split
    · rename_i artifact
      rw [artifact, emptied.artifacts.clusterSecrets]
    · rename_i stranger
      rw [secrets, extended.secrets key stranger]

/-- After an apply, a cleanup that finds the name of the second tier goes through all of its
stages and leaves the store as it was before the apply. -/
theorem finishes_of_extends (emptied : Emptied cluster before)
    (extended : Apply.Extends cluster before after)
    (named : secondTierName ((compileAsLive settings cluster).run surroundings.handle
      (state, after)).1 cluster.id = .ok (secondTierAppName cluster.id)) :
    ∃ ended left, Finishes surroundings.handle settings liveness cluster (state, after)
      (ended, left) ∧ left = { before with log := left.log } := by
  obtain ⟨torn, done, apps, tornOthers⟩ := run_teardown_of_extends emptied.toCleared extended
  obtain ⟨tornAt, tornDown⟩ := exists_tornDown_iff.mpr ⟨named, done⟩
  have noDeployment :
      torn.deployments.find? (cluster.space, agentDeploymentName cluster.id) = none := by
    rw [tornOthers, extended.others]
    exact emptied.deployment
  obtain ⟨alone, agentGone⟩ := run_awaitAgentGone_of_absent surroundings noDeployment liveness
    tornAt
  have cleared : Cleared cluster torn := emptied.toCleared.of_apps_eq apps
  have sweeps : (sweep cluster.id cluster.space).run (Operator.stored surroundings.handle)
      (alone, torn) = (.ok {}, (alone, torn)) := by
    rw [Surroundings.run_stored, run_sweep_of_none cleared.appsOf_eq_nil]
  obtain ⟨bare, unmade, configMaps, secrets, bareOthers⟩ :=
    run_removeArtifacts_of_extends emptied extended torn (by rw [tornOthers])
      (by rw [tornOthers])
  have artifacts : (Artifacts.remove cluster.id cluster.space).run
      (Operator.stored surroundings.handle) (alone, torn) = (.ok (), (alone, bare)) := by
    rw [Surroundings.run_stored, unmade]
  obtain ⟨left, removed, namespaces, leftOthers⟩ :=
    run_removeSpace_of_extends emptied extended bare (by rw [bareOthers, tornOthers])
  have space : (ClusterSpace.remove cluster.id).run
      (Operator.stored surroundings.handle) (alone, bare) = (.ok (), (alone, left)) := by
    rw [Surroundings.run_stored, removed]
  refine ⟨_, left, .intro (.intro tornDown agentGone sweeps) rfl artifacts space rfl, ?_⟩
  rw [leftOthers, namespaces, bareOthers, configMaps, secrets, tornOthers, apps, extended.others]

/-- A cleanup after an apply either restores the store or cannot tell the name of the second
tier, and then it fails as the look at the release did. -/
theorem run_cleanupCluster_of_extends (surroundings : Surroundings σ) (settings : Settings)
    (liveness : Backoff) (state : σ) (identified : cluster.id ≠ "")
    (emptied : Emptied cluster before) (extended : Apply.Extends cluster before after) :
    ∃ result ended left,
      (cleanupCluster settings liveness cluster).run surroundings.handle (state, after) =
        (result, (ended, left)) ∧
      (result = .ok .onChange ∧ left = { before with log := left.log } ∨
        ∃ failure, result = .error failure ∧ failure.isNotFound = false ∧
          failure.isValidation = false ∧ ((compileAsLive settings cluster).run
            surroundings.handle (state, after)).1 = .error failure) := by
  rcases compiles : (compileAsLive settings cluster).run surroundings.handle (state, after) with
    ⟨compiled, between⟩
  cases named : secondTierName compiled cluster.id with
  | ok name =>
      obtain rfl := eq_of_secondTierName compiles named
      obtain ⟨ended, left, finishes, restored⟩ :=
        finishes_of_extends emptied extended (by rw [compiles, named])
      exact ⟨_, ended, left, (run_cleanupCluster_eq_ok_iff identified).mpr (.inl ⟨rfl, finishes⟩),
        .inl ⟨rfl, restored⟩⟩
  | error failure =>
      refine ⟨_, between.1, between.2, run_cleanupCluster_of_unnamed identified compiles named,
        .inr ⟨failure, rfl, ?_⟩⟩
      cases compiled with
      | ok compiled => cases named
      | error reason =>
          rw [secondTierName] at named
          split at named
          · cases named
          · rename_i lasting
            obtain rfl := Except.error.inj named
            rw [Bool.or_eq_true, not_or, Bool.not_eq_true, Bool.not_eq_true] at lasting
            exact ⟨lasting.1, lasting.2, congrArg Prod.fst compiles⟩

/-- A cleanup undoes an apply. Take a store that holds nothing of a cluster, and let an apply
for it end as it may. A cleanup after that restores the store and lets the cluster go, unless
the release cannot be read for a reason that may pass; then it fails for that reason. -/
theorem cleanup_undoes_apply (applying : Surroundings σ) (cleaning : Surroundings τ)
    (settings others : Settings) (liveness : Backoff) (cluster : Cluster) (time : Timestamp)
    (state : σ) (later : τ) (memory : Memory) (emptied : Emptied cluster memory) :
    ∃ outcome ended applied,
      (applyCluster settings cluster).run applying.handle (state, memory) =
        (outcome, (ended, applied)) ∧
      ∃ result gone left,
        (cleanupCluster others liveness (cluster.deletedAt time)).run cleaning.handle
          (later, applied) = (result, (gone, left)) ∧
        (∀ next, result = .ok next →
          next = .onChange ∧ left = { memory with log := left.log }) ∧
        ∀ failure, result = .error failure →
          failure.isNotFound = false ∧ failure.isValidation = false ∧
            ((compileAsLive others (cluster.deletedAt time)).run cleaning.handle
              (later, applied)).1 = .error failure := by
  have extended := Apply.extends_applyCluster applying settings cluster state
    emptied.appsOf_eq_nil
  rcases applies : (applyCluster settings cluster).run applying.handle (state, memory) with
    ⟨outcome, ended, applied⟩
  rw [applies] at extended
  refine ⟨outcome, ended, applied, applies, ?_⟩
  by_cases identified : cluster.id = ""
  · -- without an id neither pass does anything
    have still : (cluster.deletedAt time).id = "" := identified
    simp only [applyCluster, if_pos identified] at applies
    cases applies
    refine ⟨.ok .onChange, later, memory, ?_, ?_, ?_⟩
    · rw [cleanupCluster, if_pos still]
      rfl
    · rintro _ ⟨⟩
      exact ⟨rfl, rfl⟩
    · rintro _ ⟨⟩
  · have stillIdentified : (cluster.deletedAt time).id ≠ "" := identified
    obtain ⟨result, gone, left, cleans, ⟨rfl, restored⟩ | ⟨failure, rfl, lasting⟩⟩ :=
      run_cleanupCluster_of_extends cleaning others liveness later stillIdentified
        (emptied.deletedAt time) (extended.deletedAt time)
    · refine ⟨_, gone, left, cleans, ?_, ?_⟩
      · rintro _ ⟨⟩
        exact ⟨rfl, restored⟩
      · rintro _ ⟨⟩
    · refine ⟨_, gone, left, cleans, ?_, ?_⟩
      · rintro _ ⟨⟩
      · rintro _ ⟨⟩
        exact lasting

/-- Surroundings with one release and one chart. -/
def stocked : Surroundings Unit where
  components _ state :=
    (.ok (.ofList [(platformAgent, ⟨platformAgent, "6.11.0", none, none⟩)]), state)
  releaseApps _ state := (.ok (.ofList [("hello", ⟨"hello", "1.0.0", none⟩)]), state)
  chartName _ _ _ state := (.ok "hello-app", state)
  podCidr _ state := (.ok "10.2.0.0/16", state)
  finalizers _ _ _ state := (.ok (), state)
  metric _ state := state
  now state := (0, state)
  jitter state := (1, state)
  pause _ state := state

theorem emptied_empty (cluster : Cluster) : Emptied cluster {} where
  apps _ _ found := by cases found
  secondTier := rfl
  agent := rfl
  deployment := rfl
  artifacts := ⟨rfl, rfl, rfl⟩
  space _ found := by cases found

/-- The release is there for the apply and gone when the cluster is cleaned up. -/
theorem cleanup_undoes_apply_stocked :
    Emptied deserted {} ∧ ∃ ended applied,
      (applyCluster {} deserted).run stocked.handle ((), {}) = (.ok .resync, (ended, applied)) ∧
      applied.apps.keys =
        [("org-acme", "demo0-app-operator"), ("org-acme", "demo0-hello")] ∧
      ∃ gone left,
        (cleanupCluster {} .immediate (deserted.deletedAt .epoch)).run World.surroundings.handle
          ({}, applied) = (.ok .onChange, (gone, left)) ∧ left = { log := left.log } := by
  have applies : ((applyCluster {} deserted).run stocked.handle ((), {})).1 = .ok .resync ∧
      ((applyCluster {} deserted).run stocked.handle ((), ({} : Memory))).2.2.apps.keys =
        [("org-acme", "demo0-app-operator"), ("org-acme", "demo0-hello")] := by
    decide +kernel
  have cleaned : ((cleanupCluster {} .immediate (deserted.deletedAt .epoch)).run
      World.surroundings.handle
        ({}, ((applyCluster {} deserted).run stocked.handle
          ((), ({} : Memory))).2.2)).1 = .ok .onChange := by
    decide +kernel
  obtain ⟨outcome, ended, applied, played, result, gone, left, cleans, restored, _⟩ :=
    cleanup_undoes_apply stocked World.surroundings {} {} .immediate deserted .epoch () {} {}
      (emptied_empty deserted)
  rw [played] at applies cleaned
  rw [cleans] at cleaned
  obtain ⟨rfl, keys⟩ := applies
  obtain rfl := cleaned
  exact ⟨emptied_empty deserted, ended, applied, played, keys, gone, left, cleans,
    (restored _ rfl).2⟩

end Cleanup

end PlatformApps
