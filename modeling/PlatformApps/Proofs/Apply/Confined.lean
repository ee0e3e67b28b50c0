/-
# What an apply leaves alone

Clusters and users share namespaces. However an apply for one cluster ends, it takes nothing
away, and it changes only what is that cluster's: its artifacts, its Apps under names of the
release, and the version labels of its users' Apps. An App that is labelled is read from its
written form, and loses what that form does not hold.
-/

import PlatformApps.Proofs.Apply.Settled

namespace PlatformApps.Apply

variable {σ : Type} {cluster : Cluster} {before between after : Memory}

/-- How an apply may leave an App that it finds at a place: as it is; in any way, if there should
be an App of that name and this one is managed for the cluster; or with a version label, if it
is a user's. What is labelled is read from its written form: its timestamps are at whole seconds
then, and managers' records that were `null` are gone. Nothing else is lost, and nothing at all
where the written form holds all metadata (`App.asRead_withVersion_eq_iff`). -/
inductive Handled (cluster : Cluster) (due : String → Prop) : ObjectKey → App → App → Prop where
  | kept (place : ObjectKey) (app : App) : Handled cluster due place app app
  | broughtInLine {name : String} {app : App} (wanted : due name)
      (held : app.isHeld cluster.id cluster.space = true) (result : App) :
      Handled cluster due (cluster.space, name) app result
  | labelled {name : String} {app : App} (users : app.isUsers cluster.id = true)
      (version : String) :
      Handled cluster due (cluster.space, name) app (app.withVersion version).asRead

/-- A store that holds every config map and every secret of an earlier one, changed perhaps. -/
structure Keeps (before after : Memory) : Prop where
  keepsConfigMaps : ∀ key, before.configMaps.contains key → after.configMaps.contains key
  keepsSecrets : ∀ key, before.secrets.contains key → after.secrets.contains key

/-- A store as an apply may leave it. Nothing is gone. Apps are handled as above; beside them only
the artifacts of the cluster may have changed, and a namespace may have been added. -/
structure Confined (cluster : Cluster) (due : String → Prop) (before after : Memory) : Prop
    extends Keeps before after where
  apps : ∀ ⦃space name app⦄, before.app? space name = some app →
    ∃ result, after.app? space name = some result ∧
      Handled cluster due (space, name) app result
  configMaps : ∀ key, key ≠ (cluster.space, agentValuesName cluster.id) →
    key ≠ (cluster.space, clusterValuesName cluster.id) →
      after.configMaps.find? key = before.configMaps.find? key
  secrets : ∀ key, key ≠ (cluster.space, clusterValuesName cluster.id) →
    after.secrets.find? key = before.secrets.find? key
  namespaces : ∀ ⦃name space⦄, before.namespaces.find? name = some space →
    after.namespaces.find? name = some space
  others : after = { before with
    apps := after.apps
    configMaps := after.configMaps
    secrets := after.secrets
    namespaces := after.namespaces
    log := after.log }

/-! What comes before the Apps. -/

theorem contains_insert {κ α : Type} [Key κ] {table : Table κ α} {key other : κ} (value : α)
    (inside : table.contains key) : (table.insert other value).contains key := by
  rw [Table.contains, Table.find?_insert]
  split
  · rfl
  · exact inside

/-- No call of an apply takes a config map or a secret away. -/
theorem Keeps.handle (keeps : Keeps before between) {call : StoreCall}
    (additive : Additive cluster call) : Keeps before (between.handle call).2 := by
  have of_provisions (same : (between.handle call).2.provisions = between.provisions) :
      Keeps before (between.handle call).2 := by
    have configMaps : (between.handle call).2.configMaps = between.configMaps :=
      congrArg (·.1) same
    have secrets : (between.handle call).2.secrets = between.secrets := congrArg (·.2.1) same
    exact ⟨configMaps ▸ keeps.keepsConfigMaps, secrets ▸ keeps.keepsSecrets⟩
  cases additive with
  | read reads => rwa [between.handle_of_isReading reads]
  | createApp => exact of_provisions (between.provisions_handle rfl)
  | applyConfigMap =>
      exact ⟨fun key inside => contains_insert _ (keeps.keepsConfigMaps key inside),
        keeps.keepsSecrets⟩
  | applySecret =>
      exact ⟨keeps.keepsConfigMaps,
        fun key inside => contains_insert _ (keeps.keepsSecrets key inside)⟩
  | createNamespace =>
      simp only [Memory.handle, Memory.createNamespace]
      split
      · exact keeps
      · exact ⟨keeps.keepsConfigMaps, keeps.keepsSecrets⟩

/-- A store before an apply comes to the Apps. -/
structure Readied (cluster : Cluster) (before after : Memory) : Prop extends
    Prepared cluster before after, Keeps before after

theorem Readied.run {α : Type} {surroundings : Surroundings σ} {memory : Memory}
    {state : σ × Memory} {dialogue : Dialogue Operator α}
    (asks : dialogue.Asks (Prepares cluster)) (readied : Readied cluster memory state.2) :
    Readied cluster memory (dialogue.run surroundings.handle state).2.2 := by
  refine ⟨readied.toPrepared.run asks, ?_⟩
  apply asks.run_preserves (fun state : σ × Memory => Keeps memory state.2)
  · intro request permitted state keeps
    cases request with
    | store call => exact keeps.handle permitted.1
    | _ => exact keeps
  · exact readied.toKeeps

theorem asks_provide (settings : Settings) (cluster : Cluster) :
    (provide settings cluster).Asks (Prepares cluster) := by
  rw [provide]
  split
  · trivial
  · exact (asks_ensureSpace cluster).bind fun _ => asks_ensureArtifacts settings cluster

/-! What comes to the Apps. -/

/-- An App that is brought in line is not labelled, and one that is labelled is not brought in
line. -/
theorem handled_of_fills {names : List String} {version : String} {place : ObjectKey} {app : App}
    {middle last : Option App}
    (fills : Memory.Fills cluster.id cluster.space names place (some app) middle)
    (relabels : Memory.Relabels cluster.space cluster.id version place middle last) :
    ∃ result, last = some result ∧ Handled cluster (· ∈ names) place app result := by
  cases fills with
  | stays =>
      cases relabels with
      | stays => exact ⟨app, rfl, .kept _ app⟩
      | labelled users => exact ⟨_, rfl, .labelled users version⟩
  | filled wanted ours held =>
      cases relabels with
      | stays => exact ⟨_, rfl, .broughtInLine wanted (ours app rfl) _⟩
      | labelled users => cases held.symm.trans (isHeld_of_isUsers users cluster.space)

theorem Handled.mono {due more : String → Prop} {place : ObjectKey} {app result : App}
    (handled : Handled cluster due place app result) (subset : ∀ name, due name → more name) :
    Handled cluster more place app result := by
  cases handled with
  | kept => exact .kept place app
  | broughtInLine wanted held => exact .broughtInLine (subset _ wanted) held result
  | labelled users version => exact .labelled users version

/-- Bringing the Apps of a cluster in line is a matter of the store alone. -/
theorem exists_run_converge {apps : List App}
    (made : ∀ app ∈ apps, app.IsMadeFor cluster.id cluster.space)
    (distinct : (apps.map App.name).Nodup) {memory : Memory} (filed : memory.Filed) :
    ∃ counted middle, BroughtInLine cluster.space cluster.id apps memory middle ∧
      ∀ (surroundings : Surroundings σ) state,
        (Operator.calls (converge cluster.id cluster.space apps)).run surroundings.handle
          (state, memory) = (.ok counted, (state, middle)) := by
  have held : ∀ app ∈ apps, app.isHeld cluster.id cluster.space = true := by
    intro app inside
    exact App.isHeld_of_isMadeFor (made app inside)
  obtain ⟨counted, middle, runs, _, brought⟩ := run_converge held distinct filed
  refine ⟨counted, middle, brought, ?_⟩
  intro surroundings state
  rw [Operator.run_calls, Surroundings.run_stored, runs]

/-- Once it is known which Apps there should be, an apply brings these in line and then labels
others. -/
theorem exists_tended_settle (surroundings : Surroundings σ) (artifacts : ArtifactsOutcome)
    {compiled : Compiled} (made : ∀ app ∈ compiled.apps, app.IsMadeFor cluster.id cluster.space)
    (distinct : (compiled.apps.map App.name).Nodup) (state : σ) {memory : Memory}
    (filed : memory.Filed) :
    ∃ version middle,
      memory.Tended (Memory.Fills cluster.id cluster.space (compiled.apps.map App.name)) middle ∧
      middle.Tended (Memory.Relabels cluster.space cluster.id version)
        ((settle cluster artifacts (.ok compiled)).run surroundings.handle
          (state, memory)).2.2 := by
  obtain ⟨counted, middle, brought, converges⟩ := exists_run_converge (σ := σ) made distinct filed
  obtain ⟨_, version, tended⟩ := tended_ensureVersionLabels surroundings cluster state brought.filed
  refine ⟨version, middle, brought.tended, ?_⟩
  rw [settle, Dialogue.run_bind_of_ok (converges surroundings state)]
  let labels (after : σ × Memory) :=
    middle.Tended (Memory.Relabels cluster.space cluster.id version) after.2
  apply Dialogue.run_bind_reaches labels labels (fun _ labelled => labelled) tended
  intro _ after _ labelled
  cases compiled.failure? <;> exact labelled

theorem Readied.confined (readied : Readied cluster before after) (due : String → Prop) :
    Confined cluster due before after where
  toKeeps := readied.toKeeps
  apps space name app found := by
    refine ⟨app, ?_, .kept _ app⟩
    rw [Memory.app?, readied.sameApps]
    exact found
  configMaps := readied.configMaps
  secrets := readied.secrets
  namespaces name space found := by
    rcases readied.namespaces with same | ⟨free, added⟩
    · rw [same, found]
    · have different : name ≠ cluster.id := by
        rintro rfl
        cases free.symm.trans found
      rw [added, Table.find?_insert, if_neg different, found]
  others := readied.others

/-- What is done about Apps leaves the rest of the store as it was readied. -/
theorem Confined.of_tended {names : List String} {version : String} {middle last : Memory}
    (readied : Readied cluster before between)
    (fills : between.Tended (Memory.Fills cluster.id cluster.space names) middle)
    (relabels : middle.Tended (Memory.Relabels cluster.space cluster.id version) last)
    {due : String → Prop} (wanted : ∀ name ∈ names, due name) :
    Confined cluster due before last := by
  have confined := readied.confined due
  have others : last = { between with apps := last.apps, log := last.log } := by
    rw [relabels.others, fills.others]
  rw [others]
  refine ⟨⟨confined.keepsConfigMaps, confined.keepsSecrets⟩, ?_, confined.configMaps,
    confined.secrets, confined.namespaces, ?_⟩
  · intro space name app found
    have each := fills.each space name
    rw [Memory.app?, readied.sameApps] at each
    rw [Memory.app?] at found
    rw [found] at each
    obtain ⟨result, left, handled⟩ := handled_of_fills each (relabels.each space name)
    exact ⟨result, left, handled.mono wanted⟩
  · rw [confined.others]

/-- Does the compilation in an apply, which follows on the namespace and the artifacts, find an
App of a name? -/
def Wants (surroundings : Surroundings σ) (settings : Settings) (cluster : Cluster)
    (state : σ × Memory) (name : String) : Prop :=
  ∃ artifacts between compiled after,
    (provide settings cluster).run surroundings.handle state = (.ok artifacts, between) ∧
    (compile settings cluster).run surroundings.handle between = (.ok compiled, after) ∧
    name ∈ compiled.apps.map App.name

/-- An apply stays within its cluster. Let a store have every App under its own name. However
the apply ends, nothing is gone. An App is as it was unless it carries the label of the cluster
and stands in the cluster's namespace: there, an App that is managed may have changed if the
compilation of this apply has found one of its name, and an App of a user has at most been given a
version label and been read from its written form. Beside Apps, only the artifacts of the cluster
may have changed, and namespaces that were there have not. -/
theorem applyCluster_confined (surroundings : Surroundings σ) (settings : Settings)
    (cluster : Cluster) (state : σ) {memory : Memory} (filed : memory.Filed) :
    Confined cluster (Wants surroundings settings cluster (state, memory)) memory
      ((applyCluster settings cluster).run surroundings.handle (state, memory)).2.2 := by
  let due := Wants surroundings settings cluster (state, memory)
  let readied (after : σ × Memory) := Readied cluster memory after.2
  let confined (after : σ × Memory) := Confined cluster due memory after.2
  have isEnough (after : σ × Memory) (ready : readied after) : confined after :=
    ready.confined due
  have start : Readied cluster memory memory :=
    ⟨⟨.refl cluster memory, rfl⟩, ⟨fun _ inside => inside, fun _ inside => inside⟩⟩
  rw [applyCluster_eq_provide]
  apply Dialogue.run_bind_reaches readied confined isEnough
  · have begins : readied (state, memory) := start
    exact begins.run (asks_provide settings cluster)
  intro artifacts between provides ready
  have asks : (compile settings cluster).Asks (Prepares cluster) :=
    asks_compile trivial trivial ⟨.read rfl, rfl⟩ ⟨.read rfl, rfl⟩ fun _ _ _ => trivial
  apply Dialogue.run_bind_reaches readied confined isEnough (ready.run asks.attempt)
  intro outcome after compiles ready
  cases outcome with
  | error failure =>
      rw [settle]
      split <;> exact isEnough after ready
  | ok compiled =>
      have compilation : (compile settings cluster).run surroundings.handle between =
          (.ok compiled, after) := Dialogue.run_attempt_eq_ok_iff.mp compiles
      obtain ⟨version, middle, fills, relabels⟩ := exists_tended_settle surroundings artifacts
        (isMadeFor_of_compile compilation) (nodup_names_of_compile compilation) after.1
        (filed.of_apps_eq ready.sameApps)
      apply Confined.of_tended ready fills relabels
      intro name inside
      exact ⟨artifacts, between, compiled, after, provides, compilation, inside⟩

/-- An App that the release of its cluster has no entry for any more. -/
def leftoverApp : App where
  metadata := {
    name := some "demo0-gone"
    namespace_ := some "org-acme"
    labels := some (managedLabels "demo0") }

/-- An App of another cluster, under a name that is wanted for this one. -/
def neighbour : App where
  metadata := {
    name := some "demo0-hello"
    namespace_ := some "org-acme"
    labels := some (managedLabels "demo1") }

def crowded : Memory :=
  ((({} : Memory).putApp unlabelledApp).putApp leftoverApp).putApp neighbour

/-- The App of a user gets the version of the agent. One that is no longer due stays, and so does
that of another cluster. -/
theorem applyCluster_confined_crowded : crowded.Filed ∧ ∃ ended applied,
    (applyCluster {} Cleanup.deserted).run Cleanup.stocked.handle ((), crowded) =
      (.ok .resync, (ended, applied)) ∧
    Confined Cleanup.deserted (Wants Cleanup.stocked {} Cleanup.deserted ((), crowded)) crowded
      applied ∧
    applied.app? "org-acme" "demo0-gone" = some leftoverApp ∧
    applied.app? "org-acme" "demo0-hello" = some neighbour ∧
    applied.app? "org-acme" "hello" = some (unlabelledApp.withVersion "6.11.0").asRead := by
  have filed : crowded.Filed := ((Memory.filed_empty.putApp _).putApp _).putApp _
  let pass := (applyCluster {} Cleanup.deserted).run Cleanup.stocked.handle ((), crowded)
  have leaves : pass.1 = .ok .resync ∧
      pass.2.2.app? "org-acme" "demo0-gone" = some leftoverApp ∧
      pass.2.2.app? "org-acme" "demo0-hello" = some neighbour ∧
      pass.2.2.app? "org-acme" "hello" = some (unlabelledApp.withVersion "6.11.0").asRead := by
    decide +kernel
  have confined := applyCluster_confined Cleanup.stocked {} Cleanup.deserted () filed
  rcases applies : (applyCluster {} Cleanup.deserted).run Cleanup.stocked.handle ((), crowded) with
    ⟨outcome, ended, applied⟩
  rw [applies] at confined
  simp only [pass, applies] at leaves
  obtain ⟨rfl, apps⟩ := leaves
  exact ⟨filed, ended, applied, applies, confined, apps⟩

/-- An apply changes more than the version label of an App of a user: it takes the fraction of a
second from its creation time. -/
theorem applyCluster_cuts_creation_time :
    momentary.isUsers Cleanup.deserted.id = true ∧ ∃ ended applied result,
      (applyCluster {} Cleanup.deserted).run Cleanup.stocked.handle
        ((), ({} : Memory).putApp momentary) = (.ok .resync, (ended, applied)) ∧
      applied.app? "org-acme" "hello" = some result ∧
      result.metadata.creationTimestamp ≠ momentary.metadata.creationTimestamp := by
  let pass := (applyCluster {} Cleanup.deserted).run Cleanup.stocked.handle
    ((), ({} : Memory).putApp momentary)
  have leaves : pass.1 = .ok .resync ∧
      pass.2.2.app? "org-acme" "hello" = some (momentary.withVersion "6.11.0").asRead := by
    decide +kernel
  rcases applies : (applyCluster {} Cleanup.deserted).run Cleanup.stocked.handle
    ((), ({} : Memory).putApp momentary) with ⟨outcome, ended, applied⟩
  simp only [pass, applies] at leaves
  obtain ⟨rfl, left⟩ := leaves
  exact ⟨by decide, ended, applied, _, applies, left, by decide +kernel⟩

end PlatformApps.Apply
