/-
# Removals from the in-memory store

On the in-memory store the removal of the artifacts of a cluster and that of its namespace
always succeed, and so does a sweep that finds no App. Each leaves behind what it is there
for and no other change, and each changes nothing where there is nothing to remove.
-/

import PlatformApps.Artifacts
import PlatformApps.ClusterSpace
import PlatformApps.Proofs.Dialogue
import PlatformApps.Proofs.Store.Calls
import PlatformApps.Sweep

namespace PlatformApps

namespace Memory

variable (store : Memory) (space name : String)

/-- The store after a request for the deletion of a config map. -/
def withoutConfigMap : Memory := (store.deleteConfigMap space name).2

/-- The store after a request for the deletion of a secret. -/
def withoutSecret : Memory := (store.deleteSecret space name).2

theorem run_deleteConfigMap :
    (Dialogue.tolerate (I := Store) (StoreCall.deleteConfigMap space name) Failure.isNotFound
      ()).run Memory.handle store = (.ok (), store.withoutConfigMap space name) := by
  by_cases present : store.configMaps.contains (space, name)
  · have answer : store.handle (.deleteConfigMap space name) =
        (.ok (), store.withoutConfigMap space name) := by
      simp only [handle, withoutConfigMap, deleteConfigMap, if_pos present]
    exact Dialogue.run_tolerate_of_ok (I := Store) answer Failure.isNotFound ()
  · have answer : store.handle (.deleteConfigMap space name) =
        (.error (missing "ConfigMap" space name), store.withoutConfigMap space name) := by
      simp only [handle, withoutConfigMap, deleteConfigMap, if_neg present]
    exact Dialogue.run_tolerate_of_harmless (I := Store) answer rfl ()

theorem run_deleteSecret :
    (Dialogue.tolerate (I := Store) (StoreCall.deleteSecret space name) Failure.isNotFound
      ()).run Memory.handle store = (.ok (), store.withoutSecret space name) := by
  by_cases present : store.secrets.contains (space, name)
  · have answer : store.handle (.deleteSecret space name) =
        (.ok (), store.withoutSecret space name) := by
      simp only [handle, withoutSecret, deleteSecret, if_pos present]
    exact Dialogue.run_tolerate_of_ok (I := Store) answer Failure.isNotFound ()
  · have answer : store.handle (.deleteSecret space name) =
        (.error (missing "Secret" space name), store.withoutSecret space name) := by
      simp only [handle, withoutSecret, deleteSecret, if_neg present]
    exact Dialogue.run_tolerate_of_harmless (I := Store) answer rfl ()

theorem configMaps_withoutConfigMap :
    (store.withoutConfigMap space name).configMaps = store.configMaps.erase (space, name) := by
  by_cases present : store.configMaps.contains (space, name)
  · simp only [withoutConfigMap, deleteConfigMap, if_pos present, record]
  · have absent := Option.not_isSome_iff_eq_none.mp present
    simp only [withoutConfigMap, deleteConfigMap, if_neg present, Table.erase_of_absent absent]

theorem secrets_withoutSecret :
    (store.withoutSecret space name).secrets = store.secrets.erase (space, name) := by
  by_cases present : store.secrets.contains (space, name)
  · simp only [withoutSecret, deleteSecret, if_pos present, record]
  · have absent := Option.not_isSome_iff_eq_none.mp present
    simp only [withoutSecret, deleteSecret, if_neg present, Table.erase_of_absent absent]

theorem withoutConfigMap_others :
    store.withoutConfigMap space name =
      { store with
        configMaps := (store.withoutConfigMap space name).configMaps
        log := (store.withoutConfigMap space name).log } := by
  simp only [withoutConfigMap, deleteConfigMap]
  split <;> rfl

theorem withoutSecret_others :
    store.withoutSecret space name =
      { store with
        secrets := (store.withoutSecret space name).secrets
        log := (store.withoutSecret space name).log } := by
  simp only [withoutSecret, deleteSecret]
  split <;> rfl

variable {store space name}

theorem withoutConfigMap_of_absent (absent : store.configMaps.find? (space, name) = none) :
    store.withoutConfigMap space name = store := by
  have missing : ¬store.configMaps.contains (space, name) :=
    Option.not_isSome_iff_eq_none.mpr absent
  simp only [withoutConfigMap, deleteConfigMap, if_neg missing]

theorem withoutSecret_of_absent (absent : store.secrets.find? (space, name) = none) :
    store.withoutSecret space name = store := by
  have missing : ¬store.secrets.contains (space, name) :=
    Option.not_isSome_iff_eq_none.mpr absent
  simp only [withoutSecret, deleteSecret, if_neg missing]

end Memory

variable {id space : String} {memory : Memory}

namespace Artifacts

/-- The store holds none of the artifacts of a cluster. -/
structure AbsentFrom (id space : String) (memory : Memory) : Prop where
  agentValues : memory.configMaps.find? (space, agentValuesName id) = none
  clusterValues : memory.configMaps.find? (space, clusterValuesName id) = none
  clusterSecrets : memory.secrets.find? (space, clusterValuesName id) = none

private theorem run_remove_eq (id space : String) (memory : Memory) :
    (remove id space).run Memory.handle memory =
      (.ok (), ((memory.withoutConfigMap space (agentValuesName id)).withoutConfigMap space
        (clusterValuesName id)).withoutSecret space (clusterValuesName id)) := by
  simp only [remove, Dialogue.bind_eq]
  rw [Dialogue.run_bind_of_ok (memory.run_deleteConfigMap space _),
    Dialogue.run_bind_of_ok (Memory.run_deleteConfigMap _ space _)]
  exact Memory.run_deleteSecret _ space _

/-- The removal of artifacts succeeds and changes config maps and secrets only. -/
theorem run_remove (id space : String) (memory : Memory) :
    ∃ after, (remove id space).run Memory.handle memory = (.ok (), after) ∧
      AbsentFrom id space after ∧
      after = { memory with
        configMaps := after.configMaps, secrets := after.secrets, log := after.log } := by
  refine ⟨_, run_remove_eq id space memory, ⟨?_, ?_, ?_⟩, ?_⟩
  · rw [Memory.withoutSecret_others]
    simp only [Memory.configMaps_withoutConfigMap, Table.find?_erase, if_true, ite_self]
  · rw [Memory.withoutSecret_others]
    simp only [Memory.configMaps_withoutConfigMap, Table.find?_erase, if_true]
  · rw [Memory.secrets_withoutSecret, Table.find?_erase, if_pos rfl]
  · rw [Memory.withoutSecret_others, Memory.withoutConfigMap_others,
      Memory.withoutConfigMap_others memory]

/-- The removal of artifacts takes two config maps and a secret away and no others. -/
theorem find?_run_remove (id space : String) (memory : Memory) :
    (∀ key, ((remove id space).run Memory.handle memory).2.configMaps.find? key =
        if key = (space, agentValuesName id) ∨ key = (space, clusterValuesName id) then none
        else memory.configMaps.find? key) ∧
      ∀ key, ((remove id space).run Memory.handle memory).2.secrets.find? key =
        if key = (space, clusterValuesName id) then none else memory.secrets.find? key := by
  rw [run_remove_eq]
  constructor
  · intro key
    rw [Memory.withoutSecret_others]
    simp only [Memory.configMaps_withoutConfigMap, Table.find?_erase]
    split
    · rename_i second
      rw [if_pos (.inr second)]
    · rename_i notSecond
      simp only [notSecond, or_false]
  · intro key
    rw [Memory.secrets_withoutSecret, Table.find?_erase, Memory.withoutConfigMap_others,
      Memory.withoutConfigMap_others memory]

theorem run_remove_of_absent (absent : AbsentFrom id space memory) :
    (remove id space).run Memory.handle memory = (.ok (), memory) := by
  rw [run_remove_eq, Memory.withoutConfigMap_of_absent absent.agentValues,
    Memory.withoutConfigMap_of_absent absent.clusterValues,
    Memory.withoutSecret_of_absent absent.clusterSecrets]

end Artifacts

namespace ClusterSpace

/-- The namespace of a cluster is not there, or it is none of this operator's. -/
def AbsentFrom (id : String) (memory : Memory) : Prop :=
  ∀ space, memory.namespaces.find? id = some space → isManaged space.metadata.labelTable = false

theorem run_remove_of_absent (absent : AbsentFrom id memory) :
    (remove id).run Memory.handle memory = (.ok (), memory) := by
  cases found : memory.namespaces.find? id with
  | none =>
      have answer : memory.handle (.getNamespace id) =
          (.error (Memory.missing "Namespace" "" id), memory) := by
        rw [Memory.handle, found]
        rfl
      exact Dialogue.run_ask_of_answer (I := Store) answer _
  | some space =>
      have answer : memory.handle (.getNamespace id) = (.ok space, memory) := by
        rw [Memory.handle, found]
        rfl
      rw [remove, Dialogue.run_ask_of_answer (I := Store) answer]
      simp only [absent space found, Bool.false_eq_true, if_false]
      rfl

/-- A namespace that this operator manages is taken away, and no other. -/
theorem run_remove_of_managed {space : Namespace} (found : memory.namespaces.find? id = some space)
    (managed : isManaged space.metadata.labelTable = true) :
    ∃ after, (remove id).run Memory.handle memory = (.ok (), after) ∧
      after.namespaces = memory.namespaces.erase id ∧
      after = { memory with namespaces := after.namespaces, log := after.log } := by
  have answer : memory.handle (.getNamespace id) = (.ok space, memory) := by
    rw [Memory.handle, found]
    rfl
  have present : memory.namespaces.contains id = true := by
    rw [Table.contains, found]
    rfl
  have deleted : memory.handle (.deleteNamespace id) = (.ok (), (memory.deleteNamespace id).2) := by
    simp only [Memory.handle, Memory.deleteNamespace, if_pos present]
  refine ⟨(memory.deleteNamespace id).2, ?_, ?_, ?_⟩
  · rw [remove, Dialogue.run_ask_of_answer (I := Store) answer]
    simp only [managed, if_true]
    exact Dialogue.run_tolerate_of_ok (I := Store) deleted Failure.isNotFound ()
  · simp only [Memory.deleteNamespace, if_pos present, Memory.record]
  · simp only [Memory.deleteNamespace, if_pos present, Memory.record]

/-- The removal of a namespace succeeds and changes namespaces only. -/
theorem run_remove (id : String) (memory : Memory) :
    ∃ after, (remove id).run Memory.handle memory = (.ok (), after) ∧ AbsentFrom id after ∧
      after = { memory with namespaces := after.namespaces, log := after.log } := by
  by_cases absent : AbsentFrom id memory
  · exact ⟨memory, run_remove_of_absent absent, absent, rfl⟩
  · obtain ⟨space, found, managed⟩ : ∃ space, memory.namespaces.find? id = some space ∧
        isManaged space.metadata.labelTable = true := by
      simpa [AbsentFrom] using absent
    obtain ⟨after, removed, erased, others⟩ := run_remove_of_managed found managed
    refine ⟨after, removed, ?_, others⟩
    intro other foundOther
    rw [erased, Table.find?_erase, if_pos rfl] at foundOther
    cases foundOther

end ClusterSpace

/-- Is the App labelled as that of a platform agent? -/
def App.isAgent (app : App) : Bool := app.labels.find? Label.appName == some platformAgent

/-- The Apps that a sweep looks at, in the order of a listing. -/
def Memory.sweptApps (memory : Memory) (space id : String) : List App :=
  (memory.appsOf space id).filter fun app => !app.isAgent

theorem Memory.listApps_sweep (memory : Memory) (space id : String) :
    memory.listApps space ⟨[.equals Label.cluster id, .differs Label.appName platformAgent]⟩ =
      memory.sweptApps space id := by
  apply Memory.listApps_eq_filter_appsOf
  intro app
  simp only [Selector.isMatch, Requirement.holds, List.all_cons, List.all_nil, Bool.and_true,
    App.isOf, App.isAgent, bne]

/-- A sweep goes through the Apps that it looks at. -/
theorem run_sweep_eq (id space : String) (memory : Memory) :
    (sweep id space).run Memory.handle memory =
      (sweepEach space (memory.sweptApps space id) {}).run Memory.handle memory := by
  simp only [sweep, Store.listApps, Dialogue.bind_eq, Dialogue.bind, Dialogue.run, Memory.handle,
    Memory.listApps_sweep]

/-- Where a cluster has no App there is nothing to sweep. -/
theorem run_sweep_of_none (none : memory.appsOf space id = []) :
    (sweep id space).run Memory.handle memory = (.ok {}, memory) := by
  rw [run_sweep_eq, Memory.sweptApps, none]
  rfl

/-- A sweep concerns Apps only. -/
theorem asks_sweep (id space : String) :
    (sweep id space).Asks fun call : StoreCall => call.writesProvisions = false := by
  have each (apps : List App) (known : SweepOutcome) : (sweepEach space apps known).Asks
      fun call : StoreCall => call.writesProvisions = false := by
    induction apps generalizing known with
    | nil => trivial
    | cons app rest ih =>
        rw [sweepEach]
        split
        · have releases : (Dialogue.tolerate (I := Store)
              (StoreCall.removeAppFinalizer space app.name agentFinalizer)
              Failure.isNotFound false).Asks
              fun call : StoreCall => call.writesProvisions = false := by
            apply Dialogue.Asks.tolerate
            rfl
          exact releases.bind fun _ => ih _
        · exact ih _
  exact Dialogue.Asks.bind ⟨rfl, fun _ => trivial⟩ fun apps => each apps {}

end PlatformApps
