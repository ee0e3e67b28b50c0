/-
# Making artifacts again

The artifacts of a cluster are made of what is read and are then written. Made again from the
store in which they have been written they are the same, and writing them changes nothing.
Only where the credentials of a provider are read from the very secret that has been written
does making them fail, and then nothing is written.
-/

import PlatformApps.Proofs.Artifacts
import PlatformApps.Proofs.Store.Writes
import PlatformApps.Proofs.Table

namespace PlatformApps

/-- The store in which the artifacts of a cluster have been written, with a note of each. -/
def Memory.withArtifacts (store : Memory) (id space : String) (artifacts : Artifacts) : Memory :=
  { store with
    configMaps := (store.configMaps.insert (space, agentValuesName id)
      artifacts.agentValues).insert (space, clusterValuesName id) artifacts.clusterValues
    secrets := store.secrets.insert (space, clusterValuesName id) artifacts.clusterSecrets
    log := store.log ++ [
      "apply_config_map " ++ (space ++ "/" ++ agentValuesName id),
      "apply_config_map " ++ (space ++ "/" ++ clusterValuesName id),
      "apply_secret " ++ (space ++ "/" ++ clusterValuesName id)] }

namespace Artifacts

/-! Reading from a store in which the artifacts have been written. -/

section Again

variable {α β : Type} {id space : String} {before after : Memory}

/-- Reading comes to the same in two stores, or it fails in the later one. -/
def Echoes (before after : Memory) (dialogue : Dialogue Store α) : Prop :=
  ∃ outcome again, dialogue.run Memory.handle before = (outcome, before) ∧
    dialogue.run Memory.handle after = (again, after) ∧
    (again = outcome ∨ ∃ failure, again = .error failure)

namespace Echoes

theorem done (outcome : Outcome α) : Echoes before after (.done outcome) :=
  ⟨outcome, outcome, rfl, rfl, .inl rfl⟩

theorem bind {first : Dialogue Store α} {next : α → Dialogue Store β}
    (echoes : Echoes before after first) (follows : ∀ value, Echoes before after (next value)) :
    Echoes before after (first.bind next) := by
  obtain ⟨outcome, again, early, late, rfl | ⟨failure, rfl⟩⟩ := echoes
  · cases again with
    | error failure =>
        refine ⟨.error failure, .error failure, ?_, ?_, .inl rfl⟩
        · rw [Dialogue.run_bind, early]
        · rw [Dialogue.run_bind, late]
    | ok value =>
        obtain ⟨outcome, again, goesOn, alsoGoesOn, same⟩ := follows value
        exact ⟨outcome, again, (Dialogue.run_bind_of_ok early next).trans goesOn,
          (Dialogue.run_bind_of_ok late next).trans alsoGoesOn, same⟩
  · have fails : (first.bind next).run Memory.handle after = (.error failure, after) := by
      rw [Dialogue.run_bind, late]
    cases outcome with
    | error other =>
        refine ⟨.error other, .error failure, ?_, fails, .inr ⟨failure, rfl⟩⟩
        rw [Dialogue.run_bind, early]
    | ok value =>
        obtain ⟨outcome, _, goesOn, _⟩ := follows value
        exact ⟨outcome, .error failure, (Dialogue.run_bind_of_ok early next).trans goesOn, fails,
          .inr ⟨failure, rfl⟩⟩

/-- What is read is the same. -/
theorem ask {call : StoreCall} (reads : call.isReading = true)
    (same : (after.handle call).1 = (before.handle call).1)
    {next : Outcome call.Reply → Dialogue Store α}
    (follows : ∀ outcome, Echoes before after (next outcome)) :
    Echoes before after (.ask call next) := by
  have early : before.handle call = ((before.handle call).1, before) :=
    Prod.ext rfl (before.handle_of_isReading reads)
  have late : after.handle call = ((before.handle call).1, after) :=
    Prod.ext same (after.handle_of_isReading reads)
  obtain ⟨outcome, again, goesOn, alsoGoesOn, same⟩ := follows (before.handle call).1
  exact ⟨outcome, again, (Dialogue.run_ask_of_answer (I := Store) early next).trans goesOn,
    (Dialogue.run_ask_of_answer (I := Store) late next).trans alsoGoesOn, same⟩

end Echoes

/-- Of the secrets of a store, only that of the artifacts may have been written since. -/
def Overwritten (id space : String) (before after : Memory) : Prop :=
  ∀ key, after.secrets.find? key = before.secrets.find? key ∨
    key = (space, clusterValuesName id) ∧ ∃ text,
      after.secrets.find? key = some (secret (clusterValuesName id) space id text)

theorem handle_getSecretData_of_eq {place name : String}
    (same : after.secrets.find? (place, name) = before.secrets.find? (place, name)) :
    (after.handle (.getSecretData place name)).1 =
      (before.handle (.getSecretData place name)).1 := by
  simp only [Memory.handle, same]

theorem clusterCaName_ne (id : String) : clusterCaName id ≠ clusterValuesName id :=
  fun same => absurd ((String.append_right_inj id).mp same) (by decide)

theorem echoes_certificateAuthority (overwritten : Overwritten id space before after) :
    Echoes before after (certificateAuthority id space) := by
  have same : after.secrets.find? (space, clusterCaName id) =
      before.secrets.find? (space, clusterCaName id) := by
    rcases overwritten (space, clusterCaName id) with same | ⟨own, _⟩
    · exact same
    · exact absurd (Prod.mk.inj own).2 (clusterCaName_ne id)
  refine Echoes.bind ?_ fun _ => .done _
  refine Echoes.ask rfl (handle_getSecretData_of_eq same) fun outcome => ?_
  cases outcome with
  | ok data => exact .done _
  | error failure => cases harmless : failure.isNotFound <;> simp only [harmless] <;> exact .done _

theorem echoes_ofOutcome (outcome : Outcome α) {next : α → Dialogue Store β}
    (follows : ∀ value, Echoes before after (next value)) :
    Echoes before after ((Dialogue.ofOutcome outcome).bind next) :=
  (Echoes.done outcome).bind follows

/-- The artifacts hold no credentials: where they have been written over those, reading these
fails. -/
theorem echoes_requiredKey (overwritten : Overwritten id space before after)
    {place name key : String} (notValues : key ≠ valuesKey)
    {next : List UInt8 → Dialogue Store α} (follows : ∀ bytes, Echoes before after (next bytes)) :
    Echoes before after ((Store.getSecretData place name).bind fun data =>
      (Dialogue.ofOutcome (requiredKey data name key)).bind next) := by
  rcases overwritten (place, name) with same | ⟨_, text, found⟩
  · refine Echoes.ask rfl (handle_getSecretData_of_eq same) fun outcome => ?_
    cases outcome with
    | error failure => exact .done _
    | ok data => exact echoes_ofOutcome (requiredKey data name key) follows
  · have reads (store : Memory) : (Store.getSecretData place name).run Memory.handle store =
        ((store.handle (.getSecretData place name)).1, store) := rfl
    have own : (after.handle (.getSecretData place name)).1 =
        .ok (.ofList [(valuesKey, Text.Utf8.encode text)]) := by
      rw [Memory.handle, found]
      rfl
    have missed : requiredKey (.ofList [(valuesKey, Text.Utf8.encode text)]) name key =
        .error (.validation (.secretWithoutKey name key)) := by
      rw [requiredKey, Table.ofList, List.foldl_cons, List.foldl_nil, Table.find?_insert,
        if_neg notValues, Table.find?_empty]
    have late : ((Store.getSecretData place name).bind fun data =>
        (Dialogue.ofOutcome (requiredKey data name key)).bind next).run Memory.handle after =
          (.error (.validation (.secretWithoutKey name key)), after) := by
      rw [Dialogue.run_bind, reads, own]
      simp only [missed, Dialogue.ofOutcome, Dialogue.bind_done_error, Dialogue.run_done]
    cases answer : (before.handle (.getSecretData place name)).1 with
    | error failure =>
        refine ⟨.error failure, _, ?_, late, .inr ⟨_, rfl⟩⟩
        rw [Dialogue.run_bind, reads, answer]
    | ok data =>
        obtain ⟨outcome, _, early, _⟩ := echoes_ofOutcome (requiredKey data name key) follows
        refine ⟨outcome, _, ?_, late, .inr ⟨_, rfl⟩⟩
        rw [Dialogue.run_bind, reads, answer]
        exact early

theorem echoes_credentials {cluster : Cluster} (facts : ProviderFacts)
    (overwritten : Overwritten id space before after) :
    Echoes before after (credentials cluster facts) := by
  rw [credentials]
  split
  · split
    · exact .done _
    · refine echoes_ofOutcome _ fun identity => ?_
      refine echoes_requiredKey overwritten (by decide) fun file => ?_
      exact echoes_ofOutcome _ fun values => .done _
  · refine echoes_ofOutcome _ fun name => ?_
    exact echoes_requiredKey overwritten (by decide) fun token => .done _
  · exact .done _

theorem echoes_gather (settings : Settings) (cluster : Cluster) (podCidr : String)
    (facts : ProviderFacts) (nameServiceIp : String)
    (overwritten : Overwritten cluster.id cluster.space before after) :
    Echoes before after (gather settings cluster podCidr facts nameServiceIp) := by
  refine (echoes_certificateAuthority overwritten).bind fun authority => ?_
  refine Echoes.bind ?_ fun secrets => .done _
  exact (echoes_credentials facts overwritten).bind fun known => .done _

end Again

/-! Writing the artifacts. -/

section Write

variable {id space : String} {artifacts : Artifacts} {store : Memory}

/-- Are these artifacts of a cluster? -/
def AreOf (artifacts : Artifacts) (id space : String) : Prop :=
  ∃ agent cluster secrets, artifacts = make id space agent cluster secrets

theorem areOf_of_gather {settings : Settings} {cluster : Cluster} {podCidr : String}
    {facts : ProviderFacts} {nameServiceIp : String} {after : Memory}
    (gathers : (gather settings cluster podCidr facts nameServiceIp).run Memory.handle store =
      (.ok artifacts, after)) : artifacts.AreOf cluster.id cluster.space := by
  obtain ⟨authority, _, _, gathers⟩ := Dialogue.run_bind_eq_ok_iff.mp gathers
  obtain ⟨secrets, _, _, gathers⟩ := Dialogue.run_bind_eq_ok_iff.mp gathers
  cases gathers
  exact ⟨_, _, _, rfl⟩

/-- A store holds the artifacts of a cluster as they are. -/
structure HeldBy (artifacts : Artifacts) (id space : String) (store : Memory) : Prop where
  agentValues :
    store.configMaps.find? (space, agentValuesName id) = some artifacts.agentValues
  clusterValues :
    store.configMaps.find? (space, clusterValuesName id) = some artifacts.clusterValues
  clusterSecrets :
    store.secrets.find? (space, clusterValuesName id) = some artifacts.clusterSecrets

theorem HeldBy.of_eq (held : artifacts.HeldBy id space store) {left : Memory}
    (configMaps : left.configMaps = store.configMaps) (secrets : left.secrets = store.secrets) :
    artifacts.HeldBy id space left where
  agentValues := configMaps ▸ held.agentValues
  clusterValues := configMaps ▸ held.clusterValues
  clusterSecrets := secrets ▸ held.clusterSecrets

theorem agentValuesName_ne (id : String) : agentValuesName id ≠ clusterValuesName id :=
  fun same => absurd ((String.append_right_inj id).mp same) (by decide)

/-- Writing artifacts leaves them in the store, and a note of each. -/
theorem run_write (areOf : artifacts.AreOf id space) (store : Memory) :
    (write artifacts).run Memory.handle store =
      (.ok (), store.withArtifacts id space artifacts) := by
  obtain ⟨agent, cluster, secrets, rfl⟩ := areOf
  have log (first second third : String) :
      store.log ++ [first, second, third] = store.log ++ [first] ++ [second] ++ [third] := by
    simp
  rw [Memory.withArtifacts, log]
  rfl

/-- What has been written is there. -/
theorem heldBy_withArtifacts (artifacts : Artifacts) (id space : String) (store : Memory) :
    artifacts.HeldBy id space (store.withArtifacts id space artifacts) := by
  have different : (space, agentValuesName id) ≠ (space, clusterValuesName id) :=
    fun same => agentValuesName_ne id (Prod.mk.inj same).2
  constructor
  · simp [Memory.withArtifacts, Table.find?_insert, different]
  · simp [Memory.withArtifacts, Table.find?_insert]
  · simp [Memory.withArtifacts, Table.find?_insert]

theorem heldBy_of_write (areOf : artifacts.AreOf id space) {after : Memory}
    (writes : (write artifacts).run Memory.handle store = (.ok (), after)) :
    artifacts.HeldBy id space after := by
  cases writes.symm.trans (run_write areOf store)
  exact heldBy_withArtifacts artifacts id space store

/-- The only secret that is written is that of the artifacts. -/
theorem overwritten_withArtifacts (areOf : artifacts.AreOf id space) (store : Memory) :
    Overwritten id space store (store.withArtifacts id space artifacts) := by
  obtain ⟨agent, cluster, document, rfl⟩ := areOf
  intro key
  rw [Memory.withArtifacts, Table.find?_insert]
  split
  · rename_i same
    exact .inr ⟨same, _, rfl⟩
  · exact .inl rfl

/-- Artifacts that are there are only noted again. -/
theorem content_withArtifacts (held : artifacts.HeldBy id space store) :
    (store.withArtifacts id space artifacts).content = store.content := by
  rw [Memory.withArtifacts, Table.insert_of_present held.agentValues,
    Table.insert_of_present held.clusterValues, Table.insert_of_present held.clusterSecrets]
  rfl

/-- Artifacts that are made again from where they have been written are only noted again, or
they cannot be made. -/
theorem run_gather_write (settings : Settings) (cluster : Cluster) (podCidr : String)
    (facts : ProviderFacts) (nameServiceIp : String) (store : Memory) :
    let remake := (gather settings cluster podCidr facts nameServiceIp).bind write
    ∃ outcome after, remake.run Memory.handle store = (outcome, after) ∧
      after.apps = store.apps ∧
      ∀ left : Memory, left.withoutApps = after.withoutApps →
        ∃ again settled, remake.run Memory.handle left = (again, settled) ∧
          settled.content = left.content ∧
          (again = outcome ∨ ∃ failure, again = .error failure) := by
  intro remake
  have rereads {left : Memory} (overwritten : Overwritten cluster.id cluster.space store left) :=
    echoes_gather settings cluster podCidr facts nameServiceIp overwritten
  obtain ⟨outcome, _, gathers, _⟩ := rereads fun _ => .inl rfl
  cases outcome with
  | error failure =>
      refine ⟨.error failure, store, ?_, rfl, fun left same => ?_⟩
      · rw [Dialogue.run_bind, gathers]
      · have kept : Overwritten cluster.id cluster.space store left :=
          fun key => .inl (congrArg (·.secrets.find? key) same)
        obtain ⟨_, again, alsoGathers, regathers, ends⟩ := rereads kept
        cases gathers.symm.trans alsoGathers
        obtain ⟨other, rfl⟩ : ∃ other, again = .error other := ends.elim (⟨failure, ·⟩) id
        refine ⟨.error other, left, ?_, rfl, .inr ⟨other, rfl⟩⟩
        rw [Dialogue.run_bind, regathers]
  | ok artifacts =>
      have areOf := areOf_of_gather gathers
      refine ⟨.ok (), store.withArtifacts cluster.id cluster.space artifacts,
        (Dialogue.run_bind_of_ok gathers write).trans (run_write areOf store), rfl,
        fun left same => ?_⟩
      have sameSecrets : left.secrets =
          (store.withArtifacts cluster.id cluster.space artifacts).secrets :=
        congrArg (·.secrets) same
      have overwritten : Overwritten cluster.id cluster.space store left := by
        rw [Overwritten, sameSecrets]
        exact overwritten_withArtifacts areOf store
      obtain ⟨_, again, alsoGathers, regathers, rfl | ⟨other, rfl⟩⟩ := rereads overwritten
      · cases gathers.symm.trans alsoGathers
        have held : artifacts.HeldBy cluster.id cluster.space left :=
          (heldBy_withArtifacts ..).of_eq (congrArg (·.configMaps) same) sameSecrets
        exact ⟨.ok (), _, (Dialogue.run_bind_of_ok regathers write).trans (run_write areOf left),
          content_withArtifacts held, .inl rfl⟩
      · refine ⟨.error other, left, ?_, rfl, .inr ⟨other, rfl⟩⟩
        rw [Dialogue.run_bind, regathers]

end Write

end Artifacts

end PlatformApps
