/-
# Artifacts are written all together or not at all

The artifacts of a cluster are made before any of them is written, and making them only reads.
So either all three are written and nothing else changes, or nothing changes at all. Three things
are looked up first, and only a first failure among these that says that something does not exist
makes the pass wait.
-/

import PlatformApps.Proofs.Artifacts.Remake
import PlatformApps.Proofs.Surroundings

namespace PlatformApps

/-- Another store has the same objects and, but for the one that is among the artifacts, the
same secrets. -/
structure Memory.SharesSources (store : Memory) (id space : String) (other : Memory) : Prop where
  objects : other.objects = store.objects
  secrets : ∀ key, key ≠ (space, clusterValuesName id) →
    other.secrets.find? key = store.secrets.find? key

/-- What only reads leaves the store as it is, and comes to the same in another store that
answers alike. -/
theorem Memory.run_of_reads {α : Type} {allowed : StoreCall → Prop} {dialogue : Dialogue Store α}
    (asks : dialogue.Asks allowed) (reads : ∀ call, allowed call → call.isReading = true)
    {store other : Memory}
    (alike : ∀ call, allowed call → (other.handle call).1 = (store.handle call).1) :
    ∃ outcome, dialogue.run Memory.handle store = (outcome, store) ∧
      dialogue.run Memory.handle other = (outcome, other) := by
  have step : ∀ call, allowed call → ∀ one another, one = store ∧ another = other →
      (another.handle call).1 = (one.handle call).1 ∧
        (one.handle call).2 = store ∧ (another.handle call).2 = other := by
    rintro call permitted _ _ ⟨rfl, rfl⟩
    exact ⟨alike call permitted, Memory.handle_of_isReading _ (reads call permitted),
      Memory.handle_of_isReading _ (reads call permitted)⟩
  obtain ⟨same, kept, alsoKept⟩ :=
    asks.run_related (fun one another => one = store ∧ another = other) step ⟨rfl, rfl⟩
  exact ⟨_, Prod.ext rfl kept, Prod.ext same alsoKept⟩

namespace Artifacts

variable {α β σ : Type}

/-! Waiting for what is looked up. -/

/-- What becomes of a look-up whose failure may be a reason to wait. -/
inductive Awaited : Outcome α → Outcome (Except String α) → Prop where
  | found (value : α) : Awaited (.ok value) (.ok (.ok value))
  | missing {failure : Failure} (absent : failure.isNotFound = true) (reason : String) :
      Awaited (.error failure) (.ok (.error reason))
  | failed {failure : Failure} (serious : failure.isNotFound = false) :
      Awaited (.error failure) (.error failure)

/-- A dialogue looks something up, which comes to this. -/
def Seeks (handler : Operator.Handler σ) (dialogue : Dialogue Operator (Except String α))
    (state after : σ) (found : Outcome α) : Prop :=
  ∃ outcome, dialogue.run handler state = (outcome, after) ∧ Awaited found outcome

section Seeks

variable {handler : Operator.Handler σ} {state after : σ} {found : Outcome α}

theorem seeks_done (value : α) (state : σ) :
    Seeks handler (.done (.ok (.ok value))) state state (.ok value) :=
  ⟨_, rfl, .found value⟩

theorem seeks_await {input : Dialogue Operator α}
    (played : input.run handler state = (found, after)) (what : String) :
    Seeks handler (await what input) state after found := by
  have attempts := Dialogue.run_attempt_eq_ok_iff.mpr played
  rw [Seeks, await, Dialogue.run_bind_of_ok attempts]
  cases found with
  | ok value => exact ⟨_, rfl, .found value⟩
  | error failure =>
      cases absent : failure.isNotFound with
      | true => simpa [absent] using .missing absent _
      | false => simpa [absent, Dialogue.fail] using .failed absent

/-- The first look-up that fails decides. -/
theorem Seeks.bind {first : Dialogue Operator (Except String α)}
    {next : Except String α → Dialogue Operator (Except String β)} {further : α → Outcome β}
    (seeks : Seeks handler first state after found)
    (waits : ∀ reason, next (.error reason) = .done (.ok (.error reason)))
    (follows : ∀ value, Seeks handler (next (.ok value)) after after (further value)) :
    Seeks handler (first.bind next) state after (found.bind further) := by
  obtain ⟨outcome, played, awaited⟩ := seeks
  rw [Seeks, Dialogue.run_bind, played]
  cases awaited with
  | found value => exact follows value
  | missing absent reason =>
      simp only [waits, Dialogue.run_done]
      exact ⟨_, rfl, .missing absent reason⟩
  | failed serious => exact ⟨_, rfl, .failed serious⟩

end Seeks

/-- What the in-memory store is asked within a pass leaves its surroundings alone. -/
theorem run_calls_of_run (surroundings : Surroundings σ) {dialogue : Dialogue Store α}
    {store left : Memory} {outcome : Outcome α}
    (played : dialogue.run Memory.handle store = (outcome, left)) (state : σ) :
    (Operator.calls dialogue).run surroundings.handle (state, store) =
      (outcome, (state, left)) := by
  rw [Operator.run_calls, Surroundings.run_stored, played]

/-! What is looked up. -/

section Lookups

variable (surroundings : Surroundings σ) (settings : Settings) (cluster : Cluster) (state : σ)
  (store : Memory)

/-- The pod addresses, the facts of the provider and the address of the name service, looked up
in this order. -/
def lookups : Outcome (String × ProviderFacts × String) :=
  (surroundings.podCidr cluster state).1.bind fun podCidr =>
    ((ProviderFacts.resolve cluster).run Memory.handle store).1.bind fun facts =>
      ((nameServiceIp settings cluster).run Memory.handle store).1.bind fun nameService =>
        .ok (podCidr, facts, nameService)

/-- Calls that read an object. -/
def ReadsObject (call : StoreCall) : Prop :=
  ∃ apiVersion kind space name, call = .getObject apiVersion kind space name

theorem isReading_of_readsObject {call : StoreCall} (reads : ReadsObject call) :
    call.isReading = true := by
  obtain ⟨_, _, _, _, rfl⟩ := reads
  rfl

variable {cluster store}

theorem run_readsObject {dialogue : Dialogue Store α} (asks : dialogue.Asks ReadsObject)
    {other : Memory} (objects : other.objects = store.objects) :
    ∃ outcome, dialogue.run Memory.handle store = (outcome, store) ∧
      dialogue.run Memory.handle other = (outcome, other) := by
  apply Memory.run_of_reads asks fun _ => isReading_of_readsObject
  rintro _ ⟨_, _, _, _, rfl⟩
  simp only [Memory.handle, objects]

theorem asks_objects_resolve (cluster : Cluster) :
    (ProviderFacts.resolve cluster).Asks ReadsObject :=
  ProviderFacts.asks_resolve (fun _ _ _ _ => ⟨_, _, _, _, rfl⟩) cluster

theorem asks_objects_nameServiceIp (settings : Settings) (cluster : Cluster) :
    (nameServiceIp settings cluster).Asks ReadsObject :=
  asks_nameServiceIp (fun _ _ _ _ => ⟨_, _, _, _, rfl⟩) settings cluster

/-- Stores with the same objects are looked into with the same result. -/
theorem lookups_of_objects {other : Memory} (objects : other.objects = store.objects) :
    lookups surroundings settings cluster state other =
      lookups surroundings settings cluster state store := by
  obtain ⟨_, facts, alsoFacts⟩ := run_readsObject (asks_objects_resolve cluster) objects
  obtain ⟨_, address, alsoAddress⟩ :=
    run_readsObject (asks_objects_nameServiceIp settings cluster) objects
  rw [lookups, lookups, facts, alsoFacts, address, alsoAddress]

/-- The survey for the artifacts comes to what is looked up, and it leaves the store alone. -/
theorem seeks_survey (cluster : Cluster) (store : Memory) :
    Seeks surroundings.handle (survey settings cluster) (state, store)
      ((surroundings.podCidr cluster state).2, store)
      (lookups surroundings settings cluster state store) := by
  obtain ⟨_, facts, _⟩ := run_readsObject (asks_objects_resolve cluster) (rfl : store.objects = _)
  obtain ⟨_, address, _⟩ :=
    run_readsObject (asks_objects_nameServiceIp settings cluster) (rfl : store.objects = _)
  have addresses : Seeks surroundings.handle (await "pod CIDR" (Operator.podCidr cluster))
      (state, store) ((surroundings.podCidr cluster state).2, store)
      (surroundings.podCidr cluster state).1 :=
    seeks_await rfl _
  rw [lookups, facts, address]
  apply addresses.bind fun _ => rfl
  intro podCidr
  apply (seeks_await (run_calls_of_run surroundings facts _) _).bind fun _ => rfl
  intro facts
  apply (seeks_await (run_calls_of_run surroundings address _) _).bind fun _ => rfl
  intro nameService
  exact seeks_done _ _

end Lookups

/-! What is read of secrets. -/

/-- A secret that is named, if it is. -/
def namedSecret (space name : String) : Option ObjectKey :=
  if name = "" then none else some (space, name)

/-- The secret with the credentials of the provider, where one is to be read. -/
def credentialsAt (cluster : Cluster) (facts : ProviderFacts) : Option ObjectKey :=
  match facts.provider, facts.object with
  | .openStack, some object =>
    if Provider.textAt object ["spec", "identityRef", "kind"] ≠ "Secret" then none
    else namedSecret cluster.space (Provider.textAt object ["spec", "identityRef", "name"])
  | .cloudDirector, some object =>
    let stated := Provider.textAt object ["spec", "userContext", "secretRef", "namespace"]
    namedSecret (if stated = "" then cluster.space else stated)
      (Provider.textAt object ["spec", "userContext", "secretRef", "name"])
  | _, _ => none

/-- Reading one secret and asking nothing more, or asking nothing at all. -/
inductive ReadsOne : Dialogue Store α → Option ObjectKey → Prop where
  | nothing {dialogue : Dialogue Store α} (asks : dialogue.Asks fun _ => False) :
      ReadsOne dialogue none
  | secret {space name : String} {next : SecretData → Dialogue Store α}
      (last : ∀ data, (next data).Asks fun _ => False) :
      ReadsOne ((Store.getSecretData space name).bind next) (some (space, name))

/-- A secret whose name an object has to state. -/
theorem readsOne_requiredText {space what : String} {object : Json} {path : List String}
    {next : String → SecretData → Dialogue Store α}
    (last : ∀ name data, (next name data).Asks fun _ => False) :
    ReadsOne ((Dialogue.ofOutcome (requiredText object path what)).bind fun name =>
      (Store.getSecretData space name).bind (next name))
      (namedSecret space (Provider.textAt object path)) := by
  simp only [requiredText, namedSecret]
  split
  · exact .nothing trivial
  · exact .secret (last _)

/-- The credentials of the provider are read from one secret, or from none at all. -/
theorem readsOne_credentials (cluster : Cluster) (facts : ProviderFacts) :
    ReadsOne (credentials cluster facts) (credentialsAt cluster facts) := by
  rw [credentials]
  split
  · rename_i object provider found
    rw [credentialsAt, provider, found]
    dsimp only
    split
    · exact .nothing trivial
    · apply readsOne_requiredText
      intro name data
      refine Dialogue.Asks.bind trivial fun file => ?_
      exact Dialogue.Asks.bind trivial fun values => trivial
  · rename_i object provider found
    rw [credentialsAt, provider, found]
    apply readsOne_requiredText
    intro name data
    exact Dialogue.Asks.bind trivial fun token => trivial
  · rename_i notOpenStack notCloudDirector
    rw [credentialsAt]
    split
    · exact absurd ‹_› (notOpenStack _ ‹_›)
    · exact absurd ‹_› (notCloudDirector _ ‹_›)
    · exact .nothing trivial

/-- Calls that read a permitted secret. -/
def ReadsSecret (permitted : ObjectKey → Prop) (call : StoreCall) : Prop :=
  ∃ space name, permitted (space, name) ∧ call = .getSecretData space name

theorem isReading_of_readsSecret {permitted : ObjectKey → Prop} {call : StoreCall}
    (reads : ReadsSecret permitted call) : call.isReading = true := by
  obtain ⟨_, _, _, rfl⟩ := reads
  rfl

theorem ReadsOne.asks {dialogue : Dialogue Store α} {place : Option ObjectKey}
    (reads : ReadsOne dialogue place) : dialogue.Asks (ReadsSecret (place = some ·)) := by
  cases reads with
  | nothing asks => exact asks.mono fun _ never => never.elim
  | secret last =>
      apply Dialogue.Asks.bind
      · exact ⟨⟨_, _, rfl, rfl⟩, fun _ => trivial⟩
      · intro data
        exact (last data).mono fun _ never => never.elim

theorem ReadsOne.run_of_missing {dialogue : Dialogue Store α} {space name : String}
    (reads : ReadsOne dialogue (some (space, name))) {store : Memory}
    (missing : store.secrets.find? (space, name) = none) :
    dialogue.run Memory.handle store = (.error (Memory.missing "Secret" space name), store) := by
  cases reads with
  | secret last =>
      rw [Dialogue.run_bind]
      simp only [Store.getSecretData, Dialogue.run, Memory.handle, missing]
      rfl

/-- Artifacts are made from the certificate of the authority and from the credentials. -/
theorem asks_gather (settings : Settings) (cluster : Cluster) (podCidr : String)
    (facts : ProviderFacts) (nameService : String) :
    (gather settings cluster podCidr facts nameService).Asks (ReadsSecret fun key =>
      key = (cluster.space, clusterCaName cluster.id) ∨
        credentialsAt cluster facts = some key) := by
  apply Dialogue.Asks.bind
  · apply Dialogue.Asks.bind
    · exact Dialogue.Asks.tolerate ⟨_, _, .inl rfl, rfl⟩ _ _
    · intro data
      trivial
  · intro authority
    apply Dialogue.Asks.bind
    · apply Dialogue.Asks.bind
      · apply (readsOne_credentials cluster facts).asks.mono
        rintro _ ⟨space, name, place, rfl⟩
        exact ⟨space, name, .inr place, rfl⟩
      · intro known
        trivial
    · intro secrets
      trivial

section Gather

variable {settings : Settings} {cluster : Cluster} {podCidr nameService : String}
  {facts : ProviderFacts}

/-- Making artifacts leaves the store alone. -/
theorem run_gather (settings : Settings) (cluster : Cluster) (podCidr : String)
    (facts : ProviderFacts) (nameService : String) (store : Memory) :
    (gather settings cluster podCidr facts nameService).run Memory.handle store =
      (((gather settings cluster podCidr facts nameService).run Memory.handle store).1, store) := by
  have kept := (asks_gather settings cluster podCidr facts nameService).run_keeps id
    (fun _ reads left => left.handle_of_isReading (isReading_of_readsSecret reads)) store
  exact Prod.ext rfl kept

/-- Making artifacts comes to the same in a store that shares what is read for it. -/
theorem run_gather_of_sharesSources {store other : Memory}
    (apart : credentialsAt cluster facts ≠ some (cluster.space, clusterValuesName cluster.id))
    (shares : store.SharesSources cluster.id cluster.space other) :
    ((gather settings cluster podCidr facts nameService).run Memory.handle other).1 =
      ((gather settings cluster podCidr facts nameService).run Memory.handle store).1 := by
  have alike : ∀ call, ReadsSecret (fun key => key = (cluster.space, clusterCaName cluster.id) ∨
      credentialsAt cluster facts = some key) call →
        (other.handle call).1 = (store.handle call).1 := by
    rintro _ ⟨space, name, place, rfl⟩
    apply handle_getSecretData_of_eq
    apply shares.secrets
    intro own
    rw [own] at place
    rcases place with authority | credentials
    · exact clusterCaName_ne cluster.id (Prod.mk.inj authority).2.symm
    · exact apart credentials
  obtain ⟨_, early, late⟩ := Memory.run_of_reads
    (asks_gather settings cluster podCidr facts nameService) (fun _ => isReading_of_readsSecret)
    alike
  rw [early, late]

/-- A certificate that is missing is taken to be empty. -/
theorem run_certificateAuthority (id space : String) (store : Memory) :
    ∃ text, (certificateAuthority id space).run Memory.handle store = (.ok text, store) := by
  cases found : store.secrets.find? (space, clusterCaName id) with
  | none =>
      have answer : store.handle (.getSecretData space (clusterCaName id)) =
          (.error (Memory.missing "Secret" space (clusterCaName id)), store) := by
        rw [Memory.handle, found]
        rfl
      exact ⟨_, Dialogue.run_bind_of_ok
        (Dialogue.run_tolerate_of_harmless (I := Store) answer rfl _) _⟩
  | some secret =>
      have answer : store.handle (.getSecretData space (clusterCaName id)) =
          (.ok (secret.data.getD ∅), store) := by
        rw [Memory.handle, found]
        rfl
      exact ⟨_, Dialogue.run_bind_of_ok (Dialogue.run_tolerate_of_ok (I := Store) answer _ _) _⟩

/-- Where the secret with the credentials is missing, artifacts cannot be made. -/
theorem run_gather_of_missing {space name : String} {store : Memory}
    (place : credentialsAt cluster facts = some (space, name))
    (missing : store.secrets.find? (space, name) = none) :
    ((gather settings cluster podCidr facts nameService).run Memory.handle store).1 =
      .error (Memory.missing "Secret" space name) := by
  have reads := readsOne_credentials cluster facts
  rw [place] at reads
  obtain ⟨text, authority⟩ := run_certificateAuthority cluster.id cluster.space store
  rw [gather, Dialogue.run_bind_of_ok authority, secretValues]
  simp only [Dialogue.bind_eq, Dialogue.bind_assoc]
  rw [Dialogue.run_bind, reads.run_of_missing missing]

end Gather

/-! Making and writing. -/

section Ensure

variable (surroundings : Surroundings σ) (settings : Settings) (cluster : Cluster) (state : σ)
  (store : Memory)

/-- How a pass over the artifacts ends, and in which store. -/
inductive Ending : Outcome ArtifactsOutcome → Memory → Prop where
  | waits {failure : Failure}
      (looked : lookups surroundings settings cluster state store = .error failure)
      (absent : failure.isNotFound = true) (reason : String) :
      Ending (.ok (.suspended reason)) store
  | fails {failure : Failure}
      (looked : lookups surroundings settings cluster state store = .error failure)
      (serious : failure.isNotFound = false) : Ending (.error failure) store
  | unmade {podCidr nameService : String} {facts : ProviderFacts} {failure : Failure}
      (looked : lookups surroundings settings cluster state store =
        .ok (podCidr, facts, nameService))
      (made : ((gather settings cluster podCidr facts nameService).run Memory.handle store).1 =
        .error failure) : Ending (.error failure) store
  | applied {podCidr nameService : String} {facts : ProviderFacts} {artifacts : Artifacts}
      (looked : lookups surroundings settings cluster state store =
        .ok (podCidr, facts, nameService))
      (made : ((gather settings cluster podCidr facts nameService).run Memory.handle store).1 =
        .ok artifacts) :
      Ending (.ok .applied) (store.withArtifacts cluster.id cluster.space artifacts)

/-- What has been made is written at once. -/
theorem run_gather_write_of_made {podCidr nameService : String} {facts : ProviderFacts}
    {artifacts : Artifacts}
    (made : ((gather settings cluster podCidr facts nameService).run Memory.handle store).1 =
      .ok artifacts) :
    ((gather settings cluster podCidr facts nameService).bind write).run Memory.handle store =
      (.ok (), store.withArtifacts cluster.id cluster.space artifacts) := by
  have gathers := run_gather settings cluster podCidr facts nameService store
  rw [made] at gathers
  rw [Dialogue.run_bind_of_ok gathers, run_write (areOf_of_gather gathers)]

theorem run_ensure_of_made {podCidr nameService : String} {facts : ProviderFacts}
    {artifacts : Artifacts}
    (looked : lookups surroundings settings cluster state store =
      .ok (podCidr, facts, nameService))
    (made : ((gather settings cluster podCidr facts nameService).run Memory.handle store).1 =
      .ok artifacts) :
    (ensure settings cluster).run surroundings.handle (state, store) =
      (.ok .applied, ((surroundings.podCidr cluster state).2,
        store.withArtifacts cluster.id cluster.space artifacts)) := by
  obtain ⟨_, played, awaited⟩ := seeks_survey surroundings settings state cluster store
  rw [looked] at awaited
  cases awaited
  have writes := run_gather_write_of_made settings cluster store made
  rw [ensure_eq_bind, Dialogue.run_bind_of_ok played,
    Dialogue.run_bind_of_ok (run_calls_of_run surroundings writes _)]
  rfl

theorem ending_ensure :
    ∃ outcome left, (ensure settings cluster).run surroundings.handle (state, store) =
        (outcome, ((surroundings.podCidr cluster state).2, left)) ∧
      Ending surroundings settings cluster state store outcome left := by
  obtain ⟨surveyed, played, awaited⟩ := seeks_survey surroundings settings state cluster store
  cases looked : lookups surroundings settings cluster state store with
  | error failure =>
      rw [looked] at awaited
      rw [ensure_eq_bind, Dialogue.run_bind, played]
      cases awaited with
      | missing absent reason => exact ⟨_, _, rfl, .waits looked absent reason⟩
      | failed serious => exact ⟨_, _, rfl, .fails looked serious⟩
  | ok found =>
      obtain ⟨podCidr, facts, nameService⟩ := found
      have gathers := run_gather settings cluster podCidr facts nameService store
      cases made :
        ((gather settings cluster podCidr facts nameService).run Memory.handle store).1 with
      | ok artifacts =>
          exact ⟨_, _, run_ensure_of_made surroundings settings cluster state store looked made,
            .applied looked made⟩
      | error failure =>
          rw [looked] at awaited
          cases awaited
          rw [made] at gathers
          have fails : ((gather settings cluster podCidr facts nameService).bind write).run
              Memory.handle store = (.error failure, store) := by
            rw [Dialogue.run_bind, gathers]
          refine ⟨_, _, ?_, .unmade looked made⟩
          rw [ensure_eq_bind, Dialogue.run_bind_of_ok played, Dialogue.run_bind,
            run_calls_of_run surroundings fails]

namespace Ending

variable {surroundings settings cluster state store}
variable {outcome : Outcome ArtifactsOutcome} {left : Memory}

theorem left_eq (ending : Ending surroundings settings cluster state store outcome left)
    (notApplied : outcome ≠ .ok .applied) : left = store := by
  cases ending with
  | applied => exact absurd rfl notApplied
  | _ => rfl

theorem suspended_iff (ending : Ending surroundings settings cluster state store outcome left) :
    (∃ reason, outcome = .ok (.suspended reason)) ↔
      ∃ failure, lookups surroundings settings cluster state store = .error failure ∧
        failure.isNotFound = true := by
  cases ending with
  | waits looked absent reason => exact ⟨fun _ => ⟨_, looked, absent⟩, fun _ => ⟨reason, rfl⟩⟩
  | fails looked serious =>
      constructor
      · rintro ⟨_, ⟨⟩⟩
      · rintro ⟨failure, alsoLooked, absent⟩
        cases looked.symm.trans alsoLooked
        cases serious.symm.trans absent
  | unmade looked | applied looked =>
      constructor
      · rintro ⟨_, ⟨⟩⟩
      · rintro ⟨failure, alsoLooked, _⟩
        cases looked.symm.trans alsoLooked

theorem eq_error (ending : Ending surroundings settings cluster state store outcome left)
    {failure : Failure}
    (looked : lookups surroundings settings cluster state store = .error failure)
    (serious : failure.isNotFound = false) : outcome = .error failure := by
  cases ending with
  | waits alsoLooked absent =>
      cases looked.symm.trans alsoLooked
      cases serious.symm.trans absent
  | fails alsoLooked =>
      cases looked.symm.trans alsoLooked
      rfl
  | unmade alsoLooked | applied alsoLooked => cases looked.symm.trans alsoLooked

/-- Once all is looked up, the pass succeeds or fails as making the artifacts does. -/
theorem eq_of_looked (ending : Ending surroundings settings cluster state store outcome left)
    {podCidr nameService : String} {facts : ProviderFacts}
    (looked : lookups surroundings settings cluster state store =
      .ok (podCidr, facts, nameService)) :
    outcome = ((gather settings cluster podCidr facts nameService).run
      Memory.handle store).1.map fun _ => .applied := by
  cases ending with
  | waits alsoLooked | fails alsoLooked => cases looked.symm.trans alsoLooked
  | unmade alsoLooked made | applied alsoLooked made =>
      cases looked.symm.trans alsoLooked
      rw [made]
      rfl

end Ending

/-- The artifacts of a cluster are written all together or not at all. Once written, they do not
depend on what stood in their places, unless the credentials are read there. The pass waits just
where the first look-up that fails says that something does not exist; all else that fails, a
missing secret with credentials included, is a failure of the pass. -/
theorem ensure_all_or_nothing :
    ∃ outcome left, (ensure settings cluster).run surroundings.handle (state, store) =
        (outcome, ((surroundings.podCidr cluster state).2, left)) ∧
      (outcome ≠ .ok .applied → left = store) ∧
      (outcome = .ok .applied → ∃ podCidr facts nameService artifacts,
        lookups surroundings settings cluster state store =
          .ok (podCidr, facts, nameService) ∧
        artifacts.AreOf cluster.id cluster.space ∧
        left = store.withArtifacts cluster.id cluster.space artifacts ∧
        (credentialsAt cluster facts ≠ some (cluster.space, clusterValuesName cluster.id) →
          ∀ other, store.SharesSources cluster.id cluster.space other →
            (ensure settings cluster).run surroundings.handle (state, other) =
              (.ok .applied, ((surroundings.podCidr cluster state).2,
                other.withArtifacts cluster.id cluster.space artifacts)))) ∧
      ((∃ reason, outcome = .ok (.suspended reason)) ↔
        ∃ failure, lookups surroundings settings cluster state store = .error failure ∧
          failure.isNotFound = true) ∧
      (∀ failure, lookups surroundings settings cluster state store = .error failure →
        failure.isNotFound = false → outcome = .error failure) ∧
      ∀ podCidr facts nameService,
        lookups surroundings settings cluster state store = .ok (podCidr, facts, nameService) →
        outcome = (((gather settings cluster podCidr facts nameService).run
          Memory.handle store).1.map fun _ => .applied) ∧
        ∀ space name, credentialsAt cluster facts = some (space, name) →
          store.secrets.find? (space, name) = none →
            outcome = .error (Memory.missing "Secret" space name) := by
  obtain ⟨outcome, left, played, ending⟩ :=
    ending_ensure surroundings settings cluster state store
  refine ⟨outcome, left, played, ending.left_eq, ?applied, ending.suspended_iff,
    fun _ => ending.eq_error, fun podCidr facts nameService looked => ?looked⟩
  case applied =>
    rintro rfl
    cases ending with
    | @applied podCidr nameService facts artifacts looked made =>
        refine ⟨podCidr, facts, nameService, artifacts, looked,
          areOf_of_gather (Prod.ext made rfl), rfl, fun apart other shares => ?_⟩
        apply run_ensure_of_made
        · exact (lookups_of_objects surroundings settings state shares.objects).trans looked
        · exact (run_gather_of_sharesSources apart shares).trans made
  case looked =>
    have same := ending.eq_of_looked looked
    refine ⟨same, fun space name place missing => ?_⟩
    rw [same, run_gather_of_missing place missing]
    rfl

end Ensure

end Artifacts

end PlatformApps
