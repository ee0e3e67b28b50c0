/-
# What the making of artifacts asks

The artifacts of a cluster are made from the pod addresses, provider objects and secrets, all
of which are only read, and are then written under their usual names. What is read outside of
secrets comes first (`survey`); the rest concerns the store alone (`gather` and the writing).
-/

import PlatformApps.Proofs.Operator
import PlatformApps.Artifacts

namespace PlatformApps

namespace Artifacts

/-- What artifacts are made of that is read outside of secrets: the pod addresses, the facts
of the provider and the address of the name service. -/
def survey (settings : Settings) (cluster : Cluster) :
    Dialogue Operator (Except String (String × ProviderFacts × String)) :=
  (await "pod CIDR" (Operator.podCidr cluster)).bind fun
  | .error reason => pure (.error reason)
  | .ok podCidr =>
    (await "provider object" (Operator.calls (ProviderFacts.resolve cluster))).bind fun
    | .error reason => pure (.error reason)
    | .ok facts =>
      (await "control plane" (Operator.calls (nameServiceIp settings cluster))).bind fun
      | .error reason => pure (.error reason)
      | .ok nameServiceIp => pure (.ok (podCidr, facts, nameServiceIp))

/-- Makes the artifacts with what secrets hold. -/
def gather (settings : Settings) (cluster : Cluster) (podCidr : String) (facts : ProviderFacts)
    (nameServiceIp : String) : Dialogue Store Artifacts :=
  (certificateAuthority cluster.id cluster.space).bind fun authority =>
    (secretValues settings cluster facts).bind fun secrets =>
      pure (make cluster.id cluster.space (.ofCluster cluster facts settings)
        (.ofCluster cluster facts settings podCidr authority nameServiceIp) secrets)

/-- Artifacts are made and then written. -/
theorem ensure_eq_bind (settings : Settings) (cluster : Cluster) :
    ensure settings cluster = (survey settings cluster).bind fun
      | .error reason => pure (.suspended reason)
      | .ok (podCidr, facts, nameServiceIp) =>
        (Operator.calls ((gather settings cluster podCidr facts nameServiceIp).bind write)).bind
          fun _ => pure .applied := by
  simp only [ensure, survey, Dialogue.bind_eq, Dialogue.bind_assoc]
  congr 1
  funext podCidr
  cases podCidr with
  | error reason => rfl
  | ok podCidr =>
      simp only [Dialogue.bind_assoc]
      congr 1
      funext facts
      cases facts with
      | error reason => rfl
      | ok facts =>
          simp only [Dialogue.bind_assoc]
          congr 1
          funext nameServiceIp
          cases nameServiceIp with
          | error reason => rfl
          | ok nameServiceIp =>
              simp only [Operator.calls, gather, Dialogue.embed_bind, Dialogue.bind_assoc]
              rfl

end Artifacts

section Store

variable {allowed : StoreCall → Prop} (objects : ∀ apiVersion kind space name,
  allowed (.getObject apiVersion kind space name))
  (secrets : ∀ space name, allowed (.getSecretData space name))

include objects in
theorem ProviderFacts.asks_resolve (cluster : Cluster) : (resolve cluster).Asks allowed := by
  rw [resolve]
  split
  · trivial
  · dsimp only
    split
    · trivial
    · refine ⟨objects _ _ _ _, fun outcome => ?_⟩
      cases outcome <;> trivial

namespace Artifacts

include objects in
theorem asks_nameServiceIp (settings : Settings) (cluster : Cluster) :
    (nameServiceIp settings cluster).Asks allowed := by
  rw [nameServiceIp]
  split
  · trivial
  · refine Dialogue.Asks.bind ⟨objects _ _ _ _, fun _ => trivial⟩ fun controlPlane => ?_
    split <;> trivial

include secrets in
theorem asks_certificateAuthority (id space : String) :
    (certificateAuthority id space).Asks allowed :=
  Dialogue.Asks.bind (Dialogue.Asks.tolerate (secrets _ _) _ _) fun _ => trivial

include secrets in
theorem asks_credentials (cluster : Cluster) (facts : ProviderFacts) :
    (credentials cluster facts).Asks allowed := by
  rw [credentials]
  split
  · split
    · trivial
    · refine Dialogue.Asks.bind trivial fun identity => ?_
      refine Dialogue.Asks.bind ⟨secrets _ _, fun _ => trivial⟩ fun data => ?_
      refine Dialogue.Asks.bind trivial fun file => ?_
      exact Dialogue.Asks.bind trivial fun values => trivial
  · refine Dialogue.Asks.bind trivial fun name => ?_
    refine Dialogue.Asks.bind ⟨secrets _ _, fun _ => trivial⟩ fun data => ?_
    exact Dialogue.Asks.bind trivial fun token => trivial
  · trivial

include secrets in
theorem asks_secretValues (settings : Settings) (cluster : Cluster) (facts : ProviderFacts) :
    (secretValues settings cluster facts).Asks allowed :=
  Dialogue.Asks.bind (asks_credentials secrets cluster facts) fun _ => trivial

theorem asks_write {artifacts : Artifacts}
    (agentValues : allowed (.applyConfigMap artifacts.agentValues))
    (clusterValues : allowed (.applyConfigMap artifacts.clusterValues))
    (clusterSecrets : allowed (.applySecret artifacts.clusterSecrets)) :
    (write artifacts).Asks allowed := by
  refine Dialogue.Asks.bind ⟨agentValues, fun _ => trivial⟩ fun _ => ?_
  refine Dialogue.Asks.bind ⟨clusterValues, fun _ => trivial⟩ fun _ => ?_
  exact ⟨clusterSecrets, fun _ => trivial⟩

include secrets in
theorem asks_gather_write (settings : Settings) (cluster : Cluster) (podCidr : String)
    (facts : ProviderFacts) (nameServiceIp : String)
    (writes : ∀ agent values document,
      let artifacts := make cluster.id cluster.space agent values document
      allowed (.applyConfigMap artifacts.agentValues) ∧
        allowed (.applyConfigMap artifacts.clusterValues) ∧
        allowed (.applySecret artifacts.clusterSecrets)) :
    ((gather settings cluster podCidr facts nameServiceIp).bind write).Asks allowed := by
  rw [gather, Dialogue.bind_assoc]
  refine (asks_certificateAuthority secrets _ _).bind fun authority => ?_
  rw [Dialogue.bind_assoc]
  refine (asks_secretValues secrets settings cluster facts).bind fun document => ?_
  obtain ⟨agentValues, clusterValues, clusterSecrets⟩ := writes
    (.ofCluster cluster facts settings)
    (.ofCluster cluster facts settings podCidr authority nameServiceIp) document
  exact asks_write agentValues clusterValues clusterSecrets

end Artifacts

end Store

namespace Artifacts

variable {allowed : OperatorRequest → Prop}

theorem asks_await {α : Type} {input : Dialogue Operator α} (asks : input.Asks allowed)
    (what : String) : (await what input).Asks allowed := by
  refine asks.attempt.bind fun outcome => ?_
  cases outcome with
  | ok value => trivial
  | error failure =>
      cases absent : failure.isNotFound <;> simp [absent, Dialogue.Asks, Dialogue.fail]

theorem asks_survey {settings : Settings} {cluster : Cluster}
    (podCidr : allowed (.podCidr cluster))
    (objects : ∀ apiVersion kind space name,
      allowed (.store (.getObject apiVersion kind space name))) :
    (survey settings cluster).Asks allowed := by
  have asksPodCidr : (Operator.podCidr cluster).Asks allowed := ⟨podCidr, fun _ => trivial⟩
  refine Dialogue.Asks.bind (asks_await asksPodCidr _) fun podCidr => ?_
  cases podCidr with
  | error reason => trivial
  | ok podCidr =>
      refine Dialogue.Asks.bind (asks_await
        (Operator.asks_calls (ProviderFacts.asks_resolve objects cluster)) _) fun facts => ?_
      cases facts with
      | error reason => trivial
      | ok facts =>
          refine Dialogue.Asks.bind (asks_await
            (Operator.asks_calls (asks_nameServiceIp objects settings cluster)) _)
            fun nameServiceIp => ?_
          cases nameServiceIp <;> trivial

theorem asks_ensure {settings : Settings} {cluster : Cluster}
    (podCidr : allowed (.podCidr cluster))
    (objects : ∀ apiVersion kind space name,
      allowed (.store (.getObject apiVersion kind space name)))
    (secrets : ∀ space name, allowed (.store (.getSecretData space name)))
    (writes : ∀ agent values document,
      let artifacts := make cluster.id cluster.space agent values document
      allowed (.store (.applyConfigMap artifacts.agentValues)) ∧
        allowed (.store (.applyConfigMap artifacts.clusterValues)) ∧
        allowed (.store (.applySecret artifacts.clusterSecrets))) :
    (ensure settings cluster).Asks allowed := by
  rw [ensure_eq_bind]
  refine (asks_survey podCidr objects).bind fun known => ?_
  cases known with
  | error reason => trivial
  | ok known =>
      refine Dialogue.Asks.bind (Operator.asks_calls ?_) fun _ => trivial
      exact asks_gather_write secrets settings cluster _ _ _ writes

end Artifacts

end PlatformApps
