/-
# When the finalizer of a deleted cluster comes off

A pass over a deleted cluster takes the finalizer off after every cleanup that succeeds,
and a cleanup that has to wait succeeds as well. So the finalizer is released although the
cleanup is not finished exactly when the cleanup waits and the change is accepted.
-/

import PlatformApps.Proofs.Cleanup.Stages
import PlatformApps.World

namespace PlatformApps

/-- Does the request change the finalizers of a cluster? -/
def OperatorRequest.isFinalizerChange : OperatorRequest → Bool
  | .finalizers .. => true
  | _ => false

/-- A dialogue that never changes the finalizers of a cluster. -/
abbrev Dialogue.KeepsFinalizers {α : Type} (dialogue : Dialogue Operator α) : Prop :=
  dialogue.Asks fun request : OperatorRequest => request.isFinalizerChange = false

namespace Cleanup

variable {α σ : Type} {handler : Operator.Handler σ} {settings : Settings} {liveness : Backoff}
  {cluster : Cluster} {leads : Bool} {place : Nat}

/-- Playing a dialogue takes a finalizer off a cluster: the change is asked for, and it is
accepted. -/
def Releases (handler : Operator.Handler σ) (dialogue : Dialogue Operator α) (start : σ) : Prop :=
  ∃ space name place before,
    (OperatorRequest.finalizers space name (.remove place), before) ∈
        dialogue.moments handler start ∧
      (handler (.finalizers space name (.remove place)) before).1 = .ok ()

/-- The finalizer of a cluster, which must have a name, can be taken off its place. -/
def Accepts (handler : Operator.Handler σ) (cluster : Cluster) (place : Nat) (state : σ) : Prop :=
  ∃ name, cluster.metadata.name = some name ∧
    (handler (.finalizers cluster.space name (.remove place)) state).1 = .ok ()

/-- The pass of a leader begins its work when it has looked at the clock. -/
def Begins (handler : Operator.Handler σ) (leads : Bool) (start begun : σ) : Prop :=
  leads = true ∧ ∃ started : Rat, handler .now start = (.ok started, begun)

theorem Begins.unique {start first second : σ} (one : Begins handler leads start first)
    (other : Begins handler leads start second) : first = second := by
  obtain ⟨_, _, firstNow⟩ := one
  obtain ⟨_, _, secondNow⟩ := other
  exact (Prod.mk.inj (firstNow.symm.trans secondNow)).2

/-- A cleanup leaves the finalizers alone. -/
theorem keepsFinalizers_cleanupCluster (settings : Settings) (liveness : Backoff)
    (cluster : Cluster) : (cleanupCluster settings liveness cluster).KeepsFinalizers := by
  have calls {β : Type} (dialogue : Dialogue Store β) :
      (Operator.calls dialogue).KeepsFinalizers :=
    Operator.asks_calls (.of_forall (fun _ => rfl) dialogue)
  have compiles : (compileAsLive settings cluster).KeepsFinalizers :=
    asks_compileAsLive rfl rfl rfl rfl fun _ _ _ => rfl
  have waits : (awaitAgentGone liveness cluster.id cluster.space).KeepsFinalizers :=
    asks_awaitAgentGone rfl rfl (fun _ => rfl) rfl
  have reports (step : TeardownStep) : (reportTeardown cluster.id step).KeepsFinalizers :=
    Dialogue.Asks.bind ⟨rfl, fun _ => trivial⟩ fun _ => ⟨rfl, fun _ => trivial⟩
  rw [cleanupCluster]
  split
  · trivial
  · refine compiles.attempt.bind fun compiled => ?_
    refine Dialogue.Asks.bind trivial fun secondTier => ?_
    refine (calls _).bind fun step => (reports step).bind fun _ => ?_
    cases step with
    | suspended => trivial
    | done =>
        refine waits.bind fun _ => ?_
        refine (calls _).bind fun swept => ?_
        split
        · trivial
        · refine (calls _).bind fun _ => (calls _).bind fun _ => ?_
          exact Dialogue.Asks.bind ⟨rfl, fun _ => trivial⟩ fun _ => trivial

/-- A named cluster has its finalizers changed by one request. -/
theorem moments_changeFinalizers {name : String} (named : cluster.metadata.name = some name)
    (handler : Operator.Handler σ) (change : FinalizerChange) (state : σ) :
    (changeFinalizers cluster change).moments handler state =
      [(.finalizers cluster.space name change, state)] := by
  rw [changeFinalizers, named]
  dsimp only
  rw [Dialogue.moments_bind, Dialogue.moments_attempt, Dialogue.run_attempt]
  rcases outcome : ((Operator.finalizers cluster.space name change).run handler state).1 with
    failure | _ <;> rfl

/-- Taking the finalizer off is the last thing that is done for a deleted cluster, and it
is tried after every cleanup that does not fail. -/
theorem releases_supervise_iff (deleted : cluster.stage = .cleanUp place) {start : σ} :
    Releases handler (supervise settings liveness cluster) start ↔
      ∃ next after, (cleanupCluster settings liveness cluster).run handler start =
        (.ok next, after) ∧ Accepts handler cluster place after := by
  rw [supervise, deleted]
  dsimp only
  split
  · rename_i unnamed
    constructor
    · rintro ⟨_, _, _, _, asked, _⟩
      cases asked
    · rintro ⟨_, _, _, name, named, _⟩
      cases unnamed.symm.trans named
  · rename_i isNamed
    obtain ⟨name, named⟩ := Option.ne_none_iff_exists'.mp isNamed
    simp only [Dialogue.bind_eq, Dialogue.pure_eq]
    constructor
    · rintro ⟨space, other, removed, before, asked, accepted⟩
      rcases Dialogue.mem_moments_bind_iff.mp asked with early | ⟨next, after, played, asked⟩
      · -- the cleanup itself asks for no change of the finalizers
        cases (keepsFinalizers_cleanupCluster settings liveness cluster).allowed_of_mem early
      · rcases Dialogue.mem_moments_bind_iff.mp asked with asked | ⟨_, _, _, asked⟩
        · rw [moments_changeFinalizers named, List.mem_singleton] at asked
          cases asked
          exact ⟨next, before, played, name, named, accepted⟩
        · cases asked
    · rintro ⟨next, after, played, other, named', accepted⟩
      cases named.symm.trans named'
      refine ⟨cluster.space, name, place, after, ?_, accepted⟩
      refine Dialogue.mem_moments_bind_iff.mpr (.inr ⟨next, after, played, ?_⟩)
      refine Dialogue.mem_moments_bind_iff.mpr (.inl ?_)
      rw [moments_changeFinalizers named]
      exact List.mem_singleton_self _

theorem keepsFinalizers_reportPass (outcome : Outcome NextPass) :
    (reportPass outcome).KeepsFinalizers := by
  cases outcome with
  | ok next => trivial
  | error failure => exact ⟨rfl, fun outcome => by cases outcome <;> trivial⟩

/-- Of all that a pass does, only the work on its cluster can take a finalizer off. -/
theorem releases_pass_iff {start : σ} :
    Releases handler (pass settings liveness leads cluster) start ↔
      ∃ begun, Begins handler leads start begun ∧
        Releases handler (supervise settings liveness cluster) begun := by
  cases leads with
  | false =>
      constructor
      · rintro ⟨_, _, _, _, asked, _⟩
        cases asked
      · rintro ⟨_, ⟨leading, _⟩, _⟩
        cases leading
  | true =>
      simp only [pass, if_true, Dialogue.bind_eq]
      constructor
      · rintro ⟨space, name, removed, before, asked, accepted⟩
        rcases Dialogue.mem_moments_bind_iff.mp asked with early | ⟨started, begun, now, asked⟩
        · cases List.mem_singleton.mp early
        refine ⟨begun, ⟨rfl, started, now⟩, space, name, removed, before, ?_, accepted⟩
        rcases Dialogue.mem_moments_bind_iff.mp asked with work | ⟨outcome, _, _, asked⟩
        · rwa [Dialogue.moments_attempt] at work
        · -- what follows the work are reports
          have reports : (Operator.clock.now.bind fun ended =>
              (Operator.metric (.duration controllerName
                ((Binary64.ofFraction false (ended - started).num.toNat
                  (ended - started).den).getD .zero))).bind
                fun _ => reportPass outcome).KeepsFinalizers :=
            Dialogue.Asks.bind ⟨rfl, fun _ => trivial⟩ fun _ =>
              Dialogue.Asks.bind ⟨rfl, fun _ => trivial⟩ fun _ =>
                keepsFinalizers_reportPass outcome
          cases reports.allowed_of_mem asked
      · rintro ⟨begun, ⟨_, started, now⟩, space, name, removed, before, asked, accepted⟩
        refine ⟨space, name, removed, before, ?_, accepted⟩
        refine Dialogue.mem_moments_bind_iff.mpr (.inr ⟨started, begun, now, ?_⟩)
        refine Dialogue.mem_moments_bind_iff.mpr (.inl ?_)
        rwa [Dialogue.moments_attempt]

/-- A pass over a deleted cluster takes the finalizer off when its cleanup has gone through
or waits, and the change is accepted. -/
theorem releases_pass_iff_ended (identified : cluster.id ≠ "")
    (deleted : cluster.stage = .cleanUp place) {start : σ} :
    Releases handler (pass settings liveness leads cluster) start ↔
      ∃ begun after, Begins handler leads start begun ∧
        (Finishes handler settings liveness cluster begun after ∨
          Suspends handler settings liveness cluster begun after) ∧
        Accepts handler cluster place after := by
  rw [releases_pass_iff]
  constructor
  · rintro ⟨begun, begins, releases⟩
    obtain ⟨next, after, played, accepts⟩ := (releases_supervise_iff deleted).mp releases
    refine ⟨begun, after, begins, ?_, accepts⟩
    exact ((run_cleanupCluster_eq_ok_iff identified).mp played).imp (·.2) (·.2)
  · rintro ⟨begun, after, begins, ended, accepts⟩
    refine ⟨begun, begins, (releases_supervise_iff deleted).mpr ?_⟩
    rcases ended with finishes | suspends
    · have played := (run_cleanupCluster_eq_ok_iff identified).mpr (.inl ⟨rfl, finishes⟩)
      exact ⟨_, after, played, accepts⟩
    · have played := (run_cleanupCluster_eq_ok_iff identified).mpr (.inr ⟨rfl, suspends⟩)
      exact ⟨_, after, played, accepts⟩

/-- A pass over a deleted cluster takes the finalizer off when its cleanup has gone through
or waits, and the change is accepted. So a release proves that the cleanup has gone through,
the agent's deployment having been found gone, just where no cleanup that waits is followed
by an accepted change. -/
theorem release_proves_finished_iff (identified : cluster.id ≠ "")
    (deleted : cluster.stage = .cleanUp place) (start : σ) :
    (Releases handler (pass settings liveness leads cluster) start ↔
      ∃ begun after, Begins handler leads start begun ∧
        (Finishes handler settings liveness cluster begun after ∨
          Suspends handler settings liveness cluster begun after) ∧
        Accepts handler cluster place after) ∧
    ((Releases handler (pass settings liveness leads cluster) start →
        ∃ begun after, Begins handler leads start begun ∧
          Finishes handler settings liveness cluster begun after) ↔
      ¬∃ begun after, Begins handler leads start begun ∧
        Suspends handler settings liveness cluster begun after ∧
        Accepts handler cluster place after) ∧
    ∀ begun after, Finishes handler settings liveness cluster begun after →
      ∃ seen gone,
        (.store (.deploymentExists cluster.space (agentDeploymentName cluster.id)), seen) ∈
            (cleanupCluster settings liveness cluster).moments handler begun ∧
          handler (.store (.deploymentExists cluster.space (agentDeploymentName cluster.id)))
            seen = (.ok false, gone) := by
  refine ⟨releases_pass_iff_ended identified deleted, ?_,
    fun begun after finishes => finishes.exists_check identified⟩
  rw [releases_pass_iff_ended identified deleted]
  constructor
  · rintro proves ⟨begun, after, begins, suspends, accepts⟩
    obtain ⟨other, _, begins', finishes⟩ :=
      proves ⟨begun, after, begins, .inr suspends, accepts⟩
    cases begins.unique begins'
    exact finishes.not_suspends identified suspends
  · rintro never ⟨begun, after, begins, finishes | suspends, accepts⟩
    · exact ⟨begun, after, begins, finishes⟩
    · exact absurd ⟨begun, after, begins, suspends, accepts⟩ never

/-- A deleted cluster that waits for its cleanup. -/
def lingering : Cluster where
  metadata := {
    name := some "demo0"
    namespace_ := some "org-acme"
    labels := some (.ofList [(Label.cluster, "demo0")])
    finalizers := some [clusterFinalizer]
    deletionTimestamp := some .epoch }

/-- A tenant of that cluster, kept in place by the agent that has to uninstall it. -/
def uninstalling : App where
  metadata := {
    name := some "hello"
    namespace_ := some "org-acme"
    labels := some (.ofList [(Label.cluster, "demo0")])
    finalizers := some [agentFinalizer]
    deletionTimestamp := some .epoch }

/-- The world of the cluster and its tenant. -/
def lingeringWorld : World where
  memory := Memory.putApp {} uninstalling
  clusters := (∅ : Table (String × String) Cluster).insert ("org-acme", "demo0") lingering

theorem release_proves_finished_iff_lingering :
    lingering.id ≠ "" ∧ lingering.stage = .cleanUp 0 ∧
    ((Releases World.handle (pass {} .immediate true lingering) lingeringWorld →
        ∃ begun after, Begins World.handle true lingeringWorld begun ∧
          Finishes World.handle {} .immediate lingering begun after) ↔
      ¬∃ begun after, Begins World.handle true lingeringWorld begun ∧
        Suspends World.handle {} .immediate lingering begun after ∧
        Accepts World.handle lingering 0 after) :=
  ⟨by decide, by decide, (release_proves_finished_iff (by decide) (by decide) lingeringWorld).2.1⟩

/-- A pass takes the finalizer off although its cleanup is not finished: the cluster is gone
while its tenant is still there. -/
theorem unfinished_release :
    lingering.id ≠ "" ∧ lingering.stage = .cleanUp 0 ∧
    Releases World.handle (pass {} .immediate true lingering) lingeringWorld ∧
    (¬∃ begun after, Begins World.handle true lingeringWorld begun ∧
      Finishes World.handle {} .immediate lingering begun after) ∧
    ((pass {} .immediate true lingering).run World.handle lingeringWorld).2.clusters.find?
      ("org-acme", "demo0") = none ∧
    ((pass {} .immediate true lingering).run World.handle lingeringWorld).2.memory.app?
      "org-acme" "hello" = some uninstalling := by
  have begins : Begins World.handle true lingeringWorld lingeringWorld := ⟨rfl, 0, rfl⟩
  have waits : ((cleanupCluster {} .immediate lingering).run World.handle lingeringWorld).1 =
      .ok .suspended := by
    decide +kernel
  refine ⟨by decide, by decide, ?_, ?_, by decide +kernel, by decide +kernel⟩
  · refine releases_pass_iff.mpr ⟨_, begins, (releases_supervise_iff rfl).mpr ?_⟩
    refine ⟨_, _, Prod.ext waits rfl, "demo0", rfl, ?_⟩
    decide +kernel
  · rintro ⟨begun, after, begins', finishes⟩
    cases begins.unique begins'
    have finished := (run_cleanupCluster_eq_ok_iff (by decide)).mpr (.inl ⟨rfl, finishes⟩)
    cases waits.symm.trans (congrArg Prod.fst finished)

end Cleanup

end PlatformApps
