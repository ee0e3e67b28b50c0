/-
# How a cleanup ends

Whatever the store and the other collaborators answer, a cleanup that does not fail has
either gone through all of its stages or stopped at one that has to wait. `Finishes` and
`Suspends` say which stages a cleanup has gone through, each from the state in which the
one before it ended; the main statement is that these are the two ways to succeed.
-/

import PlatformApps.Proofs.Backoff
import PlatformApps.Proofs.Manifest
import PlatformApps.Reconcile

namespace PlatformApps.Cleanup

variable {σ : Type} (handler : Operator.Handler σ) (settings : Settings) (liveness : Backoff)
  (cluster : Cluster)

/-- The teardown of a cleanup ends with a step, which is reported. -/
inductive TornDown : σ → TeardownStep → σ → Prop where
  | intro {start between reached after : σ} {compiled : Outcome Compiled} {secondTier : String}
      {step : TeardownStep}
      (compiles : (compileAsLive settings cluster).run handler start = (compiled, between))
      (named : secondTierName compiled cluster.id = .ok secondTier)
      (runs : (Teardown.run ⟨cluster.id, cluster.space, secondTier⟩).run
        (Operator.stored handler) between = (.ok step, reached))
      (reports : (reportTeardown cluster.id step).run handler reached = (.ok (), after)) :
      TornDown start step after

/-- The teardown is done, the agent has been found gone, and the Apps have been swept. -/
inductive Swept : σ → SweepOutcome → σ → Prop where
  | intro {start torn alone after : σ} {swept : SweepOutcome}
      (tornDown : TornDown handler settings cluster start .done torn)
      (agentGone : (awaitAgentGone liveness cluster.id cluster.space).run handler torn =
        (.ok (), alone))
      (sweeps : (sweep cluster.id cluster.space).run (Operator.stored handler) alone =
        (.ok swept, after)) :
      Swept start swept after

/-- A cleanup that goes through all of its stages. -/
inductive Finishes : σ → σ → Prop where
  | intro {start clear bare spaceless after : σ} {swept : SweepOutcome}
      (isSwept : Swept handler settings liveness cluster start swept clear)
      (nothingPending : swept.pending = [])
      (artifacts : (Artifacts.remove cluster.id cluster.space).run
        (Operator.stored handler) clear = (.ok (), bare))
      (space : (ClusterSpace.remove cluster.id).run (Operator.stored handler) bare =
        (.ok (), spaceless))
      (forgotten : (Operator.metric (.forget cluster.id)).run handler spaceless =
        (.ok (), after)) :
      Finishes start after

/-- A cleanup that has to wait: for Apps of its teardown, or for Apps found by the sweep
that nobody has asked to go. -/
inductive Suspends : σ → σ → Prop where
  | teardown {start after : σ} {phase : TeardownPhase} {remaining : List String}
      (tornDown : TornDown handler settings cluster start (.suspended phase remaining) after) :
      Suspends start after
  | sweep {start after : σ} {swept : SweepOutcome}
      (isSwept : Swept handler settings liveness cluster start swept after)
      (pending : swept.pending ≠ []) :
      Suspends start after

variable {handler settings liveness cluster}

/-- The last thing that a wait for the agent asks is whether its deployment is there, and
the answer is no. -/
theorem deployment_absent_of_awaitAgentGone {id space : String} {state after : σ}
    (gone : (awaitAgentGone liveness id space).run handler state = (.ok (), after)) :
    ∃ last, ((awaitAgentGone liveness id space).moments handler state).getLast? =
        some (.store (.deploymentExists space (agentDeploymentName id)), last) ∧
      handler (.store (.deploymentExists space (agentDeploymentName id))) last =
        (.ok false, after) := by
  obtain ⟨last, checked, early, ending⟩ := Backoff.last_of_retry gone
  rw [awaitAgentGone, ← ending]
  simp only [Dialogue.bind_eq, Dialogue.pure_eq] at checked ⊢
  obtain ⟨there, between, asked, checked⟩ := Dialogue.run_bind_eq_ok_iff.mp checked
  rw [Dialogue.moments_bind, asked]
  rw [Operator.run_calls] at asked
  cases there with
  | true => cases checked
  | false =>
      cases checked
      exact ⟨last, List.getLast?_concat, asked⟩

/-- A wait for the agent asks for its deployment and needs the clock. -/
theorem asks_awaitAgentGone {allowed : OperatorRequest → Prop} {id space : String}
    (now : allowed .now) (jitter : allowed .jitter) (pause : ∀ seconds, allowed (.pause seconds))
    (check : allowed (.store (.deploymentExists space (agentDeploymentName id)))) :
    (awaitAgentGone liveness id space).Asks allowed := by
  have checks : (Operator.calls (Store.deploymentExists space (agentDeploymentName id))).Asks
      allowed := Operator.asks_calls ⟨check, fun _ => trivial⟩
  apply Backoff.asks_retry
  · exact ⟨now, fun _ => trivial⟩
  · exact ⟨jitter, fun _ => trivial⟩
  · exact fun seconds => ⟨pause seconds, fun _ => trivial⟩
  · refine checks.bind fun there => ?_
    cases there <;> trivial

/-- What a cleanup still does once its teardown has reached a step. -/
def afterStep (liveness : Backoff) (cluster : Cluster) :
    TeardownStep → Dialogue Operator NextPass
  | .suspended .. => .done (.ok .suspended)
  | .done =>
    (awaitAgentGone liveness cluster.id cluster.space).bind fun _ =>
      (Operator.calls (sweep cluster.id cluster.space)).bind fun swept =>
        if swept.keepsFinalizer then .done (.ok .suspended)
        else
          (Operator.calls (Artifacts.remove cluster.id cluster.space)).bind fun _ =>
            (Operator.calls (ClusterSpace.remove cluster.id)).bind fun _ =>
              (Operator.metric (.forget cluster.id)).bind fun _ => .done (.ok .onChange)

private theorem run_eq_ok_iff_tornDown (identified : cluster.id ≠ "") {start after : σ}
    {next : NextPass} :
    (cleanupCluster settings liveness cluster).run handler start = (.ok next, after) ↔
      ∃ step torn, TornDown handler settings cluster start step torn ∧
        (afterStep liveness cluster step).run handler torn = (.ok next, after) := by
  simp only [cleanupCluster, if_neg identified, Dialogue.bind_eq, Dialogue.pure_eq]
  constructor
  · intro played
    obtain ⟨compiled, between, compiles, played⟩ := Dialogue.run_bind_eq_ok_iff.mp played
    obtain ⟨secondTier, _, named, played⟩ := Dialogue.run_bind_eq_ok_iff.mp played
    obtain ⟨step, reached, runs, played⟩ := Dialogue.run_bind_eq_ok_iff.mp played
    obtain ⟨_, torn, reports, played⟩ := Dialogue.run_bind_eq_ok_iff.mp played
    rw [Dialogue.run_attempt] at compiles
    rw [Operator.run_calls] at runs
    cases ran : (compileAsLive settings cluster).run handler start with
    | mk outcome compiledAt =>
        rw [ran] at compiles
        cases compiles
        rw [Dialogue.ofOutcome, Dialogue.run_done, Prod.mk.injEq] at named
        obtain ⟨named, rfl⟩ := named
        refine ⟨step, torn, .intro ran named runs reports, ?_⟩
        cases step <;> exact played
  · rintro ⟨step, torn, ⟨compiles, named, runs, reports⟩, played⟩
    rw [Dialogue.run_bind_of_ok (Dialogue.run_attempt _ _ _), compiles, named,
      Dialogue.ofOutcome, Dialogue.bind_done_ok,
      Dialogue.run_bind_of_ok ((Operator.run_calls _ _ _).trans runs),
      Dialogue.run_bind_of_ok reports]
    cases step <;> exact played

private theorem keepsFinalizer_iff {swept : SweepOutcome} :
    swept.keepsFinalizer = true ↔ swept.pending ≠ [] := by
  rw [SweepOutcome.keepsFinalizer, Bool.not_eq_true', List.isEmpty_eq_false_iff]

/-- A cleanup of a cluster with an id succeeds in two ways: it has gone through all stages,
or it waits and asks to be repeated. -/
theorem run_cleanupCluster_eq_ok_iff (identified : cluster.id ≠ "") {start after : σ}
    {next : NextPass} :
    (cleanupCluster settings liveness cluster).run handler start = (.ok next, after) ↔
      next = .onChange ∧ Finishes handler settings liveness cluster start after ∨
        next = .suspended ∧ Suspends handler settings liveness cluster start after := by
  rw [run_eq_ok_iff_tornDown identified]
  constructor
  · rintro ⟨step, torn, tornDown, played⟩
    cases step with
    | suspended phase remaining =>
        cases played
        exact .inr ⟨rfl, .teardown tornDown⟩
    | done =>
        obtain ⟨_, alone, agentGone, played⟩ := Dialogue.run_bind_eq_ok_iff.mp played
        obtain ⟨swept, clear, sweeps, played⟩ := Dialogue.run_bind_eq_ok_iff.mp played
        rw [Operator.run_calls] at sweeps
        have isSwept := Swept.intro tornDown agentGone sweeps
        split at played
        · rename_i waits
          cases played
          exact .inr ⟨rfl, .sweep isSwept (keepsFinalizer_iff.mp waits)⟩
        · rename_i clean
          obtain ⟨_, bare, artifacts, played⟩ := Dialogue.run_bind_eq_ok_iff.mp played
          obtain ⟨_, spaceless, space, played⟩ := Dialogue.run_bind_eq_ok_iff.mp played
          obtain ⟨_, _, forgotten, played⟩ := Dialogue.run_bind_eq_ok_iff.mp played
          rw [Operator.run_calls] at artifacts space
          cases played
          exact .inl ⟨rfl, .intro isSwept (Classical.not_not.mp (mt keepsFinalizer_iff.mpr clean))
            artifacts space forgotten⟩
  · rintro (⟨rfl, ⟨⟨tornDown, agentGone, sweeps⟩, nothingPending, artifacts, space, forgotten⟩⟩ |
      ⟨rfl, tornDown | ⟨⟨tornDown, agentGone, sweeps⟩, pending⟩⟩)
    · refine ⟨.done, _, tornDown, ?_⟩
      rw [afterStep, Dialogue.run_bind_of_ok agentGone,
        Dialogue.run_bind_of_ok ((Operator.run_calls _ _ _).trans sweeps),
        if_neg (mt keepsFinalizer_iff.mp (not_not_intro nothingPending)),
        Dialogue.run_bind_of_ok ((Operator.run_calls _ _ _).trans artifacts),
        Dialogue.run_bind_of_ok ((Operator.run_calls _ _ _).trans space),
        Dialogue.run_bind_of_ok forgotten]
      rfl
    · exact ⟨_, _, tornDown, rfl⟩
    · refine ⟨.done, _, tornDown, ?_⟩
      rw [afterStep, Dialogue.run_bind_of_ok agentGone,
        Dialogue.run_bind_of_ok ((Operator.run_calls _ _ _).trans sweeps),
        if_pos (keepsFinalizer_iff.mpr pending)]
      rfl

/-- Where no name for the second tier is found, a cleanup ends there. -/
theorem run_cleanupCluster_of_unnamed (identified : cluster.id ≠ "") {start between : σ}
    {compiled : Outcome Compiled} {failure : Failure}
    (compiles : (compileAsLive settings cluster).run handler start = (compiled, between))
    (unnamed : secondTierName compiled cluster.id = .error failure) :
    (cleanupCluster settings liveness cluster).run handler start = (.error failure, between) := by
  simp only [cleanupCluster, if_neg identified, Dialogue.bind_eq]
  rw [Dialogue.run_bind_of_ok (Dialogue.run_attempt _ _ _), compiles, unnamed]
  rfl

/-- In a cleanup that goes through all of its stages, a check has found no deployment of
the agent. -/
theorem Finishes.exists_check (identified : cluster.id ≠ "") {start after : σ}
    (finishes : Finishes handler settings liveness cluster start after) :
    ∃ seen gone,
      (.store (.deploymentExists cluster.space (agentDeploymentName cluster.id)), seen) ∈
          (cleanupCluster settings liveness cluster).moments handler start ∧
        handler (.store (.deploymentExists cluster.space (agentDeploymentName cluster.id))) seen =
          (.ok false, gone) := by
  obtain ⟨⟨⟨compiles, named, runs, reports⟩, agentGone, _⟩, _⟩ := finishes
  obtain ⟨seen, asked, absent⟩ := deployment_absent_of_awaitAgentGone agentGone
  refine ⟨seen, _, ?_, absent⟩
  simp only [cleanupCluster, if_neg identified, Dialogue.bind_eq, Dialogue.pure_eq]
  refine Dialogue.mem_moments_bind_of_ok (Dialogue.run_attempt _ _ _) ?_
  rw [compiles, named, Dialogue.ofOutcome, Dialogue.bind_done_ok]
  refine Dialogue.mem_moments_bind_of_ok ((Operator.run_calls _ _ _).trans runs) ?_
  refine Dialogue.mem_moments_bind_of_ok reports ?_
  exact Dialogue.mem_moments_bind_iff.mpr (.inl (List.mem_of_getLast? asked))

/-- A cleanup that goes through all of its stages does not wait. -/
theorem Finishes.not_suspends (identified : cluster.id ≠ "") {start after other : σ}
    (finishes : Finishes handler settings liveness cluster start after) :
    ¬Suspends handler settings liveness cluster start other := by
  intro suspends
  have finished := (run_cleanupCluster_eq_ok_iff identified).mpr (.inl ⟨rfl, finishes⟩)
  have suspended := (run_cleanupCluster_eq_ok_iff identified).mpr (.inr ⟨rfl, suspends⟩)
  cases finished.symm.trans suspended

end PlatformApps.Cleanup
