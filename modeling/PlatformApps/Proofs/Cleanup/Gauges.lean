/-
# What the gauges of a teardown show

A cleanup reports the step of its teardown in two gauges of the cluster, and drops both when it
lets the cluster go. `reported?` is what one pass makes of the gauges of a cluster; over a
sequence of passes they are as the last one made them that came to a step, however the passes
of other clusters lie between.
-/

import PlatformApps.Proofs.Cleanup.Finalizer

namespace PlatformApps

/-- The gauges of a cluster: Apps that its teardown waits for, and the phase it is in. -/
abbrev Gauges := Option Int × Option Int

namespace Metrics

def gauges (metrics : Metrics) (id : String) : Gauges :=
  (metrics.dangling.find? id, metrics.phases.find? id)

theorem gauges_dangling (metrics : Metrics) (cluster id : String) (count : Nat) :
    (metrics.apply (.dangling cluster count)).gauges id =
      if id = cluster then (some (min (count : Int) gaugeLimit), (metrics.gauges id).2)
      else metrics.gauges id := by
  simp only [gauges, apply, Table.find?_insert]
  split <;> rfl

theorem gauges_phase (metrics : Metrics) (cluster id : String) (ordinal : Int) :
    (metrics.apply (.phase cluster ordinal)).gauges id =
      if id = cluster then ((metrics.gauges id).1, some ordinal) else metrics.gauges id := by
  simp only [gauges, apply, Table.find?_insert]
  split <;> rfl

theorem gauges_forget (metrics : Metrics) (cluster id : String) :
    (metrics.apply (.forget cluster)).gauges id =
      if id = cluster then (none, none) else metrics.gauges id := by
  simp only [gauges, apply, Table.find?_erase]
  split <;> rfl

end Metrics

namespace TeardownStep

/-- How many Apps a teardown reports that waits for tenants. -/
def dangling : TeardownStep → Nat
  | .suspended .waitingTenantGone remaining => remaining.length
  | _ => 0

/-- What the gauges of a cluster are to show. They count as far as 64 bits with a sign reach,
which is further than any list. -/
def gauges (step : TeardownStep) : Gauges :=
  (some (min (step.dangling : Int) Metrics.gaugeLimit), some (step.phase.ordinal : Int))

end TeardownStep

/-- Does the request report something to the metrics? -/
def OperatorRequest.isReport : OperatorRequest → Bool
  | .metric _ => true
  | _ => false

/-- A dialogue that reports nothing. -/
abbrev Dialogue.IsSilent {α : Type} (dialogue : Dialogue Operator α) : Prop :=
  dialogue.Asks fun request : OperatorRequest => request.isReport = false

/-- A handler keeps metrics: they change as it is reported, and by nothing else. -/
structure Operator.Metered {σ : Type} (handler : Operator.Handler σ) (metrics : σ → Metrics) :
    Prop where
  accepts : ∀ change state, (handler (.metric change) state).1 = .ok ()
  applies : ∀ change state,
    metrics (handler (.metric change) state).2 = (metrics state).apply change
  keeps : ∀ request, request.isReport = false → ∀ state,
    metrics (handler request state).2 = metrics state

namespace Cleanup

variable {α σ : Type} {handler : Operator.Handler σ} {metrics : σ → Metrics}

/-- The first part of a cleanup, which ends with a step of the teardown. -/
def teardownOf (settings : Settings) (cluster : Cluster) : Dialogue Operator TeardownStep :=
  (compileAsLive settings cluster).attempt.bind fun compiled =>
    (Dialogue.ofOutcome (secondTierName compiled cluster.id)).bind fun secondTier =>
      Operator.calls (Teardown.run ⟨cluster.id, cluster.space, secondTier⟩)

/-- A cleanup tears down, reports the step, and goes on from there. -/
theorem cleanupCluster_eq_bind (settings : Settings) (liveness : Backoff) {cluster : Cluster}
    (identified : cluster.id ≠ "") :
    cleanupCluster settings liveness cluster =
      (teardownOf settings cluster).bind fun step =>
        (reportTeardown cluster.id step).bind fun _ => afterStep liveness cluster step := by
  simp only [cleanupCluster, if_neg identified, teardownOf, Dialogue.bind_eq,
    Dialogue.pure_eq, Dialogue.bind_assoc]
  refine congrArg _ (funext fun compiled => congrArg _ (funext fun secondTier => ?_))
  refine congrArg _ (funext fun step => congrArg _ (funext fun _ => ?_))
  cases step <;> rfl

theorem isSilent_calls (dialogue : Dialogue Store α) : (Operator.calls dialogue).IsSilent :=
  Operator.asks_calls (.of_forall (fun _ => rfl) dialogue)

theorem isSilent_teardownOf (settings : Settings) (cluster : Cluster) :
    (teardownOf settings cluster).IsSilent := by
  have compiles : (compileAsLive settings cluster).IsSilent :=
    asks_compileAsLive rfl rfl rfl rfl fun _ _ _ => rfl
  refine compiles.attempt.bind fun compiled => ?_
  exact Dialogue.Asks.bind trivial fun secondTier => isSilent_calls _

section Metered

variable (metered : Operator.Metered handler metrics)

include metered

theorem metrics_of_isSilent {dialogue : Dialogue Operator α} (silent : dialogue.IsSilent)
    (state : σ) : metrics (dialogue.run handler state).2 = metrics state :=
  silent.run_keeps metrics metered.keeps state

/-- A report of a step sets both gauges of the cluster. -/
theorem gauges_reportTeardown (cluster id : String) (step : TeardownStep) (state : σ) :
    ∃ after, (reportTeardown cluster step).run handler state = (.ok (), after) ∧
      (metrics after).gauges id =
        if id = cluster then step.gauges else (metrics state).gauges id := by
  have accepted (change : MetricChange) (state : σ) :
      (Operator.metric change).run handler state =
        (.ok (), (handler (.metric change) state).2) :=
    Prod.ext (metered.accepts change state) rfl
  refine ⟨_, (Dialogue.run_bind_of_ok (accepted _ state) _).trans (accepted _ _), ?_⟩
  rw [metered.applies, metered.applies, Metrics.gauges_phase, Metrics.gauges_dangling]
  split
  · rfl
  · rfl

variable (handler metrics) in
/-- A dialogue drops the gauges of a cluster just when it lets the cluster go, and changes no
others. -/
def DropsGauges (cluster : String) (dialogue : Dialogue Operator NextPass) : Prop :=
  ∀ id state, (metrics (dialogue.run handler state).2).gauges id =
    if (dialogue.run handler state).1 = .ok .onChange ∧ id = cluster then (none, none)
    else (metrics state).gauges id

omit metered in
theorem dropsGauges_suspended (cluster : String) :
    DropsGauges handler metrics cluster (.done (.ok .suspended)) := by
  intro id state
  rw [Dialogue.run_done, if_neg (by simp [NextPass.suspended])]

theorem DropsGauges.bind_of_isSilent {cluster : String} {first : Dialogue Operator α}
    (silent : first.IsSilent) {next : α → Dialogue Operator NextPass}
    (drops : ∀ value, DropsGauges handler metrics cluster (next value)) :
    DropsGauges handler metrics cluster (first.bind next) := by
  intro id state
  have kept := metrics_of_isSilent metered silent state
  rw [Dialogue.run_bind]
  rcases played : first.run handler state with ⟨failure | value, between⟩
  · rw [played] at kept
    rw [if_neg (by simp), kept]
  · rw [played] at kept
    rw [drops value id between, kept]

theorem dropsGauges_forget (cluster : String) :
    DropsGauges handler metrics cluster
      ((Operator.metric (.forget cluster)).bind fun _ => .done (.ok .onChange)) := by
  intro id state
  have forgotten : (Operator.metric (.forget cluster)).run handler state =
      (.ok (), (handler (.metric (.forget cluster)) state).2) :=
    Prod.ext (metered.accepts _ state) rfl
  rw [Dialogue.run_bind_of_ok forgotten, Dialogue.run_done, metered.applies,
    Metrics.gauges_forget]
  simp only [true_and]

theorem dropsGauges_afterStep (liveness : Backoff) (cluster : Cluster) (step : TeardownStep) :
    DropsGauges handler metrics cluster.id (afterStep liveness cluster step) := by
  cases step with
  | suspended phase remaining => exact dropsGauges_suspended cluster.id
  | done =>
      have waits : (awaitAgentGone liveness cluster.id cluster.space).IsSilent :=
        asks_awaitAgentGone rfl rfl (fun _ => rfl) rfl
      refine .bind_of_isSilent metered waits fun _ => ?_
      refine .bind_of_isSilent metered (isSilent_calls _) fun swept => ?_
      split
      · exact dropsGauges_suspended cluster.id
      · refine .bind_of_isSilent metered (isSilent_calls _) fun _ => ?_
        refine .bind_of_isSilent metered (isSilent_calls _) fun _ => ?_
        exact dropsGauges_forget metered cluster.id

end Metered

/-- A pass of a cleanup, and the state it begins in. -/
structure Pass (σ : Type) where
  settings : Settings
  liveness : Backoff
  cluster : Cluster
  start : σ

namespace Pass

variable (handler) (pass : Pass σ)

def result : Outcome NextPass × σ :=
  (cleanupCluster pass.settings pass.liveness pass.cluster).run handler pass.start

/-- The step that the teardown of the pass comes to, if it does. -/
def step? : Option TeardownStep :=
  if pass.cluster.id = "" then none
  else ((teardownOf pass.settings pass.cluster).run handler pass.start).1.toOption

/-- The pass lets the cluster go. -/
def LetsGo : Prop := (pass.result handler).1 = .ok .onChange

instance : Decidable (pass.LetsGo handler) := by
  unfold LetsGo
  infer_instance

/-- What the pass makes of the gauges of a cluster. -/
def reported? (id : String) : Option Gauges :=
  if pass.cluster.id = id then
    (pass.step? handler).map fun step =>
      if pass.LetsGo handler then (none, none) else step.gauges
  else none

variable {handler}

/-- After a pass, the gauges of a cluster are as the pass reports, or as before. -/
theorem gauges_result (metered : Operator.Metered handler metrics) (id : String) :
    (metrics (pass.result handler).2).gauges id =
      (pass.reported? handler id).getD ((metrics pass.start).gauges id) := by
  by_cases unidentified : pass.cluster.id = ""
  · rw [reported?, step?, if_pos unidentified, result, cleanupCluster, if_pos unidentified]
    simp
  · have torn := metrics_of_isSilent metered
      (isSilent_teardownOf pass.settings pass.cluster) pass.start
    have begins := cleanupCluster_eq_bind pass.settings pass.liveness unidentified
    rw [reported?, step?, if_neg unidentified]
    rcases played : (teardownOf pass.settings pass.cluster).run handler pass.start with
      ⟨failure | step, between⟩
    · have ends : pass.result handler = (.error failure, between) := by
        rw [result, begins, Dialogue.run_bind, played]
      rw [played] at torn
      rw [ends, torn]
      simp [Except.toOption]
    · obtain ⟨after, reports, shown⟩ :=
        gauges_reportTeardown metered pass.cluster.id id step between
      have ends : pass.result handler =
          (afterStep pass.liveness pass.cluster step).run handler after := by
        rw [result, begins, Dialogue.run_bind_of_ok played, Dialogue.run_bind_of_ok reports]
      have dropped := dropsGauges_afterStep metered pass.liveness pass.cluster step id after
      rw [played] at torn
      rw [← ends, shown, torn] at dropped
      rw [dropped]
      by_cases own : id = pass.cluster.id
      · simp [own, Except.toOption, LetsGo]
      · simp [own, Ne.symm own]

end Pass

variable (handler metrics) in
/-- Passes one after the other, and the metrics that they leave. Each begins in any state with
the gauges as they are by then. -/
inductive Passes (first : Metrics) : List (Pass σ) → Metrics → Prop where
  | none : Passes first [] first
  | more {passes : List (Pass σ)} {left : Metrics} {pass : Pass σ}
      (earlier : Passes first passes left)
      (kept : ∀ id, (metrics pass.start).gauges id = left.gauges id) :
      Passes first (passes ++ [pass]) (metrics (pass.result handler).2)

/-- After a sequence of passes, the gauges of a cluster are as the last one reports that
reports anything of it. -/
theorem Passes.gauges_eq (metered : Operator.Metered handler metrics) {first after : Metrics}
    {passes : List (Pass σ)} (follow : Passes handler metrics first passes after) (id : String) :
    after.gauges id =
      (passes.reverse.findSome? fun pass => pass.reported? handler id).getD (first.gauges id) := by
  induction follow with
  | none => rfl
  | more earlier kept ih =>
      rw [Pass.gauges_result _ metered, kept, ih, List.reverse_append, List.reverse_singleton,
        List.singleton_append, List.findSome?_cons]
      cases Pass.reported? handler _ id <;> rfl

variable (handler) in
/-- Of the passes of a cluster, the last one that came to a step of its teardown. -/
structure IsLast (id : String) (passes : List (Pass σ)) (pass : Pass σ) (step : TeardownStep) :
    Prop where
  own : pass.cluster.id = id
  reached : pass.step? handler = some step
  last : ∃ early later, passes = early ++ pass :: later ∧
    ∀ other ∈ later, other.cluster.id = id → other.step? handler = none

theorem Pass.reported?_eq_none_iff {pass : Pass σ} {id : String} :
    pass.reported? handler id = none ↔ (pass.cluster.id = id → pass.step? handler = none) := by
  rw [reported?]
  split <;> simp [*]

/-- The last report about a cluster is that of the last pass of it that came to a step. -/
theorem findSome?_reported?_eq_some_iff {id : String} {passes : List (Pass σ)} {shown : Gauges} :
    (passes.reverse.findSome? fun pass => pass.reported? handler id) = some shown ↔
      ∃ pass step, IsLast handler id passes pass step ∧
        (if pass.LetsGo handler then (none, none) else step.gauges) = shown := by
  rw [List.findSome?_eq_some_iff]
  constructor
  · rintro ⟨later, pass, early, split, reported, silent⟩
    rw [List.reverse_eq_iff, List.reverse_append, List.reverse_cons, List.append_assoc,
      List.singleton_append] at split
    rw [Pass.reported?] at reported
    split at reported
    · rename_i own
      obtain ⟨step, reached, shows⟩ := Option.map_eq_some_iff.mp reported
      refine ⟨pass, step, ⟨own, reached, _, _, split, fun other inside => ?_⟩, shows⟩
      exact Pass.reported?_eq_none_iff.mp (silent other (List.mem_reverse.mp inside))
    · cases reported
  · rintro ⟨pass, step, ⟨own, reached, early, later, split, silent⟩, shows⟩
    refine ⟨later.reverse, pass, early.reverse, by simp [split], ?_, fun other inside => ?_⟩
    · rw [Pass.reported?, if_pos own, reached, Option.map_some, shows]
    · exact Pass.reported?_eq_none_iff.mpr (silent other (List.mem_reverse.mp inside))

section Sequence

variable (metered : Operator.Metered handler metrics) {first after : Metrics}
  (fresh : ∀ id, first.gauges id = (none, none)) {passes : List (Pass σ)}
  (follow : Passes handler metrics first passes after) (id : String)

include metered fresh follow

theorem gauges_of_isLast {pass : Pass σ} {step : TeardownStep}
    (last : IsLast handler id passes pass step) :
    after.gauges id = if pass.LetsGo handler then (none, none) else step.gauges := by
  rw [follow.gauges_eq metered id, fresh,
    findSome?_reported?_eq_some_iff.mpr ⟨pass, step, last, rfl⟩]
  rfl

theorem gauges_of_unreached (unreached : ∀ pass step, ¬IsLast handler id passes pass step) :
    after.gauges id = (none, none) := by
  rw [follow.gauges_eq metered id, fresh]
  cases found : passes.reverse.findSome? fun pass => pass.reported? handler id with
  | none => rfl
  | some gauges =>
      obtain ⟨pass, step, last, _⟩ := findSome?_reported?_eq_some_iff.mp found
      exact absurd last (unreached pass step)

/-- There are both gauges of a cluster, or neither. -/
theorem gauges_cases :
    (after.gauges id = (none, none) ∧
        ¬∃ pass step, IsLast handler id passes pass step ∧ ¬pass.LetsGo handler) ∨
      (∃ step : TeardownStep, after.gauges id = step.gauges) ∧
        ∃ pass step, IsLast handler id passes pass step ∧ ¬pass.LetsGo handler := by
  by_cases reached : ∃ pass step, IsLast handler id passes pass step
  · obtain ⟨pass, step, last⟩ := reached
    have shown := gauges_of_isLast metered fresh follow id last
    by_cases gone : pass.LetsGo handler
    · rw [if_pos gone] at shown
      refine .inl ⟨shown, ?_⟩
      rintro ⟨other, otherStep, alsoLast, held⟩
      have also := gauges_of_isLast metered fresh follow id alsoLast
      rw [if_neg held, shown] at also
      cases also
    · rw [if_neg gone] at shown
      exact .inr ⟨⟨step, shown⟩, pass, step, last, gone⟩
  · have unreached : ∀ pass step, ¬IsLast handler id passes pass step :=
      fun pass step last => reached ⟨pass, step, last⟩
    refine .inl ⟨gauges_of_unreached metered fresh follow id unreached, ?_⟩
    rintro ⟨pass, step, last, _⟩
    exact unreached pass step last

/-- Over any sequence of passes that begins with no gauges of clusters, both gauges of a cluster
exist just when a pass of it has come to a step of its teardown and the last such pass did not
let the cluster go; they show that step then. A pass of another cluster changes neither. -/
theorem gauges_show_last_step :
    ((after.dangling.find? id).isSome = true ↔
      ∃ pass step, IsLast handler id passes pass step ∧ ¬pass.LetsGo handler) ∧
    ((after.phases.find? id).isSome = true ↔
      ∃ pass step, IsLast handler id passes pass step ∧ ¬pass.LetsGo handler) ∧
    (∀ pass step, IsLast handler id passes pass step → ¬pass.LetsGo handler →
      after.dangling.find? id = some (min (step.dangling : Int) Metrics.gaugeLimit) ∧
        after.phases.find? id = some (step.phase.ordinal : Int)) ∧
    ∀ pass : Pass σ, pass.cluster.id ≠ id →
      (metrics (pass.result handler).2).gauges id = (metrics pass.start).gauges id := by
  have split {shown : Gauges} (same : after.gauges id = shown) :
      after.dangling.find? id = shown.1 ∧ after.phases.find? id = shown.2 :=
    ⟨congrArg Prod.fst same, congrArg Prod.snd same⟩
  refine ⟨?_, ?_, fun pass step last held => ?_, fun pass other => ?_⟩
  · rcases gauges_cases metered fresh follow id with ⟨none, never⟩ | ⟨⟨step, shown⟩, held⟩
    · exact iff_of_false (by simp [(split none).1]) never
    · exact iff_of_true (by simp [(split shown).1, TeardownStep.gauges]) held
  · rcases gauges_cases metered fresh follow id with ⟨none, never⟩ | ⟨⟨step, shown⟩, held⟩
    · exact iff_of_false (by simp [(split none).2]) never
    · exact iff_of_true (by simp [(split shown).2, TeardownStep.gauges]) held
  · exact split ((gauges_of_isLast metered fresh follow id last).trans (if_neg held))
  · rw [pass.gauges_result metered id, Pass.reported?, if_neg other]
    rfl

end Sequence

/-- A world counts what is reported in it. -/
theorem metered_world : Operator.Metered World.handle World.metrics := by
  have api {β : Type} (dialogue : Dialogue Api β) (world : World) :
      (world.api dialogue).2.metrics = world.metrics :=
    (Dialogue.Asks.of_forall (fun _ => trivial) dialogue).run_keeps World.metrics
      (fun _ _ _ => rfl) world
  have catalog (request : CatalogRequest) (world : World) :
      (World.catalog request world).2.metrics = world.metrics := by
    cases request with
    | storageUrl name => exact api _ world
    | download url =>
        simp only [World.catalog]
        split <;> rfl
    | _ => rfl
  refine ⟨fun _ _ => rfl, fun _ _ => rfl, fun request silent world => ?_⟩
  cases request with
  | store call =>
      simp only [World.handle, World.call]
      split <;> rfl
  | components cluster => exact api _ world
  | releaseApps cluster => exact api _ world
  | chartName name app version =>
      let search := Catalogs.chartName world.indexLifetime world.indexBackoff name app version
        world.cache
      have kept : (search.run World.catalog world).2.metrics = world.metrics :=
        (Dialogue.Asks.of_forall (fun _ => trivial) search).run_keeps World.metrics
          (fun request _ => catalog request) world
      rw [World.handle, World.chartName]
      rcases played : search.run World.catalog world with ⟨failure | ⟨outcome, cache⟩, after⟩
      all_goals
        rw [played] at kept
        simp only [search] at played
        simp only [played]
        exact kept
  | finalizers space name change =>
      simp only [World.handle, World.finalizers]
      split
      · rfl
      · split <;> rfl
  | metric change => cases silent
  | _ => rfl

/-- A pass over the cluster that waits for its tenant. -/
def waiting : Pass World := ⟨{}, .immediate, lingering, lingeringWorld⟩

theorem gauges_show_last_step_lingering :
    Operator.Metered World.handle World.metrics ∧
    (∀ id, lingeringWorld.metrics.gauges id = (none, none)) ∧
    Passes World.handle World.metrics lingeringWorld.metrics [waiting]
      (waiting.result World.handle).2.metrics ∧
    IsLast World.handle "demo0" [waiting] waiting
      (.suspended .waitingTenantGone ["hello"]) ∧
    ¬waiting.LetsGo World.handle ∧
    (waiting.result World.handle).2.metrics.dangling.find? "demo0" = some 1 ∧
    (waiting.result World.handle).2.metrics.phases.find? "demo0" = some 2 := by
  have fresh : ∀ id, lingeringWorld.metrics.gauges id = (none, none) := fun _ => rfl
  have follow : Passes World.handle World.metrics lingeringWorld.metrics [waiting]
      (waiting.result World.handle).2.metrics := by
    refine .more .none ?_
    exact fun _ => rfl
  have last : IsLast World.handle "demo0" [waiting] waiting
      (.suspended .waitingTenantGone ["hello"]) :=
    ⟨by decide, by decide +kernel, [], [], rfl, fun _ later => absurd later List.not_mem_nil⟩
  have held : ¬waiting.LetsGo World.handle := by decide +kernel
  have shown := (gauges_show_last_step metered_world fresh follow "demo0").2.2.1 _ _ last held
  exact ⟨metered_world, fresh, follow, last, held, shown.1, shown.2⟩

end Cleanup

end PlatformApps
