/-
# Which cluster an App calls for

A change of an App that this operator manages is to bring about a visit of the App's cluster. All
that is known of the cluster is the label of the App and its namespace, and the label holds the id
of the cluster. So the cluster is found just when it is named after its id; otherwise a cluster
is visited that is not there, and the change waits for the next visit of the right one.
-/

import PlatformApps.Controller
import PlatformApps.Proofs.Cleanup.Undo

namespace PlatformApps

/-! ## Errands that are due -/

/-- An errand stands on the agenda for a time, or for an earlier one. -/
def Agenda.IsDue (agenda : Agenda) (time : Rat) (errand : Errand) : Prop :=
  ∃ entry ∈ agenda, entry.1 ≤ time ∧ entry.2 = errand

/-- Planning an errand makes it due and no other. -/
theorem Agenda.isDue_plan_iff {agenda : Agenda} {time : Rat} {errand other : Errand} :
    (agenda.plan time errand).IsDue time other ↔ other = errand ∨ agenda.IsDue time other := by
  rw [plan]
  split
  · rename_i early
    have already : agenda.IsDue time errand := by
      obtain ⟨entry, inside, same⟩ := List.any_eq_true.mp early
      simp only [Bool.and_eq_true, decide_eq_true_eq] at same
      exact ⟨entry, inside, same.2, same.1⟩
    exact ⟨.inr, fun due => due.elim (fun same => same ▸ already) id⟩
  · constructor
    · rintro ⟨entry, inside, early, rfl⟩
      rcases List.mem_append.mp inside with kept | added
      · exact .inr ⟨entry, (List.mem_filter.mp kept).1, early, rfl⟩
      · exact .inl (congrArg Prod.snd (List.mem_singleton.mp added))
    · intro due
      by_cases same : other = errand
      · exact ⟨(time, errand), List.mem_append.mpr (.inr List.mem_cons_self), Rat.le_refl,
          same.symm⟩
      · obtain ⟨entry, inside, early, rfl⟩ := due.resolve_left same
        have kept : entry ∈ agenda.filter fun entry => entry.2 ≠ errand :=
          List.mem_filter.mpr ⟨inside, decide_eq_true same⟩
        exact ⟨entry, List.mem_append.mpr (.inl kept), early, rfl⟩

theorem Controller.isDue_planVisits_iff {controller : Controller} {now : Rat}
    {keys : List ClusterKey} {key : ClusterKey} :
    (controller.planVisits now keys).agenda.IsDue now (.visit key) ↔
      key ∈ keys ∨ controller.agenda.IsDue now (.visit key) := by
  induction keys generalizing controller with
  | nil => simp [planVisits]
  | cons first rest ih =>
      have planned : (controller.planVisits now (first :: rest)) =
          (controller.plan now (.visit first)).planVisits now rest := rfl
      rw [planned, ih, plan, Agenda.isDue_plan_iff, List.mem_cons, Errand.visit.injEq, or_left_comm,
        or_assoc]

/-! ## Apps of a cluster -/

section Keys

variable {app : App} {id space : String}

/-- What is made for a cluster calls for the cluster that has its id for a name. -/
theorem App.IsMadeFor.clusterKey? (made : app.IsMadeFor id space) :
    app.clusterKey? = some ⟨some space, id⟩ := by
  have marked : app.labels.find? Label.cluster = some id := by
    rw [made.find?_labels (by decide) (by decide), find?_managedLabels, if_neg (by decide),
      if_pos rfl]
  obtain ⟨name, entry, agentVersion, forceUpgrade, same⟩ := made
  rw [App.clusterKey?, marked, same]
  rfl

/-- What is made for a cluster is watched. -/
theorem App.IsMadeFor.isMatch_watchedApps (made : app.IsMadeFor id space) :
    watchedApps.isMatch app.labels = true := by
  have managed : PlatformApps.isManaged app.labels = true := made.isManaged
  rw [PlatformApps.isManaged] at managed
  rw [watchedApps, Selector.isMatch, List.all_cons, List.all_nil, Bool.and_true,
    Requirement.holds, managed]

end Keys

section Visits

variable {σ : Type} {handler : Operator.Handler σ} {settings : Settings} {cluster : Cluster}
  {name space : String} {state after : σ} {compiled : Compiled}

/-- Let a cluster have a name and a namespace, and let Apps be compiled for it. Each of them is
watched, and it calls for the cluster of this namespace that is named after the id. That is the
cluster itself just when it is named after its id: then, and only then, a look at some of its Apps
makes a visit of it due that was not due before. -/
theorem change_visits_cluster_iff (named : cluster.metadata.name = some name)
    (placed : cluster.metadata.namespace_ = some space)
    (compiles : (compile settings cluster).run handler state = (.ok compiled, after)) :
    (∀ app ∈ compiled.apps,
      watchedApps.isMatch app.labels = true ∧
      app.clusterKey? = some ⟨some space, cluster.id⟩ ∧
      (app.clusterKey? = some cluster.key ↔ cluster.id = name)) ∧
    ∀ (controller : Controller) (now : Rat) (changed : List App), changed ≠ [] →
      (∀ app ∈ changed, app ∈ compiled.apps) →
      ¬ controller.agenda.IsDue now (.visit cluster.key) →
      ((controller.planVisits now (changed.filterMap App.clusterKey?)).agenda.IsDue now
        (.visit cluster.key) ↔ cluster.id = name) := by
  have inSpace : cluster.space = space := by rw [Cluster.space, placed, Option.getD_some]
  have ownKey : cluster.key = ⟨some space, name⟩ := by
    rw [Cluster.key, placed, named, Option.getD_some]
  have made : ∀ app ∈ compiled.apps, app.IsMadeFor cluster.id space :=
    inSpace ▸ isMadeFor_of_compile compiles
  have calls : ∀ app ∈ compiled.apps,
      app.clusterKey? = some cluster.key ↔ cluster.id = name := by
    intro app inside
    rw [(made app inside).clusterKey?, ownKey, Option.some.injEq, ClusterKey.mk.injEq]
    exact and_iff_right rfl
  refine ⟨fun app inside => ?_, fun controller now changed nonempty due fresh => ?_⟩
  · exact ⟨(made app inside).isMatch_watchedApps, (made app inside).clusterKey?,
      calls app inside⟩
  · rw [Controller.isDue_planVisits_iff, or_iff_left fresh, List.mem_filterMap]
    constructor
    · rintro ⟨app, inside, called⟩
      exact (calls app (due app inside)).mp called
    · intro same
      obtain ⟨app, inside⟩ := List.exists_mem_of_ne_nil changed nonempty
      exact ⟨app, inside, (calls app (due app inside)).mpr same⟩

end Visits

/-- A cluster that is not named after its id. -/
def renamed : Cluster where
  metadata := {
    name := some "prod"
    namespace_ := some "org-acme"
    labels := some (.ofList [(Label.cluster, "demo0")]) }

/-- The Apps of the cluster call for another one, and a look at them makes no visit of it due. -/
theorem change_visits_cluster_iff_renamed : ∃ compiled known,
    renamed.metadata.name = some "prod" ∧ renamed.metadata.namespace_ = some "org-acme" ∧
    (compile {} renamed).run Cleanup.stocked.handle ((), {}) = (.ok compiled, known) ∧
    compiled.apps.map App.name = ["demo0-app-operator", "demo0-hello"] ∧
    (∀ app ∈ compiled.apps, watchedApps.isMatch app.labels = true ∧
      app.clusterKey? = some ⟨some "org-acme", "demo0"⟩) ∧
    ¬ (({} : Controller).planVisits 0 (compiled.apps.filterMap App.clusterKey?)).agenda.IsDue 0
      (.visit renamed.key) := by
  have names : ((compile {} renamed).run Cleanup.stocked.handle ((), {})).1.map
      (fun compiled => compiled.apps.map App.name) =
        .ok ["demo0-app-operator", "demo0-hello"] := by
    decide +kernel
  rcases compiles : (compile {} renamed).run Cleanup.stocked.handle ((), {}) with
    ⟨failure | compiled, known⟩
  · rw [compiles] at names
    cases names
  · rw [compiles] at names
    have names : compiled.apps.map App.name = ["demo0-app-operator", "demo0-hello"] :=
      Except.ok.inj names
    obtain ⟨each, visits⟩ := change_visits_cluster_iff rfl rfl compiles
    have nonempty : compiled.apps ≠ [] := by
      intro none
      rw [none] at names
      cases names
    have missed := visits {} 0 compiled.apps nonempty (fun _ inside => inside)
      (fun due => by obtain ⟨_, inside, _⟩ := due; cases inside)
    refine ⟨compiled, known, rfl, rfl, compiles, names, fun app inside => ?_, ?_⟩
    · obtain ⟨watched, calls, _⟩ := each app inside
      exact ⟨watched, calls⟩
    · rw [missed]
      decide

/-- An App is compiled for a cluster that has a name, a namespace and an id, and yet it calls for
another cluster. -/
theorem renamed_cluster_missed : ∃ compiled known,
    renamed.metadata.name = some "prod" ∧ renamed.metadata.namespace_ = some "org-acme" ∧
    renamed.id = "demo0" ∧
    (compile {} renamed).run Cleanup.stocked.handle ((), {}) = (.ok compiled, known) ∧
    ∃ app ∈ compiled.apps, app.clusterKey? = some ⟨some "org-acme", "demo0"⟩ ∧
      renamed.key = ⟨some "org-acme", "prod"⟩ ∧ app.clusterKey? ≠ some renamed.key := by
  have calls : ((compile {} renamed).run Cleanup.stocked.handle ((), {})).1.map
      (fun compiled => compiled.apps.head?.map App.clusterKey?) =
        .ok (some (some ⟨some "org-acme", "demo0"⟩)) := by
    decide +kernel
  rcases compiles : (compile {} renamed).run Cleanup.stocked.handle ((), {}) with
    ⟨failure | compiled, known⟩
  · rw [compiles] at calls
    cases calls
  · rw [compiles] at calls
    obtain ⟨app, first, called⟩ := Option.map_eq_some_iff.mp (Except.ok.inj calls)
    refine ⟨compiled, known, rfl, rfl, by decide, compiles, app, List.mem_of_head? first, called,
      rfl, ?_⟩
    rw [called]
    decide

end PlatformApps
