/-
# Repeating a teardown

A pass keeps no memory of what it has requested, so the next one must find that out from
the Apps. `Quiet` stores are those in which nothing is left to request; a pass leaves such a
store and does nothing to one. The main statement is that a pass repeated at any later time
reports the same step and finds nothing to do.
-/

import PlatformApps.Proofs.Teardown.Requests

namespace PlatformApps

namespace Memory

variable {memory before after : Memory} {space name : String}

theorem marked_finalizers (app : App) (now : Timestamp) :
    (marked app now).finalizers = app.finalizers := by
  rw [marked_eq_ite]
  split <;> rfl

/-- A request for deletion would change nothing: the App is gone, or it carries the mark and
is held by finalizers. -/
def Requested (memory : Memory) (space name : String) : Prop :=
  ∀ app, memory.app? space name = some app → app.isDeleting = true ∧ app.finalizers ≠ []

theorem requested_afterDelete (memory : Memory) (space name : String) :
    (memory.afterDelete space name).Requested space name := by
  intro app found
  rw [app?_afterDelete_self, Option.bind_eq_some_iff] at found
  obtain ⟨old, _, left⟩ := found
  unfold remainder at left
  split at left
  · cases left
  · rename_i held
    obtain rfl := Option.some.inj left
    refine ⟨marked_isDeleting old _, ?_⟩
    rw [marked_finalizers]
    exact mt List.isEmpty_iff.mpr held

theorem Requested.of_reduced {touched : ObjectKey → Prop} (reduced : Reduced touched before after)
    (requested : before.Requested space name) : after.Requested space name := by
  intro app found
  obtain ⟨old, foundOld, rfl | rfl⟩ := reduced.remains found
  · exact requested app foundOld
  · have known := requested old foundOld
    rwa [marked_of_isDeleting _ known.1]

/-- Apps are as before when the same deletion is requested again. -/
theorem apps_afterDelete_of_requested (requested : memory.Requested space name) :
    (memory.afterDelete space name).apps = memory.apps := by
  apply Table.ext
  rintro ⟨otherSpace, otherName⟩
  have change := memory.app?_afterDelete space name otherSpace otherName
  refine change.trans ?_
  split
  · rename_i same
    cases same
    cases found : memory.app? space name with
    | none => exact found.symm
    | some app =>
        obtain ⟨deleting, held⟩ := requested app found
        rw [Option.bind_some, remainder, if_neg (mt List.isEmpty_iff.mp held),
          marked_of_isDeleting _ deleting]
        exact found.symm
  · rfl

end Memory

namespace Teardown

variable {teardown : Teardown} {memory other : Memory} {name : String}

/-- An App of which no deletion is requested when it is a tenant. -/
def isPassedOver (app : App) : Bool := app.isDeleting || isForeign app.labels

/-- A store in which a pass finds nothing to request. -/
structure Quiet (teardown : Teardown) (memory : Memory) : Prop where
  tenants : ∀ app ∈ teardown.tenantsIn memory, isPassedOver app = true
  secondTier : teardown.tenantsIn memory = [] → ∀ app,
    memory.app? teardown.space teardown.secondTier = some app → app.isDeleting = true
  agent : teardown.tenantsIn memory = [] →
    memory.app? teardown.space teardown.secondTier = none → ∀ app,
      memory.app? teardown.space teardown.agent = some app → app.isDeleting = true

/-! The phase of a store is settled by its Apps. -/

theorem app?_of_apps_eq (same : other.apps = memory.apps) (space name : String) :
    other.app? space name = memory.app? space name := by
  rw [Memory.app?, same, Memory.app?]

theorem tenantsIn_of_apps_eq (same : other.apps = memory.apps) :
    teardown.tenantsIn other = teardown.tenantsIn memory := by
  simp only [tenantsIn, Memory.appsOf, same]

theorem stepIn_of_apps_eq (same : other.apps = memory.apps) :
    teardown.stepIn other = teardown.stepIn memory := by
  simp only [stepIn, tenantsIn_of_apps_eq same, app?_of_apps_eq same]

theorem Quiet.of_apps_eq (quiet : teardown.Quiet memory) (same : other.apps = memory.apps) :
    teardown.Quiet other where
  tenants := by
    rw [tenantsIn_of_apps_eq same]
    exact quiet.tenants
  secondTier := by
    rw [tenantsIn_of_apps_eq same, app?_of_apps_eq same]
    exact quiet.secondTier
  agent := by
    rw [tenantsIn_of_apps_eq same, app?_of_apps_eq same, app?_of_apps_eq same]
    exact quiet.agent

/-! What a pass does to a store with nothing to request. -/

theorem afterTenants_of_passedOver {apps : List App}
    (passedOver : ∀ app ∈ apps, isPassedOver app = true) (memory : Memory) :
    teardown.afterTenants apps memory = memory := by
  induction apps with
  | nil => rfl
  | cons app rest ih =>
      have skipped := passedOver app List.mem_cons_self
      rw [afterTenants]
      rw [isPassedOver] at skipped
      rw [if_pos skipped]
      exact ih fun other inside => passedOver other (List.mem_cons_of_mem _ inside)

theorem afterRemoval_of_isDeleting
    (deleting : ∀ app, memory.app? teardown.space name = some app → app.isDeleting = true) :
    teardown.afterRemoval memory name = memory := by
  rw [afterRemoval]
  split
  · rfl
  · rename_i app found
    rw [if_pos (deleting app found)]

theorem Quiet.afterListed_eq (quiet : teardown.Quiet memory) :
    teardown.afterListed memory = memory :=
  afterTenants_of_passedOver quiet.tenants memory

theorem Quiet.afterRun_eq (quiet : teardown.Quiet memory) :
    teardown.afterRun memory = memory := by
  rw [afterRun, quiet.afterListed_eq]
  split
  · rename_i cleared
    have first := afterRemoval_of_isDeleting (quiet.secondTier cleared)
    rw [afterOperators, first]
    split
    · rfl
    · rename_i gone
      have absent := Option.not_isSome_iff_eq_none.mp gone
      exact afterRemoval_of_isDeleting (quiet.agent cleared absent)
  · rfl

/-- In a quiet store a pass requests no deletion. -/
theorem Quiet.not_asked (quiet : teardown.Quiet memory) (space name : String) (before : Memory) :
    (StoreCall.deleteApp space name, before) ∉ teardown.run.moments Memory.handle memory := by
  intro asked
  rw [asked_by_run_iff, quiet.afterListed_eq] at asked
  rcases asked with deleting | ⟨cleared, removing⟩
  · obtain ⟨_, early, app, late, listed, live, own, _⟩ := requested_by_deleteTenants deleting
    have inside : app ∈ teardown.tenantsIn memory := by
      rw [listed]
      exact List.mem_append_right _ List.mem_cons_self
    have passedOver := quiet.tenants app inside
    rw [isPassedOver, live, own] at passedOver
    cases passedOver
  · obtain ⟨_, ⟨_, _, app, found, live⟩ | ⟨_, left, gone, app, found, live⟩⟩ :=
      requested_by_removeOperators removing
    · cases live.symm.trans (quiet.secondTier cleared app found)
    · -- the removal of the second tier has changed nothing either
      rw [afterRemoval_of_isDeleting (quiet.secondTier cleared)] at left
      subst left
      cases live.symm.trans (quiet.agent cleared gone app found)

/-! What a pass leaves. -/

/-- Of every listed App that is not passed over the deletion has been requested. -/
theorem requested_afterTenants {apps : List App} {app : App} (inside : app ∈ apps)
    (taken : isPassedOver app = false) (memory : Memory) :
    (teardown.afterTenants apps memory).Requested teardown.space app.name := by
  induction apps generalizing memory with
  | nil => cases inside
  | cons first rest ih =>
      rw [afterTenants]
      rcases List.mem_cons.mp inside with rfl | later
      · rw [isPassedOver] at taken
        rw [if_neg (Bool.not_eq_true _ ▸ taken)]
        exact (Memory.requested_afterDelete memory _ _).of_reduced (reduced_afterTenants rest _)
      · split
        · exact ih later memory
        · exact ih later _

/-- A tenant that is left and not passed over has been one before, and its deletion has been
requested under its name. -/
theorem requested_of_left {app : App}
    (inside : app ∈ teardown.tenantsIn (teardown.afterListed memory))
    (taken : isPassedOver app = false) :
    (teardown.afterListed memory).Requested teardown.space app.name := by
  obtain ⟨tenant, place, found⟩ := mem_tenantsIn_iff.mp inside
  obtain ⟨old, foundOld, same | same⟩ := (reduced_afterListed memory).remains found
  · subst same
    exact requested_afterTenants (mem_tenantsIn_iff.mpr ⟨tenant, place, foundOld⟩) taken memory
  · rw [isPassedOver, same, Memory.marked_isDeleting] at taken
    cases taken

theorem isDeleting_afterRemoval {app : App}
    (found : (teardown.afterRemoval memory name).app? teardown.space name = some app) :
    app.isDeleting = true := by
  rw [afterRemoval] at found
  split at found
  · rename_i absent
    rw [absent] at found
    cases found
  · rename_i old foundOld
    split at found
    · rename_i deleting
      rw [foundOld] at found
      cases found
      exact deleting
    · exact (Memory.requested_afterDelete memory _ _ app found).1

theorem isDeleting_of_reduced {touched : ObjectKey → Prop} {before after : Memory}
    (reduced : Memory.Reduced touched before after)
    (deleting : ∀ app, before.app? teardown.space name = some app → app.isDeleting = true)
    {app : App} (found : after.app? teardown.space name = some app) : app.isDeleting = true := by
  obtain ⟨old, foundOld, rfl | rfl⟩ := reduced.remains found
  · exact deleting app foundOld
  · exact Memory.marked_isDeleting old _

/-- The operators that are left are being deleted, the agent once the second tier is gone. -/
theorem isDeleting_afterOperators (memory : Memory) :
    (∀ app, (teardown.afterOperators memory).app? teardown.space teardown.secondTier = some app →
        app.isDeleting = true) ∧
      ((teardown.afterOperators memory).app? teardown.space teardown.secondTier = none →
        ∀ app, (teardown.afterOperators memory).app? teardown.space teardown.agent = some app →
          app.isDeleting = true) := by
  have first : ∀ app, (teardown.afterRemoval memory teardown.secondTier).app? teardown.space
      teardown.secondTier = some app → app.isDeleting = true :=
    fun app => isDeleting_afterRemoval
  rw [afterOperators]
  split
  · rename_i there
    refine ⟨first, fun gone => ?_⟩
    rw [gone] at there
    cases there
  · exact ⟨fun app => isDeleting_of_reduced (reduced_afterRemoval _ teardown.agent) first,
      fun _ app => isDeleting_afterRemoval⟩

/-- Once no tenant is left, what the removal of the operators leaves is quiet. -/
theorem quiet_afterOperators (cleared : teardown.tenantsIn memory = []) :
    teardown.Quiet (teardown.afterOperators memory) := by
  obtain ⟨secondTier, agent⟩ := teardown.isDeleting_afterOperators memory
  have stillCleared : teardown.tenantsIn (teardown.afterOperators memory) = [] :=
    tenantsIn_eq_nil_of_reduced (teardown.reduced_afterOperators memory) cleared
  refine ⟨?_, fun _ => secondTier, fun _ => agent⟩
  intro app inside
  rw [stillCleared] at inside
  cases inside

/-- What a pass leaves is quiet, where every App stands under its own name. -/
theorem quiet_afterRun (filed : memory.Filed) : teardown.Quiet (teardown.afterRun memory) := by
  rw [afterRun]
  split
  · rename_i cleared
    exact quiet_afterOperators cleared
  · rename_i waiting
    refine ⟨?_, fun cleared => absurd cleared waiting, fun cleared => absurd cleared waiting⟩
    intro app inside
    by_contra taken
    have requested := requested_of_left inside (Bool.not_eq_true _ ▸ taken)
    obtain ⟨_, place, found⟩ := mem_tenantsIn_iff.mp inside
    rw [(teardown.reduced_afterListed memory).filed filed found] at requested
    rw [isPassedOver, (requested app found).1] at taken
    exact taken rfl

theorem apps_afterTenants_of_requested {apps : List App}
    (requested : ∀ app ∈ apps, isPassedOver app = false →
      memory.Requested teardown.space app.name) :
    (teardown.afterTenants apps memory).apps = memory.apps := by
  induction apps generalizing memory with
  | nil => rfl
  | cons app rest ih =>
      have others : ∀ other ∈ rest, isPassedOver other = false →
          memory.Requested teardown.space other.name :=
        fun other inside => requested other (List.mem_cons_of_mem _ inside)
      rw [afterTenants]
      split
      · exact ih others
      · rename_i taken
        have known := requested app List.mem_cons_self (Bool.not_eq_true _ ▸ taken)
        have reduced := memory.reduced_afterDelete teardown.space app.name
        rw [ih fun other inside taken => (others other inside taken).of_reduced reduced]
        exact Memory.apps_afterDelete_of_requested known

/-- Whatever the names under which Apps stand, a second pass leaves them as they are. -/
theorem apps_afterRun_of_apps_eq (same : other.apps = (teardown.afterRun memory).apps) :
    (teardown.afterRun other).apps = other.apps := by
  by_cases cleared : teardown.tenantsIn (teardown.afterListed memory) = []
  · rw [afterRun, if_pos cleared] at same
    rw [((quiet_afterOperators cleared).of_apps_eq same).afterRun_eq]
  · rw [afterRun, if_neg cleared] at same
    have listed : (teardown.afterListed other).apps = other.apps := by
      apply apps_afterTenants_of_requested
      intro app inside taken
      rw [tenantsIn_of_apps_eq same] at inside
      have requested := requested_of_left inside taken
      intro left found
      exact requested left ((app?_of_apps_eq same _ _).symm.trans found)
    have waiting : teardown.tenantsIn (teardown.afterListed other) ≠ [] := by
      rw [tenantsIn_of_apps_eq listed, tenantsIn_of_apps_eq same]
      exact cleared
    rw [afterRun, if_neg waiting]
    exact listed

/-- A teardown can be repeated. At any later time a second pass reports the same step and
leaves the store as it was; and where every App stands under its own name it requests no
deletion and notes nothing, whatever the step waits for. -/
theorem run_again (teardown : Teardown) (memory : Memory) :
    ∃ step after, teardown.run.run Memory.handle memory = (.ok step, after) ∧
      ∀ later : Timestamp, ∃ again,
        teardown.run.run Memory.handle { after with now := later } = (.ok step, again) ∧
          again = { after with now := later, log := again.log } ∧
          (memory.Filed → again.log = after.log ∧ ∀ space name before,
            (StoreCall.deleteApp space name, before) ∉
              teardown.run.moments Memory.handle { after with now := later }) := by
  refine ⟨_, _, teardown.run_run memory, fun later => ?_⟩
  let left : Memory := { teardown.afterRun memory with now := later }
  have same : (teardown.afterRun left).apps = (teardown.afterRun memory).apps :=
    apps_afterRun_of_apps_eq rfl
  have played := teardown.run_run left
  rw [stepIn_of_apps_eq same] at played
  refine ⟨teardown.afterRun left, played, ?_, fun filed => ?_⟩
  · have others := (teardown.reduced_afterRun left).others
    rw [same] at others
    exact others
  · have quiet : teardown.Quiet left := (quiet_afterRun filed).of_apps_eq rfl
    refine ⟨?_, quiet.not_asked⟩
    rw [quiet.afterRun_eq]

/-- A tenant that a GitOps controller owns. -/
def ownedApp : App where
  metadata := {
    name := some "podinfo"
    namespace_ := some "org-acme"
    labels := some (.ofList [
      (Label.cluster, "demo0"),
      (Label.kustomizationName, "apps"),
      (Label.kustomizationNamespace, "flux")]) }

def heldTenants : Memory := (({} : Memory).putApp heldApp).putApp ownedApp

theorem run_again_heldTenants :
    heldTenants.Filed ∧ ∃ after, after.log = ["delete_app org-acme/hello"] ∧
      usual.run.run Memory.handle heldTenants =
        (.ok (.suspended .waitingTenantGone ["hello", "podinfo"]), after) ∧
      usual.run.run Memory.handle after =
        (.ok (.suspended .waitingTenantGone ["hello", "podinfo"]), after) := by
  have filed : heldTenants.Filed := (Memory.filed_empty.putApp heldApp).putApp ownedApp
  have reported : (usual.run.run Memory.handle heldTenants).1 =
      .ok (.suspended .waitingTenantGone ["hello", "podinfo"]) := by
    decide +kernel
  have noted : (usual.run.run Memory.handle heldTenants).2.log =
      ["delete_app org-acme/hello"] := by
    decide +kernel
  obtain ⟨step, after, played, repeated⟩ := run_again usual heldTenants
  obtain ⟨again, playedAgain, others, nothing⟩ := repeated after.now
  rw [played] at reported noted
  cases reported
  rw [(nothing filed).1] at others
  subst others
  exact ⟨filed, after, noted, played, playedAgain⟩

end Teardown

end PlatformApps
