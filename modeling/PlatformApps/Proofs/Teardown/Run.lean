/-
# A teardown on the in-memory store

Played on the in-memory store, each part of a teardown is a function of the store, and a
pass always succeeds. `stepIn` reads the phase off a store; the main statement is that the
step which a pass reports is the one of the store that it leaves.
-/

import Mathlib.Data.List.Nodup
import PlatformApps.Proofs.Dialogue
import PlatformApps.Proofs.Store.Apps
import PlatformApps.Teardown

namespace PlatformApps.Teardown

variable (teardown : Teardown) (memory : Memory)

/-- Does the App have to go before the operators? -/
def isTenant (app : App) : Bool :=
  app.isOf teardown.id && (!isManaged app.labels || teardown.isTenantName app)

/-- The tenants in a store, unmanaged ones first, each group in the order of a listing. -/
def tenantsIn : List App :=
  ((memory.appsOf teardown.space teardown.id).filter fun app => !isManaged app.labels) ++
    (memory.appsOf teardown.space teardown.id).filter fun app =>
      isManaged app.labels && teardown.isTenantName app

/-- The phase of a store: the tenants come first, then the second tier, then the agent. -/
def stepIn : TeardownStep :=
  if teardown.tenantsIn memory ≠ [] then
    .suspended .waitingTenantGone ((teardown.tenantsIn memory).map App.name)
  else if (memory.app? teardown.space teardown.secondTier).isSome then
    .suspended .waitingSecondTierGone [teardown.secondTier]
  else if (memory.app? teardown.space teardown.agent).isSome then
    .suspended .waitingPlatformAgentGone [teardown.agent]
  else .done

variable {teardown memory}

theorem mem_tenantsIn_iff {app : App} :
    app ∈ teardown.tenantsIn memory ↔
      teardown.isTenant app = true ∧ ∃ name, memory.app? teardown.space name = some app := by
  simp only [tenantsIn, List.mem_append, List.mem_filter, Memory.mem_appsOf_iff, isTenant,
    Bool.and_eq_true, Bool.or_eq_true, Bool.not_eq_true']
  cases isManaged app.labels <;> simp [and_comm, and_left_comm, and_assoc]

/-- Each tenant of a store has a name of its own. -/
theorem nodup_names_tenantsIn (filed : memory.Filed) :
    ((teardown.tenantsIn memory).map App.name).Nodup := by
  have distinct := filed.nodup_names teardown.space teardown.id
  rw [tenantsIn, List.map_append, List.nodup_append]
  refine ⟨distinct.sublist (List.filter_sublist.map _),
    distinct.sublist (List.filter_sublist.map _), ?_⟩
  rintro _ inFirst _ inSecond rfl
  obtain ⟨first, firstIn, firstName⟩ := List.mem_map.mp inFirst
  obtain ⟨second, secondIn, secondName⟩ := List.mem_map.mp inSecond
  have same : first = second := List.inj_on_of_nodup_map distinct
    (List.mem_filter.mp firstIn).1 (List.mem_filter.mp secondIn).1
    (firstName.trans secondName.symm)
  have unmanaged := (List.mem_filter.mp firstIn).2
  have managed := (List.mem_filter.mp secondIn).2
  simp [same] at unmanaged managed
  simp [unmanaged] at managed

/-- Where no tenant is left, the Apps of the cluster are the operators. -/
theorem operator_of_cleared {name : String} {app : App} (filed : memory.Filed)
    (cleared : teardown.tenantsIn memory = [])
    (found : memory.app? teardown.space name = some app) (marks : app.isOf teardown.id = true) :
    name = teardown.secondTier ∨ name = teardown.agent := by
  have notTenant : teardown.isTenant app = false := by
    by_contra tenant
    have inside := mem_tenantsIn_iff.mpr ⟨Bool.not_eq_false _ ▸ tenant, name, found⟩
    rw [cleared] at inside
    cases inside
  rw [← filed found]
  simp only [isTenant, marks, Bool.true_and, Bool.or_eq_false_iff, isTenantName,
    Bool.and_eq_false_iff, bne_eq_false_iff_eq] at notTenant
  exact notTenant.2

variable (teardown memory)

/-- The store after requests for the deletion of Apps, less those that are being deleted
and those of a GitOps controller. -/
def afterTenants : List App → Memory → Memory
  | [], memory => memory
  | app :: rest, memory =>
    if app.isDeleting || isForeign app.labels then afterTenants rest memory
    else afterTenants rest (memory.afterDelete teardown.space app.name)

/-- The store after the removal of one App. -/
def afterRemoval (name : String) : Memory :=
  match memory.app? teardown.space name with
  | none => memory
  | some app => if app.isDeleting then memory else memory.afterDelete teardown.space name

/-- The store after the removal of the operators. -/
def afterOperators : Memory :=
  let first := teardown.afterRemoval memory teardown.secondTier
  if (first.app? teardown.space teardown.secondTier).isSome then first
  else teardown.afterRemoval first teardown.agent

/-- The store once the tenants that are there have been dealt with. -/
def afterListed : Memory := teardown.afterTenants (teardown.tenantsIn memory) memory

/-- The store after a pass. -/
def afterRun : Memory :=
  if teardown.tenantsIn (teardown.afterListed memory) = [] then
    teardown.afterOperators (teardown.afterListed memory)
  else teardown.afterListed memory

theorem run_tenants :
    teardown.tenants.run Memory.handle memory = (.ok (teardown.tenantsIn memory), memory) := by
  have unmanaged := memory.listApps_unmanagedSelector teardown.space teardown.id
  have managed := memory.listApps_managedSelector teardown.space teardown.id
  simp only [tenants, Store.listApps, Dialogue.bind_eq, Dialogue.pure_eq, Dialogue.bind,
    Dialogue.run, Memory.handle, unmanaged, managed, List.filter_filter, tenantsIn,
    Bool.and_comm]

theorem run_delete (name : String) :
    (teardown.delete name).run Memory.handle memory =
      (.ok (), memory.afterDelete teardown.space name) := by
  cases found : memory.app? teardown.space name with
  | none =>
      rw [Memory.afterDelete_of_absent found]
      exact Dialogue.run_tolerate_of_harmless (I := Store)
        (Memory.handle_deleteApp_of_absent found) (Memory.missing_isNotFound ..) ()
  | some app =>
      exact Dialogue.run_tolerate_of_ok (I := Store)
        (Memory.handle_deleteApp_of_found found) Failure.isNotFound ()

theorem run_find? (name : String) :
    (teardown.find? name).run Memory.handle memory =
      (.ok (memory.app? teardown.space name), memory) := by
  cases found : memory.app? teardown.space name with
  | none =>
      exact Dialogue.run_ask_of_answer (I := Store) (Memory.handle_getApp_of_absent found) _
  | some app =>
      exact Dialogue.run_ask_of_answer (I := Store) (Memory.handle_getApp_of_found found) _

theorem run_deleteTenants (apps : List App) (memory : Memory) :
    (teardown.deleteTenants apps).run Memory.handle memory =
      (.ok (), teardown.afterTenants apps memory) := by
  induction apps generalizing memory with
  | nil => rfl
  | cons app rest ih =>
      rw [deleteTenants, afterTenants]
      split
      · exact ih memory
      · rw [Dialogue.run_bind_of_ok (teardown.run_delete memory app.name)]
        exact ih _

theorem run_removeApp (name : String) :
    (teardown.removeApp name).run Memory.handle memory =
      (.ok ((teardown.afterRemoval memory name).app? teardown.space name).isSome,
        teardown.afterRemoval memory name) := by
  simp only [removeApp, Dialogue.bind_eq, Dialogue.pure_eq]
  rw [Dialogue.run_bind_of_ok (teardown.run_find? memory name)]
  cases found : memory.app? teardown.space name with
  | none =>
      simp only [afterRemoval, found]
      rfl
  | some app =>
      by_cases deleting : app.isDeleting
      · simp only [afterRemoval, found, deleting, if_true]
        rw [Dialogue.run_bind_of_ok (teardown.run_find? memory name), found]
        rfl
      · simp only [afterRemoval, found, deleting, if_false, Bool.false_eq_true]
        rw [Dialogue.run_bind_of_ok (teardown.run_delete memory name),
          Dialogue.run_bind_of_ok (teardown.run_find? _ name)]
        rfl

variable {teardown memory}

theorem reduced_afterTenants (apps : List App) (memory : Memory) :
    Memory.Reduced (fun key => key.1 = teardown.space ∧ key.2 ∈ apps.map App.name) memory
      (teardown.afterTenants apps memory) := by
  induction apps generalizing memory with
  | nil => exact .refl _ memory
  | cons app rest ih =>
      have wider (between : Memory) : Memory.Reduced
          (fun key => key.1 = teardown.space ∧ key.2 ∈ (app :: rest).map App.name) between
          (teardown.afterTenants rest between) :=
        (ih between).mono fun key inside => ⟨inside.1, List.mem_cons_of_mem _ inside.2⟩
      rw [afterTenants]
      split
      · exact wider memory
      · refine .trans (.mono (memory.reduced_afterDelete _ _) ?_) (wider _)
        rintro key rfl
        exact ⟨rfl, List.mem_cons_self⟩

theorem reduced_afterRemoval (memory : Memory) (name : String) :
    Memory.Reduced (· = (teardown.space, name)) memory (teardown.afterRemoval memory name) := by
  rw [afterRemoval]
  split
  · exact .refl _ memory
  · split
    · exact .refl _ memory
    · exact memory.reduced_afterDelete _ _

theorem reduced_afterOperators (memory : Memory) :
    Memory.Reduced
      (fun key => key.1 = teardown.space ∧
        (key.2 = teardown.secondTier ∨ key.2 = teardown.agent))
      memory (teardown.afterOperators memory) := by
  have first : Memory.Reduced
      (fun key => key.1 = teardown.space ∧
        (key.2 = teardown.secondTier ∨ key.2 = teardown.agent))
      memory (teardown.afterRemoval memory teardown.secondTier) := by
    refine (teardown.reduced_afterRemoval memory _).mono ?_
    rintro key rfl
    exact ⟨rfl, .inl rfl⟩
  rw [afterOperators]
  split
  · exact first
  · refine first.trans ((teardown.reduced_afterRemoval _ teardown.agent).mono ?_)
    rintro key rfl
    exact ⟨rfl, .inr rfl⟩

/-- The places that a pass can change: those of the tenants and of the operators. -/
def Touches (teardown : Teardown) (memory : Memory) (key : ObjectKey) : Prop :=
  key.1 = teardown.space ∧
    (key.2 ∈ (teardown.tenantsIn memory).map App.name ∨
      key.2 = teardown.secondTier ∨ key.2 = teardown.agent)

theorem reduced_afterListed (memory : Memory) :
    Memory.Reduced (teardown.Touches memory) memory (teardown.afterListed memory) :=
  (reduced_afterTenants _ memory).mono fun _ inside => ⟨inside.1, .inl inside.2⟩

/-- A pass only deletes. -/
theorem reduced_afterRun (memory : Memory) :
    Memory.Reduced (teardown.Touches memory) memory (teardown.afterRun memory) := by
  rw [afterRun]
  split
  · exact (reduced_afterListed memory).trans
      ((reduced_afterOperators _).mono fun _ inside => ⟨inside.1, .inr inside.2⟩)
  · exact reduced_afterListed memory

theorem isTenant_eq_of_kept {app old : App} (sameName : app.name = old.name)
    (sameLabels : app.labels = old.labels) : teardown.isTenant app = teardown.isTenant old := by
  simp only [isTenant, App.isOf, isTenantName, sameName, sameLabels]

/-- Deletions bring no tenant about. -/
theorem tenantsIn_eq_nil_of_reduced {touched : ObjectKey → Prop} {before after : Memory}
    (reduced : Memory.Reduced touched before after) (cleared : teardown.tenantsIn before = []) :
    teardown.tenantsIn after = [] := by
  rw [List.eq_nil_iff_forall_not_mem] at cleared ⊢
  intro app inside
  obtain ⟨tenant, name, found⟩ := mem_tenantsIn_iff.mp inside
  obtain ⟨old, foundOld, sameName, sameLabels⟩ := reduced.kept_of_found found
  rw [isTenant_eq_of_kept sameName sameLabels] at tenant
  exact cleared old (mem_tenantsIn_iff.mpr ⟨tenant, name, foundOld⟩)

theorem stepIn_of_tenants (waiting : teardown.tenantsIn memory ≠ []) :
    teardown.stepIn memory =
      .suspended .waitingTenantGone ((teardown.tenantsIn memory).map App.name) := by
  rw [stepIn, if_pos waiting]

theorem stepIn_of_cleared (cleared : teardown.tenantsIn memory = []) :
    teardown.stepIn memory =
      if (memory.app? teardown.space teardown.secondTier).isSome then
        .suspended .waitingSecondTierGone [teardown.secondTier]
      else if (memory.app? teardown.space teardown.agent).isSome then
        .suspended .waitingPlatformAgentGone [teardown.agent]
      else .done := by
  rw [stepIn, if_neg (not_not_intro cleared)]

/-- Where no tenant is left, the removal of the operators ends in the phase of the store
that it leaves. -/
theorem run_removeOperators (cleared : teardown.tenantsIn memory = []) :
    teardown.removeOperators.run Memory.handle memory =
      (.ok (teardown.stepIn (teardown.afterOperators memory)),
        teardown.afterOperators memory) := by
  have first := teardown.run_removeApp memory teardown.secondTier
  have second := teardown.run_removeApp (teardown.afterRemoval memory teardown.secondTier)
    teardown.agent
  rw [stepIn_of_cleared (tenantsIn_eq_nil_of_reduced (reduced_afterOperators memory) cleared)]
  simp only [removeOperators, Dialogue.bind_eq, Dialogue.pure_eq]
  rw [Dialogue.run_bind_of_ok first, afterOperators]
  split
  · rfl
  · rename_i gone
    have absent := Option.not_isSome_iff_eq_none.mp gone
    have stillAbsent := (teardown.reduced_afterRemoval _ teardown.agent).absent absent
    rw [Dialogue.run_bind_of_ok second, stillAbsent]
    simp only [Option.isSome_none, Bool.false_eq_true, if_false]
    split <;> rfl

/-- A pass succeeds and ends in the phase of the store that it leaves. -/
theorem run_run (memory : Memory) :
    teardown.run.run Memory.handle memory =
      (.ok (teardown.stepIn (teardown.afterRun memory)), teardown.afterRun memory) := by
  simp only [run, Dialogue.bind_eq, Dialogue.pure_eq, List.isEmpty_iff]
  rw [Dialogue.run_bind_of_ok (teardown.run_tenants memory)]
  split
  · rename_i cleared
    have nothingDone : teardown.afterListed memory = memory := by
      rw [afterListed, cleared, afterTenants]
    rw [run_removeOperators cleared, afterRun, nothingDone, if_pos cleared]
  · rw [Dialogue.run_bind_of_ok (teardown.run_deleteTenants _ memory),
      Dialogue.run_bind_of_ok (teardown.run_tenants _), afterRun, ← afterListed]
    split
    · rename_i cleared
      exact run_removeOperators cleared
    · rename_i waiting
      rw [stepIn_of_tenants waiting]
      rfl

/-- Where a teardown is done, no App of the cluster is left. -/
theorem absent_of_stepIn_eq_done (filed : memory.Filed) (done : teardown.stepIn memory = .done) :
    memory.appsOf teardown.space teardown.id = [] ∧
      memory.app? teardown.space teardown.secondTier = none ∧
      memory.app? teardown.space teardown.agent = none := by
  by_cases cleared : teardown.tenantsIn memory = []
  · rw [stepIn_of_cleared cleared] at done
    split at done
    · cases done
    · rename_i noSecondTier
      split at done
      · cases done
      · rename_i noAgent
        rw [Option.not_isSome_iff_eq_none] at noSecondTier noAgent
        refine ⟨?_, noSecondTier, noAgent⟩
        rw [Memory.appsOf_eq_nil_iff]
        intro name app found
        by_contra marks
        rcases operator_of_cleared filed cleared found (Bool.not_eq_false _ ▸ marks) with
          rfl | rfl
        · cases noSecondTier.symm.trans found
        · cases noAgent.symm.trans found
  · rw [stepIn_of_tenants cleared] at done
    cases done

/-- Where no App of the cluster is left, a pass has nothing to do. -/
theorem run_run_of_absent (apps : memory.appsOf teardown.space teardown.id = [])
    (secondTier : memory.app? teardown.space teardown.secondTier = none)
    (agent : memory.app? teardown.space teardown.agent = none) :
    teardown.run.run Memory.handle memory = (.ok .done, memory) := by
  have cleared : teardown.tenantsIn memory = [] := by
    rw [tenantsIn, apps]
    rfl
  have nothingListed : teardown.afterListed memory = memory := by
    rw [afterListed, cleared, afterTenants]
  have nothingRemoved : teardown.afterRun memory = memory := by
    rw [afterRun, nothingListed, if_pos cleared]
    simp only [afterOperators, afterRemoval, secondTier, agent, Option.isSome_none,
      Bool.false_eq_true, if_false]
  rw [run_run, nothingRemoved, stepIn_of_cleared cleared, secondTier, agent]
  rfl

/-- The step that a pass reports is the phase of the store that it leaves, and a pass only
deletes: every App that is left is unchanged but for a deletion mark, and what is neither a
tenant nor named as an operator is left as it was, with everything that is no App. -/
theorem run_reports_phase_of_store_left (teardown : Teardown) (memory : Memory) :
    ∃ after, teardown.run.run Memory.handle memory = (.ok (teardown.stepIn after), after) ∧
      (∀ {space name app}, after.app? space name = some app →
        ∃ old, memory.app? space name = some old ∧
          (app = old ∨ old.isDeleting = false ∧
            app = { old with
              metadata := { old.metadata with deletionTimestamp := some memory.now } })) ∧
      (memory.Filed → ∀ {space name app}, memory.app? space name = some app →
        ¬ (space = teardown.space ∧ (teardown.isTenant app = true ∨
          name = teardown.secondTier ∨ name = teardown.agent)) →
        after.app? space name = some app) ∧
      after = { memory with apps := after.apps, log := after.log } := by
  have reduced := teardown.reduced_afterRun memory
  refine ⟨teardown.afterRun memory, teardown.run_run memory, ?_, ?_, reduced.others⟩
  · intro space name app found
    obtain ⟨old, foundOld, same | marks⟩ := reduced.remains found
    · exact ⟨old, foundOld, .inl same⟩
    · rw [Memory.marked_eq_ite] at marks
      split at marks
      · exact ⟨old, foundOld, .inl marks⟩
      · rename_i live
        exact ⟨old, foundOld, .inr ⟨Bool.eq_false_iff.mpr live, marks⟩⟩
  · intro filed space name app found away
    rw [reduced.untouched, found]
    rintro ⟨sameSpace, inTenants | operator⟩
    · obtain ⟨tenant, inside, sameName⟩ := List.mem_map.mp inTenants
      obtain ⟨isTenant, place, foundTenant⟩ := mem_tenantsIn_iff.mp inside
      cases (filed foundTenant).symm.trans sameName
      rw [← sameSpace, found] at foundTenant
      cases foundTenant
      exact away ⟨sameSpace, .inl isTenant⟩
    · exact away ⟨sameSpace, .inr operator⟩

/-- The teardown of a cluster whose second tier has its usual name. -/
def usual : Teardown := ⟨"demo0", "org-acme", secondTierAppName "demo0"⟩

/-- An App of the cluster that this operator manages. -/
def managedApp (name : String) : App where
  metadata := {
    name := some name
    namespace_ := some "org-acme"
    labels := some (managedLabels "demo0") }

/-- A tenant that finalizers hold. -/
def heldApp : App where
  metadata := {
    name := some "hello"
    namespace_ := some "org-acme"
    labels := some (.ofList [(Label.cluster, "demo0")])
    finalizers := some [agentFinalizer] }

/-- An App of another cluster in the same namespace. -/
def bystander : App where
  metadata := {
    name := some "hello-too"
    namespace_ := some "org-acme"
    labels := some (.ofList [(Label.cluster, "demo1")]) }

/-- A tenant, both operators, and an App that a teardown has nothing to do with. -/
def inhabited : Memory :=
  (((({} : Memory).putApp heldApp).putApp (managedApp usual.secondTier)).putApp
    (managedApp usual.agent)).putApp bystander

/-- The tenant is marked, and all others stay as they are. -/
theorem run_reports_phase_of_store_left_inhabited :
    inhabited.Filed ∧ ∃ after,
      usual.run.run Memory.handle inhabited =
        (.ok (.suspended .waitingTenantGone ["hello"]), after) ∧
      after.app? "org-acme" "hello" = some { heldApp with
        metadata := { heldApp.metadata with deletionTimestamp := some inhabited.now } } ∧
      after.app? "org-acme" usual.secondTier = some (managedApp usual.secondTier) ∧
      after.app? "org-acme" "hello-too" = some bystander := by
  have filed : inhabited.Filed :=
    (((Memory.filed_empty.putApp _).putApp _).putApp _).putApp _
  have reported : (usual.run.run Memory.handle inhabited).1 =
      .ok (.suspended .waitingTenantGone ["hello"]) := by decide +kernel
  have tenantMarked : ((usual.run.run Memory.handle inhabited).2.app? "org-acme" "hello").map
      App.isDeleting = some true := by decide +kernel
  have operatorLive : ((usual.run.run Memory.handle inhabited).2.app? "org-acme"
      usual.secondTier).map App.isDeleting = some false := by decide +kernel
  have tenantThere : inhabited.app? "org-acme" "hello" = some heldApp := by decide +kernel
  have operatorThere : inhabited.app? "org-acme" usual.secondTier =
      some (managedApp usual.secondTier) := by decide +kernel
  obtain ⟨after, played, remains, spared, -⟩ :=
    run_reports_phase_of_store_left usual inhabited
  rw [played] at reported tenantMarked operatorLive
  refine ⟨filed, after, played.trans (congrArg (·, after) reported), ?_, ?_,
    spared filed (by decide +kernel) (by decide +kernel)⟩
  · obtain ⟨app, found, isMarked⟩ := Option.map_eq_some_iff.mp tenantMarked
    obtain ⟨old, foundOld, change⟩ := remains found
    cases tenantThere.symm.trans foundOld
    rcases change with rfl | ⟨-, rfl⟩
    · cases isMarked
    · exact found
  · obtain ⟨app, found, isLive⟩ := Option.map_eq_some_iff.mp operatorLive
    obtain ⟨old, foundOld, change⟩ := remains found
    cases operatorThere.symm.trans foundOld
    rcases change with rfl | ⟨-, rfl⟩
    · exact found
    · cases isLive

end PlatformApps.Teardown
