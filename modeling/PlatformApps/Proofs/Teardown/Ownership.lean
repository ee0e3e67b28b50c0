/-
# Whose Apps a teardown deletes

A teardown finds tenants by their labels and operators by their names, and only of the
tenants it asks whether a GitOps controller owns them. So an operator's name is enough to
have an App deleted that is not the cluster's to delete. The main statement says exactly in
which stores that happens; in all others a pass requests the deletion of Apps that the
cluster owns and of no others.
-/

import PlatformApps.Proofs.Teardown.Asked

namespace PlatformApps.Teardown

variable {teardown : Teardown} {memory : Memory} {name : String} {app : App}

/-- Is the App marked as one of the cluster, with no GitOps controller to bring it back? -/
def owns (teardown : Teardown) (app : App) : Bool :=
  app.isOf teardown.id && !isForeign app.labels

/-- A pass comes to an operator's name and finds a live App there that is not the cluster's:
nothing keeps the tenants, and the name is that of the second tier, or it is that of the
agent and nothing keeps the second tier either. -/
def Overreaches (teardown : Teardown) (memory : Memory) : Prop :=
  (∀ name app, memory.app? teardown.space name = some app → teardown.isTenant app = true →
    app.isFree = true ∧ isForeign app.labels = false) ∧
  ((∃ app, memory.app? teardown.space teardown.secondTier = some app ∧
      app.isDeleting = false ∧ teardown.owns app = false) ∨
    (∀ app, memory.app? teardown.space teardown.secondTier = some app → app.isFree = true) ∧
      ∃ app, memory.app? teardown.space teardown.agent = some app ∧
        app.isDeleting = false ∧ teardown.owns app = false)

/-! ## What the operators' turn finds -/

/-- Where no tenant is left, the others stand as before the pass. -/
theorem app?_afterListed_of_cleared (filed : memory.Filed)
    (cleared : teardown.tenantsIn (teardown.afterListed memory) = []) (name : String) :
    (teardown.afterListed memory).app? teardown.space name =
      (memory.app? teardown.space name).filter fun app => !teardown.isTenant app := by
  rw [app?_afterListed filed]
  cases found : memory.app? teardown.space name with
  | none => rfl
  | some app =>
      rw [Option.bind_some, Option.filter_some]
      cases tenant : teardown.isTenant app with
      | false => rfl
      | true =>
          obtain ⟨free, own⟩ := (tenantsIn_afterListed_eq_nil_iff filed).mp cleared name app
            found tenant
          rw [App.isFree, Bool.and_eq_true, Bool.not_eq_true'] at free
          rw [isPassedOver, free.1, own, Memory.remainder, free.2]
          rfl

theorem found_afterListed_iff (filed : memory.Filed)
    (cleared : teardown.tenantsIn (teardown.afterListed memory) = []) :
    (teardown.afterListed memory).app? teardown.space name = some app ↔
      memory.app? teardown.space name = some app ∧ teardown.isTenant app = false := by
  rw [app?_afterListed_of_cleared filed cleared, Option.filter_eq_some_iff, Bool.not_eq_true']

/-- The second tier is gone after its turn just when nothing has kept it. -/
theorem secondTier_gone_iff (filed : memory.Filed)
    (cleared : teardown.tenantsIn (teardown.afterListed memory) = []) :
    (teardown.afterRemoval (teardown.afterListed memory) teardown.secondTier).app?
        teardown.space teardown.secondTier = none ↔
      ∀ app, memory.app? teardown.space teardown.secondTier = some app → app.isFree = true := by
  rw [app?_afterRemoval, if_pos rfl, app?_afterListed_of_cleared filed cleared]
  cases found : memory.app? teardown.space teardown.secondTier with
  | none => simp only [Option.filter_none, Option.bind_none, reduceCtorEq, false_imp_iff,
      implies_true]
  | some app =>
      simp only [Option.filter_some, Option.some.injEq, forall_eq']
      cases tenant : teardown.isTenant app with
      | true =>
          have free := ((tenantsIn_afterListed_eq_nil_iff filed).mp cleared _ app found tenant).1
          simp only [free, Bool.not_true, Bool.false_eq_true, if_false, Option.bind_none]
      | false =>
          simp only [Bool.not_false, if_true, Option.bind_some, App.isFree, Memory.remainder]
          cases app.isDeleting <;> cases app.finalizers.isEmpty <;> simp

/-- An App of which a request is made is live, and where the cluster does not own it, it
stands under the name of an operator. -/
theorem live_and_owned_or_operator {space : String} {before : Memory} (filed : memory.Filed)
    (asked : (StoreCall.deleteApp space name, before) ∈
      teardown.run.moments Memory.handle memory) :
    space = teardown.space ∧ ∃ app, before.app? space name = some app ∧
      app.isDeleting = false ∧
      (teardown.owns app = true ∨ name = teardown.secondTier ∨ name = teardown.agent) := by
  obtain ⟨rfl, request⟩ := requests_of_asked asked
  refine ⟨rfl, ?_⟩
  cases request with
  | tenant listed live own =>
      rename_i early late app
      have inside : app ∈ teardown.tenantsIn memory := by
        rw [listed]
        exact List.mem_append_right _ List.mem_cons_self
      have tenant := (mem_tenantsIn_iff.mp inside).1
      rw [isTenant, Bool.and_eq_true] at tenant
      refine ⟨app, found_of_listed filed listed, live, .inl ?_⟩
      rw [owns, tenant.1, own]
      rfl
  | secondTier cleared found live => exact ⟨_, found, live, .inr (.inl rfl)⟩
  | agent left cleared gone found live => exact ⟨_, found, live, .inr (.inr rfl)⟩

/-- What the cluster does not own is no tenant, unless a GitOps controller owns it. -/
theorem isTenant_eq_false_of_not_owned
    (free : teardown.isTenant app = true → isForeign app.labels = false)
    (stranger : teardown.owns app = false) : teardown.isTenant app = false := by
  by_contra tenant
  rw [Bool.not_eq_false] at tenant
  have own := free tenant
  rw [isTenant, Bool.and_eq_true] at tenant
  rw [owns, tenant.1, own] at stranger
  cases stranger

/-- In a store in which a pass overreaches, it requests the deletion of an App that the
cluster does not own. -/
theorem asked_of_overreaches (filed : memory.Filed) (overreaches : teardown.Overreaches memory) :
    ∃ name before app, (StoreCall.deleteApp teardown.space name, before) ∈
        teardown.run.moments Memory.handle memory ∧
      before.app? teardown.space name = some app ∧ teardown.owns app = false := by
  obtain ⟨free, turn⟩ := overreaches
  have cleared := (tenantsIn_afterListed_eq_nil_iff filed).mpr free
  have stands {name : String} {app : App}
      (found : memory.app? teardown.space name = some app) (stranger : teardown.owns app = false) :
      (teardown.afterListed memory).app? teardown.space name = some app :=
    (found_afterListed_iff filed cleared).mpr ⟨found, isTenant_eq_false_of_not_owned
      (fun tenant => (free name app found tenant).2) stranger⟩
  rcases turn with ⟨app, found, live, stranger⟩ | ⟨secondTierFree, app, found, live, stranger⟩
  · refine ⟨_, _, app, asked_by_run_iff.mpr (.inr ⟨cleared, ?_⟩), stands found stranger, stranger⟩
    exact asked_by_removeOperators_secondTier (stands found stranger) live
  · by_cases sameName : teardown.agent = teardown.secondTier
    · -- an agent with the name of the second tier has its turn as the second tier
      rw [sameName] at found
      refine ⟨_, _, app, asked_by_run_iff.mpr (.inr ⟨cleared, ?_⟩), stands found stranger,
        stranger⟩
      exact asked_by_removeOperators_secondTier (stands found stranger) live
    · have gone := (secondTier_gone_iff filed cleared).mpr secondTierFree
      have left : (teardown.afterRemoval (teardown.afterListed memory) teardown.secondTier).app?
          teardown.space teardown.agent = some app := by
        rw [app?_afterRemoval, if_neg sameName]
        exact stands found stranger
      refine ⟨_, _, app, asked_by_run_iff.mpr (.inr ⟨cleared, ?_⟩), left, stranger⟩
      exact asked_by_removeOperators_agent rfl gone left live

/-- Where a pass requests the deletion of an App that the cluster does not own, it
overreaches. -/
theorem overreaches_of_asked {space : String} {before : Memory} (filed : memory.Filed)
    (asked : (StoreCall.deleteApp space name, before) ∈
      teardown.run.moments Memory.handle memory)
    (found : before.app? space name = some app) (stranger : teardown.owns app = false) :
    teardown.Overreaches memory := by
  obtain ⟨rfl, tenantStage | ⟨cleared, operatorStage⟩⟩ := asked_by_run_iff_requested.mp asked
  · obtain ⟨early, tenant, late, listed, live, own, rfl, rfl⟩ := tenantStage
    cases (found_of_listed filed listed).symm.trans found
    have inside : app ∈ teardown.tenantsIn memory := by
      rw [listed]
      exact List.mem_append_right _ List.mem_cons_self
    have isTenant := (mem_tenantsIn_iff.mp inside).1
    rw [isTenant_eq_false_of_not_owned (fun _ => own) stranger] at isTenant
    cases isTenant
  · have free := (tenantsIn_afterListed_eq_nil_iff filed).mp cleared
    refine ⟨free, ?_⟩
    rcases operatorStage with
      ⟨rfl, rfl, other, there, live⟩ | ⟨rfl, rfl, gone, other, there, live⟩
    · cases there.symm.trans found
      have stood := ((found_afterListed_iff filed cleared).mp found).1
      exact .inl ⟨app, stood, live, stranger⟩
    · cases there.symm.trans found
      have notSecondTier : teardown.agent ≠ teardown.secondTier := by
        intro same
        rw [same, gone] at found
        cases found
      rw [app?_afterRemoval, if_neg notSecondTier] at found
      have stood := ((found_afterListed_iff filed cleared).mp found).1
      exact .inr ⟨(secondTier_gone_iff filed cleared).mp gone, app, stood, live, stranger⟩

/-- A pass requests the deletion of live Apps only, each the cluster's own or under the name
of an operator. And it requests the deletion of nothing but live Apps with the label of the
cluster that no GitOps controller owns, just where it does not overreach. -/
theorem deletes_owned_iff (teardown : Teardown) (memory : Memory) (filed : memory.Filed) :
    (∀ space name before, (StoreCall.deleteApp space name, before) ∈
        teardown.run.moments Memory.handle memory →
      space = teardown.space ∧ ∃ app, before.app? space name = some app ∧
        app.isDeleting = false ∧ (app.isOf teardown.id = true ∧ isForeign app.labels = false ∨
          name = teardown.secondTier ∨ name = teardown.agent)) ∧
    ((∀ space name before, (StoreCall.deleteApp space name, before) ∈
        teardown.run.moments Memory.handle memory →
      ∃ app, before.app? space name = some app ∧ app.isOf teardown.id = true ∧
        app.isDeleting = false ∧ isForeign app.labels = false) ↔
      ¬ teardown.Overreaches memory) := by
  have owned (app : App) : teardown.owns app = true ↔
      app.isOf teardown.id = true ∧ isForeign app.labels = false := by
    rw [owns, Bool.and_eq_true, Bool.not_eq_true']
  constructor
  · intro space name before asked
    obtain ⟨sameSpace, app, found, live, whose⟩ := live_and_owned_or_operator filed asked
    exact ⟨sameSpace, app, found, live, whose.imp_left (owned app).mp⟩
  · constructor
    · intro allOwned overreaches
      obtain ⟨name, before, app, asked, found, stranger⟩ := asked_of_overreaches filed overreaches
      obtain ⟨other, foundOther, marks, _, own⟩ := allOwned _ name before asked
      cases found.symm.trans foundOther
      cases stranger.symm.trans ((owned app).mpr ⟨marks, own⟩)
    · intro within space name before asked
      obtain ⟨rfl, app, found, live, _⟩ := live_and_owned_or_operator filed asked
      by_cases own : teardown.owns app = true
      · obtain ⟨marks, notForeign⟩ := (owned app).mp own
        exact ⟨app, found, marks, live, notForeign⟩
      · have stranger := Bool.eq_false_iff.mpr own
        exact absurd (overreaches_of_asked filed asked found stranger) within

theorem deletes_owned_iff_operatorsOnly :
    operatorsOnly.Filed ∧ ¬ usual.Overreaches operatorsOnly ∧ ∃ before,
      (StoreCall.deleteApp "org-acme" usual.secondTier, before) ∈
        usual.run.moments Memory.handle operatorsOnly ∧
      ∃ app, before.app? "org-acme" usual.secondTier = some app ∧
        app.isOf usual.id = true ∧ app.isDeleting = false ∧ isForeign app.labels = false := by
  have filed : operatorsOnly.Filed := (Memory.filed_empty.putApp _).putApp _
  have cleared : usual.tenantsIn (usual.afterListed operatorsOnly) = [] := by
    decide +kernel
  have within : ¬ usual.Overreaches operatorsOnly := by
    have both :
        (operatorsOnly.app? usual.space usual.secondTier).all usual.owns = true ∧
          (operatorsOnly.app? usual.space usual.agent).all usual.owns = true := by
      decide +kernel
    rintro ⟨_, ⟨app, found, _, stranger⟩ | ⟨_, app, found, _, stranger⟩⟩
    · rw [found] at both
      cases stranger.symm.trans both.1
    · rw [found] at both
      cases stranger.symm.trans both.2
  have there : ((usual.afterListed operatorsOnly).app? "org-acme" usual.secondTier).any
      (fun app => !app.isDeleting) = true := by
    decide +kernel
  obtain ⟨app, found, live⟩ := Option.any_eq_true _ _ |>.mp there
  rw [Bool.not_eq_true'] at live
  have asked := asked_by_run_iff.mpr
    (.inr ⟨cleared, asked_by_removeOperators_secondTier found live⟩)
  exact ⟨filed, within, _, asked,
    ((deletes_owned_iff usual operatorsOnly filed).2.mpr within) _ _ _ asked⟩

/-- An agent that a GitOps controller has adopted. -/
def adoptedAgent : App where
  metadata := {
    name := some "demo0-app-operator"
    namespace_ := some "org-acme"
    labels := some (.ofList [
      (Label.cluster, "demo0"),
      (Label.managedBy, projectName),
      (Label.kustomizationName, "apps"),
      (Label.kustomizationNamespace, "flux-system")])
    finalizers := some [agentFinalizer] }

def adopted : Memory := ({} : Memory).putApp adoptedAgent

/-- The agent's turn does not ask who owns what stands under its name. -/
theorem adopted_agent_deleted :
    adopted.Filed ∧ ∃ before, (StoreCall.deleteApp "org-acme" "demo0-app-operator", before) ∈
        usual.run.moments Memory.handle adopted ∧
      before.app? "org-acme" "demo0-app-operator" = some adoptedAgent ∧
      isForeign adoptedAgent.labels = true := by
  have cleared : usual.tenantsIn (usual.afterListed adopted) = [] := by
    decide +kernel
  have gone : (usual.afterRemoval (usual.afterListed adopted) usual.secondTier).app?
      usual.space usual.secondTier = none := by
    decide +kernel
  have found : (usual.afterRemoval (usual.afterListed adopted) usual.secondTier).app?
      usual.space usual.agent = some adoptedAgent := by
    decide +kernel
  have asked := asked_by_run_iff.mpr
    (.inr ⟨cleared, asked_by_removeOperators_agent rfl gone found rfl⟩)
  exact ⟨Memory.filed_empty.putApp _, _, asked, found, rfl⟩

end PlatformApps.Teardown
