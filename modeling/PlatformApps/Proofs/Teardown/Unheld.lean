/-
# A teardown that nothing holds up

Where no finalizer holds an App of the cluster, no GitOps controller owns one and none is
being deleted yet, every request for deletion takes its App away. The main statement is that
a single pass is then done, and that it leaves all Apps but those of the cluster and those
named as its operators.
-/

import PlatformApps.Proofs.Teardown.Asked

namespace PlatformApps.Teardown

variable {teardown : Teardown} {memory : Memory}

/-- Is the App one that a teardown takes away: one of the cluster, or named as an operator? -/
def concerns (teardown : Teardown) (name : String) (app : App) : Bool :=
  app.isOf teardown.id || name == teardown.secondTier || name == teardown.agent

/-- Nothing keeps the Apps that a teardown takes away. -/
def Unheld (teardown : Teardown) (memory : Memory) : Prop :=
  ∀ ⦃name app⦄, memory.app? teardown.space name = some app → teardown.concerns name app = true →
    app.name = name ∧ app.finalizers = [] ∧ isPassedOver app = false

theorem concerns_of_isTenant {name : String} {app : App}
    (tenant : teardown.isTenant app = true) : teardown.concerns name app = true := by
  rw [isTenant, Bool.and_eq_true] at tenant
  rw [concerns, tenant.1]
  rfl

/-- An App that a teardown takes away is a tenant or has the name of an operator. -/
theorem concerns_eq_of_unheld (unheld : teardown.Unheld memory) {name : String} {app : App}
    (found : memory.app? teardown.space name = some app) :
    teardown.concerns name app =
      (teardown.isTenant app || name == teardown.secondTier || name == teardown.agent) := by
  cases marks : app.isOf teardown.id with
  | false => simp only [concerns, isTenant, marks, Bool.false_and]
  | true =>
      have concerned : teardown.concerns name app = true := by
        rw [concerns, marks]
        rfl
      have sameName := (unheld found concerned).1
      simp only [concerns, isTenant, isTenantName, marks, sameName, Bool.true_and, bne]
      cases isManaged app.labels <;> cases name == teardown.secondTier <;>
        cases name == teardown.agent <;> rfl

/-- The tenants are gone once their deletion has been requested, and no other App is. -/
theorem app?_afterListed_of_unheld (unheld : teardown.Unheld memory) (name : String) :
    (teardown.afterListed memory).app? teardown.space name =
      (memory.app? teardown.space name).filter fun app => !teardown.isTenant app := by
  have reduced := teardown.reduced_afterListed memory
  cases found : memory.app? teardown.space name with
  | none => rw [reduced.absent found, Option.filter_none]
  | some app =>
      cases tenant : teardown.isTenant app with
      | true =>
          obtain ⟨sameName, noFinalizers, taken⟩ := unheld found (concerns_of_isTenant tenant)
          have inside := mem_tenantsIn_iff.mpr ⟨tenant, name, found⟩
          have requested := teardown.requested_afterTenants inside taken memory
          rw [sameName] at requested
          simp only [Option.filter_some, tenant, Bool.not_true, Bool.false_eq_true, if_false]
          cases left : (teardown.afterListed memory).app? teardown.space name with
          | none => rfl
          | some remaining =>
              -- what is left after a request is held by finalizers, which this App has not
              have held := (requested remaining left).2
              obtain ⟨old, foundOld, rfl | rfl⟩ := reduced.remains left
              · cases found.symm.trans foundOld
                exact absurd noFinalizers held
              · cases found.symm.trans foundOld
                rw [Memory.marked_finalizers] at held
                exact absurd noFinalizers held
      | false =>
          simp only [Option.filter_some, tenant, Bool.not_false, if_true]
          refine ((reduced_afterTenants _ memory).untouched ?_).trans found
          rintro ⟨_, listed⟩
          obtain ⟨other, inside, rfl⟩ := List.mem_map.mp listed
          obtain ⟨otherTenant, place, foundOther⟩ := mem_tenantsIn_iff.mp inside
          have filed := (unheld foundOther (concerns_of_isTenant otherTenant)).1
          rw [← filed, found] at foundOther
          cases foundOther
          cases tenant.symm.trans otherTenant

theorem tenantsIn_afterListed_of_unheld (unheld : teardown.Unheld memory) :
    teardown.tenantsIn (teardown.afterListed memory) = [] := by
  rw [List.eq_nil_iff_forall_not_mem]
  intro app inside
  obtain ⟨tenant, name, found⟩ := mem_tenantsIn_iff.mp inside
  rw [app?_afterListed_of_unheld unheld, Option.filter_eq_some_iff, tenant] at found
  exact absurd found.2 (by decide)

/-- An operator that nothing keeps is gone once it has been removed, and no other App is. -/
theorem app?_afterRemoval_of_unheld {target : String}
    (unheld : ∀ app, memory.app? teardown.space target = some app →
      app.finalizers = [] ∧ app.isDeleting = false) (name : String) :
    (teardown.afterRemoval memory target).app? teardown.space name =
      if name = target then none else memory.app? teardown.space name := by
  rw [app?_afterRemoval]
  split
  · cases found : memory.app? teardown.space target with
    | none => rfl
    | some app =>
        obtain ⟨noFinalizers, live⟩ := unheld app found
        rw [Option.bind_some, live, if_neg Bool.false_ne_true, Memory.remainder, noFinalizers]
        rfl
  · rfl

theorem app?_afterOperators_of_unheld
    (secondTier : ∀ app, memory.app? teardown.space teardown.secondTier = some app →
      app.finalizers = [] ∧ app.isDeleting = false)
    (agent : ∀ app, memory.app? teardown.space teardown.agent = some app →
      app.finalizers = [] ∧ app.isDeleting = false) (name : String) :
    (teardown.afterOperators memory).app? teardown.space name =
      if name = teardown.secondTier ∨ name = teardown.agent then none
      else memory.app? teardown.space name := by
  have first := app?_afterRemoval_of_unheld secondTier
  have gone := first teardown.secondTier
  rw [if_pos rfl] at gone
  have second : ∀ app, (teardown.afterRemoval memory teardown.secondTier).app? teardown.space
      teardown.agent = some app → app.finalizers = [] ∧ app.isDeleting = false := by
    intro app found
    rw [first] at found
    split at found
    · cases found
    · exact agent app found
  simp only [afterOperators, gone, Option.isSome_none, Bool.false_eq_true, if_false]
  rw [app?_afterRemoval_of_unheld second, first]
  by_cases isAgent : name = teardown.agent
  · rw [if_pos isAgent, if_pos (.inr isAgent)]
  · simp only [isAgent, if_false, or_false]

/-- Where nothing keeps the Apps that a teardown takes away, one pass takes them all away, and
it leaves everything else as it was. -/
theorem run_run_of_unheld (unheld : teardown.Unheld memory) :
    ∃ after, teardown.run.run Memory.handle memory = (.ok .done, after) ∧
      (∀ name, after.app? teardown.space name =
        (memory.app? teardown.space name).filter fun app => !teardown.concerns name app) ∧
      (∀ space, space ≠ teardown.space → ∀ name, after.app? space name = memory.app? space name) ∧
      after = { memory with apps := after.apps, log := after.log } := by
  have reduced := teardown.reduced_afterRun memory
  have cleared := tenantsIn_afterListed_of_unheld unheld
  have listed := app?_afterListed_of_unheld unheld
  have operator (name : String)
      (named : (name == teardown.secondTier || name == teardown.agent) = true) :
      ∀ app, (teardown.afterListed memory).app? teardown.space name = some app →
        app.finalizers = [] ∧ app.isDeleting = false := by
    intro app left
    rw [listed, Option.filter_eq_some_iff] at left
    have concerned : teardown.concerns name app = true := by
      rw [concerns, Bool.or_assoc, named, Bool.or_true]
    obtain ⟨_, noFinalizers, taken⟩ := unheld left.1 concerned
    rw [isPassedOver, Bool.or_eq_false_iff] at taken
    exact ⟨noFinalizers, taken.1⟩
  have operators := app?_afterOperators_of_unheld (operator teardown.secondTier (by simp))
    (operator teardown.agent (by simp))
  have left : teardown.afterRun memory = teardown.afterOperators (teardown.afterListed memory) := by
    rw [afterRun, if_pos cleared]
  have done : teardown.stepIn (teardown.afterRun memory) = .done := by
    have stillCleared := tenantsIn_eq_nil_of_reduced
      (teardown.reduced_afterOperators (teardown.afterListed memory)) cleared
    rw [left, stepIn_of_cleared stillCleared]
    simp only [operators, true_or, or_true, if_true, Option.isSome_none, Bool.false_eq_true,
      if_false]
  refine ⟨teardown.afterRun memory, by rw [run_run, done], ?_, ?_, reduced.others⟩
  · intro name
    rw [left, operators, listed]
    cases found : memory.app? teardown.space name with
    | none => simp only [Option.filter_none, ite_self]
    | some app =>
        simp only [Option.filter_some, concerns_eq_of_unheld unheld found]
        by_cases first : name = teardown.secondTier
        · simp [first]
        · by_cases second : name = teardown.agent
          · simp [second]
          · simp [first, second]
  · intro space different name
    exact reduced.untouched fun touched => different touched.1

end PlatformApps.Teardown
