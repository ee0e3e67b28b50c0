/-
# The requests of a teardown, read off the store

`Requests` bounds what a pass asks for; here the bound is shown to be exact. What each stage
leaves at a place is given by what has stood there before the pass, so whether a request is
made can be told from that store alone.
-/

import PlatformApps.Proofs.Teardown.Reentry

namespace PlatformApps

/-- Does a request for its deletion take the App away? -/
def App.isFree (app : App) : Bool := !app.isDeleting && app.finalizers.isEmpty

namespace Memory

/-- A second request for a deletion leaves what the first one has left. -/
theorem remainder_remainder (app : App) (now : Timestamp) :
    ((remainder app now).bind fun left => remainder left now) = remainder app now := by
  unfold remainder
  split
  · rfl
  · rename_i held
    rw [Option.bind_some, marked_finalizers, if_neg held, marked_marked]

theorem now_afterDelete (memory : Memory) (space name : String) :
    (memory.afterDelete space name).now = memory.now :=
  (memory.reduced_afterDelete space name).now_eq

end Memory

namespace Teardown

variable {teardown : Teardown} {memory before : Memory} {space name : String}

/-! ## What each stage leaves at a place -/

theorem app?_afterTenants (apps : List App) (memory : Memory) (name : String) :
    (teardown.afterTenants apps memory).app? teardown.space name =
      if apps.any fun app => app.name == name && !isPassedOver app then
        (memory.app? teardown.space name).bind fun app => Memory.remainder app memory.now
      else memory.app? teardown.space name := by
  induction apps generalizing memory with
  | nil => rfl
  | cons app rest ih =>
      rw [afterTenants, ← isPassedOver, List.any_cons]
      cases passedOver : isPassedOver app with
      | true =>
          rw [if_pos rfl, ih, Bool.not_true, Bool.and_false, Bool.false_or]
      | false =>
          rw [if_neg Bool.false_ne_true, ih, Memory.app?_afterDelete, Memory.now_afterDelete,
            Bool.not_false, Bool.and_true]
          by_cases same : app.name = name
          · -- a later request for the same name changes nothing more
            subst same
            rw [if_pos rfl, beq_self_eq_true, Bool.true_or, if_pos rfl, Option.bind_assoc]
            simp only [Memory.remainder_remainder, ite_self]
          · have apart : (teardown.space, name) ≠ (teardown.space, app.name) :=
              fun equal => same (Prod.mk.inj equal).2.symm
            rw [if_neg apart, beq_false_of_ne same, Bool.false_or]

/-- Of the Apps that stand under their own names, the listed stage reduces the tenants that
it does not pass over. -/
theorem app?_afterListed (filed : memory.Filed) (name : String) :
    (teardown.afterListed memory).app? teardown.space name =
      (memory.app? teardown.space name).bind fun app =>
        if teardown.isTenant app && !isPassedOver app then Memory.remainder app memory.now
        else some app := by
  rw [afterListed, app?_afterTenants]
  cases found : memory.app? teardown.space name with
  | none => simp only [Option.bind_none, ite_self]
  | some app =>
      rw [Option.bind_some, Option.bind_some]
      have listed : ((teardown.tenantsIn memory).any fun other =>
          other.name == name && !isPassedOver other) =
            (teardown.isTenant app && !isPassedOver app) := by
        rw [Bool.eq_iff_iff, List.any_eq_true]
        constructor
        · rintro ⟨other, inside, named⟩
          rw [Bool.and_eq_true, beq_iff_eq] at named
          obtain ⟨tenant, place, foundOther⟩ := mem_tenantsIn_iff.mp inside
          rw [← filed foundOther, named.1, found] at foundOther
          cases foundOther
          rw [tenant, named.2]
          rfl
        · intro taken
          rw [Bool.and_eq_true] at taken
          refine ⟨app, mem_tenantsIn_iff.mpr ⟨taken.1, name, found⟩, ?_⟩
          rw [filed found, taken.2, beq_self_eq_true]
          rfl
      rw [listed]

theorem app?_afterRemoval (memory : Memory) (target name : String) :
    (teardown.afterRemoval memory target).app? teardown.space name =
      if name = target then (memory.app? teardown.space target).bind fun app =>
        if app.isDeleting then some app else Memory.remainder app memory.now
      else memory.app? teardown.space name := by
  split
  · rename_i same
    subst same
    cases found : memory.app? teardown.space name with
    | none =>
        simp only [afterRemoval, found]
        rfl
    | some app =>
        simp only [afterRemoval, found, Option.bind_some]
        split
        · exact found
        · rw [Memory.app?_afterDelete_self, found, Option.bind_some]
  · rename_i different
    refine (reduced_afterRemoval memory target).untouched fun same => ?_
    exact different (Prod.mk.inj same).2

/-- No tenant is left of a pass just when it passes over none and none is held. -/
theorem tenantsIn_afterListed_eq_nil_iff (filed : memory.Filed) :
    teardown.tenantsIn (teardown.afterListed memory) = [] ↔
      ∀ name app, memory.app? teardown.space name = some app → teardown.isTenant app = true →
        app.isFree = true ∧ isForeign app.labels = false := by
  rw [List.eq_nil_iff_forall_not_mem]
  constructor
  · intro cleared name app found tenant
    have left := @app?_afterListed teardown memory filed name
    rw [found, Option.bind_some, tenant, Bool.true_and] at left
    cases passedOver : isPassedOver app with
    | true =>
        rw [passedOver] at left
        exact absurd (mem_tenantsIn_iff.mpr ⟨tenant, name, left⟩) (cleared app)
    | false =>
        rw [passedOver, Bool.not_false, if_pos rfl, Memory.remainder] at left
        rw [isPassedOver, Bool.or_eq_false_iff] at passedOver
        refine ⟨?_, passedOver.2⟩
        by_contra held
        rw [App.isFree, passedOver.1, Bool.not_false, Bool.true_and] at held
        rw [if_neg held] at left
        refine absurd (mem_tenantsIn_iff.mpr ⟨?_, name, left⟩) (cleared _)
        rwa [isTenant_eq_of_kept (Memory.marked_name app _) (Memory.marked_labels app _)]
  · intro free app inside
    obtain ⟨tenant, name, left⟩ := mem_tenantsIn_iff.mp inside
    obtain ⟨old, found, sameName, sameLabels⟩ := (reduced_afterListed memory).kept_of_found left
    rw [isTenant_eq_of_kept sameName sameLabels] at tenant
    obtain ⟨freeOld, own⟩ := free name old found tenant
    rw [App.isFree, Bool.and_eq_true, Bool.not_eq_true'] at freeOld
    rw [app?_afterListed filed, found, Option.bind_some, tenant, isPassedOver, freeOld.1, own,
      Memory.remainder, freeOld.2] at left
    cases left

/-! ## Every request is made -/

theorem asked_by_deleteTenants (early late : List App) {app : App}
    (live : app.isDeleting = false) (own : isForeign app.labels = false) (memory : Memory) :
    (StoreCall.deleteApp teardown.space app.name, teardown.afterTenants early memory) ∈
      (teardown.deleteTenants (early ++ app :: late)).moments Memory.handle memory := by
  induction early generalizing memory with
  | nil =>
      have taken : ¬ (app.isDeleting || isForeign app.labels) = true := by
        rw [live, own]
        exact Bool.false_ne_true
      rw [List.nil_append, deleteTenants, if_neg taken, Dialogue.moments_bind, moments_delete]
      exact List.mem_append_left _ List.mem_cons_self
  | cons first rest ih =>
      rw [List.cons_append, deleteTenants, afterTenants]
      split
      · exact ih memory
      · exact Dialogue.mem_moments_bind_of_ok (teardown.run_delete memory first.name) (ih _)

theorem asked_by_removeApp {target : String} {app : App}
    (found : memory.app? teardown.space target = some app) (live : app.isDeleting = false) :
    (StoreCall.deleteApp teardown.space target, memory) ∈
      (teardown.removeApp target).moments Memory.handle memory := by
  simp only [removeApp, Dialogue.bind_eq, Dialogue.pure_eq]
  refine Dialogue.mem_moments_bind_of_ok (teardown.run_find? memory target) ?_
  simp only [found, live, Bool.false_eq_true, if_false]
  rw [Dialogue.moments_bind, moments_delete]
  exact List.mem_append_left _ List.mem_cons_self

theorem asked_by_removeOperators_secondTier {app : App}
    (found : memory.app? teardown.space teardown.secondTier = some app)
    (live : app.isDeleting = false) :
    (StoreCall.deleteApp teardown.space teardown.secondTier, memory) ∈
      teardown.removeOperators.moments Memory.handle memory := by
  simp only [removeOperators, Dialogue.bind_eq]
  exact Dialogue.mem_moments_bind_iff.mpr (.inl (asked_by_removeApp found live))

theorem asked_by_removeOperators_agent {app : App}
    (left : before = teardown.afterRemoval memory teardown.secondTier)
    (gone : before.app? teardown.space teardown.secondTier = none)
    (found : before.app? teardown.space teardown.agent = some app)
    (live : app.isDeleting = false) :
    (StoreCall.deleteApp teardown.space teardown.agent, before) ∈
      teardown.removeOperators.moments Memory.handle memory := by
  have first := teardown.run_removeApp memory teardown.secondTier
  rw [← left, gone, Option.isSome_none] at first
  simp only [removeOperators, Dialogue.bind_eq]
  refine Dialogue.mem_moments_bind_of_ok first ?_
  rw [if_neg Bool.false_ne_true]
  exact Dialogue.mem_moments_bind_iff.mpr (.inl (asked_by_removeApp found live))

/-- Exactly when a pass asks for a deletion: for a listed tenant that it does not pass over,
and once no tenant is left for the second tier, then for the agent. -/
theorem asked_by_run_iff_requested :
    (StoreCall.deleteApp space name, before) ∈ teardown.run.moments Memory.handle memory ↔
      space = teardown.space ∧
        ((∃ early app late, teardown.tenantsIn memory = early ++ app :: late ∧
            app.isDeleting = false ∧ isForeign app.labels = false ∧ name = app.name ∧
            before = teardown.afterTenants early memory) ∨
          teardown.tenantsIn (teardown.afterListed memory) = [] ∧
            ((name = teardown.secondTier ∧ before = teardown.afterListed memory ∧
                ∃ app, before.app? teardown.space teardown.secondTier = some app ∧
                  app.isDeleting = false) ∨
              name = teardown.agent ∧
                before = teardown.afterRemoval (teardown.afterListed memory)
                  teardown.secondTier ∧
                before.app? teardown.space teardown.secondTier = none ∧
                ∃ app, before.app? teardown.space teardown.agent = some app ∧
                  app.isDeleting = false)) := by
  rw [asked_by_run_iff]
  constructor
  · rintro (deleting | ⟨cleared, removing⟩)
    · obtain ⟨sameSpace, requested⟩ := requested_by_deleteTenants deleting
      exact ⟨sameSpace, .inl requested⟩
    · obtain ⟨sameSpace, ⟨sameName, rfl, there⟩ | later⟩ := requested_by_removeOperators removing
      · exact ⟨sameSpace, .inr ⟨cleared, .inl ⟨sameName, rfl, there⟩⟩⟩
      · exact ⟨sameSpace, .inr ⟨cleared, .inr later⟩⟩
  · rintro ⟨rfl, ⟨early, app, late, listed, live, own, rfl, rfl⟩ | ⟨cleared, operator⟩⟩
    · rw [listed]
      exact .inl (asked_by_deleteTenants early late live own memory)
    · refine .inr ⟨cleared, ?_⟩
      rcases operator with ⟨rfl, rfl, app, found, live⟩ | ⟨rfl, left, gone, app, found, live⟩
      · exact asked_by_removeOperators_secondTier found live
      · exact asked_by_removeOperators_agent left gone found live

end Teardown

end PlatformApps
