/-
# Which deletions a teardown requests, and when

`Requests` lists the requests that a pass makes, each with the store at that moment; every
deletion that a pass asks for is one of them. The main statement is the order: an operator
that is not itself a tenant is asked to go only when nothing that depends on it is left.
-/

import Mathlib.Logic.Relation
import PlatformApps.Proofs.Store.Calls
import PlatformApps.Proofs.Teardown.Run

namespace PlatformApps.Teardown

/-- The requests for deletion that a pass makes, with the store just before each. -/
inductive Requests (teardown : Teardown) (memory : Memory) : String → Memory → Prop where
  /-- A tenant is asked to go after those listed before it. -/
  | tenant {early late : List App} {app : App}
      (listed : teardown.tenantsIn memory = early ++ app :: late)
      (live : app.isDeleting = false) (own : isForeign app.labels = false) :
      Requests teardown memory app.name (teardown.afterTenants early memory)
  /-- The second tier is asked to go when no tenant is left. -/
  | secondTier {app : App} (cleared : teardown.tenantsIn (teardown.afterListed memory) = [])
      (found : (teardown.afterListed memory).app? teardown.space teardown.secondTier = some app)
      (live : app.isDeleting = false) :
      Requests teardown memory teardown.secondTier (teardown.afterListed memory)
  /-- The agent is asked to go when the second tier is gone as well. -/
  | agent {before : Memory} {app : App}
      (left : before = teardown.afterRemoval (teardown.afterListed memory) teardown.secondTier)
      (cleared : teardown.tenantsIn before = [])
      (gone : before.app? teardown.space teardown.secondTier = none)
      (found : before.app? teardown.space teardown.agent = some app)
      (live : app.isDeleting = false) :
      Requests teardown memory teardown.agent before

variable {teardown : Teardown} {memory before : Memory} {space name : String}

theorem asks_tenants : teardown.tenants.Asks fun call : StoreCall => call.writesApps = false := by
  refine Dialogue.Asks.bind ⟨rfl, fun _ => trivial⟩ fun _ => ?_
  exact Dialogue.Asks.bind ⟨rfl, fun _ => trivial⟩ fun _ => trivial

theorem asks_find? (name : String) :
    (teardown.find? name).Asks fun call : StoreCall => call.writesApps = false := by
  refine ⟨rfl, fun outcome => ?_⟩
  cases outcome with
  | ok app => trivial
  | error failure =>
      cases harmless : failure.isNotFound <;> simp [harmless, Dialogue.Asks, Dialogue.fail]

/-- What writes no App requests no deletion. -/
theorem not_requested {α : Type} {dialogue : Dialogue Store α}
    (asks : dialogue.Asks fun call : StoreCall => call.writesApps = false) :
    (StoreCall.deleteApp space name, before) ∉ dialogue.moments Memory.handle memory := by
  intro asked
  cases asks.allowed_of_mem asked

theorem moments_delete (target : String) (memory : Memory) :
    (teardown.delete target).moments Memory.handle memory =
      [(StoreCall.deleteApp teardown.space target, memory)] :=
  Dialogue.moments_tolerate (I := Store) Memory.handle _ _ _ _

theorem requested_by_deleteTenants {apps : List App} {memory : Memory}
    (asked : (StoreCall.deleteApp space name, before) ∈
      (teardown.deleteTenants apps).moments Memory.handle memory) :
    space = teardown.space ∧ ∃ early app late, apps = early ++ app :: late ∧
      app.isDeleting = false ∧ isForeign app.labels = false ∧ name = app.name ∧
      before = teardown.afterTenants early memory := by
  induction apps generalizing memory with
  | nil => cases asked
  | cons app rest ih =>
      rw [deleteTenants] at asked
      split at asked
      · rename_i skipped
        obtain ⟨sameSpace, early, tenant, late, rfl, live, own, sameName, rfl⟩ := ih asked
        refine ⟨sameSpace, app :: early, tenant, late, rfl, live, own, sameName, ?_⟩
        rw [afterTenants, if_pos skipped]
      · rename_i taken
        rw [Dialogue.mem_moments_bind_iff, run_delete, moments_delete] at asked
        rcases asked with now | ⟨_, between, played, later⟩
        · cases List.mem_singleton.mp now
          simp only [Bool.or_eq_true, not_or, Bool.not_eq_true] at taken
          exact ⟨rfl, [], app, rest, rfl, taken.1, taken.2, rfl, rfl⟩
        · cases played
          obtain ⟨sameSpace, early, tenant, late, rfl, live, own, sameName, rfl⟩ := ih later
          refine ⟨sameSpace, app :: early, tenant, late, rfl, live, own, sameName, ?_⟩
          rw [afterTenants, if_neg taken]

theorem requested_by_removeApp {target : String} {memory : Memory}
    (asked : (StoreCall.deleteApp space name, before) ∈
      (teardown.removeApp target).moments Memory.handle memory) :
    space = teardown.space ∧ name = target ∧ before = memory ∧
      ∃ app, memory.app? teardown.space target = some app ∧ app.isDeleting = false := by
  simp only [removeApp, Dialogue.bind_eq, Dialogue.pure_eq] at asked
  rw [Dialogue.mem_moments_bind_iff, run_find?] at asked
  rcases asked with looking | ⟨_, between, played, later⟩
  · exact absurd looking (not_requested (asks_find? target))
  · cases played
    have rest {memory : Memory} : (StoreCall.deleteApp space name, before) ∉
        ((teardown.find? target).bind fun found =>
          .done (.ok found.isSome)).moments Memory.handle memory :=
      not_requested (Dialogue.Asks.bind (asks_find? target) fun _ => trivial)
    cases found : memory.app? teardown.space target with
    | none =>
        rw [found] at later
        cases later
    | some app =>
        rw [found] at later
        simp only at later
        split at later
        · exact absurd later rest
        · rename_i live
          rw [Dialogue.mem_moments_bind_iff, moments_delete] at later
          rcases later with now | ⟨_, _, _, looking⟩
          · cases List.mem_singleton.mp now
            exact ⟨rfl, rfl, rfl, app, rfl, Bool.eq_false_iff.mpr live⟩
          · exact absurd looking rest

theorem requested_by_removeOperators {memory : Memory}
    (asked : (StoreCall.deleteApp space name, before) ∈
      teardown.removeOperators.moments Memory.handle memory) :
    space = teardown.space ∧
      ((name = teardown.secondTier ∧ before = memory ∧
          ∃ app, memory.app? teardown.space teardown.secondTier = some app ∧
            app.isDeleting = false) ∨
        name = teardown.agent ∧ before = teardown.afterRemoval memory teardown.secondTier ∧
          before.app? teardown.space teardown.secondTier = none ∧
          ∃ app, before.app? teardown.space teardown.agent = some app ∧
            app.isDeleting = false) := by
  simp only [removeOperators, Dialogue.bind_eq, Dialogue.pure_eq] at asked
  rw [Dialogue.mem_moments_bind_iff, run_removeApp] at asked
  rcases asked with first | ⟨_, between, played, later⟩
  · obtain ⟨sameSpace, sameName, same, app, found, live⟩ := requested_by_removeApp first
    exact ⟨sameSpace, .inl ⟨sameName, same, app, found, live⟩⟩
  · cases played
    split at later
    · cases later
    · rename_i gone
      rw [Dialogue.mem_moments_bind_iff] at later
      rcases later with second | ⟨_, _, _, last⟩
      · obtain ⟨sameSpace, sameName, same, app, found, live⟩ := requested_by_removeApp second
        rw [← same] at gone found
        exact ⟨sameSpace, .inr ⟨sameName, same, Option.not_isSome_iff_eq_none.mp gone,
          app, found, live⟩⟩
      · split at last <;> cases last

/-- A pass asks for deletions among the listed tenants and, once none is left, among the
operators. -/
theorem asked_by_run_iff {memory : Memory} :
    (StoreCall.deleteApp space name, before) ∈ teardown.run.moments Memory.handle memory ↔
      (StoreCall.deleteApp space name, before) ∈
          (teardown.deleteTenants (teardown.tenantsIn memory)).moments Memory.handle memory ∨
        teardown.tenantsIn (teardown.afterListed memory) = [] ∧
          (StoreCall.deleteApp space name, before) ∈
            teardown.removeOperators.moments Memory.handle (teardown.afterListed memory) := by
  have notListing {memory : Memory} : (StoreCall.deleteApp space name, before) ∉
      teardown.tenants.moments Memory.handle memory := not_requested asks_tenants
  simp only [run, Dialogue.bind_eq, Dialogue.pure_eq, List.isEmpty_iff]
  rw [Dialogue.moments_bind, List.mem_append, or_iff_right notListing, run_tenants]
  dsimp only
  split
  · rename_i cleared
    have nothingDone : teardown.afterListed memory = memory := by
      rw [afterListed, cleared, afterTenants]
    rw [nothingDone, cleared]
    refine ⟨fun asked => .inr ⟨rfl, asked⟩, fun asked => ?_⟩
    rcases asked with ofTenants | ⟨-, ofOperators⟩
    · cases ofTenants
    · exact ofOperators
  · rw [Dialogue.moments_bind, List.mem_append, run_deleteTenants, ← afterListed]
    refine or_congr_right ?_
    dsimp only
    rw [Dialogue.moments_bind, List.mem_append, or_iff_right notListing, run_tenants]
    dsimp only
    split
    · rename_i cleared
      exact ⟨fun asked => ⟨cleared, asked⟩, And.right⟩
    · rename_i waiting
      exact iff_of_false List.not_mem_nil fun asked => waiting asked.1

/-- Every deletion that a pass asks for is one of its requests, in its own namespace. -/
theorem requests_of_asked {memory : Memory}
    (asked : (StoreCall.deleteApp space name, before) ∈
      teardown.run.moments Memory.handle memory) :
    space = teardown.space ∧ teardown.Requests memory name before := by
  rcases asked_by_run_iff.mp asked with deleting | ⟨cleared, removing⟩
  · obtain ⟨sameSpace, early, app, late, listed, live, own, rfl, rfl⟩ :=
      requested_by_deleteTenants deleting
    exact ⟨sameSpace, .tenant listed live own⟩
  · obtain ⟨sameSpace, ⟨rfl, rfl, app, found, live⟩ | ⟨rfl, left, gone, app, found, live⟩⟩ :=
      requested_by_removeOperators removing
    · exact ⟨sameSpace, .secondTier cleared found live⟩
    · have stillCleared := tenantsIn_eq_nil_of_reduced
        (teardown.reduced_afterRemoval _ teardown.secondTier) cleared
      exact ⟨sameSpace, .agent left (left ▸ stillCleared) gone found live⟩

/-- When a tenant is asked to go, it is as it was listed: requests before it concern Apps
of other names. -/
theorem found_of_listed {early late : List App} {app : App} (filed : memory.Filed)
    (listed : teardown.tenantsIn memory = early ++ app :: late) :
    (teardown.afterTenants early memory).app? teardown.space app.name = some app := by
  have inside : app ∈ teardown.tenantsIn memory := by
    rw [listed]
    exact List.mem_append_right _ List.mem_cons_self
  obtain ⟨_, place, found⟩ := mem_tenantsIn_iff.mp inside
  obtain rfl := filed found
  have distinct : ((teardown.tenantsIn memory).map App.name).Nodup := nodup_names_tenantsIn filed
  rw [listed, List.map_append, List.map_cons, List.nodup_append] at distinct
  rw [(reduced_afterTenants early memory).untouched, found]
  rintro ⟨_, repeated⟩
  exact distinct.2.2 _ repeated _ List.mem_cons_self rfl

/-- What can befall a store: a pass, and whatever others do to Apps and other objects as
long as an App keeps its name. -/
inductive Step (teardown : Teardown) : Memory → Memory → Prop where
  | pass (memory : Memory) : Step teardown memory (teardown.run.run Memory.handle memory).2
  | call {memory : Memory} (call : StoreCall)
      (keepsName : ∀ ⦃space name patch app result⦄, call = .patchApp space name patch →
        memory.app? space name = some app → Memory.patched app patch = .ok result →
        result.name = app.name) :
      Step teardown memory (memory.handle call).2
  | put (memory : Memory) (app : App) : Step teardown memory (memory.putApp app)
  | finish (memory : Memory) (space name : String) :
      Step teardown memory (memory.finishDeletion space name)

theorem Step.filed {before after : Memory} (step : teardown.Step before after)
    (filed : before.Filed) : after.Filed := by
  cases step with
  | pass =>
      rw [run_run]
      exact (teardown.reduced_afterRun before).filed filed
  | call call keepsName => exact filed.handle call keepsName
  | put app => exact filed.putApp app
  | finish space name => exact filed.finishDeletion space name

/-- Whatever befalls a store, its Apps stay filed. -/
theorem filed_of_reaches {before after : Memory}
    (reaches : Relation.ReflTransGen teardown.Step before after) (filed : before.Filed) :
    after.Filed := by
  induction reaches with
  | refl => exact filed
  | tail _ step ih => exact step.filed ih

/-- Deletions follow the dependencies, whatever happens between the passes. Every App that
a pass asks to go is there, and where it is not an unmanaged App of the cluster, then with
the second tier's name no other App of the cluster is left but the operators, and with the
agent's name none but the agent. -/
theorem deletions_follow_dependencies (teardown : Teardown)
    (distinct : teardown.secondTier ≠ teardown.agent) {start memory : Memory}
    (filed : start.Filed) (reaches : Relation.ReflTransGen teardown.Step start memory)
    {space name : String} {before : Memory}
    (asked : (StoreCall.deleteApp space name, before) ∈
      teardown.run.moments Memory.handle memory) :
    space = teardown.space ∧ ∃ app, before.app? space name = some app ∧
      (isManaged app.labels = true ∨ app.isOf teardown.id = false →
        (name = teardown.secondTier →
          ∀ {other otherApp}, before.app? space other = some otherApp →
            otherApp.isOf teardown.id = true →
            other = teardown.secondTier ∨ other = teardown.agent) ∧
        (name = teardown.agent →
          before.app? space teardown.secondTier = none ∧
            ∀ {other otherApp}, before.app? space other = some otherApp →
              otherApp.isOf teardown.id = true → other = teardown.agent)) := by
  replace filed := filed_of_reaches reaches filed
  obtain ⟨rfl, request⟩ := requests_of_asked asked
  have filedListed := (teardown.reduced_afterListed memory).filed filed
  cases request with
  | tenant listed live own =>
      rename_i early late app
      refine ⟨rfl, app, found_of_listed filed listed, fun claimed => ?_⟩
      have inside : app ∈ teardown.tenantsIn memory := by
        rw [listed]
        exact List.mem_append_right _ List.mem_cons_self
      have tenant := (mem_tenantsIn_iff.mp inside).1
      simp only [isTenant, isTenantName, Bool.and_eq_true, Bool.or_eq_true,
        Bool.not_eq_true', bne_iff_ne] at tenant
      -- A managed tenant bears neither name; an unmanaged one is not what is claimed.
      have neither : app.name ≠ teardown.secondTier ∧ app.name ≠ teardown.agent := by
        rcases claimed with managed | stranger
        · exact tenant.2.resolve_left (by simp [managed])
        · simp [stranger] at tenant
      exact ⟨fun same => absurd same neither.1, fun same => absurd same neither.2⟩
  | secondTier cleared found live =>
      refine ⟨rfl, _, found, fun _ => ⟨fun _ other otherApp there marks => ?_,
        fun same => absurd same distinct⟩⟩
      exact operator_of_cleared filedListed cleared there marks
  | agent left cleared gone found live =>
      have filedBefore := left ▸ (teardown.reduced_afterRemoval _ _).filed filedListed
      refine ⟨rfl, _, found, fun _ => ⟨fun same => absurd same.symm distinct,
        fun _ => ⟨gone, fun {other otherApp} there marks => ?_⟩⟩⟩
      refine (operator_of_cleared filedBefore cleared there marks).resolve_left ?_
      rintro rfl
      rw [gone] at there
      cases there

def operatorsOnly : Memory :=
  (({} : Memory).putApp (managedApp usual.secondTier)).putApp (managedApp usual.agent)

theorem deletions_follow_dependencies_operatorsOnly :
    usual.secondTier ≠ usual.agent ∧ ({} : Memory).Filed ∧
      Relation.ReflTransGen usual.Step {} operatorsOnly ∧ ∃ space before,
      (StoreCall.deleteApp space usual.secondTier, before) ∈
        usual.run.moments Memory.handle operatorsOnly ∧
      ∃ app, before.app? space usual.secondTier = some app ∧
        (isManaged app.labels = true ∨ app.isOf usual.id = false →
          ∀ {other otherApp}, before.app? space other = some otherApp →
            otherApp.isOf usual.id = true →
            other = usual.secondTier ∨ other = usual.agent) := by
  have distinct : usual.secondTier ≠ usual.agent := by decide
  have reaches : Relation.ReflTransGen usual.Step {} operatorsOnly :=
    (Relation.ReflTransGen.single (.put _ _)).tail (.put _ _)
  have asks : (usual.run.questions Memory.handle operatorsOnly).any (fun
      | .deleteApp _ name => name == usual.secondTier
      | _ => false) = true := by
    decide +kernel
  obtain ⟨question, asked, deletes⟩ := List.any_eq_true.mp asks
  rw [Dialogue.questions_eq_map_moments, List.mem_map] at asked
  obtain ⟨⟨question, before⟩, asked, rfl⟩ := asked
  split at deletes
  · rename_i space name same
    cases beq_iff_eq.mp deletes
    cases same
    obtain ⟨_, app, found, ordered⟩ :=
      deletions_follow_dependencies usual distinct Memory.filed_empty reaches asked
    exact ⟨distinct, Memory.filed_empty, reaches, space, before, asked, app, found,
      fun claimed => (ordered claimed).1 rfl⟩
  · cases deletes

end PlatformApps.Teardown
