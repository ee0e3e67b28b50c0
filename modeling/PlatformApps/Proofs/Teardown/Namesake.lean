/-
# Namesakes of the operators

An App of the cluster that this operator has not created is a tenant, also where it stands
under the name of an operator. The main statement says when the deletion of such a namesake
is requested, what is left of the others at that moment, and what waits for it in turn.
-/

import PlatformApps.Proofs.Teardown.Asked

namespace PlatformApps.Teardown

variable {teardown : Teardown} {memory before : Memory} {name : String} {app : App}

/-! ## The order of the tenants -/

/-- Of two Apps, unmanaged ones are listed first, else the one with the smaller name. -/
def ListedBefore (first second : App) : Prop :=
  (isManaged first.labels = false ∧ isManaged second.labels = true) ∨
    isManaged first.labels = isManaged second.labels ∧ first.name < second.name

theorem pairwise_tenantsIn (filed : memory.Filed) :
    (teardown.tenantsIn memory).Pairwise ListedBefore := by
  have ordered := List.pairwise_map.mp (filed.sorted_names teardown.space teardown.id)
  rw [tenantsIn, List.pairwise_append]
  refine ⟨?_, ?_, ?_⟩
  · refine (ordered.filter _).imp_of_mem fun {first second} inFirst inSecond less => ?_
    have firstUnmanaged := (List.mem_filter.mp inFirst).2
    have secondUnmanaged := (List.mem_filter.mp inSecond).2
    rw [Bool.not_eq_true'] at firstUnmanaged secondUnmanaged
    exact .inr ⟨firstUnmanaged.trans secondUnmanaged.symm, less⟩
  · refine (ordered.filter _).imp_of_mem fun {first second} inFirst inSecond less => ?_
    have firstManaged := (List.mem_filter.mp inFirst).2
    have secondManaged := (List.mem_filter.mp inSecond).2
    rw [Bool.and_eq_true] at firstManaged secondManaged
    exact .inr ⟨firstManaged.1.trans secondManaged.1.symm, less⟩
  · intro first inFirst second inSecond
    have unmanaged := (List.mem_filter.mp inFirst).2
    have managed := (List.mem_filter.mp inSecond).2
    rw [Bool.not_eq_true'] at unmanaged
    rw [Bool.and_eq_true] at managed
    exact .inl ⟨unmanaged, managed.1⟩

/-- Before an unmanaged tenant the unmanaged ones with smaller names are listed. -/
theorem mem_early_iff {early late : List App} {other : App} (filed : memory.Filed)
    (listed : teardown.tenantsIn memory = early ++ app :: late)
    (unmanaged : isManaged app.labels = false) :
    other ∈ early ↔
      other ∈ teardown.tenantsIn memory ∧ isManaged other.labels = false ∧
        other.name < app.name := by
  have ordered := @pairwise_tenantsIn teardown memory filed
  rw [listed, List.pairwise_append, List.pairwise_cons] at ordered
  obtain ⟨_, ⟨afterApp, _⟩, beforeApp⟩ := ordered
  constructor
  · intro inside
    rcases beforeApp other inside app List.mem_cons_self with ⟨_, managed⟩ | ⟨same, less⟩
    · cases unmanaged.symm.trans managed
    · exact ⟨listed ▸ List.mem_append_left _ inside, same.trans unmanaged, less⟩
  · rintro ⟨inside, otherUnmanaged, less⟩
    rw [listed, List.mem_append, List.mem_cons] at inside
    rcases inside with inside | rfl | later
    · exact inside
    · exact absurd less (Key.irrefl _)
    · rcases afterApp other later with ⟨_, managed⟩ | ⟨_, greater⟩
      · cases otherUnmanaged.symm.trans managed
      · exact absurd (Key.trans less greater) (Key.irrefl _)

/-! ## The turn of an unmanaged tenant -/

theorem mem_tenantsIn_of_unmanaged (found : memory.app? teardown.space name = some app)
    (marks : app.isOf teardown.id = true) (unmanaged : isManaged app.labels = false) :
    app ∈ teardown.tenantsIn memory := by
  refine mem_tenantsIn_iff.mpr ⟨?_, name, found⟩
  rw [isTenant, marks, unmanaged]
  rfl

/-- Where no tenant is left of a store, no unmanaged App of the cluster is. -/
theorem absent_of_cleared {touched : ObjectKey → Prop} {left : Memory}
    (found : memory.app? teardown.space name = some app) (marks : app.isOf teardown.id = true)
    (unmanaged : isManaged app.labels = false) (reduced : Memory.Reduced touched memory left)
    (cleared : teardown.tenantsIn left = []) : left.app? teardown.space name = none := by
  cases there : left.app? teardown.space name with
  | none => rfl
  | some other =>
      obtain ⟨old, foundOld, _, sameLabels⟩ := reduced.kept_of_found there
      cases found.symm.trans foundOld
      rw [App.isOf, ← sameLabels] at marks
      rw [← sameLabels] at unmanaged
      have inside := mem_tenantsIn_of_unmanaged there marks unmanaged
      rw [cleared] at inside
      cases inside

/-- The operators have their turn once no tenant is left. -/
theorem cleared_of_operatorStage {operator : String}
    (operatorStage : (operator = teardown.secondTier ∧ before = teardown.afterListed memory ∧
        ∃ app, before.app? teardown.space teardown.secondTier = some app ∧
          app.isDeleting = false) ∨
      operator = teardown.agent ∧
        before = teardown.afterRemoval (teardown.afterListed memory) teardown.secondTier ∧
        before.app? teardown.space teardown.secondTier = none ∧
        ∃ app, before.app? teardown.space teardown.agent = some app ∧ app.isDeleting = false)
    (cleared : teardown.tenantsIn (teardown.afterListed memory) = []) :
    Memory.Reduced (fun _ => True) memory before ∧ teardown.tenantsIn before = [] ∧
      ∃ app, before.app? teardown.space operator = some app := by
  have listedOnly : Memory.Reduced (fun _ => True) memory (teardown.afterListed memory) :=
    (teardown.reduced_afterListed memory).mono fun _ _ => trivial
  rcases operatorStage with ⟨rfl, rfl, app, there, _⟩ | ⟨rfl, rfl, _, app, there, _⟩
  · exact ⟨listedOnly, cleared, app, there⟩
  · have removed := teardown.reduced_afterRemoval (teardown.afterListed memory) teardown.secondTier
    exact ⟨listedOnly.trans (removed.mono fun _ _ => trivial),
      tenantsIn_eq_nil_of_reduced removed cleared, app, there⟩

/-- Where an unmanaged App of the cluster stands, a pass makes no request for its name but as
for a tenant. -/
theorem asked_iff_of_unmanaged (filed : memory.Filed)
    (found : memory.app? teardown.space name = some app) (marks : app.isOf teardown.id = true)
    (unmanaged : isManaged app.labels = false) :
    (StoreCall.deleteApp teardown.space name, before) ∈
        teardown.run.moments Memory.handle memory ↔
      app.isDeleting = false ∧ isForeign app.labels = false ∧
        ∃ early late, teardown.tenantsIn memory = early ++ app :: late ∧
          before = teardown.afterTenants early memory := by
  constructor
  · intro asked
    obtain ⟨_, tenantStage | ⟨cleared, operatorStage⟩⟩ := asked_by_run_iff_requested.mp asked
    · obtain ⟨early, other, late, listed, live, own, sameName, rfl⟩ := tenantStage
      have inside : other ∈ teardown.tenantsIn memory := by
        rw [listed]
        exact List.mem_append_right _ List.mem_cons_self
      obtain ⟨_, place, there⟩ := mem_tenantsIn_iff.mp inside
      rw [← filed there, ← sameName] at there
      cases found.symm.trans there
      exact ⟨live, own, early, late, listed, rfl⟩
    · obtain ⟨reduced, stillCleared, _, there⟩ := cleared_of_operatorStage operatorStage cleared
      cases there.symm.trans (absent_of_cleared found marks unmanaged reduced stillCleared)
  · rintro ⟨live, own, early, late, listed, rfl⟩
    rw [← filed found, asked_by_run_iff, listed]
    exact .inl (asked_by_deleteTenants early late live own memory)

/-! ## What is gone by then -/

/-- Does an App go before the deletion of an unmanaged tenant of this name is requested? -/
def GoesBefore (teardown : Teardown) (name other : String) (app : App) : Prop :=
  app.isOf teardown.id = true ∧ isManaged app.labels = false ∧ other < name ∧
    app.isFree = true ∧ isForeign app.labels = false

theorem any_early_iff {early late : List App} {other : String} {otherApp : App}
    (filed : memory.Filed) (listed : teardown.tenantsIn memory = early ++ app :: late)
    (unmanaged : isManaged app.labels = false)
    (found : memory.app? teardown.space other = some otherApp) :
    (early.any fun app => app.name == other && !isPassedOver app) = true ↔
      otherApp.isOf teardown.id = true ∧ isManaged otherApp.labels = false ∧ other < app.name ∧
        isPassedOver otherApp = false := by
  rw [List.any_eq_true]
  constructor
  · rintro ⟨tenant, inside, named⟩
    rw [Bool.and_eq_true, beq_iff_eq, Bool.not_eq_true'] at named
    obtain ⟨sameName, taken⟩ := named
    obtain ⟨isListed, tenantUnmanaged, less⟩ := (mem_early_iff filed listed unmanaged).mp inside
    obtain ⟨marks, place, there⟩ := mem_tenantsIn_iff.mp isListed
    rw [← filed there, sameName, found] at there
    cases there
    rw [isTenant, Bool.and_eq_true] at marks
    exact ⟨marks.1, tenantUnmanaged, sameName ▸ less, taken⟩
  · rintro ⟨marks, otherUnmanaged, less, taken⟩
    have isListed := mem_tenantsIn_of_unmanaged found marks otherUnmanaged
    have less : otherApp.name < app.name := by
      rw [filed found]
      exact less
    refine ⟨otherApp, (mem_early_iff filed listed unmanaged).mpr
      ⟨isListed, otherUnmanaged, less⟩, ?_⟩
    rw [filed found, taken, beq_self_eq_true]
    rfl

theorem gone_before_iff {early late : List App} {other : String} {otherApp : App}
    (filed : memory.Filed) (listed : teardown.tenantsIn memory = early ++ app :: late)
    (unmanaged : isManaged app.labels = false)
    (found : memory.app? teardown.space other = some otherApp) :
    (teardown.afterTenants early memory).app? teardown.space other = none ↔
      teardown.GoesBefore app.name other otherApp := by
  rw [app?_afterTenants, found, Option.bind_some, GoesBefore]
  split
  · rename_i requested
    obtain ⟨marks, otherUnmanaged, less, taken⟩ :=
      (any_early_iff filed listed unmanaged found).mp requested
    rw [isPassedOver, Bool.or_eq_false_iff] at taken
    simp [Memory.remainder, App.isFree, marks, otherUnmanaged, less, taken.1, taken.2]
  · rename_i spared
    rw [any_early_iff filed listed unmanaged found] at spared
    refine iff_of_false (Option.some_ne_none _) ?_
    rintro ⟨marks, otherUnmanaged, less, free, own⟩
    apply spared
    rw [App.isFree, Bool.and_eq_true, Bool.not_eq_true'] at free
    refine ⟨marks, otherUnmanaged, less, ?_⟩
    rw [isPassedOver, free.1, own]
    rfl

/-! ## Waiting in turn -/

/-- Would an App have to be gone before the one with an operator's name, if names alone made
the operators? -/
def Precedes (teardown : Teardown) (name other : String) (app : App) : Prop :=
  other ≠ name ∧
    (app.isOf teardown.id = true ∧ other ≠ teardown.secondTier ∧ other ≠ teardown.agent ∨
      name = teardown.agent ∧ other = teardown.secondTier)

theorem precedes_iff_of_kept {other : String} {otherApp old : App}
    (sameLabels : otherApp.labels = old.labels) :
    teardown.Precedes name other otherApp ↔ teardown.Precedes name other old := by
  rw [Precedes, Precedes, App.isOf, App.isOf, sameLabels]

/-- The deletion of an unmanaged App of the cluster is requested just where it is live and no
GitOps controller owns it. -/
theorem exists_asked_iff_of_unmanaged (filed : memory.Filed)
    (found : memory.app? teardown.space name = some app) (marks : app.isOf teardown.id = true)
    (unmanaged : isManaged app.labels = false) :
    (∃ before, (StoreCall.deleteApp teardown.space name, before) ∈
        teardown.run.moments Memory.handle memory) ↔
      app.isDeleting = false ∧ isForeign app.labels = false := by
  constructor
  · rintro ⟨before, asked⟩
    obtain ⟨live, own, _⟩ := (asked_iff_of_unmanaged filed found marks unmanaged).mp asked
    exact ⟨live, own⟩
  · rintro ⟨live, own⟩
    obtain ⟨early, late, listed⟩ :=
      List.append_of_mem (mem_tenantsIn_of_unmanaged found marks unmanaged)
    exact ⟨_, (asked_iff_of_unmanaged filed found marks unmanaged).mpr
      ⟨live, own, early, late, listed, rfl⟩⟩

/-- When the deletion of an unmanaged App of the cluster is requested, everything that precedes
it is gone just where each such App goes before it. -/
theorem waits_iff_of_unmanaged (filed : memory.Filed)
    (found : memory.app? teardown.space name = some app) (marks : app.isOf teardown.id = true)
    (unmanaged : isManaged app.labels = false)
    (asked : (StoreCall.deleteApp teardown.space name, before) ∈
      teardown.run.moments Memory.handle memory) :
    (∀ other otherApp, before.app? teardown.space other = some otherApp →
        ¬ teardown.Precedes name other otherApp) ↔
      ∀ other otherApp, memory.app? teardown.space other = some otherApp →
        teardown.Precedes name other otherApp → teardown.GoesBefore name other otherApp := by
  obtain ⟨_, _, early, late, listed, rfl⟩ :=
    (asked_iff_of_unmanaged filed found marks unmanaged).mp asked
  have reduced := teardown.reduced_afterTenants early memory
  have goneIff {other : String} {otherApp : App}
      (stood : memory.app? teardown.space other = some otherApp) :=
    gone_before_iff filed listed unmanaged stood
  rw [filed found] at goneIff
  constructor
  · intro waits other otherApp stood precedes
    rw [← goneIff stood]
    cases left : (teardown.afterTenants early memory).app? teardown.space other with
    | none => rfl
    | some remaining =>
        obtain ⟨old, foundOld, _, sameLabels⟩ := reduced.kept_of_found left
        cases stood.symm.trans foundOld
        exact absurd ((precedes_iff_of_kept sameLabels).mpr precedes) (waits other remaining left)
  · intro allGo other remaining left precedes
    obtain ⟨old, stood, _, sameLabels⟩ := reduced.kept_of_found left
    have goes := allGo other old stood ((precedes_iff_of_kept sameLabels).mp precedes)
    cases left.symm.trans ((goneIff stood).mpr goes)

/-- An operator that is no unmanaged App of the cluster waits until all of those are gone. -/
theorem managed_operator_waits {operator : String} {operatorApp : App} (filed : memory.Filed)
    (found : memory.app? teardown.space name = some app) (marks : app.isOf teardown.id = true)
    (unmanaged : isManaged app.labels = false)
    (named : operator = teardown.secondTier ∨ operator = teardown.agent)
    (asked : (StoreCall.deleteApp teardown.space operator, before) ∈
      teardown.run.moments Memory.handle memory)
    (there : before.app? teardown.space operator = some operatorApp)
    (claimed : isManaged operatorApp.labels = true ∨ operatorApp.isOf teardown.id = false) :
    before.app? teardown.space name = none := by
  obtain ⟨_, tenantStage | ⟨cleared, operatorStage⟩⟩ := asked_by_run_iff_requested.mp asked
  · -- a tenant with the name of an operator is an unmanaged App of the cluster
    obtain ⟨early, tenant, late, listed, live, own, rfl, rfl⟩ := tenantStage
    cases (found_of_listed filed listed).symm.trans there
    have inside : operatorApp ∈ teardown.tenantsIn memory := by
      rw [listed]
      exact List.mem_append_right _ List.mem_cons_self
    have tenant := (mem_tenantsIn_iff.mp inside).1
    rw [isTenant, isTenantName] at tenant
    rcases claimed with managed | stranger
    · rcases named with same | same <;> simp [managed, same] at tenant
    · simp [stranger] at tenant
  · obtain ⟨reduced, stillCleared, _⟩ := cleared_of_operatorStage operatorStage cleared
    exact absent_of_cleared found marks unmanaged reduced stillCleared

/-- An unmanaged App of the cluster is a tenant, also under the name of an operator. Its
deletion is requested just where it is live and no GitOps controller owns it. It then waits
its turn among the unmanaged Apps and for no others: all that would precede an operator of
its name is gone at that moment just where each such App is unmanaged, has a smaller name and
goes as soon as it is asked to. The operators that are managed wait until it is gone. -/
theorem unmanaged_namesake_is_tenant (teardown : Teardown) (memory : Memory)
    (filed : memory.Filed) {name : String} {app : App}
    (found : memory.app? teardown.space name = some app) (marks : app.isOf teardown.id = true)
    (unmanaged : isManaged app.labels = false) :
    ((∃ before, (StoreCall.deleteApp teardown.space name, before) ∈
        teardown.run.moments Memory.handle memory) ↔
      app.isDeleting = false ∧ isForeign app.labels = false) ∧
    (∀ before, (StoreCall.deleteApp teardown.space name, before) ∈
        teardown.run.moments Memory.handle memory →
      ((∀ other otherApp, before.app? teardown.space other = some otherApp →
          ¬ teardown.Precedes name other otherApp) ↔
        ∀ other otherApp, memory.app? teardown.space other = some otherApp →
          teardown.Precedes name other otherApp → teardown.GoesBefore name other otherApp)) ∧
    ∀ operator before operatorApp, operator = teardown.secondTier ∨ operator = teardown.agent →
      (StoreCall.deleteApp teardown.space operator, before) ∈
        teardown.run.moments Memory.handle memory →
      before.app? teardown.space operator = some operatorApp →
      isManaged operatorApp.labels = true ∨ operatorApp.isOf teardown.id = false →
      before.app? teardown.space name = none := by
  refine ⟨exists_asked_iff_of_unmanaged filed found marks unmanaged, ?_, ?_⟩
  · intro before asked
    exact waits_iff_of_unmanaged filed found marks unmanaged asked
  · intro operator before operatorApp named asked there claimed
    exact managed_operator_waits filed found marks unmanaged named asked there claimed

/-- An agent that has lost the label of this operator. -/
def strippedAgent : App where
  metadata := {
    name := some "demo0-app-operator"
    namespace_ := some "org-acme"
    labels := some (.ofList [(Label.cluster, "demo0")])
    finalizers := some [agentFinalizer] }

/-- The agent without its label, and a tenant that it would have to serve. -/
def stripped : Memory := (({} : Memory).putApp heldApp).putApp strippedAgent

theorem unmanaged_namesake_is_tenant_stripped :
    stripped.Filed ∧ stripped.app? usual.space usual.agent = some strippedAgent ∧
      strippedAgent.isOf usual.id = true ∧ isManaged strippedAgent.labels = false ∧
      ∃ before, (StoreCall.deleteApp usual.space usual.agent, before) ∈
          usual.run.moments Memory.handle stripped ∧
        ¬ ∀ other otherApp, before.app? usual.space other = some otherApp →
          ¬ usual.Precedes usual.agent other otherApp := by
  have filed : stripped.Filed := (Memory.filed_empty.putApp heldApp).putApp strippedAgent
  have found : stripped.app? usual.space usual.agent = some strippedAgent := by
    decide +kernel
  have tenant : stripped.app? usual.space "hello" = some heldApp := by
    decide +kernel
  have marks : strippedAgent.isOf usual.id = true := by decide
  have unmanaged : isManaged strippedAgent.labels = false := by decide
  have precedes : usual.Precedes usual.agent "hello" heldApp := by
    refine ⟨by decide, .inl ⟨by decide, by decide, by decide⟩⟩
  obtain ⟨requested, waits, _⟩ :=
    unmanaged_namesake_is_tenant usual stripped filed found marks unmanaged
  obtain ⟨before, asked⟩ := requested.mpr ⟨rfl, by decide⟩
  refine ⟨filed, found, marks, unmanaged, before, asked, fun allGone => ?_⟩
  -- a finalizer holds the tenant, and it is not due before the agent either
  have goes := (waits before asked).mp allGone "hello" heldApp tenant precedes
  exact absurd goes.2.2.2.1 (by decide)

/-- The agent's deletion is requested while a tenant of the cluster is there. -/
theorem stripped_agent_goes_early :
    stripped.Filed ∧ strippedAgent.isOf usual.id = true ∧
      isManaged strippedAgent.labels = false ∧ heldApp.isOf usual.id = true ∧ ∃ before,
      (StoreCall.deleteApp "org-acme" "demo0-app-operator", before) ∈
        usual.run.moments Memory.handle stripped ∧
      before.app? "org-acme" "demo0-app-operator" = some strippedAgent ∧
      before.app? "org-acme" "hello" = some heldApp := by
  have filed : stripped.Filed := (Memory.filed_empty.putApp heldApp).putApp strippedAgent
  have listed : usual.tenantsIn stripped = [] ++ strippedAgent :: [heldApp] := by
    decide +kernel
  have there : stripped.app? "org-acme" "demo0-app-operator" = some strippedAgent ∧
      stripped.app? "org-acme" "hello" = some heldApp := by
    decide +kernel
  have asked :=
    @asked_by_deleteTenants usual [] [heldApp] strippedAgent rfl (by decide) stripped
  rw [← listed] at asked
  exact ⟨filed, by decide, by decide, by decide, stripped, asked_by_run_iff.mpr (.inl asked), there⟩

end PlatformApps.Teardown
