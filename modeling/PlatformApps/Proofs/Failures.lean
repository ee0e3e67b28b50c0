/-
# Failures that end an operation

Some failures of the store are as good as a success: what is to be deleted may be gone, and
what is to be created may be there. Every other failure ends the operation that meets it. The
statement is about operations as dialogues, so it holds for whatever answers the calls:
`HeedsFailures` is what the dialogue itself does with each answer, and `Halts` is what follows
for the calls that are made.
-/

import PlatformApps.Artifacts
import PlatformApps.ClusterSpace
import PlatformApps.Proofs.Dialogue
import PlatformApps.Sweep
import PlatformApps.Teardown

namespace PlatformApps

namespace Dialogue

variable {I : Interface} {α β σ : Type}

section Halts

variable (handler : I.Handler σ) (tolerates : I.Question → Failure → Bool)

/-- Is the answer at this moment a success, or a failure that is tolerated? -/
def Harmless (moment : I.Question × σ) : Prop :=
  ∀ failure, (handler moment.1 moment.2).1 = .error failure → tolerates moment.1 failure = true

/-- How a dialogue comes to its end. It succeeds where every answer is harmless. Else the first
answer that is not is the last one: it is the outcome, and nothing is asked after it. -/
inductive Halts (dialogue : Dialogue I α) (state : σ) : Prop where
  | succeeds {value : α} {after : σ}
      (run : dialogue.run handler state = (.ok value, after))
      (harmless : ∀ moment ∈ dialogue.moments handler state, Harmless handler tolerates moment)
  | fails {failure : Failure} {after last : σ} {question : I.Question}
      {early : List (I.Question × σ)}
      (run : dialogue.run handler state = (.error failure, after))
      (asked : dialogue.moments handler state = early ++ [(question, last)])
      (answer : handler question last = (.error failure, after))
      (refused : tolerates question failure = false)
      (harmless : ∀ moment ∈ early, Harmless handler tolerates moment)

end Halts

/-- Does a dialogue go on after each tolerated failure, end at once with any other, and end well
otherwise? -/
def HeedsFailures (tolerates : I.Question → Failure → Bool) : Dialogue I α → Prop
  | .done outcome => ∃ value, outcome = .ok value
  | .ask question answered =>
    (∀ reply, (answered (.ok reply)).HeedsFailures tolerates) ∧
      ∀ failure,
        if tolerates question failure then (answered (.error failure)).HeedsFailures tolerates
        else answered (.error failure) = .done (.error failure)

variable {tolerates : I.Question → Failure → Bool}

namespace HeedsFailures

theorem done (value : α) :
    (Dialogue.done (.ok value) : Dialogue I α).HeedsFailures tolerates := ⟨value, rfl⟩

theorem bind {first : Dialogue I α} {next : α → Dialogue I β}
    (heeds : first.HeedsFailures tolerates)
    (follows : ∀ value, (next value).HeedsFailures tolerates) :
    (first.bind next).HeedsFailures tolerates := by
  induction first with
  | done outcome =>
      obtain ⟨value, rfl⟩ := heeds
      exact follows value
  | ask question answered ih =>
      refine ⟨fun reply => ih _ (heeds.1 reply), fun failure => ?_⟩
      have heedsFailure := heeds.2 failure
      split
      · rename_i tolerated
        rw [if_pos tolerated] at heedsFailure
        exact ih _ heedsFailure
      · rename_i refused
        rw [if_neg refused] at heedsFailure
        simp only [heedsFailure, bind_done_error]

/-- A question of which no failure is tolerated. -/
theorem request {question : I.Question} (strict : ∀ failure, tolerates question failure = false) :
    (Dialogue.ask question .done : Dialogue I _).HeedsFailures tolerates := by
  refine ⟨fun reply => .done reply, fun failure => ?_⟩
  rw [if_neg (Bool.eq_false_iff.mp (strict failure))]

/-- A question of which the tolerated failures are taken for a reply. -/
theorem tolerate (question : I.Question) (instead : I.Reply question) :
    (Dialogue.tolerate question (tolerates question) instead).HeedsFailures tolerates := by
  refine ⟨fun reply => .done reply, fun failure => ?_⟩
  cases tolerated : tolerates question failure with
  | true =>
      simp only [tolerated, if_true]
      exact .done instead
  | false => simp [tolerated]

/-- A dialogue that heeds failures comes to its end in that way, whatever answers it. -/
theorem halts {dialogue : Dialogue I α} (heeds : dialogue.HeedsFailures tolerates)
    (handler : I.Handler σ) (state : σ) : dialogue.Halts handler tolerates state := by
  induction dialogue generalizing state with
  | done outcome =>
      obtain ⟨value, rfl⟩ := heeds
      exact .succeeds rfl fun _ asked => absurd asked List.not_mem_nil
  | ask question answered ih =>
      rcases answer : handler question state with ⟨outcome, between⟩
      have run := run_ask_of_answer answer answered
      have asked : (Dialogue.ask question answered).moments handler state =
          (question, state) :: (answered outcome).moments handler between := by
        rw [moments, answer]
      -- a harmless first answer is followed by what the rest of the dialogue comes to
      have goOn (heedsRest : (answered outcome).HeedsFailures tolerates)
          (harmless : Harmless handler tolerates (question, state)) :
          (Dialogue.ask question answered).Halts handler tolerates state := by
        rcases ih outcome heedsRest between with
          ⟨ends, calm⟩ | ⟨ends, askedRest, last, refused, calm⟩
        · refine .succeeds (run.trans ends) ?_
          rw [asked]
          exact List.forall_mem_cons.mpr ⟨harmless, calm⟩
        · refine .fails (run.trans ends) ?_ last refused
            (List.forall_mem_cons.mpr ⟨harmless, calm⟩)
          rw [asked, askedRest, List.cons_append]
      cases outcome with
      | ok reply =>
          refine goOn (heeds.1 reply) fun failure fails => ?_
          rw [answer] at fails
          cases fails
      | error failure =>
          have heedsFailure := heeds.2 failure
          cases tolerated : tolerates question failure with
          | true =>
              rw [if_pos tolerated] at heedsFailure
              refine goOn heedsFailure fun other fails => ?_
              rw [answer] at fails
              cases fails
              exact tolerated
          | false =>
              rw [if_neg (Bool.eq_false_iff.mp tolerated)] at heedsFailure
              rw [heedsFailure] at run asked
              have alone : (Dialogue.ask question answered).moments handler state =
                  [] ++ [(question, state)] := asked
              exact .fails run alone answer tolerated fun _ early => absurd early List.not_mem_nil

end HeedsFailures

end Dialogue

/-- The failures of a call that are as good as a success: what is looked for by name or taken
away may be gone, and what is created may be there. -/
def StoreCall.tolerates : StoreCall → Failure → Bool
  | .getApp .. | .getNamespace _ | .deleteApp .. | .deleteConfigMap .. | .deleteSecret ..
  | .deleteNamespace _ | .removeAppFinalizer .. => Failure.isNotFound
  | .createApp _ | .createNamespace _ => Failure.isAlreadyExists
  | _ => fun _ => false

/-- A dialogue with a store that takes just these failures. -/
abbrev Heeds {α : Type} (dialogue : Dialogue Store α) : Prop :=
  dialogue.HeedsFailures StoreCall.tolerates

/-! Calls that several operations make. -/

theorem heeds_listApps (space : String) (selector : Selector) :
    Heeds (Store.listApps space selector) :=
  .request fun _ => rfl

theorem heeds_tolerate (call : StoreCall) (instead : call.Reply) :
    Heeds (.tolerate (I := Store) call call.tolerates instead) :=
  .tolerate (I := Store) call instead

/-! Tearing down. -/

namespace Teardown

variable (teardown : Teardown)

theorem heeds_tenants : Heeds teardown.tenants :=
  (heeds_listApps _ _).bind fun _ => (heeds_listApps _ _).bind fun _ => .done _

theorem heeds_delete (name : String) : Heeds (teardown.delete name) :=
  heeds_tolerate (.deleteApp teardown.space name) ()

theorem heeds_deleteTenants (apps : List App) : Heeds (teardown.deleteTenants apps) := by
  induction apps with
  | nil => exact .done ()
  | cons app rest ih =>
      rw [deleteTenants]
      split
      · exact ih
      · exact (teardown.heeds_delete app.name).bind fun _ => ih

theorem heeds_find? (name : String) : Heeds (teardown.find? name) := by
  refine ⟨fun app => .done (some app), fun failure => ?_⟩
  split
  · rename_i absent
    have gone : failure.isNotFound = true := absent
    simp only [gone, if_true]
    exact .done none
  · rename_i other
    exact if_neg other

theorem heeds_removeApp (name : String) : Heeds (teardown.removeApp name) := by
  refine (teardown.heeds_find? name).bind fun found => ?_
  cases found with
  | none => exact .done false
  | some app =>
      have looksAgain : Heeds ((teardown.find? name).bind fun left =>
          (pure left.isSome : Dialogue Store Bool)) :=
        (teardown.heeds_find? name).bind fun _ => .done _
      dsimp only
      split
      · exact looksAgain
      · exact (teardown.heeds_delete name).bind fun _ => looksAgain

theorem heeds_removeOperators : Heeds teardown.removeOperators := by
  refine (teardown.heeds_removeApp _).bind fun secondTierLeft => ?_
  split
  · exact .done _
  · refine (teardown.heeds_removeApp _).bind fun agentLeft => ?_
    split <;> exact .done _

theorem heeds_run : Heeds teardown.run := by
  refine teardown.heeds_tenants.bind fun tenants => ?_
  split
  · exact teardown.heeds_removeOperators
  · refine (teardown.heeds_deleteTenants tenants).bind fun _ => ?_
    refine teardown.heeds_tenants.bind fun remaining => ?_
    split
    · exact teardown.heeds_removeOperators
    · exact .done _

end Teardown

/-! Bringing Apps in line. -/

theorem heeds_convergeApp (space : String) (current : Table (String × String) App)
    (desired : App) (counts : Convergence) : Heeds (convergeApp space current desired counts) := by
  rw [convergeApp]
  split
  · have creates : Heeds (Store.createApp desired Failure.isAlreadyExists) :=
      heeds_tolerate (.createApp desired) ()
    exact creates.bind fun _ => .done _
  · split
    · rename_i patch _
      have patches : Heeds (Store.patchApp (desired.namespaceOr space) desired.name patch) :=
        .request fun _ => rfl
      exact patches.bind fun _ => .done _
    · exact .done _

theorem heeds_convergeEach (space : String) (current : Table (String × String) App)
    (desired : List App) (counts : Convergence) :
    Heeds (convergeEach space current desired counts) := by
  induction desired generalizing counts with
  | nil => exact .done counts
  | cons app rest ih => exact (heeds_convergeApp space current app counts).bind ih

theorem heeds_converge (id space : String) (desired : List App) :
    Heeds (converge id space desired) :=
  (heeds_listApps _ _).bind fun _ => heeds_convergeEach space _ desired {}

/-! Releasing Apps from the agent. -/

theorem heeds_sweepEach (space : String) (apps : List App) (known : SweepOutcome) :
    Heeds (sweepEach space apps known) := by
  induction apps generalizing known with
  | nil => exact .done known
  | cons app rest ih =>
      rw [sweepEach]
      split
      · exact (heeds_tolerate (.removeAppFinalizer space app.name agentFinalizer) false).bind
          fun _ => ih _
      · exact ih _

theorem heeds_sweep (id space : String) : Heeds (sweep id space) :=
  (heeds_listApps _ _).bind fun apps => heeds_sweepEach space apps {}

/-! Artifacts and the namespace of a cluster. -/

theorem Artifacts.heeds_remove (id space : String) : Heeds (Artifacts.remove id space) := by
  refine (heeds_tolerate (.deleteConfigMap space (agentValuesName id)) ()).bind fun _ => ?_
  refine (heeds_tolerate (.deleteConfigMap space (clusterValuesName id)) ()).bind fun _ => ?_
  exact heeds_tolerate (.deleteSecret space (clusterValuesName id)) ()

theorem ClusterSpace.heeds_ensure (id : String) : Heeds (ClusterSpace.ensure id) :=
  heeds_tolerate (.createNamespace (ClusterSpace.desired id)) ()

theorem ClusterSpace.heeds_remove (id : String) : Heeds (ClusterSpace.remove id) := by
  refine ⟨fun space => ?_, fun failure => ?_⟩
  · dsimp only
    split
    · exact heeds_tolerate (.deleteNamespace id) ()
    · exact .done ()
  · split
    · rename_i absent
      have gone : failure.isNotFound = true := absent
      simp only [gone, if_true]
      exact .done ()
    · rename_i other
      exact if_neg other

/-- Failures are neither swallowed nor followed by more work. Whatever answers the calls of a
teardown, of a sweep, of bringing Apps in line, of removing artifacts, or of creating or removing
the namespace of a cluster, the first failure that is not tolerated is the outcome and no call is
made after it; where there is none, the operation succeeds. No failure of a listing or of a patch
is tolerated, and no conflict is. -/
theorem operations_halt_at_failures {σ : Type} (handler : Store.Handler σ) (state : σ) :
    (∀ teardown : Teardown, teardown.run.Halts handler StoreCall.tolerates state) ∧
    (∀ id space, (sweep id space).Halts handler StoreCall.tolerates state) ∧
    (∀ id space desired, (converge id space desired).Halts handler StoreCall.tolerates state) ∧
    (∀ id space, (Artifacts.remove id space).Halts handler StoreCall.tolerates state) ∧
    (∀ id, (ClusterSpace.ensure id).Halts handler StoreCall.tolerates state) ∧
    (∀ id, (ClusterSpace.remove id).Halts handler StoreCall.tolerates state) ∧
    (∀ space selector failure,
      StoreCall.tolerates (.listApps space selector) failure = false) ∧
    (∀ space name patch failure,
      StoreCall.tolerates (.patchApp space name patch) failure = false) ∧
    ∀ call (status : ApiStatus), status.code = 409 → status.reason ≠ "AlreadyExists" →
      StoreCall.tolerates call (.api status) = false := by
  refine ⟨fun teardown => teardown.heeds_run.halts handler state,
    fun id space => (heeds_sweep id space).halts handler state,
    fun id space desired => (heeds_converge id space desired).halts handler state,
    fun id space => (Artifacts.heeds_remove id space).halts handler state,
    fun id => (ClusterSpace.heeds_ensure id).halts handler state,
    fun id => (ClusterSpace.heeds_remove id).halts handler state,
    fun _ _ _ => rfl, fun _ _ _ _ => rfl, ?_⟩
  intro call status conflict otherReason
  cases call <;> simp [StoreCall.tolerates, Failure.isNotFound, Failure.isAlreadyExists, conflict,
    otherReason]

end PlatformApps
