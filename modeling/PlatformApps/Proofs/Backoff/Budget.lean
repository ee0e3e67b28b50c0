/-
# Repetitions that only time ends

No attempt is counted where any number is allowed, so what ends the repetition is that every
pause takes some time. Under settings from which delays do not shrink, no delay is shorter than
the first one, cut; hence the time that has passed grows with the number of attempts. No delay
is longer than the longest one, or the first; hence not much more time passes than is allowed.
-/

import Mathlib.Order.Nat
import PlatformApps.Proofs.Backoff.Course

namespace PlatformApps

namespace Backoff

variable {backoff : Backoff}

/-- No delay is shorter than the first one, cut. -/
theorem shortest_le_delay (grows : 1 ≤ backoff.multiplier)
    (nonneg : 0 ≤ min backoff.initialDelay backoff.maxDelay) (n : Nat) :
    min backoff.initialDelay backoff.maxDelay ≤ backoff.delay n := by
  induction n with
  | zero => exact min_le_left _ _
  | succ n ih =>
      have larger : backoff.delay n ≤ backoff.delay n * backoff.multiplier :=
        le_mul_of_one_le_right (nonneg.trans ih) grows
      rw [delay, nextDelay, cut_eq_min]
      exact le_min (ih.trans larger) (min_le_right _ _)

/-- No delay is longer than the longest one, or the first. -/
theorem delay_le_longest (backoff : Backoff) (n : Nat) :
    backoff.delay n ≤ max backoff.initialDelay backoff.maxDelay := by
  cases n with
  | zero => exact le_max_left _ _
  | succ n =>
      rw [delay, nextDelay, cut_eq_min]
      exact (min_le_right _ _).trans (le_max_right _ _)

end Backoff

namespace Course

variable {α : Type} (course : Course α) {backoff : Backoff}

/-- Every pause takes half of the shortest delay at least, so time passes with the attempts. -/
theorem mul_shortest_le_begins (grows : 1 ≤ backoff.multiplier)
    (nonneg : 0 ≤ min backoff.initialDelay backoff.maxDelay) (n : Nat) :
    n * (min backoff.initialDelay backoff.maxDelay / 2) ≤
      course.begins backoff n - course.start := by
  induction n with
  | zero => simp [begins]
  | succ n ih =>
      have shortest := Backoff.shortest_le_delay grows nonneg n
      have scattered : backoff.delay n * (1 / 2) ≤ course.pause backoff n :=
        mul_le_mul_of_nonneg_left (course.half_le_factor n) (nonneg.trans shortest)
      have taken := course.duration_nonneg n
      rw [begins, Nat.cast_add_one]
      linarith

/-- No pause takes more than one and a half times the longest delay. -/
theorem pause_lt_longest (positive : 0 < max backoff.initialDelay backoff.maxDelay) (n : Nat) :
    course.pause backoff n < 3 / 2 * max backoff.initialDelay backoff.maxDelay := by
  have longest := backoff.delay_le_longest n
  have positiveFactor : 0 ≤ course.factor n := le_trans (by norm_num) (course.half_le_factor n)
  calc course.pause backoff n
      ≤ max backoff.initialDelay backoff.maxDelay * course.factor n :=
        mul_le_mul_of_nonneg_right longest positiveFactor
    _ < max backoff.initialDelay backoff.maxDelay * (3 / 2) :=
        mul_lt_mul_of_pos_left (course.factor_lt n) positive
    _ = 3 / 2 * max backoff.initialDelay backoff.maxDelay := mul_comm _ _

/-- Once enough pauses have passed, the time is over. -/
theorem stopsAt_of_budget {budget : Rat} (limited : backoff.maxElapsed = some budget)
    (grows : 1 ≤ backoff.multiplier)
    (nonneg : 0 ≤ min backoff.initialDelay backoff.maxDelay) {n : Nat}
    (enough : budget ≤ n * (min backoff.initialDelay backoff.maxDelay / 2)) :
    course.StopsAt backoff n := by
  have passed := course.mul_shortest_le_begins grows nonneg n
  have taken := course.duration_nonneg n
  refine .inr (.inr ⟨budget, limited, ?_⟩)
  rw [ends]
  linarith

/-- Of the attempts after which no other may follow, one is the first. -/
theorem exists_stopsFirstAt_le {course : Course α} {n : Nat} (stops : course.StopsAt backoff n) :
    ∃ last ≤ n, course.StopsFirstAt backoff last :=
  have found : ∃ n, course.StopsAt backoff n := ⟨n, stops⟩
  ⟨Nat.find found, Nat.find_min' found stops, Nat.find_spec found, fun _ => Nat.find_min found⟩

/-- As many halves of the shortest delay fill a budget. -/
theorem budget_le_mul_shortest {budget shortest : Rat} (positive : 0 < shortest) :
    budget ≤ (2 * budget / shortest).ceil.toNat * (shortest / 2) := by
  have rounded : 2 * budget / shortest ≤ (2 * budget / shortest).ceil.toNat :=
    Rat.le_ceil.trans (by exact_mod_cast Int.self_le_toNat _)
  have filled := (div_le_iff₀ positive).mp rounded
  linarith

end Course

/-- A time budget alone ends the repetition of an operation that always fails and takes no time,
from settings under which delays are positive and do not shrink. There are no more attempts than
pauses of half the shortest delay fit into the budget, and one; the budget is used up then, and
by less than one longest pause overdrawn. Pauses take exactly as long as asked for here, not the
whole milliseconds that a timer counts (`pauseOnTimer`). -/
theorem budget_ends_repetition {α : Type} (course : Course α) {backoff : Backoff} {budget : Rat}
    (unlimited : backoff.maxAttempts = 0) (limited : backoff.maxElapsed = some budget)
    (nonneg : 0 ≤ budget) (grows : 1 ≤ backoff.multiplier) (begins : 0 < backoff.initialDelay)
    (delays : 0 < backoff.maxDelay) (fails : ∀ n, ∃ failure, course.outcome n = .error failure)
    (instant : ∀ n, course.duration n = 0) :
    ∃ last failure,
      course.outcome last = .error failure ∧
      (last + 1 : Int) ≤
        (2 * budget / min backoff.initialDelay backoff.maxDelay).ceil + 1 ∧
      (∀ fuel > last,
        (backoff.repeatWithin fuel Trial.clock course.operation).run course.handle
            course.initial = (.error failure, course.after backoff last) ∧
          (backoff.retry fuel Trial.clock course.operation).run course.handle course.initial =
            (.error failure, course.after backoff last)) ∧
      budget ≤ course.ends backoff last - course.start ∧
      (0 < budget → course.ends backoff last - course.start <
        budget + 3 / 2 * max backoff.initialDelay backoff.maxDelay) := by
  have shortest : 0 < min backoff.initialDelay backoff.maxDelay := lt_min begins delays
  have longest : 0 < max backoff.initialDelay backoff.maxDelay := begins.trans_le (le_max_left _ _)
  have enough := course.stopsAt_of_budget limited grows shortest.le
    (Course.budget_le_mul_shortest shortest)
  obtain ⟨last, early, stops⟩ := Course.exists_stopsFirstAt_le enough
  obtain ⟨failure, failed⟩ := fails last
  refine ⟨last, failure, failed, ?_, fun fuel more => ?_, ?_, fun positive => ?_⟩
  · have rounded : 0 ≤ (2 * budget / min backoff.initialDelay backoff.maxDelay).ceil := by
      have share : 0 ≤ 2 * budget / min backoff.initialDelay backoff.maxDelay :=
        div_nonneg (by linarith) shortest.le
      exact_mod_cast share.trans Rat.le_ceil
    omega
  · have run := (Course.run_repeatWithin_of_stopsFirstAt stops more).1
    rw [failed] at run
    exact ⟨run, Course.run_retry run⟩
  · rcases stops.1 with ⟨value, succeeds⟩ | ⟨counted, -⟩ | ⟨spent, known, late⟩
    · cases failed.symm.trans succeeds
    · omega
    · cases limited.symm.trans known
      exact late
  · rcases last with _ | last
    · rw [Course.ends, Course.begins, instant, add_zero, sub_self]
      positivity
    · -- the attempt before the last one ended in time, and one pause has passed since
      have timely : course.ends backoff last - course.start < budget := by
        by_contra late
        exact stops.2 last last.lt_succ_self (.inr (.inr ⟨budget, limited, not_lt.mp late⟩))
      have paused := course.pause_lt_longest longest last
      have later : course.ends backoff (last + 1) =
          course.ends backoff last + course.pause backoff last := by
        rw [Course.ends, Course.begins, instant (last + 1), add_zero]
        rfl
      rw [later]
      linarith

/-- The wait for the agent ends after three minutes, if every check finds it. -/
theorem budget_ends_repetition_liveness :
    hopeless.StopsFirstAt .liveness 5 ∧ ∃ last failure,
      hopeless.outcome last = .error failure ∧ (last + 1 : Int) ≤ 37 ∧
      (Backoff.liveness.retry (Backoff.liveness.fuel + 1) Trial.clock hopeless.operation).run
        hopeless.handle hopeless.initial = (.error failure, hopeless.after .liveness last) ∧
      180 ≤ hopeless.ends .liveness last ∧ hopeless.ends .liveness last < 270 := by
  obtain ⟨last, failure, failed, few, retried, spent, overdrawn⟩ :=
    budget_ends_repetition hopeless (rfl : Backoff.liveness.maxAttempts = 0) rfl (by norm_num)
      (by decide +kernel) (by decide +kernel) (by decide +kernel)
      (fun _ => ⟨_, rfl⟩) (fun _ => rfl)
  have started : hopeless.start = 0 := rfl
  have rounded : (2 * 180 / min Backoff.liveness.initialDelay Backoff.liveness.maxDelay).ceil + 1
      = 37 := by decide +kernel
  have longest : 180 + 3 / 2 * max Backoff.liveness.initialDelay Backoff.liveness.maxDelay
      = 270 := by decide +kernel
  rw [started, sub_zero] at spent overdrawn
  rw [rounded] at few
  have enough : Backoff.liveness.fuel + 1 > last := by
    have followed : Backoff.liveness.fuel = 36 := rfl
    omega
  exact ⟨by decide +kernel, last, failure, failed, few, (retried _ enough).2, spent,
    longest ▸ overdrawn (by norm_num)⟩

end PlatformApps
