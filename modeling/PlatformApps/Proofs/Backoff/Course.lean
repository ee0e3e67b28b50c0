/-
# The course of a repetition

How a repetition goes is settled by the settings and by what meets it: how each attempt ends,
how long it takes, and the random factors. The main statement is that it stops at the first
attempt after which no other may follow, having paused once between two attempts, and that
without such an attempt it goes on for ever. Delays grow by a factor up to the longest one.
-/

import Mathlib.Algebra.Order.Field.Rat
import Mathlib.Tactic.Linarith
import PlatformApps.Proofs.Cleanup.Stages
import PlatformApps.Proofs.Surroundings
import PlatformApps.Trial

namespace PlatformApps

/-! ## Delays -/

namespace Backoff

/-- The delay that is planned after a number of earlier ones. -/
def delay (backoff : Backoff) : Nat → Rat
  | 0 => backoff.initialDelay
  | n + 1 => backoff.nextDelay (backoff.delay n)

variable {backoff : Backoff}

theorem cut_eq_min (backoff : Backoff) (delay : Rat) :
    backoff.cut delay = min delay backoff.maxDelay :=
  (min_def delay backoff.maxDelay).symm

/-- Delays that are cut one after the other are those of a geometric sequence, each cut once. -/
theorem delay_eq_min (grows : 1 ≤ backoff.multiplier) (nonneg : 0 ≤ backoff.initialDelay)
    (ordered : backoff.initialDelay ≤ backoff.maxDelay) (n : Nat) :
    backoff.delay n = min (backoff.initialDelay * backoff.multiplier ^ n) backoff.maxDelay := by
  induction n with
  | zero => rw [delay, pow_zero, mul_one, min_eq_left ordered]
  | succ n ih =>
      have steady : backoff.maxDelay ≤ backoff.maxDelay * backoff.multiplier :=
        le_mul_of_one_le_right (nonneg.trans ordered) grows
      have positive : 0 ≤ backoff.multiplier := zero_le_one.trans grows
      rw [delay, nextDelay, cut_eq_min, ih, min_mul_of_nonneg _ _ positive, min_assoc,
        min_eq_right steady, mul_assoc, ← pow_succ]

end Backoff

/-! ## What meets a repetition -/

/-- All that a repetition meets. Attempts and pauses are counted from zero. -/
structure Course (α : Type) where
  start : Rat := 0
  /-- How an attempt ends. -/
  outcome : Nat → Outcome α
  /-- How long an attempt takes. -/
  duration : Nat → Rat
  /-- The random factor of a pause. -/
  factor : Nat → Rat
  duration_nonneg : ∀ n, 0 ≤ duration n
  half_le_factor : ∀ n, 1 / 2 ≤ factor n
  factor_lt : ∀ n, factor n < 3 / 2

namespace Course

variable {α : Type} (course : Course α) (backoff : Backoff)

def initial : Trial := { now := course.start }

/-- An attempt ends as the course has it. -/
def operation : Dialogue Trials α :=
  Trial.operation.bind fun earlier => .ofOutcome (course.outcome earlier)

/-- Attempts are counted and take their time, pauses are kept and take as long as asked for. -/
def handle (request : TrialRequest) (trial : Trial) : Outcome request.Reply × Trial :=
  match request with
  | .run =>
    let earlier := trial.attempts
    (.ok earlier,
      { trial with attempts := earlier + 1, now := trial.now + course.duration earlier })
  | .now => (.ok trial.now, trial)
  | .jitter => (.ok (course.factor trial.pauses.length), trial)
  | .pause seconds =>
    (.ok (), { trial with now := trial.now + seconds, pauses := trial.pauses ++ [seconds] })

/-- How long a pause is. -/
def pause (n : Nat) : Rat := backoff.delay n * course.factor n

/-- When an attempt begins. -/
def begins : Nat → Rat
  | 0 => course.start
  | n + 1 => begins n + course.duration n + course.pause backoff n

/-- When an attempt ends. -/
def ends (n : Nat) : Rat := course.begins backoff n + course.duration n

/-- No attempt may follow this one: it succeeds, it is the last of those allowed, or the time
is over when it ends. -/
def StopsAt (n : Nat) : Prop :=
  (∃ value, course.outcome n = .ok value) ∨
    (0 < backoff.maxAttempts ∧ backoff.maxAttempts ≤ n + 1) ∨
    ∃ budget ∈ backoff.maxElapsed, budget ≤ course.ends backoff n - course.start

/-- The first attempt after which no other may follow. -/
def StopsFirstAt (last : Nat) : Prop :=
  course.StopsAt backoff last ∧ ∀ n < last, ¬ course.StopsAt backoff n

/-- A number of attempts has been made, each with a pause after it. -/
def before (n : Nat) : Trial :=
  ⟨n, course.begins backoff n, (List.range n).map (course.pause backoff)⟩

/-- One more attempt has been made, with no pause after it. -/
def after (n : Nat) : Trial :=
  ⟨n + 1, course.ends backoff n, (List.range n).map (course.pause backoff)⟩

/-- What is asked for an attempt and the pause after it. -/
def round (n : Nat) : List TrialRequest :=
  [.run, .now, .jitter, .pause (course.pause backoff n)]

/-- What is asked for an attempt that no other follows. -/
def lastRound (n : Nat) : List TrialRequest :=
  match course.outcome n with
  | .ok _ => [.run]
  | .error _ => [.run, .now]

variable {course backoff}

theorem stopsAt_iff {n : Nat} :
    course.StopsAt backoff n ↔ (∃ value, course.outcome n = .ok value) ∨
      backoff.isExhausted (n + 1) (course.ends backoff n - course.start) = true := by
  simp only [StopsAt, Backoff.isExhausted, Bool.or_eq_true, Bool.and_eq_true, decide_eq_true_eq,
    Option.any_eq_true, Option.mem_def]

instance {n : Nat} : Decidable (course.StopsAt backoff n) :=
  match ends : course.outcome n with
  | .ok value => .isTrue (stopsAt_iff.mpr (.inl ⟨value, ends⟩))
  | .error _ =>
    decidable_of_iff (backoff.isExhausted (n + 1) (course.ends backoff n - course.start) = true)
      ⟨fun used => stopsAt_iff.mpr (.inr used), fun stops =>
        (stopsAt_iff.mp stops).resolve_left fun ⟨_, succeeds⟩ => nomatch ends.symm.trans succeeds⟩

instance {last : Nat} : Decidable (course.StopsFirstAt backoff last) :=
  inferInstanceAs (Decidable (_ ∧ _))

/-! ## One attempt after the other -/

section Attempts

variable (course backoff)

/-- Attempts from the one on that follows a number of others. -/
def attemptsFrom (fuel n : Nat) : Dialogue Trials (Option α) :=
  backoff.attempts Trial.clock course.operation course.start fuel (n + 1) (backoff.delay n)

/-- What follows an attempt that has ended. -/
def afterAttempt (fuel n : Nat) : Outcome α → Dialogue Trials (Option α)
  | .ok value => pure (some value)
  | .error failure =>
    Trial.clock.now.bind fun now =>
      if backoff.isExhausted (n + 1) (now - course.start) then .fail failure
      else Trial.clock.jitter.bind fun factor =>
        (Trial.clock.pause (backoff.delay n * factor)).bind fun _ =>
          course.attemptsFrom backoff fuel (n + 1)

theorem run_attemptsFrom_succ (fuel n : Nat) :
    (course.attemptsFrom backoff (fuel + 1) n).run course.handle (course.before backoff n) =
        (course.afterAttempt backoff fuel n (course.outcome n)).run course.handle
          (course.after backoff n) ∧
      (course.attemptsFrom backoff (fuel + 1) n).questions course.handle
          (course.before backoff n) =
        .run :: (course.afterAttempt backoff fuel n (course.outcome n)).questions course.handle
          (course.after backoff n) :=
  ⟨rfl, rfl⟩

theorem run_now (n : Nat) :
    Trial.clock.now.run course.handle (course.after backoff n) =
      (.ok (course.ends backoff n), course.after backoff n) := rfl

theorem run_jitter (n : Nat) :
    Trial.clock.jitter.run course.handle (course.after backoff n) =
      (.ok (course.factor n), course.after backoff n) := by
  have drawn : Trial.clock.jitter.run course.handle (course.after backoff n) =
      (.ok (course.factor ((List.range n).map (course.pause backoff)).length),
        course.after backoff n) := rfl
  rw [drawn, List.length_map, List.length_range]

theorem run_pause (n : Nat) :
    (Trial.clock.pause (course.pause backoff n)).run course.handle (course.after backoff n) =
      (.ok (), course.before backoff (n + 1)) := by
  rw [before, List.range_succ, List.map_append]
  rfl

end Attempts

/-- An attempt that another may follow is followed by a pause and the next one. -/
theorem attemptsFrom_of_goesOn {n : Nat} (goesOn : ¬ course.StopsAt backoff n) (fuel : Nat) :
    (course.attemptsFrom backoff (fuel + 1) n).run course.handle (course.before backoff n) =
        (course.attemptsFrom backoff fuel (n + 1)).run course.handle
          (course.before backoff (n + 1)) ∧
      (course.attemptsFrom backoff (fuel + 1) n).questions course.handle
          (course.before backoff n) =
        course.round backoff n ++ (course.attemptsFrom backoff fuel (n + 1)).questions
          course.handle (course.before backoff (n + 1)) := by
  obtain ⟨unsuccessful, timely⟩ := not_or.mp (mt stopsAt_iff.mpr goesOn)
  obtain ⟨failure, fails⟩ : ∃ failure, course.outcome n = .error failure := by
    rcases ends : course.outcome n with failure | value
    · exact ⟨failure, rfl⟩
    · exact absurd ⟨value, ends⟩ unsuccessful
  have looked := course.run_now backoff n
  have drawn := course.run_jitter backoff n
  have paused : (Trial.clock.pause (backoff.delay n * course.factor n)).run course.handle
      (course.after backoff n) = (.ok (), course.before backoff (n + 1)) :=
    course.run_pause backoff n
  obtain ⟨run, asked⟩ := course.run_attemptsFrom_succ backoff fuel n
  rw [fails, afterAttempt] at run asked
  rw [Dialogue.run_bind_of_ok looked, if_neg timely, Dialogue.run_bind_of_ok drawn,
    Dialogue.run_bind_of_ok paused] at run
  rw [Dialogue.questions_bind_of_ok looked, if_neg timely, Dialogue.questions_bind_of_ok drawn,
    Dialogue.questions_bind_of_ok paused] at asked
  exact ⟨run, asked⟩

/-- An attempt that no other may follow is the last one. -/
theorem attemptsFrom_of_stopsAt {n : Nat} (stops : course.StopsAt backoff n) (fuel : Nat) :
    (course.attemptsFrom backoff (fuel + 1) n).run course.handle (course.before backoff n) =
        ((course.outcome n).map some, course.after backoff n) ∧
      (course.attemptsFrom backoff (fuel + 1) n).questions course.handle
          (course.before backoff n) = course.lastRound n := by
  obtain ⟨run, asked⟩ := course.run_attemptsFrom_succ backoff fuel n
  rw [run, asked, lastRound]
  cases outcome : course.outcome n with
  | ok value => exact ⟨rfl, rfl⟩
  | error failure =>
      have used := (stopsAt_iff.mp stops).resolve_left fun ⟨_, succeeds⟩ =>
        nomatch outcome.symm.trans succeeds
      have looked := course.run_now backoff n
      rw [afterAttempt, Dialogue.run_bind_of_ok looked, Dialogue.questions_bind_of_ok looked,
        if_pos used]
      exact ⟨rfl, rfl⟩

/-- As long as another attempt may follow, attempts follow each other with a pause between. -/
theorem attemptsFrom_zero {n : Nat} (goesOn : ∀ earlier < n, ¬ course.StopsAt backoff earlier)
    (fuel : Nat) :
    (course.attemptsFrom backoff (n + fuel) 0).run course.handle (course.before backoff 0) =
        (course.attemptsFrom backoff fuel n).run course.handle (course.before backoff n) ∧
      (course.attemptsFrom backoff (n + fuel) 0).questions course.handle
          (course.before backoff 0) =
        (List.range n).flatMap (course.round backoff) ++
          (course.attemptsFrom backoff fuel n).questions course.handle
            (course.before backoff n) := by
  induction n generalizing fuel with
  | zero => simp
  | succ n ih =>
      obtain ⟨earlierRun, earlierAsked⟩ :=
        ih (fun earlier before => goesOn earlier (before.trans n.lt_succ_self)) (fuel + 1)
      obtain ⟨run, asked⟩ := attemptsFrom_of_goesOn (goesOn n n.lt_succ_self) fuel
      rw [Nat.add_right_comm n 1 fuel, Nat.add_assoc n fuel 1]
      refine ⟨earlierRun.trans run, ?_⟩
      rw [earlierAsked, asked, List.range_succ, List.flatMap_append, List.flatMap_singleton,
        List.append_assoc]

theorem run_repeatWithin_of_stopsFirstAt {last fuel : Nat}
    (stops : course.StopsFirstAt backoff last) (enough : last < fuel) :
    (backoff.repeatWithin fuel Trial.clock course.operation).run course.handle course.initial =
        ((course.outcome last).map some, course.after backoff last) ∧
      (backoff.repeatWithin fuel Trial.clock course.operation).questions course.handle
          course.initial =
        .now :: ((List.range last).flatMap (course.round backoff) ++ course.lastRound last) := by
  obtain ⟨more, rfl⟩ := Nat.exists_eq_add_of_lt enough
  obtain ⟨earlierRun, earlierAsked⟩ := attemptsFrom_zero stops.2 (more + 1)
  obtain ⟨lastRun, lastAsked⟩ := attemptsFrom_of_stopsAt stops.1 more
  rw [lastAsked] at earlierAsked
  exact ⟨earlierRun.trans lastRun, congrArg (TrialRequest.now :: ·) earlierAsked⟩

theorem run_repeatWithin_of_goesOn (goesOn : ∀ n, ¬ course.StopsAt backoff n) (fuel : Nat) :
    (backoff.repeatWithin fuel Trial.clock course.operation).run course.handle course.initial =
      (.ok none, course.before backoff fuel) :=
  (attemptsFrom_zero (fun n _ => goesOn n) 0).1

/-- What came of the attempts is what comes of the repetition; used-up fuel is told apart. -/
theorem run_retry {fuel : Nat} {found : Outcome (Option α)} {left : Trial}
    (repeated : (backoff.repeatWithin fuel Trial.clock course.operation).run course.handle
      course.initial = (found, left)) :
    (backoff.retry fuel Trial.clock course.operation).run course.handle course.initial =
      (found.bind fun found => found.elim (.error .unended) .ok, left) := by
  rw [Backoff.retry, Dialogue.bind_eq, Dialogue.run_bind, repeated]
  rcases found with failure | _ | value <;> rfl

/-- Where attempts are limited, the first one that no other follows is among them. -/
theorem StopsFirstAt.lt_maxAttempts {last : Nat} (stops : course.StopsFirstAt backoff last)
    (limited : 0 < backoff.maxAttempts) : last < backoff.maxAttempts := by
  by_contra beyond
  have early : backoff.maxAttempts - 1 < last := by omega
  exact stops.2 _ early (.inr (.inl ⟨limited, by omega⟩))

end Course

/-- A repetition runs exactly as long as it must. It stops at the first attempt after which no
other may follow, with the outcome of that attempt, having paused once after each of the attempts
before it; as many attempts as are allowed are fuel enough for that. Without such an attempt it
never stops, and uses up any fuel. From settings under which delays do not shrink, each pause is
the delay of a geometric sequence, or the longest one, times its random factor. A wait for the
agent in particular succeeds only where its last check found no deployment. -/
theorem repetition_stops_at_first (backoff : Backoff) {α : Type} (course : Course α) :
    (∀ last, course.StopsFirstAt backoff last →
      (0 < backoff.maxAttempts → last < backoff.maxAttempts) ∧
      ∀ fuel > last,
        (backoff.repeatWithin fuel Trial.clock course.operation).run course.handle
            course.initial =
          ((course.outcome last).map some,
            ⟨last + 1, course.ends backoff last, (List.range last).map (course.pause backoff)⟩) ∧
        (backoff.repeatWithin fuel Trial.clock course.operation).questions course.handle
            course.initial =
          .now :: ((List.range last).flatMap (course.round backoff) ++ course.lastRound last) ∧
        (backoff.retry fuel Trial.clock course.operation).run course.handle course.initial =
          (course.outcome last,
            ⟨last + 1, course.ends backoff last,
              (List.range last).map (course.pause backoff)⟩)) ∧
    ((∀ n, ¬ course.StopsAt backoff n) → ∀ fuel,
      (backoff.repeatWithin fuel Trial.clock course.operation).run course.handle course.initial =
          (.ok none, course.before backoff fuel) ∧
        (backoff.retry fuel Trial.clock course.operation).run course.handle course.initial =
          (.error .unended, course.before backoff fuel)) ∧
    (1 ≤ backoff.multiplier → 0 ≤ backoff.initialDelay →
      backoff.initialDelay ≤ backoff.maxDelay → ∀ n,
        course.pause backoff n = course.factor n *
          min (backoff.initialDelay * backoff.multiplier ^ n) backoff.maxDelay) ∧
    ∀ {σ : Type} (handler : Operator.Handler σ) (id space : String) (state after : σ),
      (awaitAgentGone backoff id space).run handler state = (.ok (), after) →
        ∃ last, ((awaitAgentGone backoff id space).moments handler state).getLast? =
            some (.store (.deploymentExists space (agentDeploymentName id)), last) ∧
          handler (.store (.deploymentExists space (agentDeploymentName id))) last =
            (.ok false, after) := by
  refine ⟨fun last stops => ⟨stops.lt_maxAttempts, fun fuel enough => ?_⟩,
    fun goesOn fuel => ?_, fun grows nonneg ordered n => ?_,
    fun handler id space state after gone => ?_⟩
  · obtain ⟨run, asked⟩ := Course.run_repeatWithin_of_stopsFirstAt stops enough
    refine ⟨run, asked, (Course.run_retry run).trans ?_⟩
    cases course.outcome last <;> rfl
  · have run := Course.run_repeatWithin_of_goesOn goesOn fuel
    exact ⟨run, Course.run_retry run⟩
  · rw [Course.pause, Backoff.delay_eq_min grows nonneg ordered, mul_comm]
  · exact Cleanup.deployment_absent_of_awaitAgentGone gone

/-- Two attempts fail, and the third does not. -/
def settling : Course Nat where
  outcome n := if n < 2 then .error (.notDeleted "agent") else .ok n
  duration _ := 1
  factor n := if n = 0 then 1 / 2 else 5 / 4
  duration_nonneg _ := zero_le_one
  half_le_factor n := by split <;> norm_num
  factor_lt n := by split <;> norm_num

/-- Settings that end no repetition. -/
def Backoff.endless : Backoff where
  maxAttempts := 0
  initialDelay := 1
  maxDelay := 5
  multiplier := 2

/-- Every attempt fails. -/
def hopeless : Course Nat where
  outcome _ := .error (.notDeleted "agent")
  duration _ := 0
  factor _ := 1
  duration_nonneg _ := le_rfl
  half_le_factor _ := by norm_num
  factor_lt _ := by norm_num

theorem hopeless_goesOn (n : Nat) : ¬ hopeless.StopsAt .endless n := by
  rintro (⟨_, succeeds⟩ | ⟨limited, _⟩ | ⟨_, limited, _⟩)
  · cases succeeds
  · exact lt_irrefl 0 limited
  · cases limited

theorem repetition_stops_at_first_settling :
    settling.StopsFirstAt .liveness 2 ∧
    (Backoff.liveness.repeatWithin 3 Trial.clock settling.operation).run settling.handle
      settling.initial = (.ok (some 2), ⟨3, 33, [5, 25]⟩) ∧
    (Backoff.liveness.repeatWithin 3 Trial.clock settling.operation).questions settling.handle
      settling.initial =
        [.now, .run, .now, .jitter, .pause 5, .run, .now, .jitter, .pause 25, .run] ∧
    (Backoff.liveness.retry 3 Trial.clock settling.operation).run settling.handle
      settling.initial = (.ok 2, ⟨3, 33, [5, 25]⟩) ∧
    settling.pause .liveness 3 = 5 / 4 * 60 ∧
    (Backoff.endless.repeatWithin 2 Trial.clock hopeless.operation).run hopeless.handle
      hopeless.initial = (.ok none, ⟨2, 3, [1, 2]⟩) ∧
    (Backoff.endless.retry 2 Trial.clock hopeless.operation).run hopeless.handle
      hopeless.initial = (.error .unended, ⟨2, 3, [1, 2]⟩) ∧
    (awaitAgentGone .liveness "demo0" "org-acme").run World.surroundings.handle ({}, {}) =
      (.ok (), ({}, {})) ∧
    ((awaitAgentGone .liveness "demo0" "org-acme").moments World.surroundings.handle
      ({}, {})).getLast?.map Prod.fst =
        some (.store (.deploymentExists "org-acme" (agentDeploymentName "demo0"))) := by
  have stops : settling.StopsFirstAt .liveness 2 := by decide +kernel
  have first : settling.pause .liveness 0 = 5 := by decide +kernel
  have second : settling.pause .liveness 1 = 25 := by decide +kernel
  have pauses : (List.range 2).map (settling.pause .liveness) = [5, 25] := by
    rw [← first, ← second]
    rfl
  have rounds : (List.range 2).flatMap (settling.round .liveness) =
      [.run, .now, .jitter, .pause 5, .run, .now, .jitter, .pause 25] := by
    rw [← first, ← second]
    rfl
  have ended : settling.ends .liveness 2 = 33 := by decide +kernel
  obtain ⟨ending, -, closed, checked⟩ := repetition_stops_at_first .liveness settling
  obtain ⟨run, asked, retried⟩ := (ending 2 stops).2 3 (by decide)
  have longest := closed (by decide +kernel) (by decide +kernel) (by decide +kernel) 3
  obtain ⟨goesOn, follows⟩ := (repetition_stops_at_first .endless hopeless).2.1 hopeless_goesOn 2
  have began : hopeless.begins .endless 2 = 3 := by decide +kernel
  have later : (List.range 2).map (hopeless.pause .endless) = [1, 2] := by decide +kernel
  have gone : (awaitAgentGone .liveness "demo0" "org-acme").run World.surroundings.handle
      ({}, {}) = (.ok (), ({}, {})) := rfl
  obtain ⟨last, looked, absent⟩ := checked _ _ _ _ _ gone
  refine ⟨stops, ?_, ?_, ?_, ?_, ?_, ?_, gone, by rw [looked]; rfl⟩
  · rw [run, ended, pauses]
    rfl
  · rw [asked, rounds]
    rfl
  · rw [retried, ended, pauses]
    rfl
  · exact longest.trans (by decide +kernel)
  · rw [goesOn, Course.before, began, later]
  · rw [follows, Course.before, began, later]

end PlatformApps
