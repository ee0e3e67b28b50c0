/-
# What a repetition comes to

A repetition that succeeds ends with its last attempt, which is the one that succeeded; an
operation that succeeds at once is attempted once. A repetition asks nothing but what the
operation asks and what the clock needs.
-/

import PlatformApps.Backoff
import PlatformApps.Proofs.Dialogue

namespace PlatformApps.Backoff

variable {I : Interface} {α σ : Type} {handler : I.Handler σ} {backoff : Backoff}
  {clock : Clock I} {operation : Dialogue I α}

private theorem last_of_attempts {started : Rat} {fuel attempt : Nat} {delay : Rat}
    {state after : σ} {value : α}
    (played : (backoff.attempts clock operation started fuel attempt delay).run handler state =
      (.ok (some value), after)) :
    ∃ last, operation.run handler last = (.ok value, after) ∧
      operation.moments handler last <:+
        (backoff.attempts clock operation started fuel attempt delay).moments handler state := by
  induction fuel generalizing attempt delay state with
  | zero => cases played
  | succ fuel ih =>
      have attempted := Dialogue.run_attempt handler operation state
      rw [attempts, Dialogue.run_bind_of_ok attempted] at played
      rw [attempts]
      cases tried : operation.run handler state with
      | mk outcome between =>
          rw [tried] at played attempted
          cases outcome with
          | ok result =>
              cases played
              refine ⟨state, tried, ?_⟩
              rw [Dialogue.moments_bind, attempted, Dialogue.moments_attempt]
              exact (List.append_nil _).symm ▸ List.suffix_refl _
          | error failure =>
              simp only [Dialogue.bind_eq] at played
              obtain ⟨now, _, looked, played⟩ := Dialogue.run_bind_eq_ok_iff.mp played
              split at played
              · cases played
              · rename_i goesOn
                obtain ⟨factor, _, drawn, played⟩ := Dialogue.run_bind_eq_ok_iff.mp played
                obtain ⟨_, _, waited, played⟩ := Dialogue.run_bind_eq_ok_iff.mp played
                obtain ⟨last, succeeds, ending⟩ := ih played
                refine ⟨last, succeeds, .trans ?_ (Dialogue.moments_suffix_of_ok attempted _)⟩
                refine .trans ?_ (Dialogue.moments_suffix_of_ok looked _)
                rw [if_neg goesOn]
                refine .trans ?_ (Dialogue.moments_suffix_of_ok drawn _)
                exact ending.trans (Dialogue.moments_suffix_of_ok waited fun _ =>
                  backoff.attempts clock operation started fuel (attempt + 1) _)

/-- A repetition that succeeds ends with an attempt that succeeds, and asks nothing after it. -/
theorem last_of_retry {fuel : Nat} {state after : σ} {value : α}
    (played : (backoff.retry fuel clock operation).run handler state = (.ok value, after)) :
    ∃ last, operation.run handler last = (.ok value, after) ∧
      operation.moments handler last <:+
        (backoff.retry fuel clock operation).moments handler state := by
  simp only [retry, repeatWithin, Dialogue.bind_eq, Dialogue.pure_eq] at played ⊢
  obtain ⟨found, between, repeated, played⟩ := Dialogue.run_bind_eq_ok_iff.mp played
  obtain ⟨started, _, looked, repeated⟩ := Dialogue.run_bind_eq_ok_iff.mp repeated
  cases found with
  | none => cases played
  | some result =>
      cases played
      obtain ⟨last, succeeds, ending⟩ := last_of_attempts repeated
      refine ⟨last, succeeds, ending.trans ?_⟩
      rw [Dialogue.moments_bind handler (clock.now.bind _),
        Dialogue.run_bind_of_ok looked, repeated]
      exact (List.append_nil _).symm ▸ Dialogue.moments_suffix_of_ok looked fun started =>
        backoff.attempts clock operation started fuel 1 backoff.initialDelay

/-- A repetition goes on as long as attempts are left and its time is not over. -/
theorem isExhausted_eq_false_iff {attempt : Nat} {elapsed : Rat} :
    backoff.isExhausted attempt elapsed = false ↔
      (backoff.maxAttempts = 0 ∨ attempt < backoff.maxAttempts) ∧
        ∀ budget ∈ backoff.maxElapsed, elapsed < budget := by
  simp only [isExhausted, Bool.or_eq_false_iff, Bool.and_eq_false_iff, decide_eq_false_iff_not,
    Nat.not_lt, Nat.le_zero_eq, Nat.not_le, Option.any_eq_false, Rat.not_le, Option.mem_def]

/-- What succeeds at once is attempted once. -/
theorem retry_of_first {fuel : Nat} {state begun after : σ} {started : Rat} {value : α}
    (now : clock.now.run handler state = (.ok started, begun))
    (first : operation.run handler begun = (.ok value, after)) :
    (backoff.retry (fuel + 1) clock operation).run handler state = (.ok value, after) := by
  have attempted : (operation.attempt).run handler begun = (.ok (.ok value), after) := by
    rw [Dialogue.run_attempt, first]
  have repeated : (backoff.repeatWithin (fuel + 1) clock operation).run handler state =
      (.ok (some value), after) := by
    rw [repeatWithin, Dialogue.bind_eq, Dialogue.run_bind_of_ok now, attempts,
      Dialogue.run_bind_of_ok attempted]
    rfl
  rw [retry, Dialogue.bind_eq, Dialogue.run_bind_of_ok repeated]
  rfl

variable {allowed : I.Question → Prop}

private theorem asks_attempts (now : clock.now.Asks allowed) (jitter : clock.jitter.Asks allowed)
    (pause : ∀ seconds, (clock.pause seconds).Asks allowed) (asks : operation.Asks allowed)
    (started : Rat) (fuel attempt : Nat) (delay : Rat) :
    (backoff.attempts clock operation started fuel attempt delay).Asks allowed := by
  induction fuel generalizing attempt delay with
  | zero => trivial
  | succ fuel ih =>
      refine asks.attempt.bind fun outcome => ?_
      cases outcome with
      | ok value => trivial
      | error failure =>
          refine now.bind fun now => ?_
          split
          · trivial
          · exact jitter.bind fun factor => (pause _).bind fun _ => ih _ _

theorem asks_retry (now : clock.now.Asks allowed) (jitter : clock.jitter.Asks allowed)
    (pause : ∀ seconds, (clock.pause seconds).Asks allowed) (asks : operation.Asks allowed)
    (fuel : Nat) : (backoff.retry fuel clock operation).Asks allowed := by
  refine Dialogue.Asks.bind (now.bind fun started =>
    asks_attempts now jitter pause asks started _ _ _) fun found => ?_
  cases found <;> trivial

end PlatformApps.Backoff
