/-
# Repeating what fails

An operation that fails for a while is repeated with growing pauses until it succeeds, a
number of attempts is used up, or too much time has passed. Time is counted in seconds,
exactly. Pauses are scattered by a random factor, so that many operators do not repeat in
step.

A repetition may have no end: settings need not bound it, and a clock may stand still. It is
therefore followed for some attempts only, its fuel. Fuel that is used up is an outcome of
its own, which no repetition that ends within the fuel has.
-/

import PlatformApps.Dialogue

namespace PlatformApps

/-- How many attempts are followed where any number is allowed and nothing else is said. -/
def Backoff.usualFuel : Nat := 4096

structure Backoff where
  /-- Zero means any number. -/
  maxAttempts : Nat := 1
  initialDelay : Rat := 0
  maxDelay : Rat := 0
  multiplier : Rat := 1
  /-- No further attempt begins after this time. -/
  maxElapsed : Option Rat := none
  /-- No setting of the operator: how many attempts are followed after the first one. -/
  fuel : Nat := if maxAttempts = 0 then Backoff.usualFuel else maxAttempts
  deriving DecidableEq

/-- What repeating needs from its surroundings. -/
structure Clock (I : Interface) where
  now : Dialogue I Rat
  /-- A random factor around one. -/
  jitter : Dialogue I Rat
  pause : Rat → Dialogue I Unit

namespace Backoff

/-- For the index of a catalog: four attempts within half a minute. -/
def catalogIndex : Backoff where
  maxAttempts := 4
  initialDelay := 1
  maxDelay := 5
  multiplier := 2
  maxElapsed := some 30

/-- For an agent that is about to stop: pauses from ten seconds to a minute, for about
three minutes. More attempts than the fuel allows would take longer than that. -/
def liveness : Backoff where
  maxAttempts := 0
  initialDelay := 10
  maxDelay := 60
  multiplier := 2
  maxElapsed := some 180
  fuel := 36

/-- A single attempt. -/
def immediate : Backoff := {}

/-- Does a failure of this attempt end the repetition? -/
def isExhausted (backoff : Backoff) (attempt : Nat) (elapsed : Rat) : Bool :=
  (0 < backoff.maxAttempts && backoff.maxAttempts ≤ attempt) ||
    backoff.maxElapsed.any fun budget => decide (budget ≤ elapsed)

/-- A delay, or the longest one where it is longer. -/
def cut (backoff : Backoff) (delay : Rat) : Rat :=
  if delay ≤ backoff.maxDelay then delay else backoff.maxDelay

/-- The delay after a delay. -/
def nextDelay (backoff : Backoff) (delay : Rat) : Rat := backoff.cut (delay * backoff.multiplier)

variable {I : Interface} {α : Type}

/-- Attempts from a given one on. Nothing comes out when the fuel is used up before the
repetition ends. -/
def attempts (backoff : Backoff) (clock : Clock I) (operation : Dialogue I α) (started : Rat) :
    (fuel attempt : Nat) → (delay : Rat) → Dialogue I (Option α)
  | 0, _, _ => pure none
  | fuel + 1, attempt, delay =>
    operation.attempt.bind fun
    | .ok value => pure (some value)
    | .error failure => do
      let now ← clock.now
      if backoff.isExhausted attempt (now - started) then .fail failure
      else
        let factor ← clock.jitter
        clock.pause (delay * factor)
        attempts backoff clock operation started fuel (attempt + 1) (backoff.nextDelay delay)

/-- Repeats an operation, in at most `fuel` attempts. -/
def repeatWithin (backoff : Backoff) (fuel : Nat) (clock : Clock I) (operation : Dialogue I α) :
    Dialogue I (Option α) := do
  let started ← clock.now
  attempts backoff clock operation started fuel 1 backoff.initialDelay

/-- Repeats an operation until it succeeds or the settings end the repetition. -/
def retry (backoff : Backoff) (fuel : Nat) (clock : Clock I) (operation : Dialogue I α) :
    Dialogue I α := do
  match ← repeatWithin backoff fuel clock operation with
  | some value => pure value
  | none => .fail .unended

end Backoff

end PlatformApps
