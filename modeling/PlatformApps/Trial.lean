/-
# Repeating on a clock of its own

A trial plays the repetition of an operation that fails a number of times, on a clock that
only pauses move on. It shows how often the operation was run and how long each pause was.
Pauses are taken by a timer, which counts whole milliseconds and stops within some years.
-/

import PlatformApps.Backoff
import PlatformApps.Binary64

namespace PlatformApps

/-- What a repeated operation and its repetition ask. -/
inductive TrialRequest where
  | run
  | now
  | jitter
  | pause (seconds : Rat)

@[reducible]
def TrialRequest.Reply : TrialRequest → Type
  | .run => Nat
  | .now | .jitter => Rat
  | .pause _ => Unit

@[reducible]
def Trials : Interface := ⟨TrialRequest, TrialRequest.Reply⟩

structure Trial where
  attempts : Nat := 0
  now : Rat := 0
  pauses : List Rat := []

/-- The longest time that a timer runs, in milliseconds. -/
def longestPause : Nat := 68719476734

/-- How long a pause takes on a timer. It is asked for in whole nanoseconds, and it ends on
a whole millisecond. -/
def pauseOnTimer (seconds : Rat) : Rat :=
  let scaled := seconds * 1000000000
  let nanoseconds := Binary64.divNearestEven scaled.num.toNat scaled.den
  mkRat (min ((nanoseconds + 999999) / 1000000) longestPause) 1000

namespace Trial

def clock : Clock Trials where
  now := .ask TrialRequest.now .done
  jitter := .ask TrialRequest.jitter .done
  pause seconds := .ask (TrialRequest.pause seconds) .done

/-- An attempt yields its number, or fails with it. -/
def operation : Dialogue Trials Nat := .ask TrialRequest.run .done

/-- The first attempts fail, later ones do not. -/
def handle (failures : Nat) (request : TrialRequest) (trial : Trial) :
    Outcome request.Reply × Trial :=
  match request with
  | .run =>
    let number := trial.attempts + 1
    let trial := { trial with attempts := number }
    if number ≤ failures then (.error (.notDeleted s!"attempt {number}"), trial)
    else (.ok number, trial)
  | .now => (.ok trial.now, trial)
  | .jitter => (.ok (1 : Rat), trial)
  | .pause seconds =>
    let taken := pauseOnTimer seconds
    (.ok (), { trial with now := trial.now + taken, pauses := trial.pauses ++ [taken] })

/-- Repeats an operation whose first attempts fail. One attempt more than that succeeds, so
the repetition always comes to an end. -/
def play (backoff : Backoff) (failures : Nat) : Outcome (Option Nat) × Trial :=
  (backoff.repeatWithin (failures + 2) clock operation).run (handle failures) {}

end Trial

end PlatformApps
