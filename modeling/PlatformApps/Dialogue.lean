/-
# Dialogues with the outside world

The steps of the operator are written as dialogues: trees of questions, each with a
continuation for every outcome of the question. A dialogue decides what is asked next
and nothing else. `run` plays it against a handler with a state, `translate` replaces
each question by a dialogue over other questions. The same step therefore runs on an
in-memory store, on a store with injected faults and against an API server.
-/

import PlatformApps.Failure

namespace PlatformApps

/-- Questions, and what a successful answer to each of them holds. -/
structure Interface where
  Question : Type
  Reply : Question → Type

/-- A computation that asks questions and ends with an outcome. -/
inductive Dialogue (I : Interface) (α : Type) : Type where
  | done (outcome : Outcome α)
  | ask (question : I.Question) (next : Outcome (I.Reply question) → Dialogue I α)

namespace Dialogue

variable {I J : Interface} {α β σ : Type}

/-- Goes on with the value; a failure ends the dialogue. -/
def bind : Dialogue I α → (α → Dialogue I β) → Dialogue I β
  | .done (.ok value), next => next value
  | .done (.error failure), _ => .done (.error failure)
  | .ask question answered, next => .ask question fun outcome => (answered outcome).bind next

instance : Monad (Dialogue I) where
  pure value := .done (.ok value)
  bind := bind

/-- Ends with a failure. -/
def fail (failure : Failure) : Dialogue I α := .done (.error failure)

/-- Ends with an outcome already known. -/
def ofOutcome (outcome : Outcome α) : Dialogue I α := .done outcome

/-- Asks one question and fails as it fails. -/
def request (question : I.Question) : Dialogue I (I.Reply question) := .ask question .done

/-- Makes failures values, so that the caller can tell them apart. -/
def attempt : Dialogue I α → Dialogue I (Outcome α)
  | .done outcome => .done (.ok outcome)
  | .ask question answered => .ask question fun outcome => (answered outcome).attempt

/-- Asks one question and takes a failure that passes the test for the given value. -/
def tolerate (question : I.Question) (isHarmless : Failure → Bool) (instead : I.Reply question) :
    Dialogue I (I.Reply question) :=
  .ask question fun outcome =>
    match outcome with
    | .ok reply => .done (.ok reply)
    | .error failure => if isHarmless failure then .done (.ok instead) else .done (.error failure)

/-- Plays a dialogue against a handler that answers each question and moves a state on. -/
def run (handler : (question : I.Question) → σ → Outcome (I.Reply question) × σ) :
    Dialogue I α → σ → Outcome α × σ
  | .done outcome, state => (outcome, state)
  | .ask question answered, state =>
    let (outcome, next) := handler question state
    (answered outcome).run handler next

/-- The questions a handler is asked, in order. -/
def questions (handler : (question : I.Question) → σ → Outcome (I.Reply question) × σ) :
    Dialogue I α → σ → List I.Question
  | .done _, _ => []
  | .ask question answered, state =>
    let (outcome, next) := handler question state
    question :: (answered outcome).questions handler next

/-- Replaces every question by a dialogue over another interface, which may carry a state
from one question to the next. -/
def translate (step : (question : I.Question) → σ → Dialogue J (Outcome (I.Reply question) × σ)) :
    Dialogue I α → σ → Dialogue J (Outcome α × σ)
  | .done outcome, state => pure (outcome, state)
  | .ask question answered, state =>
    (step question state).bind fun answer => (answered answer.1).translate step answer.2

/-- Asks the questions of a smaller interface through a larger one. -/
def embed (into : I.Question → J.Question)
    (reply : (question : I.Question) → J.Reply (into question) → I.Reply question) :
    Dialogue I α → Dialogue J α
  | .done outcome => .done outcome
  | .ask question answered =>
    .ask (into question) fun outcome => (answered (outcome.map (reply question))).embed into reply

@[simp] theorem bind_done_ok (value : α) (next : α → Dialogue I β) :
    (Dialogue.done (.ok value) : Dialogue I α).bind next = next value := rfl

@[simp] theorem bind_done_error (failure : Failure) (next : α → Dialogue I β) :
    (Dialogue.done (.error failure) : Dialogue I α).bind next = .done (.error failure) := rfl

@[simp] theorem run_done
    (handler : (question : I.Question) → σ → Outcome (I.Reply question) × σ)
    (outcome : Outcome α) (state : σ) :
    (Dialogue.done outcome : Dialogue I α).run handler state = (outcome, state) := rfl

/-- Playing a sequence is playing its parts one after the other. -/
theorem run_bind (handler : (question : I.Question) → σ → Outcome (I.Reply question) × σ)
    (first : Dialogue I α) (next : α → Dialogue I β) (state : σ) :
    (first.bind next).run handler state =
      match first.run handler state with
      | (.ok value, after) => (next value).run handler after
      | (.error failure, after) => (.error failure, after) := by
  induction first generalizing state with
  | done outcome => cases outcome <;> rfl
  | ask question answered ih => exact ih _ _

end Dialogue

end PlatformApps
