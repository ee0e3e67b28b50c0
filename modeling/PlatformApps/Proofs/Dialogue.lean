/-
# Playing dialogues

What a dialogue does against a handler follows from its parts. `moments` lists every
question together with the state in which it is asked, so that statements about order can
be made; `Asks` bounds what a dialogue can ask whatever it is told, and from that follows
what it cannot change.
-/

import PlatformApps.Dialogue

namespace PlatformApps

/-- What answers the questions of an interface and moves a state on. -/
abbrev Interface.Handler (I : Interface) (σ : Type) : Type :=
  (question : I.Question) → σ → Outcome (I.Reply question) × σ

namespace Dialogue

variable {I J : Interface} {α β σ τ ν : Type}

@[simp] theorem bind_eq (first : Dialogue I α) (next : α → Dialogue I β) :
    (first >>= next) = first.bind next := rfl

@[simp] theorem pure_eq (value : α) : (pure value : Dialogue I α) = .done (.ok value) := rfl

theorem bind_assoc {γ : Type} (first : Dialogue I α) (second : α → Dialogue I β)
    (third : β → Dialogue I γ) :
    (first.bind second).bind third = first.bind fun value => (second value).bind third := by
  induction first with
  | done outcome => cases outcome <;> rfl
  | ask question answered ih => exact congrArg (Dialogue.ask question) (funext ih)

theorem embed_bind (into : I.Question → J.Question)
    (reply : (question : I.Question) → J.Reply (into question) → I.Reply question)
    (first : Dialogue I α) (next : α → Dialogue I β) :
    (first.bind next).embed into reply =
      (first.embed into reply).bind fun value => (next value).embed into reply := by
  induction first with
  | done outcome => cases outcome <;> rfl
  | ask question answered ih =>
      exact congrArg (Dialogue.ask (into question)) (funext fun outcome => ih _)

@[simp] theorem run_ask_done (handler : I.Handler σ) (question : I.Question) (state : σ) :
    (Dialogue.ask question .done).run handler state = handler question state := rfl

/-- A dialogue goes on with the answer to its first question. -/
theorem run_ask_of_answer {handler : I.Handler σ} {question : I.Question} {state after : σ}
    {outcome : Outcome (I.Reply question)} (answer : handler question state = (outcome, after))
    (answered : Outcome (I.Reply question) → Dialogue I α) :
    (Dialogue.ask question answered).run handler state = (answered outcome).run handler after := by
  rw [run, answer]

theorem run_tolerate_of_ok {handler : I.Handler σ} {question : I.Question} {state after : σ}
    {reply : I.Reply question} (answer : handler question state = (.ok reply, after))
    (isHarmless : Failure → Bool) (instead : I.Reply question) :
    (Dialogue.tolerate question isHarmless instead).run handler state = (.ok reply, after) := by
  rw [Dialogue.tolerate, run_ask_of_answer answer, run_done]

theorem run_tolerate_of_harmless {handler : I.Handler σ} {question : I.Question}
    {state after : σ} {failure : Failure} {isHarmless : Failure → Bool}
    (answer : handler question state = (.error failure, after))
    (harmless : isHarmless failure = true) (instead : I.Reply question) :
    (Dialogue.tolerate question isHarmless instead).run handler state = (.ok instead, after) := by
  rw [Dialogue.tolerate, run_ask_of_answer answer]
  simp only [harmless, if_true, run_done]

/-- What follows a dialogue that succeeds is played from where that one ended. -/
theorem run_bind_of_ok {handler : I.Handler σ} {first : Dialogue I α} {value : α}
    {state between : σ} (played : first.run handler state = (.ok value, between))
    (next : α → Dialogue I β) :
    (first.bind next).run handler state = (next value).run handler between := by
  rw [run_bind, played]

/-- A sequence succeeds just when its first part does and the second does from there. -/
theorem run_bind_eq_ok_iff {handler : I.Handler σ} {first : Dialogue I α}
    {next : α → Dialogue I β} {state after : σ} {result : β} :
    (first.bind next).run handler state = (.ok result, after) ↔
      ∃ value between, first.run handler state = (.ok value, between) ∧
        (next value).run handler between = (.ok result, after) := by
  rw [run_bind]
  rcases first.run handler state with ⟨value | value, between⟩
  · simp
  · constructor
    · intro played
      exact ⟨value, between, rfl, played⟩
    · rintro ⟨_, _, same, played⟩
      cases same
      exact played

/-- The outcome of a sequence is that of its parts in sequence. -/
theorem fst_run_bind (handler : I.Handler σ) (first : Dialogue I α) (next : α → Dialogue I β)
    (state : σ) :
    ((first.bind next).run handler state).1 =
      (first.run handler state).1.bind fun value =>
        ((next value).run handler (first.run handler state).2).1 := by
  rw [run_bind]
  rcases first.run handler state with ⟨_ | _, _⟩ <;> rfl

/-- Where a dialogue keeps a view of the state, and what follows keeps it unless it ends
well, the sequence keeps it unless it ends well. -/
theorem run_bind_keeps {handler : I.Handler σ} {first : Dialogue I α} {next : α → Dialogue I β}
    (view : σ → ν) (endsWell : Outcome β → Prop) {state : σ}
    (keeps : view (first.run handler state).2 = view state)
    (follows : ∀ value between, endsWell ((next value).run handler between).1 ∨
      view ((next value).run handler between).2 = view between) :
    endsWell ((first.bind next).run handler state).1 ∨
      view ((first.bind next).run handler state).2 = view state := by
  rw [run_bind]
  rcases played : first.run handler state with ⟨failure | value, between⟩
  · rw [played] at keeps
    exact .inr keeps
  · rw [played] at keeps
    exact (follows value between).imp_right fun kept => kept.trans keeps

/-- What the first part of a sequence reaches is enough where that part fails; where it
succeeds, what follows goes on from there. -/
theorem run_bind_reaches {handler : I.Handler σ} {first : Dialogue I α}
    {next : α → Dialogue I β} {state : σ} (middle last : σ → Prop)
    (enough : ∀ between, middle between → last between)
    (reaches : middle (first.run handler state).2)
    (follows : ∀ value between, first.run handler state = (.ok value, between) →
      middle between → last ((next value).run handler between).2) :
    last ((first.bind next).run handler state).2 := by
  rw [run_bind]
  rcases played : first.run handler state with ⟨failure | value, between⟩
  · rw [played] at reaches
    exact enough between reaches
  · rw [played] at reaches
    exact follows value between played reaches

/-- An attempt always succeeds, with the outcome of what is attempted. -/
theorem run_attempt (handler : I.Handler σ) (dialogue : Dialogue I α) (state : σ) :
    dialogue.attempt.run handler state =
      (.ok (dialogue.run handler state).1, (dialogue.run handler state).2) := by
  induction dialogue generalizing state with
  | done outcome => rfl
  | ask question answered ih => exact ih _ _

theorem run_attempt_eq_ok_iff {handler : I.Handler σ} {dialogue : Dialogue I α}
    {state after : σ} {outcome : Outcome α} :
    dialogue.attempt.run handler state = (.ok outcome, after) ↔
      dialogue.run handler state = (outcome, after) := by
  rw [run_attempt, Prod.mk.injEq, Except.ok.injEq, ← Prod.mk.injEq]

/-- Questions asked through a larger interface are answered by that interface's handler. -/
theorem run_embed (into : I.Question → J.Question)
    (reply : (question : I.Question) → J.Reply (into question) → I.Reply question)
    (handler : J.Handler σ) (dialogue : Dialogue I α) (state : σ) :
    (dialogue.embed into reply).run handler state =
      dialogue.run (fun question state =>
        ((handler (into question) state).1.map (reply question),
          (handler (into question) state).2)) state := by
  induction dialogue generalizing state with
  | done outcome => rfl
  | ask question answered ih => exact ih _ _

/-- A dialogue takes corresponding states to corresponding states where its questions do. -/
theorem run_of_commutes {handler : I.Handler σ} {other : I.Handler τ} (into : σ → τ)
    (commutes : ∀ question state, other question (into state) =
      ((handler question state).1, into (handler question state).2))
    (dialogue : Dialogue I α) (state : σ) :
    dialogue.run other (into state) =
      ((dialogue.run handler state).1, into (dialogue.run handler state).2) := by
  induction dialogue generalizing state with
  | done outcome => rfl
  | ask question answered ih =>
      rw [run_ask_of_answer (commutes question state)]
      exact ih _ _

/-- Every question that is asked, with the state in which it is asked, in order. -/
def moments (handler : I.Handler σ) : Dialogue I α → σ → List (I.Question × σ)
  | .done _, _ => []
  | .ask question answered, state =>
    let (outcome, next) := handler question state
    (question, state) :: (answered outcome).moments handler next

theorem questions_eq_map_moments (handler : I.Handler σ) (dialogue : Dialogue I α) (state : σ) :
    dialogue.questions handler state = (dialogue.moments handler state).map (·.1) := by
  induction dialogue generalizing state with
  | done outcome => rfl
  | ask question answered ih => exact congrArg (question :: ·) (ih _ _)

/-- A sequence asks what its first part asks and, where that one succeeds, what follows. -/
theorem moments_bind (handler : I.Handler σ) (first : Dialogue I α) (next : α → Dialogue I β)
    (state : σ) :
    (first.bind next).moments handler state =
      first.moments handler state ++
        match first.run handler state with
        | (.ok value, between) => (next value).moments handler between
        | (.error _, _) => [] := by
  induction first generalizing state with
  | done outcome => cases outcome <;> rfl
  | ask question answered ih => exact congrArg ((question, state) :: ·) (ih _ _)

theorem mem_moments_bind_iff {handler : I.Handler σ} {first : Dialogue I α}
    {next : α → Dialogue I β} {state : σ} {moment : I.Question × σ} :
    moment ∈ (first.bind next).moments handler state ↔
      moment ∈ first.moments handler state ∨
        ∃ value between, first.run handler state = (.ok value, between) ∧
          moment ∈ (next value).moments handler between := by
  rw [moments_bind, List.mem_append]
  rcases first.run handler state with ⟨value | value, between⟩
  · simp
  · constructor
    · rintro (early | late)
      · exact .inl early
      · exact .inr ⟨value, between, rfl, late⟩
    · rintro (early | ⟨_, _, same, late⟩)
      · exact .inl early
      · cases same
        exact .inr late

/-- What follows a dialogue that succeeds is asked from where that one ended. -/
theorem mem_moments_bind_of_ok {handler : I.Handler σ} {first : Dialogue I α}
    {next : α → Dialogue I β} {state between : σ} {value : α} {moment : I.Question × σ}
    (played : first.run handler state = (.ok value, between))
    (asked : moment ∈ (next value).moments handler between) :
    moment ∈ (first.bind next).moments handler state :=
  mem_moments_bind_iff.mpr (.inr ⟨value, between, played, asked⟩)

theorem questions_bind_of_ok {handler : I.Handler σ} {first : Dialogue I α} {state between : σ}
    {value : α} (played : first.run handler state = (.ok value, between))
    (next : α → Dialogue I β) :
    (first.bind next).questions handler state =
      first.questions handler state ++ (next value).questions handler between := by
  simp only [questions_eq_map_moments, moments_bind, played, List.map_append]

theorem questions_bind_of_error {handler : I.Handler σ} {first : Dialogue I α}
    {state between : σ} {failure : Failure}
    (played : first.run handler state = (.error failure, between)) (next : α → Dialogue I β) :
    (first.bind next).questions handler state = first.questions handler state := by
  simp only [questions_eq_map_moments, moments_bind, played, List.append_nil]

/-- What follows a dialogue that succeeds is asked last. -/
theorem moments_suffix_of_ok {handler : I.Handler σ} {first : Dialogue I α} {state between : σ}
    {value : α} (played : first.run handler state = (.ok value, between))
    (next : α → Dialogue I β) :
    (next value).moments handler between <:+ (first.bind next).moments handler state := by
  rw [moments_bind, played]
  exact List.suffix_append _ _

theorem moments_attempt (handler : I.Handler σ) (dialogue : Dialogue I α) (state : σ) :
    dialogue.attempt.moments handler state = dialogue.moments handler state := by
  induction dialogue generalizing state with
  | done outcome => rfl
  | ask question answered ih => exact congrArg ((question, state) :: ·) (ih _ _)

theorem moments_tolerate (handler : I.Handler σ) (question : I.Question)
    (isHarmless : Failure → Bool) (instead : I.Reply question) (state : σ) :
    (Dialogue.tolerate question isHarmless instead).moments handler state =
      [(question, state)] := by
  rw [Dialogue.tolerate, moments]
  rcases handler question state with ⟨failure | reply, after⟩
  · cases harmless : isHarmless failure <;> simp [harmless, moments]
  · rfl

/-- Does a dialogue ask only allowed questions, whatever the answers are? -/
def Asks (allowed : I.Question → Prop) : Dialogue I α → Prop
  | .done _ => True
  | .ask question answered => allowed question ∧ ∀ outcome, (answered outcome).Asks allowed

variable {allowed : I.Question → Prop}

theorem Asks.of_forall (all : ∀ question, allowed question) (dialogue : Dialogue I α) :
    dialogue.Asks allowed := by
  induction dialogue with
  | done outcome => trivial
  | ask question answered ih => exact ⟨all question, ih⟩

theorem Asks.mono {larger : I.Question → Prop} {dialogue : Dialogue I α}
    (asks : dialogue.Asks allowed) (subset : ∀ question, allowed question → larger question) :
    dialogue.Asks larger := by
  induction dialogue with
  | done outcome => trivial
  | ask question answered ih => exact ⟨subset _ asks.1, fun outcome => ih outcome (asks.2 outcome)⟩

theorem Asks.bind {first : Dialogue I α} {next : α → Dialogue I β} (asks : first.Asks allowed)
    (follows : ∀ value, (next value).Asks allowed) : (first.bind next).Asks allowed := by
  induction first with
  | done outcome =>
      cases outcome with
      | ok value => exact follows value
      | error failure => trivial
  | ask question answered ih => exact ⟨asks.1, fun outcome => ih outcome (asks.2 outcome)⟩

theorem Asks.attempt {dialogue : Dialogue I α} (asks : dialogue.Asks allowed) :
    dialogue.attempt.Asks allowed := by
  induction dialogue with
  | done outcome => trivial
  | ask question answered ih => exact ⟨asks.1, fun outcome => ih outcome (asks.2 outcome)⟩

theorem Asks.tolerate {question : I.Question} (permitted : allowed question)
    (isHarmless : Failure → Bool) (instead : I.Reply question) :
    (Dialogue.tolerate question isHarmless instead).Asks allowed := by
  refine ⟨permitted, fun outcome => ?_⟩
  cases outcome with
  | ok reply => trivial
  | error failure => cases harmless : isHarmless failure <;> simp [harmless, Asks]

theorem Asks.embed {into : I.Question → J.Question}
    {reply : (question : I.Question) → J.Reply (into question) → I.Reply question}
    {allowed : J.Question → Prop} {dialogue : Dialogue I α}
    (asks : dialogue.Asks fun question => allowed (into question)) :
    (dialogue.embed into reply).Asks allowed := by
  induction dialogue with
  | done outcome => trivial
  | ask question answered ih => exact ⟨asks.1, fun outcome => ih _ (asks.2 _)⟩

theorem Asks.allowed_of_mem {dialogue : Dialogue I α} (asks : dialogue.Asks allowed)
    {handler : I.Handler σ} {state : σ} {moment : I.Question × σ}
    (asked : moment ∈ dialogue.moments handler state) : allowed moment.1 := by
  induction dialogue generalizing state with
  | done outcome => cases asked
  | ask question answered ih =>
      rcases List.mem_cons.mp asked with same | later
      · exact same ▸ asks.1
      · exact ih _ (asks.2 _) later

/-- An invariant that every allowed question keeps is kept by the dialogue. -/
theorem Asks.run_preserves {dialogue : Dialogue I α} (asks : dialogue.Asks allowed)
    {handler : I.Handler σ} (invariant : σ → Prop)
    (keeps : ∀ question, allowed question → ∀ state,
      invariant state → invariant (handler question state).2)
    {state : σ} (holds : invariant state) : invariant (dialogue.run handler state).2 := by
  induction dialogue generalizing state with
  | done outcome => exact holds
  | ask question answered ih => exact ih _ (asks.2 _) (keeps question asks.1 state holds)

/-- What no allowed question changes is as before when the dialogue has ended. -/
theorem Asks.run_keeps {dialogue : Dialogue I α} (asks : dialogue.Asks allowed)
    {handler : I.Handler σ} (view : σ → ν)
    (keeps : ∀ question, allowed question → ∀ state,
      view (handler question state).2 = view state) (state : σ) :
    view (dialogue.run handler state).2 = view state := by
  induction dialogue generalizing state with
  | done outcome => rfl
  | ask question answered ih =>
      exact (ih _ (asks.2 _) _).trans (keeps question asks.1 state)

/-- Handlers that answer all allowed questions alike make a dialogue come to the same
outcome. -/
theorem Asks.run_related {dialogue : Dialogue I α} (asks : dialogue.Asks allowed)
    {handler : I.Handler σ} {other : I.Handler τ} (alike : σ → τ → Prop)
    (agree : ∀ question, allowed question → ∀ state later, alike state later →
      (other question later).1 = (handler question state).1 ∧
        alike (handler question state).2 (other question later).2)
    {state : σ} {later : τ} (start : alike state later) :
    (dialogue.run other later).1 = (dialogue.run handler state).1 ∧
      alike (dialogue.run handler state).2 (dialogue.run other later).2 := by
  induction dialogue generalizing state later with
  | done outcome => exact ⟨rfl, start⟩
  | ask question answered ih =>
      obtain ⟨same, next⟩ := agree question asks.1 state later start
      have asked : (Dialogue.ask question answered).run other later = _ :=
        run_ask_of_answer (Prod.ext same rfl) answered
      rw [asked]
      exact ih _ (asks.2 _) next

/-- How a dialogue ends, where something holds of every question on the way. -/
structure Ends (handler : I.Handler σ) (holds : I.Question → σ → Prop) (dialogue : Dialogue I α)
    (state : σ) (result : Outcome α × σ) : Prop where
  run : dialogue.run handler state = result
  asked : ∀ moment ∈ dialogue.moments handler state, holds moment.1 moment.2

namespace Ends

variable {handler : I.Handler σ} {holds : I.Question → σ → Prop} {first : Dialogue I α}
  {next : α → Dialogue I β} {state : σ}

theorem done (handler : I.Handler σ) (holds : I.Question → σ → Prop) (outcome : Outcome α)
    (state : σ) : (Dialogue.done outcome).Ends handler holds state (outcome, state) :=
  ⟨rfl, fun _ asked => nomatch asked⟩

theorem ask {question : I.Question} {answered : Outcome (I.Reply question) → Dialogue I α}
    {outcome : Outcome (I.Reply question)} {after : σ} {result : Outcome α × σ}
    (permitted : holds question state) (answer : handler question state = (outcome, after))
    (follows : (answered outcome).Ends handler holds after result) :
    (Dialogue.ask question answered).Ends handler holds state result where
  run := (run_ask_of_answer answer answered).trans follows.run
  asked := by
    rw [moments, answer]
    exact List.forall_mem_cons.mpr ⟨permitted, follows.asked⟩

theorem bind {value : α} {between : σ} {result : Outcome β × σ}
    (ends : first.Ends handler holds state (.ok value, between))
    (follows : (next value).Ends handler holds between result) :
    (first.bind next).Ends handler holds state result where
  run := (run_bind_of_ok ends.run next).trans follows.run
  asked moment asked := by
    rcases mem_moments_bind_iff.mp asked with early | ⟨_, _, played, late⟩
    · exact ends.asked moment early
    · cases ends.run.symm.trans played
      exact follows.asked moment late

theorem bind_error {failure : Failure} {between : σ}
    (ends : first.Ends handler holds state (.error failure, between)) :
    (first.bind next).Ends handler holds state (.error failure, between) where
  run := by rw [run_bind, ends.run]
  asked moment asked := by
    rcases mem_moments_bind_iff.mp asked with early | ⟨_, _, played, _⟩
    · exact ends.asked moment early
    · cases ends.run.symm.trans played

theorem tolerate_of_harmless {question : I.Question} {after : σ} {failure : Failure}
    {isHarmless : Failure → Bool} (permitted : holds question state)
    (answer : handler question state = (.error failure, after))
    (harmless : isHarmless failure = true) (instead : I.Reply question) :
    (Dialogue.tolerate question isHarmless instead).Ends handler holds state
      (.ok instead, after) := by
  refine ask permitted answer ?_
  simp only [harmless, if_true]
  exact done handler holds _ after

/-- Of what a dialogue can ask at all, what it does ask is a part. -/
theorem of_asks (asks : first.Asks allowed)
    (permitted : ∀ question, allowed question → ∀ state, holds question state)
    {result : Outcome α × σ} (played : first.run handler state = result) :
    first.Ends handler holds state result where
  run := played
  asked _ asked := permitted _ (asks.allowed_of_mem asked) _

end Ends

end Dialogue

end PlatformApps
