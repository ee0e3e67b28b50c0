/-
# Passes over the in-memory store

`Surroundings` are what a pass meets beside the object store, and they may answer as they
like; together with the in-memory store they answer all that a pass asks. A world without
faults is a case of this.
-/

import PlatformApps.Proofs.Operator
import PlatformApps.World

namespace PlatformApps

/-- What answers the requests of a pass that are no calls of the store. Looking at the clock
and reporting never fail. -/
structure Surroundings (σ : Type) where
  components : Cluster → σ → Outcome (Table String ReleaseComponent) × σ
  releaseApps : Cluster → σ → Outcome (Table String ReleaseApp) × σ
  chartName : String → String → String → σ → Outcome String × σ
  podCidr : Cluster → σ → Outcome String × σ
  finalizers : String → String → FinalizerChange → σ → Outcome Unit × σ
  metric : MetricChange → σ → σ
  now : σ → Rat × σ
  jitter : σ → Rat × σ
  pause : Rat → σ → σ

namespace Surroundings

variable {α σ : Type}

/-- Answers a request of a pass, with the in-memory store for the store. -/
def handle (surroundings : Surroundings σ) (request : OperatorRequest) (state : σ × Memory) :
    Outcome request.Reply × (σ × Memory) :=
  match request with
  | .store call => ((state.2.handle call).1, (state.1, (state.2.handle call).2))
  | .components cluster =>
    ((surroundings.components cluster state.1).1,
      ((surroundings.components cluster state.1).2, state.2))
  | .releaseApps cluster =>
    ((surroundings.releaseApps cluster state.1).1,
      ((surroundings.releaseApps cluster state.1).2, state.2))
  | .chartName catalog app version =>
    ((surroundings.chartName catalog app version state.1).1,
      ((surroundings.chartName catalog app version state.1).2, state.2))
  | .podCidr cluster =>
    ((surroundings.podCidr cluster state.1).1,
      ((surroundings.podCidr cluster state.1).2, state.2))
  | .finalizers space name change =>
    ((surroundings.finalizers space name change state.1).1,
      ((surroundings.finalizers space name change state.1).2, state.2))
  | .metric change => (.ok (), (surroundings.metric change state.1, state.2))
  | .now => (.ok (surroundings.now state.1).1, ((surroundings.now state.1).2, state.2))
  | .jitter => (.ok (surroundings.jitter state.1).1, ((surroundings.jitter state.1).2, state.2))
  | .pause seconds => (.ok (), (surroundings.pause seconds state.1, state.2))

/-- What the store is asked, the in-memory store answers. -/
theorem run_stored (surroundings : Surroundings σ) (dialogue : Dialogue Store α) (state : σ)
    (memory : Memory) :
    dialogue.run (Operator.stored surroundings.handle) (state, memory) =
      ((dialogue.run Memory.handle memory).1, (state, (dialogue.run Memory.handle memory).2)) :=
  Dialogue.run_of_commutes (state, ·) (fun _ _ => rfl) dialogue memory

/-- The calls of a dialogue with the store are asked one after the other. -/
theorem questions_calls (surroundings : Surroundings σ) (dialogue : Dialogue Store α) (state : σ)
    (memory : Memory) :
    (Operator.calls dialogue).questions surroundings.handle (state, memory) =
      (dialogue.questions Memory.handle memory).map OperatorRequest.store := by
  induction dialogue generalizing memory with
  | done outcome => rfl
  | ask call answered ih =>
      have answer : (memory.handle call).1.map (fun reply => reply) = (memory.handle call).1 :=
        congrFun Except.map_id _
      change OperatorRequest.store call :: (Operator.calls (answered
        ((memory.handle call).1.map fun reply => reply))).questions surroundings.handle
          (state, (memory.handle call).2) = _
      rw [answer, ih]
      rfl

/-- The release of a cluster reads the same in two states. -/
structure ReadsAlike (surroundings : Surroundings σ) (cluster : Cluster) (one other : σ) :
    Prop where
  components : (surroundings.components cluster one).1 = (surroundings.components cluster other).1
  releaseApps : (surroundings.releaseApps cluster (surroundings.components cluster one).2).1 =
    (surroundings.releaseApps cluster (surroundings.components cluster other).2).1

variable {τ : Type}

/-- Releases, charts and pod addresses are answered alike in states that are alike, and the
states stay so. -/
structure Agree (first : Surroundings σ) (second : Surroundings τ) (alike : σ → τ → Prop) :
    Prop where
  components : ∀ cluster state later, alike state later →
    (second.components cluster later).1 = (first.components cluster state).1 ∧
      alike (first.components cluster state).2 (second.components cluster later).2
  releaseApps : ∀ cluster state later, alike state later →
    (second.releaseApps cluster later).1 = (first.releaseApps cluster state).1 ∧
      alike (first.releaseApps cluster state).2 (second.releaseApps cluster later).2
  chartName : ∀ catalog app version state later, alike state later →
    (second.chartName catalog app version later).1 =
        (first.chartName catalog app version state).1 ∧
      alike (first.chartName catalog app version state).2
        (second.chartName catalog app version later).2
  podCidr : ∀ cluster state later, alike state later →
    (second.podCidr cluster later).1 = (first.podCidr cluster state).1 ∧
      alike (first.podCidr cluster state).2 (second.podCidr cluster later).2

/-- Requests for a release, a chart, the pod addresses, or for what is permitted of the
store. -/
def Consults (permitted : StoreCall → Prop) : OperatorRequest → Prop
  | .store call => permitted call
  | .components _ | .releaseApps _ | .chartName .. | .podCidr _ => True
  | _ => False

/-- What only asks comes to the same where what it asks for is answered alike. -/
theorem Agree.run_of_asks {first : Surroundings σ} {second : Surroundings τ}
    {alike : σ → τ → Prop} (agree : first.Agree second alike) {permitted : StoreCall → Prop}
    {memory left : Memory} (answers : ∀ call, permitted call →
      (memory.handle call).2 = memory ∧ left.handle call = ((memory.handle call).1, left))
    {dialogue : Dialogue Operator α} (asks : dialogue.Asks (Consults permitted)) {state : σ}
    {later : τ} (start : alike state later) :
    ∃ outcome ended after,
      dialogue.run first.handle (state, memory) = (outcome, (ended, memory)) ∧
        dialogue.run second.handle (later, left) = (outcome, (after, left)) ∧
        alike ended after := by
  let related (one : σ × Memory) (other : τ × Memory) : Prop :=
    alike one.1 other.1 ∧ one.2 = memory ∧ other.2 = left
  have step : ∀ request, Consults permitted request → ∀ one other, related one other →
      (second.handle request other).1 = (first.handle request one).1 ∧
        related (first.handle request one).2 (second.handle request other).2 := by
    rintro request permits one other ⟨close, rfl, rfl⟩
    cases request with
    | store call =>
        obtain ⟨kept, answer⟩ := answers call permits
        exact ⟨congrArg (·.1) answer, close, kept, congrArg (·.2) answer⟩
    | components cluster =>
        obtain ⟨same, next⟩ := agree.components cluster _ _ close
        exact ⟨same, next, rfl, rfl⟩
    | releaseApps cluster =>
        obtain ⟨same, next⟩ := agree.releaseApps cluster _ _ close
        exact ⟨same, next, rfl, rfl⟩
    | chartName catalog app version =>
        obtain ⟨same, next⟩ := agree.chartName catalog app version _ _ close
        exact ⟨same, next, rfl, rfl⟩
    | podCidr cluster =>
        obtain ⟨same, next⟩ := agree.podCidr cluster _ _ close
        exact ⟨same, next, rfl, rfl⟩
    | _ => cases permits
  have alikeAtFirst : related (state, memory) (later, left) := ⟨start, rfl, rfl⟩
  obtain ⟨same, close, kept, alsoKept⟩ := asks.run_related related step alikeAtFirst
  exact ⟨_, _, _, Prod.ext rfl (Prod.ext rfl kept), Prod.ext same (Prod.ext rfl alsoKept), close⟩

end Surroundings

namespace World

/-- All of a world but its store. -/
def surroundings : Surroundings World where
  components cluster world := world.api (Release.components <$> Api.releaseOf cluster)
  releaseApps cluster world := world.api (Release.apps <$> Api.releaseOf cluster)
  chartName := World.chartName
  podCidr cluster world := (world.podCidr cluster, world)
  finalizers := World.finalizers
  metric change world := { world with metrics := world.metrics.apply change }
  now world := (world.now, world)
  jitter world := (1, world)
  pause seconds world := { world with now := world.now + seconds }

/-- The world with another store, all of whose calls come through. -/
def withStore (state : World × Memory) : World := { state.1 with memory := state.2, faults := [] }

theorem api_withStore {α : Type} (dialogue : Dialogue Api α) (state : World × Memory) :
    (withStore state).api dialogue =
      ((state.1.api dialogue).1, withStore ((state.1.api dialogue).2, state.2)) :=
  Dialogue.run_of_commutes (I := Api) (fun world => withStore (world, state.2)) (fun _ _ => rfl)
    dialogue state.1

theorem catalog_withStore (request : CatalogRequest) (state : World × Memory) :
    catalog request (withStore state) =
      ((catalog request state.1).1, withStore ((catalog request state.1).2, state.2)) := by
  cases request with
  | storageUrl name => exact api_withStore _ state
  | download url =>
      simp only [catalog, withStore]
      split <;> rfl
  | _ => rfl

theorem chartName_withStore (name app version : String) (state : World × Memory) :
    chartName name app version (withStore state) =
      ((chartName name app version state.1).1,
        withStore ((chartName name app version state.1).2, state.2)) := by
  let search := Catalogs.chartName state.1.indexLifetime state.1.indexBackoff name app version
    state.1.cache
  have played : search.run catalog (withStore state) =
      ((search.run catalog state.1).1, withStore ((search.run catalog state.1).2, state.2)) :=
    Dialogue.run_of_commutes (I := Catalogs) (fun world => withStore (world, state.2))
      (fun request world => catalog_withStore request (world, state.2)) search state.1
  rcases ran : search.run catalog state.1 with ⟨failure | ⟨outcome, cache⟩, after⟩
  all_goals
    rw [ran] at played
    simp only [withStore, search] at played ran
    simp only [chartName, withStore, played, ran]

theorem finalizers_withStore (space name : String) (change : FinalizerChange)
    (state : World × Memory) :
    finalizers space name change (withStore state) =
      ((finalizers space name change state.1).1,
        withStore ((finalizers space name change state.1).2, state.2)) := by
  simp only [finalizers, withStore]
  split
  · rfl
  · split <;> rfl

/-- In a world without faults a dialogue goes on as it does with the surroundings and the
store of that world. -/
theorem run_withStore {α : Type} (dialogue : Dialogue Operator α) (state : World × Memory) :
    dialogue.run World.handle (withStore state) =
      ((dialogue.run surroundings.handle state).1,
        withStore (dialogue.run surroundings.handle state).2) := by
  refine Dialogue.run_of_commutes withStore (fun request state => ?_) dialogue state
  cases request with
  | components | releaseApps => exact api_withStore _ state
  | chartName name app version => exact chartName_withStore name app version state
  | finalizers space name change => exact finalizers_withStore space name change state
  | _ => rfl

end World

end PlatformApps
