/-
# Repeating the stages of an apply

A second apply that is told the same as the first finds everything as the first has left it.
Each stage of an apply comes to the same again, or ends in a failure, and what it writes is
there already; `Repeats` says so of a stage, given that the later stages have left what it
depends on. Stages of which this holds make up a pass of which it holds (`Repeats.bind`).
-/

import PlatformApps.Proofs.Artifacts.Remake
import PlatformApps.Proofs.Surroundings
import PlatformApps.Proofs.VersionLabels
import PlatformApps.Reconcile

namespace PlatformApps.Apply

variable {α β σ τ ν ω : Type}

/-- A request that would create or patch something is refused. -/
def Idle (request : OperatorRequest) (state : τ × Memory) : Prop :=
  match request with
  | .store call => Memory.Idle call state.2
  | _ => True

/-- What calls of the store come to is what the in-memory store makes of them. -/
theorem ends_calls (surroundings : Surroundings σ) {dialogue : Dialogue Store α} {state : σ}
    {memory after : Memory} {outcome : Outcome α}
    (ends : dialogue.Ends Memory.handle Memory.Idle memory (outcome, after)) :
    (Operator.calls dialogue).Ends surroundings.handle Idle (state, memory)
      (outcome, (state, after)) := by
  induction dialogue generalizing memory with
  | done known =>
      cases ends.run
      exact .done _ _ _ _
  | ask call answered ih =>
      obtain ⟨permitted, asked⟩ := List.forall_mem_cons.mp ends.asked
      have follows : (answered (memory.handle call).1).Ends Memory.handle Memory.Idle
          (memory.handle call).2 (outcome, after) := ⟨ends.run, asked⟩
      have answer : (memory.handle call).1.map (fun reply => reply) = (memory.handle call).1 :=
        congrFun Except.map_id _
      refine Dialogue.Ends.ask (I := Operator) permitted rfl ?_
      change (Operator.calls (answered ((memory.handle call).1.map fun reply => reply))).Ends
        surroundings.handle Idle (state, (memory.handle call).2) (outcome, (state, after))
      rw [answer]
      exact ih _ follows

section Repeats

variable (first : Surroundings σ) (second : Surroundings τ) (alike : σ → τ → Prop)

/-- What a second pass comes to beside a first: it fails, or both succeed with values that
agree and end in states that are alike. -/
def GoesWith (agree : α → α → Prop) (once : Outcome α × σ) (again : Outcome α × τ) : Prop :=
  (∃ failure, again.1 = .error failure) ∨
    ∃ value other, once.1 = .ok value ∧ again.1 = .ok other ∧ agree value other ∧
      alike once.2 again.2

/-- A stage of a pass can be repeated. In a store that looks as the stage has left it, it
leaves everything as it is, and it makes nothing. -/
def Repeats (view : Memory → ν) (agree : α → α → Prop) (stage : Dialogue Operator α) : Prop :=
  ∀ ⦃state memory⦄, memory.Filed →
    ∀ ⦃outcome ended after⦄, stage.run first.handle (state, memory) = (outcome, (ended, after)) →
      after.Filed ∧ ∀ ⦃later left⦄, alike state later → left.Filed → view left = view after →
        ∃ again still settled,
          stage.Ends second.handle Idle (later, left) (again, (still, settled)) ∧
            settled.content = left.content ∧
            GoesWith alike agree (outcome, ended) (again, still)

variable {first second alike}

theorem GoesWith.of_eq {once again : Outcome α} {state : σ} {later : τ} (close : alike state later)
    (same : again = once) : GoesWith alike (· = ·) (once, state) (again, later) := by
  subst same
  cases again with
  | error failure => exact .inl ⟨failure, rfl⟩
  | ok value => exact .inr ⟨value, value, rfl, rfl, rfl, close⟩

theorem GoesWith.of_isOk {once again : Outcome α} {state : σ} {later : τ}
    (close : alike state later) (same : again.isOk = once.isOk) :
    GoesWith alike (fun _ _ => True) (once, state) (again, later) := by
  cases again with
  | error failure => exact .inl ⟨failure, rfl⟩
  | ok value =>
      cases once with
      | error failure => cases same
      | ok other => exact .inr ⟨other, value, rfl, rfl, trivial, close⟩

theorem filed_of_content {first second : Memory} (filed : first.Filed)
    (same : second.content = first.content) : second.Filed :=
  filed.of_apps_eq (congrArg (·.apps) same)

theorem repeats_done (view : Memory → ν) (outcome : Outcome α) :
    Repeats first second alike view (· = ·) (.done outcome) := by
  rintro state memory filed _ _ _ ⟨⟩
  refine ⟨filed, fun later left close _ _ => ?_⟩
  exact ⟨_, _, _, .done _ _ _ _, rfl, .of_eq close rfl⟩

/-- Stages that can be repeated make up a pass that can be repeated, where what follows leaves
alone what a stage depends on. -/
theorem Repeats.bind {whole : Memory → ω} {view : Memory → ν} {agree : α → α → Prop}
    {agreeAfter : β → β → Prop} {stage : Dialogue Operator α} {next : α → Dialogue Operator β}
    (repeats : Repeats first second alike view agree stage)
    (shows : ∀ {one other : Memory}, one.content = other.content → whole one = whole other)
    (includes : ∀ {one other : Memory}, whole one = whole other → view one = view other)
    (constant : ∀ value other, agree value other → next value = next other)
    (follows : ∀ {state value between}, stage.run first.handle state = (.ok value, between) →
      Repeats first second alike whole agreeAfter (next value))
    (keeps : ∀ {state value between}, stage.run first.handle state = (.ok value, between) →
      between.2.Filed → view ((next value).run first.handle between).2.2 = view between.2) :
    Repeats first second alike whole agreeAfter (stage.bind next) := by
  intro state memory filed outcome ended after played
  rw [Dialogue.run_bind] at played
  rcases staged : stage.run first.handle (state, memory) with ⟨failure | value, between, middle⟩
  · rw [staged] at played
    cases played
    obtain ⟨stillFiled, again⟩ := repeats filed staged
    refine ⟨stillFiled, fun later left close leftFiled same => ?_⟩
    obtain ⟨outcome, still, settled, ends, kept, goesWith⟩ := again close leftFiled (includes same)
    rcases goesWith with ⟨failure, rfl⟩ | ⟨_, _, impossible, _⟩
    · exact ⟨_, still, settled, ends.bind_error, kept, .inl ⟨failure, rfl⟩⟩
    · cases impossible
  · rw [staged] at played
    dsimp only at played
    obtain ⟨middleFiled, again⟩ := repeats filed staged
    obtain ⟨stillFiled, goOn⟩ := follows staged middleFiled played
    refine ⟨stillFiled, fun later left close leftFiled same => ?_⟩
    have looks : view left = view middle := by
      rw [includes same, ← keeps staged middleFiled, played]
    obtain ⟨outcome, still, settled, ends, kept, goesWith⟩ := again close leftFiled looks
    rcases goesWith with ⟨failure, rfl⟩ | ⟨_, other, succeeds, rfl, agreed, close⟩
    · exact ⟨_, still, settled, ends.bind_error, kept, .inl ⟨failure, rfl⟩⟩
    · cases succeeds
      obtain ⟨outcome, last, final, follows, stays, goesWith⟩ :=
        goOn close (filed_of_content leftFiled kept) ((shows kept).trans same)
      rw [constant value other agreed] at follows
      exact ⟨outcome, last, final, ends.bind follows, stays.trans kept, goesWith⟩

end Repeats

/-- Requests of which those to the store are permitted. -/
def Within (permitted : StoreCall → Prop) : OperatorRequest → Prop
  | .store call => permitted call
  | _ => True

/-- What no permitted call changes of the store is as before. -/
theorem view_run {permitted : StoreCall → Prop} {view : Memory → ν}
    {surroundings : Surroundings σ} {dialogue : Dialogue Operator α}
    (asks : dialogue.Asks (Within permitted))
    (keeps : ∀ store call, permitted call → view (store.handle call).2 = view store)
    (state : σ × Memory) :
    view (dialogue.run surroundings.handle state).2.2 = view state.2 := by
  refine asks.run_keeps (fun state : σ × Memory => view state.2) (fun request permits state => ?_)
    state
  cases request with
  | store call => exact keeps state.2 call permits
  | _ => rfl

/-! The stages of an apply. -/

section Stages

variable {first : Surroundings σ} {second : Surroundings τ} {alike : σ → τ → Prop}

theorem idle_of_consults {permitted : StoreCall → Prop}
    (reads : ∀ call, permitted call → call.isReading = true) {request : OperatorRequest}
    (consults : Surroundings.Consults permitted request) (state : τ × Memory) :
    Idle request state := by
  cases request with
  | store call =>
      intro makes
      rw [StoreCall.makes_of_isReading (reads call consults)] at makes
      cases makes
  | _ => trivial

/-- What only asks, for what is told the same again, can be repeated. -/
theorem repeats_of_asks (agree : first.Agree second alike) {permitted : StoreCall → Prop}
    {view : Memory → ν} (reads : ∀ call, permitted call → call.isReading = true)
    (looksAt : ∀ call, permitted call → ∀ {one other : Memory}, view one = view other →
      (one.handle call).1 = (other.handle call).1)
    {dialogue : Dialogue Operator α} (asks : dialogue.Asks (Surroundings.Consults permitted)) :
    Repeats first second alike view (· = ·) dialogue := by
  intro state memory filed outcome ended after played
  have keeps : ∀ request, Surroundings.Consults permitted request →
      ∀ state : σ × Memory, (first.handle request state).2.2 = state.2 := by
    intro request consults state
    cases request with
    | store call => exact state.2.handle_of_isReading (reads call consults)
    | _ => rfl
  obtain rfl : after = memory := by
    have kept := asks.run_keeps (fun state : σ × Memory => state.2) keeps (state, memory)
    rwa [played] at kept
  refine ⟨filed, fun later left close _ same => ?_⟩
  have answers : ∀ call : StoreCall, permitted call → (after.handle call).2 = after ∧
      left.handle call = ((after.handle call).1, left) := fun call permits =>
    ⟨after.handle_of_isReading (reads call permits),
      Prod.ext (looksAt call permits same) (left.handle_of_isReading (reads call permits))⟩
  obtain ⟨_, _, still, plays, replays, stillClose⟩ := agree.run_of_asks answers asks close
  cases plays.symm.trans played
  refine ⟨outcome, still, left, .of_asks asks (fun request consults state => ?_) replays, rfl,
    .of_eq stillClose rfl⟩
  exact idle_of_consults reads consults state

/-- What can be repeated in the in-memory store can be repeated in a pass. -/
theorem repeats_calls {view : Memory → ν} {agree : α → α → Prop} {dialogue : Dialogue Store α}
    (repeats : ∀ {memory : Memory}, memory.Filed → ∃ outcome after,
      dialogue.run Memory.handle memory = (outcome, after) ∧ after.Filed ∧
      ∀ {left : Memory}, left.Filed → view left = view after → ∃ again settled,
        dialogue.Ends Memory.handle Memory.Idle left (again, settled) ∧
        settled.content = left.content ∧
        ∀ {state later}, alike state later →
          GoesWith alike agree (outcome, state) (again, later)) :
    Repeats first second alike view agree (Operator.calls dialogue) := by
  intro state memory filed outcome ended after played
  obtain ⟨_, _, runs, stillFiled, again⟩ := repeats filed
  rw [Operator.run_calls, Surroundings.run_stored, runs] at played
  cases played
  refine ⟨stillFiled, fun later left close leftFiled same => ?_⟩
  obtain ⟨again, settled, ends, kept, goesWith⟩ := again leftFiled same
  exact ⟨again, later, settled, ends_calls second ends, kept, goesWith close⟩

/-- The namespace of a cluster is there once it has been made. -/
theorem repeats_ensureSpace (cluster : Cluster) :
    Repeats first second alike Memory.namespaces (fun _ _ => True)
      (Operator.calls (ClusterSpace.ensure cluster.id)) := by
  refine repeats_calls fun {memory} filed => ?_
  have named : (ClusterSpace.desired cluster.id).metadata.anyName = cluster.id := rfl
  obtain ⟨created, creates, sameApps, space, there⟩ : ∃ created,
      (ClusterSpace.ensure cluster.id).run Memory.handle memory = (.ok (), created) ∧
        created.apps = memory.apps ∧ ∃ space, created.namespaces.find? cluster.id = some space := by
    cases found : memory.namespaces.find? cluster.id with
    | some space =>
        obtain ⟨failure, harmless, refused⟩ :=
          Memory.handle_createNamespace_of_taken (named ▸ found)
        exact ⟨memory, Dialogue.run_tolerate_of_harmless (I := Store) refused harmless _, rfl,
          space, found⟩
    | none =>
        obtain ⟨entry, creates⟩ := Memory.handle_createNamespace_of_free (named ▸ found)
        refine ⟨_, Dialogue.run_tolerate_of_ok (I := Store) creates _ _, rfl,
          ClusterSpace.desired cluster.id, ?_⟩
        exact (Table.find?_insert _ _ _ _).trans (if_pos named.symm)
  refine ⟨.ok (), created, creates, filed.of_apps_eq sameApps, fun {left} _ same => ?_⟩
  have taken : left.namespaces.find? (ClusterSpace.desired cluster.id).metadata.anyName =
      some space := named ▸ same ▸ there
  obtain ⟨failure, harmless, refused⟩ := Memory.handle_createNamespace_of_taken taken
  refine ⟨.ok (), left, ?_, rfl, fun close => .of_isOk close rfl⟩
  exact Dialogue.Ends.tolerate_of_harmless (I := Store) (fun _ => ⟨failure, refused⟩) refused
    harmless ()

theorem repeats_gather_write (settings : Settings) (cluster : Cluster) (podCidr : String)
    (facts : ProviderFacts) (nameServiceIp : String) :
    Repeats first second alike Memory.withoutApps (· = ·)
      (Operator.calls
        ((Artifacts.gather settings cluster podCidr facts nameServiceIp).bind
          Artifacts.write)) := by
  refine repeats_calls fun {memory} filed => ?_
  obtain ⟨outcome, after, runs, sameApps, again⟩ :=
    Artifacts.run_gather_write settings cluster podCidr facts nameServiceIp memory
  refine ⟨outcome, after, runs, filed.of_apps_eq sameApps, fun {left} _ same => ?_⟩
  obtain ⟨again, settled, reruns, kept, ends⟩ := again left same
  have asks : ((Artifacts.gather settings cluster podCidr facts nameServiceIp).bind
      Artifacts.write).Asks fun call : StoreCall => call.makes = false :=
    Artifacts.asks_gather_write (fun _ _ => rfl) settings cluster podCidr facts nameServiceIp
      fun _ _ _ => ⟨rfl, rfl, rfl⟩
  refine ⟨again, settled, .of_asks asks (fun call other store makes => ?_) reruns, kept,
    fun close => ?_⟩
  · cases other.symm.trans makes
  · rcases ends with rfl | fails
    · exact .of_eq close rfl
    · exact .inl fails

theorem asks_within {permitted : StoreCall → Prop} (all : ∀ call, permitted call)
    (dialogue : Dialogue Operator α) : dialogue.Asks (Within permitted) := by
  refine .of_forall (fun request => ?_) dialogue
  cases request with
  | store call => exact all call
  | _ => trivial

/-- Artifacts that have been written are only written as they are. -/
theorem repeats_ensureArtifacts (agree : first.Agree second alike) (settings : Settings)
    (cluster : Cluster) :
    Repeats first second alike Memory.withoutApps (· = ·) (Artifacts.ensure settings cluster) := by
  rw [Artifacts.ensure_eq_bind]
  have surveys : Repeats first second alike Memory.objects (· = ·)
      (Artifacts.survey settings cluster) := by
    have asks : (Artifacts.survey settings cluster).Asks (Surroundings.Consults fun call =>
        ∃ apiVersion kind space name, call = .getObject apiVersion kind space name) :=
      Artifacts.asks_survey trivial fun _ _ _ _ => ⟨_, _, _, _, rfl⟩
    refine repeats_of_asks agree ?_ ?_ asks
    · rintro _ ⟨apiVersion, kind, space, name, rfl⟩
      rfl
    · rintro _ ⟨apiVersion, kind, space, name, rfl⟩ one other same
      simp only [Memory.handle, same]
  have includes {one other : Memory} (same : one.withoutApps = other.withoutApps) :
      one.objects = other.objects := congrArg (·.objects) same
  refine surveys.bind Memory.withoutApps_of_content includes (fun _ _ same => same ▸ rfl)
    (fun {_ found _} _ => ?_) fun _ _ =>
      view_run (asks_within (fun _ => trivial) _) (fun store call _ => store.objects_handle call) _
  cases found with
  | error reason => exact repeats_done _ _
  | ok known =>
      exact (repeats_gather_write settings cluster _ _ _).bind Memory.withoutApps_of_content id
        (fun _ _ _ => rfl) (fun _ => repeats_done _ _) fun _ _ => rfl

theorem repeats_converge {id space : String} {desired : List App}
    (due : ∀ app ∈ desired, app.isHeld id space = true)
    (distinct : (desired.map App.name).Nodup) :
    Repeats first second alike (fun store name => store.heldAt space id name) (fun _ _ => True)
      (Operator.calls (converge id space desired)) := by
  refine repeats_calls fun {memory} filed => ?_
  obtain ⟨_, after, converges, _, brought⟩ := run_converge due distinct filed
  refine ⟨_, after, converges, brought.filed, fun {left} leftFiled same => ?_⟩
  have inLine : ∀ app ∈ desired, left.InLine space id app := fun app inside =>
    (brought.inLine app inside).of_heldAt_eq (congrFun same app.name)
  obtain ⟨_, ends⟩ := ends_converge leftFiled inLine due
  exact ⟨_, left, ends, rfl, fun close => .of_isOk close rfl⟩

/-- The agent in the release of a cluster. -/
def agentOf (cluster : Cluster) : Dialogue Operator ReleaseComponent :=
  (Operator.components cluster).bind fun known => .ofOutcome (agentComponent known)

/-- Sets the version labels of Apps, if there are any. -/
def relabel (cluster : Cluster) (apps : List App) : Dialogue Operator (List String) :=
  if apps.isEmpty then pure []
  else (agentOf cluster).bind fun agent =>
    Operator.calls (relabelEach cluster.space agent.version apps)

theorem ensureVersionLabels_eq_bind (cluster : Cluster) :
    ensureVersionLabels cluster =
      (Operator.calls (Store.listApps cluster.space (unmanagedSelector cluster.id))).bind
        (relabel cluster) := by
  rw [ensureVersionLabels, Dialogue.bind_eq]
  congr 1
  funext apps
  rw [relabel]
  split
  · rfl
  · rw [agentOf, Dialogue.bind_assoc]
    rfl

theorem ends_listApps (surroundings : Surroundings σ) (cluster : Cluster) (state : σ)
    (memory : Memory) :
    (Operator.calls (Store.listApps cluster.space (unmanagedSelector cluster.id))).Ends
      surroundings.handle Idle (state, memory)
      (.ok (memory.listApps cluster.space (unmanagedSelector cluster.id)), (state, memory)) :=
  ends_calls surroundings (.ask (fun makes => nomatch makes) rfl (.done _ _ _ _))

theorem ends_agentOf (surroundings : Surroundings σ) (cluster : Cluster) (state : σ)
    (memory : Memory) :
    (agentOf cluster).Ends surroundings.handle Idle (state, memory)
      ((surroundings.components cluster state).1.bind agentComponent,
        ((surroundings.components cluster state).2, memory)) := by
  refine Dialogue.Ends.ask (I := Operator) trivial rfl ?_
  change ((Dialogue.done (surroundings.components cluster state).1).bind _).Ends _ _ _ _
  cases (surroundings.components cluster state).1 <;> exact .done _ _ _ _

/-- Where there is no App to label, the agent is not asked for. -/
theorem run_ensureVersionLabels_of_none (surroundings : Surroundings σ) {cluster : Cluster}
    (state : σ) {memory : Memory}
    (none : memory.listApps cluster.space (unmanagedSelector cluster.id) = []) :
    (ensureVersionLabels cluster).run surroundings.handle (state, memory) =
        (.ok [], (state, memory)) ∧
      (ensureVersionLabels cluster).questions surroundings.handle (state, memory) =
        [.store (.listApps cluster.space (unmanagedSelector cluster.id))] := by
  have lists := (ends_listApps surroundings cluster state memory).run
  rw [none] at lists
  rw [ensureVersionLabels_eq_bind, Dialogue.run_bind_of_ok lists,
    Dialogue.questions_bind_of_ok lists]
  exact ⟨rfl, rfl⟩

/-- Where there is one, the agent is asked for, and without it no label is set. -/
theorem run_ensureVersionLabels_of_some (surroundings : Surroundings σ) {cluster : Cluster}
    (state : σ) {memory : Memory}
    (listed : memory.listApps cluster.space (unmanagedSelector cluster.id) ≠ []) :
    (ensureVersionLabels cluster).run surroundings.handle (state, memory) =
        ((agentOf cluster).bind fun agent =>
          Operator.calls (relabelEach cluster.space agent.version
            (memory.listApps cluster.space (unmanagedSelector cluster.id)))).run
          surroundings.handle (state, memory) ∧
      (ensureVersionLabels cluster).questions surroundings.handle (state, memory) =
        .store (.listApps cluster.space (unmanagedSelector cluster.id)) ::
          ((agentOf cluster).bind fun agent =>
            Operator.calls (relabelEach cluster.space agent.version
              (memory.listApps cluster.space (unmanagedSelector cluster.id)))).questions
            surroundings.handle (state, memory) := by
  have lists := (ends_listApps surroundings cluster state memory).run
  rw [ensureVersionLabels_eq_bind, Dialogue.run_bind_of_ok lists,
    Dialogue.questions_bind_of_ok lists, relabel, if_neg (mt List.isEmpty_iff.mp listed)]
  exact ⟨rfl, rfl⟩

/-- Setting version labels changes no more than these. -/
theorem tended_ensureVersionLabels (surroundings : Surroundings σ) (cluster : Cluster)
    (state : σ) {memory : Memory} (filed : memory.Filed) :
    ((ensureVersionLabels cluster).run surroundings.handle (state, memory)).2.2.Filed ∧
      ∃ version, memory.Tended (Memory.Relabels cluster.space cluster.id version)
        ((ensureVersionLabels cluster).run surroundings.handle (state, memory)).2.2 := by
  have still : memory.Filed ∧ ∃ version,
      memory.Tended (Memory.Relabels cluster.space cluster.id version) memory :=
    ⟨filed, "", .refl .stays memory⟩
  by_cases none : memory.listApps cluster.space (unmanagedSelector cluster.id) = []
  · rw [(run_ensureVersionLabels_of_none surroundings state none).1]
    exact still
  · rw [(run_ensureVersionLabels_of_some surroundings state none).1, Dialogue.run_bind,
      (ends_agentOf surroundings cluster state memory).run]
    cases (surroundings.components cluster state).1.bind agentComponent with
    | error failure => exact still
    | ok agent =>
        obtain ⟨listed, distinct⟩ := Memory.found_of_listApps filed cluster.space cluster.id
        obtain ⟨after, runs, -, relabelled⟩ := run_relabelEach agent.version filed listed distinct
        dsimp only
        rw [Operator.run_calls, Surroundings.run_stored, runs]
        exact ⟨relabelled.filed, agent.version, relabelled.tended⟩

theorem repeats_ensureVersionLabels (agree : first.Agree second alike) (cluster : Cluster) :
    Repeats first second alike Memory.apps (fun _ _ => True) (ensureVersionLabels cluster) := by
  intro state memory filed outcome ended after played
  obtain ⟨stillFiled, version, tended⟩ := tended_ensureVersionLabels first cluster state filed
  rw [played] at stillFiled tended
  refine ⟨stillFiled, fun later left close leftFiled same => ?_⟩
  have names : (left.listApps cluster.space (unmanagedSelector cluster.id)).map App.name =
      (memory.listApps cluster.space (unmanagedSelector cluster.id)).map App.name := by
    refine Memory.names_listApps filed leftFiled fun name => ?_
    rw [Memory.app?, same]
    exact (tended.relabels_eq name).2
  rw [ensureVersionLabels_eq_bind,
    Dialogue.run_bind_of_ok (ends_listApps first cluster state memory).run, relabel] at played
  rw [ensureVersionLabels_eq_bind]
  suffices ∃ again still, (relabel cluster (left.listApps cluster.space
      (unmanagedSelector cluster.id))).Ends second.handle Idle (later, left)
        (again, (still, left)) ∧ again.isOk = outcome.isOk ∧ alike ended still by
    obtain ⟨again, still, ends, finished, close⟩ := this
    exact ⟨again, still, left, (ends_listApps second cluster later left).bind ends, rfl,
      .of_isOk close finished⟩
  have asks := ends_agentOf second cluster later left
  obtain ⟨answer, stillClose⟩ := agree.components cluster state later close
  rw [answer] at asks
  have empty := congrArg List.isEmpty names
  rw [List.isEmpty_map, List.isEmpty_map] at empty
  rw [relabel, empty]
  cases none : (memory.listApps cluster.space (unmanagedSelector cluster.id)).isEmpty with
  | true =>
      rw [none] at played
      cases played
      exact ⟨_, later, .done _ _ _ _, rfl, close⟩
  | false =>
      rw [none, if_neg Bool.false_ne_true, Dialogue.run_bind,
        (ends_agentOf first cluster state memory).run] at played
      rw [if_neg Bool.false_ne_true]
      cases found : (first.components cluster state).1.bind agentComponent with
      | error failure =>
          rw [found] at played asks
          cases played
          exact ⟨_, _, asks.bind_error, rfl, stillClose⟩
      | ok agent =>
          rw [found] at played asks
          obtain ⟨listed, distinct⟩ := Memory.found_of_listApps filed cluster.space cluster.id
          obtain ⟨_, runs, -, relabelled⟩ := run_relabelEach agent.version filed listed distinct
          dsimp only at played
          rw [Operator.run_calls, Surroundings.run_stored, runs] at played
          cases played
          have labelled : ∀ app ∈ left.listApps cluster.space (unmanagedSelector cluster.id),
              left.app? cluster.space app.name = some app ∧
                left.Labelled cluster.space agent.version app.name := by
            intro app inside
            refine ⟨((Memory.found_of_listApps leftFiled cluster.space cluster.id).1 app inside).1,
              ?_⟩
            obtain ⟨other, listedBefore, sameName⟩ :=
              List.mem_map.mp (names ▸ List.mem_map_of_mem inside)
            exact sameName ▸ (relabelled.labelled other listedBefore).of_apps_eq same
          exact ⟨_, _, asks.bind (ends_calls second (ends_relabelEach labelled)), rfl, stillClose⟩

end Stages

end PlatformApps.Apply
