/-
# An API server that others change too

The API server keeps documents at paths. Whenever a document is changed, it comes under a version
that no document at its path has had before. A merge patch that states a version is carried out
only on the document of that version, and a request that is answered with a failure has had no
effect. While a dialogue with the server is under way, others change whatever they like.
-/

import Mathlib.Logic.Function.Basic
import Mathlib.Logic.Relation
import PlatformApps.Api.Collection
import PlatformApps.Proofs.Dialogue
import PlatformApps.Proofs.Resource.Stated

namespace PlatformApps

open Json

namespace Json

/-- The document in order, under a version. -/
def stamped (document : Json) (version : String) : Json :=
  document.canonical.mergePatch (metadataPatch [("resourceVersion", .str version)])

theorem canonical_stamped (document : Json) (version : String) :
    (document.stamped version).Canonical :=
  document.canonical_canonical.mergePatch
    (.metadataPatch ⟨List.pairwise_singleton _ _, trivial, trivial⟩)

@[simp] theorem version?_stamped (document : Json) (version : String) :
    (document.stamped version).version? = some version := by
  rw [version?, stamped, path?_metadataPatch (by simp)]
  rfl

end Json

/-- What an API server keeps. Documents are in order and under versions that have been used. -/
structure ApiServer where
  document? : String → Option Json
  /-- The versions that the documents at a path have had so far. -/
  versions : String → List String
  canonical : ∀ {path document}, document? path = some document → document.Canonical
  versioned : ∀ {path document}, document? path = some document →
    ∃ version ∈ versions path, document.version? = some version

/-- Does the reply report a failure? -/
def ApiReply.Fails (reply : ApiReply) : Prop := 400 ≤ reply.status ∧ reply.status < 600

instance (reply : ApiReply) : Decidable reply.Fails := inferInstanceAs (Decidable (_ ∧ _))

/-- Is the body of the reply read as the App that a document is read as? -/
def ApiReply.Shows (reply : ApiReply) (document : Json) : Prop :=
  (Written.parse? reply.body).bind App.read? = App.read? (.ofJson document)

namespace ApiServer

/-- The server with a document at a path, under a version. -/
def write (server : ApiServer) (path : String) (document : Json) (version : String) :
    ApiServer where
  document? := Function.update server.document? path (some (document.stamped version))
  versions := Function.update server.versions path (version :: server.versions path)
  canonical {other kept} there := by
    by_cases same : other = path
    · subst same
      rw [Function.update_self] at there
      cases there
      exact canonical_stamped document version
    · rw [Function.update_of_ne same] at there
      exact server.canonical there
  versioned {other kept} there := by
    by_cases same : other = path
    · subst same
      rw [Function.update_self] at there ⊢
      cases there
      exact ⟨version, List.mem_cons_self, version?_stamped document version⟩
    · rw [Function.update_of_ne same] at there ⊢
      exact server.versioned there

/-- The server without a document at a path. -/
def remove (server : ApiServer) (path : String) : ApiServer where
  document? := Function.update server.document? path none
  versions := server.versions
  canonical {other kept} there := by
    by_cases same : other = path
    · subst same
      simp at there
    · rw [Function.update_of_ne same] at there
      exact server.canonical there
  versioned {other kept} there := by
    by_cases same : other = path
    · subst same
      simp at there
    · rw [Function.update_of_ne same] at there
      exact server.versioned there

section Kept

variable (server : ApiServer) (path : String) (document : Json) (version : String)

@[simp] theorem document?_write_self :
    (server.write path document version).document? path = some (document.stamped version) :=
  Function.update_self ..

@[simp] theorem document?_write_of_ne {other : String} (elsewhere : other ≠ path) :
    (server.write path document version).document? other = server.document? other :=
  Function.update_of_ne elsewhere ..

@[simp] theorem versions_write_self :
    (server.write path document version).versions path = version :: server.versions path :=
  Function.update_self ..

@[simp] theorem versions_write_of_ne {other : String} (elsewhere : other ≠ path) :
    (server.write path document version).versions other = server.versions other :=
  Function.update_of_ne elsewhere ..

@[simp] theorem document?_remove_self : (server.remove path).document? path = none :=
  Function.update_self ..

@[simp] theorem document?_remove_of_ne {other : String} (elsewhere : other ≠ path) :
    (server.remove path).document? other = server.document? other :=
  Function.update_of_ne elsewhere ..

end Kept

/-- A change that somebody makes. -/
inductive Change (before : ApiServer) : ApiServer → Prop
  | write (path : String) (document : Json) {version : String}
      (new : version ∉ before.versions path) : Change before (before.write path document version)
  | remove (path : String) : Change before (before.remove path)

/-- Any number of changes. -/
abbrev Changes : ApiServer → ApiServer → Prop := Relation.ReflTransGen Change

/-- What has become of the document at a path: it is as it was, it is gone, or it is under a
version that there was not before. -/
structure Since (path : String) (before after : ApiServer) : Prop where
  versions : before.versions path ⊆ after.versions path
  document : ∀ {document}, after.document? path = some document →
    before.document? path = some document ∨
      ∃ version ∉ before.versions path, document.version? = some version

section Since

variable {path : String} {before between after : ApiServer}

theorem Since.refl (path : String) (server : ApiServer) : Since path server server :=
  ⟨List.Subset.refl _, .inl⟩

theorem Since.trans (early : Since path before between) (late : Since path between after) :
    Since path before after where
  versions := List.Subset.trans early.versions late.versions
  document there := by
    rcases late.document there with kept | ⟨version, new, stated⟩
    · exact early.document kept
    · exact .inr ⟨version, fun known => new (early.versions known), stated⟩

theorem Change.since (change : Change before after) (path : String) : Since path before after := by
  cases change with
  | write other document new =>
      by_cases same : path = other
      · subst same
        refine ⟨fun known inside => ?_, fun there => .inr ⟨_, new, ?_⟩⟩
        · rw [versions_write_self]
          exact List.mem_cons_of_mem _ inside
        · rw [document?_write_self] at there
          cases there
          exact version?_stamped document _
      · refine ⟨fun known inside => ?_, fun there => .inl ?_⟩
        · rwa [versions_write_of_ne _ _ _ _ same]
        · rwa [document?_write_of_ne _ _ _ _ same] at there
  | remove other =>
      refine ⟨List.Subset.refl _, fun there => .inl ?_⟩
      by_cases same : path = other
      · subst same
        simp at there
      · rwa [document?_remove_of_ne _ _ same] at there

theorem Changes.since (changes : Changes before after) (path : String) :
    Since path before after := by
  induction changes with
  | refl => exact .refl path before
  | tail _ change ih => exact ih.trans (change.since path)

/-- A version stands for one document: whatever is under it later is what was under it. -/
theorem Since.eq_of_version? (since : Since path before after) {document other : Json}
    (kept : before.document? path = some document) (there : after.document? path = some other)
    (same : other.version? = document.version?) : other = document := by
  rcases since.document there with still | ⟨version, new, stated⟩
  · exact Option.some.inj (still.symm.trans kept)
  · obtain ⟨known, used, also⟩ := before.versioned kept
    rw [stated, also] at same
    cases same
    exact absurd used new

end Since

/-- How a request is answered, and what the server is then. It may always be lost or refused, for
whatever reason, and is without effect then. A merge patch that succeeds is answered with the
document that it has made. -/
inductive Serves (request : ApiRequest) (before : ApiServer) :
    Outcome ApiReply → ApiServer → Prop
  | lost (failure : Failure) : Serves request before (.error failure) before
  | refused {reply : ApiReply} (fails : reply.Fails) : Serves request before (.ok reply) before
  | shown {reply : ApiReply} {document : Json} (method : request.method = .get)
      (kept : before.document? request.path = some document) (succeeds : ¬reply.Fails)
      (shows : reply.Shows document) : Serves request before (.ok reply) before
  /-- If the patch states a version, the document must have it. -/
  | patched {reply : ApiReply} {document patch : Json} {version : String}
      (method : request.method = .patch)
      (body : request.body = some ("application/merge-patch+json", patch))
      (kept : before.document? request.path = some document)
      (current : ∀ stated, patch.version? = some stated → document.version? = some stated)
      (new : version ∉ before.versions request.path) (succeeds : ¬reply.Fails)
      (shows : reply.Shows ((document.mergePatch patch).stamped version)) :
      Serves request before (.ok reply)
        (before.write request.path (document.mergePatch patch) version)

/-- A request as it was answered. -/
structure Served where
  request : ApiRequest
  before : ApiServer
  answer : Outcome ApiReply
  after : ApiServer
  serves : Serves request before answer after

namespace Served

/-- The request changed nothing. -/
def Idle (step : Served) : Prop := step.after = step.before

variable {step : Served} {reply : ApiReply}

theorem idle_of_error {failure : Failure} (answered : step.answer = .error failure) :
    step.Idle := by
  obtain ⟨request, before, answer, after, serves⟩ := step
  cases serves <;> cases answered
  rfl

theorem idle_of_fails (answered : step.answer = .ok reply) (fails : reply.Fails) : step.Idle := by
  obtain ⟨request, before, answer, after, serves⟩ := step
  cases serves with
  | patched _ _ _ _ _ succeeds =>
      cases answered
      exact absurd fails succeeds
  | _ => rfl

/-- Looking at a document changes nothing. -/
theorem idle_of_get (method : step.request.method = .get) : step.Idle := by
  obtain ⟨request, before, answer, after, serves⟩ := step
  cases serves with
  | patched other =>
      rw [other] at method
      cases method
  | _ => rfl

theorem shown_of_get (method : step.request.method = .get) (answered : step.answer = .ok reply)
    (succeeds : ¬reply.Fails) :
    ∃ document, step.before.document? step.request.path = some document ∧
      reply.Shows document := by
  obtain ⟨request, before, answer, after, serves⟩ := step
  cases serves with
  | lost => cases answered
  | refused fails =>
      cases answered
      exact absurd fails succeeds
  | shown _ kept _ shows =>
      cases answered
      exact ⟨_, kept, shows⟩
  | patched other =>
      rw [other] at method
      cases method

/-- A merge patch that succeeds was carried out on the document of the version it states. -/
theorem patched_of_patch (method : step.request.method = .patch) {patch : Json}
    (body : step.request.body = some ("application/merge-patch+json", patch))
    (answered : step.answer = .ok reply) (succeeds : ¬reply.Fails) :
    ∃ document version, step.before.document? step.request.path = some document ∧
      (∀ stated, patch.version? = some stated → document.version? = some stated) ∧
      version ∉ step.before.versions step.request.path ∧
      step.after = step.before.write step.request.path (document.mergePatch patch) version ∧
      reply.Shows ((document.mergePatch patch).stamped version) := by
  obtain ⟨request, before, answer, after, serves⟩ := step
  cases serves with
  | lost => cases answered
  | refused fails =>
      cases answered
      exact absurd fails succeeds
  | shown other =>
      rw [other] at method
      cases method
  | patched _ stated kept current new _ shows =>
      cases answered
      cases stated.symm.trans body
      exact ⟨_, _, kept, current, new, rfl, shows⟩

end Served

/-- A dialogue with the server: before each request, and after the last one, others make any
number of changes. What is kept of it are its requests as they were answered. -/
inductive Plays {α : Type} : Dialogue Api α → ApiServer → List Served → Outcome α → ApiServer →
    Prop
  | done {first last : ApiServer} (outcome : Outcome α) (others : Changes first last) :
      Plays (.done outcome) first [] outcome last
  | ask {request : ApiRequest} {next : Outcome ApiReply → Dialogue Api α}
      {first last : ApiServer} {step : Served} {later : List Served} {outcome : Outcome α}
      (others : Changes first step.before) (asked : step.request = request)
      (rest : Plays (next step.answer) step.after later outcome last) :
      Plays (.ask (I := Api) request next) first (step :: later) outcome last

namespace Plays

variable {α β : Type} {first last : ApiServer} {served : List Served}

/-- A sequence is played part by part, unless the first part fails. -/
theorem bind_cases {dialogue : Dialogue Api α} {next : α → Dialogue Api β} {outcome : Outcome β}
    (plays : Plays (dialogue.bind next) first served outcome last) :
    (∃ value between early late, Plays dialogue first early (.ok value) between ∧
      Plays (next value) between late outcome last ∧ served = early ++ late) ∨
    ∃ failure, outcome = .error failure ∧ Plays dialogue first served (.error failure) last := by
  induction dialogue generalizing first served with
  | done known =>
      cases known with
      | ok value => exact .inl ⟨value, first, [], served, .done _ .refl, plays, rfl⟩
      | error failure =>
          cases plays with
          | done _ others => exact .inr ⟨failure, rfl, .done _ others⟩
  | ask question answered ih =>
      cases plays with
      | @ask _ _ _ _ step later _ others asked rest =>
          rcases ih _ rest with ⟨value, between, early, late, one, two, rfl⟩ |
            ⟨failure, ended, one⟩
          · exact .inl ⟨value, between, step :: early, late, .ask others asked one, two, rfl⟩
          · exact .inr ⟨failure, ended, .ask others asked one⟩

theorem of_changes {dialogue : Dialogue Api α} {outcome : Outcome α} {earlier : ApiServer}
    (others : Changes earlier first) (plays : Plays dialogue first served outcome last) :
    Plays dialogue earlier served outcome last := by
  cases plays with
  | done _ further => exact .done _ (others.trans further)
  | ask further asked rest => exact .ask (others.trans further) asked rest

theorem bind_of_ok {dialogue : Dialogue Api α} {next : α → Dialogue Api β} {outcome : Outcome β}
    {value : α} {between : ApiServer} {later : List Served}
    (early : Plays dialogue first served (.ok value) between)
    (late : Plays (next value) between later outcome last) :
    Plays (dialogue.bind next) first (served ++ later) outcome last := by
  generalize ended : (Except.ok value : Outcome α) = known at early
  induction early with
  | done _ others =>
      subst ended
      exact late.of_changes others
  | ask others asked _ ih => exact .ask others asked (ih late ended)

end Plays

end ApiServer

namespace Target

/-- Path that an address leads to. -/
def pathOf (address : String) : String :=
  String.ofList (address.toList.takeWhile fun char => char != '?' && char != '#')

theorem path_of_ofAddress? {address : String} {parameters : List (String × String)}
    {target : Target} (leads : ofAddress? address parameters = some target) :
    target.path = pathOf address := by
  rw [ofAddress?] at leads
  split at leads
  · split at leads
    · obtain ⟨_, same⟩ := Option.ite_none_right_eq_some.mp leads
      cases same
      rfl
    · cases leads
      rfl
    · cases leads
      rfl
  · cases leads

/-- An address that may have parameters leads to the same path. -/
theorem pathOf_parametric (address : String) :
    pathOf (Collection.parametric address) = pathOf address := by
  rw [pathOf, pathOf, Collection.parametric, String.toList_append, List.takeWhile_append]
  split
  · rename_i whole
    simp [(List.takeWhile_prefix _).eq_of_length whole]
  · rfl

end Target

namespace Api

/-- What the answer to a request comes to. -/
def resultOf {α : Type} (read : Written → Option α) : Outcome ApiReply → Outcome α
  | .error failure => .error failure
  | .ok reply =>
    if reply.Fails then .error (.api (reportedFailure reply))
    else
      match (Written.parse? reply.body).bind read with
      | some value => .ok value
      | none => .error (.exchange "the reply cannot be read")

/-- An exchange is one request, and ends with what its answer comes to. -/
theorem exchange_eq {α : Type} {method : ApiMethod} {address : String}
    {parameters : List (String × String)} {body : Option (String × Json)}
    {read : Written → Option α} {target : Target}
    (leads : Target.ofAddress? address parameters = some target) :
    exchange method address parameters body read =
      .ask (I := Api) { method, path := target.path, query := target.query, body }
        fun answer => .done (resultOf read answer) := by
  rw [exchange, Dialogue.bind_eq, send, leads, Dialogue.bind]
  congr 1
  funext answer
  rcases answer with failure | reply
  · rfl
  · rw [resultOf]
    by_cases fails : reply.Fails
    · have fails' : 400 ≤ reply.status ∧ reply.status < 600 := fails
      simp only [if_pos fails, if_pos fails']
      rfl
    · have succeeds : ¬(400 ≤ reply.status ∧ reply.status < 600) := fails
      simp only [if_neg fails, if_neg succeeds, Dialogue.pure_eq, Dialogue.bind_done_ok]
      cases (Written.parse? reply.body).bind read <;> rfl

theorem resultOf_of_success {α : Type} {read : Written → Option α} {reply : ApiReply}
    (succeeds : ¬reply.Fails) {value : α} :
    resultOf read (.ok reply) = .ok value ↔
      (Written.parse? reply.body).bind read = some value := by
  rw [resultOf, if_neg succeeds]
  cases (Written.parse? reply.body).bind read <;> simp

end Api

namespace ApiServer

/-- How an exchange went that was answered with success. -/
structure Exchanged {α : Type} (method : ApiMethod) (address : String)
    (body : Option (String × Json)) (read : Written → Option α) (first : ApiServer)
    (step : Served) (outcome : Outcome α) : Prop where
  earlier : Changes first step.before
  method : step.request.method = method
  path : step.request.path = Target.pathOf address
  body : step.request.body = body
  answer : ∃ reply, step.answer = .ok reply ∧ ¬reply.Fails ∧
    ∀ value, outcome = .ok value ↔ (Written.parse? reply.body).bind read = some value

namespace Plays

variable {α : Type} {first last : ApiServer} {served : List Served} {outcome : Outcome α}
  {method : ApiMethod} {address : String} {parameters : List (String × String)}
  {body : Option (String × Json)} {read : Written → Option α}

/-- An exchange fails without an effect, or it is answered with success. -/
theorem exchange_cases
    (plays : Plays (Api.exchange method address parameters body read) first served outcome last) :
    ((∃ failure, outcome = .error failure) ∧ ∀ step ∈ served, step.Idle) ∨
    ∃ step, served = [step] ∧ Exchanged method address body read first step outcome ∧
      Changes step.after last := by
  rcases leads : Target.ofAddress? address parameters with _ | target
  · rw [Api.exchange, Api.send, leads] at plays
    cases plays with
    | done => exact .inl ⟨⟨_, rfl⟩, fun _ inside => nomatch inside⟩
  · rw [Api.exchange_eq leads] at plays
    cases plays with
    | @ask _ _ _ _ step _ _ others asked rest =>
        cases rest with
        | done _ after =>
            have path : step.request.path = Target.pathOf address := by
              rw [asked, Target.path_of_ofAddress? leads]
            rcases answered : step.answer with failure | reply
            · exact .inl ⟨⟨failure, rfl⟩, by simpa using Served.idle_of_error answered⟩
            · by_cases fails : reply.Fails
              · refine .inl ⟨⟨_, if_pos fails⟩, ?_⟩
                simpa using Served.idle_of_fails answered fails
              · exact .inr ⟨step, rfl, ⟨others, congrArg _ asked, path, congrArg _ asked,
                  reply, answered, fails, fun value => Api.resultOf_of_success fails⟩, after⟩

/-- An exchange that is answered with success yields what the reply is read as. -/
theorem exchange_of_success {target : Target} {step : Served} {reply : ApiReply} {value : α}
    (leads : Target.ofAddress? address parameters = some target)
    (others : Changes first step.before)
    (asked : step.request = { method, path := target.path, query := target.query, body })
    (answered : step.answer = .ok reply) (succeeds : ¬reply.Fails)
    (reads : (Written.parse? reply.body).bind read = some value) :
    Plays (Api.exchange method address parameters body read) first [step] (.ok value)
      step.after := by
  rw [Api.exchange_eq leads]
  refine .ask others asked ?_
  rw [answered, (Api.resultOf_of_success succeeds).mpr reads]
  exact .done _ .refl

/-- A member without a name is not asked for. -/
theorem named_cases {name : String} {dialogue : Dialogue Api α}
    (plays : Plays (Collection.named name dialogue) first served outcome last) :
    ((∃ failure, outcome = .error failure) ∧ served = []) ∨
      Plays dialogue first served outcome last := by
  rw [Collection.named] at plays
  split at plays
  · cases plays with
    | done => exact .inl ⟨⟨_, rfl⟩, rfl⟩
  · exact .inr plays

end Plays

end ApiServer

end PlatformApps
