/-
# Listings asked of an API server

A listing is one request that carries the text of a selector. An API server that evaluates the
text on the labels of its Apps lists what the in-memory store lists for the selector itself.
-/

import PlatformApps.Api.Objects
import PlatformApps.Proofs.Api.Server
import PlatformApps.Proofs.Selector

namespace PlatformApps

namespace Target

/-- May the text be a part of a path? None of its characters ends the path. -/
def StaysInPath (text : String) : Prop :=
  ∀ char ∈ text.toList, isPathChar char = true ∧ char ≠ '?' ∧ char ≠ '#'

instance : DecidablePred StaysInPath := fun text => List.decidableBAll _ text.toList

theorem StaysInPath.append {text other : String} (stays : StaysInPath text)
    (also : StaysInPath other) : StaysInPath (text ++ other) := by
  intro char inside
  rw [String.toList_append, List.mem_append] at inside
  exact inside.elim (stays char) (also char)

theorem ofAddress?_parametric {path : String} (stays : StaysInPath path)
    (parameters : List (String × String)) :
    ofAddress? (Collection.parametric path) parameters = some ⟨path, parameters⟩ := by
  have inPath : ∀ char ∈ path.toList, (char != '?' && char != '#') = true := by
    intro char inside
    obtain ⟨-, noQuery, noFragment⟩ := stays char inside
    simp [noQuery, noFragment]
  have usable : path.toList.all isPathChar = true :=
    List.all_eq_true.mpr fun char inside => (stays char inside).1
  have taken : (path.toList ++ ['?']).takeWhile (fun char => char != '?' && char != '#') =
      path.toList := by
    rw [List.takeWhile_append_of_pos inPath]
    simp
  have dropped : (path.toList ++ ['?']).dropWhile (fun char => char != '?' && char != '#') =
      ['?'] := by
    rw [List.dropWhile_append_of_pos inPath]
    rfl
  have marked : (Collection.parametric path).toList = path.toList ++ ['?'] := by
    rw [Collection.parametric, String.toList_append]
    rfl
  simp only [ofAddress?, marked, taken, dropped, usable, if_true, String.ofList_toList]
  rfl

theorem staysInPath_apps {space : String} (stays : StaysInPath space) :
    StaysInPath (Collection.apps (some space)).path := by
  have path_eq : (Collection.apps (some space)).path =
      Collection.root App.type.apiVersion ++ "/namespaces/" ++ space ++ ("/" ++ "apps") := by
    rw [← String.append_assoc]
    rfl
  have before : StaysInPath (Collection.root App.type.apiVersion ++ "/namespaces/") := by
    decide +kernel
  have behind : StaysInPath ("/" ++ "apps") := by decide +kernel
  rw [path_eq]
  exact (before.append stays).append behind

end Target

namespace Api

/-- A listing is one request, which carries the text of the selector. -/
theorem list_eq {α : Type} {collection : Collection} (stays : Target.StaysInPath collection.path)
    (text : String) (read : Written → Option α) :
    collection.list (some text) read =
      .ask (I := Api)
        { method := .get, path := collection.path, query := [("labelSelector", text)] }
        fun answer =>
          .done ((resultOf (Collection.pageOf? read) answer).map Collection.Page.members) := by
  have lists : collection.list (some text) read =
      (exchange .get (Collection.parametric collection.path) [("labelSelector", text)] none
        (Collection.pageOf? read)).bind fun page => .done (.ok page.members) := rfl
  rw [lists, exchange_eq (Target.ofAddress?_parametric stays _), Dialogue.bind]
  congr 1
  funext answer
  cases resultOf (Collection.pageOf? read) answer <;> rfl

theorem answer_listApps (space : String) (selector : Selector) :
    answer (.listApps space selector) =
      (Collection.apps (some space)).list (some selector.render) App.read? := rfl

/-- The request for the Apps of a namespace that satisfy a text. -/
def listing (space text : String) : ApiRequest where
  method := .get
  path := (Collection.apps (some space)).path
  query := [("labelSelector", text)]

variable {σ : Type} {space : String} {selector : Selector}

/-- What is sent for a selector is its text. -/
theorem questions_listApps (stays : Target.StaysInPath space) (selector : Selector)
    (handler : Api.Handler σ) (state : σ) :
    (answer (.listApps space selector)).questions handler state =
      [listing space selector.render] := by
  rw [answer_listApps, list_eq (Target.staysInPath_apps stays)]
  rfl

/-- A reply that shows the Apps whose labels satisfy the text yields the ones that the in-memory
store lists for the selector. -/
theorem run_listApps {handler : Api.Handler σ} {state after : σ} {reply : ApiReply}
    {page : Collection.Page App} {store : Memory} (stays : Target.StaysInPath space)
    (legible : selector.Legible)
    (answered : handler (listing space selector.render) state = (.ok reply, after))
    (succeeds : ¬reply.Fails)
    (shows : (Written.parse? reply.body).bind (Collection.pageOf? App.read?) = some page)
    (listed : page.members = store.listedBy space selector.render) :
    (answer (.listApps space selector)).run handler state =
      (.ok (store.listApps space selector), after) := by
  rw [answer_listApps, list_eq (Target.staysInPath_apps stays),
    Dialogue.run_ask_of_answer answered, Dialogue.run_done]
  simp only [resultOf, if_neg succeeds, shows]
  rw [← store.listedBy_render space legible, ← listed]
  rfl

end Api

/-- Let keys be without commas, equals signs and exclamation marks, and values without commas.
Then a selector is read back from its text, no other selector has that text, and the text says of
all labels what the selector says of them, so both list the same Apps. A label that is missing
differs from every value. The text is what is asked of the API server. Of what a selector matches,
it matches each object just once with a requirement and with its opposite added. -/
theorem selector_texts_faithful :
    (∀ selector : Selector, selector.Plain →
      Selector.ofText? selector.render = some selector ∧
      (∀ other : Selector, other.Plain → other ≠ selector → other.render ≠ selector.render) ∧
      (∀ labels, Selector.evaluate? selector.render labels = some (selector.isMatch labels)) ∧
      ∀ (store : Memory) (space : String),
        store.listedBy space selector.render = store.listApps space selector) ∧
    (∀ key value labels, (Requirement.differs key value).Plain → labels.find? key = none →
      Selector.evaluate? (Requirement.differs key value).render labels = some true) ∧
    (∀ (space : String) (selector : Selector), Target.StaysInPath space →
      ∀ {σ : Type} (handler : Api.Handler σ) (state : σ),
        (Api.answer (.listApps space selector)).questions handler state =
          [Api.listing space selector.render]) ∧
    ∀ (base : Selector) (key value : String),
      base.SplitsInto (base.adding (.equals key value)) (base.adding (.differs key value)) := by
  refine ⟨fun selector plain => ?faithful, fun key value labels plain missing => ?missing,
    fun _ selector stays _ => Api.questions_listApps stays selector, Selector.splitsInto_adding⟩
  case faithful =>
    have legible := plain.legible
    refine ⟨Selector.ofText?_eq_some_iff.mpr ⟨rfl, legible⟩, fun other also different same => ?_,
      legible.evaluate?_render, fun store space => store.listedBy_render space legible⟩
    exact different (also.legible.eq_of_render_eq legible same)
  case missing =>
    have alone : (⟨[.differs key value]⟩ : Selector).Plain := by
      simpa [Selector.Plain] using plain
    have evaluates := alone.legible.evaluate?_render labels
    have holds := Requirement.holds_differs_of_missing missing value
    simpa [Selector.render, Selector.isMatch, holds] using evaluates

/-- Values may be empty, and hold any character but a comma. -/
def Selector.awkward : Selector :=
  ⟨[.equals Label.cluster "", .differs "tier" "=a!=b"]⟩

theorem selector_texts_faithful_awkward :
    Selector.awkward.Plain ∧
      Selector.awkward.render = "giantswarm.io/cluster=,tier!==a!=b" ∧
      Selector.ofText? Selector.awkward.render = some Selector.awkward ∧
      Selector.evaluate? Selector.awkward.render (.ofList [("giantswarm.io/cluster", "")]) =
        some true ∧
      (managedSelector "demo0").Plain ∧
      (managedSelector "demo0").render ≠ Selector.awkward.render ∧
      Selector.evaluate? "tier!==a!=b" ∅ = some true ∧
      Target.StaysInPath "org-acme" ∧
      (Api.answer (.listApps "org-acme" Selector.awkward)).questions
        (fun _ (state : Unit) => (.error (.exchange "lost"), state)) () =
          [Api.listing "org-acme" "giantswarm.io/cluster=,tier!==a!=b"] := by
  have plain : Selector.awkward.Plain := by decide +kernel
  have managed : (managedSelector "demo0").Plain := by decide +kernel
  have text : Selector.awkward.render = "giantswarm.io/cluster=,tier!==a!=b" := by decide +kernel
  have stays : Target.StaysInPath "org-acme" := by decide +kernel
  obtain ⟨ofPlain, ofMissing, sends, -⟩ := selector_texts_faithful
  obtain ⟨read, distinct, evaluates, -⟩ := ofPlain Selector.awkward plain
  refine ⟨plain, text, read, ?_, managed, distinct _ managed (by decide), ?_, stays, ?_⟩
  · rw [evaluates]
    decide +kernel
  · exact ofMissing "tier" "=a!=b" ∅ (by decide +kernel) rfl
  · rw [sends _ _ stays, text]

end PlatformApps
