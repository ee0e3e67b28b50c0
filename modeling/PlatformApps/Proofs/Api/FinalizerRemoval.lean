/-
# Taking one finalizer off an App

The list of finalizers is read as a whole and written back as a whole, while others write it too.
The patch states the version that was read, so it is carried out on just the document that was
read. No finalizer but the given one is lost, and none that was taken off comes back.
-/

import PlatformApps.Api.Objects
import PlatformApps.Proofs.Api.Server

namespace PlatformApps

open Json

theorem Json.canonical_ofStrings (texts : List String) : (ofStrings texts).Canonical := by
  refine canonicalItems_iff.mpr fun item inside => ?_
  obtain ⟨text, _, rfl⟩ := List.mem_map.mp inside
  trivial

namespace App

/-- The App under a new version, without a finalizer. -/
def withoutFinalizer (app : App) (finalizer version : String) : App :=
  { app with
    metadata := { app.metadata with
      finalizers := some (app.finalizers.filter (· != finalizer))
      resourceVersion := some version } }

/-- The changes of its metadata by which a finalizer is taken off an App. -/
def finalizerChanges (app : App) (finalizer : String) : List (String × Json) :=
  [("finalizers", .ofStrings (app.finalizers.filter (· != finalizer))),
    ("resourceVersion", (app.metadata.resourceVersion.map Json.str).getD .null)]

variable (app : App) (finalizer : String)

theorem sorted_finalizerChanges : Entries.Sorted (app.finalizerChanges finalizer) :=
  List.pairwise_pair.mpr (by decide : "finalizers" < "resourceVersion")

theorem canonical_finalizerChanges : (Json.obj (app.finalizerChanges finalizer)).Canonical := by
  refine ⟨app.sorted_finalizerChanges finalizer, canonical_ofStrings _, ?_, trivial⟩
  cases app.metadata.resourceVersion <;> trivial

end App

namespace ApiServer

/-- At the path, nothing was changed but that a finalizer was taken off the App there, all of it
and nothing else, under a version that no document there has had. -/
structure TakesOff (path finalizer : String) (before after : ApiServer) : Prop where
  app : ∃ document changed app version,
    before.document? path = some document ∧ App.read? (.ofJson document) = some app ∧
    finalizer ∈ app.finalizers ∧ version ∉ before.versions path ∧
    after.document? path = some changed ∧
    App.read? (.ofJson changed) = some (app.withoutFinalizer finalizer version) ∧
    document.AgreesBeside changed ["finalizers", "resourceVersion"]
  elsewhere : ∀ other ≠ path, after.document? other = before.document? other

/-- The patch of the finalizers of an App, carried out on the document that the App was read from,
leaves a document that is read as the App without the finalizer. -/
theorem read?_finalizers_patched {document : Json} {app : App} {known : String}
    (canonical : document.Canonical) (stated : document.version? = some known)
    (shown : App.read? (.ofJson document) = some app) (finalizer version : String)
    {changed : Json} (made : changed =
      (document.mergePatch (metadataPatch (app.finalizerChanges finalizer))).stamped version) :
    App.read? (.ofJson changed) = some (app.withoutFinalizer finalizer version) ∧
      document.AgreesBeside changed ["finalizers", "resourceVersion"] := by
  have inOrder := app.canonical_finalizerChanges finalizer
  have distinct := (app.sorted_finalizerChanges finalizer).nodup_keys
  have patched := canonical.mergePatch (.metadataPatch inOrder)
  have again : changed =
      (document.mergePatch (metadataPatch (app.finalizerChanges finalizer))).mergePatch
        (metadataPatch [("resourceVersion", .str version)]) := by
    rw [made, stamped, patched.eq]
  have agree : document.AgreesBeside changed ["finalizers", "resourceVersion"] := by
    rw [again]
    exact (agreesBeside_metadataPatch distinct (by simp [App.finalizerChanges])).trans
      (agreesBeside_metadataPatch (by simp) (by simp))
  have finalizers : changed.path? ["metadata", "finalizers"] =
      some (.ofStrings (app.finalizers.filter (· != finalizer))) := by
    rw [again, path?_metadataPatch (by simp), path?_metadataPatch distinct]
    rfl
  refine ⟨App.read?_of_agreesBeside canonical ?_ stated shown agree finalizers ?_, agree⟩
  · rw [made]
    exact canonical_stamped _ version
  · rw [made]
    exact version?_stamped _ version

/-- The server holds the App at a path that a finalizer is taken off. -/
def appPath (space name : String) : String :=
  Target.pathOf ((Collection.apps (some space)).member name)

variable {space name finalizer : String} {first last : ApiServer} {served : List Served}

/-- An App is read, from the document that is there, or the call fails. Nothing is changed. -/
theorem Plays.get_app_cases {outcome : Outcome App}
    (plays : Plays ((Collection.apps (some space)).get name App.read?) first served outcome last) :
    ((∃ failure, outcome = .error failure) ∧ ∀ step ∈ served, step.Idle) ∨
    ∃ step document app, served = [step] ∧ step.Idle ∧ outcome = .ok app ∧
      step.before.document? (appPath space name) = some document ∧
      App.read? (.ofJson document) = some app ∧ Changes step.after last := by
  rcases plays.named_cases with ⟨failed, rfl⟩ | plays
  · exact .inl ⟨failed, fun _ inside => nomatch inside⟩
  rcases plays.exchange_cases with failed | ⟨step, rfl, exchanged, others⟩
  · exact .inl failed
  have idle := Served.idle_of_get exchanged.method
  obtain ⟨reply, answered, succeeds, readAs⟩ := exchanged.answer
  obtain ⟨document, kept, shows⟩ := Served.shown_of_get exchanged.method answered succeeds
  cases outcome with
  | error failure => exact .inl ⟨⟨failure, rfl⟩, by simpa using idle⟩
  | ok app =>
      have read := (readAs app).mp rfl
      rw [exchanged.path] at kept
      exact .inr ⟨step, document, app, rfl, idle, rfl, kept, shows.symm.trans read, others⟩

/-- A patch of the finalizers of an App fails without an effect, or it takes the finalizer off the
document that the App was read from, whatever others have changed since. -/
theorem Plays.patch_finalizers_cases {app : App} {outcome : Outcome App} {earlier : ApiServer}
    {document : Json} (kept : earlier.document? (appPath space name) = some document)
    (shown : App.read? (.ofJson document) = some app) (held : finalizer ∈ app.finalizers)
    (others : Changes earlier first)
    (plays : Plays ((Collection.apps (some space)).mergePatch name
      (metadataPatch (app.finalizerChanges finalizer)) App.read?) first served outcome last) :
    ((∃ failure, outcome = .error failure) ∧ ∀ step ∈ served, step.Idle) ∨
    ∃ step app, served = [step] ∧ outcome = .ok app ∧
      TakesOff (appPath space name) finalizer step.before step.after := by
  rcases plays.named_cases with ⟨failed, rfl⟩ | plays
  · exact .inl ⟨failed, fun _ inside => nomatch inside⟩
  rcases plays.exchange_cases with failed | ⟨step, rfl, exchanged, _⟩
  · exact .inl failed
  obtain ⟨reply, answered, succeeds, readAs⟩ := exchanged.answer
  obtain ⟨there, version, keptNow, current, new, after, shows⟩ :=
    Served.patched_of_patch exchanged.method exchanged.body answered succeeds
  have path : step.request.path = appPath space name := by
    rw [exchanged.path, Target.pathOf_parametric]
    rfl
  rw [path] at keptNow new after
  -- the version of the patch is the one that was read, so the document is the one that was read
  obtain ⟨known, _, stated⟩ := earlier.versioned kept
  have canonical := earlier.canonical kept
  have carried : (metadataPatch (app.finalizerChanges finalizer)).version? = some known := by
    rw [metadataPatch, App.finalizerChanges, App.resourceVersion_of_read? canonical stated shown]
    rfl
  have same : there = document :=
    (Changes.since (others.trans exchanged.earlier) _).eq_of_version? kept keptNow
      ((current known carried).trans stated.symm)
  subst same
  obtain ⟨reads, agree⟩ := read?_finalizers_patched canonical stated shown finalizer version rfl
  have answer := (readAs _).mpr (shows.trans reads)
  refine .inr ⟨step, _, rfl, answer, ⟨there, _, app, version, keptNow, shown, held, new, ?_, reads,
    agree⟩, fun other elsewhere => ?_⟩
  · rw [after, document?_write_self]
  · rw [after, document?_write_of_ne _ _ _ _ elsewhere]

theorem removeAppFinalizer_eq (space name finalizer : String) :
    Api.removeAppFinalizer space name finalizer =
      ((Collection.apps (some space)).get name App.read?).bind fun app =>
        if app.finalizers.contains finalizer then
          ((Collection.apps (some space)).mergePatch name
            (metadataPatch (app.finalizerChanges finalizer)) App.read?).bind fun _ =>
              .done (.ok true)
        else .done (.ok false) := by
  have patch (app : App) :
      Json.ofFields [("metadata", .ofFields (app.finalizerChanges finalizer))] =
        metadataPatch (app.finalizerChanges finalizer) := by
    rw [ofFields_of_sorted (app.sorted_finalizerChanges finalizer)]
    exact ofFields_of_sorted (List.pairwise_singleton _ _)
  simp only [← patch]
  rfl

/-- Whatever others change while a finalizer is taken off an App: if the call says so, the second
of its two requests has taken the finalizer off the App of that moment and changed nothing else.
If the call says that there was nothing to do, the App that it looked at did not have the
finalizer. In that case, and whenever the call fails, it has changed nothing. -/
theorem removeAppFinalizer_keeps_others {outcome : Outcome Bool}
    (plays : Plays (Api.removeAppFinalizer space name finalizer) first served outcome last) :
    match outcome with
    | .ok true => ∃ look change, served = [look, change] ∧ look.Idle ∧
        TakesOff (appPath space name) finalizer change.before change.after
    | .ok false => ∃ look document app, served = [look] ∧ look.Idle ∧
        look.before.document? (appPath space name) = some document ∧
        App.read? (.ofJson document) = some app ∧ finalizer ∉ app.finalizers
    | .error _ => ∀ step ∈ served, step.Idle := by
  rw [removeAppFinalizer_eq] at plays
  rcases plays.bind_cases with ⟨app, between, early, late, looks, acts, rfl⟩ |
    ⟨failure, rfl, looks⟩
  · rcases looks.get_app_cases with ⟨⟨_, failed⟩, _⟩ |
      ⟨look, document, same, rfl, idle, found, kept, shown, others⟩
    · cases failed
    cases found
    split at acts
    · rename_i held
      have held : finalizer ∈ app.finalizers := List.contains_iff_mem.mp held
      have keptAfter : look.after.document? (appPath space name) = some document := by
        rw [idle, kept]
      rcases acts.bind_cases with ⟨_, _, made, rest, patches, ends, rfl⟩ | ⟨failure, rfl, patches⟩
      · cases ends with
        | done =>
            rcases patches.patch_finalizers_cases keptAfter shown held others with
              ⟨⟨_, failed⟩, _⟩ | ⟨change, _, rfl, _, takes⟩
            · cases failed
            · exact ⟨look, change, rfl, idle, takes⟩
      · rcases patches.patch_finalizers_cases keptAfter shown held others with
          ⟨_, idles⟩ | ⟨_, _, _, answered, _⟩
        · exact List.forall_mem_cons.mpr ⟨idle, idles⟩
        · cases answered
    · rename_i missing
      cases acts with
      | done =>
          refine ⟨look, document, app, rfl, idle, kept, shown, fun held => missing ?_⟩
          exact List.contains_iff_mem.mpr held
  · rcases looks.get_app_cases with ⟨_, idles⟩ | ⟨_, _, _, _, _, found, _⟩
    · exact idles
    · cases found

/-! A run in which others write before each of the two requests. -/

/-- A server without documents. -/
def empty : ApiServer where
  document? _ := none
  versions _ := []
  canonical there := by cases there
  versioned there := by cases there

/-- An App that two hold. -/
def heldApp : App where
  metadata := { finalizers := some ["chart", "operator"], resourceVersion := some "7" }
  spec := { catalog := "default", name := "hello", namespace_ := "demo", version := "1.0.0" }

/-- The App was written by others. -/
def occupied : ApiServer := empty.write (appPath "demo" "hello") heldApp.toJson "7"

/-- Another App was written since. -/
def busier : ApiServer := occupied.write (appPath "demo" "other") heldApp.toJson "8"

/-- A reply that shows the App with these finalizers, which are texts in quotes. -/
def showing (finalizers version : String) : ApiReply where
  status := 200
  body := "\x7b\"metadata\":\x7b\"finalizers\":[" ++ finalizers ++ "],\"resourceVersion\":\"" ++
    version ++ "\"\x7d,\"spec\":\x7b\"catalog\":\"default\",\"name\":\"hello\"," ++
    "\"namespace\":\"demo\",\"version\":\"1.0.0\"\x7d\x7d"

def heldDocument : Json := heldApp.toJson.stamped "7"

theorem read?_heldDocument : App.read? (.ofJson heldDocument) = some heldApp := by
  decide +kernel

theorem parse?_showing_held :
    (Written.parse? (showing "\"chart\",\"operator\"" "7").body).bind App.read? =
      some heldApp := by
  decide +kernel

theorem parse?_showing_freed :
    (Written.parse? (showing "\"chart\"" "9").body).bind App.read? =
      some (heldApp.withoutFinalizer "operator" "9") := by
  decide +kernel

/-- The App is looked at. -/
def lookAtHeld : Served where
  request := { method := .get, path := appPath "demo" "hello" }
  before := occupied
  answer := .ok (showing "\"chart\",\"operator\"" "7")
  after := occupied
  serves := .shown rfl (document?_write_self ..) (by decide)
    (parse?_showing_held.trans read?_heldDocument.symm)

theorem appPath_hello_ne : appPath "demo" "hello" ≠ appPath "demo" "other" := by decide +kernel

theorem document?_busier : busier.document? (appPath "demo" "hello") = some heldDocument := by
  rw [busier, document?_write_of_ne _ _ _ _ appPath_hello_ne]
  exact document?_write_self ..

theorem versions_busier : busier.versions (appPath "demo" "hello") = ["7"] := by
  rw [busier, versions_write_of_ne _ _ _ _ appPath_hello_ne]
  exact versions_write_self ..

/-- The patch by which the operator lets go of the App. -/
def freeingPatch : Json := metadataPatch (heldApp.finalizerChanges "operator")

theorem version?_heldDocument : heldDocument.version? = some "7" := version?_stamped ..

theorem read?_freed : App.read? (.ofJson ((heldDocument.mergePatch freeingPatch).stamped "9")) =
    some (heldApp.withoutFinalizer "operator" "9") :=
  (read?_finalizers_patched (canonical_stamped ..) version?_heldDocument read?_heldDocument
    "operator" "9" rfl).1

/-- The patch is carried out. -/
def freeHeld : Served where
  request := {
    method := .patch
    path := appPath "demo" "hello"
    body := some ("application/merge-patch+json", freeingPatch) }
  before := busier
  answer := .ok (showing "\"chart\"" "9")
  after := busier.write (appPath "demo" "hello") (heldDocument.mergePatch freeingPatch) "9"
  serves := by
    refine .patched rfl rfl document?_busier (fun version carried => ?_) (by simp [versions_busier])
      (by decide) (parse?_showing_freed.trans read?_freed.symm)
    cases carried
    exact version?_heldDocument

theorem removeAppFinalizer_keeps_others_hello : ∃ last,
    Plays (Api.removeAppFinalizer "demo" "hello" "operator") empty [lookAtHeld, freeHeld] (.ok true)
      last ∧
    TakesOff (appPath "demo" "hello") "operator" freeHeld.before freeHeld.after := by
  have toRead : Target.ofAddress? ((Collection.apps (some "demo")).member "hello") [] =
      some ⟨appPath "demo" "hello", []⟩ := by decide +kernel
  have toPatch : Target.ofAddress?
      (Collection.parametric ((Collection.apps (some "demo")).member "hello")) [] =
      some ⟨appPath "demo" "hello", []⟩ := by decide +kernel
  have unused : "8" ∉ occupied.versions (appPath "demo" "other") := by
    rw [occupied, versions_write_of_ne _ _ _ _ appPath_hello_ne.symm]
    exact List.not_mem_nil
  have read : Plays ((Collection.apps (some "demo")).get "hello" App.read?) empty [lookAtHeld]
      (.ok heldApp) occupied :=
    .exchange_of_success toRead (.single (.write _ _ List.not_mem_nil)) rfl rfl (by decide)
      parse?_showing_held
  have patched : Plays
      ((Collection.apps (some "demo")).mergePatch "hello" freeingPatch App.read?) occupied
      [freeHeld] (.ok (heldApp.withoutFinalizer "operator" "9")) freeHeld.after :=
    .exchange_of_success toPatch (.single (.write _ _ unused)) rfl rfl (by decide)
      parse?_showing_freed
  have plays : Plays (Api.removeAppFinalizer "demo" "hello" "operator") empty [lookAtHeld, freeHeld]
      (.ok true) freeHeld.after := by
    rw [removeAppFinalizer_eq]
    exact read.bind_of_ok (patched.bind_of_ok (.done _ .refl))
  obtain ⟨_, _, same, _, takes⟩ := removeAppFinalizer_keeps_others plays
  cases same
  exact ⟨freeHeld.after, plays, takes⟩

end ApiServer

end PlatformApps
