/-
# Calls that share their indexes

In a session, calls for the names of charts come one after the other, each with the indexes that
the one before it left; after a call that has not come back there is no other. The cache is then,
at every moment, what was fetched last from each catalog. As long as the clock does not go back,
this makes answers as fresh as the lifetime of an index demands, and keeps the fetches of a
catalog a lifetime apart.
-/

import PlatformApps.Proofs.Catalog.Search

namespace PlatformApps.Catalogs

/-- Which chart is asked for. -/
structure Query where
  catalog : String
  app : String
  version : String

/-- What an index has for a query. -/
def Query.answerFrom (query : Query) (index : CatalogIndex) : Outcome String :=
  match index.chart? query.app query.version with
  | some chart => .ok chart
  | none => .error (.notFound "chart" s!"{query.app}@{query.version} in catalog {query.catalog}")

/-- A call for the name of a chart, with the indexes before and after it. -/
structure Call where
  query : Query
  kept : IndexCache
  events : List Event
  answer : Outcome String
  left : IndexCache

/-- An index that was downloaded and read in a call, with the time at which the call began and
that at which the index was there. -/
structure Fetch where
  catalog : String
  begun : Rat
  ended : Rat
  index : CatalogIndex

/-- What is kept of a fetched index. -/
def Fetch.entry (fetch : Fetch) : Rat × CatalogIndex := (fetch.ended, fetch.index)

namespace Call

def times (call : Call) : List Rat := Catalogs.times call.events

def begun (call : Call) : Rat := call.times.headD 0

def ended (call : Call) : Rat := call.times.getLastD 0

def fetchOf (call : Call) (index : CatalogIndex) : Fetch :=
  ⟨call.query.catalog, call.begun, call.ended, index⟩

def fetches (call : Call) : List Fetch :=
  ((results call.events).filterMap Except.toOption).map call.fetchOf

/-- The failure in which the search for an index ended. -/
def failure? (call : Call) : Option Failure :=
  match (results call.events).getLast? with
  | some (.error failure) => some failure
  | some (.ok _) | none => none

end Call

/-- What was fetched from a catalog, in order. -/
def fetchesOf (catalog : String) (calls : List Call) : List Fetch :=
  (calls.flatMap Call.fetches).filter (·.catalog = catalog)

variable {σ : Type}

namespace Environs

/-- One call, with the state after it. A call whose download uses up its fuel does not come
back. -/
def call? (environs : Environs σ) (lifetime : Rat) (backoff : Backoff) (query : Query)
    (kept : IndexCache) (state : σ) : Option (Call × σ) :=
  let search := chartName lifetime backoff query.catalog query.app query.version kept
  let events := environs.events search state
  match search.run environs.handle state with
  | (.ok (some (answer, left)), after) => some (⟨query, kept, events, answer, left⟩, after)
  | (.ok none, _) => none
  | (.error failure, after) => some (⟨query, kept, events, .error failure, kept⟩, after)

/-- Calls one after the other, as long as they come back. -/
def session (environs : Environs σ) (lifetime : Rat) (backoff : Backoff) :
    List Query → IndexCache → σ → List Call
  | [], _, _ => []
  | query :: rest, kept, state =>
    match environs.call? lifetime backoff query kept state with
    | none => []
    | some (call, after) => call :: environs.session lifetime backoff rest call.left after

end Environs

/-- No reading of the clock lies before an earlier one. -/
def InOrder (calls : List Call) : Prop := (calls.flatMap Call.times).Pairwise (· ≤ ·)

instance (calls : List Call) : Decidable (InOrder calls) :=
  inferInstanceAs (Decidable (List.Pairwise _ _))

/-- Of each catalog, a cache holds what was fetched last, and nothing else. -/
def Reflects (cache : IndexCache) (calls : List Call) : Prop :=
  ∀ catalog, cache.find? catalog = (fetchesOf catalog calls).getLast?.map Fetch.entry

/-- Fetches follow one another: each is begun a lifetime or more after the one before it ended. -/
def Apart (lifetime : Rat) (fetches : List Fetch) : Prop :=
  fetches.Pairwise fun first second =>
    first.ended ≤ second.ended ∧ lifetime ≤ second.begun - first.ended

/-- What a call does after earlier ones: it asks for its own catalog only; unless it fails, it
answers from an index of that catalog that it fetched or that was fetched less than a lifetime
before; when it fails, it says so and changes nothing. -/
structure Call.Explained (lifetime : Rat) (earlier : List Call) (call : Call) : Prop where
  own : ∀ event ∈ call.events, event.BelongsTo call.query.catalog call.events
  answered : call.failure? = none → ∃ fetch ∈ fetchesOf call.query.catalog (earlier ++ [call]),
    call.answer = call.query.answerFrom fetch.index ∧
      (fetch ∈ call.fetches ∨ fetch.ended ≤ call.begun ∧ call.begun - fetch.ended < lifetime)
  failed : ∀ failure, call.failure? = some failure →
    call.fetches = [] ∧ call.left = call.kept ∧ call.answer = .error failure
  found : Reflects call.kept earlier
  cached : Reflects call.left (earlier ++ [call])

/-! ## One call -/

variable {lifetime : Rat} {backoff : Backoff} {call : Call} {failures : List Failure}

namespace Call

theorem fetches_of_failures (results_eq : results call.events = failures.map .error) :
    call.fetches = [] := by
  simp [fetches, results_eq, Except.toOption]

theorem fetches_of_index {index : CatalogIndex}
    (results_eq : results call.events = failures.map .error ++ [.ok index]) :
    call.fetches = [call.fetchOf index] := by
  simp [fetches, results_eq, Except.toOption]

theorem failure?_of_failures (results_eq : results call.events = failures.map .error) :
    call.failure? = failures.getLast? := by
  rw [failure?, results_eq, List.getLast?_map]
  cases failures.getLast? <;> rfl

theorem failure?_of_index {index : CatalogIndex}
    (results_eq : results call.events = failures.map .error ++ [.ok index]) :
    call.failure? = none := by
  rw [failure?, results_eq, List.getLast?_concat]

theorem begun_eq {now : Rat} {rest : List Event} (begins : call.events = .reading now :: rest) :
    call.begun = now := by
  rw [begun, times, begins]
  rfl

/-- A call answers from a kept index that is young enough, fails, or answers from a new index. -/
inductive Course (lifetime : Rat) (call : Call) : Prop where
  | recalled {entry : Rat × CatalogIndex}
      (found : call.kept.find? call.query.catalog = some entry)
      (young : call.begun - entry.1 < lifetime) (noFailure : call.failure? = none)
      (noFetch : call.fetches = []) (answer : call.answer = call.query.answerFrom entry.2)
      (left : call.left = call.kept)
  | failed {failure : Failure} (fails : call.failure? = some failure)
      (noFetch : call.fetches = []) (answer : call.answer = .error failure)
      (left : call.left = call.kept)
  | fetched {index : CatalogIndex}
      (old : ∀ entry ∈ call.kept.find? call.query.catalog, lifetime ≤ call.begun - entry.1)
      (noFailure : call.failure? = none) (fetches : call.fetches = [call.fetchOf index])
      (answer : call.answer = call.query.answerFrom index)
      (left : call.left = call.kept.insert call.query.catalog (call.ended, index))

end Call

/-- What a call comes to is what its search came to. -/
structure Call.Follows (lifetime : Rat) (call : Call)
    (found : Outcome (CatalogIndex × IndexCache)) : Prop where
  search : Search lifetime call.query.catalog call.kept call.events found
  answer : call.answer = found.bind fun found => call.query.answerFrom found.1
  left : call.left = (found.map (·.2)).toOption.getD call.kept

theorem Call.Follows.course {found : Outcome (CatalogIndex × IndexCache)}
    (follows : call.Follows lifetime found) : call.Course lifetime := by
  obtain ⟨search, answer, left⟩ := follows
  generalize events_eq : call.events = events at search
  cases search with
  | recalled found young =>
      have whole : results call.events = ([] : List Failure).map .error := by rw [events_eq]; rfl
      refine .recalled found ?_ (failure?_of_failures whole) (fetches_of_failures whole) answer left
      rwa [begun_eq events_eq]
  | homeless now failure =>
      have whole : results call.events = [failure].map .error := by rw [events_eq]; rfl
      exact .failed (failure?_of_failures whole) (fetches_of_failures whole) answer left
  | @failed now storage started events _ failure downloads fails =>
      obtain ⟨failures, results_eq⟩ := downloads.results_eq
      have whole : results call.events = (failures ++ [failure]).map .error := by
        rw [events_eq, List.map_append, List.map_singleton, ← fails, ← results_eq]
        rfl
      have fails := (failure?_of_failures whole).trans List.getLast?_concat
      exact .failed fails (fetches_of_failures whole) answer left
  | @fetched now storage started events _ index fetched old downloads brings =>
      obtain ⟨failures, results_eq⟩ := downloads.results_eq
      have whole : results call.events = failures.map .error ++ [.ok index] := by
        rw [events_eq, ← brings, ← results_eq]
        simp
      have times_eq : call.times = now :: started :: Catalogs.times events ++ [fetched] := by
        rw [times, events_eq]
        exact congrArg (now :: started :: ·) List.filterMap_append
      have ended_eq : call.ended = fetched := by
        rw [ended, times_eq, List.getLastD_concat]
      refine .fetched ?_ (failure?_of_index whole) (fetches_of_index whole) answer ?_
      · rwa [begun_eq events_eq]
      · rw [left, ended_eq]
        rfl

/-- A call is a search with an answer. It comes back where the attempts are limited and the fuel
is enough for them. -/
theorem Environs.call?_follows (environs : Environs σ) (lifetime : Rat) (backoff : Backoff)
    (query : Query) (kept : IndexCache) (state : σ) :
    (∃ call after, environs.call? lifetime backoff query kept state = some (call, after) ∧
      call.query = query ∧ call.kept = kept ∧ ∃ found, call.Follows lifetime found) ∨
    environs.call? lifetime backoff query kept state = none ∧
      (backoff.maxAttempts = 0 ∨ backoff.fuel + 1 < backoff.maxAttempts) := by
  rcases environs.plays_index lifetime backoff query.catalog kept state with
    ⟨events, found, after, plays, search⟩ | ⟨⟨events, after, plays⟩, further⟩
  · have answers : environs.Plays (chartName lifetime backoff query.catalog query.app
        query.version kept) state events (.ok (some (found.bind fun found =>
          query.answerFrom found.1, (found.map (·.2)).toOption.getD kept))) after := by
      refine plays.attempt.bind_done ?_
      rcases found with failure | ⟨index, cache⟩
      · rfl
      · dsimp only [Except.map, Except.bind, Query.answerFrom]
        cases index.chart? query.app query.version <;> rfl
    rw [Environs.call?]
    simp only [answers.run, answers.events]
    exact .inl ⟨_, after, rfl, rfl, rfl, found, search, rfl, rfl⟩
  · have unended : environs.Plays (chartName lifetime backoff query.catalog query.app query.version
        kept) state events (.ok none) after := plays.attempt.bind_done rfl
    rw [Environs.call?]
    simp only [unended.run]
    exact .inr ⟨trivial, further⟩

/-- Calls come back for the first of the queries, and for all where the attempts of a download
are limited and the fuel is enough for them. -/
theorem Environs.map_query_session (environs : Environs σ) (lifetime : Rat) (backoff : Backoff)
    (queries : List Query) (kept : IndexCache) (state : σ) :
    (environs.session lifetime backoff queries kept state).map Call.query <+: queries ∧
      (0 < backoff.maxAttempts → backoff.maxAttempts ≤ backoff.fuel + 1 →
        (environs.session lifetime backoff queries kept state).map Call.query = queries) := by
  induction queries generalizing kept state with
  | nil => exact ⟨List.prefix_refl _, fun _ _ => rfl⟩
  | cons query rest ih =>
      rw [Environs.session]
      rcases environs.call?_follows lifetime backoff query kept state with
        ⟨call, after, called, rfl, -⟩ | ⟨called, further⟩
      · rw [called, List.map_cons]
        obtain ⟨early, whole⟩ := ih call.left after
        exact ⟨(List.prefix_cons_inj _).mpr early, fun limited enough =>
          congrArg (call.query :: ·) (whole limited enough)⟩
      · rw [called]
        exact ⟨List.nil_prefix, fun limited enough => by omega⟩

/-- Every call begins with a look at the clock. -/
theorem Call.Follows.times_ne_nil {found : Outcome (CatalogIndex × IndexCache)}
    (follows : call.Follows lifetime found) : call.times ≠ [] := by
  obtain ⟨search, -, -⟩ := follows
  rw [times]
  generalize call.events = events at search
  cases search <;> exact List.cons_ne_nil _ _

/-! ## All calls -/

variable {calls : List Call} {cache : IndexCache} {catalog : String} {fetch : Fetch}

namespace Call

theorem begun_mem (timed : call.times ≠ []) : call.begun ∈ call.times := by
  obtain ⟨first, rest, times_eq⟩ := List.exists_cons_of_ne_nil timed
  rw [begun, times_eq]
  exact List.mem_cons_self

theorem ended_mem (timed : call.times ≠ []) : call.ended ∈ call.times := by
  rw [ended, List.getLastD_eq_getLast?, List.getLast?_eq_some_getLast timed]
  exact List.getLast_mem timed

theorem begun_le_ended (timed : call.times ≠ []) (inOrder : call.times.Pairwise (· ≤ ·)) :
    call.begun ≤ call.ended := by
  have inside := ended_mem timed
  obtain ⟨first, rest, times_eq⟩ := List.exists_cons_of_ne_nil timed
  rw [times_eq] at inside inOrder
  rw [begun, times_eq, List.headD_cons]
  rcases List.mem_cons.mp inside with same | later
  · exact same ▸ Rat.le_refl
  · exact List.rel_of_pairwise_cons inOrder later

theorem ended_of_mem_fetches (inside : fetch ∈ call.fetches) : fetch.ended = call.ended := by
  obtain ⟨index, _, rfl⟩ := List.mem_map.mp inside
  rfl

end Call

theorem fetchesOf_append (catalog : String) (early late : List Call) :
    fetchesOf catalog (early ++ late) = fetchesOf catalog early ++ fetchesOf catalog late := by
  rw [fetchesOf, List.flatMap_append, List.filter_append]
  rfl

theorem mem_fetchesOf_iff :
    fetch ∈ fetchesOf catalog calls ↔
      (∃ call ∈ calls, fetch ∈ call.fetches) ∧ fetch.catalog = catalog := by
  simp [fetchesOf]

theorem fetchesOf_of_noFetch (noFetch : call.fetches = []) (catalog : String) :
    fetchesOf catalog (calls ++ [call]) = fetchesOf catalog calls := by
  rw [fetchesOf_append, fetchesOf, fetchesOf, List.flatMap_singleton, noFetch, List.filter_nil,
    List.append_nil]

theorem fetchesOf_of_fetch {index : CatalogIndex} (fetches : call.fetches = [call.fetchOf index])
    (catalog : String) :
    fetchesOf catalog (calls ++ [call]) =
      if catalog = call.query.catalog then fetchesOf catalog calls ++ [call.fetchOf index]
      else fetchesOf catalog calls := by
  rw [fetchesOf_append]
  by_cases same : catalog = call.query.catalog
  · simp [fetchesOf, fetches, same, Call.fetchOf]
  · simp [fetchesOf, fetches, same, Ne.symm same, Call.fetchOf]

/-- What was fetched in earlier calls was there before the next call began. -/
theorem InOrder.ended_le_begun (inOrder : InOrder (calls ++ [call]))
    (timed : ∀ earlier ∈ calls, earlier.times ≠ []) (begins : call.times ≠ [])
    (catalog : String) : ∀ fetch ∈ fetchesOf catalog calls, fetch.ended ≤ call.begun := by
  intro fetch inside
  obtain ⟨⟨source, earlier, fetched⟩, -⟩ := mem_fetchesOf_iff.mp inside
  rw [Call.ended_of_mem_fetches fetched]
  rw [InOrder, List.flatMap_append, List.flatMap_singleton, List.pairwise_append] at inOrder
  refine inOrder.2.2 source.ended ?_ call.begun (Call.begun_mem begins)
  exact List.mem_flatMap_of_mem earlier (Call.ended_mem (timed source earlier))

/-- A cached index is that of the last fetch. -/
theorem Reflects.last {entry : Rat × CatalogIndex} (reflects : Reflects cache calls)
    (found : cache.find? catalog = some entry) :
    ∃ fetch, (fetchesOf catalog calls).getLast? = some fetch ∧ fetch.entry = entry := by
  rw [reflects catalog, Option.map_eq_some_iff] at found
  exact found

theorem Call.Course.reflects (course : call.Course lifetime)
    (reflects : Reflects call.kept calls) : Reflects call.left (calls ++ [call]) := by
  intro catalog
  cases course with
  | recalled _ _ _ noFetch _ left | failed _ noFetch _ left =>
      rw [left, fetchesOf_of_noFetch noFetch]
      exact reflects catalog
  | fetched _ _ fetches _ left =>
      rw [left, fetchesOf_of_fetch fetches, Table.find?_insert]
      split
      · rw [List.getLast?_concat]
        rfl
      · exact reflects catalog

theorem Call.Course.explained (course : call.Course lifetime)
    (own : ∀ event ∈ call.events, event.BelongsTo call.query.catalog call.events)
    (reflects : Reflects call.kept calls)
    (past : ∀ fetch ∈ fetchesOf call.query.catalog calls, fetch.ended ≤ call.begun) :
    call.Explained lifetime calls := by
  refine ⟨own, ?_, ?_, reflects, course.reflects reflects⟩
  · intro succeeds
    cases course with
    | recalled found young _ _ answer _ =>
        obtain ⟨fetch, last, rfl⟩ := reflects.last found
        have inside := List.mem_of_getLast? last
        refine ⟨fetch, ?_, answer, .inr ⟨past fetch inside, young⟩⟩
        rw [fetchesOf_append]
        exact List.mem_append_left _ inside
    | failed fails => cases succeeds.symm.trans fails
    | @fetched index _ _ fetches answer _ =>
        refine ⟨call.fetchOf index, ?_, answer, .inl ?_⟩
        · rw [fetchesOf_of_fetch fetches, if_pos rfl]
          exact List.mem_concat_self
        · rw [fetches]
          exact List.mem_singleton_self _
  · intro failure fails
    cases course with
    | recalled _ _ noFailure | fetched _ noFailure => cases noFailure.symm.trans fails
    | failed same noFetch answer left =>
        cases same.symm.trans fails
        exact ⟨noFetch, left, answer⟩

theorem Apart.ended_le_last {fetches : List Fetch} {last : Fetch} (apart : Apart lifetime fetches)
    (last_eq : fetches.getLast? = some last) : ∀ fetch ∈ fetches, fetch.ended ≤ last.ended := by
  obtain ⟨init, rfl⟩ := List.getLast?_eq_some_iff.mp last_eq
  intro fetch inside
  rcases List.mem_append.mp inside with early | same
  · exact ((List.pairwise_append.mp apart).2.2 fetch early last (List.mem_singleton_self _)).1
  · exact List.mem_singleton.mp same ▸ Rat.le_refl

theorem Call.Course.apart (course : call.Course lifetime)
    (reflects : Reflects call.kept calls) (apart : Apart lifetime (fetchesOf catalog calls))
    (past : ∀ fetch ∈ fetchesOf call.query.catalog calls, fetch.ended ≤ call.begun)
    (forward : call.begun ≤ call.ended) :
    Apart lifetime (fetchesOf catalog (calls ++ [call])) := by
  cases course with
  | recalled _ _ _ noFetch | failed _ noFetch =>
      rw [fetchesOf_of_noFetch noFetch]
      exact apart
  | fetched old _ fetches =>
      rw [fetchesOf_of_fetch fetches]
      split
      · rename_i same
        subst same
        refine List.pairwise_append.mpr ⟨apart, List.pairwise_singleton _ _, ?_⟩
        intro first inside second same
        rw [List.mem_singleton.mp same]
        refine ⟨Rat.le_trans (past first inside) forward, ?_⟩
        obtain ⟨last, last_eq⟩ : ∃ last,
            (fetchesOf call.query.catalog calls).getLast? = some last := by
          rw [← Option.isSome_iff_exists, List.getLast?_isSome]
          exact List.ne_nil_of_mem inside
        have kept : call.kept.find? call.query.catalog = some last.entry := by
          rw [reflects, last_eq]
          rfl
        -- the cache holds the last fetch, which was too old, and the first one ended before it
        have before := apart.ended_le_last last_eq first inside
        have long : lifetime ≤ call.begun - last.ended := old _ kept
        change lifetime ≤ call.begun - first.ended
        grind
      · exact apart

/-- What holds after some calls, with the cache that they left. -/
structure Sound (lifetime : Rat) (calls : List Call) (cache : IndexCache) : Prop where
  timed : ∀ call ∈ calls, call.times ≠ []
  reflects : Reflects cache calls
  explained : ∀ earlier call, earlier ++ [call] <+: calls → call.Explained lifetime earlier
  apart : ∀ catalog, Apart lifetime (fetchesOf catalog calls)

theorem Sound.nil (lifetime : Rat) : Sound lifetime [] ∅ where
  timed := by simp
  reflects _ := rfl
  explained earlier call begins := by simp at begins
  apart _ := List.Pairwise.nil

/-- One more call, if the clock has not gone back. -/
theorem Sound.step (sound : Sound lifetime calls call.kept)
    {found : Outcome (CatalogIndex × IndexCache)} (follows : call.Follows lifetime found)
    (inOrder : InOrder (calls ++ [call])) :
    Sound lifetime (calls ++ [call]) call.left := by
  have timed := follows.times_ne_nil
  have past := inOrder.ended_le_begun sound.timed timed
  constructor
  · exact List.forall_mem_append.mpr ⟨sound.timed, List.forall_mem_singleton.mpr timed⟩
  · exact follows.course.reflects sound.reflects
  · intro earlier other begins
    rcases List.prefix_concat_iff.mp begins with same | begins
    · obtain ⟨rfl, call_eq⟩ := List.append_inj' same rfl
      obtain rfl := List.singleton_inj.mp call_eq
      exact follows.course.explained follows.search.belongs sound.reflects (past _)
    · exact sound.explained earlier other begins
  · intro catalog
    have forward : call.begun ≤ call.ended := by
      rw [InOrder, List.flatMap_append, List.flatMap_singleton, List.pairwise_append] at inOrder
      exact Call.begun_le_ended timed inOrder.2.1
    exact follows.course.apart sound.reflects (sound.apart catalog) (past _) forward

/-- Any number of calls more. -/
theorem Sound.session (environs : Environs σ) (queries : List Query) {kept : IndexCache}
    (sound : Sound lifetime calls kept) (state : σ)
    (inOrder : InOrder (calls ++ environs.session lifetime backoff queries kept state)) :
    ∃ cache, Sound lifetime
      (calls ++ environs.session lifetime backoff queries kept state) cache := by
  induction queries generalizing calls kept state with
  | nil =>
      rw [Environs.session, List.append_nil]
      exact ⟨kept, sound⟩
  | cons query rest ih =>
      rw [Environs.session] at inOrder ⊢
      rcases environs.call?_follows lifetime backoff query kept state with
        ⟨call, after, called, -, rfl, found, follows⟩ | ⟨called, -⟩
      · simp only [called] at inOrder ⊢
        rw [List.append_cons] at inOrder ⊢
        have begins : InOrder (calls ++ [call]) := by
          rw [InOrder, List.flatMap_append] at inOrder
          exact (List.pairwise_append.mp inOrder).1
        exact ih (sound.step follows begins) after inOrder
      · simp only [called, List.append_nil]
        exact ⟨kept, sound⟩

/-- Answers come from indexes of the catalog asked for that were fetched in the call or less
than a lifetime before it, and a catalog is fetched again only after a lifetime. A call that
fails is answered with its failure and leaves every index as it was. Every call comes back where
the attempts of a download are limited, on enough fuel; otherwise the calls up to the first that
does not are meant. -/
theorem session_explained (environs : Environs σ) (lifetime : Rat) (backoff : Backoff)
    (queries : List Query) (state : σ)
    (inOrder : InOrder (environs.session lifetime backoff queries ∅ state)) :
    (environs.session lifetime backoff queries ∅ state).map Call.query <+: queries ∧
      (0 < backoff.maxAttempts → backoff.maxAttempts ≤ backoff.fuel + 1 →
        (environs.session lifetime backoff queries ∅ state).map Call.query = queries) ∧
      (∀ earlier call, earlier ++ [call] <+: environs.session lifetime backoff queries ∅ state →
        call.Explained lifetime earlier) ∧
      ∀ catalog,
        Apart lifetime (fetchesOf catalog (environs.session lifetime backoff queries ∅ state)) := by
  obtain ⟨cache, sound⟩ := (Sound.nil lifetime).session environs queries state inOrder
  obtain ⟨first, all⟩ := environs.map_query_session lifetime backoff queries ∅ state
  exact ⟨first, all, sound.explained, sound.apart⟩

/-- Times and answers that are still to come. -/
structure Script where
  times : List Rat
  replies : List WebReply

/-- Surroundings that follow a script and have one catalog. -/
def Script.environs : Environs Script where
  storageUrl catalog script :=
    (if catalog = "default" then .ok "https://charts.example/default/"
      else .error (.notFound "AppCatalog" catalog), script)
  download url script :=
    match script.replies with
    | reply :: rest => (.ok reply, { script with replies := rest })
    | [] => (.error (.transport s!"{url} cannot be reached"), script)
  now script :=
    match script.times with
    | time :: rest => (time, { script with times := rest })
    | [] => (0, script)
  jitter script := (1, script)
  pause _ script := script

/-- An index that lists one version of a chart. -/
def indexWith (version : String) : List UInt8 :=
  s!"entries:\n  coredns:\n  - name: coredns\n    version: {version}\n".toUTF8.toList

/-- A download that is refused at first, a kept index that lacks a version, a catalog that is
not there, and a kept index just before and just after it is too old. -/
def renewal : List Call :=
  Script.environs.session usualLifetime Backoff.catalogIndex
    [⟨"default", "coredns", "1.0.0"⟩, ⟨"default", "coredns", "2.0.0"⟩,
      ⟨"other", "coredns", "1.0.0"⟩, ⟨"default", "coredns", "1.0.0"⟩,
      ⟨"default", "coredns", "2.0.0"⟩] ∅
    { times := [0, 0, 1, 2, 300, 301, 601, 602, 602, 603]
      replies := [⟨503, []⟩, ⟨200, indexWith "1.0.0"⟩, ⟨200, indexWith "2.0.0"⟩] }

/-- The catalog is fetched twice, and the new version is found with the second index. -/
theorem session_explained_renewal : InOrder renewal ∧
    renewal.map Call.answer =
      [.ok "coredns", .error (.notFound "chart" "coredns@2.0.0 in catalog default"),
        .error (.notFound "AppCatalog" "other"), .ok "coredns", .ok "coredns"] ∧
    (fetchesOf "default" renewal).map (fun fetch => (fetch.begun, fetch.ended)) =
      [(0, 2), (602, 603)] ∧
    Apart usualLifetime (fetchesOf "default" renewal) := by
  have inOrder : InOrder renewal := by decide +kernel
  have explained := session_explained Script.environs usualLifetime Backoff.catalogIndex _ _ inOrder
  exact ⟨inOrder, by decide +kernel, by decide +kernel, explained.2.2.2 "default"⟩

end PlatformApps.Catalogs
