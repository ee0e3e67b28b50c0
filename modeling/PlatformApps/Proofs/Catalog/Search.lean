/-
# What the search for an index asks for

Storages and web servers answer as they like, from a state of their own; only the clock, chance
and pauses do not fail. Of what a search asks, the look-ups, the downloads and the readings of
the clock are kept as events. A repeated download is a row of failures that ends with a document
or with the last of the failures, unless its fuel is used up, which takes more attempts than the
settings allow wherever they limit them.
-/

import PlatformApps.Catalog.Charts
import PlatformApps.Proofs.Backoff

namespace PlatformApps.Catalogs

/-- What answers the questions about catalogs. -/
structure Environs (σ : Type) where
  storageUrl (catalog : String) : σ → Outcome String × σ
  download (url : String) : σ → Outcome WebReply × σ
  now : σ → Rat × σ
  jitter : σ → Rat × σ
  pause (seconds : Rat) : σ → σ

inductive Event where
  | lookUp (catalog : String) (storage : Outcome String)
  | download (url : String) (reply : Outcome WebReply)
  | reading (time : Rat)

/-- The document that a server gives; a refusal is a failure. -/
def served (url : String) (reply : Outcome WebReply) : Outcome (List UInt8) :=
  reply.bind fun reply =>
    if 400 ≤ reply.status ∧ reply.status < 600 then
      .error (.transport s!"{url} answered with status {reply.status}")
    else .ok reply.body

/-- The index that a document holds. -/
def parsed (bytes : List UInt8) : Outcome CatalogIndex :=
  match (Text.Utf8.decode? bytes).bind CatalogIndex.reader.read? with
  | some index => .ok index
  | none => .error (.yaml "the index cannot be read")

namespace Event

/-- What an event brings for the search: an index, or a failure. -/
def result? : Event → Option (Outcome CatalogIndex)
  | .lookUp _ (.error failure) => some (.error failure)
  | .lookUp _ (.ok _) | .reading _ => none
  | .download url reply => some ((served url reply).bind parsed)

def time? : Event → Option Rat
  | .reading time => some time
  | .lookUp .. | .download .. => none

end Event

/-- What events bring for the search, in order. -/
def results (events : List Event) : List (Outcome CatalogIndex) := events.filterMap Event.result?

/-- The readings of the clock, in order. -/
def times (events : List Event) : List Rat := events.filterMap Event.time?

variable {α β σ : Type} {backoff : Backoff} {url : String}

@[simp] theorem results_nil : results [] = [] := rfl

@[simp] theorem results_reading (time : Rat) (events : List Event) :
    results (.reading time :: events) = results events := rfl

@[simp] theorem results_lookUp_ok (catalog storage : String) (events : List Event) :
    results (.lookUp catalog (.ok storage) :: events) = results events := rfl

@[simp] theorem results_lookUp_error (catalog : String) (failure : Failure)
    (events : List Event) :
    results (.lookUp catalog (.error failure) :: events) = .error failure :: results events := rfl

@[simp] theorem results_download (url : String) (reply : Outcome WebReply)
    (events : List Event) :
    results (.download url reply :: events) =
      (served url reply).bind parsed :: results events := rfl

@[simp] theorem results_append (early late : List Event) :
    results (early ++ late) = results early ++ results late := List.filterMap_append

/-! ## Playing a search -/

namespace Environs

def handle (environs : Environs σ) : Interface.Handler Catalogs σ
  | .storageUrl catalog, state => environs.storageUrl catalog state
  | .download url, state => environs.download url state
  | .now, state => (.ok (environs.now state).1, (environs.now state).2)
  | .jitter, state => (.ok (environs.jitter state).1, (environs.jitter state).2)
  | .pause seconds, state => (.ok (), environs.pause seconds state)

def event? (environs : Environs σ) : CatalogRequest × σ → Option Event
  | (.storageUrl catalog, state) => some (.lookUp catalog (environs.storageUrl catalog state).1)
  | (.download url, state) => some (.download url (environs.download url state).1)
  | (.now, state) => some (.reading (environs.now state).1)
  | (.jitter, _) | (.pause _, _) => none

/-- The events of a search, in order. -/
def events (environs : Environs σ) (search : Dialogue Catalogs α) (state : σ) : List Event :=
  (search.moments environs.handle state).filterMap environs.event?

/-- A search meets these events and ends in this way. -/
structure Plays (environs : Environs σ) (search : Dialogue Catalogs α) (state : σ)
    (events : List Event) (outcome : Outcome α) (after : σ) : Prop where
  run : search.run environs.handle state = (outcome, after)
  events : environs.events search state = events

namespace Plays

variable {environs : Environs σ} {state between after : σ} {early late : List Event}
  {first : Dialogue Catalogs α} {value : α} {outcome : Outcome α}

theorem done (environs : Environs σ) (outcome : Outcome α) (state : σ) :
    environs.Plays (.done outcome) state [] outcome state := ⟨rfl, rfl⟩

theorem bind {next : α → Dialogue Catalogs β} {result : Outcome β}
    (begins : environs.Plays first state early (.ok value) between)
    (goesOn : environs.Plays (next value) between late result after) :
    environs.Plays (first.bind next) state (early ++ late) result after where
  run := (Dialogue.run_bind_of_ok begins.run next).trans goesOn.run
  events := by
    rw [Environs.events, Dialogue.moments_bind, begins.run, List.filterMap_append]
    exact begins.events ▸ goesOn.events ▸ rfl

theorem bind_done {next : α → Dialogue Catalogs β} {result : Outcome β}
    (begins : environs.Plays first state early (.ok value) after)
    (ends : next value = .done result) :
    environs.Plays (first.bind next) state early result after := by
  rw [← List.append_nil early]
  refine begins.bind ?_
  rw [ends]
  exact done environs result after

theorem bind_error {failure : Failure} {next : α → Dialogue Catalogs β}
    (plays : environs.Plays first state early (.error failure) after) :
    environs.Plays (first.bind next) state early (.error failure) after where
  run := by rw [Dialogue.run_bind, plays.run]
  events := by
    rw [Environs.events, Dialogue.moments_bind, plays.run, List.append_nil]
    exact plays.events

theorem attempt (plays : environs.Plays first state early outcome after) :
    environs.Plays first.attempt state early (.ok outcome) after where
  run := by rw [Dialogue.run_attempt, plays.run]
  events := by
    rw [Environs.events, Dialogue.moments_attempt]
    exact plays.events

theorem reading {now : Rat} {next : Rat → Dialogue Catalogs α}
    (looked : environs.now state = (now, between))
    (plays : environs.Plays (next now) between late outcome after) :
    environs.Plays (clock.now.bind next) state (.reading now :: late) outcome after := by
  obtain ⟨rfl, rfl⟩ := Prod.ext_iff.mp looked
  exact ⟨plays.run, congrArg (Event.reading (environs.now state).1 :: ·) plays.events⟩

theorem lookUp {catalog : String} {storage : Outcome String}
    {next : Outcome String → Dialogue Catalogs α}
    (found : environs.storageUrl catalog state = (storage, between))
    (plays : environs.Plays (next storage) between late outcome after) :
    environs.Plays (.ask (CatalogRequest.storageUrl catalog) next) state
      (.lookUp catalog storage :: late) outcome after where
  run := by
    rw [Dialogue.run_ask_of_answer found]
    exact plays.run
  events := by
    have asked : environs.event? (.storageUrl catalog, state) = some (.lookUp catalog storage) := by
      rw [event?, found]
    rw [Environs.events, Dialogue.moments, List.filterMap_cons_some asked]
    refine congrArg (Event.lookUp catalog storage :: ·) ?_
    rw [handle, found]
    exact plays.events

theorem jitter {next : Rat → Dialogue Catalogs α}
    (plays : environs.Plays (next (environs.jitter state).1) (environs.jitter state).2 late
      outcome after) :
    environs.Plays (clock.jitter.bind next) state late outcome after :=
  ⟨plays.run, plays.events⟩

theorem pause {seconds : Rat} {next : Unit → Dialogue Catalogs α}
    (plays : environs.Plays (next ()) (environs.pause seconds state) late outcome after) :
    environs.Plays ((clock.pause seconds).bind next) state late outcome after :=
  ⟨plays.run, plays.events⟩

end Plays

theorem plays_body (environs : Environs σ) (url : String) (state : σ) :
    environs.Plays (body url) state [.download url (environs.download url state).1]
      (served url (environs.download url state).1) (environs.download url state).2 := by
  have body_eq : body url = .ask (CatalogRequest.download url) fun reply =>
      .done (served url reply) := by
    rw [body]
    congr 1
    funext reply
    rcases reply with failure | reply
    · rfl
    · exact (apply_ite Dialogue.done _ _ _).symm
  rw [body_eq]
  exact ⟨rfl, rfl⟩

end Environs

/-! ## Downloading repeatedly -/

/-- The downloads of a repetition that ends. -/
inductive Downloads (url : String) : List Event → Outcome (List UInt8) → Prop where
  | served {reply : Outcome WebReply} {bytes : List UInt8} (good : served url reply = .ok bytes) :
      Downloads url [.download url reply] (.ok bytes)
  | exhausted {reply : Outcome WebReply} {failure : Failure}
      (bad : Catalogs.served url reply = .error failure) (time : Rat) :
      Downloads url [.download url reply, .reading time] (.error failure)
  | again {reply : Outcome WebReply} {failure : Failure} {rest : List Event}
      {result : Outcome (List UInt8)} (bad : Catalogs.served url reply = .error failure)
      (time : Rat) (goesOn : Downloads url rest result) :
      Downloads url (.download url reply :: .reading time :: rest) result

namespace Downloads

variable {events : List Event} {result : Outcome (List UInt8)}

/-- All downloads but the last one fail, and what the last one brings is what comes out. -/
theorem results_eq (downloads : Downloads url events result) :
    ∃ failures : List Failure,
      results events = failures.map .error ++ [result.bind parsed] := by
  induction downloads with
  | served good => exact ⟨[], by simp [good]⟩
  | exhausted bad time => exact ⟨[], by simp [bad]⟩
  | @again _ failure _ _ bad time _ ih =>
      obtain ⟨failures, results_eq⟩ := ih
      exact ⟨failure :: failures, by simp [bad, results_eq, Except.bind]⟩

/-- Nothing is asked for but the document and the time. -/
theorem eq_download_or_reading (downloads : Downloads url events result) :
    ∀ event ∈ events, (∃ reply, event = .download url reply) ∨ ∃ time, event = .reading time := by
  induction downloads with
  | served => simp
  | exhausted => simp
  | again _ _ _ ih => simpa using ih

end Downloads

/-- A repetition makes such a row of downloads, unless its fuel is used up while the settings let
it go on. -/
theorem Environs.plays_attempts (environs : Environs σ) (started : Rat) {attempt : Nat}
    (allowed : backoff.maxAttempts = 0 ∨ attempt ≤ backoff.maxAttempts) (fuel : Nat) (delay : Rat)
    (state : σ) :
    (∃ events result after,
      environs.Plays (backoff.attempts clock (body url) started fuel attempt delay) state events
        (result.map some) after ∧ Downloads url events result) ∨
    (∃ events after,
      environs.Plays (backoff.attempts clock (body url) started fuel attempt delay) state events
        (.ok none) after) ∧
      (backoff.maxAttempts = 0 ∨ attempt + fuel ≤ backoff.maxAttempts) := by
  induction fuel generalizing attempt delay state with
  | zero => exact .inr ⟨⟨[], state, .done environs _ state⟩, allowed⟩
  | succ fuel ih =>
      have tried := (environs.plays_body url state).attempt
      rcases reply_eq : served url (environs.download url state).1 with failure | bytes
      · rw [reply_eq] at tried
        obtain ⟨now, looked, now_eq⟩ : ∃ now looked,
            environs.now (environs.download url state).2 = (now, looked) := ⟨_, _, rfl⟩
        by_cases isOver : backoff.isExhausted attempt (now - started) = true
        · refine .inl ⟨_, .error failure, looked, tried.bind (.reading now_eq ?_),
            .exhausted reply_eq now⟩
          rw [if_pos isOver]
          exact .done environs _ _
        · have attemptsLeft :=
            (Backoff.isExhausted_eq_false_iff.mp (Bool.not_eq_true _ ▸ isOver)).1
          -- what comes of the attempts from the next one on comes of these too
          have goesOn {events : List Event} {outcome : Outcome (Option (List UInt8))} {after : σ}
              (plays : environs.Plays (backoff.attempts clock (body url) started fuel (attempt + 1)
                (backoff.nextDelay delay))
                (environs.pause (delay * (environs.jitter looked).1) (environs.jitter looked).2)
                events outcome after) :
              environs.Plays (backoff.attempts clock (body url) started (fuel + 1) attempt delay)
                state (.download url (environs.download url state).1 :: .reading now :: events)
                outcome after := by
            refine tried.bind (.reading now_eq ?_)
            rw [if_neg isOver]
            exact .jitter (.pause plays)
          have allowedNext : backoff.maxAttempts = 0 ∨ attempt + 1 ≤ backoff.maxAttempts := by omega
          rcases ih allowedNext _ _ with ⟨events, result, after, plays, downloads⟩ |
            ⟨⟨events, after, plays⟩, further⟩
          · exact .inl ⟨_, result, after, goesOn plays, .again reply_eq now downloads⟩
          · exact .inr ⟨⟨_, after, goesOn plays⟩, by omega⟩
      · rw [reply_eq] at tried
        exact .inl ⟨_, .ok bytes, _, tried.bind_done rfl, .served reply_eq⟩

/-- An index is fetched by such a row of downloads, and by reading what it brings. -/
theorem Environs.plays_fetchIndex (environs : Environs σ) (backoff : Backoff) (storage : String)
    (state : σ) :
    (∃ started events result after,
      environs.Plays (fetchIndex backoff storage) state (.reading started :: events)
        ((result.bind parsed).map some) after ∧ Downloads (indexUrl storage) events result) ∨
    (∃ events after, environs.Plays (fetchIndex backoff storage) state events (.ok none) after) ∧
      (backoff.maxAttempts = 0 ∨ backoff.fuel + 1 < backoff.maxAttempts) := by
  -- the clock is read before the attempts
  have repeated {events : List Event} {outcome : Outcome (Option (List UInt8))} {after : σ}
      (plays : environs.Plays (backoff.attempts clock (body (indexUrl storage))
        (environs.now state).1 (backoff.fuel + 1) 1 backoff.initialDelay) (environs.now state).2
        events outcome after) :
      environs.Plays (backoff.repeatWithin (backoff.fuel + 1) clock (body (indexUrl storage)))
        state (.reading (environs.now state).1 :: events) outcome after :=
    .reading rfl plays
  rcases environs.plays_attempts (environs.now state).1 (Nat.eq_zero_or_pos backoff.maxAttempts)
      (backoff.fuel + 1) backoff.initialDelay (environs.now state).2 with
    ⟨events, failure | bytes, after, plays, downloads⟩ | ⟨⟨events, after, plays⟩, further⟩
  · exact .inl ⟨_, events, .error failure, after, (repeated plays).bind_error, downloads⟩
  · refine .inl ⟨_, events, .ok bytes, after, (repeated plays).bind_done ?_, downloads⟩
    simp only [Except.bind, parsed]
    cases (Text.Utf8.decode? bytes).bind CatalogIndex.reader.read? <;> rfl
  · exact .inr ⟨⟨_, after, (repeated plays).bind_done rfl⟩, by omega⟩

/-! ## The whole search -/

/-- How the index of a catalog is found, or not, with the indexes kept from then on. -/
inductive Search (lifetime : Rat) (catalog : String) (kept : IndexCache) :
    List Event → Outcome (CatalogIndex × IndexCache) → Prop where
  | recalled {now : Rat} {entry : Rat × CatalogIndex} (found : kept.find? catalog = some entry)
      (young : now - entry.1 < lifetime) :
      Search lifetime catalog kept [.reading now] (.ok (entry.2, kept))
  | homeless (now : Rat) (failure : Failure) :
      Search lifetime catalog kept [.reading now, .lookUp catalog (.error failure)]
        (.error failure)
  | failed (now : Rat) {storage : String} (started : Rat) {events : List Event}
      {result : Outcome (List UInt8)} {failure : Failure}
      (downloads : Downloads (indexUrl storage) events result)
      (fails : result.bind parsed = .error failure) :
      Search lifetime catalog kept
        (.reading now :: .lookUp catalog (.ok storage) :: .reading started :: events)
        (.error failure)
  | fetched {now : Rat} {storage : String} (started : Rat) {events : List Event}
      {result : Outcome (List UInt8)} {index : CatalogIndex} (fetched : Rat)
      (old : ∀ entry ∈ kept.find? catalog, lifetime ≤ now - entry.1)
      (downloads : Downloads (indexUrl storage) events result)
      (brings : result.bind parsed = .ok index) :
      Search lifetime catalog kept
        (.reading now :: .lookUp catalog (.ok storage) :: .reading started ::
          (events ++ [.reading fetched]))
        (.ok (index, kept.insert catalog (fetched, index)))

/-- Only one catalog is looked up, and only the index in its storage is downloaded. -/
def Event.BelongsTo (catalog : String) (events : List Event) : Event → Prop
  | .lookUp asked _ => asked = catalog
  | .download url _ => ∃ storage, .lookUp catalog (.ok storage) ∈ events ∧ url = indexUrl storage
  | .reading _ => True

theorem Downloads.belongs {storage catalog : String} {events whole : List Event}
    {result : Outcome (List UInt8)} (downloads : Downloads (indexUrl storage) events result)
    (found : .lookUp catalog (.ok storage) ∈ whole) :
    ∀ event ∈ events, event.BelongsTo catalog whole := by
  intro event inside
  obtain ⟨reply, rfl⟩ | ⟨time, rfl⟩ := downloads.eq_download_or_reading event inside
  · exact ⟨storage, found, rfl⟩
  · trivial

theorem Search.belongs {lifetime : Rat} {catalog : String} {kept : IndexCache}
    {events : List Event} {found : Outcome (CatalogIndex × IndexCache)}
    (search : Search lifetime catalog kept events found) :
    ∀ event ∈ events, event.BelongsTo catalog events := by
  cases search with
  | recalled => simp [Event.BelongsTo]
  | homeless => simp [Event.BelongsTo]
  | failed _ _ downloads =>
      rw [List.forall_mem_cons, List.forall_mem_cons, List.forall_mem_cons]
      refine ⟨trivial, rfl, trivial, downloads.belongs ?_⟩
      simp
  | fetched _ _ _ downloads =>
      rw [List.forall_mem_cons, List.forall_mem_cons, List.forall_mem_cons,
        List.forall_mem_append, List.forall_mem_singleton]
      refine ⟨trivial, rfl, trivial, downloads.belongs ?_, trivial⟩
      simp

/-- Where no kept index is young enough, a new one is searched for in one of these ways, unless the
fuel of its download is used up. -/
theorem Environs.plays_renew (environs : Environs σ) (backoff : Backoff) {lifetime now : Rat}
    {catalog : String} {kept : IndexCache}
    (old : ∀ entry ∈ kept.find? catalog, lifetime ≤ now - entry.1) (state : σ) :
    (∃ events found after,
      environs.Plays (renew backoff catalog kept) state events (found.map some) after ∧
      Search lifetime catalog kept (.reading now :: events) found) ∨
    (∃ events after, environs.Plays (renew backoff catalog kept) state events (.ok none) after) ∧
      (backoff.maxAttempts = 0 ∨ backoff.fuel + 1 < backoff.maxAttempts) := by
  rw [renew]
  simp only [Dialogue.bind_eq, Dialogue.pure_eq]
  obtain ⟨storage, between, lookUp⟩ : ∃ storage between,
    environs.storageUrl catalog state = (storage, between) := ⟨_, _, rfl⟩
  rcases storage with failure | storage
  · exact .inl ⟨_, .error failure, between, .lookUp lookUp (.done environs _ _),
      .homeless now failure⟩
  · rcases environs.plays_fetchIndex backoff storage between with
      ⟨started, events, result, after, plays, downloads⟩ | ⟨⟨events, after, plays⟩, further⟩
    · rcases brought : result.bind parsed with failure | index
      · rw [brought] at plays
        exact .inl ⟨_, .error failure, after, .lookUp lookUp plays.bind_error,
          .failed now started downloads brought⟩
      · rw [brought] at plays
        exact .inl ⟨_, .ok (index, _), (environs.now after).2,
          .lookUp lookUp (plays.bind (.reading rfl (.done environs _ _))),
          .fetched started (environs.now after).1 old downloads brought⟩
    · exact .inr ⟨⟨_, after, .lookUp lookUp (plays.bind_done rfl)⟩, further⟩

/-- Every search goes in one of these ways, unless the fuel of its download is used up. -/
theorem Environs.plays_index (environs : Environs σ) (lifetime : Rat) (backoff : Backoff)
    (catalog : String) (kept : IndexCache) (state : σ) :
    (∃ events found after,
      environs.Plays (index lifetime backoff catalog kept) state events (found.map some) after ∧
      Search lifetime catalog kept events found) ∨
    (∃ events after,
      environs.Plays (index lifetime backoff catalog kept) state events (.ok none) after) ∧
      (backoff.maxAttempts = 0 ∨ backoff.fuel + 1 < backoff.maxAttempts) := by
  rw [index]
  simp only [Dialogue.bind_eq, Dialogue.pure_eq]
  cases recalled : (kept.find? catalog).filter fun entry =>
      (environs.now state).1 - entry.1 < lifetime with
  | some entry =>
      obtain ⟨found, young⟩ := Option.filter_eq_some_iff.mp recalled
      refine .inl ⟨_, .ok (entry.2, kept), (environs.now state).2, .reading rfl ?_,
        .recalled found (of_decide_eq_true young)⟩
      rw [recalled]
      exact .done environs _ _
  | none =>
      have old : ∀ entry ∈ kept.find? catalog, lifetime ≤ (environs.now state).1 - entry.1 := by
        intro entry found
        have notYoung := Option.filter_eq_none_iff.mp recalled entry found
        exact Rat.not_lt.mp (notYoung ∘ decide_eq_true)
      rcases environs.plays_renew backoff old (environs.now state).2 with
        ⟨events, found, after, plays, search⟩ | ⟨⟨events, after, plays⟩, further⟩
      · refine .inl ⟨_, found, after, .reading rfl ?_, search⟩
        rw [recalled]
        exact plays
      · refine .inr ⟨⟨.reading (environs.now state).1 :: events, after, .reading rfl ?_⟩, further⟩
        rw [recalled]
        exact plays

end PlatformApps.Catalogs
