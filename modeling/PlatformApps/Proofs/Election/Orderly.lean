/-
# Copies that lead one after the other

As long as every change is carried out on a lease on which it is due, the lease is as the last
leader left it, and a copy leads after another one only once the lease has run out.
-/

import PlatformApps.Proofs.Election

namespace PlatformApps

open Lease Leadership

namespace Grant

variable {space : String}

theorem stale_iff {grant : Grant} :
    grant.Stale space ↔
      choice space grant.candidate grant.now (Leases.handle .read grant.met).1 ≠
        some grant.change := by
  have second (read : Outcome Lease) (lease : Option Json) :
      ((afterReading space grant.candidate grant.now read).questions Leases.handle lease)[0]? =
        choice space grant.candidate grant.now read := by
    rw [afterReading]
    cases choice space grant.candidate grant.now read <;> rfl
  rw [Stale, acquire_eq, Dialogue.questions, List.getElem?_cons_succ, second]

/-- The lease is as the copy left it that came to lead. -/
def Reflected (lease : Option Json) (grant : Grant) : Prop :=
  ∃ document ∈ lease, ∃ terms, Shows document terms ∧ terms.holder = some grant.candidate ∧
    terms.renewed = some grant.now ∧ terms.duration = some leaseSeconds

/-- A later lead of the same copy, or a lead after the lease has run out. -/
def Succeeds (later earlier : Grant) : Prop :=
  earlier.now.toMicros ≤ later.now.toMicros ∧
    (later.candidate ≠ earlier.candidate →
      earlier.now.toMicros + leaseMicros < later.now.toMicros)

theorem Succeeds.trans {last middle first : Grant} (later : last.Succeeds middle)
    (earlier : middle.Succeeds first) : last.Succeeds first := by
  have long : 0 ≤ leaseMicros := by decide
  obtain ⟨fromMiddle, afterMiddle⟩ := later
  obtain ⟨fromFirst, afterFirst⟩ := earlier
  refine ⟨by omega, fun different => ?_⟩
  by_cases same : last.candidate = middle.candidate
  · have := afterFirst (same ▸ different)
    omega
  · have := afterMiddle same
    omega

theorem Succeeds.not_overlaps {later earlier : Grant} (succeeds : later.Succeeds earlier) :
    ¬ later.Overlaps earlier ∧ ¬ earlier.Overlaps later := by
  constructor
  · rintro ⟨different, near⟩
    have := succeeds.2 different
    omega
  · rintro ⟨different, near⟩
    have := succeeds.2 (Ne.symm different)
    omega

end Grant

namespace Election

variable {space : String} {election : Election}

/-- A patch of the terms is due on the lease as it is, or another copy has come to lead since
the call began. -/
def Due (election : Election) (space candidate : String) (now : Timestamp)
    (change : LeaseTerms) : Prop :=
  choice space candidate now (Leases.handle .read election.lease).1 =
      some (.amend (amendment change)) ∨
    ∃ last ∈ election.grants.head?, last.candidate ≠ candidate ∧
      now.toMicros ≤ last.served.toMicros

/-- What a call is still to ask. -/
inductive Stands (election : Election) (space candidate : String) (now : Timestamp)
    (rest : Dialogue Leases Bool) : Prop where
  | looking (asks : rest = .ask .read (afterReading space candidate now))
  | creating (asks : rest = confirm (.create (firstLease space candidate now)))
  | amending (change : LeaseTerms) (asks : rest = confirm (.amend (amendment change)))
      (due : election.Due space candidate now change)

theorem Stands.imp {candidate : String} {now : Timestamp} {rest : Dialogue Leases Bool}
    (stands : election.Stands space candidate now rest) {after : Election}
    (due : ∀ change, election.Due space candidate now change →
      after.Due space candidate now change) :
    after.Stands space candidate now rest := by
  cases stands with
  | looking asks => exact .looking asks
  | creating asks => exact .creating asks
  | amending change asks dueBefore => exact .amending change asks (due change dueBefore)

/-- A call began after whatever its copy has come to lead by, and goes on as calls do. -/
structure Admits (election : Election) (space candidate : String) (attempt : Attempt) : Prop where
  begun : attempt.now.toMicros ≤ election.clock.toMicros
  alone : ∀ grant ∈ election.grants, grant.candidate = candidate →
    grant.served.toMicros ≤ attempt.now.toMicros
  stands : election.Stands space candidate attempt.now attempt.rest

/-- No change was stale, and so the leads follow one another. -/
structure Orderly (election : Election) (space : String) : Prop where
  canonical : ∀ document ∈ election.lease, document.Canonical
  attempts : ∀ candidate, ∀ attempt ∈ election.attempts candidate,
    election.Admits space candidate attempt
  timely : ∀ grant ∈ election.grants, grant.now.toMicros ≤ grant.served.toMicros ∧
    grant.served.toMicros ≤ election.clock.toMicros
  reflected : ∀ last ∈ election.grants.head?, last.Reflected election.lease
  succession : election.grants.Pairwise Grant.Succeeds
  due : ∀ grant ∈ election.grants, ¬ grant.Stale space

theorem Orderly.of_fresh (fresh : election.Fresh) : election.Orderly space := by
  obtain ⟨lease, attempts, grants⟩ := fresh
  constructor
  · exact lease
  · intro candidate attempt at_
    rw [attempts] at at_
    cases at_
  all_goals simp [grants]

theorem Orderly.not_twoLeaders (orderly : election.Orderly space) : ¬ election.TwoLeaders := by
  rintro ⟨first, firstIn, second, secondIn, overlap⟩
  have alone : ∀ grant ∈ election.grants, ¬ grant.Overlaps grant :=
    fun grant _ overlap => overlap.1 rfl
  have after := orderly.succession.imp fun succeeds => (Grant.Succeeds.not_overlaps succeeds).1
  have before := orderly.succession.imp fun succeeds => (Grant.Succeeds.not_overlaps succeeds).2
  exact List.Pairwise.forall_of_forall_of_flip alone after before firstIn secondIn overlap

/-! Nothing changes but what copies are at. -/

theorem Admits.stay {candidate : String} {attempt : Attempt}
    (admits : election.Admits space candidate attempt) {after : Election}
    (lease : after.lease = election.lease) (grants : after.grants = election.grants)
    (forward : election.clock.toMicros ≤ after.clock.toMicros) :
    after.Admits space candidate attempt := by
  constructor
  · exact Int.le_trans admits.begun forward
  · rw [grants]
    exact admits.alone
  · apply admits.stands.imp
    intro change due
    rw [Due, lease, grants]
    exact due

theorem Orderly.stay (orderly : election.Orderly space) (after : Election)
    (lease : after.lease = election.lease) (grants : after.grants = election.grants)
    (forward : election.clock.toMicros ≤ after.clock.toMicros)
    (attempts : ∀ candidate, ∀ attempt ∈ after.attempts candidate,
      election.Admits space candidate attempt) :
    after.Orderly space := by
  constructor
  · rw [lease]
    exact orderly.canonical
  · intro candidate attempt at_
    exact (attempts candidate attempt at_).stay lease grants forward
  · rw [grants]
    intro grant inside
    have := orderly.timely grant inside
    omega
  · rw [lease, grants]
    exact orderly.reflected
  · rw [grants]
    exact orderly.succession
  · rw [grants]
    exact orderly.due

theorem Orderly.attempting (orderly : election.Orderly space) (candidate : String)
    {attempt : Option Attempt} (admitted : ∀ next ∈ attempt, election.Admits space candidate next) :
    (election.attempting candidate attempt).Orderly space := by
  refine orderly.stay (election.attempting candidate attempt) rfl rfl (Int.le_refl _) ?_
  intro other next at_
  by_cases same : other = candidate
  · subst same
    rw [attempting_self] at at_
    exact admitted next at_
  · rw [attempting_of_ne election same] at at_
    exact orderly.attempts other next at_

theorem Orderly.idle (orderly : election.Orderly space) (candidate : String) :
    (election.attempting candidate none).Orderly space := by
  apply orderly.attempting
  intro next inside
  cases inside

theorem Orderly.begin (orderly : election.Orderly space) (candidate : String) :
    (election.attempting candidate
      (some ⟨election.clock, acquire space candidate election.clock⟩)).Orderly space := by
  apply orderly.attempting
  intro attempt same
  cases same
  exact ⟨Int.le_refl _, fun grant inside _ => (orderly.timely grant inside).2, .looking acquire_eq⟩

/-- A call goes on from what it read, or from a failure to read. -/
theorem Orderly.read (orderly : election.Orderly space) {candidate : String} {now : Timestamp}
    {rest : Dialogue Leases Bool} (admits : election.Admits space candidate ⟨now, rest⟩)
    {read : Outcome Lease}
    (seen : read = (Leases.handle .read election.lease).1 ∨ ∃ failure, read = .error failure) :
    (election.resume candidate now .read election.lease
      (afterReading space candidate now read)).Orderly space := by
  rw [afterReading]
  cases chosen : choice space candidate now read with
  | none =>
      have ends : election.resume candidate now .read election.lease
          (.done (read.map fun _ => false)) = election.attempting candidate none := by
        cases read <;> rfl
      exact ends ▸ orderly.idle candidate
  | some change =>
      apply orderly.attempting candidate
      intro attempt same
      cases same
      refine ⟨admits.begun, admits.alone, ?_⟩
      rcases choice_eq_some chosen with rfl | ⟨lease, rfl, decided⟩
      · exact .creating rfl
      · rcases seen with seen | ⟨failure, none⟩
        · rw [seen] at chosen
          rcases decided with ⟨_, rfl⟩ | ⟨_, rfl⟩
          · exact .amending _ rfl (.inl chosen)
          · exact .amending _ rfl (.inl chosen)
        · cases none

/-! A copy comes to lead. -/

theorem Orderly.succeeds (orderly : election.Orderly space) {grant : Grant}
    (next : ∀ last ∈ election.grants.head?, grant.Succeeds last) :
    ∀ earlier ∈ election.grants, grant.Succeeds earlier := by
  have succession := orderly.succession
  cases grants : election.grants with
  | nil => simp
  | cons last rest =>
      rw [grants] at next succession
      have first := next last rfl
      rw [List.forall_mem_cons]
      exact ⟨first, fun earlier inside => first.trans (List.rel_of_pairwise_cons succession inside)⟩

/-- A lead that succeeds those before keeps the order. -/
theorem Orderly.lead (orderly : election.Orderly space) {grant : Grant} {document : Json}
    (begun : grant.now.toMicros ≤ election.clock.toMicros) (served : grant.served = election.clock)
    (canonical : document.Canonical) (reflected : grant.Reflected (some document))
    (next : ∀ last ∈ election.grants.head?, grant.Succeeds last) (due : ¬ grant.Stale space) :
    (election.leading grant (some document)).Orderly space := by
  constructor
  · intro other same
    cases same
    exact canonical
  · intro other attempt at_
    by_cases same : other = grant.candidate
    · subst same
      cases (election.attempting_self grant.candidate none).symm.trans at_
    · have before : attempt ∈ election.attempts other :=
        (election.attempting_of_ne same none).symm.trans at_
      obtain ⟨otherBegun, alone, stands⟩ := orderly.attempts other attempt before
      refine ⟨otherBegun, List.forall_mem_cons.mpr ⟨?_, alone⟩, ?_⟩
      · intro own
        exact absurd own.symm same
      · exact stands.imp fun change _ => .inr ⟨grant, rfl, Ne.symm same, served ▸ otherBegun⟩
  · refine List.forall_mem_cons.mpr ⟨⟨?_, ?_⟩, orderly.timely⟩
    · rw [served]
      exact begun
    · rw [served]
      exact Int.le_refl _
  · intro last same
    cases same
    exact reflected
  · exact List.pairwise_cons.mpr ⟨orderly.succeeds next, orderly.succession⟩
  · exact List.forall_mem_cons.mpr ⟨due, orderly.due⟩

theorem Orderly.create (orderly : election.Orderly space) {candidate : String} {now : Timestamp}
    {rest : Dialogue Leases Bool} (admits : election.Admits space candidate ⟨now, rest⟩)
    {first : Lease} (same : first = firstLease space candidate now) :
    (election.resume candidate now (.create first)
      (Leases.handle (.create first) election.lease).2
      (.done ((Leases.handle (.create first) election.lease).1.map fun _ => true))).Orderly
      space := by
  cases kept : election.lease with
  | some document =>
      rw [Leases.handle, resume_failed, ← kept]
      exact orderly.idle candidate
  | none =>
      have shows : Shows first.toJson (termsOf candidate now) := by
        rw [same]
        exact Shows.ofTerms leaseName space (termsOf candidate now)
      obtain ⟨lease, answered, _⟩ := Leases.answer_of_shows shows
      rw [Leases.handle, answered, resume_confirmed]
      apply orderly.lead
      · exact admits.begun
      · rfl
      · exact shows.canonical
      · exact ⟨_, rfl, _, shows, rfl, rfl, rfl⟩
      · intro last inside
        obtain ⟨document, there, _⟩ := orderly.reflected last inside
        rw [kept] at there
        cases there
      · rw [Grant.stale_iff, same, kept, choice_of_missing]
        exact fun other => other rfl

/-- A call that amends the lease finds one. -/
theorem Orderly.shows (orderly : election.Orderly space) {candidate : String} {now : Timestamp}
    {change : LeaseTerms} (due : election.Due space candidate now change) :
    ∃ document ∈ election.lease, ∃ terms, Shows document terms := by
  rcases due with chosen | ⟨last, first, _⟩
  · rcases choice_eq_some chosen with create | ⟨lease, read, _⟩
    · cases create
    · obtain ⟨document, there, found⟩ := Leases.eq_some_of_handle_read read
      exact ⟨document, there, _, orderly.canonical document there, lease, found, rfl⟩
  · obtain ⟨document, there, terms, shows, _⟩ := orderly.reflected last first
    exact ⟨document, there, terms, shows⟩

/-- What a copy decides on while the lease is as the last lead left it. -/
theorem Orderly.succeeds_of_choice (orderly : election.Orderly space) {candidate : String}
    {now : Timestamp} {rest : Dialogue Leases Bool}
    (admits : election.Admits space candidate ⟨now, rest⟩) {document : Json} {terms : LeaseTerms}
    (kept : election.lease = some document) (shows : Shows document terms)
    (decided : terms.holder = some candidate ∨ isExpired terms now = true) {lead : Grant}
    (own : lead.candidate = candidate) (started : lead.now = now) :
    ∀ last ∈ election.grants.head?, lead.Succeeds last := by
  intro last first
  have inside := List.mem_of_mem_head? first
  obtain ⟨other, there, others, also, holder, renewed, duration⟩ := orderly.reflected last first
  cases kept.symm.trans there
  cases also.unique shows
  rw [Grant.Succeeds, own, started]
  rcases decided with held | expired
  · have same : candidate = last.candidate := Option.some.inj (held.symm.trans holder)
    have before : last.served.toMicros ≤ now.toMicros := admits.alone last inside same.symm
    have timely := orderly.timely last inside
    exact ⟨by omega, fun different => absurd same different⟩
  · have long : 0 ≤ leaseMicros := by decide
    have past := lt_of_isExpired expired renewed duration
    exact ⟨by omega, fun _ => past⟩

/-- A change that is due renews the lead of the copy, or takes it over from a copy whose lease
has run out. -/
theorem Orderly.lead_of_choice (orderly : election.Orderly space) {candidate : String}
    {now : Timestamp} {rest : Dialogue Leases Bool}
    (admits : election.Admits space candidate ⟨now, rest⟩) {document patch : Json}
    (kept : election.lease = some document)
    (chosen : choice space candidate now (Leases.handle .read election.lease).1 =
      some (.amend patch)) :
    (election.leading ⟨candidate, now, .amend patch, election.lease, election.clock⟩
      (some (document.mergePatch patch))).Orderly space := by
  obtain ⟨lease, read, decided⟩ :=
    (choice_eq_some chosen).resolve_left LeaseCall.noConfusion
  obtain ⟨same, there, found⟩ := Leases.eq_some_of_handle_read read
  cases kept.symm.trans there
  have shows : Shows document lease.termsOrEmpty :=
    ⟨orderly.canonical document there, lease, found, rfl⟩
  have due : ¬ Grant.Stale space
      ⟨candidate, now, .amend patch, election.lease, election.clock⟩ := by
    rw [Grant.stale_iff]
    exact fun other => other chosen
  rcases decided with ⟨held, renews⟩ | ⟨expired, takes⟩
  · cases renews
    have after := shows.mergePatch { renewed := some now, duration := some leaseSeconds }
    exact orderly.lead admits.begun rfl after.canonical ⟨_, rfl, _, after, held, rfl, rfl⟩
      (orderly.succeeds_of_choice admits kept shows (.inl held) rfl rfl) due
  · cases takes
    have after := shows.mergePatch (termsOf candidate now)
    exact orderly.lead admits.begun rfl after.canonical ⟨_, rfl, _, after, rfl, rfl, rfl⟩
      (orderly.succeeds_of_choice admits kept shows (.inr expired) rfl rfl) due

end Election

end PlatformApps
