/-
# When two copies lead at once

A change is not bound to the lease that was read. When another copy comes to lead in between, the
change is carried out all the same, and both copies lead. Nothing else makes two leaders.
-/

import PlatformApps.Proofs.Election.Orderly

namespace PlatformApps

open Lease Leadership

namespace Election

variable {space : String} {election : Election}

/-- Some change was stale, and where changes are prompt two copies lead at once. -/
structure Disturbed (election : Election) (space : String) : Prop where
  stale : ∃ grant ∈ election.grants, grant.Stale space
  twoLeaders : (∀ grant ∈ election.grants, grant.IsPrompt) → election.TwoLeaders

/-- A stale change meets the lead of another copy, and both copies began no longer ago than
prompt changes take. -/
theorem Orderly.disturbed (orderly : election.Orderly space) {lead last : Grant}
    (served : lead.served = election.clock) (stale : lead.Stale space)
    (first : last ∈ election.grants.head?) (different : last.candidate ≠ lead.candidate)
    (since : lead.now.toMicros ≤ last.served.toMicros) (lease : Option Json) :
    (election.leading lead lease).Disturbed space := by
  have inside := List.mem_of_mem_head? first
  obtain ⟨began, past⟩ := orderly.timely last inside
  constructor
  · exact ⟨lead, List.mem_cons_self, stale⟩
  · intro prompt
    have promptLead := prompt lead List.mem_cons_self
    have promptLast := prompt last (List.mem_cons_of_mem _ inside)
    rw [Grant.IsPrompt] at promptLead promptLast
    rw [served] at promptLead
    refine ⟨lead, List.mem_cons_self, last, List.mem_cons_of_mem _ inside, Ne.symm different, ?_⟩
    omega

/-- A call amends the lease. -/
theorem Orderly.amend (orderly : election.Orderly space) {candidate : String} {now : Timestamp}
    {rest : Dialogue Leases Bool} (admits : election.Admits space candidate ⟨now, rest⟩)
    {change : LeaseTerms} (due : election.Due space candidate now change) {after : Election}
    (served : after = election.resume candidate now (.amend (amendment change))
      (Leases.handle (.amend (amendment change)) election.lease).2
      (.done ((Leases.handle (.amend (amendment change)) election.lease).1.map fun _ => true))) :
    after.Orderly space ∨ after.Disturbed space := by
  obtain ⟨document, there, terms, shows⟩ := orderly.shows due
  obtain ⟨lease, answered, _⟩ := Leases.answer_of_shows (shows.mergePatch change)
  have leads : after = election.leading
      ⟨candidate, now, .amend (amendment change), election.lease, election.clock⟩
      (some (document.mergePatch (amendment change))) := by
    rw [served, Option.mem_def.mp there, Leases.handle, amendment, answered, resume_confirmed,
      Option.mem_def.mp there]
  rw [leads]
  by_cases chosen : choice space candidate now (Leases.handle .read election.lease).1 =
      some (.amend (amendment change))
  · exact .inl (orderly.lead_of_choice admits there chosen)
  · obtain ⟨last, first, different, since⟩ := due.resolve_left chosen
    apply Or.inr
    apply orderly.disturbed
    · rfl
    · exact Grant.stale_iff.mpr chosen
    · exact first
    · exact different
    · exact since

/-- The server carries out what a call asks. -/
theorem Orderly.serve (orderly : election.Orderly space) {candidate : String} {now : Timestamp}
    {question : LeaseCall} {next : Outcome Lease → Dialogue Leases Bool}
    (asks : election.attempts candidate = some ⟨now, .ask question next⟩) {after : Election}
    (served : after = election.resume candidate now question
      (Leases.handle question election.lease).2 (next (Leases.handle question election.lease).1)) :
    after.Orderly space ∨ after.Disturbed space := by
  have admits := orderly.attempts candidate _ asks
  have stands : election.Stands space candidate now (.ask question next) := admits.stands
  cases stands with
  | looking same =>
      cases same
      rw [Leases.handle_read_snd] at served
      exact .inl (served ▸ orderly.read admits (.inl rfl))
  | creating same =>
      cases same
      exact .inl (served ▸ orderly.create admits rfl)
  | amending change same due =>
      cases same
      exact orderly.amend admits due served

/-- A question fails. -/
theorem Orderly.refuse (orderly : election.Orderly space) {candidate : String} {now : Timestamp}
    {question : LeaseCall} {next : Outcome Lease → Dialogue Leases Bool}
    (asks : election.attempts candidate = some ⟨now, .ask question next⟩) (failure : Failure) :
    (election.resume candidate now question election.lease
      (next (.error failure))).Orderly space := by
  have admits := orderly.attempts candidate _ asks
  have stands : election.Stands space candidate now (.ask question next) := admits.stands
  cases stands with
  | looking same =>
      cases same
      exact orderly.read admits (.inr ⟨failure, rfl⟩)
  | creating same =>
      cases same
      exact orderly.idle candidate
  | amending change same _ =>
      cases same
      exact orderly.idle candidate

theorem Orderly.step (orderly : election.Orderly space) {after : Election}
    (step : Step space election after) : after.Orderly space ∨ after.Disturbed space := by
  cases step with
  | tick clock forward => exact .inl (orderly.stay _ rfl rfl forward orderly.attempts)
  | begin candidate _ => exact .inl (orderly.begin candidate)
  | serve asks => exact orderly.serve asks rfl
  | refuse failure asks => exact .inl (orderly.refuse asks failure)

theorem Step.mem_grants {after : Election} (step : Step space election after) {grant : Grant}
    (inside : grant ∈ election.grants) : grant ∈ after.grants := by
  have resumed (candidate : String) (now : Timestamp) (asked : LeaseCall) (lease : Option Json)
      (rest : Dialogue Leases Bool) :
      grant ∈ (election.resume candidate now asked lease rest).grants := by
    rw [resume.eq_def]
    split
    · exact inside
    · exact List.mem_cons_of_mem _ inside
    · exact inside
  cases step with
  | tick | begin => exact inside
  | serve | refuse => exact resumed ..

theorem Disturbed.step (disturbed : election.Disturbed space) {after : Election}
    (step : Step space election after) : after.Disturbed space := by
  obtain ⟨⟨grant, inside, stale⟩, twoLeaders⟩ := disturbed
  constructor
  · exact ⟨grant, step.mem_grants inside, stale⟩
  · intro prompt
    obtain ⟨first, firstIn, second, secondIn, overlap⟩ :=
      twoLeaders fun grant inside => prompt grant (step.mem_grants inside)
    exact ⟨first, step.mem_grants firstIn, second, step.mem_grants secondIn, overlap⟩

theorem Fresh.orderly_or_disturbed {start last : Election} (fresh : start.Fresh)
    (run : Relation.ReflTransGen (Step space) start last) :
    last.Orderly space ∨ last.Disturbed space := by
  induction run with
  | refl => exact .inl (Orderly.of_fresh fresh)
  | tail _ step ih =>
      rcases ih with orderly | disturbed
      · exact orderly.step step
      · exact .inr (disturbed.step step)

/-! A race for a lease that has run out. -/

theorem Step.of_reading {candidate : String} {now : Timestamp}
    (at_ : election.attempts candidate = some ⟨now, acquire space candidate now⟩)
    {change : LeaseCall}
    (chosen : choice space candidate now (Leases.handle .read election.lease).1 = some change) :
    Step space election (election.attempting candidate (some ⟨now, confirm change⟩)) := by
  rw [acquire_eq] at at_
  have step : Step space election _ := .serve at_
  rw [Leases.handle_read_snd, afterReading, chosen] at step
  exact step

/-- A copy begins an attempt and reads the lease, with nothing in between. -/
theorem reaches_change {candidate : String} (idle : election.attempts candidate = none)
    {change : LeaseCall}
    (chosen : choice space candidate election.clock (Leases.handle .read election.lease).1 =
      some change) :
    Relation.ReflTransGen (Step space) election
      (election.attempting candidate (some ⟨election.clock, confirm change⟩)) := by
  have begins : Step space election _ := .begin candidate idle
  have reads : Step space (election.attempting candidate
      (some ⟨election.clock, acquire space candidate election.clock⟩)) _ :=
    .of_reading (election.attempting_self candidate _) chosen
  rw [attempting_attempting] at reads
  exact .tail (.single begins) reads

/-- A copy that is to amend the lease comes to lead, whatever became of the lease. -/
theorem Step.of_amending {candidate : String} {now : Timestamp} {change : LeaseTerms}
    (at_ : election.attempts candidate = some ⟨now, confirm (.amend (amendment change))⟩)
    {document : Json} (kept : election.lease = some document) {terms : LeaseTerms}
    (shows : Shows document terms) :
    Step space election (election.leading
      ⟨candidate, now, .amend (amendment change), election.lease, election.clock⟩
      (some (document.mergePatch (amendment change)))) := by
  obtain ⟨lease, answered, _⟩ := Leases.answer_of_shows (shows.mergePatch change)
  have step : Step space election _ := .serve at_
  rw [kept, Leases.handle, amendment, answered, resume_confirmed] at step
  exact step

/-- Two copies that are to amend the lease both come to lead. -/
theorem both_lead {first second : String} (different : second ≠ first) {now : Timestamp}
    {change other : LeaseTerms}
    (atFirst : election.attempts first = some ⟨now, confirm (.amend (amendment change))⟩)
    (atSecond : election.attempts second = some ⟨now, confirm (.amend (amendment other))⟩)
    {document : Json} {terms : LeaseTerms} (kept : election.lease = some document)
    (shows : Shows document terms) :
    ∃ last, Relation.ReflTransGen (Step space) election last ∧ last.TwoLeaders := by
  let lead : Grant := ⟨first, now, .amend (amendment change), election.lease, election.clock⟩
  let after : Election := election.leading lead (some (document.mergePatch (amendment change)))
  have firstLeads : Step space election after := .of_amending atFirst kept shows
  have secondStays : after.attempts second = some ⟨now, confirm (.amend (amendment other))⟩ :=
    (election.attempting_of_ne different none).trans atSecond
  have secondLeads : Step space after _ := .of_amending secondStays rfl (shows.mergePatch change)
  refine ⟨_, .tail (.single firstLeads) secondLeads, ?_⟩
  have near : ((now.toMicros - now.toMicros).natAbs : Int) ≤ leaseMicros := by
    rw [Int.sub_self]
    decide
  exact ⟨_, List.mem_cons_self, _, List.mem_cons_of_mem _ List.mem_cons_self, different, near⟩

/-- The holder of a lease that has run out reads it in order to renew it; before it does, another
copy reads the lease and takes it over. Both lead, and from the same time. -/
theorem reaches_twoLeaders {document : Json} {terms : LeaseTerms}
    (kept : election.lease = some document) (shows : Shows document terms) {holder rival : String}
    (held : terms.holder = some holder) (expired : isExpired terms election.clock = true)
    (different : rival ≠ holder) (holderIdle : election.attempts holder = none)
    (rivalIdle : election.attempts rival = none) :
    ∃ last, Relation.ReflTransGen (Step space) election last ∧ last.TwoLeaders := by
  have renews : choice space holder election.clock (Leases.handle .read election.lease).1 =
      some (.amend (renewal election.clock)) := by
    rw [kept, choice_of_shows shows, if_pos held]
  have takes : choice space rival election.clock (Leases.handle .read election.lease).1 =
      some (.amend (takeover rival election.clock)) := by
    have notOwn : terms.holder ≠ some rival := by
      rw [held]
      exact fun same => different (Option.some.inj same).symm
    rw [kept, choice_of_shows shows, if_neg notOwn, if_pos expired]
  let renewing : Election := election.attempting holder
    (some ⟨election.clock, confirm (.amend (renewal election.clock))⟩)
  have holderReads : Relation.ReflTransGen (Step space) election renewing :=
    reaches_change holderIdle renews
  have rivalReads : Relation.ReflTransGen (Step space) renewing (renewing.attempting rival
      (some ⟨election.clock, confirm (.amend (takeover rival election.clock))⟩)) :=
    reaches_change ((election.attempting_of_ne different _).trans rivalIdle) takes
  have holderStays := (renewing.attempting_of_ne different.symm
    (some ⟨election.clock, confirm (.amend (takeover rival election.clock))⟩)).trans
      (election.attempting_self holder _)
  obtain ⟨last, lead, two⟩ :=
    both_lead different.symm (renewing.attempting_self rival _) holderStays kept shows
  exact ⟨last, (holderReads.trans rivalReads).trans lead, two⟩

/-- Nobody attempts to lead yet; there is a lease of a holder. -/
def idle (space holder : String) (renewed now : Timestamp) : Election where
  lease := some (firstLease space holder renewed).toJson
  clock := now
  attempts _ := none
  grants := []

theorem idle_fresh (space holder : String) (renewed now : Timestamp) :
    (idle space holder renewed now).Fresh := by
  refine ⟨fun document same => ?_, fun _ => rfl, rfl⟩
  cases same
  exact (Shows.ofTerms leaseName space (termsOf holder renewed)).canonical

theorem idle_reaches_twoLeaders (space : String) {holder rival : String}
    (different : rival ≠ holder) {renewed now : Timestamp}
    (expired : renewed.toMicros + leaseMicros < now.toMicros) :
    ∃ last, Relation.ReflTransGen (Step space) (idle space holder renewed now) last ∧
      last.TwoLeaders := by
  have shows : Shows (firstLease space holder renewed).toJson (termsOf holder renewed) :=
    Shows.ofTerms leaseName space _
  have free : isExpired (termsOf holder renewed) now = true := by
    rw [isExpired_termsOf]
    exact decide_eq_true expired
  exact @reaches_twoLeaders space (idle space holder renewed now) _ _ rfl shows _ _ rfl free
    different rfl rfl

/-- A minute into 1970. -/
def minuteLater : Timestamp := ⟨1970, 1, 1, 0, 1, 0, 0, by decide⟩

/-! Where two leaders come from. -/

/-- Two copies lead at once only after a change that was carried out when it was due no
longer; and such a change makes two leaders, unless changes are slower than a lease lasts. -/
theorem two_leaders_iff_stale {space : String} {start last : Election} (fresh : start.Fresh)
    (run : Relation.ReflTransGen (Step space) start last) :
    (last.TwoLeaders → ∃ grant ∈ last.grants, grant.Stale space) ∧
      ((∀ grant ∈ last.grants, grant.IsPrompt) →
        (last.TwoLeaders ↔ ∃ grant ∈ last.grants, grant.Stale space)) := by
  rcases fresh.orderly_or_disturbed run with orderly | disturbed
  · have noStale : ¬ ∃ grant ∈ last.grants, grant.Stale space := by
      rintro ⟨grant, inside, stale⟩
      exact orderly.due grant inside stale
    have one := orderly.not_twoLeaders
    exact ⟨fun two => absurd two one, fun _ => iff_of_false one noStale⟩
  · exact ⟨fun _ => disturbed.stale,
      fun prompt => iff_of_true (disturbed.twoLeaders prompt) disturbed.stale⟩

theorem two_leaders_iff_stale_race :
    (idle "gs" "first" .epoch minuteLater).Fresh ∧
      ∃ last, Relation.ReflTransGen (Step "gs") (idle "gs" "first" .epoch minuteLater) last ∧
        last.TwoLeaders ∧ ∃ grant ∈ last.grants, grant.Stale "gs" := by
  have expired : Timestamp.epoch.toMicros + leaseMicros < minuteLater.toMicros := by decide
  have different : "second" ≠ "first" := by decide
  have fresh := idle_fresh "gs" "first" .epoch minuteLater
  obtain ⟨last, run, two⟩ := idle_reaches_twoLeaders "gs" different expired
  exact ⟨fresh, last, run, two, (two_leaders_iff_stale fresh run).1 two⟩

/-- The holder renews a lease that has run out while another copy takes it over. -/
theorem race_has_two_leaders :
    (idle "gs" "first" .epoch minuteLater).Fresh ∧
      ∃ last, Relation.ReflTransGen (Step "gs") (idle "gs" "first" .epoch minuteLater) last ∧
        last.TwoLeaders :=
  ⟨idle_fresh .., idle_reaches_twoLeaders "gs" (by decide : "second" ≠ "first") (by decide)⟩

end Election

end PlatformApps
