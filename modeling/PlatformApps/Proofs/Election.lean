/-
# Copies that attempt to lead

Any number of copies attempt to lead, each by its own dialogue, and the API server answers
their requests one at a time, in any order. A copy that leads has changed the lease. The change
was decided on a lease that the copy had read before, and the server carries it out on the
lease that is there by then. All copies read one clock, and an answer is not lost once the
server has acted.
-/

import Mathlib.Logic.Function.Basic
import Mathlib.Logic.Relation
import PlatformApps.Proofs.Lease

namespace PlatformApps

open Lease

namespace Leases

/-- A document as the answer to a call. -/
def answer (document : Json) : Outcome Lease :=
  match Lease.read? (.ofJson document) with
  | some lease => .ok lease
  | none => .error (.exchange "the lease is unreadable")

/-- The API server, which keeps the lease as a document, if there is one. -/
def handle : LeaseCall → Option Json → Outcome Lease × Option Json
  | .read, some document => (answer document, some document)
  | .amend patch, some document =>
    let amended := document.mergePatch patch
    (answer amended, some amended)
  | .create lease, none => (answer lease.toJson, some lease.toJson)
  | .create _, some document =>
    (.error (.status 409 "AlreadyExists" s!"{Leadership.leaseName} already exists"), some document)
  | .read, none | .amend _, none =>
    (.error (.status 404 "NotFound" s!"{Leadership.leaseName} not found"), none)

theorem answer_of_shows {document : Json} {terms : LeaseTerms} (shows : Shows document terms) :
    ∃ lease, answer document = .ok lease ∧ lease.termsOrEmpty = terms := by
  obtain ⟨lease, read, same⟩ := shows.reads
  exact ⟨lease, by rw [answer, read], same⟩

theorem handle_read_snd (kept : Option Json) : (handle .read kept).2 = kept := by
  cases kept <;> rfl

theorem eq_some_of_handle_read {kept : Option Json} {lease : Lease}
    (read : (handle .read kept).1 = .ok lease) :
    ∃ document ∈ kept, Lease.read? (.ofJson document) = some lease := by
  cases kept with
  | none => cases read
  | some document =>
      refine ⟨document, rfl, ?_⟩
      rw [handle, answer] at read
      split at read
      · rename_i found given
        cases read
        exact given
      · cases read

end Leases

namespace Leadership

/-- Microseconds that a holder leads without a further renewal. -/
def leaseMicros : Int := leaseSeconds.toInt * 1000000

/-- A patch of the terms of the lease. -/
def amendment (change : LeaseTerms) : Json := .ofFields [("spec", change.toJson)]

/-- The change by which a copy comes to lead, decided on what it was answered when it read
the lease. -/
def choice (space identity : String) (now : Timestamp) : Outcome Lease → Option LeaseCall
  | .ok lease =>
    if lease.termsOrEmpty.holder = some identity then some (.amend (renewal now))
    else if isExpired lease.termsOrEmpty now then some (.amend (takeover identity now))
    else none
  | .error (.api status) =>
    if status.code = 404 then some (.create (firstLease space identity now)) else none
  | .error _ => none

/-- The rest of an attempt that makes a change: it leads if the change succeeds. -/
def confirm (change : LeaseCall) : Dialogue Leases Bool :=
  .ask change fun outcome => .done (outcome.map fun _ => true)

/-- The rest of an attempt that has read the lease. -/
def afterReading (space identity : String) (now : Timestamp) (read : Outcome Lease) :
    Dialogue Leases Bool :=
  match choice space identity now read with
  | some change => confirm change
  | none => .done (read.map fun _ => false)

variable {space identity : String} {now : Timestamp}

/-- An attempt reads the lease and then makes the change it decides on, if any. -/
theorem acquire_eq : acquire space identity now = .ask .read (afterReading space identity now) := by
  have confirms (change : LeaseCall) :
      ((Dialogue.request change : Dialogue Leases _).bind fun _ => pure true) = confirm change := by
    refine congrArg (Dialogue.ask (I := Leases) change) (funext fun outcome => ?_)
    cases outcome <;> rfl
  refine congrArg (Dialogue.ask (I := Leases) LeaseCall.read) (funext fun read => ?_)
  rw [afterReading]
  cases read with
  | ok lease =>
      simp only [choice, confirms]
      split
      · rfl
      · split <;> rfl
  | error failure =>
      cases failure with
      | api status =>
          simp only [choice, confirms]
          split <;> rfl
      | _ => rfl

/-- A copy creates a lease that is missing, renews its own, and takes over another's that
has run out. -/
theorem choice_eq_some {read : Outcome Lease} {change : LeaseCall}
    (chosen : choice space identity now read = some change) :
    change = .create (firstLease space identity now) ∨
      ∃ lease, read = .ok lease ∧
        (lease.termsOrEmpty.holder = some identity ∧ change = .amend (renewal now) ∨
          isExpired lease.termsOrEmpty now = true ∧ change = .amend (takeover identity now)) := by
  cases read with
  | ok lease =>
      apply Or.inr
      refine ⟨lease, rfl, ?_⟩
      rw [choice] at chosen
      split at chosen
      · rename_i held
        cases chosen
        exact .inl ⟨held, rfl⟩
      · split at chosen
        · rename_i expired
          cases chosen
          exact .inr ⟨expired, rfl⟩
        · cases chosen
  | error failure =>
      apply Or.inl
      cases failure with
      | api status =>
          rw [choice] at chosen
          split at chosen
          · cases chosen
            rfl
          · cases chosen
      | _ => cases chosen

theorem lt_of_isExpired {terms : LeaseTerms} (expired : isExpired terms now = true)
    {renewed : Timestamp} (renewedThen : terms.renewed = some renewed)
    (duration : terms.duration = some leaseSeconds) :
    renewed.toMicros + leaseMicros < now.toMicros := by
  rw [isExpired, renewedThen, duration] at expired
  exact of_decide_eq_true expired

theorem isExpired_termsOf (holder : String) (renewed now : Timestamp) :
    isExpired (termsOf holder renewed) now =
      decide (renewed.toMicros + leaseMicros < now.toMicros) := rfl

theorem choice_of_shows {document : Json} {terms : LeaseTerms} (shows : Shows document terms) :
    choice space identity now (Leases.handle .read (some document)).1 =
      if terms.holder = some identity then some (.amend (renewal now))
      else if isExpired terms now then some (.amend (takeover identity now))
      else none := by
  obtain ⟨lease, answered, rfl⟩ := Leases.answer_of_shows shows
  rw [Leases.handle, answered, choice]

theorem choice_of_missing :
    choice space identity now (Leases.handle .read none).1 =
      some (.create (firstLease space identity now)) := by
  rw [Leases.handle, Failure.status, choice, if_pos rfl]

end Leadership

/-- A call of a copy that has not returned yet. -/
structure Attempt where
  /-- When it began, which is the time that it decides by. -/
  now : Timestamp
  /-- What it is still to ask. -/
  rest : Dialogue Leases Bool

/-- A call that returned that the copy leads. -/
structure Grant where
  candidate : String
  /-- When the call began. -/
  now : Timestamp
  change : LeaseCall
  /-- The lease on which the server carried the change out. -/
  met : Option Json
  served : Timestamp

/-- The lease, a common clock, the call that each copy is at, and the calls by which copies
came to lead, the last one first. -/
structure Election where
  lease : Option Json
  clock : Timestamp
  attempts : String → Option Attempt
  grants : List Grant

namespace Grant

/-- By the time of the change, what it was decided on no longer held: on the lease that was
met, an attempt of the same copy and time does something else. -/
def Stale (space : String) (grant : Grant) : Prop :=
  ((Leadership.acquire space grant.candidate grant.now).questions Leases.handle grant.met)[1]? ≠
    some grant.change

/-- The change was carried out before a lease taken at the beginning of the call runs out. -/
def IsPrompt (grant : Grant) : Prop :=
  grant.served.toMicros ≤ grant.now.toMicros + Leadership.leaseMicros

/-- Calls of different copies that began at most the duration of the lease apart. -/
def Overlaps (first second : Grant) : Prop :=
  first.candidate ≠ second.candidate ∧
    (first.now.toMicros - second.now.toMicros).natAbs ≤ Leadership.leaseMicros

end Grant

namespace Election

/-- Nobody has asked anything yet; there may be a lease, whose objects repeat no field. -/
structure Fresh (election : Election) : Prop where
  lease : ∀ document ∈ election.lease, document.Canonical
  attempts : ∀ candidate, election.attempts candidate = none
  grants : election.grants = []

/-- Two copies lead at once. -/
def TwoLeaders (election : Election) : Prop :=
  ∃ first ∈ election.grants, ∃ second ∈ election.grants, first.Overlaps second

/-- From now on, a copy is at this call, or at none. -/
def attempting (election : Election) (candidate : String) (attempt : Option Attempt) : Election :=
  { election with attempts := Function.update election.attempts candidate attempt }

@[simp] theorem attempting_self (election : Election) (candidate : String)
    (attempt : Option Attempt) :
    (election.attempting candidate attempt).attempts candidate = attempt :=
  Function.update_self ..

theorem attempting_of_ne (election : Election) {candidate other : String}
    (different : other ≠ candidate) (attempt : Option Attempt) :
    (election.attempting candidate attempt).attempts other = election.attempts other :=
  Function.update_of_ne different ..

@[simp] theorem attempting_attempting (election : Election) (candidate : String)
    (first second : Option Attempt) :
    (election.attempting candidate first).attempting candidate second =
      election.attempting candidate second := by
  simp only [attempting, Function.update_idem]

/-- A copy comes to lead by a change that leaves the lease as given. -/
def leading (election : Election) (grant : Grant) (lease : Option Json) : Election :=
  { election.attempting grant.candidate none with lease, grants := grant :: election.grants }

/-- A call gets an outcome for its question, after which the lease is as given. The call goes
on, or it returns. -/
def resume (election : Election) (candidate : String) (now : Timestamp) (asked : LeaseCall)
    (lease : Option Json) : Dialogue Leases Bool → Election
  | .ask question next =>
    { election.attempting candidate (some ⟨now, .ask question next⟩) with lease }
  | .done (.ok true) =>
    election.leading ⟨candidate, now, asked, election.lease, election.clock⟩ lease
  | .done _ => { election.attempting candidate none with lease }

theorem resume_confirmed (election : Election) (candidate : String) (now : Timestamp)
    (asked : LeaseCall) (lease : Option Json) (answer : Lease) :
    election.resume candidate now asked lease
        (.done ((Except.ok answer : Outcome Lease).map fun _ => true)) =
      election.leading ⟨candidate, now, asked, election.lease, election.clock⟩ lease := rfl

theorem resume_failed (election : Election) (candidate : String) (now : Timestamp)
    (asked : LeaseCall) (lease : Option Json) (failure : Failure) :
    election.resume candidate now asked lease
        (.done ((Except.error failure : Outcome Lease).map fun _ => true)) =
      { election.attempting candidate none with lease } := rfl

/-- What can happen: time passes, a copy that is at no call begins one, the server carries out
what a copy asks, or a question fails without having been carried out. -/
inductive Step (space : String) : Election → Election → Prop where
  | tick {election : Election} (clock : Timestamp)
      (forward : election.clock.toMicros ≤ clock.toMicros) :
      Step space election { election with clock }
  | begin {election : Election} (candidate : String)
      (idle : election.attempts candidate = none) :
      Step space election (election.attempting candidate
        (some ⟨election.clock, Leadership.acquire space candidate election.clock⟩))
  | serve {election : Election} {candidate : String} {now : Timestamp} {question : LeaseCall}
      {next : Outcome Lease → Dialogue Leases Bool}
      (asks : election.attempts candidate = some ⟨now, .ask question next⟩) :
      Step space election (election.resume candidate now question
        (Leases.handle question election.lease).2
        (next (Leases.handle question election.lease).1))
  | refuse {election : Election} {candidate : String} {now : Timestamp} {question : LeaseCall}
      {next : Outcome Lease → Dialogue Leases Bool} (failure : Failure)
      (asks : election.attempts candidate = some ⟨now, .ask question next⟩) :
      Step space election
        (election.resume candidate now question election.lease (next (.error failure)))

end Election

end PlatformApps
