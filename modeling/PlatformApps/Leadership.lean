/-
# Which copy of the operator leads

Several copies of the operator may run, and one of them is to act. They agree through one
lease: its holder leads as long as it renews the lease in time. A copy reads the lease and
then renews it, takes it over once it has run out, or creates it. What was read may be out
of date by the time of the change.
-/

import PlatformApps.Dialogue
import PlatformApps.Naming
import PlatformApps.Resource.Metadata
import PlatformApps.Resource.Core

namespace PlatformApps

/-- Who holds a lease, since when, and until when without a further renewal. -/
structure LeaseTerms where
  holder : Option String := none
  acquired : Option Timestamp := none
  renewed : Option Timestamp := none
  /-- Seconds from a renewal to the end. -/
  duration : Option Int32 := none
  transitions : Option Int32 := none
  deriving DecidableEq, Inhabited

namespace LeaseTerms

def toJson (terms : LeaseTerms) : Json :=
  .ofPresent [
    ("acquireTime", terms.acquired.map fun time => .str time.renderMicro),
    ("holderIdentity", terms.holder.map .str),
    ("leaseDurationSeconds", terms.duration.map fun seconds => .int seconds.toInt),
    ("leaseTransitions", terms.transitions.map fun count => .int count.toInt),
    ("renewTime", terms.renewed.map fun time => .str time.renderMicro)]

def read? (written : Written) : Option LeaseTerms := do
  let fields ← written.fields?
  pure {
    holder := ← Written.optional? fields "holderIdentity" Written.text?
    acquired := ← Written.optional? fields "acquireTime" Timestamp.read?
    renewed := ← Written.optional? fields "renewTime" Timestamp.read?
    duration := ← Written.optional? fields "leaseDurationSeconds" Written.int32?
    transitions := ← Written.optional? fields "leaseTransitions" Written.int32? }

end LeaseTerms

structure Lease where
  metadata : Metadata := {}
  terms : Option LeaseTerms := none
  deriving DecidableEq, Inhabited

namespace Lease

def type : ObjectType := ⟨"coordination.k8s.io/v1", "Lease"⟩

def toJson (lease : Lease) : Json :=
  type.document lease.metadata [("spec", lease.terms.map LeaseTerms.toJson)]

def read? (written : Written) : Option Lease := do
  let fields ← builtIn? type written
  pure {
    metadata := ← metadataOrEmpty? fields
    terms := ← Written.optional? fields "spec" LeaseTerms.read? }

/-- Terms of a lease; there may be none yet. -/
def termsOrEmpty (lease : Lease) : LeaseTerms := lease.terms.getD {}

end Lease

/-- What a copy does with the lease. Changes of an existing lease are merge patches. -/
inductive LeaseCall where
  | read
  | amend (patch : Json)
  | create (lease : Lease)

/-- The lease, which every call answers as it is from then on. -/
@[reducible]
def Leases : Interface := ⟨LeaseCall, fun _ => Lease⟩

namespace Leadership

def leaseName : String := "cluster-apps-operator-leader"

/-- Seconds that a holder leads without a further renewal. -/
def leaseSeconds : Int32 := 15

/-- Seconds from a renewal to the next, and from a refusal to the next attempt. -/
def renewalPause : Nat := 10

def retryPause : Nat := 5

/-- May somebody else take the lease over? A lease that was never renewed is free. -/
def isExpired (terms : LeaseTerms) (now : Timestamp) : Bool :=
  terms.renewed.all fun renewed =>
    decide (renewed.toMicros + (terms.duration.getD leaseSeconds).toInt * 1000000 <
      now.toMicros)

/-- The change by which a holder stays the holder. -/
def renewal (now : Timestamp) : Json :=
  .ofFields [("spec", LeaseTerms.toJson { renewed := some now, duration := some leaseSeconds })]

/-- Terms under which a copy becomes the holder. -/
def termsOf (identity : String) (now : Timestamp) : LeaseTerms :=
  { holder := some identity
    acquired := some now
    renewed := some now
    duration := some leaseSeconds }

/-- The change by which a copy becomes the holder of a lease that has run out. -/
def takeover (identity : String) (now : Timestamp) : Json :=
  .ofFields [("spec", (termsOf identity now).toJson)]

/-- The first lease, where there is none. -/
def firstLease (space identity : String) (now : Timestamp) : Lease :=
  { metadata := { name := some leaseName, namespace_ := some space }
    terms := some (termsOf identity now) }

/-- Does a copy lead from now on? -/
def acquire (space identity : String) (now : Timestamp) : Dialogue Leases Bool :=
  let change (call : LeaseCall) : Dialogue Leases Bool :=
    (Dialogue.request (I := Leases) call).bind fun _ => pure true
  .ask LeaseCall.read fun
  | .ok (lease : Lease) =>
    let terms := lease.termsOrEmpty
    if terms.holder = some identity then change (.amend (renewal now))
    else if isExpired terms now then change (.amend (takeover identity now))
    else pure false
  | .error (.api status) =>
    if status.code = 404 then change (.create (firstLease space identity now))
    else .fail (.api status)
  | .error failure => .fail failure

end Leadership

end PlatformApps
