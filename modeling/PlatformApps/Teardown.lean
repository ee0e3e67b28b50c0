/-
# Deleting Apps in order

The Apps of a cluster go in the order in which they depend on each other: first the
tenants, then the operator of the second tier, then the platform agent. The phase is not
kept anywhere; every pass finds it again from what is there and goes as far as it can.
-/

import PlatformApps.Convergence
import PlatformApps.Manifest

namespace PlatformApps

inductive TeardownPhase where
  | collectingTenantApps
  | deletingTenantApps
  | waitingTenantGone
  | deletingSecondTier
  | waitingSecondTierGone
  | deletingPlatformAgent
  | waitingPlatformAgentGone
  | done
  deriving DecidableEq, Repr, Inhabited

namespace TeardownPhase

/-- All phases in their order. -/
def all : List TeardownPhase := [
  .collectingTenantApps, .deletingTenantApps, .waitingTenantGone, .deletingSecondTier,
  .waitingSecondTierGone, .deletingPlatformAgent, .waitingPlatformAgentGone, .done]

def ordinal : TeardownPhase → Nat
  | .collectingTenantApps => 0
  | .deletingTenantApps => 1
  | .waitingTenantGone => 2
  | .deletingSecondTier => 3
  | .waitingSecondTierGone => 4
  | .deletingPlatformAgent => 5
  | .waitingPlatformAgentGone => 6
  | .done => 7

def name : TeardownPhase → String
  | .collectingTenantApps => "collecting-tenant-apps"
  | .deletingTenantApps => "deleting-tenant-apps"
  | .waitingTenantGone => "waiting-tenant-gone"
  | .deletingSecondTier => "deleting-second-tier"
  | .waitingSecondTierGone => "waiting-second-tier-gone"
  | .deletingPlatformAgent => "deleting-platform-agent"
  | .waitingPlatformAgentGone => "waiting-platform-agent-gone"
  | .done => "done"

end TeardownPhase

/-- How far a pass came. -/
inductive TeardownStep where
  /-- Waiting for Apps to be gone. -/
  | suspended (phase : TeardownPhase) (remaining : List String)
  | done
  deriving DecidableEq, Repr, Inhabited

def TeardownStep.phase : TeardownStep → TeardownPhase
  | .suspended phase _ => phase
  | .done => .done

/-- Name of the second tier's App: that of the App compiled for it, or the usual one where
there is none or the release is gone or unusable. -/
def secondTierName (compiled : Outcome Compiled) (id : String) : Outcome String :=
  match compiled with
  | .ok compiled => .ok (((compiled.appFor? secondTier).map App.name).getD (secondTierAppName id))
  | .error failure =>
    if failure.isNotFound || failure.isValidation then .ok (secondTierAppName id)
    else .error failure

/-- What is being torn down. -/
structure Teardown where
  id : String
  space : String
  /-- Name of the second tier's App. -/
  secondTier : String

namespace Teardown

/-- Name of the platform agent's App. -/
def agent (teardown : Teardown) : String := agentAppName teardown.id

/-- Is the App neither of the two operators, by name? -/
def isTenantName (teardown : Teardown) (app : App) : Bool :=
  app.name != teardown.secondTier && app.name != teardown.agent

/-- Apps that have to go before the operators: all that this operator does not manage, and
its own except the two operators. -/
def tenants (teardown : Teardown) : Dialogue Store (List App) := do
  let unmanaged ← Store.listApps teardown.space (unmanagedSelector teardown.id)
  let managed ← Store.listApps teardown.space (managedSelector teardown.id)
  pure (unmanaged ++ managed.filter teardown.isTenantName)

/-- Requests the deletion of an App, which may be gone already. -/
def delete (teardown : Teardown) (name : String) : Dialogue Store Unit :=
  Dialogue.tolerate (I := Store) (StoreCall.deleteApp teardown.space name) Failure.isNotFound ()

/-- Requests the deletion of each App that is not being deleted yet and that no GitOps
controller would bring back. -/
def deleteTenants (teardown : Teardown) : List App → Dialogue Store Unit
  | [] => pure ()
  | app :: rest =>
    if app.isDeleting || isForeign app.labels then deleteTenants teardown rest
    else (teardown.delete app.name).bind fun _ => deleteTenants teardown rest

/-- Looks for an App by name. -/
def find? (teardown : Teardown) (name : String) : Dialogue Store (Option App) :=
  .ask (StoreCall.getApp teardown.space name) fun
  | .ok app => pure (some app)
  | .error failure => if failure.isNotFound then pure none else .fail failure

/-- Deletes one App; tells whether it is still there. -/
def removeApp (teardown : Teardown) (name : String) : Dialogue Store Bool := do
  match ← teardown.find? name with
  | none => pure false
  | some app =>
    if app.isDeleting then pure () else teardown.delete name
    pure (← teardown.find? name).isSome

/-- Deletes the operators, the second tier before the agent. -/
def removeOperators (teardown : Teardown) : Dialogue Store TeardownStep := do
  if ← teardown.removeApp teardown.secondTier then
    pure (.suspended .waitingSecondTierGone [teardown.secondTier])
  else if ← teardown.removeApp teardown.agent then
    pure (.suspended .waitingPlatformAgentGone [teardown.agent])
  else pure .done

/-- Goes as far as the Apps that are there allow. -/
def run (teardown : Teardown) : Dialogue Store TeardownStep := do
  let tenants ← teardown.tenants
  if tenants.isEmpty then teardown.removeOperators
  else
    teardown.deleteTenants tenants
    let remaining ← teardown.tenants
    if remaining.isEmpty then teardown.removeOperators
    else pure (.suspended .waitingTenantGone (remaining.map App.name))

end Teardown

/-- Waits until the deployment of the platform agent is gone. One that outlives the time
given is a failure: its agent would go on without its resources. -/
def awaitAgentGone (backoff : Backoff) (id space : String) : Dialogue Operator Unit :=
  let deployment := agentDeploymentName id
  backoff.retry (backoff.fuel + 1) Operator.clock do
    if ← Operator.calls (Store.deploymentExists space deployment) then
      Dialogue.fail (.notDeleted s!"deployment {space}/{deployment}")
    else pure ()

end PlatformApps
