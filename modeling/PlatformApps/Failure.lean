/-
# Failures

Every way in which a step can fail, as a cause. `message` holds the wording of all of
them, `kind` the short word that metrics count by. A not-found answer is special: callers
that wait for something to appear treat it as a reason to come back later.
-/

import PlatformApps.Text.Quoted

namespace PlatformApps

/-- A failure reported by the API server. -/
structure ApiStatus where
  /-- `Failure`, or the status line when the body was no status object. -/
  status : String
  message : String
  reason : String
  code : Nat
  deriving DecidableEq, Repr, Inhabited

/-- What is wrong with the operator's own settings. -/
inductive ConfigFault where
  | emptyBaseDomain
  | emptyDnsIp
  | emptyCatalog
  | unreadable (path detail : String)
  | malformed (detail : String)
  | clusterKindMissing
  | stated (text : String)
  deriving DecidableEq, Repr

/-- What is wrong with a cluster, a release or another object that was read. -/
inductive InputFault where
  | malformedServiceCidr (cidr : String)
  | unalignedServiceCidr (cidr : String)
  | factMissing (field provider : String)
  | clusterWithoutId (name firstLabel secondLabel : String)
  | releaseWithoutComponent (component : String)
  | identityNotSecret (cluster : String)
  | unset (what : String)
  | secretWithoutKey (secret key : String)
  | noCloud (cloud : String)
  | uncompiled (entries : List (String × String))
  | stated (text : String)
  deriving DecidableEq, Repr

/-- Why the finalizer of a cluster could not be handled. -/
inductive FinalizerFault where
  | adding (detail : String)
  | removing (detail : String)
  | unnamedObject
  | invalidName
  | stated (text : String)
  deriving DecidableEq, Repr

inductive Failure where
  | api (status : ApiStatus)
  /-- A request that could not be built, or an answer that could not be read. -/
  | exchange (detail : String)
  | config (fault : ConfigFault)
  | validation (fault : InputFault)
  | notFound (what name : String)
  | notDeleted (what : String)
  | finalizer (fault : FinalizerFault)
  | transport (detail : String)
  | json (detail : String)
  | yaml (detail : String)
  /-- No failure of the operator: a repetition was followed until its fuel was used up, and
  had not ended. -/
  | unended
  deriving DecidableEq, Repr

/-- A computation that yields a value or a failure. -/
abbrev Outcome (α : Type) := Except Failure α

instance Outcome.instDecidableEq {ε α : Type} [DecidableEq ε] [DecidableEq α] :
    DecidableEq (Except ε α)
  | .ok a, .ok b => decidable_of_iff (a = b) (by simp)
  | .error a, .error b => decidable_of_iff (a = b) (by simp)
  | .ok _, .error _ => isFalse (by simp)
  | .error _, .ok _ => isFalse (by simp)

def ConfigFault.message : ConfigFault → String
  | .emptyBaseDomain => "base domain must not be empty"
  | .emptyDnsIp => "DNS IP must not be empty"
  | .emptyCatalog => "default catalog must not be empty"
  | .unreadable path detail => s!"failed to read {path}: {detail}"
  | .malformed detail => s!"invalid app config: {detail}"
  | .clusterKindMissing => "Cluster CRD not installed"
  | .stated text => text

def InputFault.message : InputFault → String
  | .malformedServiceCidr cidr => "invalid service CIDR " ++ Text.quoted cidr
  | .unalignedServiceCidr cidr => s!"service CIDR {cidr} is not a network address"
  | .factMissing field provider => s!"field {field} not found on {provider} infrastructure object"
  | .clusterWithoutId name first second =>
    s!"Cluster {name} has neither a {first} nor a {second} label"
  | .releaseWithoutComponent component => s!"release has no {component} component version"
  | .identityNotSecret cluster =>
    s!"identityRef of OpenStackCluster {cluster} must reference a Secret"
  | .unset what => s!"{what} is not set"
  | .secretWithoutKey secret key => s!"secret {secret} has no {key}"
  | .noCloud cloud => s!"clouds.yaml has no \"{cloud}\" cloud"
  | .uncompiled entries =>
    toString entries.length ++ " app(s) could not be compiled: " ++
      "; ".intercalate (entries.map fun entry => entry.1 ++ ": " ++ entry.2)
  | .stated text => text

def FinalizerFault.message : FinalizerFault → String
  | .adding detail => s!"failed to add finalizer: {detail}"
  | .removing detail => s!"failed to remove finalizer: {detail}"
  | .unnamedObject => "object has no name"
  | .invalidName => "invalid finalizer"
  | .stated text => text

/-- The status as it appears in messages. -/
def ApiStatus.report (answer : ApiStatus) : String :=
  s!"ApiError: {answer.message}: {answer.reason} (ErrorResponse \x7b status: " ++
    Text.quoted answer.status ++ ", message: " ++ Text.quoted answer.message ++ ", reason: " ++
    Text.quoted answer.reason ++ ", code: " ++ toString answer.code ++ " \x7d)"

namespace Failure

def message : Failure → String
  | .api status => "Kubernetes API error: " ++ status.report
  | .exchange detail => "Kubernetes API error: " ++ detail
  | .config fault => "Configuration error: " ++ fault.message
  | .validation fault => "Validation error: " ++ fault.message
  | .notFound what name => s!"{what} {name} not found"
  | .notDeleted what => s!"{what} still persists"
  | .finalizer fault => "Finalizer error: " ++ fault.message
  | .transport detail => "HTTP request failed: " ++ detail
  | .json detail => "Serialization error: " ++ detail
  | .yaml detail => "YAML error: " ++ detail
  | .unended => "repetition not followed to its end"

/-- The word that error metrics count by. -/
def kind : Failure → String
  | .api _ | .exchange _ => "kube"
  | .config _ => "config"
  | .validation _ => "validation"
  | .notFound .. => "not_found"
  | .notDeleted _ => "not_deleted"
  | .finalizer _ => "finalizer"
  | .transport _ => "http"
  | .json _ | .yaml _ => "serialization"
  | .unended => "unended"

/-- Something does not exist, said by a collaborator or by the API server. -/
def isNotFound : Failure → Bool
  | .notFound .. => true
  | .api status => status.code == 404
  | _ => false

/-- A create found the object in place. -/
def isAlreadyExists : Failure → Bool
  | .api status => status.code == 409 && status.reason == "AlreadyExists"
  | _ => false

def isValidation : Failure → Bool
  | .validation _ => true
  | _ => false

/-- Is the same step likely to succeed soon without anybody changing an input? -/
def isRetriable : Failure → Bool
  | .api _ | .exchange _ | .transport _ | .notFound .. | .notDeleted _ | .finalizer _ => true
  | .config _ | .validation _ | .json _ | .yaml _ | .unended => false

/-- A failure status in the API server's own words. -/
def status (code : Nat) (reason message : String) : Failure :=
  .api ⟨"Failure", message, reason, code⟩

end Failure

end PlatformApps
