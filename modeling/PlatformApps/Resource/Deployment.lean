/-
# Deployments

Of a deployment only the existence matters here; still it has to be one, down to the pods
that it runs.
-/

import PlatformApps.Resource.Core
import PlatformApps.Resource.Pod.Container

namespace PlatformApps

namespace Pod

/-- Which nodes match. -/
def nodeTerm : Shape :=
  .record [] [("matchExpressions", .list keyCondition), ("matchFields", .list keyCondition)]

def nodeAffinity : Shape :=
  .record []
    [("preferredDuringSchedulingIgnoredDuringExecution",
        .list (.record [("preference", nodeTerm), ("weight", .int32)] [])),
      ("requiredDuringSchedulingIgnoredDuringExecution",
        .record [("nodeSelectorTerms", .list nodeTerm)] [])]

def affinityTerm : Shape :=
  .record [("topologyKey", .text)]
    [("labelSelector", labelSelector), ("matchLabelKeys", .texts), ("mismatchLabelKeys", .texts),
      ("namespaceSelector", labelSelector), ("namespaces", .texts)]

/-- Which pods should be near, or should not. -/
def podAffinity : Shape :=
  .record []
    [("preferredDuringSchedulingIgnoredDuringExecution",
        .list (.record [("podAffinityTerm", affinityTerm), ("weight", .int32)] [])),
      ("requiredDuringSchedulingIgnoredDuringExecution", .list affinityTerm)]

def affinity : Shape :=
  .record []
    [("nodeAffinity", nodeAffinity), ("podAffinity", podAffinity),
      ("podAntiAffinity", podAffinity)]

def spreadConstraint : Shape :=
  .record [("maxSkew", .int32), ("topologyKey", .text), ("whenUnsatisfiable", .text)]
    [("labelSelector", labelSelector), ("matchLabelKeys", .texts), ("minDomains", .int32),
      ("nodeAffinityPolicy", .text), ("nodeTaintsPolicy", .text)]

def toleration : Shape :=
  .record []
    [("effect", .text), ("key", .text), ("operator", .text), ("tolerationSeconds", .int64),
      ("value", .text)]

def rights : Shape :=
  .record []
    (("fsGroup", .int64) :: ("fsGroupChangePolicy", .text) ::
      ("supplementalGroups", .list .int64) ::
      ("sysctls", .list (.record [("name", .text), ("value", .text)] [])) :: sharedRights)

def nameServers : Shape :=
  .record []
    [("nameservers", .texts),
      ("options", .list (.record [] [("name", .text), ("value", .text)])), ("searches", .texts)]

def resourceClaim : Shape :=
  .record [("name", .text)]
    [("source", .record [] [("resourceClaimName", .text), ("resourceClaimTemplateName", .text)])]

/-- Something that has a name and nothing else. -/
def named : Shape := .record [("name", .text)] []

def spec : Shape :=
  .record [("containers", .list container)]
    [("activeDeadlineSeconds", .int64), ("affinity", affinity),
      ("automountServiceAccountToken", .boolean), ("dnsConfig", nameServers),
      ("dnsPolicy", .text), ("enableServiceLinks", .boolean),
      ("ephemeralContainers", .list ephemeralContainer),
      ("hostAliases", .list (.record [] [("hostnames", .texts), ("ip", .text)])),
      ("hostIPC", .boolean), ("hostNetwork", .boolean), ("hostPID", .boolean),
      ("hostUsers", .boolean), ("hostname", .text), ("imagePullSecrets", .list localReference),
      ("initContainers", .list container), ("nodeName", .text), ("nodeSelector", .textTable),
      ("os", named), ("overhead", quantities), ("preemptionPolicy", .text), ("priority", .int32),
      ("priorityClassName", .text),
      ("readinessGates", .list (.record [("conditionType", .text)] [])),
      ("resourceClaims", .list resourceClaim), ("restartPolicy", .text),
      ("runtimeClassName", .text), ("schedulerName", .text), ("schedulingGates", .list named),
      ("securityContext", rights), ("serviceAccount", .text), ("serviceAccountName", .text),
      ("setHostnameAsFQDN", .boolean), ("shareProcessNamespace", .boolean), ("subdomain", .text),
      ("terminationGracePeriodSeconds", .int64), ("tolerations", .list toleration),
      ("topologySpreadConstraints", .list spreadConstraint), ("volumes", .list Volume.shape)]

def template : Shape := .record [] [("metadata", metadata), ("spec", spec)]

end Pod

namespace Deployment

def type : ObjectType := ⟨"apps/v1", "Deployment"⟩

def strategy : Shape :=
  .record []
    [("rollingUpdate", .record []
        [("maxSurge", .textOrInteger), ("maxUnavailable", .textOrInteger)]),
      ("type", .text)]

def spec : Shape :=
  .record [("selector", Pod.labelSelector), ("template", Pod.template)]
    [("minReadySeconds", .int32), ("paused", .boolean), ("progressDeadlineSeconds", .int32),
      ("replicas", .int32), ("revisionHistoryLimit", .int32), ("strategy", strategy)]

def condition : Shape :=
  .record [("status", .text), ("type", .text)]
    [("lastTransitionTime", .time), ("lastUpdateTime", .time), ("message", .text),
      ("reason", .text)]

def status : Shape :=
  .record []
    [("availableReplicas", .int32), ("collisionCount", .int32), ("conditions", .list condition),
      ("observedGeneration", .int64), ("readyReplicas", .int32), ("replicas", .int32),
      ("unavailableReplicas", .int32), ("updatedReplicas", .int32)]

/-- Recognises a deployment. -/
def read? (written : Written) : Option Unit := do
  let fields ← builtIn? type written
  let _ ← metadataOrEmpty? fields
  let _ ← Written.optional? fields "spec" spec.read?
  let _ ← Written.optional? fields "status" status.read?

end Deployment

end PlatformApps
