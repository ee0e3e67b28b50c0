/-
# Shapes of containers

What runs in a pod: the program, its environment, how its health is found out, and what
it may do.
-/

import PlatformApps.Resource.Pod.Volume

namespace PlatformApps.Pod

/-- A key of an object that may be missing. -/
def keyOfObject : Shape := .record [("key", .text)] [("name", .text), ("optional", .boolean)]

/-- An object that may be missing. -/
def wholeObject : Shape := .record [] [("name", .text), ("optional", .boolean)]

def environmentVariable : Shape :=
  .record [("name", .text)]
    [("value", .text),
      ("valueFrom", .record []
        [("configMapKeyRef", keyOfObject), ("fieldRef", fieldReference),
          ("resourceFieldRef", resourceReference), ("secretKeyRef", keyOfObject)])]

def environmentSource : Shape :=
  .record [] [("configMapRef", wholeObject), ("prefix", .text), ("secretRef", wholeObject)]

def execAction : Shape := .record [] [("command", .texts)]

def httpAction : Shape :=
  .record [("port", .textOrInteger)]
    [("host", .text), ("httpHeaders", .list (.record [("name", .text), ("value", .text)] [])),
      ("path", .text), ("scheme", .text)]

def socketAction : Shape := .record [("port", .textOrInteger)] [("host", .text)]

/-- What is done when a container starts or is about to stop. -/
def lifecycleHandler : Shape :=
  .record []
    [("exec", execAction), ("httpGet", httpAction),
      ("sleep", .record [("seconds", .int64)] []), ("tcpSocket", socketAction)]

def probe : Shape :=
  .record []
    [("exec", execAction), ("failureThreshold", .int32),
      ("grpc", .record [("port", .int32)] [("service", .text)]), ("httpGet", httpAction),
      ("initialDelaySeconds", .int32), ("periodSeconds", .int32), ("successThreshold", .int32),
      ("tcpSocket", socketAction), ("terminationGracePeriodSeconds", .int64),
      ("timeoutSeconds", .int32)]

def port : Shape :=
  .record [("containerPort", .int32)]
    [("hostIP", .text), ("hostPort", .int32), ("name", .text), ("protocol", .text)]

def resources : Shape :=
  .record []
    [("claims", .list (.record [("name", .text)] [])), ("limits", quantities),
      ("requests", quantities)]

/-- A profile that restricts a program, of a type that may need a file. -/
def profile : Shape := .record [("type", .text)] [("localhostProfile", .text)]

/-- What a pod and a container may both say about rights. -/
def sharedRights : List (String × Shape) :=
  [("appArmorProfile", profile), ("runAsGroup", .int64), ("runAsNonRoot", .boolean),
    ("runAsUser", .int64),
    ("seLinuxOptions", .record []
      [("level", .text), ("role", .text), ("type", .text), ("user", .text)]),
    ("seccompProfile", profile),
    ("windowsOptions", .record []
      [("gmsaCredentialSpec", .text), ("gmsaCredentialSpecName", .text),
        ("hostProcess", .boolean), ("runAsUserName", .text)])]

def containerRights : Shape :=
  .record []
    (("allowPrivilegeEscalation", .boolean) ::
      ("capabilities", .record [] [("add", .texts), ("drop", .texts)]) ::
      ("privileged", .boolean) :: ("procMount", .text) :: ("readOnlyRootFilesystem", .boolean) ::
      sharedRights)

def volumeMount : Shape :=
  .record [("mountPath", .text), ("name", .text)]
    [("mountPropagation", .text), ("readOnly", .boolean), ("recursiveReadOnly", .text),
      ("subPath", .text), ("subPathExpr", .text)]

/-- What all containers may say beside their name. -/
def containerFields : List (String × Shape) :=
  [("args", .texts), ("command", .texts), ("env", .list environmentVariable),
    ("envFrom", .list environmentSource), ("image", .text), ("imagePullPolicy", .text),
    ("lifecycle", .record [] [("postStart", lifecycleHandler), ("preStop", lifecycleHandler)]),
    ("livenessProbe", probe), ("ports", .list port), ("readinessProbe", probe),
    ("resizePolicy", .list (.record [("resourceName", .text), ("restartPolicy", .text)] [])),
    ("resources", resources), ("restartPolicy", .text), ("securityContext", containerRights),
    ("startupProbe", probe), ("stdin", .boolean), ("stdinOnce", .boolean),
    ("terminationMessagePath", .text), ("terminationMessagePolicy", .text), ("tty", .boolean),
    ("volumeDevices", .list (.record [("devicePath", .text), ("name", .text)] [])),
    ("volumeMounts", .list volumeMount), ("workingDir", .text)]

def container : Shape := .record [("name", .text)] containerFields

/-- A container that is added to a running pod. -/
def ephemeralContainer : Shape :=
  .record [("name", .text)] (("targetContainerName", .text) :: containerFields)

end PlatformApps.Pod
