/-
# Shapes of volumes

Everything that the containers of a pod may find in their file systems: files made from
other objects, claims of storage, and the many kinds of disks and shares.
-/

import PlatformApps.Resource.Pod.Template

namespace PlatformApps.Pod

/-- A quantity such as `500Mi` is kept as a text. -/
def quantity : Shape := .text

/-- Quantities by resource. -/
def quantities : Shape := .table quantity

/-- The name of an object in the same namespace. -/
def localReference : Shape := .record [] [("name", .text)]

/-- One condition on a key. -/
def keyCondition : Shape :=
  .record [("key", .text), ("operator", .text)] [("values", .texts)]

def labelSelector : Shape :=
  .record [] [("matchExpressions", .list keyCondition), ("matchLabels", .textTable)]

/-- A field of the pod itself. -/
def fieldReference : Shape := .record [("fieldPath", .text)] [("apiVersion", .text)]

/-- A resource of a container. -/
def resourceReference : Shape :=
  .record [("resource", .text)] [("containerName", .text), ("divisor", quantity)]

/-- A key of an object, and the file that it becomes. -/
def keyFile : Shape := .record [("key", .text), ("path", .text)] [("mode", .int32)]

/-- A file with facts about the pod. -/
def factFile : Shape :=
  .record [("path", .text)]
    [("fieldRef", fieldReference), ("mode", .int32), ("resourceFieldRef", resourceReference)]

namespace Volume

def configMap : Shape :=
  .record []
    [("defaultMode", .int32), ("items", .list keyFile), ("name", .text), ("optional", .boolean)]

def secret : Shape :=
  .record []
    [("defaultMode", .int32), ("items", .list keyFile), ("optional", .boolean),
      ("secretName", .text)]

def facts : Shape := .record [] [("defaultMode", .int32), ("items", .list factFile)]

/-- One source of files that are put together in a directory. -/
def projection : Shape :=
  .record []
    [("clusterTrustBundle", .record [("path", .text)]
        [("labelSelector", labelSelector), ("name", .text), ("optional", .boolean),
          ("signerName", .text)]),
      ("configMap", .record []
        [("items", .list keyFile), ("name", .text), ("optional", .boolean)]),
      ("downwardAPI", .record [] [("items", .list factFile)]),
      ("secret", .record []
        [("items", .list keyFile), ("name", .text), ("optional", .boolean)]),
      ("serviceAccountToken", .record [("path", .text)]
        [("audience", .text), ("expirationSeconds", .int64)])]

def projected : Shape :=
  .record [] [("defaultMode", .int32), ("sources", .list projection)]

def claimSpec : Shape :=
  .record []
    [("accessModes", .texts),
      ("dataSource", .record [("kind", .text), ("name", .text)] [("apiGroup", .text)]),
      ("dataSourceRef", .record [("kind", .text), ("name", .text)]
        [("apiGroup", .text), ("namespace", .text)]),
      ("resources", .record [] [("limits", quantities), ("requests", quantities)]),
      ("selector", labelSelector), ("storageClassName", .text),
      ("volumeAttributesClassName", .text), ("volumeMode", .text), ("volumeName", .text)]

/-- A claim that lives as long as the pod. -/
def ephemeral : Shape :=
  .record []
    [("volumeClaimTemplate", .record [("spec", claimSpec)] [("metadata", metadata)])]

/-- Kinds of storage that are attached or mounted. -/
def storages : List (String × Shape) :=
  [("awsElasticBlockStore", .record [("volumeID", .text)]
      [("fsType", .text), ("partition", .int32), ("readOnly", .boolean)]),
    ("azureDisk", .record [("diskName", .text), ("diskURI", .text)]
      [("cachingMode", .text), ("fsType", .text), ("kind", .text), ("readOnly", .boolean)]),
    ("azureFile", .record [("secretName", .text), ("shareName", .text)] [("readOnly", .boolean)]),
    ("cephfs", .record [("monitors", .texts)]
      [("path", .text), ("readOnly", .boolean), ("secretFile", .text),
        ("secretRef", localReference), ("user", .text)]),
    ("cinder", .record [("volumeID", .text)]
      [("fsType", .text), ("readOnly", .boolean), ("secretRef", localReference)]),
    ("csi", .record [("driver", .text)]
      [("fsType", .text), ("nodePublishSecretRef", localReference), ("readOnly", .boolean),
        ("volumeAttributes", .textTable)]),
    ("emptyDir", .record [] [("medium", .text), ("sizeLimit", quantity)]),
    ("fc", .record []
      [("fsType", .text), ("lun", .int32), ("readOnly", .boolean), ("targetWWNs", .texts),
        ("wwids", .texts)]),
    ("flexVolume", .record [("driver", .text)]
      [("fsType", .text), ("options", .textTable), ("readOnly", .boolean),
        ("secretRef", localReference)]),
    ("flocker", .record [] [("datasetName", .text), ("datasetUUID", .text)]),
    ("gcePersistentDisk", .record [("pdName", .text)]
      [("fsType", .text), ("partition", .int32), ("readOnly", .boolean)]),
    ("gitRepo", .record [("repository", .text)] [("directory", .text), ("revision", .text)]),
    ("glusterfs", .record [("endpoints", .text), ("path", .text)] [("readOnly", .boolean)]),
    ("hostPath", .record [("path", .text)] [("type", .text)]),
    ("iscsi", .record [("iqn", .text), ("lun", .int32), ("targetPortal", .text)]
      [("chapAuthDiscovery", .boolean), ("chapAuthSession", .boolean), ("fsType", .text),
        ("initiatorName", .text), ("iscsiInterface", .text), ("portals", .texts),
        ("readOnly", .boolean), ("secretRef", localReference)]),
    ("nfs", .record [("path", .text), ("server", .text)] [("readOnly", .boolean)]),
    ("persistentVolumeClaim", .record [("claimName", .text)] [("readOnly", .boolean)]),
    ("photonPersistentDisk", .record [("pdID", .text)] [("fsType", .text)]),
    ("portworxVolume", .record [("volumeID", .text)] [("fsType", .text), ("readOnly", .boolean)]),
    ("quobyte", .record [("registry", .text), ("volume", .text)]
      [("group", .text), ("readOnly", .boolean), ("tenant", .text), ("user", .text)]),
    ("rbd", .record [("image", .text), ("monitors", .texts)]
      [("fsType", .text), ("keyring", .text), ("pool", .text), ("readOnly", .boolean),
        ("secretRef", localReference), ("user", .text)]),
    ("scaleIO", .record [("gateway", .text), ("secretRef", localReference), ("system", .text)]
      [("fsType", .text), ("protectionDomain", .text), ("readOnly", .boolean),
        ("sslEnabled", .boolean), ("storageMode", .text), ("storagePool", .text),
        ("volumeName", .text)]),
    ("storageos", .record []
      [("fsType", .text), ("readOnly", .boolean), ("secretRef", localReference),
        ("volumeName", .text), ("volumeNamespace", .text)]),
    ("vsphereVolume", .record [("volumePath", .text)]
      [("fsType", .text), ("storagePolicyID", .text), ("storagePolicyName", .text)])]

def shape : Shape :=
  .record [("name", .text)]
    (("configMap", configMap) :: ("downwardAPI", facts) :: ("ephemeral", ephemeral) ::
      ("projected", projected) :: ("secret", secret) :: storages)

end Volume

end PlatformApps.Pod
