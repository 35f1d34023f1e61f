import FlowTesting.Resource.Shape.Reference

set_option autoImplicit false

/-!
# Shapes of volume parts

Where the content of a volume comes from.
-/

namespace FlowTesting.Shape

/-- The file that a key becomes. -/
def keyToPath : Shape :=
  .record "KeyToPath" <|
    [always "key" .text, always "path" .text, optional "mode" .integer32]

def awsElasticBlockStore : Shape :=
  .record "AWSElasticBlockStoreVolumeSource" <|
    [optional "fsType" .text, optional "partition" .integer32, optional "readOnly" .boolean,
      always "volumeID" .text]

def azureDisk : Shape :=
  .record "AzureDiskVolumeSource" <|
    optionals .text ["cachingMode", "fsType", "kind"] ++
    [always "diskName" .text, always "diskURI" .text, optional "readOnly" .boolean]

def azureFile : Shape :=
  .record "AzureFileVolumeSource" <|
    [optional "readOnly" .boolean, always "secretName" .text, always "shareName" .text]

def cephFs : Shape :=
  .record "CephFSVolumeSource" <|
    [always "monitors" (.list .text)] ++
    optionals .text ["path", "secretFile", "user"] ++
    [optional "readOnly" .boolean, optional "secretRef" localReference]

def cinder : Shape :=
  .record "CinderVolumeSource" <|
    [optional "fsType" .text, optional "readOnly" .boolean, optional "secretRef" localReference,
      always "volumeID" .text]

def csi : Shape :=
  .record "CSIVolumeSource" <|
    [always "driver" .text, optional "fsType" .text,
      optional "nodePublishSecretRef" localReference, optional "readOnly" .boolean,
      optional "volumeAttributes" (.map .text)]

def downwardFile : Shape :=
  .record "DownwardAPIVolumeFile" <|
    [optional "fieldRef" objectField, optional "mode" .integer32, always "path" .text,
      optional "resourceFieldRef" resourceField]

def downwardApi : Shape :=
  .record "DownwardAPIVolumeSource" <|
    [optional "defaultMode" .integer32, optional "items" (.list downwardFile)]

def emptyDirectory : Shape :=
  .record "EmptyDirVolumeSource" <|
    [optional "medium" .text, optional "sizeLimit" .text]

def typedLocalReference : Shape :=
  .record "TypedLocalObjectReference" <|
    [optional "apiGroup" .text, always "kind" .text, always "name" .text]

def typedReference : Shape :=
  .record "TypedObjectReference" <|
    [optional "apiGroup" .text, optional "namespace" .text, always "kind" .text,
      always "name" .text]

def volumeResources : Shape :=
  .record "VolumeResourceRequirements" <|
    [optional "limits" (.map .text), optional "requests" (.map .text)]

def claimSpec : Shape :=
  .record "PersistentVolumeClaimSpec" <|
    optionals .text ["storageClassName", "volumeAttributesClassName", "volumeMode",
      "volumeName"] ++
    [optional "accessModes" (.list .text), optional "dataSource" typedLocalReference,
      optional "dataSourceRef" typedReference, optional "resources" volumeResources,
      optional "selector" labelSelector]

def claimTemplate : Shape :=
  .record "PersistentVolumeClaimTemplate" <|
    [optional "metadata" .metadata, always "spec" claimSpec]

def ephemeral : Shape :=
  .record "EphemeralVolumeSource" <|
    [optional "volumeClaimTemplate" claimTemplate]

def fibreChannel : Shape :=
  .record "FCVolumeSource" <|
    [optional "fsType" .text, optional "lun" .integer32, optional "readOnly" .boolean,
      optional "targetWWNs" (.list .text), optional "wwids" (.list .text)]

def flexVolume : Shape :=
  .record "FlexVolumeSource" <|
    [always "driver" .text, optional "fsType" .text, optional "options" (.map .text),
      optional "readOnly" .boolean, optional "secretRef" localReference]

def flocker : Shape :=
  .record "FlockerVolumeSource" <|
    [optional "datasetName" .text, optional "datasetUUID" .text]

def gcePersistentDisk : Shape :=
  .record "GCEPersistentDiskVolumeSource" <|
    [optional "fsType" .text, optional "partition" .integer32, always "pdName" .text,
      optional "readOnly" .boolean]

def gitRepository : Shape :=
  .record "GitRepoVolumeSource" <|
    [optional "directory" .text, optional "revision" .text, always "repository" .text]

def glusterFs : Shape :=
  .record "GlusterfsVolumeSource" <|
    [always "endpoints" .text, always "path" .text, optional "readOnly" .boolean]

def hostPath : Shape := .record "HostPathVolumeSource" [always "path" .text, optional "type" .text]

def image : Shape :=
  .record "ImageVolumeSource" <|
    [optional "pullPolicy" .text, optional "reference" .text]

def iscsi : Shape :=
  .record "ISCSIVolumeSource" <|
    optionals .boolean ["chapAuthDiscovery", "chapAuthSession", "readOnly"] ++
    optionals .text ["fsType", "initiatorName", "iscsiInterface"] ++
    [always "iqn" .text, always "targetPortal" .text, always "lun" .integer32,
      optional "portals" (.list .text), optional "secretRef" localReference]

def nfs : Shape :=
  .record "NFSVolumeSource" <|
    [always "path" .text, always "server" .text, optional "readOnly" .boolean]

def persistentVolumeClaim : Shape :=
  .record "PersistentVolumeClaimVolumeSource" <|
    [always "claimName" .text, optional "readOnly" .boolean]

def photonPersistentDisk : Shape :=
  .record "PhotonPersistentDiskVolumeSource" <|
    [optional "fsType" .text, always "pdID" .text]

def portworx : Shape :=
  .record "PortworxVolumeSource" <|
    [optional "fsType" .text, optional "readOnly" .boolean, always "volumeID" .text]

def trustBundleProjection : Shape :=
  .record "ClusterTrustBundleProjection" <|
    [optional "labelSelector" labelSelector, optional "name" .text, optional "signerName" .text,
      optional "optional" .boolean, always "path" .text]

def configMapProjection : Shape :=
  .record "ConfigMapProjection" <|
    [optional "items" (.list keyToPath), always "name" .text, optional "optional" .boolean]

def downwardProjection : Shape :=
  .record "DownwardAPIProjection" <|
    [optional "items" (.list downwardFile)]

def secretProjection : Shape :=
  .record "SecretProjection" <|
    [optional "items" (.list keyToPath), always "name" .text, optional "optional" .boolean]

def tokenProjection : Shape :=
  .record "ServiceAccountTokenProjection" <|
    [optional "audience" .text, optional "expirationSeconds" .integer64, always "path" .text]

def projection : Shape :=
  .record "VolumeProjection" <|
    [optional "clusterTrustBundle" trustBundleProjection,
      optional "configMap" configMapProjection, optional "downwardAPI" downwardProjection,
      optional "secret" secretProjection, optional "serviceAccountToken" tokenProjection]

def projected : Shape :=
  .record "ProjectedVolumeSource" <|
    [optional "defaultMode" .integer32, optional "sources" (.list projection)]

def quobyte : Shape :=
  .record "QuobyteVolumeSource" <|
    optionals .text ["group", "tenant", "user"] ++
    [optional "readOnly" .boolean, always "registry" .text, always "volume" .text]

def rbd : Shape :=
  .record "RBDVolumeSource" <|
    optionals .text ["fsType", "keyring", "pool", "user"] ++
    [always "image" .text, always "monitors" (.list .text), optional "readOnly" .boolean,
      optional "secretRef" localReference]

def scaleIo : Shape :=
  .record "ScaleIOVolumeSource" <|
    optionals .text ["fsType", "protectionDomain", "storageMode", "storagePool", "volumeName"] ++
    [optional "readOnly" .boolean, optional "sslEnabled" .boolean, always "gateway" .text,
      always "system" .text, always "secretRef" localReference]

def secret : Shape :=
  .record "SecretVolumeSource" <|
    [optional "defaultMode" .integer32, optional "items" (.list keyToPath),
      optional "optional" .boolean, optional "secretName" .text]

def storageOs : Shape :=
  .record "StorageOSVolumeSource" <|
    optionals .text ["fsType", "volumeName", "volumeNamespace"] ++
    [optional "readOnly" .boolean, optional "secretRef" localReference]

def vsphereVolume : Shape :=
  .record "VsphereVirtualDiskVolumeSource" <|
    optionals .text ["fsType", "storagePolicyID", "storagePolicyName"] ++
    [always "volumePath" .text]

def configMapVolumeMembers : List (String × Bool × Shape) :=
  [optional "defaultMode" .integer32, optional "items" (.list keyToPath),
    optional "optional" .boolean]

/-- Members of a volume that are passed on: all its sources but config maps. -/
def volumeMembers : List (String × Bool × Shape) :=
  [optional "awsElasticBlockStore" awsElasticBlockStore, optional "azureDisk" azureDisk,
    optional "azureFile" azureFile, optional "cephfs" cephFs, optional "cinder" cinder,
    optional "csi" csi, optional "downwardAPI" downwardApi, optional "emptyDir" emptyDirectory,
    optional "ephemeral" ephemeral, optional "fc" fibreChannel, optional "flexVolume" flexVolume,
    optional "flocker" flocker, optional "gcePersistentDisk" gcePersistentDisk,
    optional "gitRepo" gitRepository, optional "glusterfs" glusterFs, optional "hostPath" hostPath,
    optional "image" image, optional "iscsi" iscsi, optional "nfs" nfs,
    optional "persistentVolumeClaim" persistentVolumeClaim,
    optional "photonPersistentDisk" photonPersistentDisk, optional "portworxVolume" portworx,
    optional "projected" projected, optional "quobyte" quobyte, optional "rbd" rbd,
    optional "scaleIO" scaleIo, optional "secret" secret, optional "storageos" storageOs,
    optional "vsphereVolume" vsphereVolume]

end FlowTesting.Shape
