import GatewayOperator.Schema.Meta

namespace GatewayOperator.Schema

def keyToPath : Schema := .plain "KeyToPath"
  [always "key" .string, may "mode" .int32, always "path" .string]

def objectFieldSelector : Schema := .plain "ObjectFieldSelector"
  [may "apiVersion" .string, always "fieldPath" .string]

def resourceFieldSelector : Schema := .plain "ResourceFieldSelector"
  [may "containerName" .string, may "divisor" quantity, always "resource" .string]

def downwardFile : Schema := .plain "DownwardAPIVolumeFile"
  [may "fieldRef" objectFieldSelector, may "mode" .int32, always "path" .string,
   may "resourceFieldRef" resourceFieldSelector]

def projectedFiles (name : String) : Schema := .plain name
  [may "items" (.list keyToPath), always "name" .string, may "optional" .boolean]

def volumeProjection : Schema := .plain "VolumeProjection"
  [may "clusterTrustBundle" (.plain "ClusterTrustBundleProjection"
     [may "labelSelector" labelSelector, may "name" .string, may "optional" .boolean,
      always "path" .string, may "signerName" .string]),
   may "configMap" (projectedFiles "ConfigMapProjection"),
   may "downwardAPI" (.plain "DownwardAPIProjection" [may "items" (.list downwardFile)]),
   may "secret" (projectedFiles "SecretProjection"),
   may "serviceAccountToken" (.plain "ServiceAccountTokenProjection"
     [may "audience" .string, may "expirationSeconds" .int64, always "path" .string])]

def volumeClaimSpec : Schema := .plain "PersistentVolumeClaimSpec"
  [may "accessModes" strings,
   may "dataSource" (.plain "TypedLocalObjectReference"
     [may "apiGroup" .string, always "kind" .string, always "name" .string]),
   may "dataSourceRef" (.plain "TypedObjectReference"
     [may "apiGroup" .string, always "kind" .string, always "name" .string,
      may "namespace" .string]),
   may "resources" (.plain "VolumeResourceRequirements"
     [may "limits" quantities, may "requests" quantities]),
   may "selector" labelSelector, may "storageClassName" .string,
   may "volumeAttributesClassName" .string, may "volumeMode" .string, may "volumeName" .string]

-- The sources of a volume other than a config map
def volumeSources : Attributes :=
  [may "awsElasticBlockStore" (.plain "AWSElasticBlockStoreVolumeSource"
     [may "fsType" .string, may "partition" .int32, may "readOnly" .boolean,
      always "volumeID" .string]),
   may "azureDisk" (.plain "AzureDiskVolumeSource"
     [may "cachingMode" .string, always "diskName" .string, always "diskURI" .string,
      may "fsType" .string, may "kind" .string, may "readOnly" .boolean]),
   may "azureFile" (.plain "AzureFileVolumeSource"
     [may "readOnly" .boolean, always "secretName" .string, always "shareName" .string]),
   may "cephfs" (.plain "CephFSVolumeSource"
     [always "monitors" strings, may "path" .string, may "readOnly" .boolean,
      may "secretFile" .string, may "secretRef" localObjectReference, may "user" .string]),
   may "cinder" (.plain "CinderVolumeSource"
     [may "fsType" .string, may "readOnly" .boolean, may "secretRef" localObjectReference,
      always "volumeID" .string]),
   may "csi" (.plain "CSIVolumeSource"
     [always "driver" .string, may "fsType" .string,
      may "nodePublishSecretRef" localObjectReference, may "readOnly" .boolean,
      may "volumeAttributes" labels]),
   may "downwardAPI" (.plain "DownwardAPIVolumeSource"
     [may "defaultMode" .int32, may "items" (.list downwardFile)]),
   may "emptyDir" (.plain "EmptyDirVolumeSource" [may "medium" .string, may "sizeLimit" quantity]),
   may "ephemeral" (.plain "EphemeralVolumeSource"
     [may "volumeClaimTemplate" (.plain "PersistentVolumeClaimTemplate"
        [may "metadata" objectMeta, always "spec" volumeClaimSpec])]),
   may "fc" (.plain "FCVolumeSource"
     [may "fsType" .string, may "lun" .int32, may "readOnly" .boolean,
      may "targetWWNs" strings, may "wwids" strings]),
   may "flexVolume" (.plain "FlexVolumeSource"
     [always "driver" .string, may "fsType" .string, may "options" labels,
      may "readOnly" .boolean, may "secretRef" localObjectReference]),
   may "flocker" (.plain "FlockerVolumeSource"
     [may "datasetName" .string, may "datasetUUID" .string]),
   may "gcePersistentDisk" (.plain "GCEPersistentDiskVolumeSource"
     [may "fsType" .string, may "partition" .int32, always "pdName" .string,
      may "readOnly" .boolean]),
   may "gitRepo" (.plain "GitRepoVolumeSource"
     [may "directory" .string, always "repository" .string, may "revision" .string]),
   may "glusterfs" (.plain "GlusterfsVolumeSource"
     [always "endpoints" .string, always "path" .string, may "readOnly" .boolean]),
   may "hostPath" (.plain "HostPathVolumeSource" [always "path" .string, may "type" .string]),
   may "image" (.plain "ImageVolumeSource" [may "pullPolicy" .string, may "reference" .string]),
   may "iscsi" (.plain "ISCSIVolumeSource"
     [may "chapAuthDiscovery" .boolean, may "chapAuthSession" .boolean, may "fsType" .string,
      may "initiatorName" .string, always "iqn" .string, may "iscsiInterface" .string,
      always "lun" .int32, may "portals" strings, may "readOnly" .boolean,
      may "secretRef" localObjectReference, always "targetPortal" .string]),
   may "nfs" (.plain "NFSVolumeSource"
     [always "path" .string, may "readOnly" .boolean, always "server" .string]),
   may "persistentVolumeClaim" (.plain "PersistentVolumeClaimVolumeSource"
     [always "claimName" .string, may "readOnly" .boolean]),
   may "photonPersistentDisk" (.plain "PhotonPersistentDiskVolumeSource"
     [may "fsType" .string, always "pdID" .string]),
   may "portworxVolume" (.plain "PortworxVolumeSource"
     [may "fsType" .string, may "readOnly" .boolean, always "volumeID" .string]),
   may "projected" (.plain "ProjectedVolumeSource"
     [may "defaultMode" .int32, may "sources" (.list volumeProjection)]),
   may "quobyte" (.plain "QuobyteVolumeSource"
     [may "group" .string, may "readOnly" .boolean, always "registry" .string,
      may "tenant" .string, may "user" .string, always "volume" .string]),
   may "rbd" (.plain "RBDVolumeSource"
     [may "fsType" .string, always "image" .string, may "keyring" .string,
      always "monitors" strings, may "pool" .string, may "readOnly" .boolean,
      may "secretRef" localObjectReference, may "user" .string]),
   may "scaleIO" (.plain "ScaleIOVolumeSource"
     [may "fsType" .string, always "gateway" .string, may "protectionDomain" .string,
      may "readOnly" .boolean, always "secretRef" localObjectReference,
      may "sslEnabled" .boolean, may "storageMode" .string, may "storagePool" .string,
      always "system" .string, may "volumeName" .string]),
   may "secret" (.plain "SecretVolumeSource"
     [may "defaultMode" .int32, may "items" (.list keyToPath), may "optional" .boolean,
      may "secretName" .string]),
   may "storageos" (.plain "StorageOSVolumeSource"
     [may "fsType" .string, may "readOnly" .boolean, may "secretRef" localObjectReference,
      may "volumeName" .string, may "volumeNamespace" .string]),
   may "vsphereVolume" (.plain "VsphereVirtualDiskVolumeSource"
     [may "fsType" .string, may "storagePolicyID" .string, may "storagePolicyName" .string,
      always "volumePath" .string])]

end GatewayOperator.Schema
