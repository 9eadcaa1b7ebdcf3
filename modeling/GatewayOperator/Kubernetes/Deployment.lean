import GatewayOperator.Kubernetes.Env

namespace GatewayOperator

structure ContainerPort where
  containerPort : Int
  hostIP : Option String := none
  hostPort : Option Int := none
  name : Option String := none
  protocol : Option String := none
deriving DecidableEq, Repr

namespace ContainerPort

def schema : Schema := .plain "ContainerPort"
  [Schema.always "containerPort" .int32, Schema.may "hostIP" .string,
   Schema.may "hostPort" .int32, Schema.may "name" .string, Schema.may "protocol" .string]

def read : Json.Reader ContainerPort := Json.readRecord fun fs =>
  ContainerPort.mk
    <$> fs.orEmpty "containerPort" 0 Json.readInt32
    <*> fs.optional "hostIP" Json.readString
    <*> fs.optional "hostPort" Json.readInt32
    <*> fs.optional "name" Json.readString
    <*> fs.optional "protocol" Json.readString

def toJson (p : ContainerPort) : Json := .ofRecord
  [("containerPort", some (.int p.containerPort)),
   ("hostIP", p.hostIP.map .string),
   ("hostPort", p.hostPort.map .int),
   ("name", p.name.map .string),
   ("protocol", p.protocol.map .string)] []

end ContainerPort

structure VolumeMount where
  name : String
  mountPath : String
  readOnly : Option Bool := none
  carried : Fields := []

namespace VolumeMount

def carriedAttributes : Schema.Attributes :=
  [Schema.may "mountPropagation" .string, Schema.may "recursiveReadOnly" .string,
   Schema.may "subPath" .string, Schema.may "subPathExpr" .string]

def schema : Schema := .plain "VolumeMount"
  ([Schema.always "name" .string, Schema.always "mountPath" .string,
    Schema.may "readOnly" .boolean] ++ carriedAttributes)

def read : Json.Reader VolumeMount := Json.readRecord fun fs =>
  VolumeMount.mk
    <$> fs.orEmpty "name" "" Json.readString
    <*> fs.orEmpty "mountPath" "" Json.readString
    <*> fs.optional "readOnly" Json.readBool
    <*> Schema.readFields carriedAttributes fs

def toJson (m : VolumeMount) : Json := .ofRecord
  [("mountPath", some (.string m.mountPath)),
   ("name", some (.string m.name)),
   ("readOnly", m.readOnly.map .bool)] m.carried

end VolumeMount

structure Container where
  name : String
  image : Option String := none
  command : Option (List String) := none
  ports : Option (List ContainerPort) := none
  volumeMounts : Option (List VolumeMount) := none
  env : Option (List EnvVar) := none
  envFrom : Option (List EnvImport) := none
  carried : Fields := []

namespace Container

def schemaCarrying (name : String) (carried : Schema.Attributes) : Schema := .plain name
  ([Schema.always "name" .string, Schema.may "image" .string, Schema.may "command" .strings,
    Schema.may "ports" (.list ContainerPort.schema),
    Schema.may "volumeMounts" (.list VolumeMount.schema),
    Schema.may "env" (.list EnvVar.schema),
    Schema.may "envFrom" (.list EnvImport.schema)] ++ carried)

def schema : Schema := schemaCarrying "Container" Schema.containerCarried

def ephemeralSchema : Schema :=
  schemaCarrying "EphemeralContainer" Schema.ephemeralContainerCarried

def readCarrying (carried : Schema.Attributes) : Json.Reader Container :=
  Json.readRecord fun fs =>
    Container.mk
      <$> fs.orEmpty "name" "" Json.readString
      <*> fs.optional "image" Json.readString
      <*> fs.optional "command" (Json.readList Json.readString)
      <*> fs.optional "ports" (Json.readList ContainerPort.read)
      <*> fs.optional "volumeMounts" (Json.readList VolumeMount.read)
      <*> fs.optional "env" (Json.readList EnvVar.read)
      <*> fs.optional "envFrom" (Json.readList EnvImport.read)
      <*> Schema.readFields carried fs

def read : Json.Reader Container := readCarrying Schema.containerCarried

def readEphemeral : Json.Reader Container := readCarrying Schema.ephemeralContainerCarried

def toJson (c : Container) : Json := .ofRecord
  [("command", c.command.map .strings),
   ("env", c.env.map (.ofList EnvVar.toJson)),
   ("envFrom", c.envFrom.map (.ofList EnvImport.toJson)),
   ("image", c.image.map .string),
   ("name", some (.string c.name)),
   ("ports", c.ports.map (.ofList ContainerPort.toJson)),
   ("volumeMounts", c.volumeMounts.map (.ofList VolumeMount.toJson))] c.carried

end Container

structure ConfigMapVolume where
  name : String
  carried : Fields := []

namespace ConfigMapVolume

def carriedAttributes : Schema.Attributes :=
  [Schema.may "defaultMode" .int32, Schema.may "items" (.list .keyToPath),
   Schema.may "optional" .boolean]

def schema : Schema := .plain "ConfigMapVolumeSource"
  (Schema.always "name" .string :: carriedAttributes)

def read : Json.Reader ConfigMapVolume := Json.readRecord fun fs =>
  ConfigMapVolume.mk
    <$> fs.orEmpty "name" "" Json.readString
    <*> Schema.readFields carriedAttributes fs

def toJson (v : ConfigMapVolume) : Json := .ofRecord
  [("name", some (.string v.name))] v.carried

end ConfigMapVolume

structure Volume where
  name : String
  configMap : Option ConfigMapVolume := none
  carried : Fields := []

namespace Volume

def schema : Schema := .plain "Volume"
  ([Schema.always "name" .string, Schema.may "configMap" ConfigMapVolume.schema] ++
    Schema.volumeSources)

def read : Json.Reader Volume := Json.readRecord fun fs =>
  Volume.mk
    <$> fs.orEmpty "name" "" Json.readString
    <*> fs.optional "configMap" ConfigMapVolume.read
    <*> Schema.readFields Schema.volumeSources fs

def toJson (v : Volume) : Json := .ofRecord
  [("configMap", v.configMap.map ConfigMapVolume.toJson), ("name", some (.string v.name))]
  v.carried

end Volume

structure PodSpec where
  containers : List Container := []
  initContainers : Option (List Container) := none
  ephemeralContainers : Option (List Container) := none
  volumes : Option (List Volume) := none
  carried : Fields := []

namespace PodSpec

def schema : Schema := .plain "PodSpec"
  ([Schema.always "containers" (.list Container.schema),
    Schema.may "initContainers" (.list Container.schema),
    Schema.may "ephemeralContainers" (.list Container.ephemeralSchema),
    Schema.may "volumes" (.list Volume.schema)] ++ Schema.podCarried)

def read : Json.Reader PodSpec := Json.readRecord fun fs =>
  PodSpec.mk
    <$> fs.orEmpty "containers" [] (Json.readList Container.read)
    <*> fs.optional "initContainers" (Json.readList Container.read)
    <*> fs.optional "ephemeralContainers" (Json.readList Container.readEphemeral)
    <*> fs.optional "volumes" (Json.readList Volume.read)
    <*> Schema.readFields Schema.podCarried fs

def toJson (p : PodSpec) : Json := .ofRecord
  [("containers", some (.ofList Container.toJson p.containers)),
   ("ephemeralContainers", p.ephemeralContainers.map (.ofList Container.toJson)),
   ("initContainers", p.initContainers.map (.ofList Container.toJson)),
   ("volumes", p.volumes.map (.ofList Volume.toJson))] p.carried

end PodSpec

structure PodTemplate where
  metadata : Option ObjectMeta := none
  spec : Option PodSpec := none

namespace PodTemplate

def schema : Schema := .plain "PodTemplateSpec"
  [Schema.may "metadata" .objectMeta, Schema.may "spec" PodSpec.schema]

def read : Json.Reader PodTemplate := Json.readRecord fun fs =>
  PodTemplate.mk
    <$> fs.optional "metadata" ObjectMeta.read
    <*> fs.optional "spec" PodSpec.read

def toJson (t : PodTemplate) : Json := .ofRecord
  [("metadata", t.metadata.map ObjectMeta.toJson), ("spec", t.spec.map PodSpec.toJson)] []

end PodTemplate

structure DeploymentSpec where
  replicas : Option Int := none
  selector : LabelSelector := {}
  template : PodTemplate := {}
  carried : Fields := []

namespace DeploymentSpec

def schema : Schema := .plain "DeploymentSpec"
  ([Schema.may "replicas" .int32, Schema.always "selector" .labelSelector,
    Schema.always "template" PodTemplate.schema] ++ Schema.deploymentSpecCarried)

def read : Json.Reader DeploymentSpec := Json.readRecord fun fs =>
  DeploymentSpec.mk
    <$> fs.optional "replicas" Json.readInt32
    <*> fs.orEmpty "selector" {} LabelSelector.read
    <*> fs.orEmpty "template" {} PodTemplate.read
    <*> Schema.readFields Schema.deploymentSpecCarried fs

def toJson (s : DeploymentSpec) : Json := .ofRecord
  [("replicas", s.replicas.map .int),
   ("selector", some s.selector.toJson),
   ("template", some s.template.toJson)] s.carried

end DeploymentSpec

structure Deployment where
  metadata : ObjectMeta
  spec : Option DeploymentSpec := none
  carried : Fields := []

namespace Deployment

def apiVersion : String := "apps/v1"

def kind : String := "Deployment"

def carriedAttributes : Schema.Attributes := [Schema.may "status" .deploymentStatus]

def schema : Schema := .plain kind
  (Schema.typeTag apiVersion kind ++
    [Schema.always "metadata" .objectMeta, Schema.may "spec" DeploymentSpec.schema] ++
    carriedAttributes)

def read : Json.Reader Deployment := Json.readRecord fun fs =>
  (fun _ metadata spec carried => Deployment.mk metadata spec carried)
    <$> readTypeTag apiVersion kind fs
    <*> fs.orEmpty "metadata" {} ObjectMeta.read
    <*> fs.optional "spec" DeploymentSpec.read
    <*> Schema.readFields carriedAttributes fs

def toJson (d : Deployment) : Json := .ofRecord
  [("apiVersion", some (.string apiVersion)),
   ("kind", some (.string kind)),
   ("metadata", some d.metadata.toJson),
   ("spec", d.spec.map DeploymentSpec.toJson)] d.carried

-- The metadata of the pods, empty if there is none.
def podMetadata (d : Deployment) : ObjectMeta :=
  (d.spec.bind fun s => s.template.metadata).getD {}

def firstContainer? (d : Deployment) : Option Container :=
  d.spec.bind fun s => s.template.spec.bind fun p => p.containers.head?

end Deployment

end GatewayOperator
