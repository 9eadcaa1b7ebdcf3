import GatewayOperator.Gateway.Basic
import GatewayOperator.Kubernetes.ConfigMap
import GatewayOperator.Kubernetes.Deployment
import GatewayOperator.Kubernetes.Service
import GatewayOperator.Proxy.Config

namespace GatewayOperator

structure ProxySettings where
  image : String := "ghcr.io/berriai/litellm:v1.77.2-stable"
  -- the secret that may hold the keys of the providers
  apiKeySecret : String := "api-key-secrets"
deriving DecidableEq, Repr

-- What the metadata of a gateway lacks to own other objects
inductive MissingKey where
  | ns
  | uid
deriving DecidableEq, Repr

def MissingKey.path : MissingKey → String
  | .ns => ".metadata.namespace"
  | .uid => ".metadata.uid"

structure Children where
  configMap : ConfigMap
  deployment : Deployment
  service : Service

namespace Children

def configHashAnnotation : String := "gateway.agentic-layer.ai/config-hash"

def configFileKey : String := "config.yaml"

def configMountPath : String := "/app/config"

def containerName : String := "litellm"

def portName : String := "http"

def appLabel : String := "app"

def configVolume : String := "config"

def logLevelVariable : String := "LITELLM_LOG"

def logLevel : String := "INFO"

def protocol : String := "TCP"

def configMapName (gatewayName : String) : String := gatewayName ++ "-config"

def appLabels (gatewayName : String) : Dict String := .singleton appLabel gatewayName

-- The reference by which a gateway owns an object as its controller.
def ownerReference? (g : Gateway) : Option OwnerReference :=
  match g.metadata.name, g.metadata.uid with
  | some name, some uid => some ⟨apiVersion, none, some true, Gateway.kind, name, uid⟩
  | _, _ => none

def objectMeta (gatewayName ns : String) (owner : OwnerReference) (name : String) :
    ObjectMeta :=
  { name := some name, ns := some ns, labels := some (appLabels gatewayName),
    ownerReferences := some [owner] }

def configMapFor (metadata : ObjectMeta) (rendered : RenderedConfig) : ConfigMap :=
  { metadata, data := some (.singleton configFileKey rendered.data) }

-- A variable that takes its value from the key of its own name in the secret, if there is one.
def apiKeyVariable (secret key : String) : EnvVar :=
  { name := key, source := some { secretKey := some ⟨key, secret, some true⟩ } }

-- The log level, the keys that the models need, and what the spec adds.
def environment (g : Gateway) (settings : ProxySettings) : List EnvVar :=
  { name := logLevelVariable, value := some logLevel } ::
    (ApiKey.required g.spec.models).map (apiKeyVariable settings.apiKeySecret) ++ g.spec.env

def container (g : Gateway) (settings : ProxySettings) : Container :=
  { name := containerName
    image := some settings.image
    command := some ["litellm", "--config", configMountPath ++ "/" ++ configFileKey, "--port",
      toString g.spec.port]
    ports := some
      [{ containerPort := g.spec.port, name := some portName, protocol := some protocol }]
    volumeMounts := some
      [{ name := configVolume, mountPath := configMountPath, readOnly := some true }]
    env := some (environment g settings)
    envFrom := if g.spec.envFrom.isEmpty then none else some g.spec.envFrom }

def volume (gatewayName : String) : Volume :=
  { name := configVolume, configMap := some { name := configMapName gatewayName } }

-- The pods carry the hash of the configuration, so that they are replaced when it changes.
def podTemplate (g : Gateway) (rendered : RenderedConfig) (settings : ProxySettings) :
    PodTemplate :=
  { metadata := some
      { labels := some (appLabels g.name)
        annotations := some (.singleton configHashAnnotation rendered.hash) }
    spec := some { containers := [container g settings], volumes := some [volume g.name] } }

def deploymentFor (metadata : ObjectMeta) (g : Gateway) (rendered : RenderedConfig)
    (settings : ProxySettings) : Deployment :=
  { metadata
    spec := some
      { replicas := some 1
        selector := { matchLabels := some (appLabels g.name) }
        template := podTemplate g rendered settings } }

def serviceFor (metadata : ObjectMeta) (g : Gateway) : Service :=
  { metadata
    spec := some
      { type := some "ClusterIP"
        selector := some (appLabels g.name)
        ports := some
          [{ port := g.spec.port, name := some portName,
             targetPort := some (.number g.spec.port), protocol := some protocol }] } }

-- The children of a gateway that has a namespace, a name and a uid.
def ofGateway (g : Gateway) (rendered : RenderedConfig) (settings : ProxySettings) :
    Except MissingKey Children :=
  match g.metadata.ns, ownerReference? g with
  | none, _ => .error .ns
  | some _, none => .error .uid
  | some ns, some owner =>
    let metadata := objectMeta g.name ns owner
    .ok
      { configMap := configMapFor (metadata (configMapName g.name)) rendered
        deployment := deploymentFor (metadata g.name) g rendered settings
        service := serviceFor (metadata g.name) g }

end Children

end GatewayOperator
