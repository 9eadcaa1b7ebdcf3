import GatewayOperator.Gateway.Basic
import GatewayOperator.ResourceDefinition.Kubernetes
import GatewayOperator.Text.Case
import GatewayOperator.Yaml.Printer

namespace GatewayOperator

structure PrinterColumn where
  name : String
  type : String
  path : String

inductive Scope where
  | cluster
  | namespaced
deriving DecidableEq, Repr

def Scope.text : Scope → String
  | .cluster => "Cluster"
  | .namespaced => "Namespaced"

structure ResourceDefinition where
  kind : String
  plural : String
  scope : Scope
  columns : List PrinterColumn
  schema : OpenApi
  -- whether the status is written apart from the rest
  statusSubresource : Bool := false

namespace ResourceDefinition

open OpenApi (must may)

def columnToJson (c : PrinterColumn) : Json := .object
  [("jsonPath", .string c.path), ("name", .string c.name), ("type", .string c.type)]

def namesToJson (d : ResourceDefinition) : Json := .object
  [("categories", .array []), ("kind", .string d.kind), ("plural", .string d.plural),
   ("shortNames", .array []), ("singular", .string (lowercase d.kind))]

def versionToJson (d : ResourceDefinition) : Json := .object
  [("additionalPrinterColumns", .ofList columnToJson d.columns),
   ("name", .string versionName),
   ("schema", .object [("openAPIV3Schema", d.schema.toJson)]),
   ("served", .bool true),
   ("storage", .bool true),
   ("subresources", .object (if d.statusSubresource then [("status", .object [])] else []))]

def toJson (d : ResourceDefinition) : Json := .object
  [("apiVersion", .string "apiextensions.k8s.io/v1"),
   ("kind", .string "CustomResourceDefinition"),
   ("metadata", .object [("name", .string (d.plural ++ "." ++ apiGroup))]),
   ("spec", .object
     [("group", .string apiGroup), ("names", d.namesToJson),
      ("scope", .string d.scope.text),
      ("versions", .array [d.versionToJson])])]

-- The schema of a resource with a spec and its further properties.
def rootSchema (kind : String) (spec : OpenApi) (more : List (String × Bool × OpenApi)) :
    OpenApi :=
  .record
    { description :=
        "Auto-generated derived type for " ++ kind ++ "Spec via `CustomResource`"
      title := some kind }
    (must "spec" spec :: more)

def modelSchema : OpenApi :=
  .recordOf "A model exposed by the gateway"
    [must "name"
      (.text "Public model name. Without a provider this must be \"provider/model\"."),
     may "provider"
      (.nullableText "Provider serving the model (openai, anthropic, ollama, ...)")]

def specSchema : OpenApi :=
  .recordOf
    ("AiGateway describes a model gateway that routes requests to one or more AI providers " ++
     "through a LiteLLM proxy")
    [may "aiGatewayClassName" (.nullableText <|
      "Name of the AiGatewayClass responsible for this gateway. When unset the cluster's " ++
      "default class applies."),
     may "aiModels" (.list
      { description := "Models served by this gateway, in declaration order"
        default := some (.array []) }
      modelSchema),
     may "env" (.listOf "Extra environment variables passed to the proxy container"
      OpenApi.envVar),
     may "envFrom" (.listOf "Bulk imports of ConfigMaps or Secrets into the proxy environment"
      OpenApi.envImport),
     may "port" (.scalar
      { description := "Port the proxy listens on, also exposed by the Service"
        default := some (.int GatewaySpec.defaultPort) }
      "integer" (some "int32")),
     may "type" (.nullableText
      "Proxy implementation used to serve the gateway (only \"litellm\")")]

def statusSchema : OpenApi :=
  .record
    { description := "Observed state of an AiGateway, written only by the controller"
      nullable := true }
    [may "conditions" (.listOf "Configured and Ready conditions" OpenApi.condition),
     may "configHash" (.nullableText "Short fingerprint of the rendered proxy configuration"),
     may "lastUpdated" (.scalar
      { description := "When the configuration was last applied", nullable := true }
      "string" (some "date-time"))]

def gateway : ResourceDefinition where
  kind := Gateway.kind
  plural := "aigateways"
  scope := .namespaced
  columns := [⟨"Port", "integer", ".spec.port"⟩, ⟨"Hash", "string", ".status.configHash"⟩]
  schema := rootSchema Gateway.kind specSchema [may "status" statusSchema]
  statusSubresource := true

def gatewayClass : ResourceDefinition where
  kind := GatewayClass.kind
  plural := "aigatewayclasses"
  scope := .cluster
  columns := [⟨"Controller", "string", ".spec.controller"⟩]
  schema :=
    rootSchema GatewayClass.kind
      (.recordOf "AiGatewayClass binds a class name to the controller implementing it"
        [must "controller"
          (.text "Identifier of the controller that manages gateways of this class")])
      []

-- Both definitions as documents of one stream.
def stream : String :=
  String.join ([gatewayClass, gateway].map fun d => "---\n" ++ Yaml.render d.toJson)

end ResourceDefinition

end GatewayOperator
