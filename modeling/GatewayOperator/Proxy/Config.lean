import GatewayOperator.Digest.Sha256
import GatewayOperator.Gateway.Validation
import GatewayOperator.Proxy.Route
import GatewayOperator.Yaml.Printer

namespace GatewayOperator

structure ModelEntry where
  modelName : String
  -- the routing target
  model : String
  apiKey : Option String
deriving DecidableEq, Repr

namespace ModelEntry

-- The proxy looks the key up in the variable named behind the slash.
def keyReference (variableName : String) : String := "os.environ/" ++ variableName

def ofModel (m : Model) : ModelEntry :=
  let route := Route.ofModel m
  ⟨m.name, route.target, (ApiKey.variableOf route.provider).map keyReference⟩

def readParams : Json.Reader (String × Option String) :=
  Json.readRecordOrList ["model", "api_key"] 1 fun fs =>
    Prod.mk <$> fs.required "model" Json.readString <*> fs.optional "api_key" Json.readString

def read : Json.Reader ModelEntry :=
  Json.readRecordOrList ["model_name", "litellm_params"] 2 fun fs =>
    (fun name params => ModelEntry.mk name params.1 params.2)
      <$> fs.required "model_name" Json.readString
      <*> fs.required "litellm_params" readParams

def toJson (e : ModelEntry) : Json := .object
  [("model_name", .string e.modelName),
   ("litellm_params", .object (Fields.present
     [("model", some (.string e.model)), ("api_key", e.apiKey.map .string)]))]

end ModelEntry

structure ProxyConfig where
  models : List ModelEntry
  -- in seconds
  requestTimeout : Nat
deriving DecidableEq, Repr

namespace ProxyConfig

def defaultRequestTimeout : Nat := 600

def ofModels (models : List Model) : ProxyConfig :=
  ⟨models.map .ofModel, defaultRequestTimeout⟩

def readSettings : Json.Reader Nat := Json.readRecordOrList ["request_timeout"] 1 fun fs =>
  fs.required "request_timeout" Json.readNat32

def read : Json.Reader ProxyConfig :=
  Json.readRecordOrList ["model_list", "litellm_settings"] 2 fun fs =>
    ProxyConfig.mk
      <$> fs.required "model_list" (Json.readList ModelEntry.read)
      <*> fs.required "litellm_settings" readSettings

def toJson (c : ProxyConfig) : Json := .object
  [("model_list", .ofList ModelEntry.toJson c.models),
   ("litellm_settings", .object [("request_timeout", .nat c.requestTimeout)])]

def text (c : ProxyConfig) : String := Yaml.render c.toJson

end ProxyConfig

namespace Fingerprint

-- How many hexadecimal digits of the hash are kept
def length : Nat := 16

def ofText (text : String) : String :=
  String.ofList ((Sha256.hexDigits (Sha256.digest text.toUTF8.toList)).take length)

end Fingerprint

structure RenderedConfig where
  config : ProxyConfig
  data : String
  hash : String
deriving DecidableEq, Repr

namespace RenderedConfig

def ofConfig (config : ProxyConfig) : RenderedConfig :=
  ⟨config, config.text, Fingerprint.ofText config.text⟩

-- The configuration for a spec that has passed its checks.
def ofSpec (s : GatewaySpec) : RenderedConfig := ofConfig (.ofModels s.models)

end RenderedConfig

namespace GatewaySpec

def render (s : GatewaySpec) : Except SpecFault RenderedConfig := do
  let _ ← s.check
  return .ofSpec s

end GatewaySpec

end GatewayOperator
