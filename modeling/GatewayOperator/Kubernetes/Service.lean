import GatewayOperator.Kubernetes.Meta

namespace GatewayOperator

inductive PortReference where
  | number (port : Int)
  | name (port : String)
deriving DecidableEq, Repr

namespace PortReference

def read : Json.Reader PortReference
  | .string s => .ok (.name s)
  | j => .number <$> Json.readInt32 j

def toJson : PortReference → Json
  | .number port => .int port
  | .name port => .string port

end PortReference

structure ServicePort where
  port : Int
  name : Option String := none
  targetPort : Option PortReference := none
  protocol : Option String := none
  nodePort : Option Int := none
  appProtocol : Option String := none
deriving DecidableEq, Repr

namespace ServicePort

def schema : Schema := .plain "ServicePort"
  [Schema.always "port" .int32, Schema.may "name" .string,
   Schema.may "targetPort" .intOrString, Schema.may "protocol" .string,
   Schema.may "nodePort" .int32, Schema.may "appProtocol" .string]

def read : Json.Reader ServicePort := Json.readRecord fun fs =>
  ServicePort.mk
    <$> fs.orEmpty "port" 0 Json.readInt32
    <*> fs.optional "name" Json.readString
    <*> fs.optional "targetPort" PortReference.read
    <*> fs.optional "protocol" Json.readString
    <*> fs.optional "nodePort" Json.readInt32
    <*> fs.optional "appProtocol" Json.readString

def toJson (p : ServicePort) : Json := .ofRecord
  [("appProtocol", p.appProtocol.map .string),
   ("name", p.name.map .string),
   ("nodePort", p.nodePort.map .int),
   ("port", some (.int p.port)),
   ("protocol", p.protocol.map .string),
   ("targetPort", p.targetPort.map PortReference.toJson)] []

end ServicePort

structure ServiceSpec where
  type : Option String := none
  selector : Option (Dict String) := none
  ports : Option (List ServicePort) := none
  carried : Fields := []

namespace ServiceSpec

def schema : Schema := .plain "ServiceSpec"
  ([Schema.may "type" .string, Schema.may "selector" .labels,
    Schema.may "ports" (.list ServicePort.schema)] ++ Schema.serviceSpecCarried)

def read : Json.Reader ServiceSpec := Json.readRecord fun fs =>
  ServiceSpec.mk
    <$> fs.optional "type" Json.readString
    <*> fs.optional "selector" (Json.readDict Json.readString)
    <*> fs.optional "ports" (Json.readList ServicePort.read)
    <*> Schema.readFields Schema.serviceSpecCarried fs

def toJson (s : ServiceSpec) : Json := .ofRecord
  [("ports", s.ports.map (.ofList ServicePort.toJson)),
   ("selector", s.selector.map .ofDict),
   ("type", s.type.map .string)] s.carried

end ServiceSpec

structure Service where
  metadata : ObjectMeta
  spec : Option ServiceSpec := none
  carried : Fields := []

namespace Service

def apiVersion : String := "v1"

def kind : String := "Service"

def carriedAttributes : Schema.Attributes := [Schema.may "status" .serviceStatus]

def schema : Schema := .plain kind
  (Schema.typeTag apiVersion kind ++
    [Schema.always "metadata" .objectMeta, Schema.may "spec" ServiceSpec.schema] ++
    carriedAttributes)

def read : Json.Reader Service := Json.readRecord fun fs =>
  (fun _ metadata spec carried => Service.mk metadata spec carried)
    <$> readTypeTag apiVersion kind fs
    <*> fs.orEmpty "metadata" {} ObjectMeta.read
    <*> fs.optional "spec" ServiceSpec.read
    <*> Schema.readFields carriedAttributes fs

def toJson (s : Service) : Json := .ofRecord
  [("apiVersion", some (.string apiVersion)),
   ("kind", some (.string kind)),
   ("metadata", some s.metadata.toJson),
   ("spec", s.spec.map ServiceSpec.toJson)] s.carried

def firstPort? (s : Service) : Option Int :=
  (s.spec.bind fun spec => spec.ports).bind fun ports => ports.head?.map ServicePort.port

end Service

end GatewayOperator
