import GatewayOperator.Kubernetes.Env

namespace GatewayOperator

structure Model where
  name : String
  provider : Option String := none
deriving DecidableEq, Repr

namespace Model

def attributes : Schema.Attributes :=
  [Schema.must "name" .string, Schema.may "provider" .string]

def schema : Schema := .strict "AiModel" attributes

def read : Json.Reader Model := Schema.readStrict attributes fun fs =>
  Model.mk
    <$> fs.required "name" Json.readString
    <*> fs.optional "provider" Json.readString

def toJson (m : Model) : Json := .ofRecord
  [("name", some (.string m.name)), ("provider", m.provider.map .string)] []

end Model

def Json.ofListUnlessEmpty {α : Type} (write : α → Json) (items : List α) : Option Json :=
  if items.isEmpty then none else some (.ofList write items)

structure GatewaySpec where
  className : Option String := none
  type : Option String := none
  port : Int := 4000
  models : List Model := []
  env : List EnvVar := []
  envFrom : List EnvImport := []
deriving DecidableEq, Repr

namespace GatewaySpec

def defaultPort : Int := 4000

def attributes : Schema.Attributes :=
  [Schema.may "aiGatewayClassName" .string, Schema.may "type" .string,
   Schema.defaulted "port" .int32, Schema.defaulted "aiModels" (.list Model.schema),
   Schema.defaulted "env" (.list EnvVar.schema),
   Schema.defaulted "envFrom" (.list EnvImport.schema)]

def schema : Schema := .strict "AiGatewaySpec" attributes

def read : Json.Reader GatewaySpec := Schema.readStrict attributes fun fs =>
  GatewaySpec.mk
    <$> fs.optional "aiGatewayClassName" Json.readString
    <*> fs.optional "type" Json.readString
    <*> fs.orDefault "port" defaultPort Json.readInt32
    <*> fs.orDefault "aiModels" [] (Json.readList Model.read)
    <*> fs.orDefault "env" [] (Json.readList EnvVar.read)
    <*> fs.orDefault "envFrom" [] (Json.readList EnvImport.read)

def toJson (s : GatewaySpec) : Json := .ofRecord
  [("aiGatewayClassName", s.className.map .string),
   ("aiModels", some (.ofList Model.toJson s.models)),
   ("env", Json.ofListUnlessEmpty EnvVar.toJson s.env),
   ("envFrom", Json.ofListUnlessEmpty EnvImport.toJson s.envFrom),
   ("port", some (.int s.port)),
   ("type", s.type.map .string)] []

end GatewaySpec

end GatewayOperator
