import GatewayOperator.Kubernetes.Meta

namespace GatewayOperator

structure ConfigMap where
  metadata : ObjectMeta
  data : Option (Dict String) := none
  carried : Fields := []

namespace ConfigMap

def apiVersion : String := "v1"

def kind : String := "ConfigMap"

def carriedAttributes : Schema.Attributes :=
  [Schema.may "binaryData" (.dict .bytes), Schema.may "immutable" .boolean]

def schema : Schema := .plain kind
  (Schema.typeTag apiVersion kind ++
    [Schema.always "metadata" .objectMeta, Schema.may "data" .labels] ++ carriedAttributes)

def read : Json.Reader ConfigMap := Json.readRecord fun fs =>
  (fun _ metadata data carried => ConfigMap.mk metadata data carried)
    <$> readTypeTag apiVersion kind fs
    <*> fs.orEmpty "metadata" {} ObjectMeta.read
    <*> fs.optional "data" (Json.readDict Json.readString)
    <*> Schema.readFields carriedAttributes fs

def toJson (c : ConfigMap) : Json := .ofRecord
  [("apiVersion", some (.string apiVersion)),
   ("data", c.data.map .ofDict),
   ("kind", some (.string kind)),
   ("metadata", some c.metadata.toJson)] c.carried

end ConfigMap

end GatewayOperator
