import GatewayOperator.Children.Desired

namespace GatewayOperator

inductive Kind where
  | gateway
  | configMap
  | deployment
  | service
deriving DecidableEq, Repr

namespace Kind

def name : Kind → String
  | gateway => Gateway.kind
  | configMap => ConfigMap.kind
  | deployment => Deployment.kind
  | service => Service.kind

def ofName? (s : String) : Option Kind :=
  [gateway, configMap, deployment, service].find? fun k => k.name = s

abbrev Object : Kind → Type
  | gateway => Gateway
  | configMap => ConfigMap
  | deployment => Deployment
  | service => Service

def schema : Kind → Schema
  | gateway => Gateway.schema
  | configMap => ConfigMap.schema
  | deployment => Deployment.schema
  | service => Service.schema

def read : (k : Kind) → Json.Reader k.Object
  | gateway => Gateway.read
  | configMap => ConfigMap.read
  | deployment => Deployment.read
  | service => Service.read

def toJson : (k : Kind) → k.Object → Json
  | gateway => Gateway.toJson
  | configMap => ConfigMap.toJson
  | deployment => Deployment.toJson
  | service => Service.toJson

def metadata : (k : Kind) → k.Object → ObjectMeta
  | gateway => Gateway.metadata
  | configMap => ConfigMap.metadata
  | deployment => Deployment.metadata
  | service => Service.metadata

def nameOf (k : Kind) (object : k.Object) : String := (k.metadata object).nameOrStem

-- The namespace of an object, empty if it has none.
def namespaceOf (k : Kind) (object : k.Object) : String := (k.metadata object).ns.getD ""

end Kind

end GatewayOperator
