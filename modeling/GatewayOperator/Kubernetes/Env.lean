import GatewayOperator.Kubernetes.Meta

namespace GatewayOperator

-- A key of a config map or of a secret
structure KeyReference where
  key : String
  name : String
  optional : Option Bool
deriving DecidableEq, Repr

namespace KeyReference

def schema (name : String) : Schema := .plain name
  [Schema.always "key" .string, Schema.always "name" .string, Schema.may "optional" .boolean]

def read : Json.Reader KeyReference := Json.readRecord fun fs =>
  KeyReference.mk
    <$> fs.orEmpty "key" "" Json.readString
    <*> fs.orEmpty "name" "" Json.readString
    <*> fs.optional "optional" Json.readBool

def toJson (r : KeyReference) : Json := .ofRecord
  [("key", some (.string r.key)), ("name", some (.string r.name)),
   ("optional", r.optional.map .bool)] []

end KeyReference

structure PodFieldReference where
  apiVersion : Option String
  fieldPath : String
deriving DecidableEq, Repr

namespace PodFieldReference

def read : Json.Reader PodFieldReference := Json.readRecord fun fs =>
  PodFieldReference.mk
    <$> fs.optional "apiVersion" Json.readString
    <*> fs.orEmpty "fieldPath" "" Json.readString

def toJson (r : PodFieldReference) : Json := .ofRecord
  [("apiVersion", r.apiVersion.map .string), ("fieldPath", some (.string r.fieldPath))] []

end PodFieldReference

structure ResourceReference where
  containerName : Option String
  divisor : Option String
  resource : String
deriving DecidableEq, Repr

namespace ResourceReference

def read : Json.Reader ResourceReference := Json.readRecord fun fs =>
  ResourceReference.mk
    <$> fs.optional "containerName" Json.readString
    <*> fs.optional "divisor" Json.readString
    <*> fs.orEmpty "resource" "" Json.readString

def toJson (r : ResourceReference) : Json := .ofRecord
  [("containerName", r.containerName.map .string), ("divisor", r.divisor.map .string),
   ("resource", some (.string r.resource))] []

end ResourceReference

structure EnvSource where
  configMapKey : Option KeyReference := none
  podField : Option PodFieldReference := none
  resource : Option ResourceReference := none
  secretKey : Option KeyReference := none
deriving DecidableEq, Repr

namespace EnvSource

def schema : Schema := .plain "EnvVarSource"
  [Schema.may "configMapKeyRef" (KeyReference.schema "ConfigMapKeySelector"),
   Schema.may "fieldRef" .objectFieldSelector,
   Schema.may "resourceFieldRef" .resourceFieldSelector,
   Schema.may "secretKeyRef" (KeyReference.schema "SecretKeySelector")]

def read : Json.Reader EnvSource := Json.readRecord fun fs =>
  EnvSource.mk
    <$> fs.optional "configMapKeyRef" KeyReference.read
    <*> fs.optional "fieldRef" PodFieldReference.read
    <*> fs.optional "resourceFieldRef" ResourceReference.read
    <*> fs.optional "secretKeyRef" KeyReference.read

def toJson (s : EnvSource) : Json := .ofRecord
  [("configMapKeyRef", s.configMapKey.map KeyReference.toJson),
   ("fieldRef", s.podField.map PodFieldReference.toJson),
   ("resourceFieldRef", s.resource.map ResourceReference.toJson),
   ("secretKeyRef", s.secretKey.map KeyReference.toJson)] []

end EnvSource

structure EnvVar where
  name : String
  value : Option String := none
  source : Option EnvSource := none
deriving DecidableEq, Repr

namespace EnvVar

def schema : Schema := .plain "EnvVar"
  [Schema.always "name" .string, Schema.may "value" .string,
   Schema.may "valueFrom" EnvSource.schema]

def read : Json.Reader EnvVar := Json.readRecord fun fs =>
  EnvVar.mk
    <$> fs.orEmpty "name" "" Json.readString
    <*> fs.optional "value" Json.readString
    <*> fs.optional "valueFrom" EnvSource.read

def toJson (v : EnvVar) : Json := .ofRecord
  [("name", some (.string v.name)), ("value", v.value.map .string),
   ("valueFrom", v.source.map EnvSource.toJson)] []

end EnvVar

-- A config map or a secret that is imported whole
structure BulkReference where
  name : String
  optional : Option Bool
deriving DecidableEq, Repr

namespace BulkReference

def schema (name : String) : Schema := .plain name
  [Schema.always "name" .string, Schema.may "optional" .boolean]

def read : Json.Reader BulkReference := Json.readRecord fun fs =>
  BulkReference.mk
    <$> fs.orEmpty "name" "" Json.readString
    <*> fs.optional "optional" Json.readBool

def toJson (r : BulkReference) : Json := .ofRecord
  [("name", some (.string r.name)), ("optional", r.optional.map .bool)] []

end BulkReference

structure EnvImport where
  configMap : Option BulkReference
  keyPrefix : Option String
  secret : Option BulkReference
deriving DecidableEq, Repr

namespace EnvImport

def schema : Schema := .plain "EnvFromSource"
  [Schema.may "configMapRef" (BulkReference.schema "ConfigMapEnvSource"),
   Schema.may "prefix" .string,
   Schema.may "secretRef" (BulkReference.schema "SecretEnvSource")]

def read : Json.Reader EnvImport := Json.readRecord fun fs =>
  EnvImport.mk
    <$> fs.optional "configMapRef" BulkReference.read
    <*> fs.optional "prefix" Json.readString
    <*> fs.optional "secretRef" BulkReference.read

def toJson (i : EnvImport) : Json := .ofRecord
  [("configMapRef", i.configMap.map BulkReference.toJson),
   ("prefix", i.keyPrefix.map .string),
   ("secretRef", i.secret.map BulkReference.toJson)] []

end EnvImport

end GatewayOperator
