import GatewayOperator.Schema.Pod

namespace GatewayOperator

-- The object of the given fields and of those carried along, in order of their names.
def Json.ofRecord (fields : List (String × Option Json)) (carried : Fields) : Json :=
  .object (Fields.insertAll (Fields.present fields) carried)

def Json.ofList {α : Type} (write : α → Json) (items : List α) : Json := .array (items.map write)

structure OwnerReference where
  apiVersion : String
  blockOwnerDeletion : Option Bool
  controller : Option Bool
  kind : String
  name : String
  uid : String
deriving DecidableEq, Repr

namespace OwnerReference

def read : Json.Reader OwnerReference := Json.readRecord fun fs =>
  OwnerReference.mk
    <$> fs.orEmpty "apiVersion" "" Json.readString
    <*> fs.optional "blockOwnerDeletion" Json.readBool
    <*> fs.optional "controller" Json.readBool
    <*> fs.orEmpty "kind" "" Json.readString
    <*> fs.orEmpty "name" "" Json.readString
    <*> fs.orEmpty "uid" "" Json.readString

def toJson (o : OwnerReference) : Json := .ofRecord
  [("apiVersion", some (.string o.apiVersion)),
   ("blockOwnerDeletion", o.blockOwnerDeletion.map .bool),
   ("controller", o.controller.map .bool),
   ("kind", some (.string o.kind)),
   ("name", some (.string o.name)),
   ("uid", some (.string o.uid))] []

end OwnerReference

-- The fields that the controller reads or writes have types of their own; all others are carried
-- along in canonical form.
structure ObjectMeta where
  name : Option String := none
  generateName : Option String := none
  ns : Option String := none
  uid : Option String := none
  resourceVersion : Option String := none
  labels : Option (Dict String) := none
  annotations : Option (Dict String) := none
  ownerReferences : Option (List OwnerReference) := none
  -- all other fields
  carried : Fields := []

namespace ObjectMeta

def carriedAttributes : Schema.Attributes :=
  [Schema.may "creationTimestamp" .instant, Schema.may "deletionGracePeriodSeconds" .int64,
   Schema.may "deletionTimestamp" .instant, Schema.may "finalizers" .strings,
   Schema.may "generation" .int64, Schema.may "managedFields" (.list .managedFieldsEntry),
   Schema.may "selfLink" .string]

def read : Json.Reader ObjectMeta := Json.readRecord fun fs =>
  ObjectMeta.mk
    <$> fs.optional "name" Json.readString
    <*> fs.optional "generateName" Json.readString
    <*> fs.optional "namespace" Json.readString
    <*> fs.optional "uid" Json.readString
    <*> fs.optional "resourceVersion" Json.readString
    <*> fs.optional "labels" (Json.readDict Json.readString)
    <*> fs.optional "annotations" (Json.readDict Json.readString)
    <*> fs.optional "ownerReferences" (Json.readList OwnerReference.read)
    <*> Schema.readFields carriedAttributes fs

def toJson (m : ObjectMeta) : Json := .ofRecord
  [("annotations", m.annotations.map .ofDict),
   ("generateName", m.generateName.map .string),
   ("labels", m.labels.map .ofDict),
   ("name", m.name.map .string),
   ("namespace", m.ns.map .string),
   ("ownerReferences", m.ownerReferences.map (.ofList OwnerReference.toJson)),
   ("resourceVersion", m.resourceVersion.map .string),
   ("uid", m.uid.map .string)] m.carried

-- The name, else the stem of a name to be generated, else nothing.
def nameOrStem (m : ObjectMeta) : String := (m.name.or m.generateName).getD ""

end ObjectMeta

structure LabelSelector where
  matchLabels : Option (Dict String) := none
  carried : Fields := []

namespace LabelSelector

def carriedAttributes : Schema.Attributes :=
  [Schema.may "matchExpressions" (.list .labelSelectorRequirement)]

def read : Json.Reader LabelSelector := Json.readRecord fun fs =>
  LabelSelector.mk
    <$> fs.optional "matchLabels" (Json.readDict Json.readString)
    <*> Schema.readFields carriedAttributes fs

def toJson (s : LabelSelector) : Json := .ofRecord
  [("matchLabels", s.matchLabels.map .ofDict)] s.carried

end LabelSelector

-- The two fields that name the type of an object
def readTypeTag (apiVersion kind : String) (fs : Fields) : Json.Gathered Unit :=
  (fun _ => ()) <$> Schema.readFields (Schema.typeTag apiVersion kind) fs

end GatewayOperator
