import GatewayOperator.Gateway.Status

namespace GatewayOperator

def apiGroup : String := "agentic-layer.ai"

def versionName : String := "v1alpha1"

def apiVersion : String := apiGroup ++ "/" ++ versionName

structure Gateway where
  metadata : ObjectMeta
  spec : GatewaySpec
  status : Option GatewayStatus := none

namespace Gateway

def kind : String := "AiGateway"

-- As a list a gateway has all of its three fields.
def attributes : Schema.Attributes :=
  [Schema.must "metadata" .objectMeta, Schema.must "spec" GatewaySpec.schema,
   ("status", .nullable, GatewayStatus.schema)]

def schema : Schema := .strict kind attributes

def read : Json.Reader Gateway := Schema.readStrict attributes fun fs =>
  Gateway.mk
    <$> fs.required "metadata" ObjectMeta.read
    <*> fs.required "spec" GatewaySpec.read
    <*> fs.optional "status" GatewayStatus.read

def toJson (g : Gateway) : Json := .ofRecord
  [("apiVersion", some (.string apiVersion)),
   ("kind", some (.string kind)),
   ("metadata", some g.metadata.toJson),
   ("spec", some g.spec.toJson),
   ("status", g.status.map GatewayStatus.toJson)] []

def name (g : Gateway) : String := g.metadata.nameOrStem

-- The class that is asked for; an empty name asks for none.
def className? (g : Gateway) : Option String := g.spec.className.filter (· ≠ "")

end Gateway

structure GatewayClass where
  metadata : ObjectMeta
  -- the controller that manages the gateways of this class
  controller : String

namespace GatewayClass

def kind : String := "AiGatewayClass"

def defaultAnnotation : String := "aigatewayclass.kubernetes.io/is-default-class"

def specAttributes : Schema.Attributes := [Schema.must "controller" .string]

def readController : Json.Reader String := Schema.readStrict specAttributes fun fs =>
  fs.required "controller" Json.readString

def attributes : Schema.Attributes :=
  [Schema.must "metadata" .objectMeta,
   Schema.must "spec" (.strict "AiGatewayClassSpec" specAttributes)]

def schema : Schema := .strict kind attributes

def read : Json.Reader GatewayClass := Schema.readStrict attributes fun fs =>
  GatewayClass.mk
    <$> fs.required "metadata" ObjectMeta.read
    <*> fs.required "spec" readController

def toJson (c : GatewayClass) : Json := .ofRecord
  [("apiVersion", some (.string apiVersion)),
   ("kind", some (.string kind)),
   ("metadata", some c.metadata.toJson),
   ("spec", some (.object [("controller", .string c.controller)]))] []

def name (c : GatewayClass) : String := c.metadata.nameOrStem

-- Marked as the class of gateways that ask for none.
def isDefault (c : GatewayClass) : Bool :=
  (c.metadata.annotations.bind (·.get? defaultAnnotation)) = some "true"

end GatewayClass

-- Whether `controller` is responsible for a gateway that asks for `className`: the class asked for
-- is one of its own, or it owns the default class if none is asked for.
def GatewayClass.assigns (controller : String) (className : Option String)
    (classes : List GatewayClass) : Bool :=
  (classes.filter fun c => c.controller = controller).any fun c =>
    match className with
    | some name => c.name = name
    | none => c.isDefault

end GatewayOperator
