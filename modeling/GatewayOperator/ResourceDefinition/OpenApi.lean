import GatewayOperator.Kubernetes.Meta

namespace GatewayOperator

-- What a schema says about a value of any form
structure Notes where
  description : String
  title : Option String := none
  nullable : Bool := false
  -- the value that stands in for an absent one
  default : Option Json := none

inductive OpenApi where
  | scalar (notes : Notes) (type : String) (format : Option String)
  | list (notes : Notes) (item : OpenApi)
  -- properties in the order of their names, with whether they are required
  | record (notes : Notes) (properties : List (String × Bool × OpenApi))

namespace OpenApi

def text (description : String) : OpenApi := .scalar { description } "string" none

def nullableText (description : String) : OpenApi :=
  .scalar { description, nullable := true } "string" none

def integer (format description : String) : OpenApi :=
  .scalar { description } "integer" (some format)

def instant (description : String) : OpenApi := .scalar { description } "string" (some "date-time")

def flag (description : String) : OpenApi := .scalar { description } "boolean" none

def listOf (description : String) (item : OpenApi) : OpenApi := .list { description } item

def recordOf (description : String) (properties : List (String × Bool × OpenApi)) : OpenApi :=
  .record { description } properties

def must (name : String) (s : OpenApi) : String × Bool × OpenApi := (name, true, s)

def may (name : String) (s : OpenApi) : String × Bool × OpenApi := (name, false, s)

def requiredNames (properties : List (String × Bool × OpenApi)) : List String :=
  properties.filterMap fun p => if p.2.1 then some p.1 else none

-- A list that is left out if it is empty.
def unlessEmpty (names : List String) : Option Json :=
  if names.isEmpty then none else some (Json.strings names)

-- The fields of a schema in the order of their names, with those of its form among the notes.
def assemble (notes : Notes) (type : String) (format : Option String)
    (items properties required : Option Json) : Json := .ofRecord
  [("default", notes.default), ("description", some (.string notes.description)),
   ("format", format.map .string), ("items", items),
   ("nullable", if notes.nullable then some (.bool true) else none),
   ("properties", properties), ("required", required), ("title", notes.title.map .string),
   ("type", some (.string type))] []

mutual

def toJson : OpenApi → Json
  | .scalar notes type format => assemble notes type format none none none
  | .list notes item => assemble notes "array" none (some (toJson item)) none none
  | .record notes properties =>
    assemble notes "object" none none (some (.object (propertiesToJson properties)))
      (unlessEmpty (requiredNames properties))

def propertiesToJson : List (String × Bool × OpenApi) → Fields
  | [] => []
  | (name, _, s) :: rest => (name, toJson s) :: propertiesToJson rest

end

end OpenApi

end GatewayOperator
