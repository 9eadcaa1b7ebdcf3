import GatewayOperator.Json.Basic

namespace GatewayOperator.Json

-- The fields of an object; what is no object counts as one without fields.
def fieldsOrNone : Json → Fields
  | .object fields => fields
  | _ => []

mutual

-- A patch that is an object is merged field by field: null takes a field away, any other value is
-- merged into what the field held. A patch that is no object replaces the target.
def mergePatch (target patch : Json) : Json :=
  match patch with
  | .object changes => .object (mergeFields (fieldsOrNone target) changes)
  | other => other

def mergeFields (fields : Fields) (changes : List (String × Json)) : Fields :=
  match changes with
  | [] => fields
  | (name, .null) :: rest => mergeFields (fields.erase name) rest
  | (name, change) :: rest =>
    mergeFields (fields.insert name (mergePatch ((fields.get? name).getD .null) change)) rest

end

end GatewayOperator.Json
