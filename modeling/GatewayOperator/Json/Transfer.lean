import GatewayOperator.Json.Parser
import GatewayOperator.Json.Printer

namespace GatewayOperator

-- What arrives of a number that is sent as text. The text of a decimal names it exactly, but
-- reading that text rounds in steps.
def Number.transferred : Number → Number
  | .integer value => .integer value
  | .decimal negative size =>
    match Json.Scanner.number.run (Number.decimal negative size).text.toList with
    | .ok (n, _) => n
    | .error _ => .decimal negative size

namespace Json

mutual

def transferred : Json → Json
  | .number n => .number n.transferred
  | .array items => .array (transferredItems items)
  | .object fields => .object (transferredFields fields)
  | j => j

def transferredItems : List Json → List Json
  | [] => []
  | x :: rest => x.transferred :: transferredItems rest

def transferredFields : List (String × Json) → List (String × Json)
  | [] => []
  | (name, x) :: rest => (name, x.transferred) :: transferredFields rest

end

end Json

end GatewayOperator
