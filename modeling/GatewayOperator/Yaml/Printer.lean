import GatewayOperator.Yaml.Scalar

namespace GatewayOperator.Yaml

-- Ends a line, unless the text has just ended one with a break of any kind.
def endLine (cs : List Char) : List Char :=
  if cs.getLast?.any isBreak then cs else cs ++ ['\n']

def flatText (indent : Nat) : Json → List Char
  | .null => "null".toList
  | .bool true => "true".toList
  | .bool false => "false".toList
  | .number n => n.text.toList
  | .string s => scalar indent s
  | .array _ => "[]".toList
  | .object _ => ['{', '}']

mutual

-- What follows the colon of a field at `indent`, with the end of its last line. An object stands on
-- the lines below with two more spaces in front, a list without more spaces.
def fieldValue (indent : Nat) : Json → List Char
  | .object (f :: rest) => '\n' :: fieldLines (indent + 2) (spaces (indent + 2)) (f :: rest)
  | .array (x :: rest) => '\n' :: itemLines indent (spaces indent) (x :: rest)
  | j => ' ' :: endLine (flatText (indent + 2) j)

-- What follows the dash of an item at `indent`.
def itemValue (indent : Nat) : Json → List Char
  | .object (f :: rest) => ' ' :: fieldLines (indent + 2) [] (f :: rest)
  | .array (x :: rest) => ' ' :: itemLines (indent + 2) [] (x :: rest)
  | j => ' ' :: endLine (flatText (indent + 2) j)

-- `lead` stands in front of the first field, where a dash may have taken the place of the indent.
def fieldLines (indent : Nat) (lead : List Char) : List (String × Json) → List Char
  | [] => []
  | (name, value) :: rest =>
    lead ++ scalar (indent + 2) name ++ ':' :: fieldValue indent value ++
      fieldLines indent (spaces indent) rest

def itemLines (indent : Nat) (lead : List Char) : List Json → List Char
  | [] => []
  | value :: rest =>
    lead ++ '-' :: itemValue indent value ++ itemLines indent (spaces indent) rest

end

def render (j : Json) : String :=
  String.ofList <| match j with
    | .object (f :: rest) => fieldLines 0 [] (f :: rest)
    | .array (x :: rest) => itemLines 0 [] (x :: rest)
    | j => endLine (flatText 2 j)

end GatewayOperator.Yaml
