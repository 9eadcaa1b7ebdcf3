import GatewayOperator.Decimal.Shortest
import GatewayOperator.Dict

namespace GatewayOperator

-- A whole number written with a point or an exponent is a decimal, as it is not accepted where a
-- whole number is asked for.
inductive Number where
  -- a whole number of 64 bits, with or without a sign
  | integer (value : Int)
  -- any other number: a float of 64 bits, held as the shortest numeral that reads back as it
  | decimal (negative : Bool) (size : Decimal.Numeral)
deriving DecidableEq, Repr

inductive Json where
  | null
  | bool (value : Bool)
  | number (value : Number)
  | string (value : String)
  | array (items : List Json)
  | object (fields : List (String × Json))
deriving Repr, Inhabited

-- The fields of one object. Written objects hold them in ascending order of their names.
abbrev Fields := List (String × Json)

namespace Fields

def get? (fields : Fields) (name : String) : Option Json := Dict.valueOf? name fields

-- The field goes before the first one with a greater name, or takes the place of its namesake.
def insert (fields : Fields) (name : String) (value : Json) : Fields :=
  match fields with
  | [] => [(name, value)]
  | (n, v) :: rest =>
    if name < n then (name, value) :: (n, v) :: rest
    else if name = n then (name, value) :: rest
    else (n, v) :: insert rest name value

def erase (fields : Fields) (name : String) : Fields := fields.filter fun f => f.1 ≠ name

-- The fields that are there, in the order given.
def present (fields : List (String × Option Json)) : Fields :=
  fields.filterMap fun f => f.2.map (f.1, ·)

def insertAll (fields more : Fields) : Fields :=
  more.foldl (fun fs f => fs.insert f.1 f.2) fields

end Fields

namespace Json

def int (value : Int) : Json := .number (.integer value)

def nat (value : Nat) : Json := .int value

def ofDict (d : Dict String) : Json := .object (d.entries.map fun e => (e.1, .string e.2))

def strings (items : List String) : Json := .array (items.map .string)

def field? (j : Json) (name : String) : Option Json :=
  match j with
  | .object fields => Fields.get? fields name
  | _ => none

end Json

end GatewayOperator
