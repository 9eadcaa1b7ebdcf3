import GatewayOperator.Base64
import GatewayOperator.Instant.Reading

namespace GatewayOperator

-- How a field of a record is treated when it is absent or null
inductive Presence where
  -- it is left out
  | optional
  -- as optional, but a record that is written as a list must hold it
  | nullable
  -- it takes the empty value of its schema
  | filled
  -- it may be absent, and null is read as a value
  | defaulted
  -- it cannot be absent, and null is read as a value
  | required
  -- it cannot be absent, and null is the empty value
  | given
deriving DecidableEq, Repr

namespace Presence

def acceptsNull : Presence → Bool
  | optional | nullable | filled | given => true
  | defaulted | required => false

def mayLack : Presence → Bool
  | optional | nullable | filled | defaulted => true
  | required | given => false

-- Whether a record that is written as a list may end in front of the field.
def mayLackInList : Presence → Bool
  | optional | filled | defaulted => true
  | nullable | required | given => false

end Presence

-- How a record may be written
inductive Form where
  -- as an object, in which the last of several fields with one name counts
  | plain
  -- as an object without repeated fields, or as the list of its fields
  | strict
  -- as an object without repeated fields, of which also the unknown ones must be sound
  | whole
deriving DecidableEq, Repr

inductive Schema where
  | string
  -- a text that must be the one given
  | exactly (text : String)
  | boolean
  | int32
  | int64
  | nat16
  | instant
  -- a whole number of 32 bits or a text
  | intOrString
  -- bytes in base64
  | bytes
  | anything
  | list (item : Schema)
  | dict (item : Schema)
  | record (form : Form) (name : String) (attributes : List (String × Presence × Schema))
deriving Repr

namespace Schema

abbrev Attributes := List (String × Presence × Schema)

def may (name : String) (s : Schema) : String × Presence × Schema := (name, .optional, s)

def always (name : String) (s : Schema) : String × Presence × Schema := (name, .filled, s)

def must (name : String) (s : Schema) : String × Presence × Schema := (name, .required, s)

def defaulted (name : String) (s : Schema) : String × Presence × Schema := (name, .defaulted, s)

def plain (name : String) (attributes : Attributes) : Schema := .record .plain name attributes

def strict (name : String) (attributes : Attributes) : Schema := .record .strict name attributes

def strings : Schema := .list .string

def labels : Schema := .dict .string

-- An amount with its unit, such as 500m
def quantity : Schema := .string

def quantities : Schema := .dict quantity

-- The two fields that name the type of an object, which must be right where they are given
def typeTag (apiVersion kind : String) : Attributes :=
  [defaulted "apiVersion" (.exactly apiVersion), defaulted "kind" (.exactly kind)]

mutual

-- The value of a field that must be there and is not.
def empty : Schema → Json
  | .string | .exactly _ | .instant | .bytes => .string ""
  | .boolean => .bool false
  | .int32 | .int64 | .nat16 | .intOrString => .int 0
  | .anything => .null
  | .list _ => .array []
  | .dict _ => .object []
  | .record _ _ attributes => .object (emptyFields attributes)

def emptyFields : List (String × Presence × Schema) → Fields
  | [] => []
  | (name, presence, s) :: rest =>
    if presence = .filled then (name, empty s) :: emptyFields rest else emptyFields rest

end

def readExactly (text : String) : Json.Reader String
  | .string s => if s = text then .ok s else .error .malformed
  | _ => .error .malformed

def readBytes : Json.Reader Json
  | .null => .ok (.string "")
  | .string s => if (Base64.fault? s).isNone then .ok (.string s) else .error .malformed
  | _ => .error .malformed

def readIntOrString : Json.Reader Json
  | .string s => .ok (.string s)
  | j => Json.int <$> Json.readInt32 j

-- The count of fields up to the last one that a list must hold
def leastItems : Attributes → Nat
  | [] => 0
  | (_, presence, _) :: rest =>
    let more := leastItems rest
    if more = 0 ∧ presence.mayLackInList then 0 else more + 1

-- A record that may also be written as the list of its fields.
def readStrict {α : Type} (attributes : Attributes) (body : Fields → Json.Gathered α) :
    Json.Reader α :=
  Json.readRecordOrList (attributes.map (·.1)) (leastItems attributes) body

def readForm (form : Form) (attributes : Attributes) (body : Fields → Json.Gathered Fields) :
    Json.Reader Fields :=
  match form with
  | .strict => readStrict attributes body
  | .plain | .whole => Json.readRecord body

mutual

-- The canonical form of a document: fields that the schema does not name are dropped, null fields
-- are left out, fields that must be there are filled in, and times are written in UTC.
def read (s : Schema) (j : Json) : Except Json.Fault Json :=
  match s with
  | .string => Json.string <$> Json.readString j
  | .exactly text => Json.string <$> readExactly text j
  | .boolean => Json.bool <$> Json.readBool j
  | .int32 => Json.int <$> Json.readInt32 j
  | .int64 => Json.int <$> Json.readInt64 j
  | .nat16 => Json.nat <$> Json.readNat16 j
  | .instant => Instant.toJson <$> Instant.read j
  | .intOrString => readIntOrString j
  | .bytes => readBytes j
  | .anything => .ok j
  | .list item => Json.array <$> Json.readList (read item) j
  | .dict item => (fun d => Json.object d.entries) <$> Json.readDict (read item) j
  | .record form _ attributes =>
    Json.object <$> readForm form attributes (fun fs => readFields attributes fs) j

-- The canonical fields that the schema names, in its order.
def readFields (attributes : List (String × Presence × Schema)) (fields : Fields) :
    Json.Gathered Fields :=
  match attributes with
  | [] => .complete []
  | (name, presence, s) :: rest =>
    let field := match presence with
      | .optional | .nullable => fields.optional name (read s)
      | .filled => some <$> fields.orEmpty name (empty s) (read s)
      | .defaulted => fields.orDefault name none fun j => some <$> read s j
      | .required => some <$> fields.required name (read s)
      | .given =>
        (fun v : Option Json => some (v.getD (empty s))) <$>
          fields.required name (Json.readOption (read s))
    (fun v more => (v.map (name, ·)).toList ++ more) <$> field <*> readFields rest fields

end

end Schema

end GatewayOperator
