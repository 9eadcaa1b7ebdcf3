import GatewayOperator.Json.Basic

namespace GatewayOperator.Json

inductive Fault where
  -- a value of the wrong form
  | malformed
  -- a record without a field that it must have
  | missing (field : String)
deriving DecidableEq, Repr

def Fault.message : Fault → String
  | malformed => "invalid type"
  | missing field => "missing field \x60" ++ field ++ "\x60"

abbrev Reader (α : Type) := Json → Except Fault α

-- What has been read of a record so far
inductive Gathered (α : Type) where
  | complete (value : α)
  -- faults of fields with their places in the document, and the names of absent fields
  | broken (faults : List (Nat × Fault)) (absent : List String)

namespace Gathered

variable {α β : Type}

def map (f : α → β) : Gathered α → Gathered β
  | complete a => complete (f a)
  | broken faults absent => broken faults absent

def and (f : Gathered (α → β)) (a : Gathered α) : Gathered β :=
  match f, a with
  | complete f, complete a => complete (f a)
  | complete _, broken fs ms => broken fs ms
  | broken fs ms, complete _ => broken fs ms
  | broken fs ms, broken fs' ms' => broken (fs ++ fs') (ms ++ ms')

instance : Applicative Gathered where
  pure := complete
  map := map
  seq f a := f.and (a ())

def firstFault : List (Nat × Fault) → Option (Nat × Fault)
  | [] => none
  | f :: rest =>
    match firstFault rest with
    | none => some f
    | some g => if g.1 < f.1 then some g else some f

-- The value, or the one fault that is reported: that of the field that stands first in the
-- document, or, if every field that is there could be read, the first absent field in the order in
-- which the record asks for them.
def outcome : Gathered α → Except Fault α
  | complete a => .ok a
  | broken faults absent =>
    match firstFault faults, absent with
    | some (_, fault), _ => .error fault
    | none, name :: _ => .error (.missing name)
    | none, [] => .error .malformed

-- As `outcome`, for a record written as a list, where an absent field has no name.
def outcomeOfList : Gathered α → Except Fault α
  | complete a => .ok a
  | broken faults _ =>
    match firstFault faults with
    | some (_, fault) => .error fault
    | none => .error .malformed

end Gathered

def readString : Reader String
  | .string s => .ok s
  | _ => .error .malformed

def readBool : Reader Bool
  | .bool b => .ok b
  | _ => .error .malformed

-- A whole number between two bounds, both included.
def readWithin (least greatest : Int) : Reader Int
  | .number (.integer n) => if least ≤ n ∧ n ≤ greatest then .ok n else .error .malformed
  | _ => .error .malformed

def readInt32 : Reader Int := readWithin (-2147483648) 2147483647

def readInt64 : Reader Int := readWithin (-9223372036854775808) 9223372036854775807

def readNat16 : Reader Nat := fun j => Int.toNat <$> readWithin 0 65535 j

def readNat32 : Reader Nat := fun j => Int.toNat <$> readWithin 0 4294967295 j

def readItems {α : Type} (read : Reader α) : List Json → Except Fault (List α)
  | [] => .ok []
  | x :: rest => do
    let a ← read x
    let more ← readItems read rest
    return a :: more

def readList {α : Type} (read : Reader α) : Reader (List α)
  | .array items => readItems read items
  | _ => .error .malformed

def readEntries {α : Type} (read : Reader α) : Fields → Except Fault (List (String × α))
  | [] => .ok []
  | (name, x) :: rest => do
    let a ← read x
    let more ← readEntries read rest
    return (name, a) :: more

def readDict {α : Type} (read : Reader α) : Reader (Dict α)
  | .object fields => Dict.ofList <$> readEntries read fields
  | _ => .error .malformed

-- Null is none.
def readOption {α : Type} (read : Reader α) : Reader (Option α)
  | .null => .ok none
  | j => some <$> read j

-- A record that must be written as an object.
def readRecord {α : Type} (body : Fields → Gathered α) : Reader α
  | .object fields => (body fields).outcome
  | _ => .error .malformed

-- A record that may also be written as the list of its fields in the order of `names`, of which
-- at least the first `least` must be there.
def readRecordOrList {α : Type} (names : List String) (least : Nat) (body : Fields → Gathered α) :
    Reader α
  | .object fields => (body fields).outcome
  | .array items => do
    let a ← (body (names.zip items)).outcomeOfList
    if least ≤ items.length ∧ items.length ≤ names.length then .ok a else .error .malformed
  | _ => .error .malformed

end Json

namespace Fields

open Json

variable {α : Type}

-- The first field of that name and its place.
def find? (name : String) : Fields → Option (Nat × Json)
  | [] => none
  | (n, v) :: rest =>
    if n = name then some (0, v) else (find? name rest).map fun f => (f.1 + 1, f.2)

def gather (fields : Fields) (name : String) (read : Reader α) (absent : Gathered α) : Gathered α :=
  match find? name fields with
  | none => absent
  | some (place, j) =>
    match read j with
    | .ok a => .complete a
    | .error fault => .broken [(place, fault)] []

def required (fields : Fields) (name : String) (read : Reader α) : Gathered α :=
  fields.gather name read (.broken [] [name])

-- Absent is the default; null is a value like any other.
def orDefault (fields : Fields) (name : String) (default : α) (read : Reader α) : Gathered α :=
  fields.gather name read (.complete default)

-- Absent and null are both the default.
def orEmpty (fields : Fields) (name : String) (empty : α) (read : Reader α) : Gathered α :=
  fields.gather name (fun j => (·.getD empty) <$> readOption read j) (.complete empty)

-- Absent and null are both none.
def optional (fields : Fields) (name : String) (read : Reader α) : Gathered (Option α) :=
  fields.gather name (readOption read) (.complete none)

end Fields

end GatewayOperator
