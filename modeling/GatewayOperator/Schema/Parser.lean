import GatewayOperator.Json.Skip
import GatewayOperator.Schema.Basic

namespace GatewayOperator.Schema

open Json Json.Scanner

-- What a value of the schema is called.
def title : Schema → String
  | .string | .exactly _ => "a string"
  | .boolean => "a boolean"
  | .int32 => "i32"
  | .int64 => "i64"
  | .nat16 => "u16"
  | .instant => "an RFC 3339 formatted date and time string"
  | .intOrString => "IntOrString"
  | .bytes => "a base64-encoded string"
  | .anything => "any valid JSON value"
  | .list _ => "a sequence"
  | .dict _ => "a map"
  | .record .plain name _ => name
  | .record _ name _ => "struct " ++ name

-- The fault of a whole number, if it is not between two bounds.
def boundsFault? (least greatest : Int) (title : String) (n : Int) : Option TextFault :=
  if least ≤ n ∧ n ≤ greatest then none
  else some (.wrongValue (.number (.integer n)) title)

-- The fault of a value that is neither a list nor an object.
def scalarFault? (s : Schema) (j : Json) : Option TextFault :=
  match s, j with
  | .anything, _ => none
  | .string, .string _ => none
  | .exactly _, .string _ => none
  | .boolean, .bool _ => none
  | .int32, .number (.integer n) => boundsFault? (-2147483648) 2147483647 s.title n
  | .int64, .number (.integer n) =>
    boundsFault? (-9223372036854775808) 9223372036854775807 s.title n
  | .nat16, .number (.integer n) => boundsFault? 0 65535 s.title n
  | .instant, .string text =>
    match Instant.parse text with
    | .ok _ => none
    | .error fault => some (.refused fault.message)
  | .intOrString, .string _ => none
  | .intOrString, .number (.integer n) =>
    boundsFault? (-2147483648) 2147483647 "a 32-bit integer" n
  | .bytes, .null => none
  | .bytes, .string text => (Base64.fault? text).map fun fault => .refused fault.message
  | s, j => some (.wrongType (.ofJson j) s.title)

-- A scalar that does not fit is read before it is refused.
def scanScalar (length : Nat) (s : Schema) : Scanner Json := do
  let j ← scalar length
  match scalarFault? s j with
  | some fault => fail fault
  | none => return j

-- A list or an object that does not fit is refused where it starts.
def refuse (found : Found) (s : Schema) : Scanner Json := fail (.wrongType found s.title)

variable {α : Type}

-- A fault of a whole list or object is placed behind its end, where that is near.
def failBehindList (fault : TextFault) : Scanner α := do
  match ← ahead with
  | ']' :: _ =>
    skipOne
    fail fault
  | ',' :: _ =>
    skipOne
    let _ ← ahead
    fail fault
  | _ => fail fault

def failBehindObject (fault : TextFault) : Scanner α := do
  match ← ahead with
  | '}' :: _ =>
    skipOne
    fail fault
  | _ => fail fault

-- The end of a list of which all items have been read.
def closeList : Scanner Unit := do
  match ← ahead with
  | [] => fail .eofInList
  | ']' :: _ => skipOne
  | ',' :: _ =>
    skipOne
    match ← ahead with
    | ']' :: _ => failAt .trailingComma
    | _ => failAt .trailingCharacters
  | _ => failAt .trailingCharacters

def orNull (length : Nat) (scan : Scanner Json) : Scanner Json := do
  match ← ahead with
  | 'n' :: _ => scalar length
  | _ => scan

-- A field of a record and how it is read
structure Slot where
  name : String
  presence : Presence
  -- the text that the field must hold
  fixed : Option String
  scan : Scanner Json

namespace Slot

def value (slot : Slot) (length : Nat) : Scanner Json :=
  if slot.presence.acceptsNull then orNull length slot.scan else slot.scan

-- The fault of a text that is not the one asked for.
def fault? (slot : Slot) (j : Json) : Option TextFault :=
  match slot.fixed, j with
  | some text, .string s => if s = text then none else some (.wrongValue (.string s) text)
  | _, _ => none

end Slot

-- How a field is read that no slot is for.
def scanUnknown (length depth : Nat) : Form → Scanner Unit
  | .plain | .strict => skipValue length
  | .whole => (fun _ => ()) <$> Scanner.value length depth

-- A field of a record behind its name, added to those taken before.
def scanField (length depth : Nat) (form : Form) (slots : List Slot) (taken : Fields)
    (name : String) : Scanner Fields := do
  match slots.find? fun slot => slot.name = name with
  | none =>
    colon
    scanUnknown length depth form
    return taken
  | some slot =>
    if form ≠ .plain ∧ (taken.get? name).isSome then failBehindObject (.duplicate name)
    colon
    let j ← slot.value length
    match slot.fault? j with
    | some fault => failBehindObject fault
    | none => return taken.insert name j

-- The rest of a record that is written as an object.
def scanFields (length depth : Nat) (form : Form) (slots : List Slot) : Scanner Json := do
  let taken ← foldFields length (scanField length depth form slots) length true []
  match slots.find? fun slot => !slot.presence.mayLack && (taken.get? slot.name).isNone with
  | some slot => fail (.missing slot.name)
  | none => return .object taken

def countText (n : Nat) : String :=
  toString n ++ if n = 1 then " element" else " elements"

-- The rest of a record that is written as a list, where `count` items were read already.
def scanItems (length : Nat) (title : String) (count : Nat) : List Slot → Scanner (List Json)
  | [] => do
    closeList
    return []
  | slot :: rest => do
    if ← itemFollows (count = 0) then
      let j ← slot.value length
      (j :: ·) <$> scanItems length title (count + 1) rest
    else if slot.presence.mayLackInList then scanItems length title (count + 1) rest
    else failBehindList (.wrongLength count title)

mutual

-- A value as far as the schema names it. Lists and objects may stand in one another `depth` deep.
def scan (length : Nat) (s : Schema) (depth : Nat) : Scanner Json :=
  match s with
  | .anything => Scanner.value length depth
  | .list item =>
    byForm (enter depth fun inner => items length (scan length item inner))
      (refuse .object (.list item)) (scanScalar length (.list item))
  | .dict item =>
    byForm (refuse .list (.dict item))
      (enter depth fun inner => fields length (scan length item inner))
      (scanScalar length (.dict item))
  | .record form name attributes =>
    let whole : Schema := .record form name attributes
    let list := match form with
      | .plain => enter depth fun _ => failBehindList (.wrongType .list whole.title)
      | .strict => enter depth fun inner =>
        let title := whole.title ++ " with " ++ countText attributes.length
        Json.array <$> scanItems length title 0 (slots length attributes inner)
      | .whole => refuse .list whole
    byForm list
      (enter depth fun inner => scanFields length inner form (slots length attributes inner))
      (scanScalar length whole)
  | .intOrString =>
    byForm (enter depth fun _ => failBehindList (.wrongType .list (title .intOrString)))
      (enter depth fun _ => failBehindObject (.wrongType .object (title .intOrString)))
      (scanScalar length .intOrString)
  | s => byForm (refuse .list s) (refuse .object s) (scanScalar length s)

def slots (length : Nat) (attributes : List (String × Presence × Schema)) (depth : Nat) :
    List Slot :=
  match attributes with
  | [] => []
  | (name, presence, s) :: rest =>
    let fixed := match s with
      | .exactly text => some text
      | _ => none
    ⟨name, presence, fixed, scan length s depth⟩ :: slots length rest depth

end

-- The document in a text, which is read only as far as the schema names it; the first fault is
-- reported with its place, be it that the text is no JSON or that a value does not fit.
def parse (s : Schema) (text : String) : Except TextError Json :=
  Scanner.parse (fun length depth => scan length s depth) text

end GatewayOperator.Schema
