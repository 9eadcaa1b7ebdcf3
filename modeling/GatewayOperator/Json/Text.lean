import GatewayOperator.Json.Number
import GatewayOperator.Text.Quoted

namespace GatewayOperator.Json

-- What stands in a text where something else was expected
inductive Found where
  | null
  | bool (value : Bool)
  | number (value : Number)
  | string (value : String)
  | list
  | object
deriving DecidableEq, Repr

def Found.ofJson : Json → Found
  | .null => null
  | .bool value => bool value
  | .number value => number value
  | .string value => string value
  | .array _ => list
  | .object _ => object

def Found.text : Found → String
  | null => "null"
  | bool value => "boolean \x60" ++ toString value ++ "\x60"
  | number (.integer value) => "integer \x60" ++ toString value ++ "\x60"
  | number (.decimal negative size) =>
    "floating point \x60" ++ (Number.decimal negative size).text ++ "\x60"
  | string value => "string " ++ quoted value
  | list => "sequence"
  | object => "map"

inductive TextFault where
  -- the text is no JSON
  | eofInList | eofInObject | eofInString | eofInValue
  | expectedColon | expectedListCommaOrEnd | expectedObjectCommaOrEnd
  | expectedWord | expectedValue
  | invalidEscape | invalidNumber | numberTooLarge
  | loneSurrogate | unfinishedSurrogate | controlCharacter
  | keyNotString | trailingComma | trailingCharacters | tooDeep
  -- the text is JSON and does not fit
  | wrongType (found : Found) (expected : String)
  | wrongValue (found : Found) (expected : String)
  | wrongLength (length : Nat) (expected : String)
  | missing (field : String)
  | duplicate (field : String)
  -- a string that its reader refuses for the reason given
  | refused (reason : String)
deriving DecidableEq, Repr

namespace TextFault

def message : TextFault → String
  | eofInList => "EOF while parsing a list"
  | eofInObject => "EOF while parsing an object"
  | eofInString => "EOF while parsing a string"
  | eofInValue => "EOF while parsing a value"
  | expectedColon => "expected \x60:\x60"
  | expectedListCommaOrEnd => "expected \x60,\x60 or \x60]\x60"
  | expectedObjectCommaOrEnd => "expected \x60,\x60 or \x60\x7d\x60"
  | expectedWord => "expected ident"
  | expectedValue => "expected value"
  | invalidEscape => "invalid escape"
  | invalidNumber => "invalid number"
  | numberTooLarge => "number out of range"
  | loneSurrogate => "lone leading surrogate in hex escape"
  | unfinishedSurrogate => "unexpected end of hex escape"
  | controlCharacter => "control character (\\u0000-\\u001F) found while parsing a string"
  | keyNotString => "key must be a string"
  | trailingComma => "trailing comma"
  | trailingCharacters => "trailing characters"
  | tooDeep => "recursion limit exceeded"
  | wrongType found expected => "invalid type: " ++ found.text ++ ", expected " ++ expected
  | wrongValue found expected => "invalid value: " ++ found.text ++ ", expected " ++ expected
  | wrongLength length expected =>
    "invalid length " ++ toString length ++ ", expected " ++ expected
  | missing field => "missing field \x60" ++ field ++ "\x60"
  | duplicate field => "duplicate field \x60" ++ field ++ "\x60"
  | refused reason => reason

end TextFault

-- A fault, the text that was unread when it was seen, and how many bytes of that text are counted
-- as read all the same
structure Stop where
  fault : TextFault
  unread : List Char
  ahead : Nat := 0
deriving Repr

-- A fault with its line and the count of bytes of that line in front of it
structure TextError where
  fault : TextFault
  line : Nat
  column : Nat
deriving DecidableEq, Repr

namespace TextError

def message (e : TextError) : String :=
  e.fault.message ++ " at line " ++ toString e.line ++ " column " ++ toString e.column

def bytes (cs : List Char) : Nat := cs.foldl (fun n c => n + c.utf8Size) 0

-- The line and the column behind the first `count` bytes of a text, where `line` and `column` are
-- those of its first byte.
def placeBehind (count line column : Nat) : List Char → Nat × Nat
  | [] => (line, column)
  | c :: rest =>
    if count < c.utf8Size then (line, column + count)
    else if c = '\n' then placeBehind (count - 1) (line + 1) 0 rest
    else placeBehind (count - c.utf8Size) line (column + c.utf8Size) rest

def ofStop (text : List Char) (stop : Stop) : TextError :=
  let (line, column) := placeBehind (bytes text - bytes stop.unread + stop.ahead) 1 0 text
  ⟨stop.fault, line, column⟩

end TextError

end GatewayOperator.Json
