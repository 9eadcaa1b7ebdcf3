import GatewayOperator.Json.Parser

namespace GatewayOperator.Json

inductive Bracket where
  | list
  | object
deriving DecidableEq, Repr

namespace Bracket

def close : Bracket → Char
  | list => ']'
  | object => '}'

def eof : Bracket → TextFault
  | list => .eofInList
  | object => .eofInObject

def expectedCommaOrEnd : Bracket → TextFault
  | list => .expectedListCommaOrEnd
  | object => .expectedObjectCommaOrEnd

end Bracket

namespace Scanner

-- What a value that is passed over comes to next
inductive Turn where
  -- a value, behind a comma or a colon
  | value
  -- the first item or field, or the closing bracket
  | opened
  -- what follows a value
  | ended
deriving DecidableEq, Repr

def skipEscape : Scanner Unit := fun cs =>
  match cs with
  | [] => fail .eofInString []
  | 'u' :: rest => (fun _ => ()) <$> fourHexDigits |>.run rest
  | c :: rest => if (escaped? c).isSome then .ok ((), rest) else failAt .invalidEscape cs

-- What is left of a string up to its closing quote.
def skipString : Nat → Scanner Unit
  | 0 => fail .eofInString
  | more + 1 => fun cs =>
    match cs with
    | [] => fail .eofInString []
    | '"' :: rest => .ok ((), rest)
    | '\\' :: rest =>
      match skipEscape rest with
      | .ok (_, rest) => skipString more rest
      | .error stop => .error stop
    | c :: rest => if c.toNat < 0x20 then fail .controlCharacter cs else skipString more rest

def skipScalar (length : Nat) : Scanner Unit := fun cs =>
  match cs with
  | '"' :: rest => skipString length rest
  | c :: _ =>
    if c = '-' ∨ c.isDigit then (fun _ => ()) <$> numberParts .invalidNumber |>.run cs
    else (fun _ => ()) <$> scalar length |>.run cs
  | [] => fail .eofInValue []

-- The name of a field and the colon behind it.
def skipName (length : Nat) : Scanner Unit := do
  match ← ahead with
  | [] => fail .eofInObject
  | '"' :: _ =>
    skipOne
    skipString length
    colon
  | _ => failAt .keyNotString

-- In a list or an object: up to the next value.
def skipToValue (length : Nat) : Bracket → Scanner Unit
  | .list => pure ()
  | .object => skipName length

-- `enclosing` holds the brackets that are open, the inmost first; `more` bounds the turns.
def skipFrom (length : Nat) (turn : Turn) (enclosing : List Bracket) (more : Nat) : Scanner Unit :=
  match more with
  | 0 => fail .eofInValue
  | more + 1 =>
    match turn, enclosing with
    | .value, enclosing => do
      match ← ahead with
      | '[' :: _ =>
        skipOne
        skipFrom length .opened (.list :: enclosing) more
      | '{' :: _ =>
        skipOne
        skipFrom length .opened (.object :: enclosing) more
      | _ =>
        skipScalar length
        skipFrom length .ended enclosing more
    | _, [] => pure ()
    | turn, bracket :: outer => do
      match ← ahead with
      | [] => fail bracket.eof
      | c :: _ =>
        if c = bracket.close then
          skipOne
          skipFrom length .ended outer more
        else if turn = .opened then
          skipToValue length bracket
          skipFrom length .value enclosing more
        else if c = ',' then
          skipOne
          skipToValue length bracket
          skipFrom length .value enclosing more
        else failAt bracket.expectedCommaOrEnd

def skipValue (length : Nat) : Scanner Unit := skipFrom length .value [] (2 * length)

end Scanner

end GatewayOperator.Json
