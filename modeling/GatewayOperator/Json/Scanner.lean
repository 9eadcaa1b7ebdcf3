import GatewayOperator.Json.Text

namespace GatewayOperator.Json

-- Takes something from the front of a text.
abbrev Scanner (α : Type) := StateT (List Char) (Except Stop) α

namespace Scanner

variable {α : Type}

-- Fails at the next character, which counts as read if there is one.
def failAt (fault : TextFault) : Scanner α := fun cs =>
  .error ⟨fault, cs, if cs.isEmpty then 0 else 1⟩

-- Fails behind what has been read.
def fail (fault : TextFault) : Scanner α := fun cs => .error ⟨fault, cs, 0⟩

def isBlank (c : Char) : Bool := c = ' ' || c = '\n' || c = '\t' || c = '\r'

def dropBlanks (cs : List Char) : List Char := cs.dropWhile isBlank

-- The text from the next character that is no blank.
def ahead : Scanner (List Char) := fun cs => .ok (dropBlanks cs, dropBlanks cs)

def skipOne : Scanner Unit := fun cs => .ok ((), cs.drop 1)

def word (letters : List Char) (value : Json) : Scanner Json := fun cs =>
  match letters, cs with
  | [], cs => .ok (value, cs)
  | _ :: _, [] => fail .eofInValue []
  | w :: letters, c :: cs =>
    if c = w then word letters value cs else failAt .expectedWord (c :: cs)

def hexDigit? (c : Char) : Option Nat :=
  if c.isDigit then some (c.toNat - '0'.toNat)
  else if 'a' ≤ c ∧ c ≤ 'f' then some (c.toNat - 'a'.toNat + 10)
  else if 'A' ≤ c ∧ c ≤ 'F' then some (c.toNat - 'A'.toNat + 10)
  else none

def hexValue? (digits : List Char) : Option Nat :=
  digits.foldlM (fun n c => (hexDigit? c).map (n * 16 + ·)) 0

-- Four hexadecimal digits. Where there are none, four bytes of the text count as read.
def fourHexDigits : Scanner Nat := fun cs =>
  let digits := cs.take 4
  if TextError.bytes digits < 4 then fail .eofInString []
  else
    match hexValue? digits with
    | some n => .ok (n, cs.drop 4)
    | none => .error ⟨.invalidEscape, cs, 4⟩

def isLeading (n : Nat) : Bool := 0xD800 ≤ n && n ≤ 0xDBFF

def isTrailing (n : Nat) : Bool := 0xDC00 ≤ n && n ≤ 0xDFFF

-- The mark that starts the second half of a surrogate pair.
def secondMark : Scanner Unit := fun cs =>
  match cs with
  | '\\' :: 'u' :: rest => .ok ((), rest)
  | [] | ['\\'] => fail .eofInString []
  | '\\' :: rest => failAt .unfinishedSurrogate rest
  | rest => failAt .unfinishedSurrogate rest

-- The character of an escape by number, behind the mark.
def escapedNumber : Scanner Char := do
  let n ← fourHexDigits
  if isTrailing n then fail .loneSurrogate
  else if isLeading n then
    secondMark
    let m ← fourHexDigits
    if isTrailing m then
      return Char.ofNat (0x10000 + (n - 0xD800) * 0x400 + (m - 0xDC00))
    else fail .loneSurrogate
  else return Char.ofNat n

def escaped? : Char → Option Char
  | '"' => some '"'
  | '\\' => some '\\'
  | '/' => some '/'
  | 'b' => some '\x08'
  | 'f' => some '\x0c'
  | 'n' => some '\n'
  | 'r' => some '\r'
  | 't' => some '\t'
  | _ => none

-- The character of an escape, behind the backslash.
def escape : Scanner Char := fun cs =>
  match cs with
  | [] => fail .eofInString []
  | 'u' :: rest => escapedNumber rest
  | c :: rest =>
    match escaped? c with
    | some e => .ok (e, rest)
    | none => failAt .invalidEscape (c :: rest)

-- The text up to the closing quote, where `taken` was read already, last first. `more` bounds the
-- count of characters.
def stringBody (taken : List Char) : Nat → Scanner String
  | 0 => failAt .eofInString
  | more + 1 => fun cs =>
    match cs with
    | [] => fail .eofInString []
    | '"' :: rest => .ok (String.ofList taken.reverse, rest)
    | '\\' :: rest =>
      match escape rest with
      | .ok (c, rest) => stringBody (c :: taken) more rest
      | .error stop => .error stop
    | c :: rest =>
      if c.toNat < 0x20 then failAt .controlCharacter (c :: rest)
      else stringBody (c :: taken) more rest

structure NumberParts where
  negative : Bool
  whole : List Char
  decimals : Option (List Char)
  -- the sign and the digits
  exponent : Option (Bool × List Char)

-- At least one digit. At the end of the text the fault is `atEnd`.
def digits (atEnd : TextFault) : Scanner (List Char) := fun cs =>
  let found := cs.takeWhile Char.isDigit
  if found.isEmpty then
    if cs.isEmpty then fail atEnd cs else failAt .invalidNumber cs
  else .ok (found, cs.dropWhile Char.isDigit)

-- A zero is not followed by further digits.
def wholePart (atEnd : TextFault) : Scanner (List Char) := fun cs =>
  match cs with
  | '0' :: c :: rest =>
    if c.isDigit then failAt .invalidNumber (c :: rest) else .ok (['0'], c :: rest)
  | cs => digits atEnd cs

def decimalPart (atEnd : TextFault) : Scanner (Option (List Char)) := fun cs =>
  match cs with
  | '.' :: rest => some <$> digits atEnd |>.run rest
  | cs => .ok (none, cs)

def exponentSign : Scanner Bool := fun cs =>
  match cs with
  | '+' :: rest => .ok (false, rest)
  | '-' :: rest => .ok (true, rest)
  | cs => .ok (false, cs)

def exponentPart (atEnd : TextFault) : Scanner (Option (Bool × List Char)) := do
  match ← get with
  | 'e' :: rest | 'E' :: rest =>
    set rest
    let negative ← exponentSign
    let digits ← digits atEnd
    return some (negative, digits)
  | _ => return none

def sign : Scanner Bool := fun cs =>
  match cs with
  | '-' :: rest => .ok (true, rest)
  | cs => .ok (false, cs)

def numberParts (atEnd : TextFault) : Scanner NumberParts := do
  let negative ← sign
  let whole ← wholePart atEnd
  let decimals ← decimalPart atEnd
  let exponent ← exponentPart atEnd
  return { negative, whole, decimals, exponent }

def exponentLimit : Nat := Nat.pow 2 31 - 1

-- A number that is not zero cannot be read beyond the digit at which its exponent gets too large.
def number : Scanner Number := do
  let parts ← numberParts .eofInValue
  let isZero := (parts.whole ++ parts.decimals.getD []).all (· = '0')
  match parts.exponent with
  | some (negative, digits) =>
    let (n, left) := Number.absorb exponentLimit 0 digits
    if left ≠ 0 ∧ !negative ∧ !isZero then
      fun cs => fail .numberTooLarge (digits.drop (digits.length + 1 - left) ++ cs)
    else finish parts (some (if negative then -n else n))
  | none => finish parts none
where
  finish (parts : NumberParts) (exponent : Option Int) : Scanner Number :=
    match Number.ofParts? parts.negative parts.whole parts.decimals exponent with
    | some n => pure n
    | none => fail .numberTooLarge

end Scanner

end GatewayOperator.Json
