import GatewayOperator.Instant.Basic
import GatewayOperator.Json.Reading

namespace GatewayOperator.Text

-- The ranges of the property White_Space
def blankRanges : List (Nat × Nat) :=
  [(0x9, 0xD), (0x20, 0x20), (0x85, 0x85), (0xA0, 0xA0), (0x1680, 0x1680), (0x2000, 0x200A),
   (0x2028, 0x2029), (0x202F, 0x202F), (0x205F, 0x205F), (0x3000, 0x3000)]

def isBlank (c : Char) : Bool := blankRanges.any fun r => r.1 ≤ c.toNat && c.toNat ≤ r.2

end GatewayOperator.Text

namespace GatewayOperator.Instant

inductive Fault where
  | outOfRange
  -- the time does not exist in UTC
  | impossible
  | invalid
  | tooShort
  | tooLong
deriving DecidableEq, Repr

def Fault.message : Fault → String
  | outOfRange => "input is out of range"
  | impossible => "no possible date and time matching input"
  | invalid => "input contains invalid characters"
  | tooShort => "premature end of input"
  | tooLong => "trailing input"

-- Takes something from the front of a text.
abbrev Scan (α : Type) := StateT (List Char) (Except Fault) α

namespace Scan

def fail {α : Type} (fault : Fault) : Scan α := fun _ => .error fault

def blanks : Scan Unit := fun cs => .ok ((), cs.dropWhile Text.isBlank)

def digitsValue (digits : List Char) : Nat :=
  digits.foldl (fun n c => n * 10 + (c.toNat - '0'.toNat)) 0

-- A number, of which at most `width` digits are taken if a width is given.
def number (width : Option Nat) : Scan Nat := fun cs =>
  match cs with
  | [] => .error .tooShort
  | c :: _ =>
    if c.isDigit then
      let digits := (cs.take (width.getD cs.length)).takeWhile Char.isDigit
      .ok (digitsValue digits, cs.drop digits.length)
    else .error .invalid

-- A number of one or two digits between two bounds, both included.
def within (least greatest : Nat) : Scan Nat := do
  blanks
  let n ← number (some 2)
  if least ≤ n ∧ n ≤ greatest then return n else fail .outOfRange

def oneOf (allowed : List Char) : Scan Char := fun cs =>
  match cs with
  | [] => .error .tooShort
  | c :: rest => if c ∈ allowed then .ok (c, rest) else .error .invalid

-- A mark between two numbers.
def mark (c : Char) : Scan Unit := do
  blanks
  let _ ← oneOf [c]

-- A year has four digits at most, or a sign and any count of digits.
def year : Scan Int := do
  blanks
  let n : Int ← fun cs =>
    match cs with
    | '-' :: rest => (fun n : Nat => -(n : Int)) <$> number none |>.run rest
    | '+' :: rest => (fun n : Nat => (n : Int)) <$> number none |>.run rest
    | cs => (fun n : Nat => (n : Int)) <$> number (some 4) |>.run cs
  if -2147483648 ≤ n ∧ n ≤ 2147483647 then return n else fail .outOfRange

-- A point and at least one digit, if there is a point.
def fraction : Scan Unit := fun cs =>
  match cs with
  | '.' :: rest => do
    let (_, rest) ← number (some 9) |>.run rest
    return ((), rest.dropWhile Char.isDigit)
  | cs => .ok ((), cs)

-- Two digits. A single character counts as too short only if it is ASCII.
def twoDigits : Scan (Nat × Nat) := fun cs =>
  match cs with
  | [] => .error .tooShort
  | [c] => if c.toNat < 128 then .error .tooShort else .error .invalid
  | c :: d :: rest =>
    if c.isDigit && d.isDigit then .ok ((digitsValue [c], digitsValue [d]), rest)
    else .error .invalid

-- The distance from UTC in seconds: a sign, hours, colons or blanks, minutes.
def distance : Scan Int := do
  let sign ← oneOf ['+', '-', '\u2212']
  let (h, hour) ← twoDigits
  fun cs => .ok ((), cs.dropWhile fun c => c = ':' || Text.isBlank c)
  let (m, minute) ← twoDigits
  if 5 < m then fail .outOfRange
  let size : Int := ((h * 10 + hour) * 60 + m * 10 + minute) * 60
  return if sign = '+' then size else -size

-- The distance from UTC, or `UTC` or `Z` in any case.
def offset : Scan Int := fun cs =>
  match cs with
  | [] => .error .tooShort
  | c :: rest =>
    if (cs.take 3).map Char.toLower = ['u', 't', 'c'] then .ok (0, cs.drop 3)
    else if c = 'Z' ∨ c = 'z' then .ok (0, rest)
    else distance cs

def finish : Scan Unit := do
  blanks
  fun cs => if cs.isEmpty then .ok ((), []) else .error .tooLong

end Scan

-- The years that a date can have
def leastYear : Int := -262143

def greatestYear : Int := 262142

def Date.isKnown (d : Date) : Bool :=
  d.isValid && leastYear ≤ d.year && d.year ≤ greatestYear

def secondsOf (hour minute second : Nat) : Int := (hour * 60 + minute) * 60 + second

-- Any offset and any fraction of a second can be read, and the text need not be strict: numbers may
-- be short, blanks may stand between the parts, and UTC may be named. Of several faults the first
-- counts; that parts do not fit together is seen last.
def scan : Scan Instant := do
  let year ← Scan.year
  Scan.mark '-'
  let month ← Scan.within 1 12
  Scan.mark '-'
  let day ← Scan.within 1 31
  let _ ← Scan.oneOf ['T', 't', ' ']
  let hour ← Scan.within 0 23
  Scan.mark ':'
  let minute ← Scan.within 0 59
  Scan.mark ':'
  let second ← Scan.within 0 60
  Scan.fraction
  Scan.blanks
  let offset ← Scan.offset
  Scan.finish
  let date : Date := ⟨year, month, day⟩
  if !date.isKnown || secondsPerDay ≤ offset.natAbs then Scan.fail .outOfRange
  let leap := second = 60
  let time := secondsOf hour minute (if leap then 59 else second)
  let t : Instant := ⟨date.toDays * secondsPerDay + time - offset, leap⟩
  if t.date.isKnown then return t else Scan.fail .impossible

def parse (text : String) : Except Fault Instant := (·.1) <$> scan.run text.toList

def ofText? (text : String) : Option Instant := (parse text).toOption

def read : Json.Reader Instant
  | .string s =>
    match ofText? s with
    | some t => .ok t
    | none => .error .malformed
  | _ => .error .malformed

end GatewayOperator.Instant
