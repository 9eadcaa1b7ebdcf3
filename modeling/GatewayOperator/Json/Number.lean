import GatewayOperator.Json.Basic

namespace GatewayOperator.Number

def wholeLimit : Nat := Nat.pow 2 64 - 1

-- Goes on from `n` with further digits as long as the limit allows, and tells how many are left.
def absorb (limit n : Nat) (digits : List Char) : Nat × Nat :=
  match digits with
  | [] => (n, 0)
  | d :: rest =>
    let next := n * 10 + (d.toNat - '0'.toNat)
    if next ≤ limit then absorb limit next rest else (n, rest.length + 1)

-- The greatest power of ten that a float can be multiplied with in one step
def powerLimit : Nat := 308

def powerOfTen (n : Nat) : Float := Float.ofScientific 1 false n

-- The float times ten to the power `exponent`, none if that is too large. Greater powers are
-- divided away in steps, of which `more` are left: after two of them every float is zero.
def scale? (x : Float) (exponent : Int) : Nat → Option Float
  | 0 => some 0
  | more + 1 =>
    if exponent.natAbs ≤ powerLimit then
      if exponent < 0 then some (x / powerOfTen exponent.natAbs)
      else
        let scaled := x * powerOfTen exponent.natAbs
        if scaled.isInf then none else some scaled
    else if x == 0 then some x
    else if 0 ≤ exponent then none
    else scale? (x / powerOfTen powerLimit) (exponent + powerLimit) more

-- A finite float as a number.
def ofFloat (negative : Bool) (x : Float) : Number :=
  match Decimal.ofFloat .toEven x with
  | .finite _ size => .decimal negative size
  | _ => .decimal negative ⟨0, 0⟩

-- The number with the given whole part and, if there are any, decimals and exponent; none if it is
-- too large for a float. A number with a point, an exponent or too many digits is read in two
-- steps: its first digits make such a number, which becomes a float, and that float is multiplied
-- or divided by a power of ten. Each step rounds.
def ofParts? (negative : Bool) (whole : List Char) (decimals : Option (List Char))
    (exponent : Option Int) : Option Number :=
  let (n, dropped) := absorb wholeLimit 0 whole
  if decimals.isNone && exponent.isNone && dropped = 0 &&
      (!negative || (n ≠ 0 && n ≤ Nat.pow 2 63)) then
    some (.integer (if negative then -n else n))
  else
    let decimals := decimals.getD []
    let (n, left) := absorb wholeLimit n decimals
    let places : Int := dropped - (decimals.length - left)
    (scale? (Float.ofNat n) (places + exponent.getD 0) 3).map (ofFloat negative)

def toFloat : Number → Float
  | .integer value => Float.ofInt value
  | .decimal negative size =>
    let x := Float.ofScientific size.digits (decide (size.exponent < 0)) size.exponent.natAbs
    if negative then -x else x

-- The digits with a point after the first of them, if there is more than one, and an exponent.
def scientific (size : Decimal.Numeral) : String :=
  let digits := Nat.toDigits 10 size.digits
  let leading : Int := size.exponent + (digits.length - 1)
  String.ofList (digits.take 1) ++
    (if digits.length ≤ 1 then "" else "." ++ String.ofList (digits.drop 1)) ++
    "e" ++ (if leading < 0 then "-" else "+") ++ toString leading.natAbs

-- Without exponent if the first digit stands neither left of the sixteenth place before the point
-- nor right of the fifth place behind it. A decimal that is whole keeps a point and a zero.
def text : Number → String
  | .integer value => toString value
  | .decimal negative size =>
    let leading : Int := size.exponent + ((Nat.toDigits 10 size.digits).length - 1)
    let sign := if negative then "-" else ""
    if leading < -5 ∨ 16 ≤ leading then sign ++ scientific size
    else sign ++ size.positional ++ (if 0 ≤ size.exponent then ".0" else "")

end GatewayOperator.Number
