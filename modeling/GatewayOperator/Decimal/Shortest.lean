namespace GatewayOperator.Decimal

-- `digits` times ten to the power `exponent`
structure Numeral where
  digits : Nat
  exponent : Int
deriving DecidableEq, Repr, Inhabited

-- Which of two numerals is taken that are equally near
inductive Tie where
  | toEven
  | up
deriving DecidableEq, Repr

-- A positive value with the interval that rounds to it, all as fractions of `unit`
structure Rounded where
  value : Nat
  least : Nat
  greatest : Nat
  unit : Nat
  -- whether the ends belong to the interval
  closed : Bool

namespace Rounded

-- The value `mantissa` times two to the power `exponent`. Where the mantissa is the least of its
-- binade, the next number below is only half as far away as the next above.
def ofBinary (mantissa : Nat) (exponent : Int) (leastOfBinade : Bool) : Rounded :=
  let scale := Nat.pow 2 exponent.toNat
  { value := 4 * mantissa * scale
    least := 4 * mantissa * scale - (if leastOfBinade then 1 else 2) * scale
    greatest := 4 * mantissa * scale + 2 * scale
    unit := 4 * Nat.pow 2 (-exponent).toNat
    closed := mantissa % 2 = 0 }

def contains (r : Rounded) (n : Numeral) : Bool :=
  let left := n.digits * Nat.pow 10 n.exponent.toNat * r.unit
  let scale := Nat.pow 10 (-n.exponent).toNat
  if r.closed then r.least * scale ≤ left && left ≤ r.greatest * scale
  else r.least * scale < left && left < r.greatest * scale

-- The power of ten of the first digit: the greatest that is not above the value.
def magnitude (r : Rounded) : Int :=
  if r.unit ≤ r.value then (Nat.toDigits 10 (r.value / r.unit)).length - 1
  else
    -- the least power of ten that brings the fraction to one or above
    let inverse := (r.unit + r.value - 1) / r.value
    Int.negOfNat (Nat.toDigits 10 (inverse - 1)).length

-- The value in units of ten to the power `exponent`, cut to a whole number.
def floorAt (r : Rounded) (exponent : Int) : Nat :=
  r.value * Nat.pow 10 (-exponent).toNat / (r.unit * Nat.pow 10 exponent.toNat)

-- Whether the numeral above `digits` is taken rather than that of `digits`.
def prefersAbove (r : Rounded) (tie : Tie) (digits : Nat) (exponent : Int) : Bool :=
  let middle := (2 * digits + 1) * Nat.pow 10 exponent.toNat * r.unit
  let value := 2 * r.value * Nat.pow 10 (-exponent).toNat
  middle < value || (middle = value && (tie = .up || digits % 2 = 1))

def withDigits? (r : Rounded) (tie : Tie) (count : Nat) : Option Numeral :=
  let exponent := r.magnitude - (count - 1)
  let below : Numeral := ⟨r.floorAt exponent, exponent⟩
  let above : Numeral := ⟨below.digits + 1, exponent⟩
  match r.contains below, r.contains above with
  | true, true => some (if r.prefersAbove tie below.digits exponent then above else below)
  | true, false => some below
  | false, true => some above
  | false, false => none

-- From `count` digits up; `more` bounds the search.
def shortestFrom (r : Rounded) (tie : Tie) (count : Nat) : Nat → Numeral
  | 0 => ⟨r.floorAt (r.magnitude - (count - 1)), r.magnitude - (count - 1)⟩
  | more + 1 => (r.withDigits? tie count).getD (r.shortestFrom tie (count + 1) more)

end Rounded

namespace Numeral

-- The same number without zeros at the end of its digits; `more` bounds their count.
def trimmed (n : Numeral) : Nat → Numeral
  | 0 => n
  | more + 1 =>
    if n.digits ≠ 0 ∧ n.digits % 10 = 0 then trimmed ⟨n.digits / 10, n.exponent + 1⟩ more else n

end Numeral

-- Seventeen digits tell any two floats of 64 bits apart. The numeral above a value can be a power
-- of ten, which has fewer digits than were asked for.
def Rounded.shortest (r : Rounded) (tie : Tie) : Numeral := (r.shortestFrom tie 1 17).trimmed 18

-- What a float stands for
inductive Reading where
  | notANumber
  | infinite (negative : Bool)
  | finite (negative : Bool) (size : Numeral)

-- The shortest numeral that reads back as the float.
def ofFloat (tie : Tie) (x : Float) : Reading :=
  let bits : Nat := x.toBits.toNat
  let negative : Bool := Nat.pow 2 63 ≤ bits
  let biased : Nat := bits / Nat.pow 2 52 % Nat.pow 2 11
  let fraction : Nat := bits % Nat.pow 2 52
  if biased = 2047 then if fraction = 0 then .infinite negative else .notANumber
  else if biased = 0 ∧ fraction = 0 then .finite negative ⟨0, 0⟩
  else
    let mantissa := if biased = 0 then fraction else fraction + Nat.pow 2 52
    let exponent : Int := (if biased = 0 then 1 else biased) - 1075
    let rounded := Rounded.ofBinary mantissa exponent (fraction = 0 && 1 < biased)
    .finite negative (rounded.shortest tie)

namespace Numeral

-- Without exponent: zeros behind the digits, or a point among or in front of them.
def positional (n : Numeral) : String :=
  let digits := Nat.toDigits 10 n.digits
  if 0 ≤ n.exponent then String.ofList (digits ++ List.replicate n.exponent.toNat '0')
  else
    let places := n.exponent.natAbs
    let padded := List.replicate (places + 1 - digits.length) '0' ++ digits
    let whole := padded.take (padded.length - places)
    let fraction := padded.drop (padded.length - places)
    String.ofList (whole ++ '.' :: fraction)

end Numeral

end GatewayOperator.Decimal
