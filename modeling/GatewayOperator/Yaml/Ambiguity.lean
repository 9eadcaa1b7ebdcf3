namespace GatewayOperator.Yaml

def isNullWord (cs : List Char) : Bool :=
  cs = [] || cs = "null".toList || cs = "Null".toList || cs = "NULL".toList || cs = ['~']

def isTruthWord (cs : List Char) : Bool :=
  cs = "true".toList || cs = "True".toList || cs = "TRUE".toList ||
    cs = "false".toList || cs = "False".toList || cs = "FALSE".toList

def startsWithSign : List Char → Bool
  | c :: _ => c = '+' || c = '-'
  | [] => false

def dropPlus : List Char → List Char
  | '+' :: rest => rest
  | cs => cs

def dropSign : List Char → List Char
  | '+' :: rest => rest
  | '-' :: rest => rest
  | cs => cs

-- Digits after a leading zero are text.
def isZeroPadded (cs : List Char) : Bool :=
  match dropSign cs with
  | '0' :: d :: rest => (d :: rest).all Char.isDigit
  | _ => false

def digitOfRadix? (radix : Nat) (c : Char) : Option Nat :=
  let value :=
    if c.isDigit then c.toNat - '0'.toNat
    else if 'a' ≤ c ∧ c ≤ 'f' then c.toNat - 'a'.toNat + 10
    else if 'A' ≤ c ∧ c ≤ 'F' then c.toNat - 'A'.toNat + 10
    else 16
  if value < radix then some value else none

-- The number that one or more digits write.
def numeral? (radix : Nat) (cs : List Char) : Option Nat :=
  match cs with
  | [] => none
  | cs => cs.foldlM (fun n c => (digitOfRadix? radix c).map (n * radix + ·)) 0

-- The digits of a number without sign, and their radix.
def radixOf : List Char → Nat × List Char
  | '0' :: 'x' :: rest => (16, rest)
  | '0' :: 'o' :: rest => (8, rest)
  | '0' :: 'b' :: rest => (2, rest)
  | cs => (10, cs)

-- Whole numbers of up to 128 bits, in decimal or after `0x`, `0o` and `0b`.
def isInteger (cs : List Char) : Bool :=
  !isZeroPadded cs &&
    match cs with
    | '-' :: rest =>
      let (radix, digits) := radixOf rest
      (numeral? radix digits).any (· ≤ Nat.pow 2 127)
    | cs =>
      let (radix, digits) := radixOf (dropPlus cs)
      (numeral? radix digits).any (· < Nat.pow 2 128)

-- The smallest decimal value that is rounded to infinity in a float of 64 bits
def floatOverflow : Nat := Nat.pow 2 1024 - Nat.pow 2 970

-- Whether `digits` times ten to the power `exponent` is less than that value.
def isFiniteFloat (digits : Nat) (exponent : Int) : Bool :=
  let magnitude : Int := (Nat.toDigits 10 digits).length + exponent
  if digits = 0 ∨ magnitude ≤ 308 then true
  else if 310 ≤ magnitude then false
  else if 0 ≤ exponent then digits * Nat.pow 10 exponent.toNat < floatOverflow
  else digits < floatOverflow * Nat.pow 10 (-exponent).toNat

-- An exponent after its letter: an optional sign and at least one digit.
def exponent? (cs : List Char) : Option Int :=
  let size := (numeral? 10 (dropSign cs)).map Int.ofNat
  match cs with
  | '-' :: _ => size.map (- ·)
  | _ => size

-- Digits with a point or an exponent, and a digit on at least one side of the point.
def decimal? (cs : List Char) : Option (Nat × Int) := do
  let whole := cs.takeWhile Char.isDigit
  let rest := cs.dropWhile Char.isDigit
  let (fraction, rest) := match rest with
    | '.' :: rest => (rest.takeWhile Char.isDigit, rest.dropWhile Char.isDigit)
    | rest => ([], rest)
  let digits ← numeral? 10 (whole ++ fraction)
  let power ← match rest with
    | [] => some 0
    | 'e' :: rest => exponent? rest
    | 'E' :: rest => exponent? rest
    | _ => none
  return (digits, power - fraction.length)

def isInfinityWord (cs : List Char) : Bool :=
  cs = ".inf".toList || cs = ".Inf".toList || cs = ".INF".toList

def isNanWord (cs : List Char) : Bool :=
  cs = ".nan".toList || cs = ".NaN".toList || cs = ".NAN".toList

-- Finite decimal numbers, infinities, and the words for what is no number.
def isFloat (cs : List Char) : Bool :=
  let unsigned := dropPlus cs
  if cs ≠ unsigned ∧ startsWithSign unsigned then false
  else
    isInfinityWord unsigned || isNanWord cs ||
      (cs.head? = some '-' && isInfinityWord (cs.drop 1)) ||
      (decimal? (dropSign unsigned)).any fun d => isFiniteFloat d.1 d.2

-- Whether a text would be read back as something other than text if it stood without quotes.
def isAmbiguous (s : String) : Bool :=
  let cs := s.toList
  isNullWord cs || isTruthWord cs || isZeroPadded cs || isInteger cs || isFloat cs

end GatewayOperator.Yaml
