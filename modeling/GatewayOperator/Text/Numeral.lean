namespace GatewayOperator

namespace Numeral

inductive Fault where
  | empty
  | invalidDigit
  | tooLarge
deriving DecidableEq, Repr

def Fault.message : Fault → String
  | empty => "cannot parse integer from empty string"
  | invalidDigit => "invalid digit found in string"
  | tooLarge => "number too large to fit in target type"

def digit? (c : Char) : Option Nat := if c.isDigit then some (c.toNat - '0'.toNat) else none

-- Goes on from the number `n` with further digits; the first character that cannot go on decides.
def extend (limit n : Nat) : List Char → Except Fault Nat
  | [] => .ok n
  | c :: rest =>
    match digit? c with
    | none => .error .invalidDigit
    | some d => if n * 10 + d ≤ limit then extend limit (n * 10 + d) rest else .error .tooLarge

-- A number up to `limit`.
def parse (limit : Nat) (s : String) : Except Fault Nat :=
  match s.toList with
  | [] => .error .empty
  | ['+'] => .error .invalidDigit
  | '+' :: digits => extend limit 0 digits
  | digits => extend limit 0 digits

end Numeral

end GatewayOperator
