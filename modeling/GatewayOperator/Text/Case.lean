import GatewayOperator.Text.Case.Table

namespace GatewayOperator

namespace Case

def shifted (runs : List Run) (n : Nat) : Nat :=
  match runs.find? fun r => r.first ≤ n && n ≤ r.last && (n - r.first) % r.step = 0 with
  | some r => (n + r.shift).toNat
  | none => n

def within (ranges : List (Nat × Nat)) (n : Nat) : Bool :=
  ranges.any fun r => r.1 ≤ n && n ≤ r.2

def isIgnorable (c : Char) : Bool := within ignorableRanges c.toNat

def isCased (c : Char) : Bool := within casedRanges c.toNat

-- The small letter with a dot of the capital with a dot takes two characters.
def lower (c : Char) : List Char :=
  if c.toNat < 0x80 then [c.toLower]
  else if c.toNat = 0x130 then ['i', '\u0307']
  else [Char.ofNat (shifted lowerRuns c.toNat)]

def upper (c : Char) : List Char :=
  if c.toNat < 0x80 then [c.toUpper]
  else match upperExpansions.lookup c.toNat with
    | some cs => cs.map Char.ofNat
    | none => [Char.ofNat (shifted upperRuns c.toNat)]

-- Whether the next character that counts is a letter with a case.
def meetsCased (cs : List Char) : Bool :=
  match cs.dropWhile isIgnorable with
  | [] => false
  | c :: _ => isCased c

def capitalSigma : Char := '\u03a3'

-- A capital sigma after `before` (last character first) and in front of `after`.
def lowerSigma (before after : List Char) : Char :=
  if meetsCased before && !meetsCased after then '\u03c2' else '\u03c3'

def lowerFrom (before : List Char) : List Char → List Char
  | [] => []
  | c :: rest =>
    (if c = capitalSigma then [lowerSigma before rest] else lower c) ++ lowerFrom (c :: before) rest

end Case

def lowercase (s : String) : String := String.ofList (Case.lowerFrom [] s.toList)

def uppercase (s : String) : String := String.ofList (s.toList.flatMap Case.upper)

end GatewayOperator
