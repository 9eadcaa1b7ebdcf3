import GatewayOperator.Json.Printer
import GatewayOperator.Yaml.Ambiguity

namespace GatewayOperator.Yaml

def isBreak (c : Char) : Bool :=
  c = '\n' || c = '\r' || c = '\u0085' || c = '\u2028' || c = '\u2029'

-- Blanks, breaks and NUL all part words.
def partsWords (c : Char) : Bool := c = ' ' || c = '\t' || c = '\x00' || isBreak c

-- Characters that may stand in a document without an escape
def isPrintable (c : Char) : Bool :=
  let n := c.toNat
  n = 0x0a || (0x20 ≤ n && n ≤ 0x7e) || (0xa0 ≤ n && n ≤ 0xd7ff) ||
    (0xe000 ≤ n && n ≤ 0xfffd && n ≠ 0xfeff) || 0x10000 ≤ n

-- Whether `p` holds of two characters side by side.
def adjacent (p : Char → Char → Bool) : List Char → Bool
  | a :: b :: rest => p a b || adjacent p (b :: rest)
  | _ => false

def needsEscape (cs : List Char) : Bool := cs.any fun c => !isPrintable c

def hasBreak (cs : List Char) : Bool := cs.any isBreak

def breakThenSpace (cs : List Char) : Bool := adjacent (fun a b => isBreak a && b = ' ') cs

def spaceThenBreak (cs : List Char) : Bool := adjacent (fun a b => a = ' ' && isBreak b) cs

def endsInSpace (cs : List Char) : Bool := cs.getLast? = some ' '

-- Characters that open something else at the start of a plain scalar
def indicators : List Char :=
  ['#', ',', '[', ']', '{', '}', '&', '*', '!', '|', '>', '\'', '"', '%', '@', '`']

-- Nothing more, or a character that parts words.
def atWordEnd : List Char → Bool
  | [] => true
  | c :: _ => partsWords c

-- A colon at the end of a word.
def hasMappingMark : List Char → Bool
  | [] => false
  | c :: rest => (c = ':' && atWordEnd rest) || hasMappingMark rest

-- A comment starts after a space.
def hasCommentMark (cs : List Char) : Bool := adjacent (fun a b => partsWords a && b = '#') cs

def startsWithIndicator : List Char → Bool
  | [] => false
  | c :: rest => indicators.contains c || ((c = '?' || c = '-') && atWordEnd rest)

def startsWithDocumentMark : List Char → Bool
  | '-' :: '-' :: '-' :: _ => true
  | '.' :: '.' :: '.' :: _ => true
  | _ => false

def edgeIsBlank (cs : List Char) : Bool :=
  let blank (c : Option Char) : Bool := c.any fun c => c = ' ' || isBreak c
  blank cs.head? || blank cs.getLast?

def plainAllowed (cs : List Char) : Bool :=
  !(needsEscape cs || hasBreak cs || edgeIsBlank cs || startsWithDocumentMark cs ||
    startsWithIndicator cs || hasMappingMark cs || hasCommentMark cs)

def singleQuotesAllowed (cs : List Char) : Bool :=
  !(needsEscape cs || breakThenSpace cs || spaceThenBreak cs)

def literalAllowed (cs : List Char) : Bool :=
  !(needsEscape cs || spaceThenBreak cs || endsInSpace cs)

inductive Style where
  | plain
  | singleQuoted
  | doubleQuoted
  | literal
deriving DecidableEq, Repr

-- Plain where that can be read back, else in single quotes, else in double quotes with escapes. A
-- text of several lines becomes a literal block where it can.
def styleOf (s : String) : Style :=
  let cs := s.toList
  if cs.contains '\n' then
    if literalAllowed cs then .literal else .doubleQuoted
  else if !isAmbiguous s && plainAllowed cs then .plain
  else if singleQuotesAllowed cs then .singleQuoted
  else .doubleQuoted

def spaces (count : Nat) : List Char := List.replicate count ' '

-- A line goes on at the indent after a break; `broken` says that the last character was one.
def singleQuotedBody (indent : Nat) (broken : Bool) : List Char → List Char
  | [] => if broken then spaces indent else []
  | c :: rest =>
    if isBreak c then c :: singleQuotedBody indent true rest
    else if c = ' ' then c :: singleQuotedBody indent broken rest
    else
      (if broken then spaces indent else []) ++ (if c = '\'' then ['\'', '\''] else [c]) ++
        singleQuotedBody indent false rest

def hexUpper (width n : Nat) : List Char := (Json.hexDigits width n).map Char.toUpper

-- Every character that is not printable has at most four hexadecimal digits.
def escape (c : Char) : List Char :=
  let n := c.toNat
  if n = 0 then ['\\', '0']
  else if n = 7 then ['\\', 'a']
  else if n = 8 then ['\\', 'b']
  else if n = 9 then ['\\', 't']
  else if n = 10 then ['\\', 'n']
  else if n = 11 then ['\\', 'v']
  else if n = 12 then ['\\', 'f']
  else if n = 13 then ['\\', 'r']
  else if n = 0x1b then ['\\', 'e']
  else if n = 0x85 then ['\\', 'N']
  else if n = 0x2028 then ['\\', 'L']
  else if n = 0x2029 then ['\\', 'P']
  else if c = '"' then ['\\', '"']
  else if c = '\\' then ['\\', '\\']
  else if isPrintable c then [c]
  else if n ≤ 0xff then '\\' :: 'x' :: hexUpper 2 n
  else '\\' :: 'u' :: hexUpper 4 n

-- The indent is given where the first line would not show it; then comes what happens to the last
-- break: it is kept, stripped as not there, or kept with all breaks before it.
def literalHeader (cs : List Char) : List Char :=
  let leading := cs.head?.any fun c => c = ' ' || isBreak c
  let trailing := match cs.reverse with
    | [] => ['-']
    | [c] => if isBreak c then ['+'] else ['-']
    | c :: d :: _ => if !isBreak c then ['-'] else if isBreak d then ['+'] else []
  '|' :: (if leading then ['2'] else []) ++ trailing

def literalBody (indent : Nat) (broken : Bool) : List Char → List Char
  | [] => []
  | c :: rest =>
    if isBreak c then c :: literalBody indent true rest
    else (if broken then spaces indent else []) ++ c :: literalBody indent false rest

-- A scalar whose further lines, if any, stand at `indent`. It ends without a break unless it is a
-- literal block that ends with one.
def scalar (indent : Nat) (s : String) : List Char :=
  let cs := s.toList
  match styleOf s with
  | .plain => cs
  | .singleQuoted => '\'' :: singleQuotedBody indent false cs ++ ['\'']
  | .doubleQuoted => '"' :: cs.flatMap escape ++ ['"']
  | .literal => literalHeader cs ++ '\n' :: literalBody indent true cs

end GatewayOperator.Yaml
