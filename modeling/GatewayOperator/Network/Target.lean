namespace GatewayOperator

structure Target where
  path : String
  query : String
deriving DecidableEq, Repr

namespace Target

inductive Fault where
  | invalidCharacter
  | tooLong
deriving DecidableEq, Repr

def Fault.message : Fault → String
  | invalidCharacter => "invalid uri character"
  | tooLong => "uri too long"

-- In bytes
def greatestLength : Nat := 65534

def isWithin (c : Char) (ranges : List (Char × Char)) : Bool :=
  ranges.any fun r => r.1 ≤ c && c ≤ r.2

def isBeyondAscii (c : Char) : Bool := 0x80 ≤ c.toNat

def isPathChar (c : Char) : Bool :=
  isBeyondAscii c ||
    isWithin c [('!', '"'), ('$', ';'), ('=', '='), ('@', '_'), ('a', '~')]

def isQueryChar (c : Char) : Bool :=
  isBeyondAscii c || isWithin c [('!', '!'), ('$', ';'), ('=', '='), ('?', '~')]

-- The query goes from the first question mark to the first number sign.
def queryOf (rest : List Char) : List Char :=
  match rest with
  | '?' :: rest => rest.takeWhile (· ≠ '#')
  | _ => []

-- Reads the text behind a host name. What follows a number sign is no part of the target.
def parse (text : String) : Except Fault Target :=
  if greatestLength < text.utf8ByteSize then .error .tooLong
  else
    let inPath (c : Char) : Bool := c ≠ '?' && c ≠ '#'
    let path := text.toList.takeWhile inPath
    let query := queryOf (text.toList.dropWhile inPath)
    if path.all isPathChar && query.all isQueryChar then
      .ok ⟨String.ofList path, String.ofList query⟩
    else .error .invalidCharacter

end Target

end GatewayOperator
