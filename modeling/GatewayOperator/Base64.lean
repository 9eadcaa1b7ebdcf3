namespace GatewayOperator.Base64

inductive Fault where
  | symbol (byte offset : Nat)
  -- a symbol with bits set that stand for no byte
  | lastSymbol (byte offset : Nat)
  -- a group of one symbol
  | length (count : Nat)
  | padding
deriving DecidableEq, Repr

def Fault.message : Fault → String
  | symbol byte offset =>
    "Invalid symbol " ++ toString byte ++ ", offset " ++ toString offset ++ "."
  | lastSymbol byte offset =>
    "Invalid last symbol " ++ toString byte ++ ", offset " ++ toString offset ++ "."
  | length count => "Invalid input length: " ++ toString count
  | padding => "Invalid padding"

def pad : Nat := '='.toNat

def bits? (byte : Nat) : Option Nat :=
  let c := Char.ofNat byte
  if c.isUpper then some (byte - 'A'.toNat)
  else if c.isLower then some (byte - 'a'.toNat + 26)
  else if c.isDigit then some (byte - '0'.toNat + 52)
  else if c = '+' then some 62
  else if c = '/' then some 63
  else none

-- The first byte that is no symbol.
def fullGroupsFault? (offset : Nat) : List Nat → Option Fault
  | [] => none
  | b :: rest =>
    if (bits? b).isNone then some (.symbol b offset) else fullGroupsFault? (offset + 1) rest

-- Padding has two symbols at least in front of it and nothing but padding behind it. The fault is
-- at the first padding.
def lastGroupFault? (start index : Nat) (firstPad : Option Nat) : List Nat → Option Fault
  | [] => none
  | b :: rest =>
    if b = pad then
      if index < 2 then some (.symbol b (start + index))
      else lastGroupFault? start (index + 1) (some (firstPad.getD index)) rest
    else
      match firstPad with
      | some i => some (.symbol pad (start + i))
      | none =>
        if (bits? b).isNone then some (.symbol b (start + index))
        else lastGroupFault? start (index + 1) none rest

-- How many bits of the last symbol of a group stand for no byte, by the count of symbols.
def idleBits (symbols : Nat) : Nat := symbols * 6 % 8

-- The fault of a last group of symbols and padding in their places.
def sizeFault? (start : Nat) (group : List Nat) : Option Fault :=
  let symbols := group.filter (· ≠ pad)
  let last := symbols.getLast?.getD 0
  if symbols.length < 2 then some (.length (start + symbols.length))
  else if group.length ≠ 4 then some .padding
  else if (bits? last).getD 0 % Nat.pow 2 (idleBits symbols.length) ≠ 0 then
    some (.lastSymbol last (start + symbols.length - 1))
  else none

-- A single symbol behind full groups is looked at first.
def strayFault? (bytes : List Nat) : Option Fault :=
  match bytes.getLast? with
  | some b =>
    if bytes.length % 4 = 1 ∧ b ≠ pad ∧ (bits? b).isNone then some (.symbol b (bytes.length - 1))
    else none
  | none => none

def bytesFault? (bytes : List Nat) : Option Fault :=
  if bytes.isEmpty then none
  else
    let start := (bytes.length - 1) / 4 * 4
    let group := bytes.drop start
    strayFault? bytes <|> fullGroupsFault? 0 (bytes.take start) <|>
      lastGroupFault? start 0 none group <|> sizeFault? start group

-- Why a text is no base64: it is made of groups of four symbols, the last one filled up with
-- padding, and bits that stand for no byte must not be set. Symbols and offsets are counted in
-- bytes of UTF-8.
def fault? (text : String) : Option Fault := bytesFault? (text.toUTF8.data.toList.map UInt8.toNat)

end GatewayOperator.Base64
