import GatewayOperator.Text.Printable

namespace GatewayOperator

namespace Quoted

def isPrintable (c : Char) : Bool :=
  if c.toNat < 0x80 then 0x20 ≤ c.toNat && c.toNat < 0x7f
  else !Printable.unprintableRanges.any fun r => r.1 ≤ c.toNat && c.toNat ≤ r.2

-- The code point in hexadecimal, between braces.
def unicodeEscape (c : Char) : List Char := ['\\', 'u', '{'] ++ Nat.toDigits 16 c.toNat ++ ['}']

def escape (c : Char) : List Char :=
  if c = '\x00' then ['\\', '0']
  else if c = '\t' then ['\\', 't']
  else if c = '\r' then ['\\', 'r']
  else if c = '\n' then ['\\', 'n']
  else if c = '"' then ['\\', '"']
  else if c = '\\' then ['\\', '\\']
  else if isPrintable c then [c]
  else unicodeEscape c

end Quoted

def quoted (s : String) : String :=
  "\"" ++ String.ofList (s.toList.flatMap Quoted.escape) ++ "\""

end GatewayOperator
