namespace GatewayOperator

structure IPv4 where
  a : Nat
  b : Nat
  c : Nat
  d : Nat
deriving DecidableEq, Repr

-- Addresses of version 4 are written as `1.2.3.4:80`, those of version 6 as `[::1%2]:80`.
inductive SocketAddress where
  | v4 (host : IPv4) (port : Nat)
  -- the eight groups of the host and the zone it is in
  | v6 (host : List Nat) (zone : Nat) (port : Nat)
deriving DecidableEq, Repr

namespace SocketAddress

-- Readers take characters from the front of a text.
abbrev Scan (α : Type) := StateT (List Char) Option α

namespace Scan

def char (expected : Char) : Scan Unit := fun cs =>
  match cs with
  | c :: rest => if c = expected then some ((), rest) else none
  | [] => none

def digitValue? (radix : Nat) (c : Char) : Option Nat :=
  let value :=
    if c.isDigit then c.toNat - '0'.toNat
    else if 'a' ≤ c ∧ c ≤ 'f' then c.toNat - 'a'.toNat + 10
    else if 'A' ≤ c ∧ c ≤ 'F' then c.toNat - 'A'.toNat + 10
    else radix
  if value < radix then some value else none

-- One or more digits up to the first character that is none, with their number at most `limit`.
def number (radix limit : Nat) (accept : List Char → Bool) : Scan Nat := fun cs =>
  let digits := cs.takeWhile fun c => (digitValue? radix c).isSome
  let value := digits.foldl (fun n c => n * radix + (digitValue? radix c).getD 0) 0
  if digits.isEmpty || !accept digits || limit < value then none
  else some (value, cs.drop digits.length)

-- At most three digits, and no zero in front of others.
def octet : Scan Nat := number 10 255 fun digits =>
  digits.length ≤ 3 && (digits.length = 1 || digits.head? ≠ some '0')

def group : Scan Nat := number 16 0xffff fun digits => digits.length ≤ 4

def port : Scan Nat := do
  char ':'
  number 10 65535 fun _ => true

def ipv4 : Scan IPv4 := do
  let a ← octet
  char '.'
  let b ← octet
  char '.'
  let c ← octet
  char '.'
  let d ← octet
  return ⟨a, b, c, d⟩

-- A reader that leaves the text alone when it finds nothing.
def optional {α : Type} (p : Scan α) : Scan (Option α) := fun cs =>
  match p cs with
  | some (a, rest) => some (some a, rest)
  | none => some (none, cs)

-- A colon in front of all but the first.
def afterColon {α : Type} (first : Bool) (p : Scan α) : Scan α := do
  if !first then char ':'
  p

-- Up to `room` groups, and whether the last two were written as an address of version 4.
def groups (first : Bool) : Nat → Scan (List Nat × Bool)
  | 0 => pure ([], false)
  | room + 1 => do
    let embedded ← if 1 ≤ room then optional (afterColon first ipv4) else pure none
    match embedded with
    | some ip => return ([ip.a * 256 + ip.b, ip.c * 256 + ip.d], true)
    | none =>
      match ← optional (afterColon first group) with
      | none => return ([], false)
      | some g =>
        let (more, ended) ← groups false room
        return (g :: more, ended)

def ipv6 : Scan (List Nat) := do
  let (front, ended) ← groups true 8
  if front.length = 8 then return front
  if ended then failure
  char ':'
  char ':'
  let (back, _) ← groups true (7 - front.length)
  return front ++ List.replicate (8 - front.length - back.length) 0 ++ back

def zone : Scan Nat := do
  char '%'
  number 10 4294967295 fun _ => true

def addressV4 : Scan SocketAddress := do
  let host ← ipv4
  let p ← port
  return .v4 host p

def addressV6 : Scan SocketAddress := do
  char '['
  let host ← ipv6
  let z ← optional zone
  char ']'
  let p ← port
  return .v6 host (z.getD 0) p

end Scan

def ofText? (s : String) : Option SocketAddress :=
  let whole (p : Scan SocketAddress) : Option SocketAddress :=
    match p s.toList with
    | some (a, []) => some a
    | _ => none
  (whole Scan.addressV4).or (whole Scan.addressV6)

def ipv4Text (ip : IPv4) : String :=
  toString ip.a ++ "." ++ toString ip.b ++ "." ++ toString ip.c ++ "." ++ toString ip.d

def groupsText (groups : List Nat) : String :=
  ":".intercalate (groups.map fun g => String.ofList (Nat.toDigits 16 g))

-- How many zeros the groups start with.
def leadingZeros (groups : List Nat) : Nat := (groups.takeWhile (· = 0)).length

-- Start and length of the first longest run of zeros.
def longestZeros : List Nat → Nat × Nat
  | [] => (0, 0)
  | g :: rest =>
    let here := leadingZeros (g :: rest)
    let (start, length) := longestZeros rest
    if length ≤ here then (0, here) else (start + 1, length)

def ipv6Text (groups : List Nat) : String :=
  match groups with
  | [0, 0, 0, 0, 0, 0xffff, x, y] =>
    "::ffff:" ++ ipv4Text ⟨x / 256, x % 256, y / 256, y % 256⟩
  | groups =>
    let (start, length) := longestZeros groups
    if 1 < length then
      groupsText (groups.take start) ++ "::" ++ groupsText (groups.drop (start + length))
    else groupsText groups

def text : SocketAddress → String
  | v4 host port => ipv4Text host ++ ":" ++ toString port
  | v6 host zone port =>
    let z := if zone = 0 then "" else "%" ++ toString zone
    "[" ++ ipv6Text host ++ z ++ "]:" ++ toString port

end SocketAddress

end GatewayOperator
