import GatewayOperator.Json.Scanner

namespace GatewayOperator.Json

namespace Scanner

variable {α : Type}

def scalar (length : Nat) : Scanner Json := fun cs =>
  match cs with
  | [] => fail .eofInValue []
  | 'n' :: rest => word ['u', 'l', 'l'] .null rest
  | 't' :: rest => word ['r', 'u', 'e'] (.bool true) rest
  | 'f' :: rest => word ['a', 'l', 's', 'e'] (.bool false) rest
  | '"' :: rest => Json.string <$> stringBody [] length |>.run rest
  | c :: _ =>
    if c = '-' ∨ c.isDigit then Json.number <$> number |>.run cs
    else failAt .expectedValue cs

-- Reads by `list` what starts with a bracket, by `object` what starts with a brace, and all else
-- by `other`, blanks skipped.
def byForm (list object other : Scanner α) : Scanner α := do
  match ← ahead with
  | '[' :: _ => list
  | '{' :: _ => object
  | _ => other

-- Goes into a list or an object, if one may stand here.
def enter (depth : Nat) (inside : Nat → Scanner α) : Scanner α :=
  match depth with
  | 0 => failAt .tooDeep
  | depth + 1 => do
    skipOne
    inside depth

-- Whether an item of a list follows; the comma in front of it is taken.
def itemFollows (first : Bool) : Scanner Bool := do
  match ← ahead with
  | [] => fail .eofInList
  | c :: _ =>
    if c = ']' then return false
    else if first then return true
    else if c = ',' then
      skipOne
      match ← ahead with
      | [] => fail .eofInValue
      | ']' :: _ => failAt .trailingComma
      | _ => return true
    else failAt .expectedListCommaOrEnd

-- Goes over the items of a list and its closing bracket. `more` bounds their count.
def foldItems {σ : Type} (item : σ → Scanner σ) (more : Nat) (first : Bool) (s : σ) : Scanner σ :=
  match more with
  | 0 => fail .eofInList
  | more + 1 => do
    if ← itemFollows first then
      let s ← item s
      foldItems item more false s
    else
      skipOne
      return s

def fieldName (length : Nat) : Scanner String := do
  match ← ahead with
  | '"' :: _ =>
    skipOne
    stringBody [] length
  | _ => failAt .keyNotString

-- Whether a field of an object follows; the comma in front of it is taken.
def fieldFollows (first : Bool) : Scanner Bool := do
  match ← ahead with
  | [] => fail .eofInObject
  | c :: _ =>
    if c = '}' then return false
    else if first then return true
    else if c = ',' then
      skipOne
      match ← ahead with
      | [] => fail .eofInValue
      | '}' :: _ => failAt .trailingComma
      | _ => return true
    else failAt .expectedObjectCommaOrEnd

def colon : Scanner Unit := do
  match ← ahead with
  | [] => fail .eofInObject
  | ':' :: _ => skipOne
  | _ => failAt .expectedColon

-- Goes over the fields of an object and its closing brace. A field is read from behind its name.
def foldFields {σ : Type} (length : Nat) (field : σ → String → Scanner σ) (more : Nat)
    (first : Bool) (s : σ) : Scanner σ :=
  match more with
  | 0 => fail .eofInObject
  | more + 1 => do
    if ← fieldFollows first then
      let name ← fieldName length
      let s ← field s name
      foldFields length field more false s
    else
      skipOne
      return s

-- The rest of a list behind its bracket.
def items (length : Nat) (item : Scanner Json) : Scanner Json := do
  let taken ← foldItems (fun taken => (· :: taken) <$> item) length true []
  return .array taken.reverse

-- The rest of an object behind its brace. Of two fields with one name the last counts.
def fields (length : Nat) (value : Scanner Json) : Scanner Json := do
  let field (taken : Fields) (name : String) : Scanner Fields := do
    colon
    taken.insert name <$> value
  .object <$> foldFields length field length true []

-- Any value, in which lists and objects stand in one another `depth` deep at most.
def value (length : Nat) : Nat → Scanner Json
  | 0 => byForm (failAt .tooDeep) (failAt .tooDeep) (scalar length)
  | depth + 1 =>
    let inner := value length depth
    byForm (do skipOne; items length inner) (do skipOne; fields length inner) (scalar length)

def finish : Scanner Unit := do
  match ← ahead with
  | [] => return ()
  | _ => failAt .trailingCharacters

def depthLimit : Nat := 127

-- The value of a whole text, where `scan` is given the bound and the depth.
def parse (scan : Nat → Nat → Scanner α) (text : String) : Except TextError α :=
  let cs := text.toList
  let whole : Scanner α := do
    let a ← scan (cs.length + 1) depthLimit
    finish
    return a
  match whole.run cs with
  | .ok (a, _) => .ok a
  | .error stop => .error (.ofStop cs stop)

end Scanner

-- A text with one value, blanks around it and nothing after it.
def parse (text : String) : Except TextError Json := Scanner.parse Scanner.value text

end GatewayOperator.Json
