import GatewayOperator.Gateway.Spec

namespace GatewayOperator

-- Absent before present, then by the value.
def optionLe (a b : Option String) : Bool :=
  match a, b with
  | none, _ => true
  | some _, none => false
  | some a, some b => a ≤ b

-- Sorting keeps the order of entries that compare alike, so that this order counts.
def sortedEqual {α : Type} [DecidableEq α] (le : α → α → Bool) (a b : List α) : Bool :=
  a.mergeSort le = b.mergeSort le

-- A list that is absent is equal only to one that is absent too, never to an empty one.
def optionalEqual {α : Type} (equal : α → α → Bool) : Option α → Option α → Bool
  | none, none => true
  | some a, some b => equal a b
  | _, _ => false

namespace Model

def le (a b : Model) : Bool :=
  if a.provider = b.provider then a.name ≤ b.name else optionLe a.provider b.provider

def listsEqual (a b : Option (List Model)) : Bool := optionalEqual (sortedEqual le) a b

end Model

namespace EnvVar

def listsEqual (a b : Option (List EnvVar)) : Bool :=
  optionalEqual (sortedEqual fun x y => x.name ≤ y.name) a b

end EnvVar

namespace EnvImport

-- What is imported; a config map is looked at before a secret.
def key (i : EnvImport) : String :=
  match i.configMap, i.secret with
  | some c, _ => "cm:" ++ c.name
  | none, some s => "secret:" ++ s.name
  | none, none => ""

def listsEqual (a b : Option (List EnvImport)) : Bool :=
  optionalEqual (sortedEqual fun x y => x.key ≤ y.key) a b

end EnvImport

-- Labels and annotations
namespace Labels

abbrev Map := Dict String

def equal (a b : Option Map) : Bool := a = b

-- Every required entry stands in the map with its value; others may stand there too.
def present (existing : Option Map) (required : Map) : Bool :=
  (existing.getD .empty).includes required

-- The entries of `source` are written over those of the map. With no source the map stays as it
-- is, also absent.
def merge (existing source : Option Map) : Option Map :=
  match source with
  | none => existing
  | some source => some ((existing.getD .empty).merge source)

end Labels

end GatewayOperator
