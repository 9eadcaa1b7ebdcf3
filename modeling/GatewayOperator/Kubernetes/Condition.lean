import GatewayOperator.Kubernetes.Meta

namespace GatewayOperator

structure Condition where
  type : String
  status : String
  reason : String
  message : String
  lastTransition : Instant
  observedGeneration : Option Int
deriving DecidableEq, Repr

namespace Condition

def read : Json.Reader Condition := Json.readRecord fun fs =>
  Condition.mk
    <$> fs.orEmpty "type" "" Json.readString
    <*> fs.orEmpty "status" "" Json.readString
    <*> fs.orEmpty "reason" "" Json.readString
    <*> fs.orEmpty "message" "" Json.readString
    <*> fs.required "lastTransitionTime" Instant.read
    <*> fs.optional "observedGeneration" Json.readInt64

def toJson (c : Condition) : Json := .ofRecord
  [("lastTransitionTime", some c.lastTransition.toJson),
   ("message", some (.string c.message)),
   ("observedGeneration", c.observedGeneration.map .int),
   ("reason", some (.string c.reason)),
   ("status", some (.string c.status)),
   ("type", some (.string c.type))] []

def sameUpToTime (a b : Condition) : Bool :=
  a.type = b.type && a.status = b.status && a.reason = b.reason && a.message = b.message &&
    a.observedGeneration = b.observedGeneration

end Condition

inductive Verdict where
  | true
  | false
  | unknown
deriving DecidableEq, Repr

namespace Verdict

def text : Verdict → String
  | true => "True"
  | false => "False"
  | unknown => "Unknown"

def ofText? (s : String) : Option Verdict :=
  if s = "True" then some true
  else if s = "False" then some false
  else if s = "Unknown" then some unknown
  else none

end Verdict

namespace Conditions

-- The first condition of the same type is replaced in its place; a new type goes to the end.
def set (conditions : List Condition) (new : Condition) : List Condition :=
  match conditions with
  | [] => [new]
  | c :: rest => if c.type = new.type then new :: rest else c :: set rest new

-- A condition as it is set by a controller, which observes no generation.
def condition (type : String) (verdict : Verdict) (reason message : String) (now : Instant) :
    Condition :=
  ⟨type, verdict.text, reason, message, now, none⟩

-- Of several conditions of one type the first counts.
def find? (conditions : List Condition) (type : String) : Option Condition :=
  conditions.find? fun c => c.type = type

def sameUpToTime : List Condition → List Condition → Bool
  | [], [] => true
  | a :: as, b :: bs => a.sameUpToTime b && sameUpToTime as bs
  | _, _ => false

end Conditions

end GatewayOperator
