import GatewayOperator.Kubernetes.Condition
import GatewayOperator.Gateway.Spec

namespace GatewayOperator

structure GatewayStatus where
  conditions : List Condition := []
  configHash : Option String := none
  lastUpdated : Option Instant := none
deriving DecidableEq, Repr

namespace GatewayStatus

def attributes : Schema.Attributes :=
  [Schema.defaulted "conditions" (.list .condition), Schema.may "configHash" .string,
   Schema.may "lastUpdated" .instant]

def schema : Schema := .strict "AiGatewayStatus" attributes

def read : Json.Reader GatewayStatus := Schema.readStrict attributes fun fs =>
  GatewayStatus.mk
    <$> fs.orDefault "conditions" [] (Json.readList Condition.read)
    <*> fs.optional "configHash" Json.readString
    <*> fs.optional "lastUpdated" Instant.read

def toJson (s : GatewayStatus) : Json := .ofRecord
  [("conditions", Json.ofListUnlessEmpty Condition.toJson s.conditions),
   ("configHash", s.configHash.map .string),
   ("lastUpdated", s.lastUpdated.map Instant.toJson)] []

-- Whether `desired` says anything that `observed` does not say, times apart.
def changed (observed : Option GatewayStatus) (desired : GatewayStatus) : Bool :=
  match observed with
  | none => true
  | some observed =>
    observed.configHash ≠ desired.configHash ||
      !Conditions.sameUpToTime observed.conditions desired.conditions

end GatewayStatus

end GatewayOperator
