import GatewayOperator.Pass.Report

namespace GatewayOperator.GatewayStatus

def configured : String := "Configured"

def ready : String := "Ready"

def configurationApplied : String := "ConfigurationApplied"

def gatewayReady : String := "GatewayReady"

def afterSuccess (s : GatewayStatus) (hash : String) (now : Instant) : GatewayStatus :=
  { conditions :=
      Conditions.set
        (Conditions.set s.conditions (Conditions.condition configured .true configurationApplied
          "AiGateway configuration successfully applied" now))
        (Conditions.condition ready .true gatewayReady "AiGateway is ready and serving traffic" now)
    configHash := some hash
    lastUpdated := some now }

-- What was applied last stays on record.
def afterFailure (s : GatewayStatus) (failure : Failure) (now : Instant) : GatewayStatus :=
  { s with
    conditions :=
      Conditions.set
        (Conditions.set s.conditions
          (Conditions.condition configured .false failure.reason failure.message now))
        (Conditions.condition ready .false failure.reason
          ("AiGateway not ready: " ++ failure.message) now) }

-- The status after the children have been applied, with the hash of their configuration or up to
-- an obstacle.
def afterPass (s : GatewayStatus) (result : Except Obstacle String) (now : Instant) :
    GatewayStatus :=
  match result with
  | .ok hash => s.afterSuccess hash now
  | .error obstacle => s.afterFailure obstacle.failure now

end GatewayOperator.GatewayStatus
