import GatewayOperator.Pass.Program

namespace GatewayOperator

inductive Applied where
  | created
  | updated
  | unchanged
deriving DecidableEq, Repr

namespace Applied

def text : Applied → String
  | created => "create"
  | updated => "update"
  | unchanged => "unchanged"

def ofText? (s : String) : Option Applied :=
  [created, updated, unchanged].find? fun a => a.text = s

end Applied

-- Why a pass stopped before all children were in place
inductive Obstacle where
  | invalidSpec (fault : SpecFault)
  | unidentified (key : MissingKey)
  | child (kind : Kind) (error : ApiError)
deriving DecidableEq, Repr

-- How a stopped pass is reported. Only what may go away by itself is worth another try.
structure Failure where
  reason : String
  message : String
  retryable : Bool
deriving DecidableEq, Repr

namespace Obstacle

def reason : Obstacle → String
  | invalidSpec fault => fault.reason
  | unidentified _ => "ConfigGenerationFailed"
  | child kind _ => kind.name ++ "Failed"

def missingKeyMessage (key : MissingKey) : String := "Missing object key: " ++ key.path

def syncMessage (kind : Kind) (error : ApiError) : String :=
  "Failed to reconcile " ++ kind.name ++ ": " ++ error.message

def message : Obstacle → String
  | invalidSpec fault => "AiGateway configuration validation failed: " ++ fault.message
  | unidentified key => "Failed to build resources: " ++ missingKeyMessage key
  | child kind error => syncMessage kind error

def retryable : Obstacle → Bool
  | child _ _ => true
  | _ => false

def failure (o : Obstacle) : Failure := ⟨o.reason, o.message, o.retryable⟩

end Obstacle

inductive Outcome where
  | notFound
  -- another controller is responsible
  | skipped
  | failed (failure : Failure)
  | ready (hash : String)
deriving DecidableEq, Repr

structure Report where
  outcome : Outcome
  applied : List (Kind × Applied) := []
  statusWritten : Bool := false
deriving DecidableEq, Repr

def Report.writes (r : Report) : Nat := r.applied.countP fun a => a.2 ≠ .unchanged

-- Errors that end a pass without a report
inductive PassError where
  -- the gateway could not be fetched
  | fetch (error : ApiError)
  -- the status could not be written
  | statusWrite (error : ApiError)
deriving DecidableEq, Repr

namespace PassError

def message : PassError → String
  | fetch error => "Kubernetes error: " ++ error.message
  | statusWrite error => "Failed to persist gateway status: " ++ error.message

end PassError

end GatewayOperator
