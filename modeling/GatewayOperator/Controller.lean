import GatewayOperator.Metrics.Basic
import GatewayOperator.Pass.Basic

namespace GatewayOperator

inductive Action where
  | requeue (milliseconds : Nat)
  -- until the gateway or one of its children changes
  | awaitChange
deriving DecidableEq, Repr

inductive ControllerError where
  | missingNamespace (gateway : String)
  | pass (error : PassError)
deriving DecidableEq, Repr

def ControllerError.message : ControllerError → String
  | missingNamespace gateway => "AiGateway " ++ gateway ++ " has no namespace"
  | pass error => error.message

structure Controller where
  operator : Operator := {}
  resyncMilliseconds : Nat := 300000
  errorMilliseconds : Nat := 30000

namespace Controller

-- A ready gateway is looked at again after a while, a failure that may go away is tried again, and
-- all else waits for a change.
def actionFor (c : Controller) : Outcome → Action
  | .ready _ => .requeue c.resyncMilliseconds
  | .failed failure => if failure.retryable then .requeue c.errorMilliseconds else .awaitChange
  | .notFound => .awaitChange
  | .skipped => .awaitChange

-- A pass for a gateway; `now` goes into its status and `seconds` is how long it took.
def reconcile (c : Controller) (now : Instant) (seconds : Float) (g : Gateway) (m : Metrics) :
    Program (Except ControllerError Action × Metrics) :=
  match g.metadata.ns with
  | none => return (.error (.missingNamespace g.name), m)
  | some ns => do
    let result ← c.operator.pass now ns g.name
    let m := m.observe seconds
    match result with
    | .error e => return (.error (.pass e), m)
    | .ok report => return (.ok (c.actionFor report.outcome), m.record report)

-- What follows an error: it is counted and the gateway is tried again.
def errorPolicy (c : Controller) (m : Metrics) : Action × Metrics :=
  (.requeue c.errorMilliseconds, m.countError)

-- One invocation: the action, the error if there was one, and the metrics after it.
def invoke (c : Controller) (now : Instant) (seconds : Float) (g : Gateway) (m : Metrics) :
    Program (Action × Option ControllerError × Metrics) := do
  let (result, m) ← c.reconcile now seconds g m
  match result with
  | .ok action => return (action, none, m)
  | .error e =>
    let (action, m) := c.errorPolicy m
    return (action, some e, m)

end Controller

end GatewayOperator
