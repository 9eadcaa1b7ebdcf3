import GatewayOperator.Children.Drift
import GatewayOperator.Pass.Status

namespace GatewayOperator

-- A child as it should be, with how to tell that it is not and how to bring it there
structure Stage where
  kind : Kind
  desired : kind.Object
  drifted : kind.Object → Bool
  update : kind.Object → kind.Object

namespace Stage

def name (s : Stage) : String := s.kind.nameOf s.desired

-- Creates the child if it is absent, updates it if it has drifted, else leaves it alone.
def apply (s : Stage) (ns : String) : Program (Except ApiError Applied) := do
  match ← Program.call (.get s.kind ns s.name) with
  | .error e => return .error e
  | .ok none =>
    match ← Program.call (.create s.kind ns s.desired) with
    | .error e => return .error e
    | .ok () => return .ok .created
  | .ok (some existing) =>
    if s.drifted existing then
      match ← Program.call (.replace s.kind ns (s.update existing)) with
      | .error e => return .error e
      | .ok () => return .ok .updated
    else return .ok .unchanged

-- What was done to the children, and what stopped the rest.
def applyAll (ns : String) :
    List Stage → Program (List (Kind × Applied) × Option Obstacle)
  | [] => return ([], none)
  | s :: rest => do
    match ← s.apply ns with
    | .error e => return ([], some (.child s.kind e))
    | .ok applied =>
      let (more, obstacle) ← applyAll ns rest
      return ((s.kind, applied) :: more, obstacle)

end Stage

namespace Children

def stages (c : Children) : List Stage :=
  [{ kind := .configMap, desired := c.configMap,
     drifted := fun existing => ConfigMap.drifted existing c.configMap,
     update := fun existing => ConfigMap.update existing c.configMap },
   { kind := .deployment, desired := c.deployment,
     drifted := fun existing => Deployment.drifted existing c.deployment,
     update := fun existing => Deployment.update existing c.deployment },
   { kind := .service, desired := c.service,
     drifted := fun existing => Service.drifted existing c.service,
     update := fun existing => Service.update existing c.service }]

end Children

structure Operator where
  -- the controller name that gateway classes refer to
  controller : String := "aigateway.agentic-layer.ai/ai-gateway-litellm-controller"
  settings : ProxySettings := {}
deriving DecidableEq, Repr

namespace Operator

-- What the children of a gateway should be, with the hash of their configuration.
def plan (op : Operator) (g : Gateway) : Except Obstacle (Children × String) :=
  match g.spec.render with
  | .error fault => .error (.invalidSpec fault)
  | .ok rendered =>
    match Children.ofGateway g rendered op.settings with
    | .error key => .error (.unidentified key)
    | .ok children => .ok (children, rendered.hash)

-- What was done to the children, and the hash of their configuration if all are in place.
def applyChildren (op : Operator) (g : Gateway) (ns : String) :
    Program (List (Kind × Applied) × Except Obstacle String) :=
  match op.plan g with
  | .error obstacle => return ([], .error obstacle)
  | .ok (children, hash) => do
    let (applied, obstacle) ← Stage.applyAll ns children.stages
    match obstacle with
    | some obstacle => return (applied, .error obstacle)
    | none => return (applied, .ok hash)

-- Whether the gateway's class is ours; if the classes cannot be listed, it is not.
def responsible (op : Operator) (g : Gateway) : Program Bool := do
  match ← Program.call .listClasses with
  | .error _ => return false
  | .ok classes => return GatewayClass.assigns op.controller g.className? classes

-- Writes a status that says something new, and tells whether it did.
def persistStatus (g : Gateway) (status : GatewayStatus) : Program (Except PassError Bool) :=
  if GatewayStatus.changed g.status status then do
    match ← Program.call (.putStatus g status) with
    | .error e => return .error (.statusWrite e)
    | .ok () => return .ok true
  else return .ok false

def outcomeOf : Except Obstacle String → Outcome
  | .ok hash => .ready hash
  | .error obstacle => .failed obstacle.failure

-- A pass over a gateway that was fetched; `now` is the time that goes into its status.
def passOver (op : Operator) (now : Instant) (ns : String) (g : Gateway) :
    Program (Except PassError Report) := do
  if ← op.responsible g then
    let (applied, result) ← op.applyChildren g ns
    let status := (g.status.getD {}).afterPass result now
    match ← persistStatus g status with
    | .error e => return .error e
    | .ok written => return .ok ⟨outcomeOf result, applied, written⟩
  else return .ok { outcome := .skipped }

def pass (op : Operator) (now : Instant) (ns name : String) :
    Program (Except PassError Report) := do
  match ← Program.call (.get .gateway ns name) with
  | .error e => return .error (.fetch e)
  | .ok none => return .ok { outcome := .notFound }
  | .ok (some g) => op.passOver now ns g

end Operator

end GatewayOperator
