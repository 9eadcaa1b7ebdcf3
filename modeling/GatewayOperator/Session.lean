import GatewayOperator.Json.MergePatch
import GatewayOperator.Store.Faults

namespace GatewayOperator

-- One operator at work on a store in memory, between changes made by others
structure Session where
  store : FaultyStore := {}
  operator : Operator := {}

-- Why an object could not be modified
inductive ModifyFault where
  | noSuchObject
  | unreadable (fault : Json.Fault)
deriving DecidableEq, Repr

-- What a pass left behind, beside its result
structure PassRecord where
  result : Except PassError Report
  -- the log entries of this pass
  log : List Write

namespace Session

-- Runs a program against the store. A program that is left without an answer has no result, but
-- what it wrote before stays written.
def run {α : Type} (s : Session) (p : Program α) : Option α × Session :=
  let (result, store) := p.run FaultyStore.handle s.store
  (result, { s with store })

def mapStore (s : Session) (f : MemoryStore → MemoryStore) : Session :=
  { s with store := { s.store with store := f s.store.store } }

def insert (s : Session) (kind : Kind) (object : kind.Object) : Session :=
  s.mapStore fun store => store.insert kind object

def create (s : Session) (kind : Kind) (ns : String) (object : kind.Object) :
    Option (Except ApiError Unit) × Session :=
  s.run (Program.call (.create kind ns object))

def object? (s : Session) (kind : Kind) (ns name : String) : Option (Option kind.Object) :=
  s.store.store.object? kind ns name

-- Merges a patch into the document of an object, which then must be of its kind still. The result
-- goes where its own metadata says.
def modify (s : Session) (kind : Kind) (ns name : String) (patch : Json) :
    Option (Except ModifyFault Session) :=
  (s.object? kind ns name).map fun
    | none => .error .noSuchObject
    | some object =>
      match kind.read ((kind.toJson object).mergePatch patch) with
      | .error fault => .error (.unreadable fault)
      | .ok object => .ok (s.insert kind object)

def addClass (s : Session) (c : GatewayClass) : Session := s.mapStore fun store => store.addClass c

def fail (s : Session) (kind : Kind) (op : Operation) : Session :=
  s.mapStore fun store => store.fail kind op

def schedule (s : Session) (fault : ScheduledFault) : Session :=
  { s with store := { s.store with faults := s.store.faults ++ [fault] } }

def configure (s : Session) (operator : Operator) : Session := { s with operator }

def responsible (s : Session) (g : Gateway) : Option Bool × Session :=
  s.run (s.operator.responsible g)

def pass (s : Session) (now : Instant) (ns name : String) : Option PassRecord × Session :=
  let (result, after) := s.run (s.operator.pass now ns name)
  let log := after.store.store.log.drop s.store.store.log.length
  (result.map fun result => { result, log }, after)

end Session

end GatewayOperator
