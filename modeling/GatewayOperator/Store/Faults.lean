import GatewayOperator.Store.Memory

namespace GatewayOperator

-- What a call is about: objects of a kind, or the gateway classes
inductive Subject where
  | objects (kind : Kind)
  | classes
deriving DecidableEq, Repr

def Subject.ofName? (s : String) : Option Subject :=
  if s = GatewayClass.kind then some classes else (Kind.ofName? s).map objects

-- What a call does to what, as far as faults tell calls apart. Any pair can be named, also one
-- that no call ever has, such as a status of the classes.
structure FaultPoint where
  subject : Subject
  operation : Operation
deriving DecidableEq, Repr

-- The point with these names. Other names belong to no point, so no call is ever there.
def FaultPoint.ofNames? (subject operation : String) : Option FaultPoint := do
  return ⟨← Subject.ofName? subject, ← Operation.ofName? operation⟩

def Call.point : Call → FaultPoint
  | .get kind _ _ => ⟨.objects kind, .get⟩
  | .listClasses => ⟨.classes, .list⟩
  | .create kind _ _ => ⟨.objects kind, .create⟩
  | .replace kind _ _ => ⟨.objects kind, .replace⟩
  | .putStatus _ _ => ⟨.objects .gateway, .status⟩

def Call.refuse (e : ApiError) : (c : Call) → c.Reply
  | .get .. => .error e
  | .listClasses => .error e
  | .create .. => .error e
  | .replace .. => .error e
  | .putStatus .. => .error e

structure ScheduledFault where
  point : FaultPoint
  -- how many calls it still refuses
  times : Nat
  response : ErrorResponse
deriving DecidableEq, Repr

namespace ScheduledFault

-- The response of the first fault for a point with times left, and the faults after it was used.
def use? (point : FaultPoint) :
    List ScheduledFault → Option (ErrorResponse × List ScheduledFault)
  | [] => none
  | f :: rest =>
    if f.point = point ∧ 0 < f.times then some (f.response, { f with times := f.times - 1 } :: rest)
    else (use? point rest).map fun (response, rest) => (response, f :: rest)

end ScheduledFault

-- A call for which a fault is scheduled is refused before the store sees it.
structure FaultyStore where
  store : MemoryStore := {}
  faults : List ScheduledFault := []

namespace FaultyStore

def handle : Program.Handler FaultyStore := fun call s =>
  match ScheduledFault.use? call.point s.faults with
  | some (response, faults) => (some (call.refuse (.refused response)), { s with faults })
  | none =>
    let (reply, store) := MemoryStore.handle call s.store
    (reply, { s with store })

end FaultyStore

end GatewayOperator
