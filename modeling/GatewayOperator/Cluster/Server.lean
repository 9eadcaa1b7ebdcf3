import GatewayOperator.Cluster.Client
import GatewayOperator.Json.MergePatch
import GatewayOperator.Store.Faults

namespace GatewayOperator.Cluster

structure ResponseFault where
  method : String
  path : String
  -- how many requests it still answers
  times : Nat
  response : Response

-- A server in memory. It holds documents by path, keeps the requests it was sent, and can be told
-- to answer the next requests to a path with a given response.
structure Server where
  objects : Dict Json := .empty
  faults : List ResponseFault := []
  -- first to last
  requests : List Request := []

namespace Server

def statusDocument (reason message : String) (code : Nat) : Json := .object
  [("apiVersion", .string "v1"), ("code", .nat code), ("kind", .string "Status"),
   ("message", .string message), ("metadata", .object []), ("reason", .string reason),
   ("status", .string "Failure")]

def notFound (path : String) : Response :=
  ⟨404, .document (statusDocument "NotFound" (path ++ " not found") 404)⟩

def alreadyExists (path : String) : Response :=
  ⟨409, .document (statusDocument "AlreadyExists" (path ++ " already exists") 409)⟩

def ok (document : Json) : Response := ⟨200, .document document⟩

def classList (s : Server) : Json :=
  let below := s.objects.entries.filter fun e => (classesPath ++ "/").isPrefixOf e.1
  .object
    [("apiVersion", .string apiVersion), ("items", .array (below.map (·.2))),
     ("kind", .string "AiGatewayClassList"), ("metadata", .object [])]

-- The name that a document gives itself.
def documentName (document : Json) : String :=
  match (document.field? "metadata").bind (·.field? "name") with
  | some (.string name) => name
  | _ => ""

-- The path of the object whose status a path names.
def withoutStatus (path : String) : String :=
  let suffix := "/status".toList
  let cs := path.toList
  if suffix.isSuffixOf cs then String.ofList (cs.take (cs.length - suffix.length)) else path

def respond (s : Server) (r : Request) : Response × Server :=
  match r.method with
  | .get =>
    if r.target.path = classesPath then (ok s.classList, s)
    else
      match s.objects.get? r.target.path with
      | some document => (ok document, s)
      | none => (notFound r.target.path, s)
  | .post =>
    let document := r.body.getD .null
    let path := r.target.path ++ "/" ++ documentName document
    if s.objects.contains path then (alreadyExists path, s)
    else
      (⟨201, .document document⟩, { s with objects := s.objects.insert path document })
  | .put =>
    let document := r.body.getD .null
    if s.objects.contains r.target.path then
      (ok document, { s with objects := s.objects.insert r.target.path document })
    else (notFound r.target.path, s)
  | .patch =>
    let path := withoutStatus r.target.path
    match s.objects.get? path with
    | none => (notFound r.target.path, s)
    | some document =>
      let patched := document.mergePatch (r.body.getD .null)
      (ok patched, { s with objects := s.objects.insert path patched })

-- The response of the first fault for a request with times left, and the faults after it was used.
def useFault? (r : Request) : List ResponseFault → Option (Response × List ResponseFault)
  | [] => none
  | f :: rest =>
    if f.method = r.method.name ∧ f.path = r.target.path ∧ 0 < f.times then
      some (f.response, { f with times := f.times - 1 } :: rest)
    else (useFault? r rest).map fun (response, rest) => (response, f :: rest)

-- Every request is kept as it arrives, also one that a fault answers.
def receive (s : Server) (r : Request) : Response × Server :=
  let r := { r with body := r.body.map Json.transferred }
  let s := { s with requests := s.requests ++ [r] }
  match useFault? r s.faults with
  | some (response, faults) => (response, { s with faults })
  | none => s.respond r

-- A call through the client.
def handle : Program.Handler Server := fun call s =>
  match requestOf call with
  | .error e => (some (call.refuse e), s)
  | .ok request =>
    let (response, s) := s.receive request
    (some (replyOf response call), s)

def put (s : Server) (path : String) (document : Json) : Server :=
  { s with objects := s.objects.insert path document }

def patch? (s : Server) (path : String) (change : Json) : Option Server :=
  (s.objects.get? path).map fun document => s.put path (document.mergePatch change)

-- Whether there was something to delete.
def delete (s : Server) (path : String) : Bool × Server :=
  (s.objects.contains path, { s with objects := s.objects.erase path })

def schedule (s : Server) (fault : ResponseFault) : Server :=
  { s with faults := s.faults ++ [fault] }

end Server

end GatewayOperator.Cluster
