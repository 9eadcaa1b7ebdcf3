import GatewayOperator.Pass.Basic

namespace GatewayOperator

-- The operations of a store that can fail or be logged
inductive Operation where
  | get
  | create
  | replace
  | status
  | list
deriving DecidableEq, Repr

namespace Operation

def name : Operation → String
  | get => "get"
  | create => "create"
  | replace => "replace"
  | status => "status"
  | list => "list"

def ofName? (s : String) : Option Operation :=
  [get, create, replace, status, list].find? fun op => op.name = s

end Operation

structure ObjectKey where
  kind : Kind
  ns : String
  name : String
deriving DecidableEq, Repr

-- The key under which an object belongs by its own metadata.
def ObjectKey.of (kind : Kind) (object : kind.Object) : ObjectKey :=
  ⟨kind, kind.namespaceOf object, kind.nameOf object⟩

structure Write where
  kind : Kind
  operation : Operation
  name : String
deriving DecidableEq, Repr

-- Objects as documents by kind, namespace and name, with a log of the writes made by passes and the
-- calls that are to fail
structure MemoryStore where
  objects : List (ObjectKey × Json) := []
  classes : List GatewayClass := []
  -- statuses written, first to last
  statuses : List GatewayStatus := []
  log : List Write := []
  failing : List (Kind × Operation) := []

namespace MemoryStore

def find? (s : MemoryStore) (key : ObjectKey) : Option Json := s.objects.lookup key

def putEntry (key : ObjectKey) (document : Json) :
    List (ObjectKey × Json) → List (ObjectKey × Json)
  | [] => [(key, document)]
  | (k, d) :: rest =>
    if k = key then (k, document) :: rest else (k, d) :: putEntry key document rest

def put (s : MemoryStore) (key : ObjectKey) (document : Json) : MemoryStore :=
  { s with objects := putEntry key document s.objects }

-- The object goes where its own namespace and name say.
def insert (s : MemoryStore) (kind : Kind) (object : kind.Object) : MemoryStore :=
  s.put (.of kind object) (kind.toJson object)

def addClass (s : MemoryStore) (c : GatewayClass) : MemoryStore :=
  { s with classes := s.classes ++ [c] }

def fail (s : MemoryStore) (kind : Kind) (op : Operation) : MemoryStore :=
  { s with failing := (kind, op) :: s.failing }

def record (s : MemoryStore) (write : Write) : MemoryStore := { s with log := s.log ++ [write] }

def injected (kind : Kind) (op : Operation) : ApiError := .refused
  { status := "Failure", message := "injected " ++ op.name ++ " failure for " ++ kind.name,
    reason := "InternalError", code := 500 }

def alreadyExists (what : String) : ApiError := .refused
  { status := "Failure", message := what ++ " already exists", reason := "AlreadyExists",
    code := 409 }

-- The failure that the store was told to give, if any.
def injected? (s : MemoryStore) (kind : Kind) (op : Operation) : Option ApiError :=
  if (kind, op) ∈ s.failing then some (injected kind op) else none

-- An object that is there; no answer if its document cannot be read as its kind.
def object? (s : MemoryStore) (kind : Kind) (ns name : String) :
    Option (Option kind.Object) :=
  match s.find? ⟨kind, ns, name⟩ with
  | none => some none
  | some document =>
    match kind.read document with
    | .ok object => some (some object)
    | .error _ => none

-- Creating puts the object under the namespace of the call and its own name.
def create (s : MemoryStore) (kind : Kind) (ns : String) (object : kind.Object) :
    Except ApiError Unit × MemoryStore :=
  let key : ObjectKey := ⟨kind, ns, kind.nameOf object⟩
  match s.injected? kind .create with
  | some e => (.error e, s)
  | none =>
    match s.find? key with
    | some _ => (.error (alreadyExists key.name), s)
    | none => (.ok (), (s.put key (kind.toJson object)).record ⟨kind, .create, key.name⟩)

def replace (s : MemoryStore) (kind : Kind) (ns : String) (object : kind.Object) :
    Except ApiError Unit × MemoryStore :=
  let key : ObjectKey := ⟨kind, ns, kind.nameOf object⟩
  match s.injected? kind .replace with
  | some e => (.error e, s)
  | none => (.ok (), (s.put key (kind.toJson object)).record ⟨kind, .replace, key.name⟩)

-- The stored gateway gets the status; there is no answer if it is not there to get it.
def putStatus (s : MemoryStore) (g : Gateway) (status : GatewayStatus) :
    Option (Except ApiError Unit) × MemoryStore :=
  match s.injected? .gateway .status with
  | some e => (some (.error e), s)
  | none =>
    match s.object? .gateway (g.metadata.ns.getD "") g.name with
    | some (some stored) =>
      let s := s.insert .gateway { stored with status := some status }
      let s := { s with statuses := s.statuses ++ [status] }
      (some (.ok ()), s.record ⟨.gateway, .status, g.name⟩)
    | _ => (none, s)

def handle : Program.Handler MemoryStore := fun call s =>
  match call with
  | .get kind ns name =>
    match s.injected? kind .get with
    | some e => (some (.error e), s)
    | none => ((s.object? kind ns name).map .ok, s)
  | .listClasses => (some (.ok s.classes), s)
  | .create kind ns object =>
    let (reply, s) := s.create kind ns object
    (some reply, s)
  | .replace kind ns object =>
    let (reply, s) := s.replace kind ns object
    (some reply, s)
  | .putStatus g status => s.putStatus g status

-- Writes other than of statuses.
def childWrites (s : MemoryStore) : Nat := s.log.countP fun w => w.operation ≠ .status

def statusWrites (s : MemoryStore) : Nat := s.statuses.length

end MemoryStore

end GatewayOperator
