import GatewayOperator.Kind
import GatewayOperator.Network.Target
import GatewayOperator.Text.Quoted

namespace GatewayOperator

-- The answer of an API server that refuses a call
structure ErrorResponse where
  status : String
  message : String
  reason : String
  code : Nat
deriving DecidableEq, Repr

namespace ErrorResponse

def text (r : ErrorResponse) : String :=
  "ErrorResponse \x7b status: " ++ quoted r.status ++ ", message: " ++ quoted r.message ++
    ", reason: " ++ quoted r.reason ++ ", code: " ++ toString r.code ++ " \x7d"

end ErrorResponse

inductive ApiError where
  | refused (response : ErrorResponse)
  -- the answer is no object of the kind that was asked for
  | unreadable (cause : String)
  -- an object cannot be asked for without its name
  | unnamed
  -- an object has a name or a namespace that cannot be part of a request
  | unaddressable (fault : Target.Fault)
deriving DecidableEq, Repr

namespace ApiError

def message : ApiError → String
  | refused r => "ApiError: " ++ r.message ++ ": " ++ r.reason ++ " (" ++ r.text ++ ")"
  | unreadable cause => "Error deserializing response: " ++ cause
  | unnamed =>
    "Failed to build request: failed to validate request: A non-empty name is required"
  | unaddressable fault =>
    "Failed to build request: failed to build request: " ++ fault.message

end ApiError

inductive Call where
  | get (kind : Kind) (ns name : String)
  | listClasses
  | create (kind : Kind) (ns : String) (object : kind.Object)
  | replace (kind : Kind) (ns : String) (object : kind.Object)
  | putStatus (gateway : Gateway) (status : GatewayStatus)

namespace Call

-- The answer to a call; an object that does not exist is none.
abbrev Reply : Call → Type
  | get kind _ _ => Except ApiError (Option kind.Object)
  | listClasses => Except ApiError (List GatewayClass)
  | create .. => Except ApiError Unit
  | replace .. => Except ApiError Unit
  | putStatus .. => Except ApiError Unit

end Call

-- A program says nothing about the store: it is run against a handler that answers one call after
-- the other.
inductive Program (α : Type) where
  | done (result : α)
  | ask (call : Call) (next : call.Reply → Program α)

namespace Program

variable {α β σ : Type}

def bind (p : Program α) (f : α → Program β) : Program β :=
  match p with
  | done a => f a
  | ask call next => ask call fun reply => (next reply).bind f

instance : Monad Program where
  pure := done
  bind := bind

def call (c : Call) : Program c.Reply := ask c done

-- How a store in state `σ` answers a call. No answer means that the store holds something that
-- cannot be read.
abbrev Handler (σ : Type) := (call : Call) → σ → Option call.Reply × σ

-- The result of a program, unless it was left without an answer, and the state it leaves.
def run (handler : Handler σ) (p : Program α) (state : σ) : Option α × σ :=
  match p with
  | done a => (some a, state)
  | ask call next =>
    match handler call state with
    | (some reply, state) => (next reply).run handler state
    | (none, state) => (none, state)

end Program

end GatewayOperator
