import GatewayOperator.Gateway.Spec

namespace GatewayOperator

-- The kinds of proxy that can serve a gateway
inductive ProxyKind where
  | litellm
deriving DecidableEq, Repr

-- Faults of a gateway that only an edit of its spec can mend
inductive SpecFault where
  | missingModels
  | emptyModelName
  | invalidPort (port : Int)
  | unsupportedType (tag : String)
deriving DecidableEq, Repr

namespace SpecFault

def reason : SpecFault → String
  | missingModels => "MissingModels"
  | emptyModelName => "InvalidModelName"
  | invalidPort _ => "InvalidPort"
  | unsupportedType _ => "UnsupportedType"

def message : SpecFault → String
  | missingModels => "no AI models specified"
  | emptyModelName => "AI model name cannot be empty"
  | invalidPort port => "port must be positive, got " ++ toString port
  | unsupportedType tag => "unsupported gateway type '" ++ tag ++ "': only 'litellm' is supported"

end SpecFault

namespace ProxyKind

def text : ProxyKind → String
  | litellm => "litellm"

-- No tag and an empty tag select the default.
def ofTag (tag : Option String) : Except SpecFault ProxyKind :=
  match tag with
  | none => .ok litellm
  | some tag =>
    if tag = "" ∨ tag = litellm.text then .ok litellm else .error (.unsupportedType tag)

end ProxyKind

namespace GatewaySpec

-- The first fault in the order port, list of models, names of models.
def validate (s : GatewaySpec) : Except SpecFault Unit :=
  if s.port ≤ 0 then .error (.invalidPort s.port)
  else if s.models.isEmpty then .error .missingModels
  else if s.models.any fun m => m.name.isEmpty then .error .emptyModelName
  else .ok ()

-- The kind of proxy for a spec that it can serve.
def check (s : GatewaySpec) : Except SpecFault ProxyKind := do
  let kind ← ProxyKind.ofTag s.type
  s.validate
  return kind

end GatewaySpec

end GatewayOperator
