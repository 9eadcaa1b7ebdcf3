import GatewayOperator.Children.Desired
import GatewayOperator.Network.SocketAddress
import GatewayOperator.Text.Numeral

namespace GatewayOperator

inductive LogFormat where
  | text
  | json
deriving DecidableEq, Repr

structure Configuration where
  settings : ProxySettings := {}
  logFormat : LogFormat := .text
  metricsAddress : SocketAddress := .v4 ⟨0, 0, 0, 0⟩ 8080
  -- seconds from a pass that left the gateway ready to the next
  resyncSeconds : Nat := 300
  -- seconds from a failed pass to the next
  errorRequeueSeconds : Nat := 30
deriving DecidableEq, Repr

namespace Configuration

inductive Variable where
  | image
  | apiKeySecret
  | logFormat
  | metricsAddress
  | resyncSeconds
  | errorRequeueSeconds
deriving DecidableEq, Repr

namespace Variable

def name : Variable → String
  | image => "GATEWAY_LITELLM_IMAGE"
  | apiKeySecret => "GATEWAY_API_KEY_SECRET"
  | logFormat => "GATEWAY_LOG_FORMAT"
  | metricsAddress => "GATEWAY_METRICS_ADDR"
  | resyncSeconds => "GATEWAY_RESYNC_SECONDS"
  | errorRequeueSeconds => "GATEWAY_ERROR_REQUEUE_SECONDS"

end Variable

inductive Fault where
  -- the format in lower case
  | unknownLogFormat (format : String)
  | noSocketAddress (address : String)
  | noNumber (key : Variable) (value : String) (cause : Numeral.Fault)
  | zero (key : Variable)
deriving DecidableEq, Repr

namespace Fault

def key : Fault → Variable
  | unknownLogFormat _ => .logFormat
  | noSocketAddress _ => .metricsAddress
  | noNumber key _ _ => key
  | zero key => key

def message (f : Fault) : String :=
  f.key.name ++ match f with
    | unknownLogFormat format => " must be 'text' or 'json', got '" ++ format ++ "'"
    | noSocketAddress address => " is not a socket address: " ++ address
    | noNumber _ value _ => " must be a number of seconds, got '" ++ value ++ "'"
    | zero _ => " must be greater than zero"

def cause? : Fault → Option String
  | noSocketAddress _ => some "invalid socket address syntax"
  | noNumber _ _ cause => some cause.message
  | _ => none

-- The message and what lies behind it.
def chain (f : Fault) : List String := f.message :: f.cause?.toList

end Fault

def greatestSeconds : Nat := Nat.pow 2 64 - 1

def readLogFormat (value : String) : Except Fault LogFormat :=
  let format := lowercase value
  if format = "text" ∨ format = "" then .ok .text
  else if format = "json" then .ok .json
  else .error (.unknownLogFormat format)

def readAddress (value : String) : Except Fault SocketAddress :=
  match SocketAddress.ofText? value with
  | some address => .ok address
  | none => .error (.noSocketAddress value)

def readSeconds (key : Variable) (value : String) : Except Fault Nat :=
  match Numeral.parse greatestSeconds value with
  | .error cause => .error (.noNumber key value cause)
  | .ok 0 => .error (.zero key)
  | .ok seconds => .ok seconds

-- What a variable says, or the default if it is not set.
def field {α : Type} (value : Option String) (default : α) (read : String → Except Fault α) :
    Except Fault α :=
  match value with
  | none => .ok default
  | some value => read value

-- A text that is set and not empty, else the default.
def textField (value : Option String) (default : String) : String :=
  (value.filter (· ≠ "")).getD default

-- The first variable that cannot be read is the error.
def ofVariables (lookup : Variable → Option String) : Except Fault Configuration := do
  let default : Configuration := {}
  let logFormat ← field (lookup .logFormat) default.logFormat readLogFormat
  let metricsAddress ← field (lookup .metricsAddress) default.metricsAddress readAddress
  let resyncSeconds ←
    field (lookup .resyncSeconds) default.resyncSeconds (readSeconds .resyncSeconds)
  let errorRequeueSeconds ←
    field (lookup .errorRequeueSeconds) default.errorRequeueSeconds
      (readSeconds .errorRequeueSeconds)
  return {
    settings :=
      { image := textField (lookup .image) default.settings.image
        apiKeySecret := textField (lookup .apiKeySecret) default.settings.apiKeySecret }
    logFormat, metricsAddress, resyncSeconds, errorRequeueSeconds }

end Configuration

end GatewayOperator
