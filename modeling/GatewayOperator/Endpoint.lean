import GatewayOperator.Metrics.Exposition

namespace GatewayOperator.Endpoint

inductive Method where
  | get
  | other
deriving DecidableEq, Repr

-- Characters of a token
def isTokenChar (c : Char) : Bool :=
  c.isAlphanum || "!#$%&'*+-.^_`|~".toList.contains c

-- A method is a token; case counts.
def Method.ofText? (s : String) : Option Method :=
  if s = "" || !s.toList.all isTokenChar then none
  else some (if s = "GET" then .get else .other)

structure Response where
  status : Nat
  contentType : Option String := none
  body : String
deriving DecidableEq, Repr

def respond (method : Method) (path : String) (m : Metrics) : Response :=
  if method = .get ∧ path = "/metrics" then
    { status := 200, contentType := some "text/plain; version=0.0.4", body := m.text }
  else if path = "/healthz" then { status := 200, body := "OK\n" }
  else { status := 404, body := "Not Found\n" }

end GatewayOperator.Endpoint
