import GatewayOperator.Gateway.Spec
import GatewayOperator.Text.Case

namespace GatewayOperator

structure Route where
  -- provider and model with a slash between them
  target : String
  -- the provider in lower case
  provider : String
deriving DecidableEq, Repr

def beforeSlash (s : String) : String := String.ofList (s.toList.takeWhile (· ≠ '/'))

namespace Route

-- A model without provider names it in front of the first slash of its own name.
def ofModel (m : Model) : Route :=
  match m.provider.filter (· ≠ "") with
  | some provider => ⟨provider ++ "/" ++ m.name, lowercase provider⟩
  | none => ⟨m.name, lowercase (beforeSlash m.name)⟩

end Route

namespace ApiKey

-- Providers whose variable does not follow from their name, and those listed by name
def knownVariables : List (String × String) :=
  [("openai", "OPENAI_API_KEY"), ("azure", "AZURE_API_KEY"), ("gemini", "GEMINI_API_KEY"),
   ("anthropic", "ANTHROPIC_API_KEY"), ("bedrock", "AWS_ACCESS_KEY_ID"),
   ("huggingface", "HUGGINGFACE_API_KEY")]

-- The variable for a provider, if it needs a key.
def variableOf (provider : String) : Option String :=
  let provider := lowercase provider
  if provider = "" ∨ provider = "ollama" then none
  else some ((knownVariables.lookup provider).getD (uppercase provider ++ "_API_KEY"))

def ofModel (m : Model) : Option String := variableOf (Route.ofModel m).provider

-- The distinct variables that a list of models needs, in ascending order.
def required (models : List Model) : List String :=
  (Dict.ofList ((models.filterMap ofModel).map fun v => (v, ()))).entries.map (·.1)

end ApiKey

end GatewayOperator
