import GatewayOperator.Decimal.Shortest
import GatewayOperator.Metrics.Basic

namespace GatewayOperator.Metrics

-- The fewest digits that read back, without exponent, and without a point where the number is whole
def floatText (x : Float) : String :=
  let sign (negative : Bool) : String := if negative then "-" else ""
  match Decimal.ofFloat .up x with
  | .notANumber => "NaN"
  | .infinite negative => sign negative ++ "inf"
  | .finite negative size => sign negative ++ size.positional

structure Sample where
  suffix : String := ""
  labels : List (String × String) := []
  value : String

structure Family where
  name : String
  help : String
  type : String
  samples : List Sample

def Sample.line (family : String) (s : Sample) : String :=
  let labels :=
    if s.labels.isEmpty then ""
    else "\x7b" ++ ",".intercalate (s.labels.map fun l => l.1 ++ "=\"" ++ l.2 ++ "\"") ++ "\x7d"
  family ++ s.suffix ++ labels ++ " " ++ s.value ++ "\n"

def Family.text (f : Family) : String :=
  if f.samples.isEmpty then ""
  else
    "# HELP " ++ f.name ++ " " ++ f.help ++ "\n# TYPE " ++ f.name ++ " " ++ f.type ++ "\n" ++
      String.join (f.samples.map (·.line f.name))

-- Kinds in the order of their names
def kinds : List Kind := [.gateway, .configMap, .deployment, .service]

def childWriteSamples (m : Metrics) : List Sample :=
  (kinds.flatMap fun k => [Applied.created, .updated].map fun a => (k, a)).filterMap fun (k, a) =>
    if m.childWrites k a = 0 then none
    else some
      { labels := [("kind", k.name), ("op", a.text)], value := toString (m.childWrites k a) }

def durationSamples (m : Metrics) : List Sample :=
  m.buckets.map (fun b =>
    { suffix := "_bucket", labels := [("le", floatText b.1)], value := toString b.2 }) ++
  [{ suffix := "_bucket", labels := [("le", "+Inf")], value := toString m.observations },
   { suffix := "_sum", value := floatText m.totalSeconds },
   { suffix := "_count", value := toString m.observations }]

def passSamples (m : Metrics) : List Sample :=
  PassResult.all.filterMap fun r =>
    if m.passes r = 0 then none
    else some { labels := [("result", r.label)], value := toString (m.passes r) }

-- Families in the order of their names, with their samples in the order of the labels
def families (m : Metrics) : List Family :=
  [⟨"aigateway_child_writes_total", "Writes issued for gateway child objects", "counter",
    childWriteSamples m⟩,
   ⟨"aigateway_reconcile_duration_seconds", "AiGateway reconcile latency in seconds",
    "histogram", durationSamples m⟩,
   ⟨"aigateway_reconcile_errors_total", "AiGateway reconcile passes that returned an error",
    "counter", [{ value := toString m.errors }]⟩,
   ⟨"aigateway_reconcile_total", "Completed AiGateway reconcile passes", "counter",
    passSamples m⟩]

def text (m : Metrics) : String := String.join (m.families.map Family.text)

end GatewayOperator.Metrics
