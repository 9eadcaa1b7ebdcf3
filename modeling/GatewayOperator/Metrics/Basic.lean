import GatewayOperator.Pass.Report

namespace GatewayOperator

-- How a pass that gave a report ended
inductive PassResult where
  | failed
  | notFound
  | ready
  | skipped
deriving DecidableEq, Repr

namespace PassResult

def label : PassResult → String
  | failed => "failed"
  | notFound => "not_found"
  | ready => "ready"
  | skipped => "skipped"

-- In the order of their labels
def all : List PassResult := [failed, notFound, ready, skipped]

def ofOutcome : Outcome → PassResult
  | .notFound => notFound
  | .skipped => skipped
  | .failed _ => failed
  | .ready _ => ready

end PassResult

structure Metrics where
  passes : PassResult → Nat := fun _ => 0
  errors : Nat := 0
  -- by kind and by what was done, where nothing is counted for unchanged children
  childWrites : Kind → Applied → Nat := fun _ _ => 0
  -- seconds that passes took: how many in each bucket or a lower one, all, and their sum
  buckets : List (Float × Nat) :=
    [0.005, 0.01, 0.025, 0.05, 0.1, 0.25, 0.5, 1, 2.5, 5, 10].map fun bound => (bound, 0)
  observations : Nat := 0
  totalSeconds : Float := 0

namespace Metrics

def countPass (m : Metrics) (result : PassResult) : Metrics :=
  { m with passes := fun r => if r = result then m.passes r + 1 else m.passes r }

def countWrite (m : Metrics) (kind : Kind) (applied : Applied) : Metrics :=
  if applied = .unchanged then m
  else
    { m with
      childWrites := fun k a =>
        if k = kind ∧ a = applied then m.childWrites k a + 1 else m.childWrites k a }

-- Counts a pass that gave a report, and the writes it made.
def record (m : Metrics) (report : Report) : Metrics :=
  report.applied.foldl (fun m a => m.countWrite a.1 a.2)
    (m.countPass (.ofOutcome report.outcome))

def countError (m : Metrics) : Metrics := { m with errors := m.errors + 1 }

def observe (m : Metrics) (seconds : Float) : Metrics :=
  { m with
    buckets := m.buckets.map fun b => if seconds ≤ b.1 then (b.1, b.2 + 1) else b
    observations := m.observations + 1
    totalSeconds := m.totalSeconds + seconds }

end Metrics

end GatewayOperator
