import GatewayOperator.Pass.Status
import GatewayOperator.Proofs.Gateway.Basic
import GatewayOperator.Proofs.Kubernetes.Condition

namespace GatewayOperator

namespace GatewayStatus

-- A status that says nothing new says the same as the old one, times apart.
theorem changed_eq_false {old : Option GatewayStatus} {new : GatewayStatus}
    (h : changed old new = false) : ∃ status, old = some status ∧
      status.configHash = new.configHash ∧
      status.conditions.map Condition.untimed = new.conditions.map Condition.untimed := by
  cases old with
  | none => cases h
  | some status =>
    simp only [changed, Bool.or_eq_false_iff, decide_eq_false_iff_not, Decidable.not_not,
      Bool.not_eq_false'] at h
    exact ⟨status, rfl, h.1, (Conditions.sameUpToTime_iff _ _).mp h.2⟩

-- The two conditions that the result of a pass sets
def verdicts (result : Except Obstacle String) (now : Instant) : Condition × Condition :=
  match result with
  | .ok _ =>
    (Conditions.condition configured .true configurationApplied
      "AiGateway configuration successfully applied" now,
     Conditions.condition ready .true gatewayReady "AiGateway is ready and serving traffic" now)
  | .error obstacle =>
    (Conditions.condition configured .false obstacle.failure.reason obstacle.failure.message now,
     Conditions.condition ready .false obstacle.failure.reason
       ("AiGateway not ready: " ++ obstacle.failure.message) now)

theorem conditions_afterPass (s : GatewayStatus) (result : Except Obstacle String)
    (now : Instant) :
    (s.afterPass result now).conditions =
      Conditions.set (Conditions.set s.conditions (verdicts result now).1)
        (verdicts result now).2 := by
  cases result <;> rfl

theorem types_verdicts (result : Except Obstacle String) (now : Instant) :
    (verdicts result now).1.type = configured ∧ (verdicts result now).2.type = ready := by
  cases result <;> exact ⟨rfl, rfl⟩

theorem untimed_verdicts (result : Except Obstacle String) (now later : Instant) :
    (verdicts result later).1.untimed = (verdicts result now).1.untimed ∧
      (verdicts result later).2.untimed = (verdicts result now).2.untimed := by
  cases result <;> exact ⟨rfl, rfl⟩

theorem configHash_afterPass (s : GatewayStatus) (result : Except Obstacle String)
    (now later : Instant) :
    (s.afterPass result later).configHash = (s.afterPass result now).configHash := by
  cases result <;> rfl

theorem untimed_conditions_afterPass (s : GatewayStatus) (result : Except Obstacle String)
    (now later : Instant) :
    (s.afterPass result later).conditions.map Condition.untimed =
      (s.afterPass result now).conditions.map Condition.untimed := by
  obtain ⟨hconfigured, hready⟩ := untimed_verdicts result now later
  simp only [conditions_afterPass, Conditions.map_untimed_set, hconfigured, hready]

-- When a pass was made does not matter for what is new in its status.
theorem changed_afterPass (observed : Option GatewayStatus) (s : GatewayStatus)
    (result : Except Obstacle String) (now later : Instant) :
    changed observed (s.afterPass result later) = changed observed (s.afterPass result now) := by
  cases observed with
  | none => rfl
  | some observed =>
    have hsame : Conditions.sameUpToTime observed.conditions (s.afterPass result later).conditions =
        Conditions.sameUpToTime observed.conditions (s.afterPass result now).conditions := by
      rw [Bool.eq_iff_iff, Conditions.sameUpToTime_iff, Conditions.sameUpToTime_iff,
        untimed_conditions_afterPass s result now later]
    simp only [changed, configHash_afterPass s result now later, hsame]

-- The status of a pass sets what it says already.
theorem changed_afterPass_self (s : GatewayStatus) (result : Except Obstacle String)
    (now later : Instant) :
    changed (some (s.afterPass result now)) ((s.afterPass result now).afterPass result later) =
      false := by
  rw [changed_afterPass _ _ result now later]
  obtain ⟨hfirst, hsecond⟩ := types_verdicts result now
  have hne : (verdicts result now).2.type ≠ (verdicts result now).1.type := by
    rw [hfirst, hsecond]
    decide
  have hconditions : ((s.afterPass result now).afterPass result now).conditions =
      (s.afterPass result now).conditions := by
    rw [conditions_afterPass _ result now, conditions_afterPass s result now]
    rw [Conditions.set_eq_self (c := (verdicts result now).1), Conditions.set_eq_self]
    · exact Conditions.find?_set_self _ _
    · rw [Conditions.find?_set_of_ne _ hne]
      exact Conditions.find?_set_self _ _
  have hhash : ((s.afterPass result now).afterPass result now).configHash =
      (s.afterPass result now).configHash := by
    cases result <;> rfl
  have hsame (cs : List Condition) : Conditions.sameUpToTime cs cs = true :=
    (Conditions.sameUpToTime_iff cs cs).mpr rfl
  simp only [changed, hconditions, hhash, hsame, ne_eq, not_true_eq_false, decide_false,
    Bool.not_true, Bool.or_self]

theorem WellFormed.afterPass {s : GatewayStatus} (h : s.WellFormed)
    (result : Except Obstacle String) {now : Instant} (hnow : now.Proper) :
    (s.afterPass result now).WellFormed := by
  have hverdicts : (verdicts result now).1.WellFormed ∧ (verdicts result now).2.WellFormed := by
    cases result <;> exact ⟨⟨hnow, by simp [verdicts, Conditions.condition]⟩,
      ⟨hnow, by simp [verdicts, Conditions.condition]⟩⟩
  constructor
  · intro c hc
    rw [conditions_afterPass] at hc
    rcases Conditions.mem_of_mem_set hc with rfl | hc
    · exact hverdicts.2
    · rcases Conditions.mem_of_mem_set hc with rfl | hc
      · exact hverdicts.1
      · exact h.conditions c hc
  · cases result with
    | ok hash =>
      rintro t ⟨rfl⟩
      exact hnow
    | error obstacle => exact h.lastUpdated

end GatewayStatus

end GatewayOperator
