import GatewayOperator.Proofs.Pass.Ready

namespace GatewayOperator

namespace Conditions

-- Two conditions come into a list one after the other, each of them at some time.
def Follow (first second : Condition) (before after : List Condition) : Prop :=
  ∃ c d between, c.untimed = first.untimed ∧ d.untimed = second.untimed ∧
    Placed c before between ∧ Placed d between after

-- A list that stays as it is, times apart, when two conditions of different types are set has them
-- both in it: putting them there again changes nothing, not even a time.
theorem follow_self {conditions : List Condition} {first second : Condition}
    (hne : first.type ≠ second.type)
    (h : conditions.map Condition.untimed =
      (set (set conditions first) second).map Condition.untimed) :
    Follow first second conditions conditions := by
  have hfind (type : String) : (find? conditions type).map Condition.untimed =
      (find? (set (set conditions first) second) type).map Condition.untimed := by
    rw [← find?_map_untimed, ← find?_map_untimed, h]
  have hfirst := hfind first.type
  rw [find?_set_of_ne _ (Ne.symm hne), find?_set_self, Option.map_some,
    Option.map_eq_some_iff] at hfirst
  have hsecond := hfind second.type
  rw [find?_set_self, Option.map_some, Option.map_eq_some_iff] at hsecond
  obtain ⟨c, hc, hc'⟩ := hfirst
  obtain ⟨d, hd, hd'⟩ := hsecond
  have hctype : c.type = first.type := (congrArg Condition.type hc' :)
  have hdtype : d.type = second.type := (congrArg Condition.type hd' :)
  have hplaced := placed_set conditions c
  have hplaced' := placed_set conditions d
  rw [set_eq_self (hctype ▸ hc)] at hplaced
  rw [set_eq_self (hdtype ▸ hd)] at hplaced'
  exact ⟨c, d, conditions, hc', hd', hplaced, hplaced'⟩

end Conditions

namespace GatewayStatus

-- A status that tells of a pass: both verdicts are among the old conditions, the hash is that of
-- the pass, and if the pass was stopped then the time of the last update is the old one.
structure Concludes (old status : GatewayStatus) (result : Except Obstacle String)
    (now : Instant) : Prop where
  conditions : Conditions.Follow (verdicts result now).1 (verdicts result now).2 old.conditions
    status.conditions
  configHash : status.configHash = (old.afterPass result now).configHash
  lastUpdated : ∀ obstacle, result = .error obstacle → status.lastUpdated = old.lastUpdated

theorem concludes_afterPass (s : GatewayStatus) (result : Except Obstacle String) (now : Instant) :
    Concludes s (s.afterPass result now) result now := by
  refine ⟨⟨_, _, _, rfl, rfl, Conditions.placed_set _ _, ?_⟩, rfl, ?_⟩
  · rw [conditions_afterPass]
    exact Conditions.placed_set _ _
  · rintro obstacle rfl
    rfl

-- The status that is not written again: it tells of the pass already.
theorem concludes_of_unchanged {old : Option GatewayStatus} {result : Except Obstacle String}
    {now : Instant} (h : changed old ((old.getD {}).afterPass result now) = false) :
    ∃ status, old = some status ∧ Concludes (old.getD {}) status result now := by
  obtain ⟨status, rfl, hhash, hconditions⟩ := changed_eq_false h
  obtain ⟨hfirst, hsecond⟩ := types_verdicts result now
  refine ⟨status, rfl, Conditions.follow_self ?_ ?_, hhash, fun _ _ => rfl⟩
  · rw [hfirst, hsecond]
    decide
  · rw [← conditions_afterPass]
    exact hconditions

end GatewayStatus

namespace Operator

variable {op : Operator} {now : Instant} {ns name : String} {s t : MemoryStore} {report : Report}

-- A pass with a report about a gateway of ours: whether it wrote the status or not, the gateway has
-- one that tells of the pass.
theorem Passes.concludes (hs : s.WellKeyed) (hnow : now.Proper)
    (h : op.Passes now ns name s (.ok report) t) (hfound : report.outcome ≠ .notFound)
    (hours : report.outcome ≠ .skipped) :
    ∃ g status result, s.object? .gateway ns name = some (some g) ∧
      t.object? .gateway ns name = some (some { g with status := some status }) ∧
      report.outcome = outcomeOf result ∧
      GatewayStatus.Concludes (g.status.getD {}) status result now := by
  cases h with
  | notFound => exact absurd rfl hfound
  | skipped => exact absurd rfl hours
  | @unchanged g _ result _ hclaims happlies hchanged =>
    obtain ⟨status, hstatus, hconcludes⟩ := GatewayStatus.concludes_of_unchanged hchanged
    refine ⟨g, status, result, hclaims.object, ?_, rfl, hconcludes⟩
    rw [← hstatus]
    exact hclaims.object_after happlies
  | @written g _ result u hclaims happlies =>
    exact ⟨g, nextStatus g result now, result, hclaims.object,
      MemoryStore.object?_withStatus (hclaims.wellFormed_next hs result hnow)
        (hclaims.wellFormed hs).2, rfl, GatewayStatus.concludes_afterPass _ result now⟩

-- Whatever status the gateway had before: after a pass that found it ready, or that failed, the two
-- conditions say so, each where the first of its type stood or at the end, and all others stand
-- where they stood. This is so too where the status was not written.
theorem conditions_of_concluded (hs : s.WellKeyed) (hnow : now.Proper)
    (hrun : (op.pass now ns name).run MemoryStore.handle s = (some (.ok report), t)) :
    (∀ hash, report.outcome = .ready hash →
      ∃ g status, s.object? .gateway ns name = some (some g) ∧
        t.object? .gateway ns name = some (some { g with status := some status }) ∧
        status.configHash = some hash ∧
        Conditions.Follow
          (Conditions.condition "Configured" .true "ConfigurationApplied"
            "AiGateway configuration successfully applied" now)
          (Conditions.condition "Ready" .true "GatewayReady"
            "AiGateway is ready and serving traffic" now)
          (g.status.getD {}).conditions status.conditions) ∧
    ∀ failure, report.outcome = .failed failure →
      ∃ g status, s.object? .gateway ns name = some (some g) ∧
        t.object? .gateway ns name = some (some { g with status := some status }) ∧
        status.configHash = (g.status.getD {}).configHash ∧
        status.lastUpdated = (g.status.getD {}).lastUpdated ∧
        Conditions.Follow
          (Conditions.condition "Configured" .false failure.reason failure.message now)
          (Conditions.condition "Ready" .false failure.reason
            ("AiGateway not ready: " ++ failure.message) now)
          (g.status.getD {}).conditions status.conditions := by
  have hpasses := passes_of_run hs hrun
  constructor
  · intro hash hready
    obtain ⟨g, status, result, hobject, hafter, houtcome, hconcludes⟩ :=
      hpasses.concludes hs hnow (by simp [hready]) (by simp [hready])
    cases result with
    | error obstacle => cases hready.symm.trans houtcome
    | ok found =>
      cases hready.symm.trans houtcome
      exact ⟨g, status, hobject, hafter, hconcludes.configHash, hconcludes.conditions⟩
  · intro failure hfailed
    obtain ⟨g, status, result, hobject, hafter, houtcome, hconcludes⟩ :=
      hpasses.concludes hs hnow (by simp [hfailed]) (by simp [hfailed])
    cases result with
    | ok hash => cases hfailed.symm.trans houtcome
    | error obstacle =>
      cases hfailed.symm.trans houtcome
      exact ⟨g, status, hobject, hafter, hconcludes.configHash, hconcludes.lastUpdated _ rfl,
        hconcludes.conditions⟩

-- The status of a gateway that lost its models, with a condition of somebody else's in front and an
-- old verdict left over behind
def emptiedStatus : GatewayStatus :=
  let message := Obstacle.message (.invalidSpec .missingModels)
  { conditions :=
      [Conditions.condition "Synced" .unknown "Waiting" "" ⟨0, false⟩,
       Conditions.condition "Ready" .false "MissingModels" ("AiGateway not ready: " ++ message)
         ⟨0, false⟩,
       Conditions.condition "Configured" .false "MissingModels" message ⟨0, false⟩,
       Conditions.condition "Ready" .true "GatewayReady" "" ⟨0, false⟩]
    configHash := some "0123456789abcdef" }

def emptiedGateway : Gateway :=
  { freshGateway with
    spec := { freshGateway.spec with models := [] }
    status := some emptiedStatus }

def emptiedStore : MemoryStore := freshStore.insert .gateway emptiedGateway

theorem wellFormed_emptiedGateway : Kind.WellFormed .gateway emptiedGateway := by
  have htime : Instant.Proper ⟨0, false⟩ := ⟨by decide, by decide⟩
  refine ⟨ObjectMeta.wellFormed_of_carried_nil rfl, ⟨wellFormed_freshGateway.spec.port⟩, ?_⟩
  rintro status ⟨rfl⟩
  refine ⟨?_, by simp [emptiedStatus]⟩
  simp only [emptiedStatus, List.forall_mem_cons]
  exact ⟨⟨htime, by simp [Conditions.condition]⟩, ⟨htime, by simp [Conditions.condition]⟩,
    ⟨htime, by simp [Conditions.condition]⟩, ⟨htime, by simp [Conditions.condition]⟩, by simp⟩

theorem wellKeyed_emptiedStore : emptiedStore.WellKeyed :=
  wellKeyed_freshStore.put wellFormed_emptiedGateway

-- The pass finds its verdicts in the status, in the other order, and writes nothing.
theorem run_emptiedStore :
    (({} : Operator).pass ⟨60, false⟩ "default" "gw").run MemoryStore.handle emptiedStore =
      (some (.ok ⟨.failed (Obstacle.failure (.invalidSpec .missingModels)), [], false⟩),
        emptiedStore) := by
  have hobject : emptiedStore.object? .gateway "default" "gw" = some (some emptiedGateway) :=
    MemoryStore.object?_of_find?_toJson wellFormed_emptiedGateway
      (MemoryStore.find?_put_self freshStore _ _)
  have hclaims : ({} : Operator).Claims "default" "gw" emptiedStore emptiedGateway :=
    ⟨rfl, hobject, by decide⟩
  have happlies : ({} : Operator).Applies emptiedGateway "default" emptiedStore []
      (.error (.invalidSpec .missingModels)) emptiedStore := .unplanned rfl
  exact (Passes.unchanged hclaims happlies (by decide)).run wellKeyed_emptiedStore

theorem conditions_of_emptied :
    emptiedStore.WellKeyed ∧
      ∃ report t,
        (({} : Operator).pass ⟨60, false⟩ "default" "gw").run MemoryStore.handle emptiedStore =
          (some (.ok report), t) ∧
        report.statusWritten = false ∧
        ∃ g status, emptiedStore.object? .gateway "default" "gw" = some (some g) ∧
          t.object? .gateway "default" "gw" = some (some { g with status := some status }) ∧
          status.configHash = (g.status.getD {}).configHash ∧
          status.lastUpdated = (g.status.getD {}).lastUpdated ∧
          Conditions.Follow
            (Conditions.condition "Configured" .false "MissingModels"
              "AiGateway configuration validation failed: no AI models specified" ⟨60, false⟩)
            (Conditions.condition "Ready" .false "MissingModels"
              ("AiGateway not ready: " ++
                "AiGateway configuration validation failed: no AI models specified") ⟨60, false⟩)
            (g.status.getD {}).conditions status.conditions := by
  have hnow : Instant.Proper ⟨60, false⟩ := ⟨by decide, by decide⟩
  exact ⟨wellKeyed_emptiedStore, _, _, run_emptiedStore, rfl,
    (conditions_of_concluded wellKeyed_emptiedStore hnow run_emptiedStore).2 _ rfl⟩

end Operator

end GatewayOperator
