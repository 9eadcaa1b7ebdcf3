import GatewayOperator.Proofs.Pass.Settled

namespace GatewayOperator

def Service.selector? (s : Service) : Option Labels.Map := s.spec.bind ServiceSpec.selector

-- The service selects by at least one label, and all that it selects by stands in the labels.
def Service.Selects (s : Service) (labels : Option Labels.Map) : Prop :=
  ∃ selector, s.selector? = some selector ∧ selector.isEmpty = false ∧
    ∀ key value, selector.get? key = some value → Labels.Holds labels key value

-- The labels of the pods of a deployment, if there is such a deployment
def MemoryStore.podLabels? (s : MemoryStore) (ns name : String) : Option Labels.Map :=
  match s.object? .deployment ns name with
  | some (some d) => d.podMetadata.labels
  | _ => none

theorem MemoryStore.podLabels?_of_object? {s : MemoryStore} {ns name : String}
    {found : Option Deployment} (h : s.object? .deployment ns name = some found) :
    s.podLabels? ns name = found.bind fun d => d.podMetadata.labels := by
  rw [podLabels?, h]
  cases found <;> rfl

theorem Labels.merge_none_some (source : Map) : merge none (some source) = some source :=
  congrArg some source.ofList_entries

-- An update merges the labels of the pods, whether or not there was anything about pods before.
theorem Deployment.podLabels_update (existing : Deployment) {desired : Deployment}
    {spec : DeploymentSpec} (hspec : desired.spec = some spec) :
    (existing.update desired).podMetadata.labels =
      Labels.merge existing.podMetadata.labels desired.podMetadata.labels := by
  cases hold : existing.spec <;> simp [podMetadata, update, updateSpec, hspec, hold]

theorem Service.selector?_update (existing desired : Service) :
    (existing.update desired).selector? = existing.selector? := by
  cases hold : existing.spec <;> simp [selector?, update, hold]

namespace Children

variable {g : Gateway} {rendered : RenderedConfig} {settings : ProxySettings} {c : Children}
  {ns : String} {s t : MemoryStore}

-- The pods keep the labels that they had, and get the label of the gateway.
theorem podLabels_settled (h : ofGateway g rendered settings = .ok c)
    (hsettled : ∀ st ∈ c.stages, st.Settled ns s t) :
    ∃ deployment, t.object? .deployment ns g.name = some (some deployment) ∧
      deployment.podMetadata.labels =
        Labels.merge (s.podLabels? ns g.name) (some (appLabels g.name)) := by
  obtain ⟨own, owner, -, -, hdeployment, -⟩ := ofGateway_eq_ok h
  simp only [stages, List.forall_mem_cons] at hsettled
  obtain ⟨-, ⟨found, hfound, hafter⟩, -⟩ := hsettled
  rw [hdeployment] at hfound hafter
  have hbefore : s.object? .deployment ns g.name = some found := hfound
  refine ⟨_, hafter, ?_⟩
  rw [MemoryStore.podLabels?_of_object? hbefore]
  cases found with
  | none => exact (Labels.merge_none_some _).symm
  | some existing =>
    simp only [Stage.settle, Option.bind_some]
    split
    next hdrifted => exact existing.podLabels_update rfl
    next hdrifted =>
      -- pods that are taken to be in place have the label already
      have hfirst : (deploymentFor (objectMeta g.name own owner g.name) g rendered
          settings).firstContainer? = some (container g settings) := rfl
      obtain ⟨-, hlabels, -⟩ := (Deployment.drifted_eq_false_iff existing hfirst).mp
        (Bool.eq_false_of_not_eq_true hdrifted)
      exact (Labels.merge_of_present_singleton hlabels).symm

-- A new service selects by the label of the gateway, and one that was there as it did before.
theorem selector_settled (h : ofGateway g rendered settings = .ok c)
    (hsettled : ∀ st ∈ c.stages, st.Settled ns s t) :
    ∃ found service, s.object? .service ns g.name = some found ∧
      t.object? .service ns g.name = some (some service) ∧
      service.selector? = match found with
        | none => some (appLabels g.name)
        | some old => old.selector? := by
  obtain ⟨own, owner, -, -, -, hservice⟩ := ofGateway_eq_ok h
  simp only [stages, List.forall_mem_cons] at hsettled
  obtain ⟨-, -, ⟨found, hfound, hafter⟩, -⟩ := hsettled
  rw [hservice] at hfound hafter
  refine ⟨found, _, hfound, hafter, ?_⟩
  cases found with
  | none => rfl
  | some old =>
    simp only [Stage.settle]
    split
    · exact old.selector?_update _
    · rfl

theorem selects_iff_of_settled (h : ofGateway g rendered settings = .ok c)
    (hsettled : ∀ st ∈ c.stages, st.Settled ns s t) :
    ∃ service deployment, t.object? .service ns g.name = some (some service) ∧
      t.object? .deployment ns g.name = some (some deployment) ∧
      (service.Selects deployment.podMetadata.labels ↔
        s.find? ⟨.service, ns, g.name⟩ = none ∨
          ∃ old, s.object? .service ns g.name = some (some old) ∧
            old.Selects (Labels.merge (s.podLabels? ns g.name) (some (appLabels g.name)))) := by
  obtain ⟨deployment, hdeployment, hlabels⟩ := podLabels_settled h hsettled
  obtain ⟨found, service, hfound, hservice, hselector⟩ := selector_settled h hsettled
  refine ⟨service, deployment, hservice, hdeployment, ?_⟩
  rw [hlabels, Service.Selects, hselector, ← MemoryStore.object?_eq_some_none_iff, hfound]
  cases found with
  | none =>
    simp only [true_or, iff_true]
    have hpresent := Labels.present_merge (s.podLabels? ns g.name) (some (appLabels g.name))
    exact ⟨_, rfl, rfl, (Labels.present_iff _ _).mp hpresent⟩
  | some old => simp [Service.Selects]

end Children

namespace Operator

variable {op : Operator} {now : Instant} {ns name hash : String} {s t : MemoryStore}
  {report : Report}

-- After a ready pass the service selects the pods of the deployment exactly if it was not there
-- before the pass, or if it asks for no more than what the pods had and the label of the gateway.
theorem selects_iff_of_ready (hs : s.WellKeyed) (hnow : now.Proper)
    (hrun : (op.pass now ns name).run MemoryStore.handle s = (some (.ok report), t))
    (hready : report.outcome = .ready hash) :
    ∃ service deployment, t.object? .service ns name = some (some service) ∧
      t.object? .deployment ns name = some (some deployment) ∧
      (service.Selects deployment.podMetadata.labels ↔
        s.find? ⟨.service, ns, name⟩ = none ∨
          ∃ old, s.object? .service ns name = some (some old) ∧
            old.Selects
              (Labels.merge (s.podLabels? ns name) (some (Children.appLabels name)))) := by
  obtain ⟨g, rendered, children, status, rfl, -, hchildren, hsettled⟩ :=
    settled_of_ready hs hnow hrun hready
  exact Children.selects_iff_of_settled hchildren hsettled

-- A service of the gateway that somebody has pointed at other pods
def strayService : Service :=
  { metadata :=
      { name := some "gw", ns := some "default"
        ownerReferences := some [⟨apiVersion, none, some true, Gateway.kind, "gw", "1"⟩] }
    spec := some { selector := some (.singleton Children.appLabel "other") } }

def strayServiceStore : MemoryStore := freshStore.insert .service strayService

theorem wellFormed_strayService : Kind.WellFormed .service strayService := by
  refine ⟨ObjectMeta.wellFormed_of_carried_nil rfl, ?_, Schema.carries_nil (by decide)⟩
  rintro spec ⟨rfl⟩
  exact ⟨by simp, Schema.carries_nil (by decide)⟩

theorem wellKeyed_strayServiceStore : strayServiceStore.WellKeyed :=
  wellKeyed_freshStore.put wellFormed_strayService

theorem selects_iff_of_stray :
    ∃ hash report t,
      (({} : Operator).pass ⟨0, false⟩ "default" "gw").run MemoryStore.handle
        strayServiceStore = (some (.ok report), t) ∧ report.outcome = .ready hash ∧
      ∃ service deployment, t.object? .service "default" "gw" = some (some service) ∧
        t.object? .deployment "default" "gw" = some (some deployment) ∧
        (service.Selects deployment.podMetadata.labels ↔
          strayServiceStore.find? ⟨.service, "default", "gw"⟩ = none ∨
            ∃ old, strayServiceStore.object? .service "default" "gw" = some (some old) ∧
              old.Selects (Labels.merge (strayServiceStore.podLabels? "default" "gw")
                (some (Children.appLabels "gw")))) := by
  have hnow : Instant.Proper ⟨0, false⟩ := ⟨by decide, by decide⟩
  obtain ⟨hash, report, t, hrun, hready⟩ :=
    exists_ready_beside (by decide) wellFormed_strayService ⟨0, false⟩
  exact ⟨hash, report, t, hrun, hready,
    selects_iff_of_ready wellKeyed_strayServiceStore hnow hrun hready⟩

-- The pass finds the gateway ready, but its service selects other pods.
theorem not_selects_of_stray :
    strayServiceStore.WellKeyed ∧
    ∃ hash report t,
      (({} : Operator).pass ⟨0, false⟩ "default" "gw").run MemoryStore.handle
        strayServiceStore = (some (.ok report), t) ∧ report.outcome = .ready hash ∧
      ∃ service deployment, t.object? .service "default" "gw" = some (some service) ∧
        t.object? .deployment "default" "gw" = some (some deployment) ∧
        ¬ service.Selects deployment.podMetadata.labels := by
  have hnow : Instant.Proper ⟨0, false⟩ := ⟨by decide, by decide⟩
  obtain ⟨hash, report, t, hrun, hready⟩ :=
    exists_ready_beside (by decide) wellFormed_strayService ⟨0, false⟩
  refine ⟨wellKeyed_strayServiceStore, hash, report, t, hrun, hready, ?_⟩
  obtain ⟨g, rendered, children, status, hname, -, hchildren, hsettled⟩ :=
    settled_of_ready wellKeyed_strayServiceStore hnow hrun hready
  have hfound : strayServiceStore.object? .service "default" "gw" = some (some strayService) :=
    MemoryStore.object?_of_find?_toJson wellFormed_strayService
      (MemoryStore.find?_put_self freshStore _ _)
  obtain ⟨service, deployment, hservice, hdeployment, hselects⟩ :=
    Children.selects_iff_of_settled hchildren hsettled
  rw [hname] at hservice hdeployment hselects
  rw [← MemoryStore.object?_eq_some_none_iff, hfound] at hselects
  refine ⟨service, deployment, hservice, hdeployment, fun h => ?_⟩
  rcases hselects.mp h with habsent | ⟨old, hold, selector, hselector, -, hall⟩
  · cases habsent
  · cases hold
    cases hselector
    -- the pods carry the name of the gateway under the label
    have hother := hall Children.appLabel "other" (by simp)
    have hpresent := Labels.present_merge (strayServiceStore.podLabels? "default" "gw")
      (some (Children.appLabels "gw"))
    have hlabel := (Labels.present_iff _ _).mp hpresent Children.appLabel "gw"
      (by simp [Children.appLabels])
    have hsame : "other" = "gw" := Option.some.inj (hother.symm.trans hlabel)
    exact absurd hsame (by decide)

end Operator

end GatewayOperator
