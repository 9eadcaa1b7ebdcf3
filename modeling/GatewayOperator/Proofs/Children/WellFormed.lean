import GatewayOperator.Children.Drift
import GatewayOperator.Proofs.Gateway.Basic
import GatewayOperator.Proofs.Kubernetes.ConfigMap
import GatewayOperator.Proofs.Kubernetes.Deployment
import GatewayOperator.Proofs.Kubernetes.Service

namespace GatewayOperator

open Json

theorem ConfigMap.WellFormed.update {existing : ConfigMap} (h : existing.WellFormed)
    (desired : ConfigMap) : (existing.update desired).WellFormed :=
  ⟨⟨h.metadata.carried⟩, h.carried⟩

theorem DeploymentSpec.WellFormed.update {existing desired : DeploymentSpec}
    (h : existing.WellFormed) (hdesired : desired.WellFormed) :
    (Deployment.updateSpec existing desired).WellFormed := by
  have hold : (existing.template.metadata.getD {}).WellFormed := by
    cases hm : existing.template.metadata with
    | none => exact ObjectMeta.wellFormed_of_carried_nil rfl
    | some m => exact h.template.metadata m hm
  refine ⟨hdesired.replicas, hdesired.selector, ⟨?_, hdesired.template.spec⟩, h.carried⟩
  rintro m ⟨rfl⟩
  exact ⟨hold.carried⟩

theorem Deployment.WellFormed.update {existing desired : Deployment} (h : existing.WellFormed)
    (hdesired : desired.WellFormed) : (existing.update desired).WellFormed := by
  refine ⟨⟨h.metadata.carried⟩, ?_, h.carried⟩
  cases hspec : desired.spec with
  | none => simpa [Deployment.update, hspec] using h.spec
  | some spec =>
    have hold : (existing.spec.getD {}).WellFormed := by
      cases hs : existing.spec with
      | none => exact DeploymentSpec.wellFormed_empty
      | some s => exact h.spec s hs
    intro s hs
    simp only [Deployment.update, hspec, Option.mem_def, Option.some.injEq] at hs
    exact hs ▸ hold.update (hdesired.spec spec hspec)

theorem Service.WellFormed.update {existing desired : Service} (h : existing.WellFormed)
    (hdesired : desired.WellFormed) : (existing.update desired).WellFormed := by
  refine ⟨⟨h.metadata.carried⟩, ?_, h.carried⟩
  have hold : (existing.spec.getD {}).WellFormed := by
    cases hs : existing.spec with
    | none => exact ServiceSpec.wellFormed_empty
    | some s => exact h.spec s hs
  rintro s ⟨rfl⟩
  refine ⟨fun ports hports => ?_, hold.carried⟩
  obtain ⟨spec, hspec, hports⟩ := Option.bind_eq_some_iff.mp hports
  exact (hdesired.spec spec hspec).ports ports hports

theorem GatewaySpec.eq_ofSpec_of_render {spec : GatewaySpec} {rendered : RenderedConfig}
    (h : spec.render = .ok rendered) : rendered = .ofSpec spec := by
  unfold render at h
  cases hcheck : spec.check with
  | error fault => simp [hcheck, bind, Except.bind] at h
  | ok kind =>
    simp only [hcheck, bind, Except.bind, pure, Except.pure, Except.ok.injEq] at h
    exact h.symm

namespace Children

variable {g : Gateway} {rendered : RenderedConfig} {settings : ProxySettings} {c : Children}

theorem ofGateway_eq_ok (h : ofGateway g rendered settings = .ok c) :
    ∃ ns owner, g.metadata.ns = some ns ∧
      c.configMap = configMapFor (objectMeta g.name ns owner (configMapName g.name)) rendered ∧
      c.deployment = deploymentFor (objectMeta g.name ns owner g.name) g rendered settings ∧
      c.service = serviceFor (objectMeta g.name ns owner g.name) g := by
  unfold ofGateway at h
  split at h
  · cases h
  · cases h
  next ns owner hns _ =>
    cases h
    exact ⟨ns, owner, hns, rfl, rfl, rfl⟩

theorem wellFormed_container (hport : Faithful readInt32 int g.spec.port) :
    (container g settings).WellFormed Schema.containerCarried := by
  refine ⟨?_, ?_, Schema.carries_nil (by decide)⟩
  · rintro ports ⟨rfl⟩ p hp
    rw [List.mem_singleton] at hp
    subst hp
    exact ⟨hport, by simp⟩
  · rintro mounts ⟨rfl⟩ m hm
    rw [List.mem_singleton] at hm
    subst hm
    exact ⟨Schema.carries_nil (by decide)⟩

theorem wellFormed_volume (gatewayName : String) : (volume gatewayName).WellFormed := by
  refine ⟨?_, Schema.carries_nil (by decide)⟩
  rintro v ⟨rfl⟩
  exact ⟨Schema.carries_nil (by decide)⟩

theorem wellFormed_podTemplate (hport : Faithful readInt32 int g.spec.port) :
    (podTemplate g rendered settings).WellFormed := by
  constructor
  · rintro m ⟨rfl⟩
    exact ObjectMeta.wellFormed_of_carried_nil rfl
  · rintro p ⟨rfl⟩
    refine ⟨?_, by simp, by simp, ?_, Schema.carries_nil (by decide)⟩
    · intro c hc
      rw [List.mem_singleton] at hc
      exact hc ▸ wellFormed_container hport
    · rintro vs ⟨rfl⟩ v hv
      rw [List.mem_singleton] at hv
      exact hv ▸ wellFormed_volume g.name

-- Each child reads back from what is written for it.
structure WellFormed (c : Children) : Prop where
  configMap : c.configMap.WellFormed
  deployment : c.deployment.WellFormed
  service : c.service.WellFormed

theorem wellFormed_ofGateway (hg : g.WellFormed) (h : ofGateway g rendered settings = .ok c) :
    c.WellFormed := by
  obtain ⟨ns, owner, -, hconfigMap, hdeployment, hservice⟩ := ofGateway_eq_ok h
  have hport := hg.spec.port
  refine ⟨hconfigMap ▸ ?_, hdeployment ▸ ?_, hservice ▸ ?_⟩
  · exact ⟨ObjectMeta.wellFormed_of_carried_nil rfl, Schema.carries_nil (by decide)⟩
  · refine ⟨ObjectMeta.wellFormed_of_carried_nil rfl, ?_, Schema.carries_nil (by decide)⟩
    rintro s ⟨rfl⟩
    refine ⟨?_, ⟨Schema.carries_nil (by decide)⟩, wellFormed_podTemplate hport,
      Schema.carries_nil (by decide)⟩
    rintro n ⟨rfl⟩
    exact (faithful_int_iff _ _ _).mpr (by decide)
  · refine ⟨ObjectMeta.wellFormed_of_carried_nil rfl, ?_, Schema.carries_nil (by decide)⟩
    rintro s ⟨rfl⟩
    refine ⟨?_, Schema.carries_nil (by decide)⟩
    rintro ports ⟨rfl⟩ p hp
    rw [List.mem_singleton] at hp
    subst hp
    refine ⟨hport, ?_, by simp⟩
    rintro r ⟨rfl⟩
    exact hport

end Children

end GatewayOperator
