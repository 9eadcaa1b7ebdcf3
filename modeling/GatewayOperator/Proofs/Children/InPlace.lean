import GatewayOperator.Proofs.Children.Drift
import GatewayOperator.Proofs.Children.ListEquality
import GatewayOperator.Proofs.Children.WellFormed

namespace GatewayOperator

open Children

-- A label or annotation that stands in a map, if there is a map
def Labels.Holds (m : Option Labels.Map) (key value : String) : Prop :=
  (m.bind (·.get? key)) = some value

theorem Labels.holds_of_present_singleton {m : Option Map} {key value : String}
    (h : present m (.singleton key value) = true) : Holds m key value :=
  (present_iff m _).mp h key value (by simp)

-- A container in its image, the numbers of its ports, its variables name by name, and its imports
-- in any order
structure Container.Matches (c desired : Container) : Prop where
  image : c.image = desired.image
  ports : c.portNumbers = desired.portNumbers
  env : Option.Rel (fun a b : List EnvVar =>
    ∀ name, a.filter (fun v => v.name = name) = b.filter fun v => v.name = name) c.env desired.env
  envFrom : Option.Rel List.Perm c.envFrom desired.envFrom

theorem Container.matches_of_not_drifted {c desired : Container} (h : c.drifted desired = false) :
    c.Matches desired := by
  obtain ⟨henv, henvFrom, himage, hports⟩ := (drifted_eq_false_iff c desired).mp h
  exact ⟨himage, hports,
    rel_of_optionalEqual (fun a b => (EnvVar.listsEqual_iff_filter a b).mp) henv,
    rel_of_optionalEqual (fun _ _ hsorted => perm_of_sortedEqual hsorted) henvFrom⟩

-- A config map that holds the configuration of the gateway of that name
structure ConfigMap.Holds (c : ConfigMap) (gatewayName text : String) : Prop where
  label : Labels.Holds c.metadata.labels appLabel gatewayName
  file : c.configFile? = some text

-- A deployment that runs the proxy of a gateway with the configuration of that hash
structure Deployment.Runs (d : Deployment) (g : Gateway) (settings : ProxySettings)
    (hash : String) : Prop where
  label : Labels.Holds d.metadata.labels appLabel g.name
  podLabel : Labels.Holds d.podMetadata.labels appLabel g.name
  podHash : Labels.Holds d.podMetadata.annotations configHashAnnotation hash
  container : ∃ first, d.firstContainer? = some first ∧ first.Matches (container g settings)

-- A service in front of the proxy of a gateway
structure Service.Exposes (s : Service) (g : Gateway) : Prop where
  label : Labels.Holds s.metadata.labels appLabel g.name
  port : s.firstPort? = some g.spec.port

namespace Children

variable {g : Gateway} {rendered : RenderedConfig} {settings : ProxySettings} {c : Children}

theorem holds_of_not_drifted (h : ofGateway g rendered settings = .ok c) {existing : ConfigMap}
    (hdrifted : existing.drifted c.configMap = false) : existing.Holds g.name rendered.data := by
  obtain ⟨ns, owner, -, hconfigMap, -, -⟩ := ofGateway_eq_ok h
  obtain ⟨hfile, hlabels⟩ := (ConfigMap.drifted_eq_false_iff _ _).mp hdrifted
  rw [hconfigMap] at hfile hlabels
  refine ⟨Labels.holds_of_present_singleton hlabels, hfile.trans ?_⟩
  simp [configMapFor, ConfigMap.configFile?]

theorem runs_of_not_drifted (h : ofGateway g rendered settings = .ok c) {existing : Deployment}
    (hdrifted : existing.drifted c.deployment = false) :
    existing.Runs g settings rendered.hash := by
  obtain ⟨ns, owner, -, -, hdeployment, -⟩ := ofGateway_eq_ok h
  rw [hdeployment] at hdrifted
  have hfirst : (deploymentFor (objectMeta g.name ns owner g.name) g rendered
      settings).firstContainer? = some (container g settings) := rfl
  obtain ⟨hlabels, hpodLabels, hannotations, first, hexisting, hcontainer⟩ :=
    (Deployment.drifted_eq_false_iff existing hfirst).mp hdrifted
  exact ⟨Labels.holds_of_present_singleton hlabels, Labels.holds_of_present_singleton hpodLabels,
    Labels.holds_of_present_singleton hannotations, first, hexisting,
    Container.matches_of_not_drifted hcontainer⟩

theorem exposes_of_not_drifted (h : ofGateway g rendered settings = .ok c) {existing : Service}
    (hdrifted : existing.drifted c.service = false) : existing.Exposes g := by
  obtain ⟨ns, owner, -, -, -, hservice⟩ := ofGateway_eq_ok h
  obtain ⟨hlabels, hport⟩ := (Service.drifted_eq_false_iff _ _).mp hdrifted
  rw [hservice] at hlabels hport
  exact ⟨Labels.holds_of_present_singleton hlabels, hport⟩

end Children

end GatewayOperator
