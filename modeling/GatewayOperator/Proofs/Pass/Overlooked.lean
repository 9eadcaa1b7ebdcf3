import GatewayOperator.Proofs.Children.Comparison
import GatewayOperator.Proofs.Children.WellFormed
import GatewayOperator.Proofs.Pass.Repeat

namespace GatewayOperator

open Children

-- A container but for the lists whose order does not count
def Container.unlisted (c : Container) : Container := { c with env := none, envFrom := none }

def PodSpec.unlisted (p : PodSpec) : PodSpec :=
  { p with containers := p.containers.modifyHead Container.unlisted }

def Deployment.unlisted (d : Deployment) : Deployment :=
  { d with spec := d.spec.map fun s =>
      { s with template.spec := s.template.spec.map PodSpec.unlisted } }

-- Two deployments that are the same up to the order of the variables and of the imports of their
-- first containers
structure Deployment.Reordered (a b : Deployment) : Prop where
  env : Option.Rel List.Perm (a.firstContainer?.bind (·.env)) (b.firstContainer?.bind (·.env))
  envFrom : Option.Rel List.Perm (a.firstContainer?.bind (·.envFrom))
    (b.firstContainer?.bind (·.envFrom))
  rest : a.unlisted = b.unlisted

-- What an update overwrites in a deployment, but for the lists whose order does not count
def Deployment.overwritten (d : Deployment) :
    Option (Option Int × LabelSelector × Option PodSpec) :=
  d.spec.map fun s => (s.replicas, s.selector, s.template.spec.map PodSpec.unlisted)

def Service.ports? (s : Service) : Option (List ServicePort) := s.spec.bind ServiceSpec.ports

namespace Kind

-- Two objects of a kind that are the same, up to the order of lists whose order does not count
def Reordered : (k : Kind) → k.Object → k.Object → Prop
  | gateway, a, b => a = b
  | configMap, a, b => a = b
  | deployment, a, b => Deployment.Reordered a b
  | service, a, b => a = b

-- Two objects of a kind that agree in all that an update overwrites
def Agree : (k : Kind) → k.Object → k.Object → Prop
  | gateway, a, b => a = b
  | configMap, a, b => ConfigMap.data a = ConfigMap.data b
  | deployment, a, b => Deployment.overwritten a = Deployment.overwritten b
  | service, a, b => Service.ports? a = Service.ports? b

end Kind

namespace Children

variable {g : Gateway} {rendered : RenderedConfig} {settings : ProxySettings} {c : Children}

theorem eq_update_configMap_iff (h : ofGateway g rendered settings = .ok c)
    {existing : ConfigMap} (hdrifted : existing.drifted c.configMap = false) :
    existing = existing.update c.configMap ↔ existing.data = c.configMap.data := by
  obtain ⟨ns, owner, -, hconfigMap, -, -⟩ := ofGateway_eq_ok h
  rw [hconfigMap] at hdrifted ⊢
  obtain ⟨-, hlabels⟩ := (ConfigMap.drifted_eq_false_iff _ _).mp hdrifted
  have hown := Labels.merge_of_present_singleton hlabels
  obtain ⟨metadata, data, carried⟩ := existing
  simp only [ConfigMap.update, configMapFor, objectMeta, appLabels] at hown ⊢
  simp [hown]

-- A deployment that is taken to be in place has pods with metadata, and what an update merges into
-- them is there already: the rest is overwritten.
theorem update_deployment_of_not_drifted (h : ofGateway g rendered settings = .ok c)
    {existing : Deployment} (hdrifted : existing.drifted c.deployment = false) :
    ∃ old new, existing.spec = some old ∧ c.deployment.spec = some new ∧
      existing.update c.deployment = { existing with
        spec := some ⟨new.replicas, new.selector, ⟨old.template.metadata, new.template.spec⟩,
          old.carried⟩ } := by
  obtain ⟨ns, owner, -, -, hdeployment, -⟩ := ofGateway_eq_ok h
  rw [hdeployment] at hdrifted ⊢
  obtain ⟨hlabels, hpodLabels, hannotations, first, hfirst, -⟩ :=
    (Deployment.drifted_eq_false_iff existing rfl).mp hdrifted
  have hown := Labels.merge_of_present_singleton hlabels
  have hpods := Labels.merge_of_present_singleton hpodLabels
  have hnotes := Labels.merge_of_present_singleton hannotations
  obtain ⟨metadata, spec, carried⟩ := existing
  cases spec with
  | none => cases hfirst
  | some old =>
    refine ⟨old, _, rfl, rfl, ?_⟩
    obtain ⟨replicas, selector, ⟨podMetadata, pods⟩, more⟩ := old
    cases podMetadata with
    | none => cases hpods
    | some podMetadata =>
      simp only [Deployment.podMetadata, Option.bind_some, Option.getD_some] at hpods hnotes
      simp [Deployment.update, Deployment.updateSpec, deploymentFor, podTemplate, objectMeta,
        appLabels, hown, hpods, hnotes]

theorem reordered_update_deployment_iff (h : ofGateway g rendered settings = .ok c)
    {existing : Deployment} (hdrifted : existing.drifted c.deployment = false) :
    existing.Reordered (existing.update c.deployment) ↔
      existing.overwritten = c.deployment.overwritten := by
  obtain ⟨ns, owner, -, -, hdeployment, -⟩ := ofGateway_eq_ok h
  have hdesired : c.deployment.firstContainer? = some (container g settings) := by
    rw [hdeployment]
    rfl
  obtain ⟨-, -, -, first, hfirst, hcontainer⟩ :=
    (Deployment.drifted_eq_false_iff existing hdesired).mp hdrifted
  obtain ⟨henv, henvFrom, -, -⟩ := (Container.drifted_eq_false_iff first _).mp hcontainer
  obtain ⟨old, new, hold, hnew, hupdate⟩ := update_deployment_of_not_drifted h hdrifted
  have hnext : (existing.update c.deployment).firstContainer? = some (container g settings) := by
    rw [← hdesired, hupdate, Deployment.firstContainer?, Deployment.firstContainer?, hnew]
    rfl
  have hrest : existing.unlisted = (existing.update c.deployment).unlisted ↔
      existing.overwritten = c.deployment.overwritten := by
    rw [hupdate]
    simp [Deployment.unlisted, Deployment.overwritten, hold, hnew, Deployment.mk.injEq]
  constructor
  · intro hreordered
    exact hrest.mp hreordered.rest
  · -- the lists that are left out of the comparison were compared by the test for a drift
    intro hagree
    refine ⟨?_, ?_, hrest.mpr hagree⟩
    · rw [hfirst, hnext]
      exact rel_of_optionalEqual (fun _ _ => perm_of_sortedEqual) henv
    · rw [hfirst, hnext]
      exact rel_of_optionalEqual (fun _ _ => perm_of_sortedEqual) henvFrom

theorem eq_update_service_iff (h : ofGateway g rendered settings = .ok c) {existing : Service}
    (hdrifted : existing.drifted c.service = false) :
    existing = existing.update c.service ↔ existing.ports? = c.service.ports? := by
  obtain ⟨ns, owner, -, -, -, hservice⟩ := ofGateway_eq_ok h
  rw [hservice] at hdrifted ⊢
  obtain ⟨hlabels, hport⟩ := (Service.drifted_eq_false_iff _ _).mp hdrifted
  have hown := Labels.merge_of_present_singleton hlabels
  obtain ⟨metadata, spec, carried⟩ := existing
  cases spec with
  | none => cases hport
  | some old =>
    obtain ⟨type, selector, ports, more⟩ := old
    simp only [Service.update, serviceFor, objectMeta, appLabels] at hown ⊢
    simp [Service.ports?, hown]

end Children

namespace Stage

variable {σ : Type} {handler : Program.Handler σ} {s t : σ} {st : Stage} {ns : String}

-- For every store, in every state of it, and every child of a gateway: if the stage leaves the
-- child alone, then the update would have left it as it is, up to the order of variables and
-- imports, exactly when the child agrees with what is desired in all that the update overwrites.
theorem reordered_update_iff_of_unchanged {g : Gateway} {rendered : RenderedConfig}
    {settings : ProxySettings} {c : Children} (h : ofGateway g rendered settings = .ok c)
    (hst : st ∈ c.stages) (hrun : (st.apply ns).run handler s = (some (.ok .unchanged), t)) :
    ∃ existing, handler (.get st.kind ns st.name) s = (some (.ok (some existing)), t) ∧
      (st.kind.Reordered existing (st.update existing) ↔ st.kind.Agree existing st.desired) := by
  obtain ⟨existing, hget, hdrifted⟩ := run_apply_eq_unchanged_iff.mp hrun
  refine ⟨existing, hget, ?_⟩
  simp only [stages, List.mem_cons, List.not_mem_nil, or_false] at hst
  rcases hst with rfl | rfl | rfl
  · exact eq_update_configMap_iff h hdrifted
  · exact reordered_update_deployment_iff h hdrifted
  · exact eq_update_service_iff h hdrifted

def freshOwner : OwnerReference := ⟨apiVersion, none, some true, Gateway.kind, "gw", "1"⟩

def freshDeployment : Deployment :=
  deploymentFor (objectMeta "gw" "default" freshOwner "gw") Operator.freshGateway
    (.ofSpec Operator.freshGateway.spec) {}

def deploymentStage : Stage :=
  { kind := .deployment, desired := freshDeployment,
    drifted := fun existing => Deployment.drifted existing freshDeployment,
    update := fun existing => Deployment.update existing freshDeployment }

-- The deployment of the gateway after somebody has replaced the command of its container
def idleDeployment : Deployment :=
  let idle (c : Container) : Container := { c with command := some ["sleep", "infinity"] }
  { freshDeployment with spec := freshDeployment.spec.map fun s =>
      { s with template.spec := s.template.spec.map fun p =>
          { p with containers := p.containers.modifyHead idle } } }

def idleStore : MemoryStore := ({} : MemoryStore).insert .deployment idleDeployment

theorem deploymentStage_mem :
    ∃ c, ofGateway Operator.freshGateway (.ofSpec Operator.freshGateway.spec) {} = .ok c ∧
      deploymentStage ∈ c.stages :=
  ⟨_, rfl, List.mem_cons_of_mem _ List.mem_cons_self⟩

theorem handle_get_idleStore :
    MemoryStore.handle (.get .deployment "default" "gw") idleStore =
      (some (.ok (some idleDeployment)), idleStore) :=
  rfl

theorem run_apply_idleStore :
    (deploymentStage.apply "default").run MemoryStore.handle idleStore =
      (some (.ok .unchanged), idleStore) :=
  run_apply_eq_unchanged_iff.mpr
    ⟨idleDeployment, handle_get_idleStore, freshDeployment.drifted_self⟩

theorem reordered_update_idle_iff :
    ∃ c, ofGateway Operator.freshGateway (.ofSpec Operator.freshGateway.spec) {} = .ok c ∧
      deploymentStage ∈ c.stages ∧
      ∃ existing, MemoryStore.handle (.get .deployment "default" "gw") idleStore =
          (some (.ok (some existing)), idleStore) ∧
        (Kind.Reordered .deployment existing (deploymentStage.update existing) ↔
          Kind.Agree .deployment existing freshDeployment) := by
  obtain ⟨c, hc, hst⟩ := deploymentStage_mem
  exact ⟨c, hc, hst, reordered_update_iff_of_unchanged hc hst run_apply_idleStore⟩

-- The stage leaves this deployment alone, but an update would bring the command back.
theorem unchanged_of_idle :
    ∃ c, ofGateway Operator.freshGateway (.ofSpec Operator.freshGateway.spec) {} = .ok c ∧
      deploymentStage ∈ c.stages ∧
      (deploymentStage.apply "default").run MemoryStore.handle idleStore =
        (some (.ok .unchanged), idleStore) ∧
      MemoryStore.handle (.get .deployment "default" "gw") idleStore =
        (some (.ok (some idleDeployment)), idleStore) ∧
      ¬ Deployment.Reordered idleDeployment (deploymentStage.update idleDeployment) := by
  obtain ⟨c, hc, hst⟩ := deploymentStage_mem
  refine ⟨c, hc, hst, run_apply_idleStore, handle_get_idleStore, fun hreordered => ?_⟩
  have hcommand := congrArg (fun d => d.firstContainer?.bind (·.command)) hreordered.rest
  have hne : some ["sleep", "infinity"] ≠ (container Operator.freshGateway {}).command := by decide
  exact hne hcommand

end Stage

end GatewayOperator
