import GatewayOperator.Kind
import GatewayOperator.Pass.Basic
import GatewayOperator.Proofs.Children.WellFormed
import GatewayOperator.Proofs.Dict.Lookup

namespace GatewayOperator

open Children

namespace Labels

variable {own : String} {m n o : Option Map}

-- The value of a label or annotation, if there is a map and the key stands in it
def value? (m : Option Map) (key : String) : Option String := m.bind (·.get? key)

-- Only the value of one key differs, and no key is lost.
structure Keeps (own : String) (before after : Option Map) : Prop where
  foreign : ∀ key ≠ own, value? after key = value? before key
  present : ∀ key, (value? before key).isSome → (value? after key).isSome

theorem Keeps.refl (own : String) (m : Option Map) : Keeps own m m :=
  ⟨fun _ _ => rfl, fun _ => id⟩

theorem Keeps.trans (h : Keeps own m n) (h' : Keeps own n o) : Keeps own m o :=
  ⟨fun key hkey => (h'.foreign key hkey).trans (h.foreign key hkey),
    fun key => h'.present key ∘ h.present key⟩

theorem value?_merge (m : Option Map) (source : Map) (key : String) :
    value? (merge m (some source)) key = (source.get? key).or (value? m key) := by
  rw [value?, merge, Option.bind_some, Dict.get?_merge, Dict.get?_getD_empty]
  rfl

theorem value?_merge_singleton (m : Option Map) (own value key : String) :
    value? (merge m (some (.singleton own value))) key =
      if own = key then some value else value? m key := by
  rw [value?_merge, Dict.get?_singleton]
  split <;> rfl

theorem keeps_merge_singleton (m : Option Map) (own value : String) :
    Keeps own m (merge m (some (.singleton own value))) := by
  refine ⟨fun key hkey => ?_, fun key hpresent => ?_⟩
  · rw [value?_merge_singleton, if_neg (Ne.symm hkey)]
  · rw [value?_merge_singleton]
    split
    · rfl
    · exact hpresent

end Labels

-- All that a pass may write in a config map is its data and one of its labels.
structure ConfigMap.Keeps (before after : ConfigMap) : Prop where
  rest : after = { before with metadata.labels := after.metadata.labels, data := after.data }
  labels : Labels.Keeps appLabel before.metadata.labels after.metadata.labels

-- Of a service, its ports and one of its labels. No spec is as good as an empty one.
structure Service.Keeps (before after : Service) : Prop where
  rest : after = { before with metadata.labels := after.metadata.labels, spec := after.spec }
  spec : after.spec.getD {} = { before.spec.getD {} with ports := (after.spec.getD {}).ports }
  labels : Labels.Keeps appLabel before.metadata.labels after.metadata.labels

-- Of a deployment, the number of its pods, which pods they are and what they run, and one label
-- and one annotation of the pods besides one label of its own.
structure Deployment.Keeps (before after : Deployment) : Prop where
  rest : after = { before with metadata.labels := after.metadata.labels, spec := after.spec }
  spec : after.spec.getD {} =
    { before.spec.getD {} with
      replicas := (after.spec.getD {}).replicas
      selector := (after.spec.getD {}).selector
      template := (after.spec.getD {}).template }
  podMetadata : after.podMetadata =
    { before.podMetadata with
      labels := after.podMetadata.labels, annotations := after.podMetadata.annotations }
  labels : Labels.Keeps appLabel before.metadata.labels after.metadata.labels
  podLabels : Labels.Keeps appLabel before.podMetadata.labels after.podMetadata.labels
  podAnnotations :
    Labels.Keeps configHashAnnotation before.podMetadata.annotations after.podMetadata.annotations

-- Of a gateway, its status.
def Gateway.Keeps (before after : Gateway) : Prop := after = { before with status := after.status }

namespace Kind

def Keeps : (k : Kind) → (before after : k.Object) → Prop
  | gateway => Gateway.Keeps
  | configMap => ConfigMap.Keeps
  | deployment => Deployment.Keeps
  | service => Service.Keeps

theorem Keeps.refl (k : Kind) (object : k.Object) : k.Keeps object object := by
  cases k with
  | gateway => exact rfl
  | configMap => exact ⟨rfl, .refl _ _⟩
  | deployment => exact ⟨rfl, rfl, rfl, .refl _ _, .refl _ _, .refl _ _⟩
  | service => exact ⟨rfl, rfl, .refl _ _⟩

-- In each equation the fields that were written first are written again.
theorem Keeps.trans {k : Kind} {a b c : k.Object} (h : k.Keeps a b) (h' : k.Keeps b c) :
    k.Keeps a c := by
  cases k with
  | gateway =>
    exact Eq.trans h' (congrArg (fun g : Gateway => { g with status := c.status }) h)
  | configMap =>
    refine ⟨h'.rest.trans ?_, h.labels.trans h'.labels⟩
    exact congrArg (fun x : ConfigMap =>
      { x with metadata.labels := c.metadata.labels, data := c.data }) h.rest
  | service =>
    refine ⟨h'.rest.trans ?_, h'.spec.trans ?_, h.labels.trans h'.labels⟩
    · exact congrArg (fun x : Service =>
        { x with metadata.labels := c.metadata.labels, spec := c.spec }) h.rest
    · exact congrArg (fun x : ServiceSpec => { x with ports := (c.spec.getD {}).ports }) h.spec
  | deployment =>
    refine ⟨h'.rest.trans ?_, h'.spec.trans ?_, h'.podMetadata.trans ?_, h.labels.trans h'.labels,
      h.podLabels.trans h'.podLabels, h.podAnnotations.trans h'.podAnnotations⟩
    · exact congrArg (fun x : Deployment =>
        { x with metadata.labels := c.metadata.labels, spec := c.spec }) h.rest
    · exact congrArg (fun x : DeploymentSpec =>
        { x with replicas := (c.spec.getD {}).replicas, selector := (c.spec.getD {}).selector,
                 template := (c.spec.getD {}).template }) h.spec
    · exact congrArg (fun x : ObjectMeta =>
        { x with labels := c.podMetadata.labels, annotations := c.podMetadata.annotations })
        h.podMetadata

-- So the name, the version, the owners, the annotations and the finalizers of an object stay.
theorem Keeps.metadata {k : Kind} {before after : k.Object} (h : k.Keeps before after) :
    k.metadata after = { k.metadata before with labels := (k.metadata after).labels } := by
  cases k with
  | gateway =>
    have hrest : after = { before with status := after.status } := h
    have hmetadata : after.metadata = before.metadata := by rw [hrest]
    exact congrArg (fun m : ObjectMeta => { m with labels := after.metadata.labels }) hmetadata
  | configMap => exact congrArg ConfigMap.metadata h.rest
  | deployment => exact congrArg Deployment.metadata h.rest
  | service => exact congrArg Service.metadata h.rest

end Kind

namespace Children

variable {g : Gateway} {rendered : RenderedConfig} {settings : ProxySettings} {c : Children}

theorem keeps_update (h : ofGateway g rendered settings = .ok c) {st : Stage}
    (hst : st ∈ c.stages) (existing : st.kind.Object) :
    st.kind.Keeps existing (st.update existing) := by
  obtain ⟨ns, owner, -, hconfigMap, hdeployment, hservice⟩ := ofGateway_eq_ok h
  simp only [stages, List.mem_cons, List.not_mem_nil, or_false] at hst
  rcases hst with rfl | rfl | rfl
  · rw [hconfigMap]
    exact ⟨rfl, Labels.keeps_merge_singleton _ _ _⟩
  · rw [hdeployment]
    -- the pods have the same metadata whether there was a spec or not
    have hpods : (existing.update (deploymentFor (objectMeta g.name ns owner g.name) g rendered
        settings)).podMetadata = { existing.podMetadata with
          labels := Labels.merge existing.podMetadata.labels (some (appLabels g.name))
          annotations := Labels.merge existing.podMetadata.annotations
            (some (.singleton configHashAnnotation rendered.hash)) } := by
      cases hspec : existing.spec <;>
        simp [Deployment.podMetadata, Deployment.update, Deployment.updateSpec, deploymentFor,
          podTemplate, hspec]
    refine ⟨rfl, rfl, ?_, Labels.keeps_merge_singleton _ _ _, ?_, ?_⟩
    · exact hpods ▸ rfl
    · exact hpods ▸ Labels.keeps_merge_singleton _ _ _
    · exact hpods ▸ Labels.keeps_merge_singleton _ _ _
  · rw [hservice]
    exact ⟨rfl, rfl, Labels.keeps_merge_singleton _ _ _⟩

end Children

end GatewayOperator
