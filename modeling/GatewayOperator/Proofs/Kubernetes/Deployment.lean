import GatewayOperator.Kubernetes.Deployment
import GatewayOperator.Proofs.Kubernetes.Env
import GatewayOperator.Proofs.Kubernetes.Meta

namespace GatewayOperator

open Json

namespace ContainerPort

structure WellFormed (p : ContainerPort) : Prop where
  containerPort : Faithful readInt32 int p.containerPort
  hostPort : ∀ n ∈ p.hostPort, Faithful readInt32 int n

theorem WellFormed.faithful {p : ContainerPort} (h : p.WellFormed) : Faithful read toJson p := by
  refine faithful_record rfl ?_
  have hport := h.containerPort.valueOf?_orEmpty 0 (some 0)
  have hhost := valueOf?_optional h.hostPort
  simp [hport, hhost]

theorem ensures_wellFormed : Ensures read WellFormed := by
  intro j p h
  obtain ⟨fields, hfields⟩ := exists_of_readRecord h
  simp only [Gathered.value?_seq, Gathered.value?_map, Fields.value?_orEmpty,
    Fields.value?_optional, Option.bind_map, Option.bind_assoc, Function.comp_def,
    Option.bind_eq_some_iff, Option.map_eq_some_iff] at hfields
  obtain ⟨port, hport, -, -, host, hhost, -, -, -, -, rfl⟩ := hfields
  have hint32 : Lossless readInt32 int := lossless_int _ _
  exact ⟨hint32.orEmpty ((faithful_int_iff _ _ _).mpr (by decide)) hport, hint32.optional hhost⟩

end ContainerPort

namespace VolumeMount

structure WellFormed (m : VolumeMount) : Prop where
  carried : Schema.Carries carriedAttributes m.carried

theorem WellFormed.faithful {m : VolumeMount} (h : m.WellFormed) : Faithful read toJson m := by
  refine faithful_record rfl ?_
  simp (disch := decide) [h.carried.get?_insertAll]
  exact ⟨_, h.carried.readFields_insertAll (by decide) (by simp only [List.map]; decide), rfl⟩

theorem ensures_wellFormed : Ensures read WellFormed := by
  intro j m h
  obtain ⟨fields, hfields⟩ := exists_of_readRecord h
  simp only [Gathered.value?_seq, Gathered.value?_map, Option.bind_map, Option.bind_assoc,
    Function.comp_def, Option.bind_eq_some_iff, Option.map_eq_some_iff] at hfields
  obtain ⟨-, -, -, -, -, -, carried, hcarried, rfl⟩ := hfields
  exact ⟨Schema.carries_of_read (by decide) hcarried⟩

end VolumeMount

namespace Container

structure WellFormed (attributes : Schema.Attributes) (c : Container) : Prop where
  ports : ∀ ports ∈ c.ports, ∀ p ∈ ports, p.WellFormed
  volumeMounts : ∀ mounts ∈ c.volumeMounts, ∀ m ∈ mounts, m.WellFormed
  carried : Schema.Carries attributes c.carried

theorem WellFormed.faithful_carrying {attributes : Schema.Attributes} {c : Container}
    (h : c.WellFormed attributes) (hs : Schema.soundFields attributes = true)
    (hnames : ∀ name ∈ Schema.names attributes,
      name ∉ ["command", "env", "envFrom", "image", "name", "ports", "volumeMounts"]) :
    Faithful (readCarrying attributes) toJson c := by
  refine faithful_record rfl ?_
  have hown : ∀ name ∈ ["command", "env", "envFrom", "image", "name", "ports", "volumeMounts"],
      name ∉ Schema.names attributes := fun name hname hcarried => hnames name hcarried hname
  simp only [List.forall_mem_cons] at hown
  have hports := valueOf?_optional fun ports hp =>
    faithful_list fun p hm => (h.ports ports hp p hm).faithful
  have hmounts := valueOf?_optional fun mounts hp =>
    faithful_list fun m hm => (h.volumeMounts mounts hp m hm).faithful
  have henv := valueOf?_optional fun vars (_ : vars ∈ c.env) => faithful_list fun v _ => v.faithful
  have henvFrom := valueOf?_optional fun imports (_ : imports ∈ c.envFrom) =>
    faithful_list fun i _ => i.faithful
  simp [h.carried.get?_insertAll, hown, hports, hmounts, henv, henvFrom]
  exact ⟨_, h.carried.readFields_insertAll hs hnames, rfl⟩

theorem ensures_wellFormed {attributes : Schema.Attributes}
    (hs : Schema.soundFields attributes = true) :
    Ensures (readCarrying attributes) (WellFormed attributes) := by
  intro j c h
  obtain ⟨fields, hfields⟩ := exists_of_readRecord h
  simp only [Gathered.value?_seq, Gathered.value?_map, Fields.value?_optional, Option.bind_map,
    Option.bind_assoc, Function.comp_def, Option.bind_eq_some_iff, Option.map_eq_some_iff]
    at hfields
  obtain ⟨-, -, -, -, -, -, ports, hports, mounts, hmounts, -, -, -, -, carried, hcarried, rfl⟩ :=
    hfields
  exact ⟨ContainerPort.ensures_wellFormed.list.optional hports,
    VolumeMount.ensures_wellFormed.list.optional hmounts, Schema.carries_of_read hs hcarried⟩

theorem WellFormed.faithful {c : Container} (h : c.WellFormed Schema.containerCarried) :
    Faithful read toJson c :=
  h.faithful_carrying (by decide) (by decide)

theorem WellFormed.faithful_ephemeral {c : Container}
    (h : c.WellFormed Schema.ephemeralContainerCarried) : Faithful readEphemeral toJson c :=
  h.faithful_carrying (by decide) (by decide)

end Container

namespace ConfigMapVolume

structure WellFormed (v : ConfigMapVolume) : Prop where
  carried : Schema.Carries carriedAttributes v.carried

theorem WellFormed.faithful {v : ConfigMapVolume} (h : v.WellFormed) : Faithful read toJson v := by
  refine faithful_record rfl ?_
  simp (disch := decide) [h.carried.get?_insertAll]
  exact ⟨_, h.carried.readFields_insertAll (by decide) (by simp only [List.map]; decide), rfl⟩

theorem ensures_wellFormed : Ensures read WellFormed := by
  intro j v h
  obtain ⟨fields, hfields⟩ := exists_of_readRecord h
  simp only [Gathered.value?_seq, Gathered.value?_map, Option.bind_map, Function.comp_def,
    Option.bind_eq_some_iff, Option.map_eq_some_iff] at hfields
  obtain ⟨-, -, carried, hcarried, rfl⟩ := hfields
  exact ⟨Schema.carries_of_read (by decide) hcarried⟩

end ConfigMapVolume

namespace Volume

structure WellFormed (v : Volume) : Prop where
  configMap : ∀ c ∈ v.configMap, c.WellFormed
  carried : Schema.Carries Schema.volumeSources v.carried

theorem WellFormed.faithful {v : Volume} (h : v.WellFormed) : Faithful read toJson v := by
  refine faithful_record rfl ?_
  have hconfigMap := valueOf?_optional fun c hc => (h.configMap c hc).faithful
  simp (disch := decide) [h.carried.get?_insertAll, hconfigMap]
  exact ⟨_, h.carried.readFields_insertAll (by decide) (by simp only [List.map]; decide), rfl⟩

theorem ensures_wellFormed : Ensures read WellFormed := by
  intro j v h
  obtain ⟨fields, hfields⟩ := exists_of_readRecord h
  simp only [Gathered.value?_seq, Gathered.value?_map, Fields.value?_optional, Option.bind_map,
    Option.bind_assoc, Function.comp_def, Option.bind_eq_some_iff, Option.map_eq_some_iff]
    at hfields
  obtain ⟨-, -, configMap, hconfigMap, carried, hcarried, rfl⟩ := hfields
  exact ⟨ConfigMapVolume.ensures_wellFormed.optional hconfigMap,
    Schema.carries_of_read (by decide) hcarried⟩

end Volume

namespace PodSpec

structure WellFormed (p : PodSpec) : Prop where
  containers : ∀ c ∈ p.containers, c.WellFormed Schema.containerCarried
  initContainers : ∀ cs ∈ p.initContainers, ∀ c ∈ cs, c.WellFormed Schema.containerCarried
  ephemeralContainers : ∀ cs ∈ p.ephemeralContainers, ∀ c ∈ cs,
    c.WellFormed Schema.ephemeralContainerCarried
  volumes : ∀ vs ∈ p.volumes, ∀ v ∈ vs, v.WellFormed
  carried : Schema.Carries Schema.podCarried p.carried

theorem WellFormed.faithful {p : PodSpec} (h : p.WellFormed) : Faithful read toJson p := by
  refine faithful_record rfl ?_
  have hcontainers := (faithful_list fun c hc => (h.containers c hc).faithful).valueOf?_orEmpty []
  have hinit := valueOf?_optional fun cs hcs =>
    faithful_list fun c hc => (h.initContainers cs hcs c hc).faithful
  have hephemeral := valueOf?_optional fun cs hcs =>
    faithful_list fun c hc => (h.ephemeralContainers cs hcs c hc).faithful_ephemeral
  have hvolumes := valueOf?_optional fun vs hvs =>
    faithful_list fun v hv => (h.volumes vs hvs v hv).faithful
  simp (disch := decide) [h.carried.get?_insertAll, hcontainers, hinit, hephemeral, hvolumes]
  exact ⟨_, h.carried.readFields_insertAll (by decide) (by simp only [List.map]; decide), rfl⟩

theorem ensures_wellFormed : Ensures read WellFormed := by
  intro j p h
  obtain ⟨fields, hfields⟩ := exists_of_readRecord h
  simp only [Gathered.value?_seq, Gathered.value?_map, Fields.value?_orEmpty,
    Fields.value?_optional, Option.bind_map, Option.bind_assoc, Function.comp_def,
    Option.bind_eq_some_iff, Option.map_eq_some_iff] at hfields
  obtain ⟨containers, hcontainers, init, hinit, ephemeral, hephemeral, volumes, hvolumes, carried,
    hcarried, rfl⟩ := hfields
  have hread : Ensures Container.read _ := Container.ensures_wellFormed (by decide)
  have hreadEphemeral : Ensures Container.readEphemeral _ :=
    Container.ensures_wellFormed (by decide)
  exact ⟨hread.list.orEmpty (by simp) hcontainers, hread.list.optional hinit,
    hreadEphemeral.list.optional hephemeral, Volume.ensures_wellFormed.list.optional hvolumes,
    Schema.carries_of_read (by decide) hcarried⟩

end PodSpec

namespace PodTemplate

structure WellFormed (t : PodTemplate) : Prop where
  metadata : ∀ m ∈ t.metadata, m.WellFormed
  spec : ∀ p ∈ t.spec, p.WellFormed

theorem WellFormed.faithful {t : PodTemplate} (h : t.WellFormed) : Faithful read toJson t := by
  refine faithful_record rfl ?_
  have hmetadata := valueOf?_optional fun m hm => (h.metadata m hm).faithful
  have hspec := valueOf?_optional fun p hp => (h.spec p hp).faithful
  simp [hmetadata, hspec]

theorem ensures_wellFormed : Ensures read WellFormed := by
  intro j t h
  obtain ⟨fields, hfields⟩ := exists_of_readRecord h
  simp only [Gathered.value?_seq, Gathered.value?_map, Fields.value?_optional, Option.bind_map,
    Function.comp_def, Option.bind_eq_some_iff, Option.map_eq_some_iff] at hfields
  obtain ⟨metadata, hmetadata, spec, hspec, rfl⟩ := hfields
  exact ⟨ObjectMeta.ensures_wellFormed.optional hmetadata,
    PodSpec.ensures_wellFormed.optional hspec⟩

end PodTemplate

namespace DeploymentSpec

structure WellFormed (s : DeploymentSpec) : Prop where
  replicas : ∀ n ∈ s.replicas, Faithful readInt32 int n
  selector : s.selector.WellFormed
  template : s.template.WellFormed
  carried : Schema.Carries Schema.deploymentSpecCarried s.carried

theorem WellFormed.faithful {s : DeploymentSpec} (h : s.WellFormed) : Faithful read toJson s := by
  refine faithful_record rfl ?_
  have hreplicas := valueOf?_optional h.replicas
  have hselector := h.selector.faithful.valueOf?_orEmpty {}
  have htemplate := h.template.faithful.valueOf?_orEmpty {}
  simp (disch := decide) [h.carried.get?_insertAll, hreplicas, hselector, htemplate]
  exact ⟨_, h.carried.readFields_insertAll (by decide) (by simp only [List.map]; decide), rfl⟩

theorem wellFormed_empty : ({} : DeploymentSpec).WellFormed :=
  ⟨by simp, ⟨Schema.carries_nil (by decide)⟩, ⟨by simp, by simp⟩, Schema.carries_nil (by decide)⟩

theorem ensures_wellFormed : Ensures read WellFormed := by
  intro j s h
  obtain ⟨fields, hfields⟩ := exists_of_readRecord h
  simp only [Gathered.value?_seq, Gathered.value?_map, Fields.value?_orEmpty,
    Fields.value?_optional, Option.bind_map, Option.bind_assoc, Function.comp_def,
    Option.bind_eq_some_iff, Option.map_eq_some_iff] at hfields
  obtain ⟨replicas, hreplicas, selector, hselector, template, htemplate, carried, hcarried, rfl⟩ :=
    hfields
  have hint32 : Lossless readInt32 int := lossless_int _ _
  exact ⟨hint32.optional hreplicas,
    LabelSelector.ensures_wellFormed.orEmpty wellFormed_empty.selector hselector,
    PodTemplate.ensures_wellFormed.orEmpty wellFormed_empty.template htemplate,
    Schema.carries_of_read (by decide) hcarried⟩

end DeploymentSpec

namespace Deployment

structure WellFormed (d : Deployment) : Prop where
  metadata : d.metadata.WellFormed
  spec : ∀ s ∈ d.spec, s.WellFormed
  carried : Schema.Carries carriedAttributes d.carried

theorem WellFormed.faithful {d : Deployment} (h : d.WellFormed) : Faithful read toJson d := by
  refine faithful_record rfl ?_
  have hmetadata := h.metadata.faithful.valueOf?_orEmpty {}
  have hspec := valueOf?_optional fun s hs => (h.spec s hs).faithful
  simp (disch := decide) [h.carried.get?_insertAll, hmetadata, hspec]
  exact ⟨_, h.carried.readFields_insertAll (by decide) (by simp only [List.map]; decide), rfl⟩

theorem ensures_wellFormed : Ensures read WellFormed := by
  intro j d h
  obtain ⟨fields, hfields⟩ := exists_of_readRecord h
  simp only [Gathered.value?_seq, Gathered.value?_map, Fields.value?_orEmpty,
    Fields.value?_optional, Option.bind_map, Option.bind_assoc, Function.comp_def,
    Option.bind_eq_some_iff, Option.map_eq_some_iff] at hfields
  obtain ⟨-, -, metadata, hmetadata, spec, hspec, carried, hcarried, rfl⟩ := hfields
  exact ⟨ObjectMeta.ensures_wellFormed.orEmpty (ObjectMeta.wellFormed_of_carried_nil rfl) hmetadata,
    DeploymentSpec.ensures_wellFormed.optional hspec, Schema.carries_of_read (by decide) hcarried⟩

end Deployment

end GatewayOperator
