import GatewayOperator.Kubernetes.ConfigMap
import GatewayOperator.Proofs.Kubernetes.Meta

namespace GatewayOperator.ConfigMap

open Json

structure WellFormed (c : ConfigMap) : Prop where
  metadata : c.metadata.WellFormed
  carried : Schema.Carries carriedAttributes c.carried

theorem WellFormed.faithful {c : ConfigMap} (h : c.WellFormed) : Faithful read toJson c := by
  refine faithful_record rfl ?_
  have hmetadata := h.metadata.faithful.valueOf?_orEmpty {}
  simp (disch := decide) [h.carried.get?_insertAll, hmetadata]
  exact ⟨_, h.carried.readFields_insertAll (by decide) (by simp only [List.map]; decide), rfl⟩

theorem ensures_wellFormed : Ensures read WellFormed := by
  intro j c h
  obtain ⟨fields, hfields⟩ := exists_of_readRecord h
  simp only [Gathered.value?_seq, Gathered.value?_map, Fields.value?_orEmpty, Option.bind_map,
    Option.bind_assoc, Function.comp_def, Option.bind_eq_some_iff, Option.map_eq_some_iff]
    at hfields
  obtain ⟨-, -, metadata, hmetadata, -, -, carried, hcarried, rfl⟩ := hfields
  exact ⟨ObjectMeta.ensures_wellFormed.orEmpty (ObjectMeta.wellFormed_of_carried_nil rfl) hmetadata,
    Schema.carries_of_read (by decide) hcarried⟩

end GatewayOperator.ConfigMap
