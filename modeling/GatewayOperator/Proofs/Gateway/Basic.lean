import GatewayOperator.Gateway.Basic
import GatewayOperator.Proofs.Kubernetes.Env
import GatewayOperator.Proofs.Kubernetes.Meta

namespace GatewayOperator

open Json

theorem valueOf?_ofListUnlessEmpty {α : Type} {read : Reader α} {write : α → Json}
    {items : List α} (h : ∀ a ∈ items, Faithful read write a) :
    Fields.valueOf? (readList read) (some []) (ofListUnlessEmpty write items) = some items := by
  cases items with
  | nil => rfl
  | cons a rest => exact (faithful_list h).valueOf?_required (some [])

namespace Condition

structure WellFormed (c : Condition) : Prop where
  lastTransition : c.lastTransition.Proper
  observedGeneration : ∀ n ∈ c.observedGeneration, Faithful readInt64 int n

theorem WellFormed.faithful {c : Condition} (h : c.WellFormed) : Faithful read toJson c := by
  refine faithful_record rfl ?_
  have htime := (faithful_instant h.lastTransition).valueOf?_required none
  have hgeneration := valueOf?_optional h.observedGeneration
  simp [htime, hgeneration]

theorem ensures_wellFormed : Ensures read WellFormed := by
  intro j c h
  obtain ⟨fields, hfields⟩ := exists_of_readRecord h
  simp only [Gathered.value?_seq, Gathered.value?_map, Fields.value?_required,
    Fields.value?_optional, Option.bind_map, Option.bind_assoc, Function.comp_def,
    Option.bind_eq_some_iff, Option.map_eq_some_iff] at hfields
  obtain ⟨-, -, -, -, -, -, -, -, time, htime, generation, hgeneration, rfl⟩ := hfields
  have hproper : Ensures Instant.read Instant.Proper := fun _ _ => Instant.proper_of_read
  exact ⟨hproper.required htime, (lossless_int _ _).optional hgeneration⟩

end Condition

theorem Model.faithful (m : Model) : Faithful read toJson m :=
  Schema.faithful_readStrict rfl (by simp [(faithful_string m.name).valueOf?_required none])

namespace GatewaySpec

structure WellFormed (s : GatewaySpec) : Prop where
  port : Faithful readInt32 int s.port

theorem WellFormed.faithful {s : GatewaySpec} (h : s.WellFormed) : Faithful read toJson s := by
  refine Schema.faithful_readStrict rfl ?_
  have hport := h.port.valueOf?_required (some defaultPort)
  have hmodels :=
    (faithful_list fun m (_ : m ∈ s.models) => m.faithful).valueOf?_required (some [])
  have henv := valueOf?_ofListUnlessEmpty fun v (_ : v ∈ s.env) => v.faithful
  have henvFrom := valueOf?_ofListUnlessEmpty fun i (_ : i ∈ s.envFrom) => i.faithful
  simp [hport, hmodels, henv, henvFrom]

theorem ensures_wellFormed : Ensures read WellFormed := by
  intro j s h
  obtain ⟨fields, hfields⟩ := Schema.exists_of_readStrict h
  simp only [Gathered.value?_seq, Gathered.value?_map, Fields.value?_orDefault, Option.bind_map,
    Option.bind_assoc, Function.comp_def, Option.bind_eq_some_iff, Option.map_eq_some_iff]
    at hfields
  obtain ⟨-, -, -, -, port, hport, -, -, -, -, -, -, rfl⟩ := hfields
  have hint32 : Lossless readInt32 int := lossless_int _ _
  exact ⟨hint32.orDefault ((faithful_int_iff _ _ _).mpr (by decide)) hport⟩

end GatewaySpec

namespace GatewayStatus

structure WellFormed (s : GatewayStatus) : Prop where
  conditions : ∀ c ∈ s.conditions, c.WellFormed
  lastUpdated : ∀ t ∈ s.lastUpdated, t.Proper

theorem wellFormed_empty : ({} : GatewayStatus).WellFormed := ⟨by simp, by simp⟩

theorem WellFormed.faithful {s : GatewayStatus} (h : s.WellFormed) : Faithful read toJson s := by
  refine Schema.faithful_readStrict rfl ?_
  have hconditions := valueOf?_ofListUnlessEmpty fun c hc => (h.conditions c hc).faithful
  have htime := valueOf?_optional fun t ht => faithful_instant (h.lastUpdated t ht)
  simp [hconditions, htime]

theorem ensures_wellFormed : Ensures read WellFormed := by
  intro j s h
  obtain ⟨fields, hfields⟩ := Schema.exists_of_readStrict h
  simp only [Gathered.value?_seq, Gathered.value?_map, Fields.value?_orDefault,
    Fields.value?_optional, Option.bind_map, Option.bind_assoc, Function.comp_def,
    Option.bind_eq_some_iff, Option.map_eq_some_iff] at hfields
  obtain ⟨conditions, hconditions, -, -, time, htime, rfl⟩ := hfields
  have hproper : Ensures Instant.read Instant.Proper := fun _ _ => Instant.proper_of_read
  exact ⟨Condition.ensures_wellFormed.list.orDefault (by simp) hconditions, hproper.optional htime⟩

end GatewayStatus

namespace Gateway

structure WellFormed (g : Gateway) : Prop where
  metadata : g.metadata.WellFormed
  spec : g.spec.WellFormed
  status : ∀ s ∈ g.status, s.WellFormed

theorem WellFormed.faithful {g : Gateway} (h : g.WellFormed) : Faithful read toJson g := by
  refine Schema.faithful_readStrict rfl ?_
  have hmetadata := h.metadata.faithful.valueOf?_required none
  have hspec := h.spec.faithful.valueOf?_required none
  have hstatus := valueOf?_optional fun s hs => (h.status s hs).faithful
  simp [hmetadata, hspec, hstatus]

theorem ensures_wellFormed : Ensures read WellFormed := by
  intro j g h
  obtain ⟨fields, hfields⟩ := Schema.exists_of_readStrict h
  simp only [Gathered.value?_seq, Gathered.value?_map, Fields.value?_required,
    Fields.value?_optional, Option.bind_map, Option.bind_assoc, Function.comp_def,
    Option.bind_eq_some_iff, Option.map_eq_some_iff] at hfields
  obtain ⟨metadata, hmetadata, spec, hspec, status, hstatus, rfl⟩ := hfields
  exact ⟨ObjectMeta.ensures_wellFormed.required hmetadata,
    GatewaySpec.ensures_wellFormed.required hspec,
    GatewayStatus.ensures_wellFormed.optional hstatus⟩

end Gateway

end GatewayOperator
