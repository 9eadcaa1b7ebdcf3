import GatewayOperator.Kubernetes.Service
import GatewayOperator.Proofs.Kubernetes.Meta

namespace GatewayOperator

open Json

namespace PortReference

-- A name is any text, a number has 32 bits
def WellFormed : PortReference → Prop
  | number port => Faithful readInt32 int port
  | name _ => True

theorem WellFormed.faithful {r : PortReference} (h : r.WellFormed) : Faithful read toJson r := by
  cases r with
  | name port => exact ⟨rfl, by simp [toJson]⟩
  | number port =>
    have hport : Faithful readInt32 int port := h
    refine ⟨?_, hport.write_ne_null⟩
    simp only [toJson, int, read]
    rw [← int, hport.read_write, map_ok]

theorem ensures_wellFormed : Ensures read WellFormed := by
  intro j r h
  cases j with
  | string port =>
    cases h
    trivial
  | _ =>
    obtain ⟨port, hport, rfl⟩ := (map_eq_ok_iff _ _ _).mp h
    exact lossless_int _ _ _ port hport

end PortReference

namespace ServicePort

structure WellFormed (p : ServicePort) : Prop where
  port : Faithful readInt32 int p.port
  targetPort : ∀ r ∈ p.targetPort, r.WellFormed
  nodePort : ∀ n ∈ p.nodePort, Faithful readInt32 int n

theorem WellFormed.faithful {p : ServicePort} (h : p.WellFormed) : Faithful read toJson p := by
  refine faithful_record rfl ?_
  have hport := h.port.valueOf?_orEmpty 0 (some 0)
  have htarget := valueOf?_optional fun r hr => (h.targetPort r hr).faithful
  have hnode := valueOf?_optional h.nodePort
  simp [hport, htarget, hnode]

theorem ensures_wellFormed : Ensures read WellFormed := by
  intro j p h
  obtain ⟨fields, hfields⟩ := exists_of_readRecord h
  simp only [Gathered.value?_seq, Gathered.value?_map, Fields.value?_orEmpty,
    Fields.value?_optional, Option.bind_map, Option.bind_assoc, Function.comp_def,
    Option.bind_eq_some_iff, Option.map_eq_some_iff] at hfields
  obtain ⟨port, hport, -, -, target, htarget, -, -, node, hnode, -, -, rfl⟩ := hfields
  have hint32 : Lossless readInt32 int := lossless_int _ _
  exact ⟨hint32.orEmpty ((faithful_int_iff _ _ _).mpr (by decide)) hport,
    PortReference.ensures_wellFormed.optional htarget, hint32.optional hnode⟩

end ServicePort

namespace ServiceSpec

structure WellFormed (s : ServiceSpec) : Prop where
  ports : ∀ ports ∈ s.ports, ∀ p ∈ ports, p.WellFormed
  carried : Schema.Carries Schema.serviceSpecCarried s.carried

theorem WellFormed.faithful {s : ServiceSpec} (h : s.WellFormed) : Faithful read toJson s := by
  refine faithful_record rfl ?_
  have hports := valueOf?_optional fun ports hp =>
    faithful_list fun p hm => (h.ports ports hp p hm).faithful
  simp (disch := decide) [h.carried.get?_insertAll, hports]
  exact ⟨_, h.carried.readFields_insertAll (by decide) (by simp only [List.map]; decide), rfl⟩

theorem wellFormed_empty : ({} : ServiceSpec).WellFormed :=
  ⟨by simp, Schema.carries_nil (by decide)⟩

theorem ensures_wellFormed : Ensures read WellFormed := by
  intro j s h
  obtain ⟨fields, hfields⟩ := exists_of_readRecord h
  simp only [Gathered.value?_seq, Gathered.value?_map, Fields.value?_optional, Option.bind_map,
    Option.bind_assoc, Function.comp_def, Option.bind_eq_some_iff, Option.map_eq_some_iff]
    at hfields
  obtain ⟨-, -, -, -, ports, hports, carried, hcarried, rfl⟩ := hfields
  exact ⟨ServicePort.ensures_wellFormed.list.optional hports,
    Schema.carries_of_read (by decide) hcarried⟩

end ServiceSpec

namespace Service

structure WellFormed (s : Service) : Prop where
  metadata : s.metadata.WellFormed
  spec : ∀ p ∈ s.spec, p.WellFormed
  carried : Schema.Carries carriedAttributes s.carried

theorem WellFormed.faithful {s : Service} (h : s.WellFormed) : Faithful read toJson s := by
  refine faithful_record rfl ?_
  have hmetadata := h.metadata.faithful.valueOf?_orEmpty {}
  have hspec := valueOf?_optional fun p hp => (h.spec p hp).faithful
  simp (disch := decide) [h.carried.get?_insertAll, hmetadata, hspec]
  exact ⟨_, h.carried.readFields_insertAll (by decide) (by simp only [List.map]; decide), rfl⟩

theorem ensures_wellFormed : Ensures read WellFormed := by
  intro j s h
  obtain ⟨fields, hfields⟩ := exists_of_readRecord h
  simp only [Gathered.value?_seq, Gathered.value?_map, Fields.value?_orEmpty,
    Fields.value?_optional, Option.bind_map, Option.bind_assoc, Function.comp_def,
    Option.bind_eq_some_iff, Option.map_eq_some_iff] at hfields
  obtain ⟨-, -, metadata, hmetadata, spec, hspec, carried, hcarried, rfl⟩ := hfields
  exact ⟨ObjectMeta.ensures_wellFormed.orEmpty (ObjectMeta.wellFormed_of_carried_nil rfl) hmetadata,
    ServiceSpec.ensures_wellFormed.optional hspec, Schema.carries_of_read (by decide) hcarried⟩

end Service

end GatewayOperator
