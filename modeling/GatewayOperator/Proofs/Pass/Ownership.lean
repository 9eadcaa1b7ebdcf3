import GatewayOperator.Proofs.Pass.Settled

namespace GatewayOperator

-- The metadata of an object names the gateway as the controller that owns the object.
def Gateway.Owns (g : Gateway) (m : ObjectMeta) : Prop :=
  ∃ o ∈ m.ownerReferences.getD [], o.kind = Gateway.kind ∧ o.controller = some true ∧
    g.metadata.name = some o.name ∧ g.metadata.uid = some o.uid

-- An object stands under the key, and the gateway owns it.
def MemoryStore.Owned (s : MemoryStore) (g : Gateway) (key : ObjectKey) : Prop :=
  ∃ object, s.object? key.kind key.ns key.name = some (some object) ∧
    g.Owns (key.kind.metadata object)

namespace MemoryStore

variable {s : MemoryStore}

theorem owned_iff_of_object? {g : Gateway} {kind : Kind} {ns name : String} {object : kind.Object}
    (h : s.object? kind ns name = some (some object)) :
    s.Owned g ⟨kind, ns, name⟩ ↔ g.Owns (kind.metadata object) := by
  constructor
  · rintro ⟨other, hother, howns⟩
    cases h.symm.trans hother
    exact howns
  · intro howns
    exact ⟨object, h, howns⟩

end MemoryStore

namespace Children

variable {g : Gateway} {rendered : RenderedConfig} {settings : ProxySettings} {c : Children}
  {st : Stage} {ns : String} {s t : MemoryStore}

theorem owns_of_ownerReference? {owner : OwnerReference} (h : ownerReference? g = some owner)
    {m : ObjectMeta} (hm : m.ownerReferences = some [owner]) : g.Owns m := by
  unfold ownerReference? at h
  split at h
  next name uid hname huid =>
    cases h
    exact ⟨⟨apiVersion, none, some true, Gateway.kind, name, uid⟩, by simp [hm], rfl, rfl, hname,
      huid⟩
  · cases h

theorem owns_desired (h : ofGateway g rendered settings = .ok c) (hst : st ∈ c.stages) :
    g.Owns (st.kind.metadata st.desired) := by
  unfold ofGateway at h
  split at h
  · cases h
  · cases h
  next own owner hown howner =>
    cases h
    simp only [stages, List.mem_cons, List.not_mem_nil, or_false] at hst
    rcases hst with rfl | rfl | rfl <;> exact owns_of_ownerReference? howner rfl

-- Neither an update nor the lack of one changes the owners of a child.
theorem ownerReferences_settle (hst : st ∈ c.stages) (existing : st.kind.Object) :
    (st.kind.metadata (st.settle (some existing))).ownerReferences =
      (st.kind.metadata existing).ownerReferences := by
  simp only [stages, List.mem_cons, List.not_mem_nil, or_false] at hst
  rcases hst with rfl | rfl | rfl <;>
  · simp only [Stage.settle]
    split <;> rfl

theorem owned_iff_of_settled (h : ofGateway g rendered settings = .ok c) (hst : st ∈ c.stages)
    (hsettled : st.Settled ns s t) :
    t.Owned g (st.key ns) ↔ s.find? (st.key ns) = none ∨ s.Owned g (st.key ns) := by
  obtain ⟨found, hfound, hafter⟩ := hsettled
  rw [Stage.key, MemoryStore.owned_iff_of_object? hafter]
  cases found with
  | none =>
    have habsent : s.find? ⟨st.kind, ns, st.name⟩ = none :=
      MemoryStore.object?_eq_some_none_iff.mp hfound
    simp only [habsent, true_or, iff_true]
    exact owns_desired h hst
  | some existing =>
    have hpresent : s.find? ⟨st.kind, ns, st.name⟩ ≠ none := by
      rw [ne_eq, ← MemoryStore.object?_eq_some_none_iff, hfound]
      simp
    rw [MemoryStore.owned_iff_of_object? hfound, Gateway.Owns, Gateway.Owns,
      ownerReferences_settle hst existing]
    simp [hpresent]

end Children

namespace Operator

variable {op : Operator} {now : Instant} {ns name hash : String} {s t : MemoryStore}
  {report : Report}

-- After a ready pass the gateway owns exactly those of its children that were not there before the
-- pass or that it owned before.
theorem owned_iff_of_ready (hs : s.WellKeyed) (hnow : now.Proper)
    (hrun : (op.pass now ns name).run MemoryStore.handle s = (some (.ok report), t))
    (hready : report.outcome = .ready hash) :
    ∃ g, t.object? .gateway ns name = some (some g) ∧
      ∀ key ∈ Children.keys ns name,
        t.Owned g key ↔ s.find? key = none ∨ s.Owned g key := by
  obtain ⟨g, rendered, children, status, rfl, hgateway, hchildren, hsettled⟩ :=
    settled_of_ready hs hnow hrun hready
  refine ⟨{ g with status }, hgateway, fun key hkey => ?_⟩
  rw [← Children.keys_stages hchildren, List.mem_map] at hkey
  obtain ⟨st, hst, rfl⟩ := hkey
  exact Children.owned_iff_of_settled hchildren hst (hsettled st hst)

-- A config map that somebody else has made under the name of the gateway's own
def strayConfigMap : ConfigMap :=
  { metadata := { name := some "gw-config", ns := some "default" } }

def strayConfigMapStore : MemoryStore := freshStore.insert .configMap strayConfigMap

theorem wellFormed_strayConfigMap : Kind.WellFormed .configMap strayConfigMap :=
  ⟨ObjectMeta.wellFormed_of_carried_nil rfl, Schema.carries_nil (by decide)⟩

theorem wellKeyed_strayConfigMapStore : strayConfigMapStore.WellKeyed :=
  wellKeyed_freshStore.put wellFormed_strayConfigMap

theorem owned_iff_of_stray :
    ∃ hash report t,
      (({} : Operator).pass ⟨0, false⟩ "default" "gw").run MemoryStore.handle
        strayConfigMapStore = (some (.ok report), t) ∧ report.outcome = .ready hash ∧
      ∃ g, t.object? .gateway "default" "gw" = some (some g) ∧
        ∀ key ∈ Children.keys "default" "gw",
          t.Owned g key ↔
            strayConfigMapStore.find? key = none ∨ strayConfigMapStore.Owned g key := by
  have hnow : Instant.Proper ⟨0, false⟩ := ⟨by decide, by decide⟩
  obtain ⟨hash, report, t, hrun, hready⟩ :=
    exists_ready_beside (by decide) wellFormed_strayConfigMap ⟨0, false⟩
  exact ⟨hash, report, t, hrun, hready,
    owned_iff_of_ready wellKeyed_strayConfigMapStore hnow hrun hready⟩

-- The pass finds the gateway ready, but nobody owns the config map.
theorem not_owned_of_stray :
    strayConfigMapStore.WellKeyed ∧
    ∃ hash report t,
      (({} : Operator).pass ⟨0, false⟩ "default" "gw").run MemoryStore.handle
        strayConfigMapStore = (some (.ok report), t) ∧ report.outcome = .ready hash ∧
      ∃ g, t.object? .gateway "default" "gw" = some (some g) ∧
        ¬ t.Owned g ⟨.configMap, "default", "gw-config"⟩ := by
  have hnow : Instant.Proper ⟨0, false⟩ := ⟨by decide, by decide⟩
  obtain ⟨hash, report, t, hrun, hready⟩ :=
    exists_ready_beside (by decide) wellFormed_strayConfigMap ⟨0, false⟩
  refine ⟨wellKeyed_strayConfigMapStore, hash, report, t, hrun, hready, ?_⟩
  obtain ⟨g, rendered, children, status, hname, hgateway, hchildren, hsettled⟩ :=
    settled_of_ready wellKeyed_strayConfigMapStore hnow hrun hready
  have hfound : strayConfigMapStore.object? .configMap "default" "gw-config" =
      some (some strayConfigMap) :=
    MemoryStore.object?_of_find?_toJson wellFormed_strayConfigMap
      (MemoryStore.find?_put_self freshStore _ _)
  have hkey : ⟨.configMap, "default", "gw-config"⟩ ∈
      children.stages.map fun st => st.key "default" := by
    rw [Children.keys_stages hchildren, hname]
    exact List.mem_cons_self
  obtain ⟨st, hst, hkey⟩ := List.mem_map.mp hkey
  have howned := Children.owned_iff_of_settled hchildren hst (hsettled st hst)
  rw [hkey, MemoryStore.owned_iff_of_object? hfound,
    ← MemoryStore.object?_eq_some_none_iff, hfound] at howned
  refine ⟨{ g with status }, hgateway, fun h => ?_⟩
  -- the config map was there, and it had no owners
  rcases howned.mp h with habsent | ⟨o, ho, -⟩
  · cases habsent
  · cases ho

end Operator

end GatewayOperator
