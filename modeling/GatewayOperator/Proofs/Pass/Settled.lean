import GatewayOperator.Proofs.Pass.Ready

namespace GatewayOperator

namespace MemoryStore

variable {s : MemoryStore}

theorem object?_eq_some_none_iff {kind : Kind} {ns name : String} :
    s.object? kind ns name = some none ↔ s.find? ⟨kind, ns, name⟩ = none := by
  unfold object?
  split
  next h => simp [h]
  next document h =>
    split <;> simp [h]

end MemoryStore

namespace Children

def keys (ns gatewayName : String) : List ObjectKey :=
  [⟨.configMap, ns, configMapName gatewayName⟩, ⟨.deployment, ns, gatewayName⟩,
   ⟨.service, ns, gatewayName⟩]

theorem kind_ne_gateway_of_mem_keys {ns gatewayName : String} {key : ObjectKey}
    (h : key ∈ keys ns gatewayName) : key.kind ≠ .gateway := by
  simp only [keys, List.mem_cons, List.not_mem_nil, or_false] at h
  rcases h with rfl | rfl | rfl <;> simp

theorem keys_stages {g : Gateway} {rendered : RenderedConfig} {settings : ProxySettings}
    {c : Children} (h : ofGateway g rendered settings = .ok c) (ns : String) :
    (c.stages.map fun st => st.key ns) = keys ns g.name := by
  obtain ⟨own, owner, -, hconfigMap, hdeployment, hservice⟩ := ofGateway_eq_ok h
  simp only [stages, List.map_cons, List.map_nil, Stage.key, Stage.name, hconfigMap, hdeployment,
    hservice]
  rfl

end Children

namespace Stage

variable {st : Stage} {ns : String} {s t : MemoryStore}

-- What a stage makes of the child that it finds, if it finds one
def settle (st : Stage) : Option st.kind.Object → st.kind.Object
  | none => st.desired
  | some existing => if st.drifted existing then st.update existing else existing

-- The child in `t` is what the stage makes of what stood in `s`.
def Settled (st : Stage) (ns : String) (s t : MemoryStore) : Prop :=
  ∃ found, s.object? st.kind ns st.name = some found ∧
    t.object? st.kind ns st.name = some (some (st.settle found))

theorem Settled.congr {v w : MemoryStore} (h : st.Settled ns s t)
    (hbefore : v.find? (st.key ns) = s.find? (st.key ns))
    (hafter : w.find? (st.key ns) = t.find? (st.key ns)) : st.Settled ns v w := by
  obtain ⟨found, hfound, hsettled⟩ := h
  exact ⟨found, (MemoryStore.object?_congr hbefore).trans hfound,
    (MemoryStore.object?_congr hafter).trans hsettled⟩

theorem Step.settled (hst : st.Lawful ns) {applied : Applied}
    (h : st.Step ns s (.ok applied) t) : st.Settled ns s t := by
  cases h with
  | created _ habsent _ =>
    exact ⟨none, MemoryStore.object?_of_find?_eq_none habsent,
      MemoryStore.object?_of_find?_toJson hst.desired_wellFormed (MemoryStore.find?_put_self _ _ _)⟩
  | @unchanged existing _ hobject hdrifted =>
    have hsettle : st.settle (some existing) = existing := by simp [settle, hdrifted]
    refine ⟨some existing, hobject, ?_⟩
    rw [hsettle, hobject]
  | @updated existing _ hobject hdrifted _ hexisting _ =>
    have hsettle : st.settle (some existing) = st.update existing := by simp [settle, hdrifted]
    refine ⟨some existing, hobject, ?_⟩
    rw [hsettle]
    exact MemoryStore.object?_of_find?_toJson (hst.update_wellFormed existing hexisting)
      (MemoryStore.find?_put_self _ _ _)

-- No stage meets or leaves the child of another one.
theorem Steps.settled {stages : List Stage} {applied : List (Kind × Applied)}
    (hl : ∀ st ∈ stages, st.Lawful ns) (hkeys : (stages.map fun st => st.key ns).Nodup)
    (h : Steps ns stages s applied none t) : ∀ st ∈ stages, st.Settled ns s t := by
  generalize hnone : (none : Option Obstacle) = obstacle at h
  induction h with
  | finished => simp
  | stopped => cases hnone
  | @step st rest s t u _ _ _ h hrest ih =>
    obtain ⟨hkey, hrestKeys⟩ := List.nodup_cons.mp hkeys
    intro r hr
    rcases List.mem_cons.mp hr with rfl | hr
    · exact (h.settled (hl _ List.mem_cons_self)).congr rfl (hrest.sameOutside.find? _ hkey)
    · have hne : r.key ns ∉ [st.key ns] := by
        rw [List.mem_singleton]
        intro hsame
        exact hkey (List.mem_map.mpr ⟨r, hr, hsame⟩)
      have hsettled := ih (fun r hr => hl r (List.mem_cons_of_mem _ hr)) hrestKeys hnone r hr
      exact hsettled.congr (h.sameOutside.find? _ hne).symm rfl

end Stage

namespace Operator

variable {op : Operator} {now : Instant} {ns name hash : String} {s t : MemoryStore} {g : Gateway}
  {applied : List (Kind × Applied)} {report : Report}

theorem Applies.settled (hg : g.WellFormed) (hns : Kind.namespaceOf .gateway g = ns)
    (h : op.Applies g ns s applied (.ok hash) t) :
    ∃ rendered children, Children.ofGateway g rendered op.settings = .ok children ∧
      ∀ st ∈ children.stages, st.Settled ns s t := by
  cases h with
  | @finished children _ _ _ hplan hsteps =>
    obtain ⟨rendered, -, hchildren, -⟩ := plan_eq_ok hplan
    exact ⟨rendered, children, hchildren,
      hsteps.settled (lawful_of_plan hg hns hplan) (Children.nodup_keys _ _)⟩

-- The children of a gateway that a pass has found ready, next to what they were before the pass
theorem settled_of_ready (hs : s.WellKeyed) (hnow : now.Proper)
    (hrun : (op.pass now ns name).run MemoryStore.handle s = (some (.ok report), t))
    (hready : report.outcome = .ready hash) :
    ∃ g rendered children status, g.name = name ∧
      t.object? .gateway ns name = some (some { g with status }) ∧
      Children.ofGateway g rendered op.settings = .ok children ∧
      ∀ st ∈ children.stages, st.Settled ns s t := by
  obtain ⟨g, applied, u, status, hclaims, happlies, hgateway, -, hfind⟩ :=
    (passes_of_run hs hrun).ready hs hnow hready
  obtain ⟨hg, hkey⟩ := hclaims.wellFormed hs
  obtain ⟨rendered, children, hchildren, hsettled⟩ :=
    happlies.settled hg (congrArg ObjectKey.ns hkey)
  exact ⟨g, rendered, children, status, congrArg ObjectKey.name hkey, hgateway, hchildren,
    fun st hst => (hsettled st hst).congr rfl (hfind _ (children.kind_ne_gateway st hst))⟩

end Operator

end GatewayOperator
