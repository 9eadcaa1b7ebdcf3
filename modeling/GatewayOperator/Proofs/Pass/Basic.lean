import GatewayOperator.Proofs.Pass.Stage
import GatewayOperator.Proofs.Pass.Status

namespace GatewayOperator

namespace Children

variable {g : Gateway} {rendered : RenderedConfig} {settings : ProxySettings} {c : Children}

theorem lawful_stages (hg : g.WellFormed) (h : ofGateway g rendered settings = .ok c) {ns : String}
    (hns : Kind.namespaceOf .gateway g = ns) : ∀ st ∈ c.stages, st.Lawful ns := by
  have hwell := wellFormed_ofGateway hg h
  obtain ⟨own, owner, hown, hconfigMap, hdeployment, hservice⟩ := ofGateway_eq_ok h
  have hsame : own = ns := by simpa [Kind.namespaceOf, Kind.metadata, hown] using hns
  subst hsame
  intro st hst
  simp only [stages, List.mem_cons, List.not_mem_nil, or_false] at hst
  rcases hst with rfl | rfl | rfl
  · refine ⟨?_, hwell.configMap, ConfigMap.drifted_self _, fun _ => rfl,
      fun _ hexisting => ConfigMap.WellFormed.update hexisting _,
      fun _ => ConfigMap.drifted_update _ _⟩
    rw [Stage.key, Stage.name, hconfigMap]
    rfl
  · refine ⟨?_, hwell.deployment, Deployment.drifted_self _, fun _ => rfl,
      fun _ hexisting => Deployment.WellFormed.update hexisting hwell.deployment,
      fun _ => Deployment.drifted_update _ _⟩
    rw [Stage.key, Stage.name, hdeployment]
    rfl
  · refine ⟨?_, hwell.service, Service.drifted_self _, fun _ => rfl,
      fun _ hexisting => Service.WellFormed.update hexisting hwell.service,
      fun _ => Service.drifted_update _ _⟩
    rw [Stage.key, Stage.name, hservice]
    rfl

theorem nodup_keys (c : Children) (ns : String) :
    (c.stages.map fun st => st.key ns).Nodup := by
  simp [stages, Stage.key]

theorem kind_ne_gateway (c : Children) : ∀ st ∈ c.stages, st.kind ≠ .gateway := by
  simp [stages]

end Children

namespace MemoryStore

def withStatus (s : MemoryStore) (g : Gateway) (status : GatewayStatus) : MemoryStore :=
  let s := s.insert .gateway { g with status := some status }
  { s with statuses := s.statuses ++ [status] }.record ⟨.gateway, .status, g.name⟩

theorem handle_putStatus {s : MemoryStore} {g : Gateway} (status : GatewayStatus)
    (hstatus : s.injected? .gateway .status = none)
    (hobject : s.object? .gateway (g.metadata.ns.getD "") g.name = some (some g)) :
    handle (.putStatus g status) s = (some (.ok ()), s.withStatus g status) := by
  simp only [handle, putStatus, hstatus, hobject]
  rfl

end MemoryStore

namespace Operator

variable {op : Operator} {g : Gateway} {ns : String} {s t u : MemoryStore}
  {applied : List (Kind × Applied)} {result : Except Obstacle String}

theorem plan_eq_ok {children : Children} {hash : String} (h : op.plan g = .ok (children, hash)) :
    ∃ rendered, g.spec.render = .ok rendered ∧
      Children.ofGateway g rendered op.settings = .ok children ∧ hash = rendered.hash := by
  unfold plan at h
  split at h
  · cases h
  next rendered hrendered =>
    split at h
    · cases h
    next children hchildren =>
      cases h
      exact ⟨rendered, hrendered, hchildren, rfl⟩

theorem lawful_of_plan (hg : g.WellFormed) (hns : Kind.namespaceOf .gateway g = ns)
    {children : Children} {hash : String} (h : op.plan g = .ok (children, hash)) :
    ∀ st ∈ children.stages, st.Lawful ns := by
  obtain ⟨rendered, -, hchildren, -⟩ := plan_eq_ok h
  exact Children.lawful_stages hg hchildren hns

section Compositional

variable {P : (α : Type) → Program α → MemoryStore → Prop}
  (hP : Program.Compositional MemoryStore.handle P)
include hP

theorem holds_responsible (op : Operator) (g : Gateway)
    (hlist : P _ (Program.call .listClasses) s) : P _ (op.responsible g) s := by
  refine hP.bind hlist fun reply _ _ => ?_
  rcases reply with e | classes <;> exact hP.pure _ _

theorem holds_applyChildren (hs : s.WellKeyed) (hg : g.WellFormed)
    (hns : Kind.namespaceOf .gateway g = ns)
    (happly : ∀ children hash, op.plan g = .ok (children, hash) → ∀ st ∈ children.stages,
      st.Lawful ns → ∀ s : MemoryStore, s.WellKeyed → P _ (st.apply ns) s) :
    P _ (op.applyChildren g ns) s := by
  unfold applyChildren
  split
  · exact hP.pure _ _
  next children hash hplan =>
    have hl := lawful_of_plan hg hns hplan
    have hstages := Stage.holds_applyAll hP hl hs fun st hst =>
      happly children hash hplan st hst (hl st hst)
    refine hP.bind hstages fun outcome _ _ => ?_
    obtain ⟨applied, _ | obstacle⟩ := outcome <;> exact hP.pure _ _

theorem holds_persistStatus {status : GatewayStatus}
    (hput : P _ (Program.call (.putStatus g status)) s) : P _ (persistStatus g status) s := by
  unfold persistStatus
  split
  · refine hP.bind hput fun reply _ _ => ?_
    rcases reply with e | ⟨⟩ <;> exact hP.pure _ _
  · exact hP.pure _ _

end Compositional

-- What is done to the children of a gateway, in a store whose objects stand under their own keys
inductive Applies (op : Operator) (g : Gateway) (ns : String) (s : MemoryStore) :
    (applied : List (Kind × Applied)) → (result : Except Obstacle String) → (t : MemoryStore) →
      Prop where
  | unplanned {obstacle : Obstacle} (h : op.plan g = .error obstacle) :
      Applies op g ns s [] (.error obstacle) s
  | stopped {children : Children} {hash : String} {applied : List (Kind × Applied)}
      {obstacle : Obstacle} {t : MemoryStore} (h : op.plan g = .ok (children, hash))
      (hsteps : Stage.Steps ns children.stages s applied (some obstacle) t) :
      Applies op g ns s applied (.error obstacle) t
  | finished {children : Children} {hash : String} {applied : List (Kind × Applied)}
      {t : MemoryStore} (h : op.plan g = .ok (children, hash))
      (hsteps : Stage.Steps ns children.stages s applied none t) :
      Applies op g ns s applied (.ok hash) t

theorem Applies.run (hg : g.WellFormed) (hns : Kind.namespaceOf .gateway g = ns)
    (h : op.Applies g ns s applied result t) :
    (op.applyChildren g ns).run MemoryStore.handle s = (some (applied, result), t) := by
  cases h with
  | unplanned h => simp only [applyChildren, h, Program.run_pure]
  | stopped h hsteps | finished h hsteps =>
    simp only [applyChildren, h]
    rw [Program.run_bind_of_some _ (hsteps.run (lawful_of_plan hg hns h))]
    rfl

theorem exists_applies (op : Operator) (hs : s.WellKeyed) (hg : g.WellFormed)
    (hns : Kind.namespaceOf .gateway g = ns) :
    ∃ applied result t, op.Applies g ns s applied result t := by
  cases hplan : op.plan g with
  | error obstacle => exact ⟨_, _, _, .unplanned hplan⟩
  | ok planned =>
    obtain ⟨children, hash⟩ := planned
    obtain ⟨applied, obstacle, t, hsteps⟩ :=
      Stage.exists_steps (lawful_of_plan hg hns hplan) hs
    cases obstacle with
    | none => exact ⟨_, _, _, .finished hplan hsteps⟩
    | some obstacle => exact ⟨_, _, _, .stopped hplan hsteps⟩

theorem applies_of_run (hs : s.WellKeyed) (hg : g.WellFormed)
    (hns : Kind.namespaceOf .gateway g = ns)
    {outcome : List (Kind × Applied) × Except Obstacle String}
    (h : (op.applyChildren g ns).run MemoryStore.handle s = (some outcome, t)) :
    op.Applies g ns s outcome.1 outcome.2 t := by
  obtain ⟨applied, result, u, happlies⟩ := exists_applies op hs hg hns
  cases h.symm.trans (happlies.run hg hns)
  exact happlies

-- The children are written, and no gateway is.
theorem Applies.sameOutside (h : op.Applies g ns s applied result t) :
    ∃ keys, MemoryStore.SameOutside keys s t ∧ ∀ name, ⟨.gateway, ns, name⟩ ∉ keys := by
  cases h with
  | unplanned => exact ⟨[], .refl _ _, by simp⟩
  | @stopped children _ _ _ _ _ hsteps | @finished children _ _ _ _ hsteps =>
    refine ⟨_, hsteps.sameOutside, fun name hmem => ?_⟩
    obtain ⟨st, hst, hkey⟩ := List.mem_map.mp hmem
    exact children.kind_ne_gateway st hst (congrArg ObjectKey.kind hkey)

theorem Applies.wellKeyed (hs : s.WellKeyed) (hg : g.WellFormed)
    (hns : Kind.namespaceOf .gateway g = ns) (h : op.Applies g ns s applied result t) :
    t.WellKeyed := by
  cases h with
  | unplanned => exact hs
  | stopped h hsteps | finished h hsteps => exact hsteps.wellKeyed (lawful_of_plan hg hns h) hs

-- Brought into place again, also for another status of the gateway, the children are left alone.
theorem Applies.again (hs : s.WellKeyed) (hg : g.WellFormed)
    (hns : Kind.namespaceOf .gateway g = ns) (h : op.Applies g ns s applied result t)
    (status : Option GatewayStatus) (hfailing : u.failing = t.failing)
    (hfind : ∀ key, key.kind ≠ .gateway → u.find? key = t.find? key) :
    op.Applies { g with status } ns u (applied.map fun a => (a.1, .unchanged)) result u := by
  have hstages (children : Children) : ∀ st ∈ children.stages,
      u.find? (st.key ns) = t.find? (st.key ns) :=
    fun st hst => hfind _ (children.kind_ne_gateway st hst)
  cases h with
  | unplanned h => exact .unplanned h
  | stopped h hsteps =>
    exact .stopped h (hsteps.again (lawful_of_plan hg hns h) (Children.nodup_keys _ _) hs hfailing
      (hstages _))
  | finished h hsteps =>
    exact .finished h (hsteps.again (lawful_of_plan hg hns h) (Children.nodup_keys _ _) hs
      hfailing (hstages _))

-- The gateway of that name is there and its class is ours.
structure Claims (op : Operator) (ns name : String) (s : MemoryStore) (g : Gateway) : Prop where
  get : s.injected? .gateway .get = none
  object : s.object? .gateway ns name = some (some g)
  assigned : GatewayClass.assigns op.controller g.className? s.classes = true

-- The status that a pass at the given time wants to write
def nextStatus (g : Gateway) (result : Except Obstacle String) (now : Instant) : GatewayStatus :=
  (g.status.getD {}).afterPass result now

inductive Passes (op : Operator) (now : Instant) (ns name : String) (s : MemoryStore) :
    (report : Except PassError Report) → (t : MemoryStore) → Prop where
  | fetchFails {e : ApiError} (hget : s.injected? .gateway .get = some e) :
      Passes op now ns name s (.error (.fetch e)) s
  | notFound (hget : s.injected? .gateway .get = none)
      (habsent : s.find? ⟨.gateway, ns, name⟩ = none) :
      Passes op now ns name s (.ok { outcome := .notFound }) s
  | skipped {g : Gateway} (hget : s.injected? .gateway .get = none)
      (hobject : s.object? .gateway ns name = some (some g))
      (hassigned : GatewayClass.assigns op.controller g.className? s.classes = false) :
      Passes op now ns name s (.ok { outcome := .skipped }) s
  | unchanged {g : Gateway} {applied : List (Kind × Applied)} {result : Except Obstacle String}
      {t : MemoryStore} (hclaims : op.Claims ns name s g)
      (happlies : op.Applies g ns s applied result t)
      (hchanged : GatewayStatus.changed g.status (nextStatus g result now) = false) :
      Passes op now ns name s (.ok ⟨outcomeOf result, applied, false⟩) t
  | statusFails {g : Gateway} {applied : List (Kind × Applied)} {result : Except Obstacle String}
      {t : MemoryStore} {e : ApiError} (hclaims : op.Claims ns name s g)
      (happlies : op.Applies g ns s applied result t)
      (hchanged : GatewayStatus.changed g.status (nextStatus g result now) = true)
      (hstatus : t.injected? .gateway .status = some e) :
      Passes op now ns name s (.error (.statusWrite e)) t
  | written {g : Gateway} {applied : List (Kind × Applied)} {result : Except Obstacle String}
      {t : MemoryStore} (hclaims : op.Claims ns name s g)
      (happlies : op.Applies g ns s applied result t)
      (hchanged : GatewayStatus.changed g.status (nextStatus g result now) = true)
      (hstatus : t.injected? .gateway .status = none) :
      Passes op now ns name s (.ok ⟨outcomeOf result, applied, true⟩)
        (t.withStatus g (nextStatus g result now))

theorem Claims.wellFormed (hs : s.WellKeyed) {name : String} (h : op.Claims ns name s g) :
    g.WellFormed ∧ ObjectKey.of .gateway g = ⟨.gateway, ns, name⟩ :=
  hs.of_object? h.object

variable {now : Instant} {name : String} {report : Except PassError Report}

theorem Claims.run (hs : s.WellKeyed) (h : op.Claims ns name s g)
    (happlies : op.Applies g ns s applied result t) :
    (op.pass now ns name).run MemoryStore.handle s =
      Program.run MemoryStore.handle (do
        match ← persistStatus g (nextStatus g result now) with
        | .error e => return .error e
        | .ok written => return .ok ⟨outcomeOf result, applied, written⟩) t := by
  obtain ⟨hg, hkey⟩ := h.wellFormed hs
  have hns : Kind.namespaceOf .gateway g = ns := congrArg ObjectKey.ns hkey
  have hlist : (op.responsible g).run MemoryStore.handle s = (some true, s) := by
    have hclasses : MemoryStore.handle .listClasses s = (some (.ok s.classes), s) := rfl
    rw [responsible, Program.run_call_bind_of_some _ hclasses]
    simp only [h.assigned, Program.run_pure]
  rw [pass, Program.run_call_bind_of_some _ (Stage.handle_get_of_object? h.get h.object)]
  simp only [passOver]
  rw [Program.run_bind_of_some _ hlist]
  simp only [if_true]
  rw [Program.run_bind_of_some _ (happlies.run hg hns)]
  rfl

theorem run_persistStatus_of_unchanged {status : GatewayStatus}
    (h : GatewayStatus.changed g.status status = false) :
    (persistStatus g status).run MemoryStore.handle t = (some (.ok false), t) := by
  simp [persistStatus, h]

theorem run_persistStatus_of_fails {status : GatewayStatus} {e : ApiError}
    (h : GatewayStatus.changed g.status status = true)
    (hstatus : t.injected? .gateway .status = some e) :
    (persistStatus g status).run MemoryStore.handle t = (some (.error (.statusWrite e)), t) := by
  have hreply : MemoryStore.handle (.putStatus g status) t = (some (.error e), t) := by
    simp only [MemoryStore.handle, MemoryStore.putStatus, hstatus]
  simp only [persistStatus, h, if_true]
  exact Program.run_call_bind_of_some _ hreply _

theorem run_persistStatus_of_written {status : GatewayStatus}
    (h : GatewayStatus.changed g.status status = true)
    (hstatus : t.injected? .gateway .status = none)
    (hobject : t.object? .gateway (g.metadata.ns.getD "") g.name = some (some g)) :
    (persistStatus g status).run MemoryStore.handle t =
      (some (.ok true), t.withStatus g status) := by
  simp only [persistStatus, h, if_true]
  exact Program.run_call_bind_of_some _ (MemoryStore.handle_putStatus status hstatus hobject) _

-- The gateway is as it was when its children have been brought into place.
theorem Claims.object_after (h : op.Claims ns name s g)
    (happlies : op.Applies g ns s applied result t) :
    t.object? .gateway ns name = some (some g) := by
  obtain ⟨keys, hsame, hkeys⟩ := happlies.sameOutside
  rw [MemoryStore.object?_congr (hsame.find? _ (hkeys name)), h.object]

theorem Passes.run (hs : s.WellKeyed) (h : op.Passes now ns name s report t) :
    (op.pass now ns name).run MemoryStore.handle s = (some report, t) := by
  cases h with
  | @fetchFails e hget =>
    have hreply : MemoryStore.handle (.get .gateway ns name) s = (some (.error e), s) := by
      simp only [MemoryStore.handle, hget]
    exact Program.run_call_bind_of_some _ hreply _
  | notFound hget habsent =>
    have hreply := Stage.handle_get_of_object? hget (MemoryStore.object?_of_find?_eq_none habsent)
    exact Program.run_call_bind_of_some _ hreply _
  | @skipped g hget hobject hassigned =>
    have hclasses : MemoryStore.handle .listClasses s = (some (.ok s.classes), s) := rfl
    rw [pass, Program.run_call_bind_of_some _ (Stage.handle_get_of_object? hget hobject)]
    have hlist : (op.responsible g).run MemoryStore.handle s = (some false, s) := by
      rw [responsible, Program.run_call_bind_of_some _ hclasses]
      simp only [hassigned, Program.run_pure]
    simp only [passOver]
    rw [Program.run_bind_of_some _ hlist]
    rfl
  | unchanged hclaims happlies hchanged =>
    rw [hclaims.run hs happlies,
      Program.run_bind_of_some _ (run_persistStatus_of_unchanged hchanged)]
    rfl
  | statusFails hclaims happlies hchanged hstatus =>
    rw [hclaims.run hs happlies,
      Program.run_bind_of_some _ (run_persistStatus_of_fails hchanged hstatus)]
    rfl
  | @written g _ _ v hclaims happlies hchanged hstatus =>
    have hkey := (hclaims.wellFormed hs).2
    have hobject : v.object? .gateway (g.metadata.ns.getD "") g.name = some (some g) := by
      have hns : g.metadata.ns.getD "" = ns := congrArg ObjectKey.ns hkey
      have hname : g.name = name := congrArg ObjectKey.name hkey
      rw [hns, hname]
      exact hclaims.object_after happlies
    rw [hclaims.run hs happlies,
      Program.run_bind_of_some _ (run_persistStatus_of_written hchanged hstatus hobject)]
    rfl

-- A pass always comes to an end.
theorem exists_passes (op : Operator) (now : Instant) (ns name : String) (hs : s.WellKeyed) :
    ∃ report t, op.Passes now ns name s report t := by
  cases hget : s.injected? .gateway .get with
  | some e => exact ⟨_, _, .fetchFails hget⟩
  | none =>
    rcases hs.object?_cases .gateway ns name with ⟨habsent, -⟩ | ⟨g, hobject, hg, hkey⟩
    · exact ⟨_, _, .notFound hget habsent⟩
    · cases hassigned : GatewayClass.assigns op.controller g.className? s.classes with
      | false => exact ⟨_, _, .skipped hget hobject hassigned⟩
      | true =>
        have hclaims : op.Claims ns name s g := ⟨hget, hobject, hassigned⟩
        obtain ⟨applied, result, t, happlies⟩ :=
          exists_applies op hs hg (congrArg ObjectKey.ns hkey)
        cases hchanged : GatewayStatus.changed g.status (nextStatus g result now) with
        | false => exact ⟨_, _, .unchanged hclaims happlies hchanged⟩
        | true =>
          cases hstatus : t.injected? .gateway .status with
          | some e => exact ⟨_, _, .statusFails hclaims happlies hchanged hstatus⟩
          | none => exact ⟨_, _, .written hclaims happlies hchanged hstatus⟩

theorem passes_of_run (hs : s.WellKeyed)
    (h : (op.pass now ns name).run MemoryStore.handle s = (some report, t)) :
    op.Passes now ns name s report t := by
  obtain ⟨other, u, hpasses⟩ := exists_passes op now ns name hs
  cases h.symm.trans (hpasses.run hs)
  exact hpasses

end Operator

end GatewayOperator
