import GatewayOperator.Proofs.Children.InPlace
import GatewayOperator.Proofs.Pass.Repeat

namespace GatewayOperator

theorem GatewaySpec.render_eq_ok {spec : GatewaySpec} {rendered : RenderedConfig}
    (h : spec.render = .ok rendered) : rendered.hash = Fingerprint.ofText rendered.data := by
  rw [eq_ofSpec_of_render h]
  rfl

-- Children in place serve their gateway, each under its own name.
theorem Children.exists_of_inPlace {g : Gateway} {rendered : RenderedConfig}
    {settings : ProxySettings} {c : Children} {ns : String} {t : MemoryStore}
    (h : ofGateway g rendered settings = .ok c) (hplaced : ∀ st ∈ c.stages, st.InPlace ns t) :
    ∃ (configMap : ConfigMap) (deployment : Deployment) (service : Service),
      t.object? .configMap ns (configMapName g.name) = some (some configMap) ∧
      configMap.Holds g.name rendered.data ∧
      t.object? .deployment ns g.name = some (some deployment) ∧
      deployment.Runs g settings rendered.hash ∧
      t.object? .service ns g.name = some (some service) ∧ service.Exposes g := by
  obtain ⟨own, owner, -, hconfigMap, hdeployment, hservice⟩ := ofGateway_eq_ok h
  simp only [stages, List.forall_mem_cons] at hplaced
  obtain ⟨⟨configMap, hfoundMap, -, hmap⟩, ⟨deployment, hfoundDeployment, -, hdep⟩,
    ⟨service, hfoundService, -, hserv⟩, -⟩ := hplaced
  refine ⟨configMap, deployment, service, ?_, holds_of_not_drifted h hmap, ?_,
    runs_of_not_drifted h hdep, ?_, exposes_of_not_drifted h hserv⟩
  · rw [Stage.name, hconfigMap] at hfoundMap
    exact hfoundMap
  · rw [Stage.name, hdeployment] at hfoundDeployment
    exact hfoundDeployment
  · rw [Stage.name, hservice] at hfoundService
    exact hfoundService

namespace Operator

variable {op : Operator} {now : Instant} {ns name hash : String} {s t : MemoryStore} {g : Gateway}
  {applied : List (Kind × Applied)} {report : Report}

-- The status of a ready pass names the hash, also where it was not written again.
theorem configHash_of_unchanged
    (h : GatewayStatus.changed g.status (nextStatus g (.ok hash) now) = false) :
    g.status.bind (·.configHash) = some hash := by
  obtain ⟨status, hstatus, hhash, -⟩ := GatewayStatus.changed_eq_false h
  rw [hstatus, Option.bind_some, hhash]
  rfl

-- A ready pass has brought all children into place, and the gateway is as it was but for a status
-- with the hash.
theorem Passes.ready (hs : s.WellKeyed) (hnow : now.Proper)
    (h : op.Passes now ns name s (.ok report) t) (hready : report.outcome = .ready hash) :
    ∃ g applied u status, op.Claims ns name s g ∧ op.Applies g ns s applied (.ok hash) u ∧
      t.object? .gateway ns name = some (some { g with status }) ∧
      status.bind (·.configHash) = some hash ∧
      ∀ key, key.kind ≠ .gateway → t.find? key = u.find? key := by
  have hresult {result : Except Obstacle String} (h : outcomeOf result = .ready hash) :
      result = .ok hash := by
    cases result with
    | error obstacle => cases h
    | ok found =>
      cases h
      rfl
  cases h with
  | notFound => cases hready
  | skipped => cases hready
  | @unchanged g _ _ _ hclaims happlies hchanged =>
    cases hresult hready
    exact ⟨g, _, t, g.status, hclaims, happlies, hclaims.object_after happlies,
      configHash_of_unchanged hchanged, fun _ _ => rfl⟩
  | @written g _ _ u hclaims happlies hchanged hstatus =>
    cases hresult hready
    have hkey := (hclaims.wellFormed hs).2
    exact ⟨g, _, u, _, hclaims, happlies,
      MemoryStore.object?_withStatus (hclaims.wellFormed_next hs _ hnow) hkey, rfl,
      fun _ hkind => MemoryStore.find?_withStatus_of_ne u g _ hkind⟩

-- The children stand where a ready pass has put or found them.
theorem Applies.inPlace (hs : s.WellKeyed) (hg : g.WellFormed)
    (hns : Kind.namespaceOf .gateway g = ns) (h : op.Applies g ns s applied (.ok hash) t) :
    ∃ rendered children, g.spec.render = .ok rendered ∧ hash = rendered.hash ∧
      Children.ofGateway g rendered op.settings = .ok children ∧
      ∀ st ∈ children.stages, st.InPlace ns t := by
  cases h with
  | @finished children _ _ _ hplan hsteps =>
    obtain ⟨rendered, hrendered, hchildren, hhash⟩ := plan_eq_ok hplan
    exact ⟨rendered, children, hrendered, hhash, hchildren,
      hsteps.inPlace (lawful_of_plan hg hns hplan) (Children.nodup_keys _ _) hs⟩

-- Where no failure is injected, a gateway with a sound spec becomes ready.
theorem exists_ready (hs : s.WellKeyed) (hfailing : s.failing = [])
    (hclaims : op.Claims ns name s g) {planned : Children × String}
    (hplan : op.plan g = .ok planned) (now : Instant) :
    ∃ report t, (op.pass now ns name).run MemoryStore.handle s = (some (.ok report), t) ∧
      report.outcome = .ready planned.2 := by
  obtain ⟨children, hash⟩ := planned
  obtain ⟨hg, hkey⟩ := hclaims.wellFormed hs
  obtain ⟨applied, obstacle, t, hsteps⟩ :=
    Stage.exists_steps (lawful_of_plan hg (congrArg ObjectKey.ns hkey) hplan) hs
  cases hsteps.obstacle_eq_none hfailing
  have happlies : op.Applies g ns s applied (.ok hash) t := .finished hplan hsteps
  have hstatus : t.injected? .gateway .status = none :=
    MemoryStore.injected?_of_failing_eq_nil (hsteps.sameOutside.failing.trans hfailing) _ _
  cases hchanged : GatewayStatus.changed g.status (nextStatus g (.ok hash) now) with
  | false => exact ⟨_, _, (Passes.unchanged hclaims happlies hchanged).run hs, rfl⟩
  | true => exact ⟨_, _, (Passes.written hclaims happlies hchanged hstatus).run hs, rfl⟩

-- A gateway that was just made becomes ready, whatever else is in the store.
theorem exists_ready_of_fresh (hs : s.WellKeyed) (hfailing : s.failing = [])
    (hclasses : s.classes = freshStore.classes)
    (hobject : s.object? .gateway "default" "gw" = some (some freshGateway)) (now : Instant) :
    ∃ hash report t,
      (({} : Operator).pass now "default" "gw").run MemoryStore.handle s =
        (some (.ok report), t) ∧ report.outcome = .ready hash := by
  have hget := MemoryStore.injected?_of_failing_eq_nil hfailing .gateway .get
  have hassigned : GatewayClass.assigns ({} : Operator).controller freshGateway.className?
      s.classes = true := by
    rw [hclasses]
    decide
  have hplan : ∃ planned, ({} : Operator).plan freshGateway = .ok planned := ⟨_, rfl⟩
  obtain ⟨planned, hplan⟩ := hplan
  obtain ⟨report, t, hrun, hready⟩ := exists_ready hs hfailing ⟨hget, hobject, hassigned⟩ hplan now
  exact ⟨_, report, t, hrun, hready⟩

theorem exists_ready_freshStore (now : Instant) :
    ∃ hash report t,
      (({} : Operator).pass now "default" "gw").run MemoryStore.handle freshStore =
        (some (.ok report), t) ∧ report.outcome = .ready hash :=
  exists_ready_of_fresh wellKeyed_freshStore rfl rfl object?_freshStore now

theorem exists_ready_beside {kind : Kind} (hkind : kind ≠ .gateway) {object : kind.Object}
    (hobject : kind.WellFormed object) (now : Instant) :
    ∃ hash report t,
      (({} : Operator).pass now "default" "gw").run MemoryStore.handle
        (freshStore.insert kind object) = (some (.ok report), t) ∧
      report.outcome = .ready hash := by
  have hne : (⟨.gateway, "default", "gw"⟩ : ObjectKey) ≠ .of kind object := fun e =>
    hkind (congrArg ObjectKey.kind e).symm
  have hfound : (freshStore.insert kind object).object? .gateway "default" "gw" =
      some (some freshGateway) :=
    (MemoryStore.object?_congr (MemoryStore.find?_put_of_ne freshStore hne _)).trans
      object?_freshStore
  exact exists_ready_of_fresh (wellKeyed_freshStore.put hobject) rfl rfl hfound now

-- After a pass that found a gateway ready this stands in the store, whichever of its children the
-- pass created, updated or left alone.
theorem ready_establishes (hs : s.WellKeyed) (hnow : now.Proper)
    (hrun : (op.pass now ns name).run MemoryStore.handle s = (some (.ok report), t))
    (hready : report.outcome = .ready hash) :
    ∃ (g : Gateway) (rendered : RenderedConfig) (configMap : ConfigMap) (deployment : Deployment)
      (service : Service),
      (∃ status, s.object? .gateway ns name = some (some { g with status })) ∧
      t.object? .gateway ns name = some (some g) ∧ g.name = name ∧
      g.spec.render = .ok rendered ∧ hash = Fingerprint.ofText rendered.data ∧
      g.status.bind (·.configHash) = some hash ∧
      t.object? .configMap ns (name ++ "-config") = some (some configMap) ∧
      configMap.Holds name rendered.data ∧
      t.object? .deployment ns name = some (some deployment) ∧
      deployment.Runs g op.settings hash ∧
      t.object? .service ns name = some (some service) ∧ service.Exposes g := by
  obtain ⟨result, u, hpasses⟩ := exists_passes op now ns name hs
  have hsame := hrun.symm.trans (hpasses.run hs)
  simp only [Prod.mk.injEq, Option.some.injEq] at hsame
  obtain ⟨rfl, rfl⟩ := hsame
  obtain ⟨g, applied, u, status, hclaims, happlies, hgateway, hstatus, hfind⟩ :=
    hpasses.ready hs hnow hready
  obtain ⟨hg, hkey⟩ := hclaims.wellFormed hs
  have hname : g.name = name := congrArg ObjectKey.name hkey
  obtain ⟨rendered, children, hrendered, hhash, hchildren, hplaced⟩ :=
    happlies.inPlace hs hg (congrArg ObjectKey.ns hkey)
  obtain ⟨configMap, deployment, service, hfoundMap, hmap, hfoundDeployment, hdeployment,
    hfoundService, hservice⟩ := Children.exists_of_inPlace hchildren fun st hst =>
      (hplaced st hst).congr (hfind _ (children.kind_ne_gateway st hst))
  subst hname hhash
  exact ⟨{ g with status }, rendered, configMap, deployment, service, ⟨g.status, hclaims.object⟩,
    hgateway, rfl, hrendered, GatewaySpec.render_eq_ok hrendered, hstatus,
    hfoundMap, hmap, hfoundDeployment,
    ⟨hdeployment.label, hdeployment.podLabel, hdeployment.podHash, hdeployment.container⟩,
    hfoundService, ⟨hservice.label, hservice.port⟩⟩

theorem ready_establishes_fresh :
    ∃ hash report t,
      (({} : Operator).pass ⟨0, false⟩ "default" "gw").run MemoryStore.handle freshStore =
        (some (.ok report), t) ∧ report.outcome = .ready hash ∧
      ∃ (g : Gateway) (rendered : RenderedConfig) (configMap : ConfigMap)
        (deployment : Deployment) (service : Service),
        (∃ status, freshStore.object? .gateway "default" "gw" =
          some (some { g with status })) ∧
        t.object? .gateway "default" "gw" = some (some g) ∧ g.name = "gw" ∧
        g.spec.render = .ok rendered ∧ hash = Fingerprint.ofText rendered.data ∧
        g.status.bind (·.configHash) = some hash ∧
        t.object? .configMap "default" ("gw" ++ "-config") = some (some configMap) ∧
        configMap.Holds "gw" rendered.data ∧
        t.object? .deployment "default" "gw" = some (some deployment) ∧
        deployment.Runs g ({} : Operator).settings hash ∧
        t.object? .service "default" "gw" = some (some service) ∧ service.Exposes g := by
  have hnow : Instant.Proper ⟨0, false⟩ := ⟨by decide, by decide⟩
  obtain ⟨hash, report, t, hrun, hready⟩ := exists_ready_freshStore ⟨0, false⟩
  exact ⟨hash, report, t, hrun, hready,
    ready_establishes wellKeyed_freshStore hnow hrun hready⟩

end Operator

end GatewayOperator
