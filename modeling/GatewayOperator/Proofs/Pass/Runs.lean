import GatewayOperator.Proofs.Pass.Footprint

namespace GatewayOperator

-- What can happen to a store. All changes are of values that the store can hold, and writing a
-- status never fails.
inductive Event where
  | pass (op : Operator) (now : Instant) (hnow : now.Proper) (ns name : String)
  | edit (ns name : String) (spec : GatewaySpec) (hspec : spec.WellFormed)
  | addClass (c : GatewayClass)
  | fail (kind : Kind) (op : Operation) (hop : op ≠ .status)

namespace MemoryStore

def editSpec (s : MemoryStore) (ns name : String) (spec : GatewaySpec) : MemoryStore :=
  match s.object? .gateway ns name with
  | some (some g) => s.insert .gateway { g with spec }
  | _ => s

def after (s : MemoryStore) : Event → MemoryStore
  | .pass op now _ ns name => ((op.pass now ns name).run handle s).2
  | .edit ns name spec _ => s.editSpec ns name spec
  | .addClass c => s.addClass c
  | .fail kind op _ => s.fail kind op

def afterAll (s : MemoryStore) (events : List Event) : MemoryStore := events.foldl after s

-- All children of a gateway are there, and the pods of the deployment carry the hash of the
-- configuration in the config map, which is `hash`.
def Serves (s : MemoryStore) (ns name : String) (hash : Option String) : Prop :=
  ∃ (configMap : ConfigMap) (deployment : Deployment) (service : Service) (text : String),
    s.object? .configMap ns (Children.configMapName name) = some (some configMap) ∧
    s.object? .deployment ns name = some (some deployment) ∧
    s.object? .service ns name = some (some service) ∧
    configMap.configFile? = some text ∧ hash = some (Fingerprint.ofText text) ∧
    Labels.Holds deployment.podMetadata.annotations Children.configHashAnnotation
      (Fingerprint.ofText text)

variable {s t : MemoryStore} {ns name : String}

theorem Serves.congr {hash : Option String} (h : s.Serves ns name hash)
    (hfind : ∀ key ∈ Children.keys ns name, t.find? key = s.find? key) :
    t.Serves ns name hash := by
  obtain ⟨configMap, deployment, service, text, hmap, hdeployment, hservice, hrest⟩ := h
  simp only [Children.keys, List.forall_mem_cons] at hfind
  obtain ⟨hfindMap, hfindDeployment, hfindService, -⟩ := hfind
  exact ⟨configMap, deployment, service, text, (object?_congr hfindMap).trans hmap,
    (object?_congr hfindDeployment).trans hdeployment,
    (object?_congr hfindService).trans hservice, hrest⟩

end MemoryStore

namespace GatewayStatus

-- The status has the same verdict on whether the gateway is configured and on whether it is ready,
-- and a gateway that it calls ready is served with the hash that it names.
structure Honest (status : GatewayStatus) (ns name : String) (s : MemoryStore) : Prop where
  verdicts : ∃ first second, status.conditions = [first, second] ∧ first.type = configured ∧
    second.type = ready ∧ second.status = first.status
  serves : ∀ c ∈ status.conditions, c.type = ready → c.status = Verdict.true.text →
    s.Serves ns name status.configHash

variable {status : GatewayStatus} {ns name : String} {s t : MemoryStore}

theorem Honest.congr (h : status.Honest ns name s)
    (hfind : ∀ key ∈ Children.keys ns name, t.find? key = s.find? key) :
    status.Honest ns name t :=
  ⟨h.verdicts, fun c hc htype hstatus => (h.serves c hc htype hstatus).congr hfind⟩

-- The status says what a pass has found, at whatever time it was written.
structure Tells (status : GatewayStatus) (result : Except Obstacle String) (now : Instant) :
    Prop where
  conditions : status.conditions.map Condition.untimed =
    [(GatewayStatus.verdicts result now).1.untimed, (GatewayStatus.verdicts result now).2.untimed]
  configHash : ∀ hash, result = .ok hash → status.configHash = some hash

section

variable {old : Option GatewayStatus} (hold : ∀ status ∈ old, status.Honest ns name s)
include hold

-- The conditions of the two types are set where they stand, and no others come in.
theorem tells_afterPass (result : Except Obstacle String) (now : Instant) :
    ((old.getD {}).afterPass result now).Tells result now := by
  refine ⟨?_, ?_⟩
  · obtain ⟨hfirst, hsecond⟩ := types_verdicts result now
    have hne : configured ≠ ready := by decide
    rw [conditions_afterPass]
    cases old with
    | none => simp [Conditions.set, hfirst, hsecond, hne]
    | some old =>
      obtain ⟨first, second, hconditions, htype, htype', -⟩ := (hold old rfl).verdicts
      simp [Conditions.set, hconditions, hfirst, hsecond, htype, htype', hne]
  · rintro hash rfl
    rfl

-- A status that is not written again told this before.
theorem tells_of_unchanged {result : Except Obstacle String} {now : Instant}
    (hchanged : changed old ((old.getD {}).afterPass result now) = false) :
    ∃ status, old = some status ∧ status.Tells result now := by
  obtain ⟨status, hstatus, hhash, hconditions⟩ := changed_eq_false hchanged
  have htells := tells_afterPass hold result now
  exact ⟨status, hstatus, hconditions.trans htells.conditions,
    fun hash hresult => hhash.trans (htells.configHash hash hresult)⟩

end

theorem status_verdicts (result : Except Obstacle String) (now : Instant) :
    (verdicts result now).2.status = (verdicts result now).1.status ∧
      ((verdicts result now).2.status = Verdict.true.text → ∃ hash, result = .ok hash) := by
  cases result with
  | ok hash => exact ⟨rfl, fun _ => ⟨hash, rfl⟩⟩
  | error obstacle =>
    have hne : Verdict.false.text ≠ Verdict.true.text := by decide
    exact ⟨rfl, fun htrue => absurd htrue hne⟩

theorem Tells.honest {result : Except Obstacle String} {now : Instant}
    (h : status.Tells result now)
    (hserves : ∀ hash, result = .ok hash → s.Serves ns name (some hash)) :
    status.Honest ns name s := by
  obtain ⟨hfirst, hsecond⟩ := types_verdicts result now
  obtain ⟨hsame, htrue⟩ := status_verdicts result now
  have hparts {c v : Condition} (h : c.untimed = v.untimed) :
      c.type = v.type ∧ c.status = v.status := by
    simp only [Condition.untimed, Condition.mk.injEq] at h
    exact ⟨h.1, h.2.1⟩
  obtain ⟨first, rest, hlist, huntimed, hrest⟩ := List.map_eq_cons_iff.mp h.conditions
  obtain ⟨second, more, rfl, huntimed', hmore⟩ := List.map_eq_cons_iff.mp hrest
  cases List.map_eq_nil_iff.mp hmore
  obtain ⟨htype, hstatus⟩ := hparts huntimed
  obtain ⟨htype', hstatus'⟩ := hparts huntimed'
  refine ⟨⟨first, second, hlist, htype.trans hfirst, htype'.trans hsecond, ?_⟩, ?_⟩
  · rw [hstatus, hstatus', hsame]
  · intro c hc hready hserving
    rw [hlist] at hc
    rcases List.mem_pair.mp hc with rfl | rfl
    · rw [htype, hfirst] at hready
      exact absurd hready (by decide)
    · obtain ⟨hash, hresult⟩ := htrue (hstatus' ▸ hserving)
      rw [h.configHash hash hresult]
      exact hserves hash hresult

end GatewayStatus

namespace Operator

open MemoryStore

variable {op : Operator} {now : Instant} {ns name : String} {s t : MemoryStore} {g : Gateway}
  {applied : List (Kind × Applied)} {result : Except Obstacle String}
  {report : Except PassError Report}

-- What a run keeps true: the status of the gateway, if it has one, is honest.
structure Tracked (ns name : String) (s : MemoryStore) : Prop where
  wellKeyed : s.WellKeyed
  writable : s.injected? .gateway .status = none
  honest : ∃ g, s.object? .gateway ns name = some (some g) ∧
    ∀ status ∈ g.status, status.Honest ns name s

-- All stages went well, so that all children stand as the hash says.
theorem Applies.serves (hs : s.WellKeyed) (hclaims : op.Claims ns name s g) {hash : String}
    (h : op.Applies g ns s applied (.ok hash) t) : t.Serves ns name (some hash) := by
  obtain ⟨hg, hkey⟩ := hclaims.wellFormed hs
  have hname : g.name = name := congrArg ObjectKey.name hkey
  obtain ⟨rendered, children, hrendered, hhash, hchildren, hplaced⟩ :=
    h.inPlace hs hg (congrArg ObjectKey.ns hkey)
  obtain ⟨configMap, deployment, service, hfoundMap, hmap, hfoundDeployment, hdeployment,
    hfoundService, -⟩ := Children.exists_of_inPlace hchildren hplaced
  have htext := GatewaySpec.render_eq_ok hrendered
  rw [hname] at hfoundMap hfoundDeployment hfoundService
  refine ⟨configMap, deployment, service, rendered.data, hfoundMap, hfoundDeployment,
    hfoundService, hmap.file, ?_, ?_⟩
  · rw [hhash, htext]
  · rw [← htext]
    exact hdeployment.podHash

-- Whatever a pass has done to the children, the status that stands after it tells of it.
theorem Tracked.pass_self (h : Tracked ns name s) (hnow : now.Proper)
    (hpasses : op.Passes now ns name s report t) : Tracked ns name t := by
  obtain ⟨hs, hwritable, g₀, hobject₀, hhonest⟩ := h
  have hwritable' : t.injected? .gateway .status = none :=
    (injected?_congr (hpasses.altersOnly hs).failing _ _).trans hwritable
  refine ⟨hpasses.wellKeyed hs hnow, hwritable', ?_⟩
  cases hpasses with
  | fetchFails | notFound | skipped => exact ⟨g₀, hobject₀, hhonest⟩
  | @unchanged g _ result _ hclaims happlies hchanged =>
    cases hobject₀.symm.trans hclaims.object
    obtain ⟨status, hstatus, htells⟩ := GatewayStatus.tells_of_unchanged hhonest hchanged
    refine ⟨g₀, hclaims.object_after happlies, fun other hother => ?_⟩
    cases hother.symm.trans hstatus
    exact htells.honest fun hash hresult => (hresult ▸ happlies).serves hs hclaims
  | @statusFails _ _ _ _ e hclaims happlies hchanged hstatus =>
    cases hwritable'.symm.trans hstatus
  | @written g _ result u hclaims happlies hchanged hstatus =>
    cases hobject₀.symm.trans hclaims.object
    have hkey := (hclaims.wellFormed hs).2
    have htells := GatewayStatus.tells_afterPass hhonest result now
    refine ⟨_, object?_withStatus (hclaims.wellFormed_next hs result hnow) hkey, ?_⟩
    rintro status ⟨rfl⟩
    refine htells.honest fun hash hresult => ?_
    refine ((hresult ▸ happlies).serves hs hclaims).congr fun key hmem => ?_
    exact find?_withStatus_of_ne u g₀ _ (Children.kind_ne_gateway_of_mem_keys hmem)

-- What does not touch the gateway and its children does not matter for it.
theorem Tracked.congr (h : Tracked ns name s) (ht : t.WellKeyed)
    (hwritable : t.injected? .gateway .status = none)
    (hfind : ∀ key ∈ footprint ns name, t.find? key = s.find? key) : Tracked ns name t := by
  obtain ⟨g, hobject, hhonest⟩ := h.honest
  refine ⟨ht, hwritable, g, ?_, fun status hstatus => ?_⟩
  · exact (object?_congr (hfind _ (.inl rfl))).trans hobject
  · exact (hhonest status hstatus).congr fun key hkey => hfind key (.inr hkey)

theorem Tracked.pass_other (h : Tracked ns name s) (hnow : now.Proper) {ns' name' : String}
    (hne : (ns, name) ≠ (ns', name')) (hpasses : op.Passes now ns' name' s report t) :
    Tracked ns name t := by
  have halters := hpasses.altersOnly h.wellKeyed
  refine h.congr (hpasses.wellKeyed h.wellKeyed hnow)
    ((injected?_congr halters.failing _ _).trans h.writable) fun key hkey => ?_
  have hother := not_mem_footprint hne key hkey
  rw [mem_footprint, not_or] at hother
  exact halters.find? key hother.1 hother.2

theorem Tracked.editSpec (h : Tracked ns name s) (ns' name' : String) {spec : GatewaySpec}
    (hspec : spec.WellFormed) : Tracked ns name (s.editSpec ns' name' spec) := by
  unfold MemoryStore.editSpec
  split
  next g hobject =>
    obtain ⟨hg, hkey⟩ := h.wellKeyed.of_object? hobject
    have hedited : Kind.WellFormed .gateway { g with spec } := ⟨hg.metadata, hspec, hg.status⟩
    have hfind {key : ObjectKey} (hne : key ≠ ⟨.gateway, ns', name'⟩) :
        (s.insert .gateway { g with spec }).find? key = s.find? key :=
      find?_put_of_ne s (hkey ▸ hne) _
    by_cases hsame : (ns, name) = (ns', name')
    · cases hsame
      obtain ⟨found, hfound, hhonest⟩ := h.honest
      cases hfound.symm.trans hobject
      refine ⟨h.wellKeyed.put hedited, h.writable, { g with spec }, ?_,
        fun status hstatus => ?_⟩
      · apply object?_of_find?_toJson hedited
        rw [← hkey]
        exact find?_put_self s _ _
      · refine (hhonest status hstatus).congr fun key hmem => hfind ?_
        rintro rfl
        exact Children.kind_ne_gateway_of_mem_keys hmem rfl
    · refine h.congr (h.wellKeyed.put hedited) h.writable fun key hmem => hfind ?_
      rintro rfl
      exact not_mem_footprint hsame _ hmem (.inl rfl)
  next => exact h

theorem Tracked.fail (h : Tracked ns name s) (kind : Kind) {operation : Operation}
    (hop : operation ≠ .status) : Tracked ns name (s.fail kind operation) := by
  refine h.congr h.wellKeyed ?_ fun _ _ => rfl
  have hwritable := h.writable
  simp only [injected?, ite_eq_right_iff, reduceCtorEq, imp_false] at hwritable ⊢
  simp [MemoryStore.fail, hwritable, Ne.symm hop]

theorem Tracked.after (h : Tracked ns name s) (e : Event) : Tracked ns name (s.after e) := by
  cases e with
  | pass op now hnow ns' name' =>
    obtain ⟨report, t, hpasses⟩ := exists_passes op now ns' name' h.wellKeyed
    simp only [MemoryStore.after, hpasses.run h.wellKeyed]
    by_cases hsame : (ns, name) = (ns', name')
    · cases hsame
      exact h.pass_self hnow hpasses
    · exact h.pass_other hnow hsame hpasses
  | edit ns' name' spec hspec => exact h.editSpec ns' name' hspec
  | addClass c => exact h.congr h.wellKeyed h.writable fun _ _ => rfl
  | fail kind op hop => exact h.fail kind hop

theorem Tracked.afterAll (h : Tracked ns name s) (events : List Event) :
    Tracked ns name (s.afterAll events) := by
  induction events generalizing s with
  | nil => exact h
  | cons e rest ih => exact ih (h.after e)

-- From a gateway without a status on, whatever children there are: its status is always honest.
theorem honest_afterAll (hs : s.WellKeyed) (hwritable : s.injected? .gateway .status = none)
    (hobject : s.object? .gateway ns name = some (some g)) (hstatus : g.status = none)
    (events : List Event) :
    ∃ g, (s.afterAll events).object? .gateway ns name = some (some g) ∧
      ∀ status ∈ g.status, status.Honest ns name (s.afterAll events) := by
  have hstart : Tracked ns name s := ⟨hs, hwritable, g, hobject, by simp [hstatus]⟩
  exact (hstart.afterAll events).honest

def firstPass : Event := .pass {} ⟨0, false⟩ ⟨by decide, by decide⟩ "default" "gw"

-- The first pass over a gateway gives it a status.
theorem honest_afterAll_firstPass :
    ∃ g status, (freshStore.afterAll [firstPass]).object? .gateway "default" "gw" =
        some (some g) ∧ g.status = some status ∧
      status.Honest "default" "gw" (freshStore.afterAll [firstPass]) := by
  obtain ⟨g, hfound, hhonest⟩ :=
    honest_afterAll wellKeyed_freshStore rfl object?_freshStore rfl [firstPass]
  obtain ⟨hash, report, t, hrun, hready⟩ := exists_ready_freshStore ⟨0, false⟩
  have hnow : Instant.Proper ⟨0, false⟩ := ⟨by decide, by decide⟩
  obtain ⟨_, _, _, status, -, -, hobject', hhash, -⟩ :=
    (passes_of_run wellKeyed_freshStore hrun).ready wellKeyed_freshStore hnow hready
  have ht : freshStore.afterAll [firstPass] = t := congrArg Prod.snd hrun
  rw [ht] at hfound hhonest ⊢
  cases hobject'.symm.trans hfound
  obtain ⟨found, hstatus, -⟩ := Option.bind_eq_some_iff.mp hhash
  exact ⟨_, found, hobject', hstatus, hhonest found hstatus⟩

end Operator

end GatewayOperator
