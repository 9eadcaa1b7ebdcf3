import GatewayOperator.Proofs.Pass.Ready
import GatewayOperator.Proofs.Pass.Settled

namespace GatewayOperator

-- A point at which a pass can stop: the reason that it gives then, and what makes it stop. If it
-- is about a child: where that stands, and what the pass does to it unless it stops.
structure Check where
  reason : String
  fails : Prop
  child? : Option (ObjectKey × Applied) := none

namespace Check

variable {checks more before before' : List Check} {check check' : Check} {s t : MemoryStore}

-- What is done to the children at these checks, if none of them fails.
def applied (checks : List Check) : List (Kind × Applied) :=
  checks.filterMap fun c => c.child?.map fun (key, a) => (key.kind, a)

def keys (checks : List Check) : List ObjectKey := checks.filterMap fun c => c.child?.map Prod.fst

-- The first of several checks that fails, with those before it
inductive FirstFailing : (checks before : List Check) → (check : Check) → Prop where
  | here {check : Check} {rest : List Check} (hfails : check.fails) :
      FirstFailing (check :: rest) [] check
  | later {c check : Check} {rest before : List Check} (hpasses : ¬ c.fails)
      (h : FirstFailing rest before check) : FirstFailing (c :: rest) (c :: before) check

theorem FirstFailing.not_forall (h : FirstFailing checks before check) :
    ¬ ∀ c ∈ checks, ¬ c.fails := by
  intro hpass
  induction h with
  | here hfails => exact hpass _ List.mem_cons_self hfails
  | later _ _ ih => exact ih fun c hc => hpass c (List.mem_cons_of_mem _ hc)

theorem FirstFailing.unique (h : FirstFailing checks before check)
    (h' : FirstFailing checks before' check') : before = before' ∧ check = check' := by
  induction h generalizing before' with
  | here hfails =>
    cases h' with
    | here => exact ⟨rfl, rfl⟩
    | later hpasses => exact absurd hfails hpasses
  | later hpasses _ ih =>
    cases h' with
    | here hfails => exact absurd hfails hpasses
    | later _ h' =>
      obtain ⟨rfl, rfl⟩ := ih h'
      exact ⟨rfl, rfl⟩

theorem FirstFailing.append_right (h : FirstFailing checks before check) (more : List Check) :
    FirstFailing (checks ++ more) before check := by
  induction h with
  | here hfails => exact .here hfails
  | later hpasses _ ih => exact .later hpasses ih

theorem FirstFailing.append_left (hpass : ∀ c ∈ more, ¬ c.fails)
    (h : FirstFailing checks before check) :
    FirstFailing (more ++ checks) (more ++ before) check := by
  induction more with
  | nil => exact h
  | cons c rest ih =>
    exact .later (hpass c List.mem_cons_self) (ih fun c hc => hpass c (List.mem_cons_of_mem _ hc))

theorem FirstFailing.without_child (h : FirstFailing checks before check)
    (hnone : ∀ c ∈ checks, c.child? = none) :
    Check.applied before = [] ∧ check.child? = none := by
  induction h with
  | here => exact ⟨rfl, hnone _ List.mem_cons_self⟩
  | @later c check rest before _ _ ih =>
    obtain ⟨happlied, hcheck⟩ := ih fun c hc => hnone c (List.mem_cons_of_mem _ hc)
    refine ⟨?_, hcheck⟩
    simpa [Check.applied, hnone c List.mem_cons_self] using happlied

-- How checks go that are made one after the other up to the first that fails: `applied` is what was
-- done to the children, and `obstacle` what has come in the way.
inductive Ends (s t : MemoryStore) (checks : List Check) :
    (applied : List (Kind × Applied)) → (obstacle : Option Obstacle) → Prop where
  | passed (hpass : ∀ c ∈ checks, ¬ c.fails) : Ends s t checks (Check.applied checks) none
  | stopped {before : List Check} {check : Check} {obstacle : Obstacle}
      (hfirst : FirstFailing checks before check) (hreason : obstacle.reason = check.reason)
      (hretryable : obstacle.retryable = check.child?.isSome)
      (hfind : ∀ key ∉ Check.keys before, t.find? key = s.find? key) :
      Ends s t checks (Check.applied before) (some obstacle)

-- Other checks pass first, and no more is written by then than the children that they are about.
theorem Ends.append_left {u : MemoryStore} {applied : List (Kind × Applied)}
    {obstacle : Option Obstacle} (hpass : ∀ c ∈ more, ¬ c.fails)
    (hsame : ∀ key ∉ Check.keys more, t.find? key = s.find? key)
    (h : Ends t u checks applied obstacle) :
    Ends s u (more ++ checks) (Check.applied more ++ applied) obstacle := by
  cases h with
  | passed hrest =>
    rw [Check.applied, Check.applied, ← List.filterMap_append]
    exact .passed (List.forall_mem_append.mpr ⟨hpass, hrest⟩)
  | @stopped before check obstacle hfirst hreason hretryable hfind =>
    rw [Check.applied, Check.applied, ← List.filterMap_append]
    refine .stopped (hfirst.append_left hpass) hreason hretryable fun key hkey => ?_
    rw [Check.keys, List.filterMap_append, List.mem_append, not_or] at hkey
    exact (hfind key hkey.2).trans (hsame key hkey.1)

end Check

-- What keeps a spec from being served
def GatewaySpec.checks (spec : GatewaySpec) : List Check :=
  [{ reason := "UnsupportedType", fails := ∃ tag ∈ spec.type, tag ≠ "" ∧ tag ≠ "litellm" },
   { reason := "InvalidPort", fails := spec.port ≤ 0 },
   { reason := "MissingModels", fails := spec.models = [] },
   { reason := "InvalidModelName", fails := ∃ m ∈ spec.models, m.name = "" }]

-- What keeps a gateway from owning other objects
def Gateway.ownerCheck (g : Gateway) : Check :=
  { reason := "ConfigGenerationFailed"
    fails := g.metadata.ns = none ∨ g.metadata.name = none ∨ g.metadata.uid = none }

open Check

theorem GatewaySpec.render_of_checks (spec : GatewaySpec) :
    (∃ before check fault, FirstFailing spec.checks before check ∧
      spec.render = .error fault ∧ fault.reason = check.reason) ∨
    (∀ c ∈ spec.checks, ¬ c.fails) ∧ spec.render = .ok (.ofSpec spec) := by
  by_cases htype : ∃ tag ∈ spec.type, tag ≠ "" ∧ tag ≠ "litellm"
  · obtain ⟨tag, htag, hnonempty, hother⟩ := htype
    have hkind : ProxyKind.ofTag spec.type = .error (.unsupportedType tag) := by
      rw [Option.mem_def.mp htag]
      simp [ProxyKind.ofTag, ProxyKind.text, hnonempty, hother]
    refine .inl ⟨_, _, .unsupportedType tag, .here ⟨tag, htag, hnonempty, hother⟩, ?_, rfl⟩
    simp only [render, check, hkind, bind, Except.bind]
  have hkind : ProxyKind.ofTag spec.type = .ok .litellm := by
    cases htag : spec.type with
    | none => rfl
    | some tag =>
      have hknown : tag = "" ∨ tag = "litellm" := by
        by_contra hnone
        exact htype ⟨tag, htag, not_or.mp hnone⟩
      simp [ProxyKind.ofTag, ProxyKind.text, hknown]
  by_cases hport : spec.port ≤ 0
  · refine .inl ⟨_, _, .invalidPort spec.port, .later htype (.here hport), ?_, rfl⟩
    simp only [render, check, hkind, validate, hport, if_true, bind, Except.bind]
  by_cases hmodels : spec.models = []
  · refine .inl ⟨_, _, .missingModels, .later htype (.later hport (.here hmodels)), ?_, rfl⟩
    simp only [render, check, hkind, validate, hport, hmodels, List.isEmpty_nil, if_true, if_false,
      bind, Except.bind]
  have hsome : spec.models.isEmpty = false := by simpa using hmodels
  by_cases hnames : ∃ m ∈ spec.models, m.name = ""
  · have hany : (spec.models.any fun m => m.name.isEmpty) = true := by simpa using hnames
    refine .inl ⟨_, _, .emptyModelName,
      .later htype (.later hport (.later hmodels (.here hnames))), ?_, rfl⟩
    simp only [render, check, hkind, validate, hport, hsome, hany, if_true, if_false, bind,
      Except.bind, Bool.false_eq_true]
  have hany : (spec.models.any fun m => m.name.isEmpty) = false := by simpa using hnames
  refine .inr ⟨?_, ?_⟩
  · simp only [checks, List.forall_mem_cons]
    exact ⟨htype, hport, hmodels, hnames, by simp⟩
  · simp only [render, check, hkind, validate, hport, hsome, hany, if_false, bind, Except.bind,
      Bool.false_eq_true, pure, Except.pure]

theorem Children.ofGateway_of_ownerCheck (g : Gateway) (rendered : RenderedConfig)
    (settings : ProxySettings) :
    (g.ownerCheck.fails ∧ ∃ key, ofGateway g rendered settings = .error key) ∨
    ¬ g.ownerCheck.fails ∧ ∃ c, ofGateway g rendered settings = .ok c := by
  unfold ofGateway ownerReference? Gateway.ownerCheck
  cases g.metadata.ns <;> cases g.metadata.name <;> cases g.metadata.uid <;> simp

namespace MemoryStore

variable {s : MemoryStore} {kind : Kind} {operation : Operation}

theorem injected?_eq_none_iff :
    s.injected? kind operation = none ↔ (kind, operation) ∉ s.failing := by
  simp [injected?]

theorem mem_failing_of_injected? {e : ApiError} (h : s.injected? kind operation = some e) :
    (kind, operation) ∈ s.failing := by
  by_contra hmem
  cases h.symm.trans (injected?_eq_none_iff.mpr hmem)

end MemoryStore

namespace Stage

variable {st : Stage} {stages : List Stage} {ns : String} {s t : MemoryStore}

-- The child cannot be fetched, or is not there and cannot be created, or needs an update and cannot
-- be replaced.
def Fails (st : Stage) (ns : String) (s : MemoryStore) : Prop :=
  (st.kind, .get) ∈ s.failing ∨
  s.find? (st.key ns) = none ∧ (st.kind, .create) ∈ s.failing ∨
  ∃ existing, s.object? st.kind ns st.name = some (some existing) ∧
    st.drifted existing = true ∧ (st.kind, .replace) ∈ s.failing

-- What is done to the child where nothing fails
def effect (st : Stage) (ns : String) (s : MemoryStore) : Applied :=
  match s.object? st.kind ns st.name with
  | some (some existing) => if st.drifted existing then .updated else .unchanged
  | _ => .created

def check (st : Stage) (ns : String) (s : MemoryStore) : Check :=
  { reason := st.kind.name ++ "Failed"
    fails := st.Fails ns s
    child? := some (st.key ns, st.effect ns s) }

theorem check_congr (hfailing : t.failing = s.failing)
    (hfind : t.find? (st.key ns) = s.find? (st.key ns)) : st.check ns t = st.check ns s := by
  have hobject : t.object? st.kind ns st.name = s.object? st.kind ns st.name :=
    MemoryStore.object?_congr hfind
  simp only [check, Fails, effect, hfailing, hfind, hobject]

theorem fails_iff_of_absent (habsent : s.find? (st.key ns) = none) :
    st.Fails ns s ↔ (st.kind, .get) ∈ s.failing ∨ (st.kind, .create) ∈ s.failing := by
  have hobject : s.object? st.kind ns st.name = some none :=
    MemoryStore.object?_of_find?_eq_none habsent
  simp [Fails, habsent, hobject]

theorem effect_of_absent (habsent : s.find? (st.key ns) = none) : st.effect ns s = .created := by
  have hobject : s.object? st.kind ns st.name = some none :=
    MemoryStore.object?_of_find?_eq_none habsent
  simp only [effect, hobject]

theorem Step.fails_of_error {e : ApiError} (h : st.Step ns s (.error e) t) :
    st.Fails ns s ∧ t = s := by
  cases h with
  | getFails hget => exact ⟨.inl (MemoryStore.mem_failing_of_injected? hget), rfl⟩
  | createFails _ habsent hcreate =>
    exact ⟨.inr (.inl ⟨habsent, MemoryStore.mem_failing_of_injected? hcreate⟩), rfl⟩
  | @replaceFails existing _ _ hobject hdrifted hreplace =>
    exact ⟨.inr (.inr ⟨existing, hobject, hdrifted,
      MemoryStore.mem_failing_of_injected? hreplace⟩), rfl⟩

theorem Step.passes_of_ok {applied : Applied} (h : st.Step ns s (.ok applied) t) :
    ¬ st.Fails ns s ∧ applied = st.effect ns s := by
  cases h with
  | created hget habsent hcreate =>
    refine ⟨?_, (effect_of_absent habsent).symm⟩
    rw [fails_iff_of_absent habsent, not_or]
    exact ⟨MemoryStore.injected?_eq_none_iff.mp hget, MemoryStore.injected?_eq_none_iff.mp hcreate⟩
  | @unchanged existing hget hobject hdrifted =>
    refine ⟨?_, by simp only [effect, hobject, hdrifted, Bool.false_eq_true, if_false]⟩
    rintro (hmem | ⟨habsent, -⟩ | ⟨other, hother, hdrifted', -⟩)
    · exact MemoryStore.injected?_eq_none_iff.mp hget hmem
    · cases hobject.symm.trans (MemoryStore.object?_of_find?_eq_none habsent)
    · cases hobject.symm.trans hother
      cases hdrifted.symm.trans hdrifted'
  | @updated existing hget hobject hdrifted hreplace =>
    refine ⟨?_, by simp only [effect, hobject, hdrifted, if_true]⟩
    rintro (hmem | ⟨habsent, -⟩ | ⟨-, -, -, hmem⟩)
    · exact MemoryStore.injected?_eq_none_iff.mp hget hmem
    · cases hobject.symm.trans (MemoryStore.object?_of_find?_eq_none habsent)
    · exact MemoryStore.injected?_eq_none_iff.mp hreplace hmem

-- Made one after the other, the stages go as their checks on the first store say: no stage meets
-- the child of another one.
theorem Steps.ends {applied : List (Kind × Applied)} {obstacle : Option Obstacle}
    (hkeys : (stages.map fun st => st.key ns).Nodup)
    (h : Steps ns stages s applied obstacle t) :
    Ends s t (stages.map fun st => st.check ns s) applied obstacle := by
  induction h with
  | finished s => exact .passed (by simp)
  | @stopped st rest s t e h =>
    obtain ⟨hfails, rfl⟩ := h.fails_of_error
    exact .stopped (.here hfails) rfl rfl fun _ _ => rfl
  | @step st rest s t u applied _ _ h hrest ih =>
    obtain ⟨hkey, hrestKeys⟩ := List.nodup_cons.mp hkeys
    obtain ⟨hpass, rfl⟩ := h.passes_of_ok
    have hsame := h.sameOutside
    have hchecks : (rest.map fun r => r.check ns t) = rest.map fun r => r.check ns s := by
      refine List.map_congr_left fun r hr => check_congr hsame.failing (hsame.find? _ ?_)
      rw [List.mem_singleton]
      intro hother
      exact hkey (List.mem_map.mpr ⟨r, hr, hother⟩)
    have hends := ih hrestKeys
    rw [hchecks] at hends
    have hchecked : ∀ c ∈ [st.check ns s], ¬ c.fails := by simpa [check] using hpass
    exact hends.append_left hchecked hsame.find?

end Stage

namespace Operator

open MemoryStore

variable {op : Operator} {now : Instant} {ns name : String} {s t : MemoryStore} {g : Gateway}
  {applied : List (Kind × Applied)} {result : Except Obstacle String}

-- The stages of a pass over a gateway, if it can own children
def stages (op : Operator) (g : Gateway) : List Stage :=
  match Children.ofGateway g (.ofSpec g.spec) op.settings with
  | .ok children => children.stages
  | .error _ => []

-- All that can stop a pass over a gateway, in the order in which it is looked at
def checks (op : Operator) (g : Gateway) (ns : String) (s : MemoryStore) : List Check :=
  g.spec.checks ++ g.ownerCheck :: (op.stages g).map fun st => st.check ns s

-- For a gateway that can own children there are eight checks, the last three about the children.
theorem reasons_checks (op : Operator) (hg : ¬ g.ownerCheck.fails) (ns : String)
    (s : MemoryStore) :
    (op.checks g ns s).map Check.reason =
      ["UnsupportedType", "InvalidPort", "MissingModels", "InvalidModelName",
       "ConfigGenerationFailed", "ConfigMapFailed", "DeploymentFailed", "ServiceFailed"] ∧
    Check.keys (op.checks g ns s) = Children.keys ns g.name := by
  rcases Children.ofGateway_of_ownerCheck g (.ofSpec g.spec) op.settings with
    ⟨hfails, -⟩ | ⟨-, c, hchildren⟩
  · exact absurd hfails hg
  · have hstages : op.stages g = c.stages := by simp only [stages, hchildren]
    rw [checks, hstages]
    exact ⟨rfl, Children.keys_stages hchildren ns⟩

-- A plan fails at one of the checks that are about no child.
theorem ends_of_plan_eq_error {obstacle : Obstacle} (h : op.plan g = .error obstacle) :
    Ends s s (op.checks g ns s) [] (some obstacle) := by
  rcases g.spec.render_of_checks with ⟨before, check, fault, hfirst, hrender, hreason⟩ |
    ⟨hspec, hrender⟩
  · simp only [plan, hrender, Except.error.injEq] at h
    obtain ⟨happlied, hchild⟩ := hfirst.without_child (by simp [GatewaySpec.checks])
    rw [← h, ← happlied]
    exact .stopped (hfirst.append_right _) hreason (by rw [hchild]; rfl) fun _ _ => rfl
  · rcases Children.ofGateway_of_ownerCheck g (.ofSpec g.spec) op.settings with
      ⟨hfails, key, hchildren⟩ | ⟨-, c, hchildren⟩
    · simp only [plan, hrender, hchildren, Except.error.injEq] at h
      have hends : Ends s s (g.ownerCheck :: (op.stages g).map fun st => st.check ns s) []
          (some obstacle) := by
        rw [← h]
        exact .stopped (.here hfails) rfl rfl fun _ _ => rfl
      exact hends.append_left hspec fun _ _ => rfl
    · simp only [plan, hrender, hchildren, reduceCtorEq] at h

-- Where there is a plan, only the children are left to be checked.
theorem ends_of_plan_eq_ok {children : Children} {hash : String}
    (h : op.plan g = .ok (children, hash)) {obstacle : Option Obstacle}
    (hends : Ends s t (children.stages.map fun st => st.check ns s) applied obstacle) :
    Ends s t (op.checks g ns s) applied obstacle := by
  rcases g.spec.render_of_checks with ⟨_, _, fault, -, hrender, -⟩ | ⟨hspec, hrender⟩
  · simp only [plan, hrender, reduceCtorEq] at h
  · rcases Children.ofGateway_of_ownerCheck g (.ofSpec g.spec) op.settings with
      ⟨-, key, hchildren⟩ | ⟨howner, c, hchildren⟩
    · simp only [plan, hrender, hchildren, reduceCtorEq] at h
    · simp only [plan, hrender, hchildren, Except.ok.injEq, Prod.mk.injEq] at h
      obtain ⟨rfl, -⟩ := h
      have hstages : op.stages g = c.stages := by simp only [stages, hchildren]
      have hchecked : ∀ c ∈ [g.ownerCheck], ¬ c.fails := by simpa using howner
      have howned := hends.append_left hchecked fun _ _ => rfl
      rw [checks, hstages]
      exact howned.append_left hspec fun _ _ => rfl

theorem Applies.ends_of_error {obstacle : Obstacle}
    (h : op.Applies g ns s applied (.error obstacle) t) :
    Ends s t (op.checks g ns s) applied (some obstacle) := by
  cases h with
  | unplanned hplan => exact ends_of_plan_eq_error hplan
  | stopped hplan hsteps =>
    exact ends_of_plan_eq_ok hplan (hsteps.ends (Children.nodup_keys _ ns))

theorem Applies.ends_of_ok {hash : String} (h : op.Applies g ns s applied (.ok hash) t) :
    Ends s t (op.checks g ns s) applied none ∧ hash = (RenderedConfig.ofSpec g.spec).hash := by
  cases h with
  | finished hplan hsteps =>
    refine ⟨ends_of_plan_eq_ok hplan (hsteps.ends (Children.nodup_keys _ ns)), ?_⟩
    obtain ⟨rendered, hrendered, -, hhash⟩ := plan_eq_ok hplan
    rcases g.spec.render_of_checks with ⟨_, _, _, -, hfault, -⟩ | ⟨-, hrender⟩
    · cases hfault.symm.trans hrendered
    · cases hrender.symm.trans hrendered
      exact hhash

-- A pass over a gateway of ours reports what became of its children, unless the status cannot be
-- written; the status is written over no child.
theorem Claims.exists_report (hs : s.WellKeyed) (hclaims : op.Claims ns name s g)
    (hstatus : s.injected? .gateway .status = none) (happlies : op.Applies g ns s applied result t)
    (now : Instant) :
    ∃ written u, (op.pass now ns name).run handle s =
        (some (.ok ⟨outcomeOf result, applied, written⟩), u) ∧
      ∀ key, key.kind ≠ .gateway → u.find? key = t.find? key := by
  obtain ⟨keys, hsame, -⟩ := happlies.sameOutside
  cases hchanged : GatewayStatus.changed g.status (nextStatus g result now) with
  | false => exact ⟨_, _, (Passes.unchanged hclaims happlies hchanged).run hs, fun _ _ => rfl⟩
  | true =>
    have hstatus' := (injected?_congr hsame.failing .gateway .status).trans hstatus
    exact ⟨_, _, (Passes.written hclaims happlies hchanged hstatus').run hs,
      fun _ hkind => find?_withStatus_of_ne t g _ hkind⟩

-- For every store whose objects stand under their own keys, whatever it is told to fail but to get
-- a gateway and to write a status: a pass over a gateway of ours reports, and what it reports is
-- decided by the first check that fails. From the child of that check on, no child is touched.
theorem report_of_checks (hs : s.WellKeyed) (hget : (.gateway, .get) ∉ s.failing)
    (hstatus : (.gateway, .status) ∉ s.failing)
    (hobject : s.object? .gateway ns name = some (some g))
    (hassigned : GatewayClass.assigns op.controller g.className? s.classes = true)
    (now : Instant) :
    ∃ report t, (op.pass now ns name).run handle s = (some (.ok report), t) ∧
      ((∀ check ∈ op.checks g ns s, ¬ check.fails) →
        report.outcome = .ready (RenderedConfig.ofSpec g.spec).hash ∧
        report.applied = Check.applied (op.checks g ns s)) ∧
      ∀ before check, FirstFailing (op.checks g ns s) before check →
        (∃ message, report.outcome =
          .failed { reason := check.reason, message, retryable := check.child?.isSome }) ∧
        report.applied = Check.applied before ∧
        ∀ key ∈ Children.keys ns name, key ∉ Check.keys before → t.find? key = s.find? key := by
  have hclaims : op.Claims ns name s g := ⟨injected?_eq_none_iff.mpr hget, hobject, hassigned⟩
  obtain ⟨hg, hkey⟩ := hclaims.wellFormed hs
  obtain ⟨applied, result, t, happlies⟩ := exists_applies op hs hg (congrArg ObjectKey.ns hkey)
  obtain ⟨written, u, hrun, hfind⟩ :=
    hclaims.exists_report hs (injected?_eq_none_iff.mpr hstatus) happlies now
  refine ⟨_, u, hrun, ?_⟩
  cases result with
  | ok hash =>
    obtain ⟨hends, rfl⟩ := happlies.ends_of_ok
    cases hends with
    | passed hpass =>
      exact ⟨fun _ => ⟨rfl, rfl⟩, fun before check hfirst => absurd hpass hfirst.not_forall⟩
  | error obstacle =>
    cases happlies.ends_of_error with
    | @stopped before check _ hfirst hreason hretryable hsame =>
      refine ⟨fun hpass => absurd hpass hfirst.not_forall, fun before' check' hfirst' => ?_⟩
      obtain ⟨rfl, rfl⟩ := hfirst.unique hfirst'
      refine ⟨⟨obstacle.message, ?_⟩, rfl, fun key hmem hbefore => ?_⟩
      · rw [← hreason, ← hretryable]
        rfl
      · rw [hfind key (Children.kind_ne_gateway_of_mem_keys hmem), hsame key hbefore]

def servicelessStore : MemoryStore := freshStore.fail .service .create

-- All children are absent, and of these only the service cannot be created.
theorem firstFailing_serviceless :
    ∃ before check, FirstFailing (({} : Operator).checks freshGateway "default" servicelessStore)
        before check ∧
      check.reason = "ServiceFailed" ∧ check.child?.isSome = true ∧
      Check.applied before = [(.configMap, .created), (.deployment, .created)] ∧
      ⟨.service, "default", "gw"⟩ ∉ Check.keys before := by
  obtain ⟨c, hc⟩ : ∃ c, Children.ofGateway freshGateway (.ofSpec freshGateway.spec) {} = .ok c :=
    ⟨_, rfl⟩
  have hstages : ({} : Operator).stages freshGateway = c.stages := by simp only [stages, hc]
  have habsent (st : Stage) (hst : st ∈ c.stages) :
      servicelessStore.find? (st.key "default") = none :=
    find?_put_of_ne {} (fun h => c.kind_ne_gateway st hst (congrArg ObjectKey.kind h)) _
  have hfails (st : Stage) (hst : st ∈ c.stages) :
      st.Fails "default" servicelessStore ↔ st.kind = .service := by
    have hfailing : servicelessStore.failing = [(.service, .create)] := rfl
    rw [Stage.fails_iff_of_absent (habsent st hst), hfailing]
    simp
  have hmem : ∀ st ∈ c.stages, (st.check "default" servicelessStore).child? =
      some (st.key "default", .created) := fun st hst => by
    rw [Stage.check, Stage.effect_of_absent (habsent st hst)]
  simp only [Children.stages, List.forall_mem_cons] at hfails hmem
  obtain ⟨hmap, hdeployment, hservice, -⟩ := hfails
  have hspec : ∀ check ∈ freshGateway.spec.checks, ¬ check.fails := by
    simp [GatewaySpec.checks, freshGateway]
  have howner : ¬ freshGateway.ownerCheck.fails := by simp [Gateway.ownerCheck, freshGateway]
  have hfirst : FirstFailing (c.stages.map fun st => st.check "default" servicelessStore) _ _ :=
    .later (mt hmap.mp (by simp)) (.later (mt hdeployment.mp (by simp))
      (.here (hservice.mpr trivial)))
  rw [checks, hstages]
  refine ⟨_, _, (FirstFailing.later howner hfirst).append_left hspec, rfl, rfl, ?_, ?_⟩
  · simp [Check.applied, GatewaySpec.checks, Gateway.ownerCheck, hmem, Stage.key]
  · simp [Check.keys, GatewaySpec.checks, Gateway.ownerCheck, hmem, Stage.key]

theorem report_of_checks_serviceless :
    servicelessStore.WellKeyed ∧
      ∃ report t,
        (({} : Operator).pass ⟨0, false⟩ "default" "gw").run handle servicelessStore =
          (some (.ok report), t) ∧
        (∃ message, report.outcome = .failed ⟨"ServiceFailed", message, true⟩) ∧
        report.applied = [(.configMap, .created), (.deployment, .created)] ∧
        t.find? ⟨.service, "default", "gw"⟩ =
          servicelessStore.find? ⟨.service, "default", "gw"⟩ := by
  have hs : servicelessStore.WellKeyed := wellKeyed_freshStore
  have hobject : servicelessStore.object? .gateway "default" "gw" = some (some freshGateway) :=
    object?_freshStore
  have hassigned : GatewayClass.assigns ({} : Operator).controller freshGateway.className?
      servicelessStore.classes = true := by decide
  obtain ⟨before, check, hfirst, hreason, hchild, happlied, hkeys⟩ := firstFailing_serviceless
  obtain ⟨report, t, hrun, -, hstopped⟩ :=
    report_of_checks hs (by decide) (by decide) hobject hassigned ⟨0, false⟩
  obtain ⟨⟨message, houtcome⟩, happlied', hfind⟩ := hstopped before check hfirst
  rw [hreason, hchild] at houtcome
  exact ⟨hs, report, t, hrun, ⟨message, houtcome⟩, happlied'.trans happlied,
    hfind _ (by simp [Children.keys]) hkeys⟩

end Operator

end GatewayOperator
