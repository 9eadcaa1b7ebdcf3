import GatewayOperator.Proofs.Pass.Dialogue
import GatewayOperator.Proofs.Pass.Repeat
import GatewayOperator.Proofs.Pass.Settled

namespace GatewayOperator

-- The name under which a gateway has its child of a kind
def Children.nameOf (kind : Kind) (gatewayName : String) : String :=
  match kind with
  | .configMap => configMapName gatewayName
  | _ => gatewayName

theorem Children.name_stages {g : Gateway} {rendered : RenderedConfig} {settings : ProxySettings}
    {c : Children} (h : ofGateway g rendered settings = .ok c) :
    ∀ st ∈ c.stages, st.name = nameOf st.kind g.name := by
  have hkeys := keys_stages h ""
  simp only [stages, List.map_cons, List.map_nil, keys, List.cons.injEq, Stage.key,
    ObjectKey.mk.injEq] at hkeys
  simpa [stages, nameOf] using hkeys

namespace Write

-- The entry that tells what was done to a child of the named gateway, unless it was left alone
def ofApplied? (gatewayName : String) : Kind × Applied → Option Write
  | (kind, .created) => some ⟨kind, .create, Children.nameOf kind gatewayName⟩
  | (kind, .updated) => some ⟨kind, .replace, Children.nameOf kind gatewayName⟩
  | (_, .unchanged) => none

theorem countP_ofApplied? (gatewayName : String) (applied : List (Kind × Applied)) :
    (applied.filterMap (ofApplied? gatewayName)).countP (fun w => w.operation ≠ .status) =
      applied.countP fun a => a.2 ≠ .unchanged := by
  induction applied with
  | nil => rfl
  | cons a rest ih =>
    obtain ⟨kind, applied⟩ := a
    cases applied with
    | created | updated => simpa [ofApplied?] using ih
    | unchanged =>
      rw [List.filterMap_cons_none rfl, ih]
      simp

end Write

-- The entries that a pass with this report adds to the log
def Report.entries (gatewayName : String) (r : Report) : List Write :=
  r.applied.filterMap (Write.ofApplied? gatewayName) ++
    if r.statusWritten then [⟨.gateway, .status, gatewayName⟩] else []

theorem MemoryStore.childWrites_of_log_eq {s t : MemoryStore} {gatewayName : String}
    {report : Report} (h : t.log = s.log ++ report.entries gatewayName) :
    t.childWrites = s.childWrites + report.writes := by
  have hstatus : (if report.statusWritten then
      [(⟨.gateway, .status, gatewayName⟩ : Write)] else []).countP
        (fun w => w.operation ≠ .status) = 0 := by
    split <;> simp
  rw [childWrites, h, Report.entries, List.countP_append, List.countP_append,
    Write.countP_ofApplied?, hstatus]
  rfl

namespace Stage

variable {st : Stage} {stages : List Stage} {ns gatewayName : String} {s t : MemoryStore}

theorem Step.log_eq (hname : st.name = Children.nameOf st.kind gatewayName) {applied : Applied}
    (h : st.Step ns s (.ok applied) t) :
    t.log = s.log ++ [(st.kind, applied)].filterMap (Write.ofApplied? gatewayName) := by
  cases h with
  | unchanged => exact (List.append_nil _).symm
  | created | updated =>
    rw [hname]
    rfl

theorem Step.log_eq_of_error {e : ApiError} (h : st.Step ns s (.error e) t) : t.log = s.log := by
  cases h <;> rfl

theorem Steps.log_eq {applied : List (Kind × Applied)} {obstacle : Option Obstacle}
    (hnames : ∀ st ∈ stages, st.name = Children.nameOf st.kind gatewayName)
    (h : Steps ns stages s applied obstacle t) :
    t.log = s.log ++ applied.filterMap (Write.ofApplied? gatewayName) := by
  induction h with
  | finished s => exact (List.append_nil _).symm
  | stopped h =>
    rw [h.log_eq_of_error]
    exact (List.append_nil _).symm
  | @step st rest _ _ _ applied more _ h _ ih =>
    have hfirst := h.log_eq (hnames st List.mem_cons_self)
    have hrest := ih fun st hst => hnames st (List.mem_cons_of_mem _ hst)
    rw [hrest, hfirst, List.append_assoc, ← List.filterMap_append]
    rfl

end Stage

namespace Operator

variable {op : Operator} {now : Instant} {ns name : String} {s t : MemoryStore} {g : Gateway}

theorem Applies.log_eq {applied : List (Kind × Applied)} {result : Except Obstacle String}
    (h : op.Applies g ns s applied result t) :
    t.log = s.log ++ applied.filterMap (Write.ofApplied? g.name) := by
  cases h with
  | unplanned => exact (List.append_nil _).symm
  | stopped hplan hsteps | finished hplan hsteps =>
    obtain ⟨rendered, -, hchildren, -⟩ := plan_eq_ok hplan
    exact hsteps.log_eq (Children.name_stages hchildren)

theorem Claims.name_eq (hs : s.WellKeyed) (h : op.Claims ns name s g) : g.name = name :=
  congrArg ObjectKey.name (h.wellFormed hs).2

-- A pass over no gateway of ours does nothing.
theorem Passes.entries_eq_nil {report : Report} (h : op.Passes now ns name s (.ok report) t)
    (hidle : report.outcome = .notFound ∨ report.outcome = .skipped) :
    report.entries name = [] := by
  cases h with
  | notFound | skipped => rfl
  | @unchanged _ _ result | @written _ _ result => cases result <;> simp [outcomeOf] at hidle

theorem Passes.log_eq (hs : s.WellKeyed) {report : Report}
    (h : op.Passes now ns name s (.ok report) t) : t.log = s.log ++ report.entries name := by
  cases h with
  | notFound | skipped => exact (List.append_nil _).symm
  | unchanged hclaims happlies =>
    cases hclaims.name_eq hs
    rw [happlies.log_eq, Report.entries]
    exact congrArg _ (List.append_nil _).symm
  | @written g applied result u hclaims happlies =>
    cases hclaims.name_eq hs
    have hstatus : (u.withStatus g (nextStatus g result now)).log =
      u.log ++ [⟨.gateway, .status, g.name⟩] := rfl
    rw [hstatus, happlies.log_eq, List.append_assoc]
    rfl

-- A pass with a report adds to the log what the report says, child after child and then the status,
-- so that the report counts the writes of children; it adds nothing if it has found no gateway of
-- ours. A pass that cannot write the status adds what it has done to the children, and no more.
theorem exists_log (op : Operator) (hs : s.WellKeyed) (now : Instant) (ns name : String) :
    ∃ (result : Except PassError Report) (t : MemoryStore),
      (op.pass now ns name).run MemoryStore.handle s = (some result, t) ∧
      (∀ report, result = .ok report →
        t.log = s.log ++ (report.applied.filterMap (Write.ofApplied? name) ++
          if report.statusWritten then [⟨.gateway, .status, name⟩] else []) ∧
        t.childWrites = s.childWrites + report.writes ∧
        (acceptedWrites ((op.pass now ns name).trace MemoryStore.handle s)).length =
          report.writes ∧
        (report.outcome = .notFound ∨ report.outcome = .skipped → t.log = s.log)) ∧
      ∀ e, result = .error (.statusWrite e) →
        ∃ g applied made, s.object? .gateway ns name = some (some g) ∧
          (op.applyChildren g ns).run MemoryStore.handle s = (some (applied, made), t) ∧
          t.log = s.log ++ applied.filterMap (Write.ofApplied? name) := by
  obtain ⟨result, t, hpasses⟩ := exists_passes op now ns name hs
  have hrun := hpasses.run hs
  refine ⟨result, t, hrun, ?_, ?_⟩
  · rintro report rfl
    have hlog := hpasses.log_eq hs
    have haccepted := accounts_of_pass (Program.dialogue_of_run hrun)
    refine ⟨hlog, MemoryStore.childWrites_of_log_eq hlog, ?_, fun hidle => ?_⟩
    · rw [show acceptedWrites _ = changes report.applied from haccepted, length_changes]
    · rw [hlog, hpasses.entries_eq_nil hidle, List.append_nil]
  · rintro e rfl
    cases hpasses with
    | @statusFails g applied made _ _ hclaims happlies =>
      obtain ⟨hg, hkey⟩ := hclaims.wellFormed hs
      have hchildren := happlies.run hg (congrArg ObjectKey.ns hkey)
      refine ⟨g, applied, made, hclaims.object, hchildren, ?_⟩
      rw [happlies.log_eq, hclaims.name_eq hs]

-- The service cannot be made; the two children before it are in the log, and the status.
theorem exists_log_without_service :
    ∃ (result : Except PassError Report) (t : MemoryStore),
      (({} : Operator).pass ⟨0, false⟩ "default" "gw").run MemoryStore.handle
        (freshStore.fail .service .create) = (some result, t) ∧
      (∀ report, result = .ok report →
        t.log = (freshStore.fail .service .create).log ++
          (report.applied.filterMap (Write.ofApplied? "gw") ++
            if report.statusWritten then [⟨.gateway, .status, "gw"⟩] else []) ∧
        t.childWrites = (freshStore.fail .service .create).childWrites + report.writes ∧
        (acceptedWrites ((({} : Operator).pass ⟨0, false⟩ "default" "gw").trace
          MemoryStore.handle (freshStore.fail .service .create))).length = report.writes ∧
        (report.outcome = .notFound ∨ report.outcome = .skipped →
          t.log = (freshStore.fail .service .create).log)) ∧
      ∀ e, result = .error (.statusWrite e) →
        ∃ g applied made,
          (freshStore.fail .service .create).object? .gateway "default" "gw" = some (some g) ∧
          (({} : Operator).applyChildren g "default").run MemoryStore.handle
            (freshStore.fail .service .create) = (some (applied, made), t) ∧
          t.log = (freshStore.fail .service .create).log ++
            applied.filterMap (Write.ofApplied? "gw") :=
  have hs : (freshStore.fail .service .create).WellKeyed := wellKeyed_freshStore
  exists_log {} hs ⟨0, false⟩ "default" "gw"

example :
    ((({} : Operator).pass ⟨0, false⟩ "default" "gw").run MemoryStore.handle
      (freshStore.fail .service .create)).2.log =
      [⟨.configMap, .create, "gw-config"⟩, ⟨.deployment, .create, "gw"⟩,
        ⟨.gateway, .status, "gw"⟩] := by
  decide +kernel

end Operator

end GatewayOperator
