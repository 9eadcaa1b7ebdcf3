import GatewayOperator.Metrics.Exposition
import GatewayOperator.Proofs.Controller.Counters
import GatewayOperator.Proofs.Pass.Ready
import Mathlib.Algebra.GroupWithZero.Nat
import Mathlib.Data.Fintype.BigOperators
import Mathlib.Data.List.Forall2
import Mathlib.Data.List.ReduceOption

namespace GatewayOperator

instance : Fintype PassResult where
  elems := ⟨PassResult.all, by decide⟩
  complete r := by cases r <;> decide

instance : Fintype Kind where
  elems := ⟨Metrics.kinds, by decide⟩
  complete kind := by cases kind <;> decide

instance : Fintype Applied where
  elems := ⟨[Applied.created, .updated, .unchanged], by decide⟩
  complete applied := by cases applied <;> decide

namespace Metrics

-- Writes to children are counted apart from all else.
theorem countWrites_frame (m : Metrics) (applied : List (Kind × Applied)) :
    (applied.foldl (fun m a => m.countWrite a.1 a.2) m).passes = m.passes ∧
    (applied.foldl (fun m a => m.countWrite a.1 a.2) m).errors = m.errors ∧
    (applied.foldl (fun m a => m.countWrite a.1 a.2) m).observations = m.observations := by
  induction applied generalizing m with
  | nil => exact ⟨rfl, rfl, rfl⟩
  | cons a rest ih =>
    obtain ⟨hpasses, herrors, hobservations⟩ := ih (m.countWrite a.1 a.2)
    rw [List.foldl_cons, hpasses, herrors, hobservations]
    unfold countWrite
    split <;> exact ⟨rfl, rfl, rfl⟩

@[simp] theorem passes_record (m : Metrics) (report : Report) (r : PassResult) :
    (m.record report).passes r =
      m.passes r + if PassResult.ofOutcome report.outcome = r then 1 else 0 := by
  rw [record, (countWrites_frame _ _).1, countPass]
  by_cases h : PassResult.ofOutcome report.outcome = r
  · simp [h]
  · simp [h, Ne.symm h]

@[simp] theorem errors_record (m : Metrics) (report : Report) :
    (m.record report).errors = m.errors :=
  (countWrites_frame _ _).2.1

@[simp] theorem observations_record (m : Metrics) (report : Report) :
    (m.record report).observations = m.observations :=
  (countWrites_frame _ _).2.2

end Metrics

namespace Controller

namespace Invocation

variable {c : Controller} {i : Invocation} {m after : Metrics}

-- What the pass of an invocation has concluded with: a report, or nothing if it has ended with an
-- error or was not even started.
inductive Concludes (c : Controller) (i : Invocation) : Option Report → Prop where
  | missingNamespace (hns : i.gateway.metadata.ns = none) : Concludes c i none
  | failed {ns : String} {e : PassError} (hns : i.gateway.metadata.ns = some ns)
      (hpass : (c.operator.pass i.now ns i.gateway.name).Dialogue i.calls (.error e)) :
      Concludes c i none
  | reported {ns : String} {report : Report} (hns : i.gateway.metadata.ns = some ns)
      (hpass : (c.operator.pass i.now ns i.gateway.name).Dialogue i.calls (.ok report)) :
      Concludes c i (some report)

theorem rightUnique_concludes (c : Controller) : Relator.RightUnique (Concludes c) := by
  intro i result other h h'
  cases h with
  | missingNamespace hns =>
    cases h' with
    | missingNamespace => rfl
    | failed => rfl
    | reported hns' => simp [hns] at hns'
  | failed hns hpass =>
    cases h' with
    | missingNamespace => rfl
    | failed => rfl
    | reported hns' hpass' =>
      cases hns.symm.trans hns'
      cases hpass.unique hpass'
  | reported hns hpass =>
    cases h' with
    | missingNamespace hns' => simp [hns] at hns'
    | failed hns' hpass' =>
      cases hns.symm.trans hns'
      cases hpass.unique hpass'
    | reported hns' hpass' =>
      cases hns.symm.trans hns'
      cases hpass.unique hpass'
      rfl

-- An invocation has returned an error if and only if its pass has no report.
theorem Ends.error_eq_none_iff (h : i.Ends c m after) :
    i.error = none ↔ ∃ report, i.Concludes c (some report) := by
  have hnone {report : Report} (hresult : i.Concludes c none) :
      ¬ i.Concludes c (some report) := fun hreport => by
    cases rightUnique_concludes c hresult hreport
  cases h with
  | missingNamespace hns hcalls haction herror =>
    refine iff_of_false (by simp [herror]) ?_
    exact fun ⟨_, hreport⟩ => hnone (.missingNamespace hns) hreport
  | failed hns hpass haction herror =>
    refine iff_of_false (by simp [herror]) ?_
    exact fun ⟨_, hreport⟩ => hnone (.failed hns hpass) hreport
  | reported hns hpass haction herror =>
    exact iff_of_true herror ⟨_, .reported hns hpass⟩

-- The three ways to end are all there are, and each of them can be taken.
theorem Ends.takes (h : i.Ends c m after) : i.Takes c m after := by
  obtain ⟨gateway, now, seconds, calls, action, error⟩ := i
  cases h with
  | missingNamespace hns hcalls haction herror =>
    dsimp only at hns hcalls haction herror
    subst hcalls haction herror
    simp only [Takes, invoke, reconcile, hns]
    exact .done _
  | @failed ns e hns hpass haction herror =>
    dsimp only at hns hpass haction herror
    subst haction herror
    have htried : (c.reconcile now seconds gateway m).Dialogue (calls ++ [])
        (.error (.pass e), m.observe seconds) := by
      simp only [reconcile, hns]
      exact hpass.bind (.done _)
    rw [List.append_nil] at htried
    exact List.append_nil calls ▸ htried.bind (.done _)
  | @reported ns report hns hpass haction herror =>
    dsimp only at hns hpass haction herror
    subst haction herror
    have htried : (c.reconcile now seconds gateway m).Dialogue (calls ++ [])
        (.ok (c.actionFor report.outcome), (m.observe seconds).record report) := by
      simp only [reconcile, hns]
      exact hpass.bind (.done _)
    rw [List.append_nil] at htried
    exact List.append_nil calls ▸ htried.bind (.done _)

end Invocation

-- What the metrics are to say after these invocations, whose passes have concluded with these
-- results.
structure Balance (c : Controller) (past : List Invocation) (results : List (Option Report))
    (m : Metrics) : Prop where
  concluded : List.Forall₂ (Invocation.Concludes c) past results
  passes (r : PassResult) :
    m.passes r = (results.reduceOption.map fun report => .ofOutcome report.outcome).count r
  failed : m.errors = (results.filter Option.isNone).length
  errors : m.errors = past.countP fun i => i.error.isSome
  observations : m.observations = past.countP fun i => i.gateway.metadata.ns.isSome
  childWrites (kind : Kind) (applied : Applied) :
    m.childWrites kind applied =
      (results.reduceOption.flatMap fun report => changes report.applied).count (kind, applied)

namespace Balance

variable {c : Controller} {past : List Invocation} {results : List (Option Report)}
  {i : Invocation} {m after : Metrics}

theorem start (c : Controller) : Balance c [] [] {} :=
  ⟨.nil, fun _ => rfl, rfl, rfl, rfl, fun _ _ => rfl⟩

theorem next (h : Balance c past results m) (hends : i.Ends c m after) :
    ∃ result, Balance c (past ++ [i]) (results ++ [result]) after := by
  have hconcluded {result : Option Report} (hresult : i.Concludes c result) :
      List.Forall₂ (Invocation.Concludes c) (past ++ [i]) (results ++ [result]) :=
    List.rel_append h.concluded (.cons hresult .nil)
  have hkept : (results ++ [none]).reduceOption = results.reduceOption := by
    rw [List.reduceOption_append, List.reduceOption_singleton]
    exact List.append_nil _
  cases hends with
  | missingNamespace hns hcalls haction herror =>
    exact ⟨none,
      { concluded := hconcluded (.missingNamespace hns)
        passes := hkept ▸ h.passes
        failed := by simp [Metrics.countError, h.failed]
        errors := by simp [Metrics.countError, h.errors, herror]
        observations := by simp [Metrics.countError, h.observations, hns]
        childWrites := hkept ▸ h.childWrites }⟩
  | failed hns hpass haction herror =>
    exact ⟨none,
      { concluded := hconcluded (.failed hns hpass)
        passes := hkept ▸ h.passes
        failed := by simp [Metrics.countError, Metrics.observe, h.failed]
        errors := by simp [Metrics.countError, Metrics.observe, h.errors, herror]
        observations := by simp [Metrics.countError, Metrics.observe, h.observations, hns]
        childWrites := hkept ▸ h.childWrites }⟩
  | @reported ns report hns hpass haction herror =>
    have hadded : (results ++ [some report]).reduceOption = results.reduceOption ++ [report] := by
      rw [List.reduceOption_append, List.reduceOption_singleton]
      rfl
    exact ⟨some report,
      { concluded := hconcluded (.reported hns hpass)
        passes := fun r => by
          rw [Metrics.passes_record, hadded, List.map_append, List.count_append, ← h.passes]
          simp [Metrics.observe, List.count_singleton]
        failed := by simp [Metrics.observe, h.failed]
        errors := by simp [Metrics.observe, h.errors, herror]
        observations := by simp [Metrics.observe, h.observations, hns]
        childWrites := fun kind applied => by
          rw [Metrics.childWrites_record, hadded, List.flatMap_append, List.count_append,
            ← h.childWrites]
          simp [Metrics.observe] }⟩

end Balance

-- Every invocation is counted once.
theorem Balance.sum_passes {c : Controller} {past : List Invocation}
    {results : List (Option Report)} {m : Metrics} (h : Balance c past results m) :
    (∑ r, m.passes r) + m.errors = past.length := by
  have hpasses : ∑ r, m.passes r = results.reduceOption.length := by
    calc ∑ r, m.passes r
        = ∑ r, (results.reduceOption.map fun report =>
            PassResult.ofOutcome report.outcome : Multiset PassResult).count r :=
          Finset.sum_congr rfl fun r _ => (h.passes r).trans (Multiset.coe_count r _).symm
      _ = results.reduceOption.length := by
          rw [Multiset.sum_count_eq_card fun r _ => Finset.mem_univ r, Multiset.coe_card,
            List.length_map]
  rw [hpasses, h.failed, h.concluded.length_eq]
  exact List.length_eq_reduceOption_length_add_filter_none.symm

-- The writes are those that the reports give the number of.
theorem Balance.sum_childWrites {c : Controller} {past : List Invocation}
    {results : List (Option Report)} {m : Metrics} (h : Balance c past results m) :
    ∑ kind, ∑ applied, m.childWrites kind applied =
      (results.reduceOption.map Report.writes).sum := by
  have hcount (a : Kind × Applied) :
      m.childWrites a.1 a.2 = ((results.reduceOption.flatMap fun report => changes report.applied :
        List (Kind × Applied)) : Multiset (Kind × Applied)).count a := by
    rw [h.childWrites, Multiset.coe_count]
    congr 1
    exact lawful_beq_subsingleton _ _
  calc ∑ kind, ∑ applied, m.childWrites kind applied
      = ∑ a : Kind × Applied, m.childWrites a.1 a.2 := by
        rw [Fintype.sum_prod_type]
    _ = ∑ a : Kind × Applied,
          ((results.reduceOption.flatMap fun report => changes report.applied :
            List (Kind × Applied)) : Multiset (Kind × Applied)).count a :=
        Finset.sum_congr rfl fun a _ => hcount a
    _ = (results.reduceOption.flatMap fun report => changes report.applied).length := by
        rw [Multiset.sum_count_eq_card fun a _ => Finset.mem_univ a, Multiset.coe_card]
    _ = (results.reduceOption.map Report.writes).sum := by
        simp only [List.length_flatMap, length_changes]

theorem History.exists_balance {c : Controller} {past : List Invocation} {m : Metrics}
    (h : c.History past m) : ∃ results, Balance c past results m := by
  induction h with
  | start => exact ⟨[], .start c⟩
  | next _ hnext ih =>
    obtain ⟨results, hbalance⟩ := ih
    obtain ⟨result, hbalance⟩ := hbalance.next hnext.ends
    exact ⟨results ++ [result], hbalance⟩

theorem History.error_eq_none_iff {c : Controller} {past : List Invocation} {m : Metrics}
    (h : c.History past m) :
    ∀ i ∈ past, i.error = none ↔ ∃ report, i.Concludes c (some report) := by
  induction h with
  | start => simp
  | next _ hnext ih =>
    rw [List.forall_mem_append]
    exact ⟨ih, by simpa using hnext.ends.error_eq_none_iff⟩

-- The books balance: every invocation is counted once, as a pass with its result or as an error,
-- every pass is timed, and the writes to children add up to those of the reports.
theorem balanced_of_history {c : Controller} {past : List Invocation} {m : Metrics}
    (h : c.History past m) :
    ∃ results : List (Option Report),
      (∀ others, List.Forall₂ (Invocation.Concludes c) past others ↔ others = results) ∧
      (∀ i ∈ past, i.error = none ↔ ∃ report, i.Concludes c (some report)) ∧
      (∑ r, m.passes r) + m.errors = past.length ∧
      (∀ r, m.passes r =
        (results.reduceOption.map fun report => .ofOutcome report.outcome).count r) ∧
      m.errors = past.countP (fun i => i.error.isSome) ∧
      m.observations = past.countP (fun i => i.gateway.metadata.ns.isSome) ∧
      ∑ kind, ∑ applied, m.childWrites kind applied =
        (results.reduceOption.map Report.writes).sum := by
  obtain ⟨results, hbalance⟩ := h.exists_balance
  have hunique (others : List (Option Report)) :
      List.Forall₂ (Invocation.Concludes c) past others ↔ others = results := by
    constructor
    · intro hothers
      exact (Invocation.rightUnique_concludes c).forall₂ hothers hbalance.concluded
    · rintro rfl
      exact hbalance.concluded
  exact ⟨results, hunique, h.error_eq_none_iff, hbalance.sum_passes, hbalance.passes,
    hbalance.errors, hbalance.observations, hbalance.sum_childWrites⟩

-- A gateway that the controller finds no namespace for
def strandedInvocation : Invocation :=
  { gateway := { Operator.freshGateway with
      metadata := { Operator.freshGateway.metadata with ns := none } }
    now := ⟨0, false⟩
    seconds := 0
    calls := []
    action := .requeue 30000
    error := some (.missingNamespace "gw") }

def readyInvocation (report : Report) : Invocation :=
  { gateway := Operator.freshGateway
    now := ⟨0, false⟩
    seconds := 0
    calls := (({} : Operator).pass ⟨0, false⟩ "default" "gw").trace MemoryStore.handle
      Operator.freshStore
    action := ({} : Controller).actionFor report.outcome
    error := none }

-- A lost status, a gateway without a namespace and one that becomes ready
theorem balanced_of_mixed :
    ∃ report m past, past = [statuslessInvocation, strandedInvocation, readyInvocation report] ∧
      ({} : Controller).History past m ∧
      ∃ results : List (Option Report),
        (∀ others, List.Forall₂ (Invocation.Concludes {}) past others ↔ others = results) ∧
        (∀ i ∈ past, i.error = none ↔ ∃ report, i.Concludes {} (some report)) ∧
        (∑ r, m.passes r) + m.errors = past.length ∧
        (∀ r, m.passes r =
          (results.reduceOption.map fun report => .ofOutcome report.outcome).count r) ∧
        m.errors = past.countP (fun i => i.error.isSome) ∧
        m.observations = past.countP (fun i => i.gateway.metadata.ns.isSome) ∧
        ∑ kind, ∑ applied, m.childWrites kind applied =
          (results.reduceOption.map Report.writes).sum := by
  obtain ⟨m, hlost⟩ := exists_history_statusless
  have hstranded : strandedInvocation.Ends {} m m.countError := .missingNamespace rfl rfl rfl rfl
  obtain ⟨hash, report, t, hrun, -⟩ := Operator.exists_ready_freshStore ⟨0, false⟩
  have hready : (readyInvocation report).Ends {} m.countError
      ((m.countError.observe 0).record report) :=
    .reported rfl (Program.dialogue_of_run hrun) rfl rfl
  have h := (hlost.next hstranded.takes).next hready.takes
  exact ⟨report, _, _, rfl, h, balanced_of_history h⟩

end Controller

end GatewayOperator
