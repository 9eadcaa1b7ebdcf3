import GatewayOperator.Controller
import GatewayOperator.Proofs.Pass.Dialogue
import GatewayOperator.Proofs.Pass.Repeat

namespace GatewayOperator

namespace Metrics

theorem childWrites_countWrite (m : Metrics) (a : Kind × Applied) (kind : Kind)
    (applied : Applied) :
    (m.countWrite a.1 a.2).childWrites kind applied =
      m.childWrites kind applied + (changes [a]).count (kind, applied) := by
  obtain ⟨k, b⟩ := a
  unfold countWrite
  by_cases hb : b = .unchanged
  · simp [hb, changes]
  · have hchange : changes [(k, b)] = [(k, b)] := by simp [changes, hb]
    rw [if_neg hb, hchange, List.count_singleton]
    by_cases hkey : kind = k ∧ applied = b
    · simp [hkey]
    · have hne : (k, b) ≠ (kind, applied) := by
        rintro ⟨⟩
        exact hkey ⟨rfl, rfl⟩
      simp [hkey, hne]

theorem childWrites_countWrites (m : Metrics) (applied : List (Kind × Applied)) (kind : Kind)
    (what : Applied) :
    (applied.foldl (fun m a => m.countWrite a.1 a.2) m).childWrites kind what =
      m.childWrites kind what + (changes applied).count (kind, what) := by
  induction applied generalizing m with
  | nil => rfl
  | cons a rest ih =>
    rw [List.foldl_cons, ih, childWrites_countWrite, changes_cons a rest, List.count_append,
      Nat.add_assoc]

-- A report is counted with every child that it says was created or updated.
theorem childWrites_record (m : Metrics) (r : Report) (kind : Kind) (applied : Applied) :
    (m.record r).childWrites kind applied =
      m.childWrites kind applied + (changes r.applied).count (kind, applied) :=
  childWrites_countWrites (m.countPass (.ofOutcome r.outcome)) r.applied kind applied

end Metrics

namespace Controller

-- An invocation with the calls it made and how it ended
structure Invocation where
  gateway : Gateway
  now : Instant
  seconds : Float
  calls : List Answered
  action : Action
  error : Option ControllerError

namespace Invocation

variable {c : Controller} {i : Invocation} {m after : Metrics}

-- The controller makes this invocation if its calls get these answers, and then has these metrics.
def Takes (c : Controller) (i : Invocation) (m after : Metrics) : Prop :=
  (c.invoke i.now i.seconds i.gateway m).Dialogue i.calls (i.action, i.error, after)

-- What an invocation comes to: it is an error without a namespace, else a pass, which ends with an
-- error or is recorded.
inductive Ends (c : Controller) (i : Invocation) (m : Metrics) : Metrics → Prop where
  | missingNamespace (hns : i.gateway.metadata.ns = none) (hcalls : i.calls = [])
      (haction : i.action = .requeue c.errorMilliseconds)
      (herror : i.error = some (.missingNamespace i.gateway.name)) : Ends c i m m.countError
  | failed {ns : String} {e : PassError} (hns : i.gateway.metadata.ns = some ns)
      (hpass : (c.operator.pass i.now ns i.gateway.name).Dialogue i.calls (.error e))
      (haction : i.action = .requeue c.errorMilliseconds)
      (herror : i.error = some (.pass e)) : Ends c i m (m.observe i.seconds).countError
  | reported {ns : String} {report : Report} (hns : i.gateway.metadata.ns = some ns)
      (hpass : (c.operator.pass i.now ns i.gateway.name).Dialogue i.calls (.ok report))
      (haction : i.action = c.actionFor report.outcome)
      (herror : i.error = none) : Ends c i m ((m.observe i.seconds).record report)

theorem Takes.ends (h : i.Takes c m after) : i.Ends c m after := by
  obtain ⟨first, tried, rest, hcalls, hfirst, hrest⟩ := Program.Dialogue.exists_of_bind h
  unfold reconcile at hfirst
  split at hfirst
  next hns =>
    obtain ⟨rfl, rfl⟩ := hfirst.eq_of_pure
    obtain ⟨rfl, hresult⟩ := Program.Dialogue.eq_of_pure hrest
    obtain ⟨haction, herror, rfl⟩ := by simpa only [Prod.mk.injEq] using hresult
    exact .missingNamespace hns hcalls haction herror
  next ns hns =>
    obtain ⟨talk, result, more, rfl, htalk, hmore⟩ := hfirst.exists_of_bind
    cases result with
    | error e =>
      obtain ⟨rfl, rfl⟩ := Program.Dialogue.eq_of_pure hmore
      obtain ⟨rfl, hresult⟩ := Program.Dialogue.eq_of_pure hrest
      obtain ⟨haction, herror, rfl⟩ := by simpa only [Prod.mk.injEq] using hresult
      rw [List.append_nil, List.append_nil] at hcalls
      exact .failed hns (hcalls ▸ htalk) haction herror
    | ok report =>
      obtain ⟨rfl, rfl⟩ := Program.Dialogue.eq_of_pure hmore
      obtain ⟨rfl, hresult⟩ := Program.Dialogue.eq_of_pure hrest
      obtain ⟨haction, herror, rfl⟩ := by simpa only [Prod.mk.injEq] using hresult
      rw [List.append_nil, List.append_nil] at hcalls
      exact .reported hns (hcalls ▸ htalk) haction herror

-- The pass over the gateway has come to its end, but could not write the status.
def statusLost (i : Invocation) : Bool :=
  match i.error with
  | some (.pass (.statusWrite _)) => true
  | _ => false

-- An invocation counts the writes that were accepted, if it has not lost the status.
theorem Ends.childWrites (h : i.Ends c m after) (kind : Kind) (applied : Applied) :
    after.childWrites kind applied = m.childWrites kind applied +
      if i.statusLost then 0 else (acceptedWrites i.calls).count (kind, applied) := by
  cases h with
  | missingNamespace hns hcalls haction herror =>
    simp [Metrics.countError, hcalls]
  | @failed ns e hns hpass haction herror =>
    have haccepted := Operator.accounts_of_pass hpass
    cases e with
    | fetch e =>
      have hnone : acceptedWrites i.calls = [] := haccepted
      simp [Metrics.countError, Metrics.observe, hnone]
    | statusWrite e => simp [Metrics.countError, Metrics.observe, statusLost, herror]
  | @reported ns report hns hpass haction herror =>
    have haccepted : acceptedWrites i.calls = changes report.applied :=
      Operator.accounts_of_pass hpass
    have hkept : i.statusLost = false := by simp [statusLost, herror]
    rw [Metrics.childWrites_record, haccepted, hkept]
    rfl

end Invocation

-- Invocations of a controller, first to last, with the metrics after them. Each may be for any
-- gateway and its calls may get any answers.
inductive History (c : Controller) : List Invocation → Metrics → Prop where
  | start : History c [] {}
  | next {past : List Invocation} {i : Invocation} {m after : Metrics} (h : History c past m)
      (hnext : i.Takes c m after) : History c (past ++ [i]) after

-- The writes to children that were accepted in the course of some invocations
def writesIn (past : List Invocation) : List (Kind × Applied) :=
  past.flatMap fun i => acceptedWrites i.calls

theorem writesIn_concat (past : List Invocation) (i : Invocation) :
    writesIn (past ++ [i]) = writesIn past ++ acceptedWrites i.calls := by
  simp [writesIn]

theorem mem_writesIn {past : List Invocation} {a : Kind × Applied} :
    a ∈ writesIn past ↔ ∃ i ∈ past, a ∈ acceptedWrites i.calls :=
  List.mem_flatMap

theorem History.childWrites_add {c : Controller} {past : List Invocation} {m : Metrics}
    (h : c.History past m) (kind : Kind) (applied : Applied) :
    m.childWrites kind applied +
        (writesIn (past.filter Invocation.statusLost)).count (kind, applied) =
      (writesIn past).count (kind, applied) := by
  induction h with
  | start => rfl
  | @next past i m after _ hnext ih =>
    have hcounted := hnext.ends.childWrites kind applied
    rw [writesIn_concat, List.count_append, ← ih, hcounted, List.filter_append]
    cases hlost : i.statusLost with
    | true =>
      have hfilter : [i].filter Invocation.statusLost = [i] := by simp [hlost]
      rw [hfilter, writesIn_concat, List.count_append, if_pos rfl]
      omega
    | false =>
      have hfilter : [i].filter Invocation.statusLost = [] := by simp [hlost]
      rw [hfilter, List.append_nil, if_neg Bool.false_ne_true]
      omega

-- Of the writes that were accepted the counter has all but those of the invocations that have lost
-- the status. So it has all of them if and only if none of these invocations has made such a write.
theorem childWrites_of_history {c : Controller} {past : List Invocation} {m : Metrics}
    (h : c.History past m) (kind : Kind) (applied : Applied) :
    m.childWrites kind applied +
        (writesIn (past.filter Invocation.statusLost)).count (kind, applied) =
      (writesIn past).count (kind, applied) ∧
    (m.childWrites kind applied = (writesIn past).count (kind, applied) ↔
      ∀ i ∈ past, i.statusLost = true → (kind, applied) ∉ acceptedWrites i.calls) := by
  have hsum := h.childWrites_add kind applied
  have hzero : m.childWrites kind applied = (writesIn past).count (kind, applied) ↔
      (writesIn (past.filter Invocation.statusLost)).count (kind, applied) = 0 := by omega
  refine ⟨hsum, hzero.trans ?_⟩
  rw [List.count_eq_zero, mem_writesIn]
  constructor
  · intro hnone i hi hlost hmem
    exact hnone ⟨i, List.mem_filter.mpr ⟨hi, hlost⟩, hmem⟩
  · rintro hnone ⟨i, hi, hmem⟩
    obtain ⟨hi, hlost⟩ := List.mem_filter.mp hi
    exact hnone i hi hlost hmem

-- A store in which children can be made, but the status of the gateway cannot be written
def statuslessStore : MemoryStore := Operator.freshStore.fail .gateway .status

def statuslessProgram : Program (Action × Option ControllerError × Metrics) :=
  ({} : Controller).invoke ⟨0, false⟩ 0 Operator.freshGateway {}

def statuslessInvocation : Invocation :=
  { gateway := Operator.freshGateway
    now := ⟨0, false⟩
    seconds := 0
    calls := statuslessProgram.trace MemoryStore.handle statuslessStore
    action := .requeue 30000
    error := some (.pass (.statusWrite (MemoryStore.injected .gateway .status))) }

theorem exists_history_statusless :
    ∃ after, ({} : Controller).History [statuslessInvocation] after := by
  have hends : (statuslessProgram.run MemoryStore.handle statuslessStore).1.map
      (fun r => (r.1, r.2.1)) = some (statuslessInvocation.action, statuslessInvocation.error) := by
    decide +kernel
  obtain ⟨⟨action, error, after⟩, hresult, hend⟩ := Option.map_eq_some_iff.mp hends
  cases hend
  exact ⟨after, .next .start (Program.dialogue_of_run (Prod.ext hresult rfl))⟩

theorem childWrites_of_statusless :
    ∃ after, ({} : Controller).History [statuslessInvocation] after ∧
      (after.childWrites .deployment .created +
          (writesIn ([statuslessInvocation].filter Invocation.statusLost)).count
            (.deployment, .created) =
        (writesIn [statuslessInvocation]).count (.deployment, .created) ∧
      (after.childWrites .deployment .created =
          (writesIn [statuslessInvocation]).count (.deployment, .created) ↔
        ∀ i ∈ [statuslessInvocation], i.statusLost = true →
          (.deployment, .created) ∉ acceptedWrites i.calls)) :=
  let ⟨after, h⟩ := exists_history_statusless
  ⟨after, h, childWrites_of_history h .deployment .created⟩

-- All three children are made, and none is counted.
theorem uncounted_of_statusless :
    ∃ after, ({} : Controller).History [statuslessInvocation] after ∧
      writesIn [statuslessInvocation] =
        [(.configMap, .created), (.deployment, .created), (.service, .created)] ∧
      ∀ kind applied, after.childWrites kind applied = 0 := by
  have hwrites : writesIn [statuslessInvocation] =
      [(.configMap, .created), (.deployment, .created), (.service, .created)] := by
    decide +kernel
  obtain ⟨after, h⟩ := exists_history_statusless
  refine ⟨after, h, hwrites, fun kind applied => ?_⟩
  have hsum := h.childWrites_add kind applied
  have hlost : [statuslessInvocation].filter Invocation.statusLost = [statuslessInvocation] := rfl
  rw [hlost] at hsum
  omega

end Controller

end GatewayOperator
