import GatewayOperator.Cluster.Server
import GatewayOperator.Controller
import GatewayOperator.Proofs.Pass.Trace

namespace GatewayOperator

open Program

variable {σ : Type} {handler : Handler σ}

-- If a call was refused, it was not the listing of the classes, and `P` holds.
def Blames (calls : List Answered) (P : Prop) : Prop :=
  ∀ a ∈ calls, a.refused = true → a.listsClasses = false ∧ P

theorem blames_nil (P : Prop) : Blames [] P := by
  simp [Blames]

theorem blames_cons_of_not_refused {a : Answered} {calls : List Answered} {P : Prop}
    (ha : a.refused = false) : Blames (a :: calls) P ↔ Blames calls P := by
  simp [Blames, ha]

theorem blames_append {calls more : List Answered} {P : Prop} :
    Blames (calls ++ more) P ↔ Blames calls P ∧ Blames more P :=
  List.forall_mem_append

theorem Blames.mono {calls : List Answered} {P Q : Prop} (h : Blames calls P) (hPQ : P → Q) :
    Blames calls Q :=
  fun a ha hrefused => (h a ha hrefused).imp id hPQ

theorem blames_singleton {a : Answered} {P : Prop} (ha : a.listsClasses = false) (hP : P) :
    Blames [a] P := by
  intro b hb _
  rw [List.mem_singleton] at hb
  exact hb ▸ ⟨ha, hP⟩

theorem Stage.yields_apply (hanswers : handler.Answers) (st : Stage) (ns : String) :
    (st.apply ns).Yields handler fun calls result => Blames calls (∃ e, result = .error e) := by
  refine yields_call_bind hanswers fun reply => ?_
  cases reply with
  | error e => exact yields_pure (blames_singleton rfl ⟨e, rfl⟩)
  | ok found =>
    cases found with
    | none =>
      refine yields_call_bind hanswers fun reply => ?_
      cases reply with
      | error e =>
        refine yields_pure ((blames_cons_of_not_refused rfl).mpr ?_)
        exact blames_singleton rfl ⟨e, rfl⟩
      | ok _ =>
        refine yields_pure ?_
        simp [Blames, Answered.refused]
    | some existing =>
      simp only
      split
      · refine yields_call_bind hanswers fun reply => ?_
        cases reply with
        | error e =>
          refine yields_pure ((blames_cons_of_not_refused rfl).mpr ?_)
          exact blames_singleton rfl ⟨e, rfl⟩
        | ok _ =>
          refine yields_pure ?_
          simp [Blames, Answered.refused]
      · refine yields_pure ?_
        simp [Blames, Answered.refused]

theorem Stage.yields_applyAll (hanswers : handler.Answers) (ns : String) (stages : List Stage) :
    (applyAll ns stages).Yields handler fun calls r =>
      Blames calls (∃ kind e, r.2 = some (.child kind e)) := by
  induction stages with
  | nil => exact yields_pure (blames_nil _)
  | cons st rest ih =>
    refine (st.yields_apply hanswers ns).bind fun calls result hcalls => ?_
    cases result with
    | error e =>
      refine yields_pure ?_
      rw [List.append_nil]
      exact hcalls.mono fun _ => ⟨st.kind, e, rfl⟩
    | ok applied =>
      refine ih.bind fun more r hmore => ?_
      refine yields_pure ?_
      rw [List.append_nil, blames_append]
      refine ⟨hcalls.mono ?_, hmore⟩
      rintro ⟨e, he⟩
      cases he

namespace Operator

theorem yields_applyChildren (hanswers : handler.Answers) (op : Operator) (g : Gateway)
    (ns : String) :
    (op.applyChildren g ns).Yields handler fun calls r =>
      Blames calls (∃ kind e, r.2 = .error (.child kind e)) := by
  unfold applyChildren
  cases op.plan g with
  | error obstacle => exact yields_pure (blames_nil _)
  | ok planned =>
    obtain ⟨children, hash⟩ := planned
    refine (Stage.yields_applyAll hanswers ns children.stages).bind fun calls r hcalls => ?_
    obtain ⟨applied, obstacle⟩ := r
    cases obstacle with
    | none =>
      refine yields_pure ?_
      rw [List.append_nil]
      refine hcalls.mono ?_
      rintro ⟨kind, e, he⟩
      cases he
    | some obstacle =>
      refine yields_pure ?_
      rw [List.append_nil]
      refine hcalls.mono ?_
      rintro ⟨kind, e, he⟩
      cases he
      exact ⟨kind, e, rfl⟩

theorem yields_persistStatus (hanswers : handler.Answers) (g : Gateway)
    (status : GatewayStatus) :
    (persistStatus g status).Yields handler fun calls r =>
      Blames calls (∃ e, r = .error (.statusWrite e)) := by
  unfold persistStatus
  split
  · refine yields_call_bind hanswers fun reply => ?_
    cases reply with
    | error e => exact yields_pure (blames_singleton rfl ⟨e, rfl⟩)
    | ok _ =>
      refine yields_pure ?_
      simp [Blames, Answered.refused]
  · exact yields_pure (blames_nil _)

-- A pass that is worth another try: it ended with an error or with a failure that may go away.
def Retried (r : Except PassError Report) : Prop :=
  (∃ e, r = .error e) ∨
    ∃ report failure, r = .ok report ∧ report.outcome = .failed failure ∧ failure.retryable = true

-- What a refused call makes of a pass
def Follows (calls : List Answered) (r : Except PassError Report) : Prop :=
  ∀ a ∈ calls, a.refused = true →
    if a.listsClasses = true then r = .ok { outcome := .skipped } else Retried r

theorem follows_of_blames {calls : List Answered} {r : Except PassError Report}
    (h : Blames calls (Retried r)) : Follows calls r := by
  intro a ha hrefused
  obtain ⟨hlists, hr⟩ := h a ha hrefused
  simpa [hlists] using hr

theorem Follows.cons {a : Answered} {calls : List Answered} {r : Except PassError Report}
    (ha : a.refused = false) (h : Follows calls r) : Follows (a :: calls) r := by
  intro b hb hrefused
  rcases List.mem_cons.mp hb with rfl | hb
  · cases ha.symm.trans hrefused
  · exact h b hb hrefused

theorem retried_of_child {result : Except Obstacle String} {applied : List (Kind × Applied)}
    {written : Bool} (h : ∃ kind e, result = .error (.child kind e)) :
    Retried (.ok ⟨outcomeOf result, applied, written⟩) := by
  obtain ⟨kind, e, rfl⟩ := h
  exact .inr ⟨_, (Obstacle.child kind e).failure, rfl, rfl, rfl⟩

theorem yields_responsible (hanswers : handler.Answers) (op : Operator) (g : Gateway) :
    (op.responsible g).Yields handler fun calls ours =>
      ∃ a, calls = [a] ∧ a.listsClasses = true ∧ (a.refused = true → ours = false) := by
  refine yields_call_bind hanswers fun reply => ?_
  cases reply with
  | error e => exact yields_pure ⟨_, rfl, rfl, fun _ => rfl⟩
  | ok classes => exact yields_pure ⟨_, rfl, rfl, fun h => by cases h⟩

theorem yields_passOver (hanswers : handler.Answers) (op : Operator) (now : Instant)
    (ns : String) (g : Gateway) :
    (op.passOver now ns g).Yields handler Follows := by
  refine (op.yields_responsible hanswers g).bind ?_
  rintro calls ours ⟨a, rfl, hlists, hours⟩
  cases ours with
  | false =>
    refine yields_pure fun b hb _ => ?_
    simp only [List.append_nil, List.mem_singleton] at hb
    simp [hb, hlists]
  | true =>
    have ha : a.refused = false := by
      cases h : a.refused with
      | false => rfl
      | true => cases hours h
    refine (op.yields_applyChildren hanswers g ns).bind fun calls r hcalls => ?_
    obtain ⟨applied, result⟩ := r
    refine (yields_persistStatus hanswers g _).bind fun more written hmore => ?_
    cases written with
    | error e =>
      have hall : Blames (calls ++ (more ++ [])) (Retried (.error e)) := by
        rw [List.append_nil, blames_append]
        exact ⟨hcalls.mono fun _ => .inl ⟨e, rfl⟩, hmore.mono fun _ => .inl ⟨e, rfl⟩⟩
      exact yields_pure ((follows_of_blames hall).cons ha)
    | ok written =>
      have hall : Blames (calls ++ (more ++ []))
          (Retried (.ok ⟨outcomeOf result, applied, written⟩)) := by
        rw [List.append_nil, blames_append]
        refine ⟨hcalls.mono retried_of_child, hmore.mono ?_⟩
        rintro ⟨e, he⟩
        cases he
      exact yields_pure ((follows_of_blames hall).cons ha)

theorem yields_pass (hanswers : handler.Answers) (op : Operator) (now : Instant)
    (ns name : String) : (op.pass now ns name).Yields handler Follows := by
  refine yields_call_bind hanswers fun reply => ?_
  cases reply with
  | error e =>
    exact yields_pure (follows_of_blames (blames_singleton rfl (.inl ⟨.fetch e, rfl⟩)))
  | ok found =>
    cases found with
    | none =>
      refine yields_pure ?_
      simp [Follows, Answered.refused]
    | some g =>
      exact (op.yields_passOver hanswers now ns g).mono fun _ _ h => h.cons rfl

end Operator

namespace Controller

-- What the controller does next after a pass
def actionAfter (c : Controller) (r : Except PassError Report) : Action :=
  match r with
  | .ok report => c.actionFor report.outcome
  | .error _ => .requeue c.errorMilliseconds

theorem actionAfter_of_retried (c : Controller) {r : Except PassError Report}
    (h : Operator.Retried r) : c.actionAfter r = .requeue c.errorMilliseconds := by
  rcases h with ⟨e, rfl⟩ | ⟨report, failure, rfl, houtcome, hretryable⟩
  · rfl
  · simp [actionAfter, actionFor, houtcome, hretryable]

theorem actionAfter_of_follows (c : Controller) {calls : List Answered}
    {r : Except PassError Report} (h : Operator.Follows calls r) :
    ∀ a ∈ calls, a.refused = true →
      c.actionAfter r = if a.listsClasses then .awaitChange else .requeue c.errorMilliseconds := by
  intro a ha hrefused
  have hr := h a ha hrefused
  cases hlists : a.listsClasses with
  | true =>
    simp only [hlists, if_true] at hr
    simp only [hr, actionAfter, actionFor, if_true]
  | false =>
    simp only [hlists, Bool.false_eq_true, if_false] at hr ⊢
    exact c.actionAfter_of_retried hr

theorem yields_invoke (hanswers : handler.Answers) (c : Controller) (now : Instant)
    (seconds : Float) {g : Gateway} {ns : String} (hns : g.metadata.ns = some ns) (m : Metrics) :
    (c.invoke now seconds g m).Yields handler fun calls r =>
      ∃ result, Operator.Follows calls result ∧ r.1 = c.actionAfter result := by
  have hpass := c.operator.yields_pass hanswers now ns g.name
  have hreconcile : (c.reconcile now seconds g m).Yields handler fun calls r =>
      ∃ result, Operator.Follows calls result ∧
        r.1 = (match result with
          | .ok report => .ok (c.actionFor report.outcome)
          | .error e => .error (.pass e)) := by
    simp only [reconcile, hns]
    refine hpass.bind fun calls result hfollows => ?_
    cases result with
    | error e => exact yields_pure ⟨.error e, by rwa [List.append_nil], rfl⟩
    | ok report => exact yields_pure ⟨.ok report, by rwa [List.append_nil], rfl⟩
  refine hreconcile.bind ?_
  rintro calls ⟨action, after⟩ ⟨result, hfollows, hresult⟩
  cases result with
  | error e =>
    simp only at hresult
    subst hresult
    exact yields_pure ⟨.error e, by rwa [List.append_nil], rfl⟩
  | ok report =>
    simp only at hresult
    subst hresult
    exact yields_pure ⟨.ok report, by rwa [List.append_nil], rfl⟩

-- For every store that answers all calls, in every state of it: one invocation for a gateway with
-- a namespace ends with an action, and each refused call decides which. The gateway is tried again
-- after the interval for errors, unless the call was the listing of the classes.
theorem action_of_refused (hanswers : handler.Answers) (c : Controller) (now : Instant)
    (seconds : Float) {g : Gateway} {ns : String} (hns : g.metadata.ns = some ns) (m : Metrics)
    (s : σ) :
    ∃ action error after t,
      (c.invoke now seconds g m).run handler s = (some (action, error, after), t) ∧
      ∀ a ∈ (c.invoke now seconds g m).trace handler s, a.refused = true →
        action = if a.listsClasses then .awaitChange else .requeue c.errorMilliseconds := by
  obtain ⟨⟨action, error, after⟩, t, hrun, result, hfollows, haction⟩ :=
    c.yields_invoke hanswers now seconds hns m s
  refine ⟨action, error, after, t, hrun, fun a ha hrefused => ?_⟩
  rw [show action = c.actionAfter result from haction]
  exact c.actionAfter_of_follows hfollows a ha hrefused

end Controller

theorem Cluster.Server.answers_handle : handle.Answers := by
  intro call s
  unfold handle
  cases requestOf call <;> rfl

namespace Controller

def newGateway : Gateway :=
  { metadata := { name := some "test-gateway", ns := some "default", uid := some "uid-1234" }
    spec := { models := [{ name := "gpt-4", provider := some "openai" }], port := 8000 } }

def newGatewayPath : String :=
  "/apis/agentic-layer.ai/v1alpha1/namespaces/default/aigateways/test-gateway"

-- A server that holds one gateway and fails to answer the first request for what is at `path`
def serverFailing (path : String) : Cluster.Server :=
  let s : Cluster.Server := {}
  (s.put newGatewayPath newGateway.toJson).schedule ⟨"GET", path, 1, ⟨500, .text "oops"⟩⟩

theorem action_of_refused_gateway :
    ∃ action error after t,
      (({} : Controller).invoke ⟨0, false⟩ 0 newGateway {}).run Cluster.Server.handle
        (serverFailing newGatewayPath) = (some (action, error, after), t) ∧
      ∀ a ∈ (({} : Controller).invoke ⟨0, false⟩ 0 newGateway {}).trace Cluster.Server.handle
          (serverFailing newGatewayPath), a.refused = true →
        action = if a.listsClasses then .awaitChange
          else .requeue ({} : Controller).errorMilliseconds :=
  action_of_refused Cluster.Server.answers_handle {} ⟨0, false⟩ 0 rfl {}
    (serverFailing newGatewayPath)

-- The gateway is there and can be read, but not the classes: it is left alone.
theorem awaitChange_of_unlisted_classes :
    (∃ a ∈ (({} : Controller).invoke ⟨0, false⟩ 0 newGateway {}).trace Cluster.Server.handle
        (serverFailing Cluster.classesPath), a.refused = true) ∧
      ((({} : Controller).invoke ⟨0, false⟩ 0 newGateway {}).run Cluster.Server.handle
        (serverFailing Cluster.classesPath)).1.map (·.1) = some .awaitChange := by
  decide +kernel

end Controller

end GatewayOperator
