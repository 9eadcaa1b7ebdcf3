import GatewayOperator.Proofs.Pass.Trace

namespace GatewayOperator

namespace Program

variable {α β σ : Type} {calls : List Answered}

-- The program makes these calls, first to last, if it gets these answers, and then has this result.
inductive Dialogue : Program α → List Answered → α → Prop where
  | done (a : α) : Dialogue (.done a) [] a
  | ask {call : Call} {next : call.Reply → Program α} {reply : call.Reply} {calls : List Answered}
      {a : α} (h : Dialogue (next reply) calls a) :
      Dialogue (.ask call next) (⟨call, reply⟩ :: calls) a

theorem dialogue_of_run {handler : Handler σ} {p : Program α} {s t : σ} {a : α}
    (h : p.run handler s = (some a, t)) : p.Dialogue (p.trace handler s) a := by
  induction p generalizing s with
  | done b =>
    cases h
    exact .done a
  | ask c next ih =>
    simp only [run, trace] at h ⊢
    cases hc : handler c s with
    | mk reply u =>
      rw [hc] at h
      cases reply with
      | none => cases h
      | some reply => exact .ask (ih reply h)

theorem Dialogue.eq_of_pure {a b : α} (h : (pure a : Program α).Dialogue calls b) :
    calls = [] ∧ b = a := by
  cases h with
  | done => exact ⟨rfl, rfl⟩

theorem Dialogue.exists_of_call_bind {c : Call} {f : c.Reply → Program α} {a : α}
    (h : (call c >>= f).Dialogue calls a) :
    ∃ reply rest, calls = ⟨c, reply⟩ :: rest ∧ (f reply).Dialogue rest a := by
  cases h with
  | ask h => exact ⟨_, _, rfl, h⟩

theorem Dialogue.exists_of_bind {p : Program α} {f : α → Program β} {b : β}
    (h : (p >>= f).Dialogue calls b) :
    ∃ first a rest, calls = first ++ rest ∧ p.Dialogue first a ∧ (f a).Dialogue rest b := by
  induction p generalizing calls with
  | done a => exact ⟨[], a, calls, rfl, .done a, h⟩
  | ask c next ih =>
    obtain ⟨reply, more, rfl, hmore⟩ :=
      exists_of_call_bind (c := c) (f := fun reply => next reply >>= f) h
    obtain ⟨first, a, rest, rfl, hfirst, hrest⟩ := ih reply hmore
    exact ⟨_, a, rest, rfl, .ask hfirst, hrest⟩

theorem Dialogue.bind {p : Program α} {f : α → Program β} {first rest : List Answered} {a : α}
    {b : β} (h : p.Dialogue first a) (hf : (f a).Dialogue rest b) :
    (p >>= f).Dialogue (first ++ rest) b := by
  induction h with
  | done a => exact hf
  | ask h ih => exact .ask (ih hf)

-- The answers decide the result.
theorem Dialogue.unique {p : Program α} {a b : α} (h : p.Dialogue calls a)
    (h' : p.Dialogue calls b) : a = b := by
  induction h with
  | done a => exact h'.eq_of_pure.2.symm
  | ask h ih =>
    cases h' with
    | ask h' => exact ih h'

-- Whatever the answers are, all calls of the program are as said.
def Asks (P : Call → Prop) : Program α → Prop
  | .done _ => True
  | .ask call next => P call ∧ ∀ reply, (next reply).Asks P

variable {P : Call → Prop}

theorem asks_pure (a : α) : (pure a : Program α).Asks P := trivial

theorem asks_call_bind {c : Call} {f : c.Reply → Program α} (hc : P c)
    (hf : ∀ reply, (f reply).Asks P) : (call c >>= f).Asks P :=
  ⟨hc, hf⟩

theorem Asks.bind {p : Program α} {f : α → Program β} (hp : p.Asks P)
    (hf : ∀ a, (f a).Asks P) : (p >>= f).Asks P := by
  induction p with
  | done a => exact hf a
  | ask c next ih => exact ⟨hp.1, fun reply => ih reply (hp.2 reply)⟩

theorem Asks.of_dialogue {p : Program α} {a : α} (hp : p.Asks P) (h : p.Dialogue calls a) :
    ∀ answered ∈ calls, P answered.call := by
  induction h with
  | done a => simp
  | ask h ih => exact List.forall_mem_cons.mpr ⟨hp.1, ih (hp.2 _)⟩

end Program

-- What was done to a child by a call that was accepted, which is one answered without an error
def Answered.applied? : Answered → Option (Kind × Applied)
  | ⟨.create kind _ _, .ok _⟩ => some (kind, .created)
  | ⟨.replace kind _ _, .ok _⟩ => some (kind, .updated)
  | _ => none

-- What was done to children by the calls that were accepted, first to last.
def acceptedWrites (calls : List Answered) : List (Kind × Applied) :=
  calls.filterMap Answered.applied?

@[simp] theorem acceptedWrites_nil : acceptedWrites [] = [] := rfl

theorem acceptedWrites_append (calls more : List Answered) :
    acceptedWrites (calls ++ more) = acceptedWrites calls ++ acceptedWrites more :=
  List.filterMap_append

theorem acceptedWrites_cons_of_none {a : Answered} (h : a.applied? = none)
    (calls : List Answered) : acceptedWrites (a :: calls) = acceptedWrites calls :=
  List.filterMap_cons_none h

-- What a pass did to the children without those that it left alone
def changes (applied : List (Kind × Applied)) : List (Kind × Applied) :=
  applied.filter fun a => a.2 ≠ .unchanged

theorem changes_cons (a : Kind × Applied) (rest : List (Kind × Applied)) :
    changes (a :: rest) = changes [a] ++ changes rest := by
  rw [changes, changes, changes, ← List.filter_append]
  rfl

theorem length_changes (r : Report) : (changes r.applied).length = r.writes :=
  List.countP_eq_length_filter.symm

namespace Stage

variable {st : Stage} {ns : String} {calls : List Answered}

theorem acceptedWrites_of_dialogue {result : Except ApiError Applied}
    (h : (st.apply ns).Dialogue calls result) :
    acceptedWrites calls = match result with
      | .ok applied => changes [(st.kind, applied)]
      | .error _ => [] := by
  obtain ⟨reply, rest, rfl, hrest⟩ := h.exists_of_call_bind
  rcases reply with e | _ | existing
  · obtain ⟨rfl, rfl⟩ := Program.Dialogue.eq_of_pure (a := Except.error e) hrest
    rfl
  · obtain ⟨created, last, rfl, hlast⟩ := hrest.exists_of_call_bind
    rcases created with e | ⟨⟩
    · obtain ⟨rfl, rfl⟩ := Program.Dialogue.eq_of_pure (a := Except.error e) hlast
      rfl
    · obtain ⟨rfl, rfl⟩ := Program.Dialogue.eq_of_pure (a := Except.ok Applied.created) hlast
      rfl
  · simp only at hrest
    split at hrest
    · obtain ⟨replaced, last, rfl, hlast⟩ := hrest.exists_of_call_bind
      rcases replaced with e | ⟨⟩
      · obtain ⟨rfl, rfl⟩ := Program.Dialogue.eq_of_pure (a := Except.error e) hlast
        rfl
      · obtain ⟨rfl, rfl⟩ := Program.Dialogue.eq_of_pure (a := Except.ok Applied.updated) hlast
        rfl
    · obtain ⟨rfl, rfl⟩ := Program.Dialogue.eq_of_pure (a := Except.ok Applied.unchanged) hrest
      rfl

theorem acceptedWrites_of_dialogue_all {stages : List Stage}
    {outcome : List (Kind × Applied) × Option Obstacle}
    (h : (applyAll ns stages).Dialogue calls outcome) :
    acceptedWrites calls = changes outcome.1 := by
  induction stages generalizing calls outcome with
  | nil =>
    obtain ⟨rfl, rfl⟩ := h.eq_of_pure
    rfl
  | cons st rest ih =>
    obtain ⟨first, result, more, rfl, hfirst, hmore⟩ := h.exists_of_bind
    have hstage := acceptedWrites_of_dialogue hfirst
    cases result with
    | error e =>
      obtain ⟨rfl, rfl⟩ :=
        Program.Dialogue.eq_of_pure (a := ([], some (Obstacle.child st.kind e))) hmore
      rw [List.append_nil, hstage]
      rfl
    | ok applied =>
      obtain ⟨second, later, last, rfl, hsecond, hlast⟩ := hmore.exists_of_bind
      obtain ⟨rfl, rfl⟩ :=
        Program.Dialogue.eq_of_pure (a := ((st.kind, applied) :: later.1, later.2)) hlast
      rw [List.append_nil, acceptedWrites_append, hstage, ih hsecond, changes_cons]

end Stage

namespace Operator

variable {op : Operator} {now : Instant} {ns name : String} {g : Gateway} {calls : List Answered}

theorem acceptedWrites_of_applyChildren
    {outcome : List (Kind × Applied) × Except Obstacle String}
    (h : (op.applyChildren g ns).Dialogue calls outcome) :
    acceptedWrites calls = changes outcome.1 := by
  unfold applyChildren at h
  split at h
  next o _ =>
    obtain ⟨rfl, rfl⟩ := Program.Dialogue.eq_of_pure (a := ([], Except.error o)) h
    rfl
  next children hash _ =>
    obtain ⟨first, done, rest, rfl, hfirst, hrest⟩ := h.exists_of_bind
    have hstages := Stage.acceptedWrites_of_dialogue_all hfirst
    obtain ⟨applied, obstacle⟩ := done
    cases obstacle with
    | none =>
      obtain ⟨rfl, rfl⟩ := Program.Dialogue.eq_of_pure (a := (applied, Except.ok hash)) hrest
      rw [List.append_nil, hstages]
    | some o =>
      obtain ⟨rfl, rfl⟩ := Program.Dialogue.eq_of_pure (a := (applied, Except.error o)) hrest
      rw [List.append_nil, hstages]

theorem acceptedWrites_of_responsible {ours : Bool}
    (h : (op.responsible g).Dialogue calls ours) : acceptedWrites calls = [] := by
  obtain ⟨reply, rest, rfl, hrest⟩ := h.exists_of_call_bind
  rcases reply with e | classes
  · obtain ⟨rfl, -⟩ := Program.Dialogue.eq_of_pure (a := false) hrest
    rfl
  · obtain ⟨rfl, -⟩ := Program.Dialogue.eq_of_pure hrest
    rfl

-- The status is no child, and it can only be its writing that fails.
theorem acceptedWrites_of_persistStatus {status : GatewayStatus} {result : Except PassError Bool}
    (h : (persistStatus g status).Dialogue calls result) :
    acceptedWrites calls = [] ∧ ∀ e, result ≠ .error (.fetch e) := by
  unfold persistStatus at h
  split at h
  · obtain ⟨reply, rest, rfl, hrest⟩ := h.exists_of_call_bind
    rcases reply with e | ⟨⟩
    · obtain ⟨rfl, rfl⟩ :=
        Program.Dialogue.eq_of_pure (a := Except.error (PassError.statusWrite e)) hrest
      exact ⟨rfl, by simp⟩
    · obtain ⟨rfl, rfl⟩ := Program.Dialogue.eq_of_pure (a := Except.ok true) hrest
      exact ⟨rfl, by simp⟩
  · obtain ⟨rfl, rfl⟩ := Program.Dialogue.eq_of_pure (a := Except.ok false) h
    exact ⟨rfl, by simp⟩

-- What is known of the accepted writes of a pass from its result: nothing, if the status could not
-- be written.
def Accounts (writes : List (Kind × Applied)) : Except PassError Report → Prop
  | .ok report => writes = changes report.applied
  | .error (.fetch _) => writes = []
  | .error (.statusWrite _) => True

theorem accounts_of_passOver {result : Except PassError Report}
    (h : (op.passOver now ns g).Dialogue calls result) :
    Accounts (acceptedWrites calls) result := by
  obtain ⟨front, ours, rest, rfl, hfront, hrest⟩ := h.exists_of_bind
  rw [acceptedWrites_append, acceptedWrites_of_responsible hfront, List.nil_append]
  cases ours with
  | false =>
    obtain ⟨rfl, rfl⟩ := Program.Dialogue.eq_of_pure hrest
    rfl
  | true =>
    obtain ⟨talk, outcome, more, rfl, htalk, hmore⟩ := Program.Dialogue.exists_of_bind hrest
    obtain ⟨back, written, last, rfl, hback, hlast⟩ := hmore.exists_of_bind
    have hchildren := acceptedWrites_of_applyChildren htalk
    obtain ⟨hstatus, hfetch⟩ := acceptedWrites_of_persistStatus hback
    obtain ⟨applied, made⟩ := outcome
    rcases written with (e | e) | written
    · exact absurd rfl (hfetch e)
    · obtain ⟨rfl, rfl⟩ :=
        Program.Dialogue.eq_of_pure (a := Except.error (PassError.statusWrite e)) hlast
      exact trivial
    · obtain ⟨rfl, rfl⟩ := Program.Dialogue.eq_of_pure hlast
      rw [acceptedWrites_append, acceptedWrites_append, hchildren, hstatus]
      exact List.append_nil _

theorem accounts_of_pass {result : Except PassError Report}
    (h : (op.pass now ns name).Dialogue calls result) :
    Accounts (acceptedWrites calls) result := by
  obtain ⟨reply, rest, rfl, hrest⟩ := h.exists_of_call_bind
  rw [acceptedWrites_cons_of_none rfl]
  rcases reply with e | _ | g
  · obtain ⟨rfl, rfl⟩ := Program.Dialogue.eq_of_pure (a := Except.error (PassError.fetch e)) hrest
    rfl
  · obtain ⟨rfl, rfl⟩ := Program.Dialogue.eq_of_pure hrest
    rfl
  · exact accounts_of_passOver hrest

end Operator

end GatewayOperator
