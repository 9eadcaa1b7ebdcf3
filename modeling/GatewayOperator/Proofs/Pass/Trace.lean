import GatewayOperator.Pass.Basic
import GatewayOperator.Proofs.Pass.Program

namespace GatewayOperator

-- A call with the answer it got
structure Answered where
  call : Call
  reply : call.Reply

namespace Answered

-- The answer is an error. That an object is not there is none.
def refused : Answered → Bool
  | ⟨.get .., .error _⟩ => true
  | ⟨.listClasses, .error _⟩ => true
  | ⟨.create .., .error _⟩ => true
  | ⟨.replace .., .error _⟩ => true
  | ⟨.putStatus .., .error _⟩ => true
  | _ => false

def listsClasses (a : Answered) : Bool :=
  match a.call with
  | .listClasses => true
  | _ => false

end Answered

namespace Program

-- A store that answers every call, in every state
def Handler.Answers {σ : Type} (handler : Handler σ) : Prop :=
  ∀ call s, (handler call s).1.isSome = true

variable {α β σ : Type} (handler : Handler σ)

-- The calls of a program, first to last, up to one that is left without an answer.
def trace (handler : Handler σ) (p : Program α) (s : σ) : List Answered :=
  match p with
  | done _ => []
  | ask call next =>
    match handler call s with
    | (some reply, t) => ⟨call, reply⟩ :: (next reply).trace handler t
    | (none, _) => []

theorem trace_bind_of_some {p : Program α} {s t : σ} {a : α}
    (h : p.run handler s = (some a, t)) (f : α → Program β) :
    (p >>= f).trace handler s = p.trace handler s ++ (f a).trace handler t := by
  induction p generalizing s with
  | done b =>
    cases h
    rfl
  | ask c next ih =>
    rw [ask_bind]
    simp only [trace, run] at h ⊢
    cases hc : handler c s with
    | mk reply u =>
      cases reply with
      | none =>
        rw [hc] at h
        cases h
      | some reply =>
        rw [hc] at h
        simp only [ih reply h, List.cons_append]

-- From every state the program comes to a result, and this result and the calls made for it are
-- as said.
def Yields (p : Program α) (Q : List Answered → α → Prop) : Prop :=
  ∀ s, ∃ a t, p.run handler s = (some a, t) ∧ Q (p.trace handler s) a

variable {handler}

theorem yields_pure {Q : List Answered → α → Prop} {a : α} (h : Q [] a) :
    (pure a : Program α).Yields handler Q :=
  fun s => ⟨a, s, rfl, h⟩

theorem yields_call (hanswers : handler.Answers) {c : Call}
    {Q : List Answered → c.Reply → Prop} (h : ∀ reply, Q [⟨c, reply⟩] reply) :
    (call c).Yields handler Q := by
  intro s
  cases hc : handler c s with
  | mk reply t =>
    cases reply with
    | none =>
      have hanswer := hanswers c s
      simp [hc] at hanswer
    | some reply =>
      have htrace : (call c).trace handler s = [⟨c, reply⟩] := by
        simp only [call, trace, hc]
      exact ⟨reply, t, by rw [run_call, hc], htrace ▸ h reply⟩

theorem Yields.bind {p : Program α} {f : α → Program β} {Q : List Answered → α → Prop}
    {R : List Answered → β → Prop} (hp : p.Yields handler Q)
    (hf : ∀ calls a, Q calls a → (f a).Yields handler fun more b => R (calls ++ more) b) :
    (p >>= f).Yields handler R := by
  intro s
  obtain ⟨a, t, hrun, hQ⟩ := hp s
  obtain ⟨b, u, hrest, hR⟩ := hf _ a hQ t
  refine ⟨b, u, ?_, ?_⟩
  · rw [run_bind_of_some handler hrun, hrest]
  · rw [trace_bind_of_some handler hrun]
    exact hR

theorem yields_call_bind (hanswers : handler.Answers) {c : Call}
    {f : c.Reply → Program β} {R : List Answered → β → Prop}
    (h : ∀ reply, (f reply).Yields handler fun more b => R (⟨c, reply⟩ :: more) b) :
    (call c >>= f).Yields handler R := by
  have hcall : (call c).Yields handler fun calls reply => calls = [⟨c, reply⟩] :=
    yields_call hanswers fun _ => rfl
  refine hcall.bind ?_
  rintro calls reply rfl
  exact h reply

theorem Yields.mono {p : Program α} {Q R : List Answered → α → Prop} (h : p.Yields handler Q)
    (hQR : ∀ calls a, Q calls a → R calls a) : p.Yields handler R := by
  intro s
  obtain ⟨a, t, hrun, hQ⟩ := h s
  exact ⟨a, t, hrun, hQR _ a hQ⟩

end Program

end GatewayOperator
