import GatewayOperator.Pass.Program

namespace GatewayOperator.Program

variable {α β σ : Type} (handler : Handler σ)

@[simp] theorem run_pure (a : α) (s : σ) : (pure a : Program α).run handler s = (some a, s) := rfl

theorem run_call (c : Call) (s : σ) : (call c).run handler s = handler c s := by
  unfold call
  simp only [run]
  split
  next reply t h => exact h.symm
  next t h => exact h.symm

theorem ask_bind (c : Call) (next : c.Reply → Program α) (f : α → Program β) :
    (ask c next >>= f) = ask c fun reply => next reply >>= f := rfl

theorem run_bind (p : Program α) (f : α → Program β) (s : σ) :
    (p >>= f).run handler s =
      match p.run handler s with
      | (some a, t) => (f a).run handler t
      | (none, t) => (none, t) := by
  induction p generalizing s with
  | done a => rfl
  | ask c next ih =>
    rw [ask_bind]
    simp only [run]
    cases handler c s with
    | mk reply t =>
      cases reply with
      | none => rfl
      | some reply => exact ih reply t

-- A part with a result hands on to what follows.
theorem run_bind_of_some {p : Program α} {s t : σ} {a : α}
    (h : p.run handler s = (some a, t)) (f : α → Program β) :
    (p >>= f).run handler s = (f a).run handler t := by
  rw [run_bind, h]

theorem exists_of_run_bind {handler : Handler σ} {p : Program α} {f : α → Program β} {s t : σ}
    {b : β} (h : (p >>= f).run handler s = (some b, t)) :
    ∃ a u, p.run handler s = (some a, u) ∧ (f a).run handler u = (some b, t) := by
  rw [run_bind] at h
  split at h
  next a u hp => exact ⟨a, u, hp, h⟩
  next u hp => cases h

theorem run_call_bind_of_some {c : Call} {s t : σ} {reply : c.Reply}
    (h : handler c s = (some reply, t)) (f : c.Reply → Program β) :
    (call c >>= f).run handler s = (f reply).run handler t :=
  run_bind_of_some handler (by rw [run_call, h]) f

-- A property of programs and the states they start from that a program has if its parts have it
structure Compositional (handler : Handler σ) (P : (α : Type) → Program α → σ → Prop) : Prop where
  pure : ∀ {α : Type} (a : α) (s : σ), P α (pure a) s
  bind : ∀ {α β : Type} {p : Program α} {f : α → Program β} {s : σ}, P α p s →
    (∀ a t, p.run handler s = (some a, t) → P β (f a) t) → P β (p >>= f) s

end GatewayOperator.Program
