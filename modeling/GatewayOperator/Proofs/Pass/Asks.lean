import GatewayOperator.Proofs.Pass.Basic
import GatewayOperator.Proofs.Pass.Dialogue

namespace GatewayOperator

namespace Program

variable {α σ : Type} {P Q : Call → Prop} {p : Program α}

theorem Asks.mono (h : p.Asks P) (hPQ : ∀ c, P c → Q c) : p.Asks Q := by
  induction p with
  | done a => trivial
  | ask c next ih => exact ⟨hPQ c h.1, fun reply => ih reply (h.2 reply)⟩

-- What such calls keep, the program keeps.
theorem Asks.keeps {handler : Handler σ} {I : σ → Prop} (h : p.Asks P)
    (hkeeps : ∀ c s, P c → I s → I (handler c s).2) {s : σ} (hs : I s) :
    I (p.run handler s).2 := by
  induction p generalizing s with
  | done a => exact hs
  | ask c next ih =>
    have hnext := hkeeps c s h.1 hs
    simp only [run]
    cases hc : handler c s with
    | mk reply t =>
      rw [hc] at hnext
      cases reply with
      | none => exact hnext
      | some reply => exact ih reply (h.2 reply) hnext

end Program

-- The call is for the classes, for an object of another kind, or writes a status that a pass over
-- the gateway can arrive at.
def Call.Concerns (g : Gateway) (now : Instant) : Call → Prop
  | .get kind _ _ => kind ≠ .gateway
  | .listClasses => True
  | .create kind _ _ => kind ≠ .gateway
  | .replace kind _ _ => kind ≠ .gateway
  | .putStatus other status => other = g ∧ ∃ made, status = Operator.nextStatus g made now

namespace Stage

open Program

theorem asks_apply (st : Stage) (hkind : st.kind ≠ .gateway) (ns : String) (g : Gateway)
    (now : Instant) : (st.apply ns).Asks (Call.Concerns g now) := by
  refine asks_call_bind hkind fun reply => ?_
  rcases reply with e | _ | existing
  · exact asks_pure _
  · refine asks_call_bind hkind fun created => ?_
    rcases created with e | ⟨⟩ <;> exact asks_pure _
  · simp only
    split
    · refine asks_call_bind hkind fun replaced => ?_
      rcases replaced with e | ⟨⟩ <;> exact asks_pure _
    · exact asks_pure _

theorem asks_applyAll (ns : String) {stages : List Stage}
    (hkinds : ∀ st ∈ stages, st.kind ≠ .gateway) (g : Gateway) (now : Instant) :
    (applyAll ns stages).Asks (Call.Concerns g now) := by
  induction stages with
  | nil => exact asks_pure _
  | cons st rest ih =>
    obtain ⟨hkind, hrest⟩ := List.forall_mem_cons.mp hkinds
    refine (st.asks_apply hkind ns g now).bind fun result => ?_
    rcases result with e | applied
    · exact asks_pure _
    · exact (ih hrest).bind fun _ => asks_pure _

end Stage

namespace Operator

open Program

theorem asks_applyChildren (op : Operator) (g : Gateway) (ns : String) (now : Instant) :
    (op.applyChildren g ns).Asks (Call.Concerns g now) := by
  unfold applyChildren
  split
  · exact asks_pure _
  next children hash _ =>
    refine (Stage.asks_applyAll ns children.kind_ne_gateway g now).bind fun outcome => ?_
    obtain ⟨applied, _ | obstacle⟩ := outcome <;> exact asks_pure _

-- A pass touches no other gateway, and this one only by writing a status that follows from the one
-- it has.
theorem concerns_passOver (op : Operator) (now : Instant) (ns : String) (g : Gateway) :
    (op.passOver now ns g).Asks (Call.Concerns g now) := by
  have hresponsible : (op.responsible g).Asks (Call.Concerns g now) := by
    refine asks_call_bind trivial fun reply => ?_
    rcases reply with e | classes <;> exact asks_pure _
  refine hresponsible.bind fun ours => ?_
  split
  · refine (op.asks_applyChildren g ns now).bind fun outcome => ?_
    have hpersist : (persistStatus g (nextStatus g outcome.2 now)).Asks (Call.Concerns g now) := by
      unfold persistStatus
      split
      · refine asks_call_bind ⟨rfl, outcome.2, rfl⟩ fun reply => ?_
        rcases reply with e | ⟨⟩ <;> exact asks_pure _
      · exact asks_pure _
    refine hpersist.bind fun written => ?_
    rcases written with e | written <;> exact asks_pure _
  · exact asks_pure _

end Operator

end GatewayOperator
