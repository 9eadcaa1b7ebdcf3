import GatewayOperator.Proofs.Pass.Settled
import GatewayOperator.Proofs.Store.Agreement

namespace GatewayOperator

namespace Program

open MemoryStore

variable {α β : Type} {keys : Set ObjectKey} {p : Program α} {s t : MemoryStore}

-- Run from this store, all calls of the program are about objects under the given keys, and each
-- is made while all objects stand under their own keys.
def Confined (keys : Set ObjectKey) : Program α → MemoryStore → Prop
  | done _, _ => True
  | ask call next, s => s.WellKeyed ∧ (∀ key ∈ call.key?, key ∈ keys) ∧
      ∀ reply t, handle call s = (some reply, t) → (next reply).Confined keys t

theorem confined_pure (a : α) : (pure a : Program α).Confined keys s := trivial

theorem confined_call {c : Call} (hs : s.WellKeyed) (hkey : ∀ key ∈ c.key?, key ∈ keys) :
    (call c).Confined keys s :=
  ⟨hs, hkey, fun _ _ _ => trivial⟩

theorem confined_call_bind {c : Call} {f : c.Reply → Program β} (hs : s.WellKeyed)
    (hkey : ∀ key ∈ c.key?, key ∈ keys)
    (hf : ∀ reply t, handle c s = (some reply, t) → (f reply).Confined keys t) :
    (call c >>= f).Confined keys s :=
  ⟨hs, hkey, hf⟩

theorem Confined.bind {f : α → Program β} (hp : p.Confined keys s)
    (hf : ∀ a t, p.run handle s = (some a, t) → (f a).Confined keys t) :
    (p >>= f).Confined keys s := by
  induction p generalizing s with
  | done a => exact hf a s rfl
  | ask c next ih =>
    obtain ⟨hs, hkey, hnext⟩ := hp
    refine ⟨hs, hkey, fun reply t hreply => ih reply (hnext reply t hreply) fun a u hrun => ?_⟩
    exact hf a u (by simp only [run, hreply, hrun])

theorem compositional_confined (keys : Set ObjectKey) :
    Compositional handle fun _ p s => p.Confined keys s :=
  ⟨fun _ _ => trivial, Confined.bind⟩

-- Run from a store that agrees on its keys with one where it keeps to them, a program comes to the
-- same result by the same writes.
theorem Confined.run_of_agree (hp : p.Confined keys s) (h : Agree keys s t) :
    ∃ result s' t', p.run handle s = (result, s') ∧ p.run handle t = (result, t') ∧
      SameWrites keys s s' t t' := by
  induction p generalizing s t with
  | done a => exact ⟨some a, s, t, rfl, rfl, .refl h⟩
  | ask c next ih =>
    obtain ⟨hs, hkey, hnext⟩ := hp
    obtain ⟨reply, s', t', hrunS, hrunT, hsame⟩ := alike_of_agree hs h hkey
    simp only [run, hrunS, hrunT]
    cases reply with
    | none => exact ⟨none, s', t', rfl, rfl, hsame⟩
    | some reply =>
      obtain ⟨result, s'', t'', hresult, hresult', hmore⟩ :=
        ih reply (hnext reply s' hrunS) hsame.agree
      exact ⟨result, s'', t'', hresult, hresult', hsame.trans hmore⟩

end Program

theorem MemoryStore.handle_get_eq_some {s t : MemoryStore} {kind : Kind} {ns name : String}
    {reply : Except ApiError (Option kind.Object)}
    (h : handle (.get kind ns name) s = (some reply, t)) :
    t = s ∧ ∀ found, reply = .ok found → s.object? kind ns name = some found := by
  simp only [handle] at h
  split at h
  · cases h
    exact ⟨rfl, by simp⟩
  · simp only [Prod.mk.injEq, Option.map_eq_some_iff] at h
    obtain ⟨⟨found, hfound, rfl⟩, rfl⟩ := h
    refine ⟨rfl, ?_⟩
    rintro other ⟨rfl⟩
    exact hfound

namespace Stage

open Program

variable {st : Stage} {ns : String} {keys : Set ObjectKey} {s t : MemoryStore}

-- What is replaced stands under its own key, and an update moves nothing.
theorem confined_apply (hst : st.Lawful ns) (hs : s.WellKeyed) (hkey : st.key ns ∈ keys) :
    (st.apply ns).Confined keys s := by
  have hself : ∀ key ∈ some (st.key ns), key ∈ keys := by
    rintro key ⟨rfl⟩
    exact hkey
  refine confined_call_bind hs hself fun reply t hreply => ?_
  obtain ⟨rfl, hfound⟩ := MemoryStore.handle_get_eq_some hreply
  rcases reply with e | _ | existing
  · exact confined_pure _
  · refine confined_call_bind hs hself fun created u _ => ?_
    rcases created with e | ⟨⟩ <;> exact confined_pure _
  · simp only
    split
    · have hown := (hs.of_object? (hfound _ rfl)).2
      have hname : st.kind.nameOf (st.update existing) = st.name :=
        congrArg ObjectKey.name ((hst.update_key existing).trans hown)
      have hupdate : ∀ key ∈ (Call.replace st.kind ns (st.update existing)).key?, key ∈ keys := by
        rintro key ⟨rfl⟩
        rw [hname]
        exact hkey
      refine confined_call_bind hs hupdate fun replaced u _ => ?_
      rcases replaced with e | ⟨⟩ <;> exact confined_pure _
    · exact confined_pure _

end Stage

namespace Operator

open Program

variable {op : Operator} {now : Instant} {ns name : String} {s t : MemoryStore} {g : Gateway}

-- The gateway of that name, and where its children stand
def footprint (ns name : String) : Set ObjectKey :=
  {key | key = ⟨.gateway, ns, name⟩ ∨ key ∈ Children.keys ns name}

theorem mem_footprint {key : ObjectKey} :
    key ∈ footprint ns name ↔ key = ⟨.gateway, ns, name⟩ ∨ key ∈ Children.keys ns name :=
  Iff.rfl

-- No two gateways share a child: only config maps have names of their own, and these differ where
-- the names of the gateways do.
theorem not_mem_footprint {ns' name' : String} (hne : (ns, name) ≠ (ns', name')) :
    ∀ key ∈ footprint ns name, key ∉ footprint ns' name' := by
  intro key hkey hother
  apply hne
  simp only [mem_footprint, Children.keys, Children.configMapName, List.mem_cons,
    List.not_mem_nil, or_false] at hkey hother
  rcases hkey with rfl | rfl | rfl | rfl <;> simp_all

theorem confined_responsible (op : Operator) (g : Gateway) (keys : Set ObjectKey)
    (hs : s.WellKeyed) : (op.responsible g).Confined keys s :=
  holds_responsible (compositional_confined keys) op g (confined_call hs (by simp [Call.key?]))

theorem run_responsible (op : Operator) (g : Gateway) (s : MemoryStore) :
    (op.responsible g).run MemoryStore.handle s =
      (some (GatewayClass.assigns op.controller g.className? s.classes), s) := rfl

theorem confined_applyChildren (hs : s.WellKeyed) (hg : g.WellFormed)
    (hkey : ObjectKey.of .gateway g = ⟨.gateway, ns, name⟩) :
    (op.applyChildren g ns).Confined (footprint ns name) s := by
  have hns : Kind.namespaceOf .gateway g = ns := congrArg ObjectKey.ns hkey
  have hname : g.name = name := congrArg ObjectKey.name hkey
  refine holds_applyChildren (compositional_confined _) hs hg hns ?_
  intro children hash hplan st hst hl s hs
  obtain ⟨rendered, -, hchildren, -⟩ := plan_eq_ok hplan
  refine Stage.confined_apply hl hs (.inr ?_)
  rw [← hname, ← Children.keys_stages hchildren ns]
  exact List.mem_map_of_mem hst

theorem confined_persistStatus (hs : s.WellKeyed) (status : GatewayStatus)
    (hkey : ObjectKey.of .gateway g = ⟨.gateway, ns, name⟩) :
    (persistStatus g status).Confined (footprint ns name) s := by
  refine holds_persistStatus (compositional_confined _) (confined_call hs ?_)
  rintro key ⟨rfl⟩
  exact .inl hkey

-- In every branch: a pass that stops early has made some of the calls of one that does not.
theorem confined_pass (op : Operator) (now : Instant) (ns name : String) (hs : s.WellKeyed) :
    (op.pass now ns name).Confined (footprint ns name) s := by
  refine confined_call_bind hs ?_ fun reply t hreply => ?_
  · rintro key ⟨rfl⟩
    exact .inl rfl
  obtain ⟨rfl, hfound⟩ := MemoryStore.handle_get_eq_some hreply
  rcases reply with e | _ | g
  · exact confined_pure _
  · exact confined_pure _
  obtain ⟨hg, hkey⟩ := hs.of_object? (hfound _ rfl)
  refine (op.confined_responsible g _ hs).bind fun responsible u hrun => ?_
  cases (op.run_responsible g t).symm.trans hrun
  split
  · refine (confined_applyChildren hs hg hkey).bind fun outcome u hrun => ?_
    have hns : Kind.namespaceOf .gateway g = ns := congrArg ObjectKey.ns hkey
    have hu := (applies_of_run hs hg hns hrun).wellKeyed hs hg hns
    refine (confined_persistStatus hu _ hkey).bind fun written v _ => ?_
    rcases written with e | written <;> exact confined_pure _
  · exact confined_pure _

-- All that a pass may change: the children of its gateway, and the status of the gateway.
structure AltersOnly (ns name : String) (s t : MemoryStore) : Prop where
  failing : t.failing = s.failing
  classes : t.classes = s.classes
  find? : ∀ key ≠ ⟨.gateway, ns, name⟩, key ∉ Children.keys ns name → t.find? key = s.find? key
  gateway : t.find? ⟨.gateway, ns, name⟩ = s.find? ⟨.gateway, ns, name⟩ ∨
    ∃ g status, s.object? .gateway ns name = some (some g) ∧
      t.find? ⟨.gateway, ns, name⟩ = some (Gateway.toJson { g with status := some status })

-- The stages leave all gateways alone, so that only the status is written over the old one.
theorem Passes.gateway_cases {report : Except PassError Report} (hs : s.WellKeyed)
    (h : op.Passes now ns name s report t) :
    t.find? ⟨.gateway, ns, name⟩ = s.find? ⟨.gateway, ns, name⟩ ∨
      ∃ g status, s.object? .gateway ns name = some (some g) ∧
        t.find? ⟨.gateway, ns, name⟩ = some (Gateway.toJson { g with status := some status }) := by
  cases h with
  | fetchFails | notFound | skipped => exact .inl rfl
  | unchanged hclaims happlies | statusFails hclaims happlies =>
    obtain ⟨keys, hsame, hkeys⟩ := happlies.sameOutside
    exact .inl (hsame.find? _ (hkeys name))
  | @written g _ result u hclaims happlies =>
    refine .inr ⟨g, nextStatus g result now, hclaims.object, ?_⟩
    rw [← (hclaims.wellFormed hs).2]
    exact MemoryStore.find?_put_self u _ _

theorem Passes.altersOnly {report : Except PassError Report} (hs : s.WellKeyed)
    (h : op.Passes now ns name s report t) : AltersOnly ns name s t := by
  obtain ⟨result, _, u, -, hrun, hsame⟩ :=
    (op.confined_pass now ns name hs).run_of_agree (.refl _ s)
  cases hrun.symm.trans (h.run hs)
  refine ⟨hsame.rest.failing, hsame.rest.classes, fun key hgateway hkey => ?_,
    h.gateway_cases hs⟩
  exact hsame.rest.find? key fun hmem => (mem_footprint.mp hmem).elim hgateway hkey

end Operator

end GatewayOperator
