import GatewayOperator.Proofs.Pass.Repeat
import GatewayOperator.Proofs.Pass.Unfailing

namespace GatewayOperator

namespace GatewayStatus

-- A status without its times, also without whether it tells one
def timeless (s : GatewayStatus) : GatewayStatus :=
  { s with conditions := s.conditions.map Condition.untimed, lastUpdated := none }

theorem timeless_eq_iff (a b : GatewayStatus) :
    a.timeless = b.timeless ↔ a.configHash = b.configHash ∧
      a.conditions.map Condition.untimed = b.conditions.map Condition.untimed := by
  simp [timeless, and_comm]

theorem changed_iff (observed : Option GatewayStatus) (desired : GatewayStatus) :
    changed observed desired = true ↔ observed.map timeless ≠ some desired.timeless := by
  cases observed with
  | none => simp [changed]
  | some observed =>
    have hsame := Conditions.sameUpToTime_iff observed.conditions desired.conditions
    simp only [changed, Option.map_some, ne_eq, Option.some.injEq, timeless_eq_iff, ← hsame,
      Bool.or_eq_true, decide_eq_true_eq, Bool.not_eq_true', Bool.not_eq_true, not_and_or]

end GatewayStatus

def Call.writesStatus : Call → Bool
  | .putStatus .. => true
  | _ => false

namespace MemoryStore

open Program

-- What the call writes is not what stands there: nothing stands where an object is created, another
-- object where one is replaced, and a gateway that gets a status has none or one that says
-- something else.
def Novel (s : MemoryStore) : Call → Prop
  | .create kind ns object => s.find? ⟨kind, ns, kind.nameOf object⟩ = none
  | .replace kind ns object =>
    ∃ stored, s.object? kind ns (kind.nameOf object) = some (some stored) ∧ stored ≠ object
  | .putStatus g status =>
    s.object? .gateway (g.metadata.ns.getD "") g.name = some (some g) ∧
      g.status.map GatewayStatus.timeless ≠ some status.timeless
  | _ => True

-- What the call writes can be read back.
def Legible : Call → Prop
  | .create kind _ object => kind.WellFormed object
  | .replace kind _ object => kind.WellFormed object
  | .putStatus g status => Kind.WellFormed .gateway { g with status := some status }
  | _ => True

variable {s : MemoryStore}

theorem find?_ne_of_object? {kind : Kind} {ns name : String} {stored object : kind.Object}
    (hstored : s.object? kind ns name = some (some stored)) (hobject : kind.WellFormed object)
    (hne : stored ≠ object) : s.find? ⟨kind, ns, name⟩ ≠ some (kind.toJson object) := by
  intro hfind
  cases hstored.symm.trans (object?_of_find?_toJson hobject hfind)
  exact hne rfl

-- A write that went into the log has changed the document that it is about.
theorem Novel.find?_ne {c : Call} (h : s.Novel c) (hc : Legible c)
    (hlog : (handle c s).2.log ≠ s.log) :
    ∃ key ∈ c.key?, (handle c s).2.find? key ≠ s.find? key := by
  have hbecomes := s.becomes_handle c
  generalize (handle c s).2 = t at hlog hbecomes ⊢
  cases hbecomes with
  | same => exact absurd rfl hlog
  | created kind ns object =>
    refine ⟨_, rfl, ?_⟩
    rw [find?_record, find?_put_self, show s.find? _ = none from h]
    simp
  | replaced kind ns object =>
    obtain ⟨stored, hstored, hne⟩ := h
    refine ⟨_, rfl, ?_⟩
    rw [find?_record, find?_put_self]
    exact (find?_ne_of_object? hstored hc hne).symm
  | @restated g stored status hstored =>
    obtain ⟨hobject, hsays⟩ := h
    cases hstored.symm.trans hobject
    have hne : g ≠ { g with status := some status } := by
      intro hsame
      exact hsays (by rw [hsame]; rfl)
    refine ⟨_, rfl, ?_⟩
    have hafter : (s.withStatus g status).find? (.of .gateway g) =
        some (Kind.toJson .gateway { g with status := some status }) := find?_put_self s _ _
    exact fun hsame => find?_ne_of_object? hobject hc hne (hsame.symm.trans hafter)

-- A visit of a stage: its call writes no status, and what it writes is new and can be read back.
structure Tends (v : MemoryStore × Call) : Prop where
  novel : v.1.Novel v.2
  legible : Legible v.2
  writesStatus : v.2.writesStatus = false

theorem compositional_forall_visits (P : MemoryStore × Call → Prop) :
    Compositional handle fun _ p s => ∀ v ∈ p.visits handle s, P v :=
  compositional_visits (P := fun visits => ∀ v ∈ visits, P v) handle (List.forall_mem_nil _)
    fun h h' => List.forall_mem_append.mpr ⟨h, h'⟩

-- What makes no calls adds no visits.
theorem visits_bind_of_silent {α β : Type} {p : Program α} {f : α → Program β}
    (hf : ∀ a t, (f a).visits handle t = []) :
    (p >>= f).visits handle s = p.visits handle s := by
  rw [visits_bind]
  split
  next => rw [hf, List.append_nil]
  next => exact List.append_nil _

end MemoryStore

namespace Stage

open MemoryStore

variable {st : Stage} {ns : String} {s : MemoryStore}

-- An update leaves nothing drifted, so that it changes what has drifted.
theorem Lawful.ne_update (hst : st.Lawful ns) {existing : st.kind.Object}
    (hdrifted : st.drifted existing = true) : existing ≠ st.update existing := by
  intro hsame
  have hupdated := hst.update_not_drifted existing
  rw [← hsame, hdrifted] at hupdated
  cases hupdated

theorem tends_apply (hst : st.Lawful ns) (hs : s.WellKeyed) :
    ∀ v ∈ (st.apply ns).visits handle s, Tends v := by
  rw [visits_apply]
  refine List.forall_mem_cons.mpr ⟨⟨trivial, trivial, rfl⟩, ?_⟩
  split
  next t hreply =>
    obtain ⟨rfl, hfound⟩ := handle_get_eq_some hreply
    have habsent : t.find? (st.key ns) = none := object?_eq_some_none_iff.mp (hfound _ rfl)
    exact List.forall_mem_singleton.mpr ⟨habsent, hst.desired_wellFormed, rfl⟩
  next existing t hreply =>
    obtain ⟨rfl, hfound⟩ := handle_get_eq_some hreply
    split
    next hdrifted =>
      obtain ⟨hexisting, hown⟩ := hs.of_object? (hfound _ rfl)
      have hname : st.kind.nameOf (st.update existing) = st.name :=
        congrArg ObjectKey.name ((hst.update_key existing).trans hown)
      refine List.forall_mem_singleton.mpr
        ⟨⟨existing, ?_, hst.ne_update hdrifted⟩, hst.update_wellFormed existing hexisting, rfl⟩
      rw [hname]
      exact hfound _ rfl
    next => exact List.forall_mem_nil _
  next => exact List.forall_mem_nil _

end Stage

namespace Operator

open MemoryStore

variable {op : Operator} {now : Instant} {ns name : String} {s t : MemoryStore} {g : Gateway}
  {applied : List (Kind × Applied)} {made : Except Obstacle String}

theorem tends_applyChildren (hs : s.WellKeyed) (hg : g.WellFormed)
    (hns : Kind.namespaceOf .gateway g = ns) :
    ∀ v ∈ (op.applyChildren g ns).visits handle s, Tends v :=
  holds_applyChildren (compositional_forall_visits Tends) hs hg hns
    fun _ _ _ _ _ hl _ hs => Stage.tends_apply hl hs

theorem visits_persistStatus (g : Gateway) (status : GatewayStatus) (s : MemoryStore) :
    (persistStatus g status).visits handle s =
      if GatewayStatus.changed g.status status then [(s, .putStatus g status)] else [] := by
  unfold persistStatus
  split
  · rw [Program.visits_bind, Program.visits_call]
    split
    next reply t _ => rcases reply with e | ⟨⟩ <;> rfl
    next => rfl
  · rfl

-- A pass over a gateway of ours looks for it and for the classes, brings the children into place,
-- and sees to the status then.
theorem Claims.visits (hs : s.WellKeyed) (h : op.Claims ns name s g)
    (happlies : op.Applies g ns s applied made t) :
    (op.pass now ns name).visits handle s =
      (s, .get .gateway ns name) :: (s, .listClasses) ::
        ((op.applyChildren g ns).visits handle s ++
          (persistStatus g (nextStatus g made now)).visits handle t) := by
  obtain ⟨hg, hkey⟩ := h.wellFormed hs
  have hget : (Program.call (.get .gateway ns name)).run handle s = (some (.ok (some g)), s) := by
    rw [Program.run_call]
    exact Stage.handle_get_of_object? h.get h.object
  have hlist : (op.responsible g).visits handle s = [(s, .listClasses)] := rfl
  have hours : (op.responsible g).run handle s = (some true, s) := by
    rw [run_responsible, h.assigned]
  rw [pass, Program.visits_bind, Program.visits_call, hget]
  simp only [passOver]
  rw [Program.visits_bind, hlist, hours]
  simp only [if_true]
  rw [Program.visits_bind, happlies.run hg (congrArg ObjectKey.ns hkey)]
  simp only [List.cons_append, List.nil_append]
  rw [MemoryStore.visits_bind_of_silent]
  · rfl
  · rintro (e | written) u <;> rfl

-- Without a gateway of ours a pass only looks for it and for the classes.
theorem visits_of_not_claims (op : Operator) (now : Instant) (h : ∀ g, ¬ op.Claims ns name s g) :
    ∀ v ∈ (op.pass now ns name).visits handle s,
      v = (s, .get .gateway ns name) ∨ v = (s, .listClasses) := by
  refine (compositional_forall_visits _).bind ?_ fun reply t hreply => ?_
  · rw [Program.visits_call]
    exact List.forall_mem_singleton.mpr (.inl rfl)
  rw [Program.run_call] at hreply
  obtain ⟨rfl, hfound⟩ := handle_get_eq_some hreply
  rcases reply with e | _ | g
  · exact List.forall_mem_nil _
  · exact List.forall_mem_nil _
  have hlist : (op.responsible g).visits handle t = [(t, .listClasses)] := rfl
  refine (compositional_forall_visits _).bind (by simp [hlist]) fun ours u hrun => ?_
  cases (op.run_responsible g t).symm.trans hrun
  split
  next hassigned =>
    have hget : t.injected? .gateway .get = none := by
      cases hinjected : t.injected? .gateway .get with
      | none => rfl
      | some e => simp [handle, hinjected] at hreply
    exact absurd ⟨hget, hfound _ rfl, hassigned⟩ (h g)
  next => exact List.forall_mem_nil _

theorem Claims.novel (hs : s.WellKeyed) (h : op.Claims ns name s g)
    (happlies : op.Applies g ns s applied made t) :
    ∀ v ∈ (op.pass now ns name).visits handle s, v.1.Novel v.2 ∧ (now.Proper → Legible v.2) := by
  obtain ⟨hg, hkey⟩ := h.wellFormed hs
  have hns : g.metadata.ns.getD "" = ns := congrArg ObjectKey.ns hkey
  have hname : g.name = name := congrArg ObjectKey.name hkey
  rw [h.visits hs happlies, visits_persistStatus]
  refine List.forall_mem_cons.mpr ⟨⟨trivial, fun _ => trivial⟩, List.forall_mem_cons.mpr
    ⟨⟨trivial, fun _ => trivial⟩, List.forall_mem_append.mpr ⟨fun v hv => ?_, ?_⟩⟩⟩
  · have htends := tends_applyChildren hs hg hns v hv
    exact ⟨htends.novel, fun _ => htends.legible⟩
  · split
    next hchanged =>
      refine List.forall_mem_singleton.mpr ⟨⟨?_, (GatewayStatus.changed_iff _ _).mp hchanged⟩,
        fun hnow => h.wellFormed_next hs made hnow⟩
      rw [hns, hname]
      exact h.object_after happlies
    next => exact List.forall_mem_nil _

theorem Claims.statusVisits (hs : s.WellKeyed) (h : op.Claims ns name s g)
    (happlies : op.Applies g ns s applied made t) :
    ((op.pass now ns name).visits handle s).filter (fun v => v.2.writesStatus) =
      if g.status.map GatewayStatus.timeless = some (nextStatus g made now).timeless then []
      else [(t, .putStatus g (nextStatus g made now))] := by
  obtain ⟨hg, hkey⟩ := h.wellFormed hs
  have hchildren : ((op.applyChildren g ns).visits handle s).filter (fun v => v.2.writesStatus) =
      [] := by
    refine List.filter_eq_nil_iff.mpr fun v hv => ?_
    simp [(tends_applyChildren hs hg (congrArg ObjectKey.ns hkey) v hv).writesStatus]
  have hchanged := GatewayStatus.changed_iff g.status (nextStatus g made now)
  rw [h.visits hs happlies, List.filter_cons_of_neg (by simp [Call.writesStatus]),
    List.filter_cons_of_neg (by simp [Call.writesStatus]), List.filter_append, hchildren,
    visits_persistStatus, List.nil_append]
  by_cases hsame : g.status.map GatewayStatus.timeless = some (nextStatus g made now).timeless
  · simp [hsame, show GatewayStatus.changed _ _ = false by simpa [hsame] using hchanged]
  · simp [hsame, hchanged.mpr hsame, Call.writesStatus]

-- Whatever stands in the store: what a pass creates was not there, what it replaces becomes another
-- object, and a write that is accepted changes the document that it is about. A pass over a gateway
-- of ours brings the children into place and tries to write the status that follows exactly if the
-- gateway has none or one that says something else, times apart; no other pass writes a status.
theorem novel_of_pass (op : Operator) (hs : s.WellKeyed) (now : Instant) (ns name : String) :
    (∀ v ∈ (op.pass now ns name).visits handle s, v.1.Novel v.2) ∧
    (now.Proper → ∀ v ∈ (op.pass now ns name).visits handle s,
      (handle v.2 v.1).2.log ≠ v.1.log →
        ∃ key ∈ v.2.key?, (handle v.2 v.1).2.find? key ≠ v.1.find? key) ∧
    (∀ g, op.Claims ns name s g → ∃ applied made t,
      (op.applyChildren g ns).run handle s = (some (applied, made), t) ∧
      t.object? .gateway ns name = some (some g) ∧
      ((op.pass now ns name).visits handle s).filter (fun v => v.2.writesStatus) =
        if g.status.map GatewayStatus.timeless =
            some ((g.status.getD {}).afterPass made now).timeless then []
        else [(t, .putStatus g ((g.status.getD {}).afterPass made now))]) ∧
    ((∀ g, ¬ op.Claims ns name s g) →
      ((op.pass now ns name).visits handle s).filter (fun v => v.2.writesStatus) = []) := by
  have hnovel : ∀ v ∈ (op.pass now ns name).visits handle s,
      v.1.Novel v.2 ∧ (now.Proper → Legible v.2) := by
    by_cases hclaims : ∃ g, op.Claims ns name s g
    · obtain ⟨g, h⟩ := hclaims
      obtain ⟨hg, hkey⟩ := h.wellFormed hs
      obtain ⟨applied, made, t, happlies⟩ :=
        exists_applies op hs hg (congrArg ObjectKey.ns hkey)
      exact h.novel hs happlies
    · intro v hv
      rcases visits_of_not_claims op now (not_exists.mp hclaims) v hv with rfl | rfl <;>
        exact ⟨trivial, fun _ => trivial⟩
  refine ⟨fun v hv => (hnovel v hv).1, fun hnow v hv hlog => ?_, fun g h => ?_, fun h => ?_⟩
  · exact (hnovel v hv).1.find?_ne ((hnovel v hv).2 hnow) hlog
  · obtain ⟨hg, hkey⟩ := h.wellFormed hs
    have hns : Kind.namespaceOf .gateway g = ns := congrArg ObjectKey.ns hkey
    obtain ⟨applied, made, t, happlies⟩ := exists_applies op hs hg hns
    exact ⟨applied, made, t, happlies.run hg hns, h.object_after happlies,
      h.statusVisits hs happlies⟩
  · refine List.filter_eq_nil_iff.mpr fun v hv => ?_
    rcases visits_of_not_claims op now h v hv with rfl | rfl <;> simp [Call.writesStatus]

-- The deployment has lost its pods and gets them back; the service still cannot be made, which the
-- status says already.
theorem novel_of_pass_worn :
    (ofUses wornUses).WellKeyed ∧
    (((({} : Operator).pass ⟨60, false⟩ "default" "gw").visits handle (ofUses wornUses)).map
        fun v => v.2.point) =
      [⟨.objects .gateway, .get⟩, ⟨.classes, .list⟩, ⟨.objects .configMap, .get⟩,
       ⟨.objects .deployment, .get⟩, ⟨.objects .deployment, .replace⟩, ⟨.objects .service, .get⟩,
       ⟨.objects .service, .create⟩] ∧
    (∀ v ∈ (({} : Operator).pass ⟨60, false⟩ "default" "gw").visits handle (ofUses wornUses),
      v.1.Novel v.2) ∧
    ∀ v ∈ (({} : Operator).pass ⟨60, false⟩ "default" "gw").visits handle (ofUses wornUses),
      (handle v.2 v.1).2.log ≠ v.1.log →
        ∃ key ∈ v.2.key?, (handle v.2 v.1).2.find? key ≠ v.1.find? key := by
  have hs : (ofUses wornUses).WellKeyed := wellKeyed_empty.afterUses wornUses
  have hnow : Instant.Proper ⟨60, false⟩ := ⟨by decide, by decide⟩
  obtain ⟨hnovel, hwrites, -⟩ := novel_of_pass {} hs ⟨60, false⟩ "default" "gw"
  exact ⟨hs, by decide +kernel, hnovel, hwrites hnow⟩

end Operator

end GatewayOperator
