import GatewayOperator.Proofs.Children.Drift
import GatewayOperator.Proofs.Pass.Program
import GatewayOperator.Proofs.Store.Memory

namespace GatewayOperator

namespace Stage

-- Where the child belongs
def key (st : Stage) (ns : String) : ObjectKey := ⟨st.kind, ns, st.name⟩

-- What is asked of a stage: its desired child belongs where the stage looks for it, it and every
-- updated child can be read back, and neither has drifted.
structure Lawful (st : Stage) (ns : String) : Prop where
  desired_key : ObjectKey.of st.kind st.desired = st.key ns
  desired_wellFormed : st.kind.WellFormed st.desired
  desired_not_drifted : st.drifted st.desired = false
  update_key : ∀ existing, ObjectKey.of st.kind (st.update existing) = .of st.kind existing
  update_wellFormed : ∀ existing, st.kind.WellFormed existing →
    st.kind.WellFormed (st.update existing)
  update_not_drifted : ∀ existing, st.drifted (st.update existing) = false

-- The child is there and has not drifted.
def InPlace (st : Stage) (ns : String) (s : MemoryStore) : Prop :=
  ∃ object, s.object? st.kind ns st.name = some (some object) ∧ st.kind.WellFormed object ∧
    st.drifted object = false

end Stage

namespace MemoryStore

-- Nothing but objects under the given keys and the log differs between two stores.
structure SameOutside (keys : List ObjectKey) (s t : MemoryStore) : Prop where
  failing : t.failing = s.failing
  classes : t.classes = s.classes
  statuses : t.statuses = s.statuses
  find? : ∀ key ∉ keys, t.find? key = s.find? key

theorem SameOutside.refl (keys : List ObjectKey) (s : MemoryStore) : SameOutside keys s s :=
  ⟨rfl, rfl, rfl, fun _ _ => rfl⟩

theorem SameOutside.trans {keys more : List ObjectKey} {s t u : MemoryStore}
    (h : SameOutside keys s t) (h' : SameOutside more t u) : SameOutside (keys ++ more) s u := by
  refine ⟨h'.failing.trans h.failing, h'.classes.trans h.classes, h'.statuses.trans h.statuses, ?_⟩
  intro key hkey
  rw [List.mem_append, not_or] at hkey
  rw [h'.find? key hkey.2, h.find? key hkey.1]

theorem sameOutside_put_record (s : MemoryStore) (key : ObjectKey) (document : Json)
    (write : Write) : SameOutside [key] s ((s.put key document).record write) :=
  ⟨rfl, rfl, rfl, fun _ h => find?_put_of_ne s (List.ne_of_not_mem_cons h) document⟩

end MemoryStore

namespace Stage

-- All that a stage can do to a store: `result` is what it reports and `t` the store after it.
inductive Step (st : Stage) (ns : String) (s : MemoryStore) :
    (result : Except ApiError Applied) → (t : MemoryStore) → Prop where
  | getFails {e : ApiError} (hget : s.injected? st.kind .get = some e) : Step st ns s (.error e) s
  | createFails {e : ApiError} (hget : s.injected? st.kind .get = none)
      (habsent : s.find? (st.key ns) = none) (hcreate : s.injected? st.kind .create = some e) :
      Step st ns s (.error e) s
  | created (hget : s.injected? st.kind .get = none) (habsent : s.find? (st.key ns) = none)
      (hcreate : s.injected? st.kind .create = none) :
      Step st ns s (.ok .created)
        ((s.put (st.key ns) (st.kind.toJson st.desired)).record ⟨st.kind, .create, st.name⟩)
  | unchanged {existing : st.kind.Object} (hget : s.injected? st.kind .get = none)
      (hobject : s.object? st.kind ns st.name = some (some existing))
      (hdrifted : st.drifted existing = false) : Step st ns s (.ok .unchanged) s
  | replaceFails {existing : st.kind.Object} {e : ApiError}
      (hget : s.injected? st.kind .get = none)
      (hobject : s.object? st.kind ns st.name = some (some existing))
      (hdrifted : st.drifted existing = true) (hreplace : s.injected? st.kind .replace = some e) :
      Step st ns s (.error e) s
  | updated {existing : st.kind.Object} (hget : s.injected? st.kind .get = none)
      (hobject : s.object? st.kind ns st.name = some (some existing))
      (hdrifted : st.drifted existing = true) (hreplace : s.injected? st.kind .replace = none)
      (hexisting : st.kind.WellFormed existing) (hkey : ObjectKey.of st.kind existing = st.key ns) :
      Step st ns s (.ok .updated)
        ((s.put (st.key ns) (st.kind.toJson (st.update existing))).record
          ⟨st.kind, .replace, st.name⟩)

variable {st : Stage} {ns : String} {s t : MemoryStore} {result : Except ApiError Applied}

theorem handle_get_of_object? {kind : Kind} {name : String} {found : Option kind.Object}
    (hget : s.injected? kind .get = none) (hobject : s.object? kind ns name = some found) :
    MemoryStore.handle (.get kind ns name) s = (some (.ok found), s) := by
  simp only [MemoryStore.handle, hget, hobject, Option.map_some]

-- A stage reports no change exactly when it finds its child and sees no drift.
theorem run_apply_eq_unchanged_iff {σ : Type} {handler : Program.Handler σ} {s t : σ} :
    (st.apply ns).run handler s = (some (.ok .unchanged), t) ↔
      ∃ existing, handler (.get st.kind ns st.name) s = (some (.ok (some existing)), t) ∧
        st.drifted existing = false := by
  constructor
  · intro h
    obtain ⟨reply, u, hget, hrest⟩ := Program.exists_of_run_bind h
    rw [Program.run_call] at hget
    rcases reply with e | _ | existing
    · cases hrest
    · obtain ⟨created, v, -, hend⟩ := Program.exists_of_run_bind hrest
      rcases created with e | ⟨⟩ <;> cases hend
    · simp only at hrest
      split at hrest
      · obtain ⟨replaced, v, -, hend⟩ := Program.exists_of_run_bind hrest
        rcases replaced with e | ⟨⟩ <;> cases hend
      next hdrifted =>
        cases hrest
        exact ⟨existing, hget, Bool.eq_false_of_not_eq_true hdrifted⟩
  · rintro ⟨existing, hget, hdrifted⟩
    rw [apply, Program.run_call_bind_of_some _ hget]
    simp only [hdrifted]
    rfl

theorem Step.run (hst : st.Lawful ns) (h : st.Step ns s result t) :
    (st.apply ns).run MemoryStore.handle s = (some result, t) := by
  cases h with
  | @getFails e hget =>
    have hreply : MemoryStore.handle (.get st.kind ns st.name) s = (some (.error e), s) := by
      simp only [MemoryStore.handle, hget]
    exact Program.run_call_bind_of_some _ hreply _
  | @createFails e hget habsent hcreate =>
    have hreply := handle_get_of_object? hget (MemoryStore.object?_of_find?_eq_none habsent)
    have hcreated : MemoryStore.handle (.create st.kind ns st.desired) s =
        (some (.error e), s) := by
      simp only [MemoryStore.handle, MemoryStore.create, hcreate]
    rw [apply, Program.run_call_bind_of_some _ hreply]
    exact Program.run_call_bind_of_some _ hcreated _
  | created hget habsent hcreate =>
    have hreply := handle_get_of_object? hget (MemoryStore.object?_of_find?_eq_none habsent)
    have hcreated : MemoryStore.handle (.create st.kind ns st.desired) s = (some (.ok ()),
        (s.put (st.key ns) (st.kind.toJson st.desired)).record ⟨st.kind, .create, st.name⟩) := by
      have habsent' : s.find? ⟨st.kind, ns, st.kind.nameOf st.desired⟩ = none := habsent
      simp only [MemoryStore.handle, MemoryStore.create, hcreate, habsent']
      rfl
    rw [apply, Program.run_call_bind_of_some _ hreply]
    exact Program.run_call_bind_of_some _ hcreated _
  | unchanged hget hobject hdrifted =>
    exact run_apply_eq_unchanged_iff.mpr ⟨_, handle_get_of_object? hget hobject, hdrifted⟩
  | @replaceFails existing e hget hobject hdrifted hreplace =>
    have hreplaced : MemoryStore.handle (.replace st.kind ns (st.update existing)) s =
        (some (.error e), s) := by
      simp only [MemoryStore.handle, MemoryStore.replace, hreplace]
    rw [apply, Program.run_call_bind_of_some _ (handle_get_of_object? hget hobject)]
    simp only [hdrifted, if_true]
    exact Program.run_call_bind_of_some _ hreplaced _
  | @updated existing hget hobject hdrifted hreplace hexisting hkey =>
    have hname : st.kind.nameOf (st.update existing) = st.name :=
      congrArg ObjectKey.name ((hst.update_key existing).trans hkey)
    have hreplaced : MemoryStore.handle (.replace st.kind ns (st.update existing)) s =
        (some (.ok ()), (s.put (st.key ns) (st.kind.toJson (st.update existing))).record
          ⟨st.kind, .replace, st.name⟩) := by
      simp only [MemoryStore.handle, MemoryStore.replace, hreplace, hname]
      rfl
    rw [apply, Program.run_call_bind_of_some _ (handle_get_of_object? hget hobject)]
    simp only [hdrifted, if_true]
    exact Program.run_call_bind_of_some _ hreplaced _

-- A stage always comes to an end.
theorem exists_step (st : Stage) (ns : String) (hs : s.WellKeyed) :
    ∃ result t, st.Step ns s result t := by
  cases hget : s.injected? st.kind .get with
  | some e => exact ⟨_, _, .getFails hget⟩
  | none =>
    rcases hs.object?_cases st.kind ns st.name with ⟨habsent, -⟩ | ⟨existing, hobject, hwell, hkey⟩
    · cases hcreate : s.injected? st.kind .create with
      | some e => exact ⟨_, _, .createFails hget habsent hcreate⟩
      | none => exact ⟨_, _, .created hget habsent hcreate⟩
    · cases hdrifted : st.drifted existing with
      | false => exact ⟨_, _, .unchanged hget hobject hdrifted⟩
      | true =>
        cases hreplace : s.injected? st.kind .replace with
        | some e => exact ⟨_, _, .replaceFails hget hobject hdrifted hreplace⟩
        | none => exact ⟨_, _, .updated hget hobject hdrifted hreplace hwell hkey⟩

theorem step_of_run (hst : st.Lawful ns) (hs : s.WellKeyed)
    (h : (st.apply ns).run MemoryStore.handle s = (some result, t)) : st.Step ns s result t := by
  obtain ⟨other, u, hstep⟩ := st.exists_step ns hs
  cases h.symm.trans (hstep.run hst)
  exact hstep

-- A stage touches its own object only.
theorem Step.sameOutside (h : st.Step ns s result t) :
    MemoryStore.SameOutside [st.key ns] s t := by
  cases h with
  | getFails | createFails | unchanged | replaceFails => exact .refl _ _
  | created | updated => exact MemoryStore.sameOutside_put_record _ _ _ _

theorem Step.wellKeyed (hst : st.Lawful ns) (hs : s.WellKeyed) (h : st.Step ns s result t) :
    t.WellKeyed := by
  cases h with
  | getFails | createFails | unchanged | replaceFails => exact hs
  | created =>
    rw [← hst.desired_key]
    exact hs.put hst.desired_wellFormed
  | @updated existing _ _ _ _ hexisting hkey =>
    rw [← hkey, ← hst.update_key existing]
    exact hs.put (hst.update_wellFormed existing hexisting)

-- What was created or updated is found again, so that a stage that went well leaves its child in
-- place.
theorem Step.inPlace (hst : st.Lawful ns) (hs : s.WellKeyed) {applied : Applied}
    (h : st.Step ns s (.ok applied) t) : st.InPlace ns t := by
  cases h with
  | created =>
    exact ⟨st.desired, MemoryStore.object?_of_find?_toJson hst.desired_wellFormed
      (MemoryStore.find?_put_self _ _ _), hst.desired_wellFormed, hst.desired_not_drifted⟩
  | @unchanged existing _ hobject hdrifted =>
    exact ⟨existing, hobject, (hs.of_object? hobject).1, hdrifted⟩
  | @updated existing _ _ _ _ hexisting _ =>
    have hwell := hst.update_wellFormed existing hexisting
    exact ⟨st.update existing, MemoryStore.object?_of_find?_toJson hwell
      (MemoryStore.find?_put_self _ _ _), hwell, hst.update_not_drifted existing⟩

-- A stage that is run again meets the same failure, or its child in place: it writes nothing.
theorem Step.again (hst : st.Lawful ns) (hs : s.WellKeyed) (h : st.Step ns s result t)
    {u : MemoryStore} (hfailing : u.failing = t.failing)
    (hfind : u.find? (st.key ns) = t.find? (st.key ns)) :
    st.Step ns u (result.map fun _ => .unchanged) u := by
  have hinjected (op : Operation) : u.injected? st.kind op = s.injected? st.kind op :=
    MemoryStore.injected?_congr (hfailing.trans h.sameOutside.failing) _ op
  have hobject : u.object? st.kind ns st.name = t.object? st.kind ns st.name :=
    MemoryStore.object?_congr hfind
  cases result with
  | error e =>
    cases h with
    | getFails hget => exact .getFails ((hinjected _).trans hget)
    | createFails hget habsent hcreate =>
      exact .createFails ((hinjected _).trans hget) (hfind.trans habsent)
        ((hinjected _).trans hcreate)
    | replaceFails hget hexisting hdrifted hreplace =>
      exact .replaceFails ((hinjected _).trans hget) (hobject.trans hexisting) hdrifted
        ((hinjected _).trans hreplace)
  | ok applied =>
    obtain ⟨object, hfound, -, hdrifted⟩ := h.inPlace hst hs
    have hget : s.injected? st.kind .get = none := by
      cases h <;> assumption
    exact .unchanged ((hinjected _).trans hget) (hobject.trans hfound) hdrifted

-- All stages, up to the first that fails
inductive Steps (ns : String) : List Stage → MemoryStore → List (Kind × Applied) →
    Option Obstacle → MemoryStore → Prop where
  | finished (s : MemoryStore) : Steps ns [] s [] none s
  | stopped {st : Stage} {rest : List Stage} {s t : MemoryStore} {e : ApiError}
      (h : st.Step ns s (.error e) t) : Steps ns (st :: rest) s [] (some (.child st.kind e)) t
  | step {st : Stage} {rest : List Stage} {s t u : MemoryStore} {applied : Applied}
      {more : List (Kind × Applied)} {obstacle : Option Obstacle}
      (h : st.Step ns s (.ok applied) t) (hrest : Steps ns rest t more obstacle u) :
      Steps ns (st :: rest) s ((st.kind, applied) :: more) obstacle u

variable {stages : List Stage} {applied : List (Kind × Applied)} {obstacle : Option Obstacle}

theorem Steps.run (hl : ∀ st ∈ stages, st.Lawful ns)
    (h : Steps ns stages s applied obstacle t) :
    (applyAll ns stages).run MemoryStore.handle s = (some (applied, obstacle), t) := by
  induction h with
  | finished => rfl
  | stopped h =>
    rw [applyAll, Program.run_bind_of_some _ (h.run (hl _ List.mem_cons_self))]
    rfl
  | step h _ ih =>
    rw [applyAll, Program.run_bind_of_some _ (h.run (hl _ List.mem_cons_self))]
    exact Program.run_bind_of_some _ (ih fun st hst => hl st (List.mem_cons_of_mem _ hst)) _

theorem exists_steps (hl : ∀ st ∈ stages, st.Lawful ns) (hs : s.WellKeyed) :
    ∃ applied obstacle t, Steps ns stages s applied obstacle t := by
  induction stages generalizing s with
  | nil => exact ⟨_, _, _, .finished s⟩
  | cons st rest ih =>
    obtain ⟨result, t, h⟩ := st.exists_step ns hs
    cases result with
    | error e => exact ⟨_, _, _, .stopped h⟩
    | ok applied =>
      have ht := h.wellKeyed (hl st List.mem_cons_self) hs
      obtain ⟨more, obstacle, u, hrest⟩ := ih (fun r hr => hl r (List.mem_cons_of_mem _ hr)) ht
      exact ⟨_, _, _, .step h hrest⟩

theorem Steps.sameOutside (h : Steps ns stages s applied obstacle t) :
    MemoryStore.SameOutside (stages.map fun st => st.key ns) s t := by
  induction h with
  | finished => exact .refl _ _
  | @stopped st rest _ _ _ h =>
    exact h.sameOutside.trans (.refl (rest.map fun st => st.key ns) _)
  | step h _ ih => exact h.sameOutside.trans ih

theorem Steps.wellKeyed (hl : ∀ st ∈ stages, st.Lawful ns) (hs : s.WellKeyed)
    (h : Steps ns stages s applied obstacle t) : t.WellKeyed := by
  induction h with
  | finished => exact hs
  | stopped h => exact h.wellKeyed (hl _ List.mem_cons_self) hs
  | step h _ ih =>
    exact ih (fun st hst => hl st (List.mem_cons_of_mem _ hst))
      (h.wellKeyed (hl _ List.mem_cons_self) hs)

theorem InPlace.congr (h : st.InPlace ns s) (hfind : t.find? (st.key ns) = s.find? (st.key ns)) :
    st.InPlace ns t := by
  obtain ⟨object, hobject, hwell, hdrifted⟩ := h
  exact ⟨object, (MemoryStore.object?_congr hfind).trans hobject, hwell, hdrifted⟩

-- If no stage failed then all children are in place: later stages leave the earlier children alone.
theorem Steps.inPlace (hl : ∀ st ∈ stages, st.Lawful ns)
    (hkeys : (stages.map fun st => st.key ns).Nodup) (hs : s.WellKeyed)
    (h : Steps ns stages s applied none t) : ∀ st ∈ stages, st.InPlace ns t := by
  generalize hnone : (none : Option Obstacle) = obstacle at h
  induction h with
  | finished => simp
  | stopped => cases hnone
  | @step st rest s t u _ _ _ h hrest ih =>
    obtain ⟨hkey, hrestKeys⟩ := List.nodup_cons.mp hkeys
    have hst := hl st List.mem_cons_self
    have ht := h.wellKeyed hst hs
    intro r hr
    rcases List.mem_cons.mp hr with rfl | hr
    · exact (h.inPlace hst hs).congr (hrest.sameOutside.find? _ hkey)
    · exact ih (fun r hr => hl r (List.mem_cons_of_mem _ hr)) hrestKeys ht hnone r hr

-- Stages that are run again write nothing and come as far as before.
theorem Steps.again (hl : ∀ st ∈ stages, st.Lawful ns)
    (hkeys : (stages.map fun st => st.key ns).Nodup) (hs : s.WellKeyed)
    (h : Steps ns stages s applied obstacle t) {u : MemoryStore} (hfailing : u.failing = t.failing)
    (hfind : ∀ st ∈ stages, u.find? (st.key ns) = t.find? (st.key ns)) :
    Steps ns stages u (applied.map fun a => (a.1, .unchanged)) obstacle u := by
  induction h with
  | finished => exact .finished u
  | stopped h =>
    exact .stopped (h.again (hl _ List.mem_cons_self) hs hfailing (hfind _ List.mem_cons_self))
  | @step st rest s t v _ _ _ h hrest ih =>
    obtain ⟨hkey, hrestKeys⟩ := List.nodup_cons.mp hkeys
    have hst := hl st List.mem_cons_self
    have ht := h.wellKeyed hst hs
    have hsame := hrest.sameOutside
    refine .step (h.again hst hs (hfailing.trans hsame.failing) ?_) ?_
    · rw [hfind st List.mem_cons_self, hsame.find? _ hkey]
    · exact ih (fun r hr => hl r (List.mem_cons_of_mem _ hr)) hrestKeys ht hfailing
        fun r hr => hfind r (List.mem_cons_of_mem _ hr)

-- Where no failure is injected, all stages are run.
theorem Steps.obstacle_eq_none (hfailing : s.failing = [])
    (h : Steps ns stages s applied obstacle t) : obstacle = none := by
  induction h with
  | finished => rfl
  | @stopped st rest s t e h =>
    cases h with
    | getFails h | createFails _ _ h | replaceFails _ _ _ h =>
      cases (MemoryStore.injected?_of_failing_eq_nil hfailing _ _).symm.trans h
  | step h _ ih => exact ih (h.sameOutside.failing.trans hfailing)

-- What holds of every stage holds of them all in turn: whatever a stage does, all objects stand
-- under their own keys afterwards.
theorem holds_applyAll {P : (α : Type) → Program α → MemoryStore → Prop}
    (hP : Program.Compositional MemoryStore.handle P) (hl : ∀ st ∈ stages, st.Lawful ns)
    (hs : s.WellKeyed)
    (happly : ∀ st ∈ stages, ∀ s : MemoryStore, s.WellKeyed → P _ (st.apply ns) s) :
    P _ (applyAll ns stages) s := by
  induction stages generalizing s with
  | nil => exact hP.pure _ _
  | cons st rest ih =>
    have hst := hl st List.mem_cons_self
    refine hP.bind (happly st List.mem_cons_self s hs) fun result t hrun => ?_
    have ht := (step_of_run hst hs hrun).wellKeyed hst hs
    rcases result with e | applied
    · exact hP.pure _ _
    · have hrest := ih (fun r hr => hl r (List.mem_cons_of_mem _ hr)) ht
        fun r hr => happly r (List.mem_cons_of_mem _ hr)
      exact hP.bind hrest fun _ _ _ => hP.pure _ _

end Stage

end GatewayOperator
