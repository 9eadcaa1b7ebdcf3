import GatewayOperator.Proofs.Pass.Asks
import GatewayOperator.Proofs.Pass.Footprint
import Mathlib.Data.List.Nodup

namespace GatewayOperator

namespace GatewayClass

variable {controller other : String} {className : Option String} {classes more : List GatewayClass}

-- Whether a gateway that asks for `className` is one of this class
def Serves (className : Option String) (c : GatewayClass) : Prop :=
  match className with
  | some name => c.name = name
  | none => c.isDefault = true

theorem assigns_iff :
    assigns controller className classes = true ↔
      ∃ c ∈ classes, c.controller = controller ∧ c.Serves className := by
  cases className <;> simp [assigns, Serves]

theorem assigns_perm (h : classes.Perm more) :
    assigns controller className classes = assigns controller className more := by
  rw [Bool.eq_iff_iff, assigns_iff, assigns_iff]
  simp only [h.mem_iff]

-- No class name is given twice, and at most one class is for the gateways that ask for none.
structure Unambiguous (classes : List GatewayClass) : Prop where
  names : (classes.map GatewayClass.name).Nodup
  default : (classes.filter isDefault).length ≤ 1

theorem Unambiguous.eq_of_serves (h : Unambiguous classes) {c d : GatewayClass} (hc : c ∈ classes)
    (hd : d ∈ classes) (hcServes : c.Serves className) (hdServes : d.Serves className) : c = d := by
  cases className with
  | some name => exact List.inj_on_of_nodup_map h.names hc hd (hcServes.trans hdServes.symm)
  | none =>
    have hdefault := h.default
    have hc' := List.mem_filter.mpr ⟨hc, hcServes⟩
    have hd' := List.mem_filter.mpr ⟨hd, hdServes⟩
    match hfilter : classes.filter isDefault with
    | [] => simp [hfilter] at hc'
    | [only] =>
      rw [hfilter, List.mem_singleton] at hc' hd'
      exact hc'.trans hd'.symm
    | _ :: _ :: _ => simp [hfilter] at hdefault

theorem Unambiguous.assigns_or (h : Unambiguous classes) (hdiff : controller ≠ other)
    (className : Option String) :
    assigns controller className classes = false ∨ assigns other className classes = false := by
  by_contra hboth
  simp only [not_or, Bool.not_eq_false] at hboth
  obtain ⟨c, hc, rfl, hcServes⟩ := assigns_iff.mp hboth.1
  obtain ⟨d, hd, rfl, hdServes⟩ := assigns_iff.mp hboth.2
  exact hdiff (congrArg GatewayClass.controller (h.eq_of_serves hc hd hcServes hdServes))

end GatewayClass

-- An empty class name asks for the same as none.
theorem Gateway.className?_eq_of_getD {g other : Gateway}
    (h : g.spec.className.getD "" = other.spec.className.getD "") :
    g.className? = other.className? := by
  have hopen (g : Gateway) :
      g.className? = if g.spec.className.getD "" = "" then none
        else some (g.spec.className.getD "") := by
    unfold className?
    cases g.spec.className with
    | none => rfl
    | some name => by_cases hname : name = "" <;> simp [hname]
  rw [hopen g, hopen other, h]

namespace MemoryStore

-- The gateway is in the store under its own namespace and name, and can be fetched.
structure Fetches (s : MemoryStore) (g : Gateway) : Prop where
  get : s.injected? .gateway .get = none
  object : s.object? .gateway (Kind.namespaceOf .gateway g) g.name = some (some g)

-- The gateway is in the store, whatever its status.
def Holds (s : MemoryStore) (g : Gateway) : Prop := ∃ status, s.Fetches { g with status }

variable {s t : MemoryStore} {g other : Gateway} {now : Instant}

theorem Holds.congr (h : s.Holds g) (hfailing : t.failing = s.failing)
    (hfind : t.find? (.of .gateway g) = s.find? (.of .gateway g)) : t.Holds g := by
  obtain ⟨status, hget, hobject⟩ := h
  exact ⟨status, (injected?_congr hfailing _ _).trans hget, (object?_congr hfind).trans hobject⟩

theorem Holds.put_record (h : s.Holds g) {kind : Kind} (hkind : kind ≠ .gateway) (ns name : String)
    (document : Json) (write : Write) :
    ((s.put ⟨kind, ns, name⟩ document).record write).Holds g := by
  have hne : ObjectKey.of .gateway g ≠ ⟨kind, ns, name⟩ := fun hkey =>
    hkind (congrArg ObjectKey.kind hkey).symm
  exact h.congr rfl (find?_put_of_ne s hne document)

-- What a pass asks for while it is at the gateway leaves it there, with a status that reads back.
theorem Holds.handle (h : s.Holds g) (hother : other.WellFormed)
    (hsame : other = { g with status := other.status }) (hnow : now.Proper) {c : Call}
    (hc : c.Concerns other now) : (handle c s).2.Holds g := by
  have hcall := becomes_handle c s
  generalize (MemoryStore.handle c s).2 = t at hcall ⊢
  cases hcall with
  | same => exact h
  | created kind ns object => exact h.put_record hc _ _ _ _
  | replaced kind ns object => exact h.put_record hc _ _ _ _
  | @restated written stored status hstored =>
    obtain ⟨hwritten, made, rfl⟩ := hc
    obtain ⟨old, hget, hobject⟩ := h
    have hstored' : some (some stored) = some (some { g with status := old }) := by
      rw [← hstored, hwritten, hsame]
      exact hobject
    cases hstored'
    have hwell : Gateway.WellFormed { g with status := old } := wellFormed_of_object? hobject
    have hprior : (other.status.getD {}).WellFormed := by
      cases hstatus : other.status with
      | none => exact GatewayStatus.wellFormed_empty
      | some status => exact hother.status status hstatus
    have hnext : Gateway.WellFormed
        { g with status := some (Operator.nextStatus other made now) } := by
      refine ⟨hwell.metadata, hwell.spec, ?_⟩
      rintro status ⟨rfl⟩
      exact hprior.afterPass made hnow
    exact ⟨some (Operator.nextStatus other made now), hget,
      object?_of_find?_toJson hnext (find?_put_self s _ _)⟩

theorem classes_handle (c : Call) (s : MemoryStore) : (handle c s).2.classes = s.classes := by
  have hcall := becomes_handle c s
  generalize (handle c s).2 = t at hcall ⊢
  cases hcall <;> rfl

-- No program changes the classes.
theorem classes_run {α : Type} (p : Program α) (s : MemoryStore) :
    (p.run handle s).2.classes = s.classes := by
  induction p generalizing s with
  | done a => rfl
  | ask c next ih =>
    have hcall := classes_handle c s
    simp only [Program.run]
    cases hc : handle c s with
    | mk reply t =>
      rw [hc] at hcall
      cases reply with
      | none => exact hcall
      | some reply => exact (ih reply t).trans hcall

end MemoryStore

namespace Operator

open MemoryStore

variable {op other : Operator} {now later : Instant} {g : Gateway} {s : MemoryStore}

-- The pass leaves the gateway to others: it reports this, and the store stays as it is.
def Skips (op : Operator) (now : Instant) (g : Gateway) (s : MemoryStore) : Prop :=
  (op.pass now (Kind.namespaceOf .gateway g) g.name).run handle s =
    (some (.ok { outcome := .skipped }), s)

theorem run_pass_of_fetches (h : s.Fetches g) (op : Operator) (now : Instant) :
    (op.pass now (Kind.namespaceOf .gateway g) g.name).run handle s =
      (op.passOver now (Kind.namespaceOf .gateway g) g).run handle s :=
  Program.run_call_bind_of_some handle (Stage.handle_get_of_object? h.get h.object) _

theorem skips_iff (h : s.Holds g) :
    op.Skips now g s ↔ GatewayClass.assigns op.controller g.className? s.classes = false := by
  obtain ⟨status, hfetches⟩ := h
  have hrun : (op.pass now (Kind.namespaceOf .gateway g) g.name).run handle s = _ :=
    (run_pass_of_fetches hfetches op now).trans
      (Program.run_bind_of_some handle (op.run_responsible { g with status } s) _)
  have hclass : Gateway.className? { g with status } = g.className? := rfl
  rw [Skips, hrun, hclass]
  cases hassigned : GatewayClass.assigns op.controller g.className? s.classes with
  | false => exact iff_of_true rfl rfl
  | true =>
    refine iff_of_false (fun hskipped => ?_) (by simp)
    obtain ⟨outcome, t, -, hrest⟩ := Program.exists_of_run_bind hskipped
    obtain ⟨written, u, -, hend⟩ := Program.exists_of_run_bind hrest
    rcases written with e | written
    · cases hend
    · obtain ⟨applied, obstacle | hash⟩ := outcome <;> cases hend

theorem holds_of_run (h : s.Holds g) (op : Operator) (hnow : now.Proper) :
    ((op.pass now (Kind.namespaceOf .gateway g) g.name).run handle s).2.Holds g := by
  obtain ⟨status, hfetches⟩ := h
  have hrun : (op.pass now (Kind.namespaceOf .gateway g) g.name).run handle s = _ :=
    run_pass_of_fetches hfetches op now
  rw [hrun]
  have hwell : Gateway.WellFormed { g with status } := wellFormed_of_object? hfetches.object
  exact (op.concerns_passOver now _ { g with status }).keeps (I := fun t => MemoryStore.Holds t g)
    (fun c u hc hu => Holds.handle hu hwell rfl hnow hc) ⟨status, hfetches⟩

end Operator

-- What happens to a gateway: some controller makes a pass over it, or the classes become others.
inductive Shift where
  | pass (op : Operator) (now : Instant) (hnow : now.Proper)
  | reclass (classes : List GatewayClass) (hclasses : GatewayClass.Unambiguous classes)

namespace MemoryStore

def afterShift (g : Gateway) (s : MemoryStore) : Shift → MemoryStore
  | .pass op now _ => ((op.pass now (Kind.namespaceOf .gateway g) g.name).run handle s).2
  | .reclass classes _ => { s with classes }

def afterShifts (g : Gateway) (s : MemoryStore) (shifts : List Shift) : MemoryStore :=
  shifts.foldl (afterShift g) s

variable {g : Gateway} {s : MemoryStore}

-- The gateway is still there and the classes are still unambiguous.
theorem Holds.afterShift (h : s.Holds g) (hclasses : GatewayClass.Unambiguous s.classes)
    (shift : Shift) :
    (s.afterShift g shift).Holds g ∧
      GatewayClass.Unambiguous (s.afterShift g shift).classes := by
  cases shift with
  | pass op now hnow =>
    refine ⟨Operator.holds_of_run h op hnow, ?_⟩
    rw [MemoryStore.afterShift, classes_run]
    exact hclasses
  | reclass classes hclasses => exact ⟨h.congr rfl rfl, hclasses⟩

theorem Holds.afterShifts (h : s.Holds g) (hclasses : GatewayClass.Unambiguous s.classes)
    (shifts : List Shift) :
    (s.afterShifts g shifts).Holds g ∧
      GatewayClass.Unambiguous (s.afterShifts g shifts).classes := by
  induction shifts generalizing s with
  | nil => exact ⟨h, hclasses⟩
  | cons shift rest ih =>
    obtain ⟨hholds, hunambiguous⟩ := h.afterShift hclasses shift
    exact ih hholds hunambiguous

end MemoryStore

namespace Operator

open MemoryStore

-- Whatever has happened to the gateway, the classes and the class that it asks for decide who skips
-- it. The order of the classes does not matter, and an empty class name is none. Of two controllers
-- one skips it, also when the other looks at it after other passes as long as the classes are the
-- same.
theorem exclusive_afterShifts {op other : Operator} {g : Gateway} {s : MemoryStore}
    (hdiff : op.controller ≠ other.controller) (hs : s.Fetches g)
    (hclasses : GatewayClass.Unambiguous s.classes) (shifts : List Shift) :
    (∀ (any : Operator) now, any.Skips now g (s.afterShifts g shifts) ↔
      GatewayClass.assigns any.controller g.className? (s.afterShifts g shifts).classes = false) ∧
    (∀ more now later, (s.afterShifts g shifts).classes.Perm (s.afterShifts g more).classes →
      op.Skips now g (s.afterShifts g shifts) ∨ other.Skips later g (s.afterShifts g more)) ∧
    ∀ (any : Operator) (g' : Gateway) (s' : MemoryStore) now later, s'.Fetches g' →
      g'.spec.className.getD "" = g.spec.className.getD "" →
      s'.classes.Perm (s.afterShifts g shifts).classes →
      (any.Skips later g' s' ↔ any.Skips now g (s.afterShifts g shifts)) := by
  have hstart : s.Holds g := ⟨g.status, hs⟩
  obtain ⟨hholds, hunambiguous⟩ := hstart.afterShifts hclasses shifts
  refine ⟨fun any now => skips_iff hholds, fun more now later hperm => ?_,
    fun any g' s' now later hs' hname hperm => ?_⟩
  · rw [skips_iff hholds, skips_iff (hstart.afterShifts hclasses more).1,
      ← GatewayClass.assigns_perm hperm]
    exact hunambiguous.assigns_or hdiff g.className?
  · have hholds' : s'.Holds g' := ⟨g'.status, hs'⟩
    rw [skips_iff hholds', skips_iff hholds, Gateway.className?_eq_of_getD hname,
      GatewayClass.assigns_perm hperm]

def rival : Operator := { controller := "rival" }

def rivalClass : GatewayClass := { metadata := { name := some "rival" }, controller := "rival" }

def rivalStore : MemoryStore := freshStore.addClass rivalClass

-- The default class passes from one controller to the other between two passes.
def handover : List Shift :=
  [.pass {} ⟨0, false⟩ Instant.proper_epoch,
   .reclass
     [{ freshClass with metadata := rivalClass.metadata },
      { rivalClass with metadata := freshClass.metadata }] ⟨by decide, by decide⟩,
   .pass rival ⟨0, false⟩ Instant.proper_epoch]

theorem exclusive_afterShifts_handover :
    (¬ ({} : Operator).Skips ⟨0, false⟩ freshGateway rivalStore ∧
      rival.Skips ⟨0, false⟩ freshGateway rivalStore) ∧
    (({} : Operator).Skips ⟨90, false⟩ freshGateway
        (rivalStore.afterShifts freshGateway handover) ∧
      ¬ rival.Skips ⟨90, false⟩ freshGateway
        (rivalStore.afterShifts freshGateway handover)) := by
  have hdiff : ({} : Operator).controller ≠ rival.controller := by decide
  have hs : rivalStore.Fetches freshGateway := ⟨rfl, object?_freshStore⟩
  have hclasses : GatewayClass.Unambiguous rivalStore.classes := ⟨by decide, by decide⟩
  obtain ⟨hbefore, -, -⟩ := exclusive_afterShifts hdiff hs hclasses []
  obtain ⟨hafter, -, -⟩ := exclusive_afterShifts hdiff hs hclasses handover
  have hlast : (rivalStore.afterShifts freshGateway handover).classes =
      [{ freshClass with metadata := rivalClass.metadata },
       { rivalClass with metadata := freshClass.metadata }] := by
    rw [handover, afterShifts, List.foldl_cons, List.foldl_cons, List.foldl_cons, List.foldl_nil,
      afterShift, classes_run]
    rfl
  rw [hlast] at hafter
  refine ⟨⟨mt (hbefore _ _).mp ?_, (hbefore _ _).mpr ?_⟩, (hafter _ _).mpr ?_,
    mt (hafter _ _).mp ?_⟩ <;> decide +kernel

end Operator

end GatewayOperator
