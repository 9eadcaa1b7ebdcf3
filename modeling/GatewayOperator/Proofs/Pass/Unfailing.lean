import GatewayOperator.Proofs.Pass.Footprint
import GatewayOperator.Store.Faults

namespace GatewayOperator

namespace Program

variable {α β σ : Type} (handler : Handler σ)

-- The calls of a program, first to last, each with the state of the store that it meets.
def visits (p : Program α) (s : σ) : List (σ × Call) :=
  match p with
  | done _ => []
  | ask call next =>
    (s, call) :: match handler call s with
      | (some reply, t) => (next reply).visits t
      | (none, _) => []

theorem visits_call (c : Call) (s : σ) : (call c).visits handler s = [(s, c)] := by
  simp only [call, visits]
  cases handler c s with
  | mk reply t => cases reply <;> rfl

theorem visits_bind (p : Program α) (f : α → Program β) (s : σ) :
    (p >>= f).visits handler s = p.visits handler s ++
      match p.run handler s with
      | (some a, t) => (f a).visits handler t
      | (none, _) => [] := by
  induction p generalizing s with
  | done a => rfl
  | ask c next ih =>
    rw [ask_bind]
    simp only [visits, run]
    cases handler c s with
    | mk reply t =>
      cases reply with
      | none => rfl
      | some reply => simp only [ih reply t, List.cons_append]

theorem compositional_visits {P : List (σ × Call) → Prop} (hnil : P [])
    (happend : ∀ {visits more}, P visits → P more → P (visits ++ more)) :
    Compositional handler fun _ p s => P (p.visits handler s) := by
  refine ⟨fun _ _ => hnil, fun {α β p f s} hp hf => ?_⟩
  rw [visits_bind]
  refine happend hp ?_
  split
  next a t hrun => exact hf a t hrun
  next => exact hnil

end Program

namespace MemoryStore

-- A call that can be made in this state: what it asks for can be read, what it creates is not
-- there, what it replaces is there and stands alone in being overwritten, and the gateway that it
-- gives a status to is there as it was read.
def Fits (s : MemoryStore) : Call → Prop
  | .get kind ns name => ∃ found, s.object? kind ns name = some found
  | .listClasses => True
  | .create kind ns object => s.find? ⟨kind, ns, kind.nameOf object⟩ = none
  | .replace kind ns object =>
    (∃ found, s.object? kind ns (kind.nameOf object) = some (some found)) ∧
      SameOutside [⟨kind, ns, kind.nameOf object⟩] s (handle (.replace kind ns object) s).2
  | .putStatus g _ => s.object? .gateway (g.metadata.ns.getD "") g.name = some (some g)

-- All calls fit, and the one before a replace has read what is replaced, in the same state.
structure Orderly (visits : List (MemoryStore × Call)) : Prop where
  fits : ∀ v ∈ visits, v.1.Fits v.2
  reads : ∀ before u kind ns object after,
    visits = before ++ (u, Call.replace kind ns object) :: after →
    ∃ earlier, before = earlier ++ [(u, Call.get kind ns (kind.nameOf object))]

variable {s : MemoryStore} {kind : Kind} {ns name : String}
  {visits more : List (MemoryStore × Call)}

theorem orderly_nil : Orderly [] := ⟨by simp, by simp⟩

theorem orderly_singleton {c : Call} (hfits : s.Fits c)
    (hother : ∀ kind ns object, c ≠ .replace kind ns object) : Orderly [(s, c)] := by
  refine ⟨fun v hv => ?_, fun before u kind ns object after heq => ?_⟩
  · cases List.mem_singleton.mp hv
    exact hfits
  · have hmem : (u, Call.replace kind ns object) ∈ [(s, c)] := by simp [heq]
    exact absurd (congrArg Prod.snd (List.mem_singleton.mp hmem)).symm (hother kind ns object)

-- The first of the later visits is no replace, so that no replace has lost the call before it.
theorem Orderly.append (h : Orderly visits) (h' : Orderly more) : Orderly (visits ++ more) := by
  refine ⟨List.forall_mem_append.mpr ⟨h.fits, h'.fits⟩, fun before u kind ns object after heq => ?_⟩
  rcases List.append_eq_append_iff.mp heq with ⟨start, rfl, hmore⟩ | ⟨rest, hvisits, hrest⟩
  · obtain ⟨earlier, rfl⟩ := h'.reads start u kind ns object after hmore
    exact ⟨visits ++ earlier, (List.append_assoc _ _ _).symm⟩
  · cases rest with
    | nil =>
      obtain ⟨earlier, hnil⟩ := h'.reads [] u kind ns object after hrest.symm
      exact absurd hnil (by simp)
    | cons head rest =>
      cases hrest
      exact h.reads before u kind ns object rest hvisits

theorem compositional_orderly :
    Program.Compositional handle fun _ p s => Orderly (p.visits handle s) :=
  Program.compositional_visits handle orderly_nil Orderly.append

theorem orderly_call {c : Call} (hfits : s.Fits c)
    (hother : ∀ kind ns object, c ≠ .replace kind ns object) :
    Orderly ((Program.call c).visits handle s) := by
  rw [Program.visits_call]
  exact orderly_singleton hfits hother

theorem WellKeyed.fits_get (hs : s.WellKeyed) (kind : Kind) (ns name : String) :
    s.Fits (.get kind ns name) := by
  rcases hs.object?_cases kind ns name with ⟨-, hobject⟩ | ⟨object, hobject, -⟩
  · exact ⟨_, hobject⟩
  · exact ⟨_, hobject⟩

theorem fits_replace {object found : kind.Object}
    (hobject : s.object? kind ns (kind.nameOf object) = some (some found)) :
    s.Fits (.replace kind ns object) := by
  refine ⟨⟨found, hobject⟩, ?_⟩
  simp only [handle, replace]
  split
  · exact .refl _ _
  · exact sameOutside_put_record _ _ _ _

theorem orderly_reread (hs : s.WellKeyed) {object found : kind.Object}
    (hobject : s.object? kind ns (kind.nameOf object) = some (some found)) :
    Orderly [(s, .get kind ns (kind.nameOf object)), (s, .replace kind ns object)] := by
  refine ⟨?_, fun before u kind' ns' object' after heq => ?_⟩
  · simp only [List.forall_mem_cons]
    exact ⟨hs.fits_get _ _ _, fits_replace hobject, by simp⟩
  · rcases before with _ | ⟨_, _ | ⟨_, before⟩⟩
    · simp at heq
    · cases heq
      exact ⟨[], rfl⟩
    · simp at heq

end MemoryStore

namespace Stage

open MemoryStore

variable {st : Stage} {ns : String} {s : MemoryStore}

-- What is called for, beyond the get, depends on what it finds.
theorem visits_apply (st : Stage) (ns : String) (s : MemoryStore) :
    (st.apply ns).visits handle s = (s, .get st.kind ns st.name) ::
      match handle (.get st.kind ns st.name) s with
      | (some (.ok none), t) => [(t, .create st.kind ns st.desired)]
      | (some (.ok (some existing)), t) =>
        if st.drifted existing then [(t, .replace st.kind ns (st.update existing))] else []
      | _ => [] := by
  have hlast {c : Call} {f : c.Reply → Program (Except ApiError Applied)} (t : MemoryStore)
      (hf : ∀ reply u, (f reply).visits handle u = []) :
      (Program.call c >>= f).visits handle t = [(t, c)] := by
    rw [Program.visits_bind, Program.visits_call]
    split <;> simp [hf]
  rw [apply, Program.visits_bind, Program.visits_call, Program.run_call, List.singleton_append]
  rcases handle (.get st.kind ns st.name) s with ⟨_ | e | _ | existing, t⟩
  · rfl
  · rfl
  · simp only
    rw [hlast t]
    rintro (e | ⟨⟩) u <;> rfl
  · simp only
    split
    · rw [hlast t]
      rintro (e | ⟨⟩) u <;> rfl
    · rfl

theorem orderly_apply (hst : st.Lawful ns) (hs : s.WellKeyed) :
    Orderly ((st.apply ns).visits handle s) := by
  have hget : Orderly [(s, .get st.kind ns st.name)] :=
    orderly_singleton (hs.fits_get _ _ _) (by simp)
  rw [visits_apply]
  split
  next t hreply =>
    obtain ⟨rfl, hfound⟩ := handle_get_eq_some hreply
    have habsent : t.find? (st.key ns) = none := object?_eq_some_none_iff.mp (hfound _ rfl)
    exact hget.append (orderly_singleton habsent (by simp))
  next existing t hreply =>
    obtain ⟨rfl, hfound⟩ := handle_get_eq_some hreply
    split
    · have hkey := (hst.update_key existing).trans (hs.of_object? (hfound _ rfl)).2
      have hname : st.kind.nameOf (st.update existing) = st.name := congrArg ObjectKey.name hkey
      rw [← hname] at hfound ⊢
      exact orderly_reread hs (hfound _ rfl)
    · exact hget
  next => exact hget

end Stage

namespace Operator

open MemoryStore

variable {op : Operator} {ns name : String} {s : MemoryStore} {g : Gateway}

theorem orderly_persistStatus (status : GatewayStatus)
    (hobject : s.object? .gateway (g.metadata.ns.getD "") g.name = some (some g)) :
    Orderly ((persistStatus g status).visits handle s) :=
  holds_persistStatus compositional_orderly (orderly_call hobject (by simp))

-- The stages leave the gateway where it was read, so that its status has a place to go to.
theorem orderly_pass (op : Operator) (now : Instant) (ns name : String) (hs : s.WellKeyed) :
    Orderly ((op.pass now ns name).visits handle s) := by
  refine compositional_orderly.bind (orderly_call (hs.fits_get .gateway ns name) (by simp))
    fun reply t hreply => ?_
  rw [Program.run_call] at hreply
  obtain ⟨rfl, hfound⟩ := handle_get_eq_some hreply
  rcases reply with e | _ | g
  · exact orderly_nil
  · exact orderly_nil
  obtain ⟨hg, hkey⟩ := hs.of_object? (hfound _ rfl)
  have hns : g.metadata.ns.getD "" = ns := congrArg ObjectKey.ns hkey
  have hname : g.name = name := congrArg ObjectKey.name hkey
  have hresponsible : Orderly ((op.responsible g).visits handle t) :=
    holds_responsible compositional_orderly op g (orderly_call trivial (by simp))
  refine compositional_orderly.bind hresponsible fun ours u hrun => ?_
  cases (op.run_responsible g t).symm.trans hrun
  split
  · have hchildren : Orderly ((op.applyChildren g ns).visits handle t) :=
      holds_applyChildren compositional_orderly hs hg hns
        fun _ _ _ _ _ hl _ hs => Stage.orderly_apply hl hs
    refine compositional_orderly.bind hchildren fun outcome u hrun => ?_
    obtain ⟨keys, hsame, hkeys⟩ := (applies_of_run hs hg hns hrun).sameOutside
    have hobject : u.object? .gateway (g.metadata.ns.getD "") g.name = some (some g) := by
      rw [hns, hname, object?_congr (hsame.find? _ (hkeys name))]
      exact hfound _ rfl
    refine compositional_orderly.bind (orderly_persistStatus _ hobject) fun written v _ => ?_
    rcases written with e | written <;> exact orderly_nil
  · exact orderly_nil

end Operator

-- What can be done to a store: objects that read back from what is written for them are put into it
-- or made of those that are there, classes and failures are added, and passes are made.
inductive Use where
  | insert (kind : Kind) (object : kind.Object) (hobject : kind.WellFormed object)
  | addClass (c : GatewayClass)
  | fail (kind : Kind) (op : Operation)
  | modify (kind : Kind) (ns name : String) (change : kind.Object → kind.Object)
      (hchange : ∀ object, kind.WellFormed object → kind.WellFormed (change object))
  | pass (op : Operator) (now : Instant) (hnow : now.Proper) (ns name : String)

namespace MemoryStore

-- An object that is there is changed by others, and goes where its own metadata says afterwards.
def modify (s : MemoryStore) (kind : Kind) (ns name : String) (change : kind.Object → kind.Object) :
    MemoryStore :=
  match s.object? kind ns name with
  | some (some object) => s.insert kind (change object)
  | _ => s

def afterUse (s : MemoryStore) : Use → MemoryStore
  | .insert kind object _ => s.insert kind object
  | .addClass c => s.addClass c
  | .fail kind op => s.fail kind op
  | .modify kind ns name change _ => s.modify kind ns name change
  | .pass op now _ ns name => ((op.pass now ns name).run handle s).2

-- The store that uses make of an empty one.
def ofUses (uses : List Use) : MemoryStore := uses.foldl afterUse {}

variable {s : MemoryStore}

theorem WellKeyed.modify (hs : s.WellKeyed) (kind : Kind) (ns name : String)
    {change : kind.Object → kind.Object}
    (hchange : ∀ object, kind.WellFormed object → kind.WellFormed (change object)) :
    (s.modify kind ns name change).WellKeyed := by
  unfold MemoryStore.modify
  split
  next object hobject => exact hs.put (hchange object (hs.of_object? hobject).1)
  next => exact hs

theorem WellKeyed.afterUse (hs : s.WellKeyed) (use : Use) : (s.afterUse use).WellKeyed := by
  cases use with
  | insert kind object hobject => exact hs.put hobject
  | addClass c => exact hs
  | fail kind op => exact hs
  | modify kind ns name change hchange => exact hs.modify kind ns name hchange
  | pass op now hnow ns name =>
    obtain ⟨report, t, hpasses⟩ := op.exists_passes now ns name hs
    have ht : ((op.pass now ns name).run handle s).2 = t := congrArg Prod.snd (hpasses.run hs)
    rw [MemoryStore.afterUse, ht]
    exact hpasses.wellKeyed hs hnow

theorem WellKeyed.afterUses (hs : s.WellKeyed) (uses : List Use) :
    (uses.foldl MemoryStore.afterUse s).WellKeyed := by
  induction uses generalizing s with
  | nil => exact hs
  | cons use rest ih => exact ih (hs.afterUse use)

-- Whatever a store was used for, its objects can be read and stand under their own keys, and no
-- pass over it is left without an answer or finds a store that its call does not fit.
theorem unfailing_ofUses (uses : List Use) (op : Operator) (now : Instant) (ns name : String) :
    (ofUses uses).WellKeyed ∧
    (∃ report t, (op.pass now ns name).run handle (ofUses uses) = (some report, t)) ∧
    Orderly ((op.pass now ns name).visits handle (ofUses uses)) := by
  have hs : (ofUses uses).WellKeyed := wellKeyed_empty.afterUses uses
  obtain ⟨report, t, hpasses⟩ := op.exists_passes now ns name hs
  exact ⟨hs, ⟨report, t, hpasses.run hs⟩, op.orderly_pass now ns name hs⟩

-- A pass that could not create the service, and a deployment that has lost its pods since
def wornUses : List Use :=
  [.insert .gateway Operator.freshGateway Operator.wellFormed_freshGateway,
   .addClass Operator.freshClass,
   .fail .service .create,
   .pass {} ⟨0, false⟩ Instant.proper_epoch "default" "gw",
   .modify .deployment "default" "gw" (fun d => { d with spec := none })
     fun _ hd => ⟨hd.metadata, by simp, hd.carried⟩]

theorem unfailing_ofUses_worn :
    (((({} : Operator).pass ⟨60, false⟩ "default" "gw").visits handle (ofUses wornUses)).map
        fun v => v.2.point) =
      [⟨.objects .gateway, .get⟩, ⟨.classes, .list⟩, ⟨.objects .configMap, .get⟩,
       ⟨.objects .deployment, .get⟩, ⟨.objects .deployment, .replace⟩, ⟨.objects .service, .get⟩,
       ⟨.objects .service, .create⟩] ∧
    (∃ report t, (({} : Operator).pass ⟨60, false⟩ "default" "gw").run handle (ofUses wornUses) =
      (some report, t)) ∧
    Orderly ((({} : Operator).pass ⟨60, false⟩ "default" "gw").visits handle (ofUses wornUses)) :=
  ⟨by decide +kernel, (unfailing_ofUses wornUses {} ⟨60, false⟩ "default" "gw").2⟩

end MemoryStore

end GatewayOperator
