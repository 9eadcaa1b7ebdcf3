import GatewayOperator.Proofs.Children.Foreign
import GatewayOperator.Proofs.Pass.Repeat

namespace GatewayOperator

namespace MemoryStore

-- Every object of one store is in the other, with all that others have put into it.
def Keeps (s t : MemoryStore) : Prop :=
  ∀ (kind : Kind) (ns name : String) (before : kind.Object),
    s.object? kind ns name = some (some before) →
      ∃ after, t.object? kind ns name = some (some after) ∧ kind.Keeps before after

variable {s t u : MemoryStore}

theorem Keeps.refl (s : MemoryStore) : s.Keeps s :=
  fun kind _ _ before h => ⟨before, h, .refl kind before⟩

theorem Keeps.trans (h : s.Keeps t) (h' : t.Keeps u) : s.Keeps u := by
  intro kind ns name before hbefore
  obtain ⟨between, hbetween, hkeeps⟩ := h kind ns name before hbefore
  obtain ⟨after, hafter, hkeeps'⟩ := h' kind ns name between hbetween
  exact ⟨after, hafter, hkeeps.trans hkeeps'⟩

-- Only the object that was there before has to be looked at, if there was one.
theorem keeps_put {kind : Kind} {ns name : String} {object : kind.Object}
    (hobject : kind.WellFormed object)
    (hkeeps : ∀ before, s.object? kind ns name = some (some before) → kind.Keeps before object) :
    s.Keeps (s.put ⟨kind, ns, name⟩ (kind.toJson object)) := by
  intro other ns' name' before hbefore
  by_cases hkey : (⟨other, ns', name'⟩ : ObjectKey) = ⟨kind, ns, name⟩
  · cases hkey
    exact ⟨object, object?_of_find?_toJson hobject (find?_put_self s _ _), hkeeps before hbefore⟩
  · exact ⟨before, (object?_congr (find?_put_of_ne s hkey _)).trans hbefore, .refl other before⟩

end MemoryStore

namespace Stage

variable {st : Stage} {stages : List Stage} {ns : String} {s t : MemoryStore}

theorem Step.keeps {result : Except ApiError Applied} (hst : st.Lawful ns)
    (hupdate : ∀ existing, st.kind.Keeps existing (st.update existing))
    (h : st.Step ns s result t) : s.Keeps t := by
  cases h with
  | getFails | createFails | unchanged | replaceFails => exact .refl s
  | created _ habsent =>
    refine MemoryStore.keeps_put hst.desired_wellFormed fun before hbefore => ?_
    cases (MemoryStore.object?_of_find?_eq_none habsent).symm.trans hbefore
  | @updated existing _ hobject _ _ hexisting =>
    refine MemoryStore.keeps_put (hst.update_wellFormed existing hexisting) fun before hbefore => ?_
    cases hobject.symm.trans hbefore
    exact hupdate existing

theorem Steps.keeps {applied : List (Kind × Applied)} {obstacle : Option Obstacle}
    (hl : ∀ st ∈ stages, st.Lawful ns)
    (hupdate : ∀ st ∈ stages, ∀ existing, st.kind.Keeps existing (st.update existing))
    (h : Steps ns stages s applied obstacle t) : s.Keeps t := by
  induction h with
  | finished s => exact .refl s
  | stopped h => exact h.keeps (hl _ List.mem_cons_self) (hupdate _ List.mem_cons_self)
  | step h _ ih =>
    exact (h.keeps (hl _ List.mem_cons_self) (hupdate _ List.mem_cons_self)).trans
      (ih (fun st hst => hl st (List.mem_cons_of_mem _ hst))
        fun st hst => hupdate st (List.mem_cons_of_mem _ hst))

end Stage

namespace Operator

open MemoryStore

variable {op : Operator} {now : Instant} {ns name : String} {s t : MemoryStore} {g : Gateway}

theorem Applies.keeps {applied : List (Kind × Applied)} {result : Except Obstacle String}
    (hg : g.WellFormed) (hns : Kind.namespaceOf .gateway g = ns)
    (h : op.Applies g ns s applied result t) : s.Keeps t := by
  cases h with
  | unplanned => exact .refl s
  | stopped hplan hsteps | finished hplan hsteps =>
    obtain ⟨rendered, -, hchildren, -⟩ := plan_eq_ok hplan
    exact hsteps.keeps (lawful_of_plan hg hns hplan)
      fun st hst => Children.keeps_update hchildren hst

theorem Claims.keeps_applies {applied : List (Kind × Applied)} {result : Except Obstacle String}
    (hs : s.WellKeyed) (hclaims : op.Claims ns name s g)
    (h : op.Applies g ns s applied result t) : s.Keeps t :=
  have ⟨hg, hkey⟩ := hclaims.wellFormed hs
  h.keeps hg (congrArg ObjectKey.ns hkey)

theorem Passes.keeps {report : Except PassError Report} (hs : s.WellKeyed) (hnow : now.Proper)
    (h : op.Passes now ns name s report t) : s.Keeps t := by
  cases h with
  | fetchFails | notFound | skipped => exact .refl s
  | unchanged hclaims happlies | statusFails hclaims happlies =>
    exact hclaims.keeps_applies hs happlies
  | @written g _ result u hclaims happlies =>
    -- the status goes into the gateway as it was fetched, which nobody has changed since
    have hkey : ObjectKey.of .gateway { g with status := some (nextStatus g result now) } =
      ⟨.gateway, ns, name⟩ := (hclaims.wellFormed hs).2
    have hput : u.Keeps (u.put ⟨.gateway, ns, name⟩
        (Gateway.toJson { g with status := some (nextStatus g result now) })) := by
      refine keeps_put (hclaims.wellFormed_next hs result hnow) fun before hbefore => ?_
      cases (hclaims.object_after happlies).symm.trans hbefore
      exact rfl
    rw [← hkey] at hput
    exact (hclaims.keeps_applies hs happlies).trans hput

end Operator

-- A pass in a run, at its time and with the failures that the store gives to it
structure Turn where
  op : Operator
  now : Instant
  proper : now.Proper
  ns : String
  name : String
  failing : List (Kind × Operation)

namespace MemoryStore

def afterTurn (s : MemoryStore) (turn : Turn) : MemoryStore :=
  ((turn.op.pass turn.now turn.ns turn.name).run handle { s with failing := turn.failing }).2

def afterTurns (s : MemoryStore) (turns : List Turn) : MemoryStore := turns.foldl afterTurn s

variable {s : MemoryStore}

theorem WellKeyed.afterTurn (hs : s.WellKeyed) (turn : Turn) :
    s.Keeps (s.afterTurn turn) ∧ (s.afterTurn turn).WellKeyed := by
  have hs' : ({ s with failing := turn.failing } : MemoryStore).WellKeyed := hs
  obtain ⟨report, t, hpasses⟩ := turn.op.exists_passes turn.now turn.ns turn.name hs'
  have ht : s.afterTurn turn = t := congrArg Prod.snd (hpasses.run hs')
  -- what a store is told to fail makes no difference to what it holds
  have hkeeps := hpasses.keeps hs' turn.proper
  rw [ht]
  exact ⟨hkeeps, hpasses.wellKeyed hs' turn.proper⟩

theorem WellKeyed.afterTurns (hs : s.WellKeyed) (turns : List Turn) :
    s.Keeps (s.afterTurns turns) := by
  induction turns generalizing s with
  | nil => exact .refl s
  | cons turn rest ih =>
    obtain ⟨hkeeps, hs'⟩ := hs.afterTurn turn
    exact hkeeps.trans (ih hs')

-- For every run of passes over any gateways, each with failures of its own: an object that is there
-- before is there afterwards, and differs only in what passes write. Of its metadata this can be
-- labels alone.
theorem keeps_afterTurns (hs : s.WellKeyed) (turns : List Turn) (kind : Kind) (ns name : String)
    {before : kind.Object} (hbefore : s.object? kind ns name = some (some before)) :
    ∃ after, (s.afterTurns turns).object? kind ns name = some (some after) ∧
      kind.Keeps before after ∧
      kind.metadata after =
        { kind.metadata before with labels := (kind.metadata after).labels } := by
  obtain ⟨after, hafter, hkeeps⟩ := hs.afterTurns turns kind ns name before hbefore
  exact ⟨after, hafter, hkeeps, hkeeps.metadata⟩

-- A config map that others look after too: it has a label, an owner and a finalizer of theirs.
def tendedConfigMap : ConfigMap :=
  { metadata :=
      { name := some "gw-config", ns := some "default", resourceVersion := some "7"
        labels := some (.singleton "team" "ai")
        ownerReferences := some [⟨"v1", none, none, "Namespace", "default", "2"⟩]
        carried := [("finalizers", .array [.string "example.com/hold"])] }
    data := some (.singleton Children.configFileKey "") }

def tendedStore : MemoryStore := Operator.freshStore.insert .configMap tendedConfigMap

theorem wellFormed_tendedConfigMap : Kind.WellFormed .configMap tendedConfigMap :=
  ⟨⟨rfl⟩, Schema.carries_nil (by decide)⟩

theorem wellKeyed_tendedStore : tendedStore.WellKeyed :=
  Operator.wellKeyed_freshStore.put wellFormed_tendedConfigMap

theorem object?_tendedStore :
    tendedStore.object? .configMap "default" "gw-config" = some (some tendedConfigMap) :=
  object?_of_find?_toJson wellFormed_tendedConfigMap (find?_put_self Operator.freshStore _ _)

def gatewayTurn (failing : List (Kind × Operation)) : Turn :=
  ⟨{}, ⟨0, false⟩, Instant.proper_epoch, "default", "gw", failing⟩

-- A pass that cannot make the deployment, and one that can.
theorem keeps_afterTurns_tended :
    tendedStore.WellKeyed ∧
      tendedStore.object? .configMap "default" "gw-config" = some (some tendedConfigMap) ∧
      ∃ after : ConfigMap,
        (tendedStore.afterTurns [gatewayTurn [(.deployment, .create)], gatewayTurn []]).object?
          .configMap "default" "gw-config" = some (some after) ∧
        Labels.value? after.metadata.labels "team" = some "ai" ∧
        after.metadata = { tendedConfigMap.metadata with labels := after.metadata.labels } := by
  obtain ⟨after, hafter, hkeeps, hmetadata⟩ :=
    keeps_afterTurns wellKeyed_tendedStore [gatewayTurn [(.deployment, .create)], gatewayTurn []]
      .configMap "default" "gw-config" object?_tendedStore
  have hlabels : Labels.Keeps Children.appLabel tendedConfigMap.metadata.labels
    after.metadata.labels := ConfigMap.Keeps.labels hkeeps
  refine ⟨wellKeyed_tendedStore, object?_tendedStore, after, hafter, ?_, hmetadata⟩
  exact hlabels.foreign "team" (by decide)

end MemoryStore

end GatewayOperator
