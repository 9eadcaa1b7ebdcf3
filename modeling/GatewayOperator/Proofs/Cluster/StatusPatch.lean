import GatewayOperator.Cluster.Client
import GatewayOperator.Proofs.Json.MergePatch
import GatewayOperator.Proofs.Pass.Asks
import GatewayOperator.Proofs.Pass.Repeat

namespace GatewayOperator

open Json

namespace GatewayStatus

variable {new old : GatewayStatus}

-- As written, the new status has every field that the old one may have.
structure Covers (new old : GatewayStatus) : Prop where
  conditions : new.conditions ≠ []
  configHash : new.configHash = none → old.configHash = none
  lastUpdated : new.lastUpdated = none → old.lastUpdated = none

theorem covers_afterPass (s : GatewayStatus) (result : Except Obstacle String) (now : Instant) :
    (s.afterPass result now).Covers s := by
  have hset : ∀ conditions new, Conditions.set conditions new ≠ [] := by
    intro conditions new hnil
    have hfound := Conditions.find?_set_self conditions new
    rw [hnil] at hfound
    cases hfound
  cases result with
  | ok hash =>
    refine ⟨hset _ _, fun hnone => ?_, fun hnone => ?_⟩
    · cases hnone
    · cases hnone
  | error obstacle => exact ⟨hset _ _, id, id⟩

def fields (s : GatewayStatus) : Fields := .present
  [("conditions", ofListUnlessEmpty Condition.toJson s.conditions),
   ("configHash", s.configHash.map .string),
   ("lastUpdated", s.lastUpdated.map Instant.toJson)]

theorem toJson_eq (s : GatewayStatus) : s.toJson = .object s.fields := rfl

theorem ascending_fields (s : GatewayStatus) : s.fields.Ascending := by
  have hnames : ["conditions", "configHash", "lastUpdated"].Pairwise (· < ·) := by decide
  exact Fields.ascending_present hnames

theorem plain_conditions (conditions : List Condition) :
    ∀ j ∈ ofListUnlessEmpty Condition.toJson conditions, j.Plain := by
  intro j hj
  unfold ofListUnlessEmpty at hj
  split at hj
  · cases hj
  · cases hj
    exact plain_array _

theorem plain_fields (s : GatewayStatus) : ∀ f ∈ s.fields, f.2.Plain := by
  have htime : ∀ t : Instant, t.toJson.Plain := fun t => plain_string t.toText
  apply plain_present
  simp only [List.forall_mem_cons]
  exact ⟨plain_conditions _, plain_map plain_string _, plain_map htime _, by simp⟩

-- Lists and texts are not merged but replaced.
theorem Covers.mergePatch_toJson (h : new.Covers old) :
    mergePatch old.toJson new.toJson = new.toJson := by
  have hall : ∀ name, new.fields.get? name = none → old.fields.get? name = none := by
    intro name hnew
    by_cases hconditions : "conditions" = name
    · subst hconditions
      simp [fields, ofListUnlessEmpty, h.conditions] at hnew
    · by_cases hhash : "configHash" = name
      · subst hhash
        have hnone : new.configHash = none := by simpa [fields] using hnew
        simpa [fields] using h.configHash hnone
      · by_cases htime : "lastUpdated" = name
        · subst htime
          have hnone : new.lastUpdated = none := by simpa [fields] using hnew
          simpa [fields] using h.lastUpdated hnone
        · simp [fields, hconditions, hhash, htime]
  rw [toJson_eq, toJson_eq, mergePatch_object]
  exact congrArg Json.object (mergeFields_eq_changes old.ascending_fields new.ascending_fields
    new.plain_fields hall)

end GatewayStatus

namespace Gateway

def fields (g : Gateway) : Fields := .present
  [("apiVersion", some (.string apiVersion)),
   ("kind", some (.string kind)),
   ("metadata", some g.metadata.toJson),
   ("spec", some g.spec.toJson),
   ("status", g.status.map GatewayStatus.toJson)]

theorem toJson_eq (g : Gateway) : g.toJson = .object g.fields := rfl

theorem ascending_fields (g : Gateway) : g.fields.Ascending := by
  have hnames : ["apiVersion", "kind", "metadata", "spec", "status"].Pairwise (· < ·) := by decide
  exact Fields.ascending_present hnames

theorem get?_fields_status (g : Gateway) :
    g.fields.get? "status" = g.status.map GatewayStatus.toJson := by
  simp [fields]

-- The status is merged into the old one, or into nothing, which is as good as an empty status.
theorem mergePatch_statusPatch (g : Gateway) {status : GatewayStatus}
    (h : status.Covers (g.status.getD {})) :
    g.toJson.mergePatch (Cluster.statusPatch status) =
      toJson { g with status := some status } := by
  have hmerged : mergePatch ((g.status.map GatewayStatus.toJson).getD .null) status.toJson =
      status.toJson := by
    cases hold : g.status with
    | none =>
      rw [hold] at h
      exact h.mergePatch_toJson
    | some old =>
      rw [hold] at h
      exact h.mergePatch_toJson
  have hobject : status.toJson ≠ .null := by simp [GatewayStatus.toJson_eq]
  rw [toJson_eq, toJson_eq, Cluster.statusPatch, mergePatch_object]
  apply congrArg Json.object
  apply (ascending_mergeFields g.ascending_fields _).ext (ascending_fields _)
  intro name
  rw [get?_mergeFields _ (by simp), Fields.get?_cons]
  by_cases hname : "status" = name
  · subst hname
    rw [if_pos rfl, mergedField_some _ hobject, get?_fields_status, get?_fields_status, hmerged]
    rfl
  · rw [if_neg hname]
    simp only [fields, mergedField, Fields.get?_nil, Fields.get?_present_cons, if_neg hname]

end Gateway

theorem Cluster.eq_of_requestOf_putStatus {g : Gateway} {status : GatewayStatus}
    {request : Request} (h : requestOf (.putStatus g status) = .ok request) :
    request.method = .patch ∧ request.contentType = some mergePatchType ∧
      request.body = some (statusPatch status) := by
  simp only [requestOf, named, addressed] at h
  split at h
  · cases h
  · split at h
    · cases h
      exact ⟨rfl, rfl, rfl⟩
    · cases h

-- The call writes no status, or one that a pass over the gateway can arrive at.
def Call.Concludes (g : Gateway) (now : Instant) : Call → Prop
  | .putStatus other status => other = g ∧ ∃ made, status = Operator.nextStatus g made now
  | _ => True

theorem Call.Concerns.concludes {g : Gateway} {now : Instant} {c : Call}
    (h : c.Concerns g now) : c.Concludes g now := by
  cases c with
  | putStatus other status => exact h
  | _ => trivial

namespace Operator

open Program

theorem asks_passOver (op : Operator) (now : Instant) (ns : String) (g : Gateway) :
    (op.passOver now ns g).Asks (Call.Concludes g now) :=
  (op.concerns_passOver now ns g).mono fun _ => Call.Concerns.concludes

-- A pass that has fetched a gateway writes the status of no other one, and only a status that it
-- has computed from that of the gateway. Whatever the result, the patch with this status turns the
-- document of the gateway into that of the gateway with the status, and nothing of the old status
-- is left; the store in memory comes to hold the same document.
theorem mergePatch_of_pass {op : Operator} {now : Instant} {ns name : String} {g : Gateway}
    {calls : List Answered} {result : Except PassError Report}
    (h : (op.pass now ns name).Dialogue (⟨.get .gateway ns name, .ok (some g)⟩ :: calls) result) :
    (∀ other status reply, (⟨.putStatus other status, reply⟩ : Answered) ∈ calls →
      other = g ∧ ∃ made, status = (g.status.getD {}).afterPass made now) ∧
    ∀ made status, status = (g.status.getD {}).afterPass made now →
      (∀ request, Cluster.requestOf (.putStatus g status) = .ok request →
        request.method = .patch ∧
        request.contentType = some Cluster.mergePatchType ∧
        request.body.map g.toJson.mergePatch =
          some (Gateway.toJson { g with status := some status })) ∧
      ∀ s : MemoryStore, s.injected? .gateway .status = none →
        s.object? .gateway (g.metadata.ns.getD "") g.name = some (some g) →
        ∃ t, MemoryStore.handle (.putStatus g status) s = (some (.ok ()), t) ∧
          t.find? ⟨.gateway, g.metadata.ns.getD "", g.name⟩ =
            some (Gateway.toJson { g with status := some status }) := by
  obtain ⟨reply, rest, hcalls, hrest⟩ := h.exists_of_call_bind
  cases hcalls
  have hasks := (op.asks_passOver now ns g).of_dialogue hrest
  refine ⟨fun other status reply hput => hasks _ hput, ?_⟩
  rintro made status rfl
  have hpatch := g.mergePatch_statusPatch ((g.status.getD {}).covers_afterPass made now)
  refine ⟨fun request hrequest => ?_, fun s hstatus hobject => ?_⟩
  · obtain ⟨hmethod, htype, hbody⟩ := Cluster.eq_of_requestOf_putStatus hrequest
    exact ⟨hmethod, htype, by rw [hbody, Option.map_some, hpatch]⟩
  · exact ⟨_, MemoryStore.handle_putStatus _ hstatus hobject, MemoryStore.find?_put_self s _ _⟩

-- A gateway that was ready and lost its models
def lapsedGateway : Gateway :=
  { freshGateway with
    spec := { freshGateway.spec with models := [] }
    status := some
      { conditions :=
          [Conditions.condition "Ready" .true "GatewayReady" "" ⟨0, false⟩,
           Conditions.condition "Synced" .unknown "Waiting" "" ⟨0, false⟩]
        configHash := some "0123456789abcdef"
        lastUpdated := some ⟨0, false⟩ } }

def lapsedStatus : GatewayStatus :=
  nextStatus lapsedGateway (.error (.invalidSpec .missingModels)) ⟨60, false⟩

def lapsedCalls : List Answered :=
  [⟨.listClasses, .ok [freshClass]⟩, ⟨.putStatus lapsedGateway lapsedStatus, .ok ()⟩]

theorem dialogue_of_lapsed :
    (({} : Operator).pass ⟨60, false⟩ "default" "gw").Dialogue
      (⟨.get .gateway "default" "gw", .ok (some lapsedGateway)⟩ :: lapsedCalls)
      (.ok ⟨.failed (Obstacle.failure (.invalidSpec .missingModels)), [], true⟩) :=
  .ask (.ask (.ask (.done _)))

def lapsedStore : MemoryStore := freshStore.insert .gateway lapsedGateway

theorem wellFormed_lapsedGateway : Kind.WellFormed .gateway lapsedGateway := by
  have htime : Instant.Proper ⟨0, false⟩ := ⟨by decide, by decide⟩
  refine ⟨ObjectMeta.wellFormed_of_carried_nil rfl, ⟨wellFormed_freshGateway.spec.port⟩, ?_⟩
  rintro status ⟨rfl⟩
  refine ⟨?_, by simp [htime]⟩
  simp only [List.forall_mem_cons]
  exact ⟨⟨htime, by simp [Conditions.condition]⟩, ⟨htime, by simp [Conditions.condition]⟩, by simp⟩

theorem mergePatch_of_lapsed :
    (∃ request, Cluster.requestOf (.putStatus lapsedGateway lapsedStatus) = .ok request ∧
      request.body.map lapsedGateway.toJson.mergePatch =
        some (Gateway.toJson { lapsedGateway with status := some lapsedStatus })) ∧
    ∃ t, MemoryStore.handle (.putStatus lapsedGateway lapsedStatus) lapsedStore =
        (some (.ok ()), t) ∧
      t.find? ⟨.gateway, "default", "gw"⟩ =
        some (Gateway.toJson { lapsedGateway with status := some lapsedStatus }) := by
  have hrequest : (Cluster.requestOf (.putStatus lapsedGateway lapsedStatus)).isOk = true := by
    decide +kernel
  have hobject : lapsedStore.object? .gateway "default" "gw" = some (some lapsedGateway) :=
    MemoryStore.object?_of_find?_toJson wellFormed_lapsedGateway
      (MemoryStore.find?_put_self freshStore _ _)
  obtain ⟨hsent, hstored⟩ :=
    (mergePatch_of_pass dialogue_of_lapsed).2 (.error (.invalidSpec .missingModels))
      lapsedStatus rfl
  refine ⟨?_, hstored lapsedStore rfl hobject⟩
  cases hcall : Cluster.requestOf (.putStatus lapsedGateway lapsedStatus) with
  | error e =>
    rw [hcall] at hrequest
    cases hrequest
  | ok request => exact ⟨request, rfl, (hsent request hcall).2.2⟩

end Operator

end GatewayOperator
