import GatewayOperator.Proofs.Pass.Basic

namespace GatewayOperator

namespace MemoryStore

variable {s : MemoryStore} {g : Gateway} {status : GatewayStatus}

theorem find?_withStatus_of_ne (s : MemoryStore) (g : Gateway) (status : GatewayStatus)
    {key : ObjectKey} (h : key.kind ≠ .gateway) :
    (s.withStatus g status).find? key = s.find? key := by
  have hne : key ≠ .of .gateway { g with status := some status } := fun e => h (e ▸ rfl)
  exact find?_put_of_ne s hne _

theorem object?_withStatus {ns name : String}
    (hg : Kind.WellFormed .gateway { g with status := some status })
    (hkey : ObjectKey.of .gateway g = ⟨.gateway, ns, name⟩) :
    (s.withStatus g status).object? .gateway ns name =
      some (some { g with status := some status }) := by
  apply object?_of_find?_toJson hg
  rw [← hkey]
  exact find?_put_self s _ _

theorem WellKeyed.withStatus (hs : s.WellKeyed)
    (hg : Kind.WellFormed .gateway { g with status := some status }) :
    (s.withStatus g status).WellKeyed :=
  hs.put hg

end MemoryStore

namespace Operator

variable {op : Operator} {now : Instant} {ns name : String} {s t : MemoryStore} {g : Gateway}
  {applied : List (Kind × Applied)} {result : Except Obstacle String}
  {report : Except PassError Report}

-- A gateway with the status of a pass at a proper time reads back.
theorem Claims.wellFormed_next (hs : s.WellKeyed) (h : op.Claims ns name s g)
    (result : Except Obstacle String) (hnow : now.Proper) :
    Kind.WellFormed .gateway { g with status := some (nextStatus g result now) } := by
  obtain ⟨hg, -⟩ := h.wellFormed hs
  have hold : (g.status.getD {}).WellFormed := by
    cases hstatus : g.status with
    | none => exact GatewayStatus.wellFormed_empty
    | some status => exact hg.status status hstatus
  refine ⟨hg.metadata, hg.spec, ?_⟩
  rintro status ⟨rfl⟩
  exact hold.afterPass result hnow

theorem Applies.wellKeyed_of_claims (hs : s.WellKeyed) (hclaims : op.Claims ns name s g)
    (h : op.Applies g ns s applied result t) : t.WellKeyed := by
  obtain ⟨hg, hkey⟩ := hclaims.wellFormed hs
  exact h.wellKeyed hs hg (congrArg ObjectKey.ns hkey)

-- A pass keeps every object under its own key.
theorem Passes.wellKeyed (hs : s.WellKeyed) (hnow : now.Proper)
    (h : op.Passes now ns name s report t) : t.WellKeyed := by
  cases h with
  | fetchFails | notFound | skipped => exact hs
  | unchanged hclaims happlies | statusFails hclaims happlies =>
    exact happlies.wellKeyed_of_claims hs hclaims
  | written hclaims happlies =>
    exact (happlies.wellKeyed_of_claims hs hclaims).withStatus (hclaims.wellFormed_next hs _ hnow)

-- The children are in place up to where they were, and the gateway is still ours.
theorem Claims.after (hs : s.WellKeyed) (hclaims : op.Claims ns name s g)
    (h : op.Applies g ns s applied result t) :
    op.Claims ns name t g ∧
      op.Applies g ns t (applied.map fun a => (a.1, .unchanged)) result t := by
  obtain ⟨hg, hkey⟩ := hclaims.wellFormed hs
  obtain ⟨keys, hsame, -⟩ := h.sameOutside
  constructor
  · refine ⟨?_, hclaims.object_after h, ?_⟩
    · rw [MemoryStore.injected?_congr hsame.failing, hclaims.get]
    · rw [hsame.classes, hclaims.assigned]
  · exact h.again hs hg (congrArg ObjectKey.ns hkey) g.status rfl fun _ _ => rfl

theorem Passes.again (hs : s.WellKeyed) (hnow : now.Proper)
    (h : op.Passes now ns name s report t) (later : Instant) :
    op.Passes later ns name t
      (report.map fun r =>
        { r with applied := r.applied.map fun a => (a.1, .unchanged), statusWritten := false })
      t := by
  cases h with
  | fetchFails hget => exact .fetchFails hget
  | notFound hget habsent => exact .notFound hget habsent
  | skipped hget hobject hassigned => exact .skipped hget hobject hassigned
  | @unchanged g _ result _ hclaims happlies hchanged =>
    obtain ⟨hclaims', happlies'⟩ := hclaims.after hs happlies
    refine .unchanged hclaims' happlies' ?_
    rw [nextStatus, GatewayStatus.changed_afterPass _ _ result now later]
    exact hchanged
  | @statusFails g _ result _ _ hclaims happlies hchanged hstatus =>
    obtain ⟨hclaims', happlies'⟩ := hclaims.after hs happlies
    refine .statusFails hclaims' happlies' ?_ hstatus
    rw [nextStatus, GatewayStatus.changed_afterPass _ _ result now later]
    exact hchanged
  | @written g _ result v hclaims happlies hchanged hstatus =>
    -- the status that was written is the one that the second pass arrives at
    obtain ⟨hg, hkey⟩ := hclaims.wellFormed hs
    obtain ⟨hclaims', -⟩ := hclaims.after hs happlies
    have hnext := hclaims.wellFormed_next hs result hnow
    have hagain := happlies.again hs hg (congrArg ObjectKey.ns hkey)
      (some (nextStatus g result now)) (u := v.withStatus g (nextStatus g result now)) rfl
      fun key hkind => MemoryStore.find?_withStatus_of_ne v g _ hkind
    have hclaims'' : op.Claims ns name (v.withStatus g (nextStatus g result now))
        { g with status := some (nextStatus g result now) } :=
      ⟨hclaims'.get, MemoryStore.object?_withStatus hnext hkey, hclaims'.assigned⟩
    exact .unchanged hclaims'' hagain (GatewayStatus.changed_afterPass_self _ result now later)

-- Two passes in a row: the second one leaves the store as the first one left it, with its log, and
-- ends as the first one did, but finds each child that it reaches in place and the status written.
theorem pass_again (op : Operator) (hs : s.WellKeyed) (hnow : now.Proper) (later : Instant)
    (ns name : String) :
    ∃ (result : Except PassError Report) (t : MemoryStore),
      (op.pass now ns name).run MemoryStore.handle s = (some result, t) ∧
      (op.pass later ns name).run MemoryStore.handle t =
        (some (result.map fun r =>
          { r with applied := r.applied.map fun a => (a.1, .unchanged), statusWritten := false }),
         t) := by
  obtain ⟨result, t, h⟩ := exists_passes op now ns name hs
  exact ⟨result, t, h.run hs, (h.again hs hnow later).run (h.wellKeyed hs hnow)⟩

-- A gateway that was just made, in a store without children
def freshGateway : Gateway :=
  { metadata := { name := some "gw", ns := some "default", uid := some "1" }
    spec := { models := [{ name := "gpt-4", provider := some "openai" }] } }

def freshClass : GatewayClass :=
  { metadata :=
      { name := some "litellm"
        annotations := some (.singleton GatewayClass.defaultAnnotation "true") }
    controller := ({} : Operator).controller }

def freshStore : MemoryStore :=
  (({} : MemoryStore).insert .gateway freshGateway).addClass freshClass

theorem wellFormed_freshGateway : Kind.WellFormed .gateway freshGateway :=
  ⟨ObjectMeta.wellFormed_of_carried_nil rfl,
    ⟨(Json.faithful_int_iff _ _ _).mpr (by decide)⟩, by simp [freshGateway]⟩

theorem wellKeyed_freshStore : freshStore.WellKeyed :=
  MemoryStore.wellKeyed_empty.put wellFormed_freshGateway

theorem object?_freshStore :
    freshStore.object? .gateway "default" "gw" = some (some freshGateway) :=
  MemoryStore.object?_of_find?_toJson wellFormed_freshGateway (MemoryStore.find?_put_self {} _ _)

-- The service cannot be made, in either pass.
theorem pass_again_without_service :
    ∃ (result : Except PassError Report) (t : MemoryStore),
      (({} : Operator).pass ⟨0, false⟩ "default" "gw").run MemoryStore.handle
        (freshStore.fail .service .create) = (some result, t) ∧
      (({} : Operator).pass ⟨60, false⟩ "default" "gw").run MemoryStore.handle t =
        (some (result.map fun r =>
          { r with applied := r.applied.map fun a => (a.1, .unchanged), statusWritten := false }),
         t) :=
  have hs : (freshStore.fail .service .create).WellKeyed := wellKeyed_freshStore
  have hnow : Instant.Proper ⟨0, false⟩ := ⟨by decide, by decide⟩
  pass_again {} hs hnow ⟨60, false⟩ "default" "gw"

end Operator

end GatewayOperator
