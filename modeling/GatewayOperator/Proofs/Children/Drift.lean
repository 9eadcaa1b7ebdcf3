import GatewayOperator.Children.Drift
import GatewayOperator.Proofs.Dict.Lookup

namespace GatewayOperator

namespace Labels

theorem present_iff (m : Option Map) (required : Map) :
    present m required = true ↔
      ∀ key value, required.get? key = some value → (m.bind (·.get? key)) = some value := by
  simp only [present, Dict.includes_iff, Dict.get?_getD_empty]

theorem present_self (m : Option Map) : present m (m.getD .empty) = true :=
  Dict.includes_self _

theorem present_empty (m : Option Map) : present m .empty = true := rfl

theorem present_merge (existing source : Option Map) :
    present (merge existing source) (source.getD .empty) = true := by
  cases source with
  | none => exact present_empty existing
  | some source => exact Dict.includes_merge _ source

-- Merging a label that is there already changes nothing.
theorem merge_of_present_singleton {m : Option Map} {key value : String}
    (h : present m (.singleton key value) = true) : merge m (some (.singleton key value)) = m := by
  cases m with
  | none =>
    have hget := (present_iff none _).mp h key value (by simp)
    cases hget
  | some d =>
    have hsame : d.merge (.singleton key value) = d := (Dict.merge_eq_self_iff d _).mpr h
    simp [merge, hsame]

end Labels

theorem optionalEqual_self {α : Type} {equal : α → α → Bool} (h : ∀ a, equal a a = true)
    (o : Option α) : optionalEqual equal o o = true := by
  cases o with
  | none => rfl
  | some a => exact h a

theorem sortedEqual_self {α : Type} [DecidableEq α] (le : α → α → Bool) (items : List α) :
    sortedEqual le items items = true := by
  simp [sortedEqual]

namespace ConfigMap

theorem drifted_eq_false_iff (existing desired : ConfigMap) :
    drifted existing desired = false ↔
      existing.configFile? = desired.configFile? ∧
        Labels.present existing.metadata.labels (desired.metadata.labels.getD .empty) = true := by
  simp [drifted]

theorem drifted_self (c : ConfigMap) : drifted c c = false := by
  simp [drifted, Labels.present_self]

theorem drifted_update (existing desired : ConfigMap) :
    drifted (update existing desired) desired = false := by
  simp [drifted, update, configFile?, Labels.present_merge]

end ConfigMap

namespace Container

theorem drifted_eq_false_iff (existing desired : Container) :
    drifted existing desired = false ↔
      EnvVar.listsEqual existing.env desired.env = true ∧
        EnvImport.listsEqual existing.envFrom desired.envFrom = true ∧
          existing.image = desired.image ∧ existing.portNumbers = desired.portNumbers := by
  simp [drifted, and_assoc]

theorem drifted_self (c : Container) : drifted c c = false := by
  have henv : EnvVar.listsEqual c.env c.env = true := optionalEqual_self (sortedEqual_self _) _
  have henvFrom : EnvImport.listsEqual c.envFrom c.envFrom = true :=
    optionalEqual_self (sortedEqual_self _) _
  simp [drifted, henv, henvFrom]

end Container

namespace Deployment

-- Next to a desired container there must be an existing one that has not drifted from it.
theorem drifted_eq_false_iff (existing : Deployment) {desired : Deployment} {c : Container}
    (hc : desired.firstContainer? = some c) :
    drifted existing desired = false ↔
      Labels.present existing.metadata.labels (desired.metadata.labels.getD .empty) = true ∧
        Labels.present existing.podMetadata.labels (desired.podMetadata.labels.getD .empty) = true ∧
          Labels.present existing.podMetadata.annotations
              (desired.podMetadata.annotations.getD .empty) = true ∧
            ∃ first, existing.firstContainer? = some first ∧ first.drifted c = false := by
  cases hfirst : existing.firstContainer? with
  | none => simp [drifted, hc, hfirst]
  | some first => simp [drifted, hc, hfirst, and_assoc]

theorem drifted_self (d : Deployment) : drifted d d = false := by
  simp only [drifted, Labels.present_self, Bool.not_true, Bool.false_or]
  cases d.firstContainer? with
  | none => rfl
  | some c => exact c.drifted_self

theorem drifted_update (existing desired : Deployment) :
    drifted (update existing desired) desired = false := by
  cases hspec : desired.spec with
  | none =>
    -- nothing is asked of the pods
    have hpods : desired.podMetadata = {} := by simp [podMetadata, hspec]
    have hfirst : desired.firstContainer? = none := by simp [firstContainer?, hspec]
    simp only [drifted, hpods, hfirst, Option.getD_none, Labels.present_empty, update,
      Labels.present_merge]
    rfl
  | some spec =>
    have hlabels : (update existing desired).podMetadata.labels =
        Labels.merge ((existing.spec.getD {}).template.metadata.getD {}).labels
          desired.podMetadata.labels := by
      simp [podMetadata, update, updateSpec, hspec]
    have hannotations : (update existing desired).podMetadata.annotations =
        Labels.merge ((existing.spec.getD {}).template.metadata.getD {}).annotations
          desired.podMetadata.annotations := by
      simp [podMetadata, update, updateSpec, hspec]
    have hfirst : (update existing desired).firstContainer? = desired.firstContainer? := by
      simp [firstContainer?, update, updateSpec, hspec]
    have hown : (update existing desired).metadata.labels =
        Labels.merge existing.metadata.labels desired.metadata.labels := rfl
    simp only [drifted, hown, hlabels, hannotations, hfirst, Labels.present_merge, Bool.not_true,
      Bool.false_or]
    cases desired.firstContainer? with
    | none => rfl
    | some c => exact c.drifted_self

end Deployment

namespace Service

theorem drifted_eq_false_iff (existing desired : Service) :
    drifted existing desired = false ↔
      Labels.present existing.metadata.labels (desired.metadata.labels.getD .empty) = true ∧
        existing.firstPort? = desired.firstPort? := by
  simp [drifted]

theorem drifted_self (s : Service) : drifted s s = false := by
  simp [drifted, Labels.present_self]

theorem drifted_update (existing desired : Service) :
    drifted (update existing desired) desired = false := by
  have hport : (update existing desired).firstPort? = desired.firstPort? := by
    simp [firstPort?, update]
  have hown : (update existing desired).metadata.labels =
      Labels.merge existing.metadata.labels desired.metadata.labels := rfl
  simp [drifted, hown, hport, Labels.present_merge]

end Service

end GatewayOperator
