import GatewayOperator.Proofs.Children.Drift
import GatewayOperator.Proofs.Children.Foreign

namespace GatewayOperator

namespace Labels

theorem value?_merge_of_some {source : Map} {key value : String}
    (h : source.get? key = some value) (existing : Option Map) :
    value? (merge existing (some source)) key = some value := by
  rw [value?_merge, h, Option.some_or]

theorem value?_merge_of_none {source : Map} {key : String} (h : source.get? key = none)
    (existing : Option Map) :
    value? (merge existing (some source)) key = value? existing key := by
  rw [value?_merge, h, Option.none_or]

theorem present_iff_merge_getD (existing : Option Map) (source : Map) :
    present existing source = true ↔
      (merge existing (some source)).getD .empty = existing.getD .empty :=
  (Dict.merge_eq_self_iff (existing.getD .empty) source).symm

theorem merge_eq_self_iff (existing : Option Map) (source : Map) :
    merge existing (some source) = existing ↔
      existing.isSome = true ∧ present existing source = true := by
  rw [present_iff_merge_getD]
  cases existing with
  | none => simp [merge]
  | some d => simp [merge]

theorem merge_merge (existing : Option Map) (source later : Map) :
    merge (merge existing (some source)) (some later) =
      merge existing (some (source.merge later)) :=
  congrArg some (Dict.merge_merge (existing.getD .empty) source later)

theorem merge_merge_self (existing : Option Map) (source : Map) :
    merge (merge existing (some source)) (some source) = merge existing (some source) :=
  (merge_eq_self_iff _ source).mpr ⟨rfl, present_merge existing (some source)⟩

-- Only where both writes have an entry it matters which one is the later.
theorem value?_merge_comm (existing : Option Map) {source later : Map} {key : String}
    (h : source.get? key = none ∨ later.get? key = none) :
    value? (merge (merge existing (some source)) (some later)) key =
      value? (merge (merge existing (some later)) (some source)) key := by
  rcases h with h | h
  · rw [value?_merge, value?_merge_of_none h, value?_merge_of_none h, value?_merge]
  · rw [value?_merge_of_none h, value?_merge, value?_merge, value?_merge_of_none h]

-- Labels or annotations, present or not, and entries that are written over them. All entries are
-- there afterwards, and nothing else is changed. They were there before exactly if nothing is
-- changed at all, where no map is as good as an empty one, though a write never leaves it at that.
-- To write them twice is to write them once. A later write of other entries is one write of both
-- sets of entries, the later ones over the first: it wins for the keys they share, leaves the first
-- entries elsewhere, and could as well have come first for all keys that they do not share.
theorem merge_agrees_with_present (existing : Option Map) (source : Map) :
    (∀ key value, source.get? key = some value →
      value? (merge existing (some source)) key = some value) ∧
    (∀ key, source.get? key = none →
      value? (merge existing (some source)) key = value? existing key) ∧
    present (merge existing (some source)) source = true ∧
    (present existing source = true ↔
      (merge existing (some source)).getD .empty = existing.getD .empty) ∧
    (merge existing (some source) = existing ↔
      existing.isSome = true ∧ present existing source = true) ∧
    merge (merge existing (some source)) (some source) = merge existing (some source) ∧
    ∀ later : Map,
      merge (merge existing (some source)) (some later) =
        merge existing (some (source.merge later)) ∧
      (∀ key value, later.get? key = some value →
        value? (merge (merge existing (some source)) (some later)) key = some value) ∧
      (∀ key, later.get? key = none →
        value? (merge (merge existing (some source)) (some later)) key =
          value? (merge existing (some source)) key) ∧
      ∀ key, source.get? key = none ∨ later.get? key = none →
        value? (merge (merge existing (some source)) (some later)) key =
          value? (merge (merge existing (some later)) (some source)) key := by
  refine ⟨fun key value h => value?_merge_of_some h existing,
    fun key h => value?_merge_of_none h existing, present_merge existing (some source),
    present_iff_merge_getD existing source, merge_eq_self_iff existing source,
    merge_merge_self existing source, fun later => ?_⟩
  exact ⟨merge_merge existing source later, fun key value h => value?_merge_of_some h _,
    fun key h => value?_merge_of_none h _, fun key => value?_merge_comm existing⟩

-- Labels of a child of another gateway, with one that somebody else has added
def takenLabels : Map := .ofList [("app", "other"), ("team", "search")]

theorem merge_agrees_with_present_of_taken :
    value? (merge (some takenLabels) (some (.singleton "app" "gw"))) "app" = some "gw" ∧
    value? (merge (some takenLabels) (some (.singleton "app" "gw"))) "team" = some "search" ∧
    merge (some takenLabels) (some (.singleton "app" "gw")) ≠ some takenLabels ∧
    value? (merge (merge none (some takenLabels)) (some (.singleton "app" "gw"))) "team" =
      some "search" := by
  obtain ⟨hwritten, hother, -, -, hself, -⟩ :=
    merge_agrees_with_present (some takenLabels) (.singleton "app" "gw")
  obtain ⟨hfirst, -, -, -, -, -, hlater⟩ := merge_agrees_with_present none takenLabels
  refine ⟨hwritten "app" "gw" (by decide), (hother "team" (by decide)).trans (by decide),
    fun h => absurd (hself.mp h).2 (by decide), ?_⟩
  obtain ⟨-, -, helsewhere, -⟩ := hlater (.singleton "app" "gw")
  exact (helsewhere "team" (by decide)).trans (hfirst "team" "search" (by decide))

end Labels

end GatewayOperator
