import GatewayOperator.Children.Comparison
import Mathlib.Order.Lattice

namespace GatewayOperator

section Sorting

variable {α β : Type} [LinearOrder β] {key : α → β} {le : α → α → Bool} {a b : List α}

-- The test puts entries in the order of their keys.
def ComparesBy (le : α → α → Bool) (key : α → β) : Prop := ∀ x y, le x y = true ↔ key x ≤ key y

theorem ComparesBy.trans (h : ComparesBy le key) (x y z : α) (hxy : le x y = true)
    (hyz : le y z = true) : le x z = true :=
  (h x z).mpr (le_trans ((h x y).mp hxy) ((h y z).mp hyz))

theorem ComparesBy.total (h : ComparesBy le key) (x y : α) : (le x y || le y x) = true := by
  rw [Bool.or_eq_true, h, h]
  exact le_total (key x) (key y)

theorem pairwise_mergeSort_key (h : ComparesBy le key) (items : List α) :
    (items.mergeSort le).Pairwise fun x y => key x ≤ key y :=
  (List.pairwise_mergeSort h.trans h.total items).imp fun hxy => (h _ _).mp hxy

-- Sorting by a key keeps the order of the entries of one key.
theorem filter_mergeSort_key (h : ComparesBy le key) (k : β) (items : List α) :
    (items.mergeSort le).filter (fun x => key x = k) = items.filter fun x => key x = k := by
  have hperm := (List.mergeSort_perm items le).filter fun x => key x = k
  have hsorted : (items.filter fun x => key x = k).Pairwise fun x y => le x y = true := by
    rw [List.pairwise_filter]
    refine List.pairwise_of_forall fun x y hx hy => ?_
    rw [decide_eq_true_eq] at hx hy
    exact (h x y).mpr (le_of_eq (hx.trans hy.symm))
  have hsublist := List.sublist_mergeSort h.trans h.total hsorted List.filter_sublist
  have hfiltered := hsublist.filter fun x => key x = k
  rw [List.filter_filter] at hfiltered
  simp only [Bool.and_self] at hfiltered
  exact (hfiltered.eq_of_length hperm.length_eq.symm).symm

theorem mem_of_filter_eq (h : ∀ k, a.filter (fun x => key x = k) = b.filter fun x => key x = k)
    {x : α} (hx : x ∈ a) : x ∈ b := by
  have hfilter : x ∈ a.filter fun y => key y = key x := by simpa using hx
  rw [h] at hfilter
  exact (List.mem_filter.mp hfilter).1

theorem key_head_le {x y : α} {rest : List α}
    (hsorted : (x :: rest).Pairwise fun x y => key x ≤ key y) (hy : y ∈ x :: rest) :
    key x ≤ key y := by
  rcases List.mem_cons.mp hy with rfl | hy
  · exact le_rfl
  · exact List.rel_of_pairwise_cons hsorted hy

-- Two lists in the order of a key that hold the same entries of each key have the same first entry,
-- and so have their rests.
theorem eq_of_pairwise_of_filter_eq (ha : a.Pairwise fun x y => key x ≤ key y)
    (hb : b.Pairwise fun x y => key x ≤ key y)
    (h : ∀ k, a.filter (fun x => key x = k) = b.filter fun x => key x = k) : a = b := by
  induction a generalizing b with
  | nil =>
    refine (List.eq_nil_iff_forall_not_mem.mpr fun y hy => ?_).symm
    exact List.not_mem_nil (mem_of_filter_eq (fun k => (h k).symm) hy)
  | cons x a ih =>
    cases b with
    | nil => exact absurd (mem_of_filter_eq h List.mem_cons_self) List.not_mem_nil
    | cons y b =>
      have hkey : key x = key y :=
        le_antisymm (key_head_le ha (mem_of_filter_eq (fun k => (h k).symm) List.mem_cons_self))
          (key_head_le hb (mem_of_filter_eq h List.mem_cons_self))
      have hfirst := h (key y)
      simp only [List.filter_cons, hkey, decide_true, if_true, List.cons.injEq] at hfirst
      obtain ⟨rfl, -⟩ := hfirst
      rw [ih ha.of_cons hb.of_cons fun k => ?_]
      by_cases hk : key x = k
      · simpa [List.filter_cons, hk] using h k
      · simpa [List.filter_cons, hk] using h k

theorem sortedEqual_iff_filter [DecidableEq α] (h : ComparesBy le key) (a b : List α) :
    sortedEqual le a b = true ↔
      ∀ k, a.filter (fun x => key x = k) = b.filter fun x => key x = k := by
  rw [sortedEqual, decide_eq_true_eq]
  constructor
  · intro hsame k
    rw [← filter_mergeSort_key h k a, hsame, filter_mergeSort_key h]
  · intro hfilter
    refine eq_of_pairwise_of_filter_eq (pairwise_mergeSort_key h a) (pairwise_mergeSort_key h b) ?_
    intro k
    rw [filter_mergeSort_key h, filter_mergeSort_key h, hfilter]

-- The keys that count are those of entries.
theorem sortedEqual_iff_filter_key [DecidableEq α] (h : ComparesBy le key) (a b : List α) :
    sortedEqual le a b = true ↔
      ∀ x, a.filter (fun y => key x = key y) = b.filter fun y => key x = key y := by
  rw [sortedEqual_iff_filter h]
  constructor
  · intro hfilter x
    simpa only [eq_comm] using hfilter (key x)
  · intro hfilter k
    by_cases hk : ∃ x, key x = k
    · obtain ⟨x, rfl⟩ := hk
      simpa only [eq_comm] using hfilter x
    · have hnone (items : List α) : (items.filter fun y => key y = k) = [] := by
        rw [List.filter_eq_nil_iff]
        intro y _ hy
        exact hk ⟨y, of_decide_eq_true hy⟩
      rw [hnone, hnone]

theorem filter_eq_of_perm (hperm : a.Perm b)
    (hapart : ∀ x ∈ a, ∀ y ∈ a, key x = key y → x = y) (k : β) :
    a.filter (fun x => key x = k) = b.filter fun x => key x = k := by
  have hany (items : List α) : items.Pairwise fun _ _ => True :=
    List.pairwise_of_forall fun _ _ => trivial
  refine (hperm.filter _).eq_of_pairwise (fun x y hx hy _ _ => ?_) (hany _) (hany _)
  rw [List.mem_filter, decide_eq_true_eq] at hx hy
  exact hapart x hx.1 y (hperm.mem_iff.mpr hy.1) (hx.2.trans hy.2.symm)

end Sorting

theorem perm_of_sortedEqual {α : Type} [DecidableEq α] {le : α → α → Bool} {a b : List α}
    (h : sortedEqual le a b = true) : a.Perm b := by
  rw [sortedEqual, decide_eq_true_eq] at h
  exact (List.mergeSort_perm a le).symm.trans (h ▸ List.mergeSort_perm b le)

theorem sortedEqual_iff_perm {α β : Type} [DecidableEq α] [LinearOrder β] {key : α → β}
    {le : α → α → Bool} (h : ComparesBy le key) {a b : List α}
    (hapart : ∀ x ∈ a, ∀ y ∈ a, key x = key y → x = y) :
    sortedEqual le a b = true ↔ a.Perm b :=
  ⟨perm_of_sortedEqual, fun hperm =>
    (sortedEqual_iff_filter h a b).mpr (filter_eq_of_perm hperm hapart)⟩

theorem rel_of_optionalEqual {α : Type} {equal : α → α → Bool} {r : α → α → Prop}
    (hr : ∀ x y, equal x y = true → r x y) {a b : Option α} (h : optionalEqual equal a b = true) :
    Option.Rel r a b := by
  cases a with
  | none =>
    cases b with
    | none => exact .none
    | some y => cases h
  | some x =>
    cases b with
    | none => cases h
    | some y => exact .some (hr x y h)

end GatewayOperator
