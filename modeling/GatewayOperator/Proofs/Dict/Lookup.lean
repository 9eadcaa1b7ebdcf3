import GatewayOperator.Dict
import Mathlib.Data.List.Sort

namespace GatewayOperator.Dict

variable {β : Type}

theorem valueOf?_eq_some_iff {l : List (String × β)} (hl : l.Pairwise fun a b => a.1 < b.1)
    (key : String) (value : β) : valueOf? key l = some value ↔ (key, value) ∈ l := by
  induction l with
  | nil => simp [valueOf?]
  | cons head rest ih =>
    obtain ⟨k, v⟩ := head
    obtain ⟨hk, hrest⟩ := List.pairwise_cons.mp hl
    simp only [valueOf?, List.mem_cons, Prod.mk.injEq]
    by_cases h : k = key
    · subst h
      -- all later keys are greater
      have hnot : (k, value) ∉ rest := fun hm => String.lt_irrefl k (hk _ hm)
      simp [hnot, eq_comm]
    · simp [h, Ne.symm h, ih hrest]

theorem get?_eq_some_iff (d : Dict β) (key : String) (value : β) :
    d.get? key = some value ↔ (key, value) ∈ d.entries :=
  valueOf?_eq_some_iff d.ascending key value

theorem nodup_entries (d : Dict β) : d.entries.Nodup :=
  d.ascending.imp fun {a b} (h : a.1 < b.1) (e : a = b) => String.lt_irrefl b.1 (e ▸ h)

theorem ext_get? {a b : Dict β} (h : ∀ key, a.get? key = b.get? key) : a = b := by
  apply ext_entries
  have hperm : a.entries.Perm b.entries :=
    (List.perm_ext_iff_of_nodup a.nodup_entries b.nodup_entries).mpr fun e => by
      rw [← get?_eq_some_iff a e.1 e.2, ← get?_eq_some_iff b e.1 e.2, h]
  exact hperm.eq_of_pairwise (fun x y _ _ hxy hyx => absurd (String.lt_trans hxy hyx)
    (String.lt_irrefl _)) a.ascending b.ascending

@[simp] theorem get?_singleton (key k : String) (value : β) :
    (singleton key value).get? k = if key = k then some value else none := by
  simp [singleton]

theorem get?_foldl_insert (entries : List (String × β)) (d : Dict β) (key : String)
    (hd : entries.Pairwise fun a b => a.1 < b.1) :
    (entries.foldl (fun d e => d.insert e.1 e.2) d).get? key =
      (valueOf? key entries).or (d.get? key) := by
  induction entries generalizing d with
  | nil => simp [valueOf?]
  | cons head rest ih =>
    obtain ⟨k, v⟩ := head
    obtain ⟨hk, hrest⟩ := List.pairwise_cons.mp hd
    rw [List.foldl_cons, ih _ hrest, get?_insert, valueOf?]
    by_cases h : k = key
    · subst h
      have hnone : valueOf? k rest = none := by
        rw [Option.eq_none_iff_forall_ne_some]
        intro value hv
        exact String.lt_irrefl k (hk _ ((valueOf?_eq_some_iff hrest k value).mp hv))
      simp [hnone]
    · simp [h]

@[simp] theorem get?_merge (d source : Dict β) (key : String) :
    (d.merge source).get? key = (source.get? key).or (d.get? key) :=
  get?_foldl_insert source.entries d key source.ascending

-- A dictionary that is absent counts as the empty one.
theorem get?_getD_empty (d : Option (Dict β)) (key : String) :
    (d.getD empty).get? key = d.bind (·.get? key) := by
  cases d <;> rfl

-- The last one written wins.
theorem merge_merge (d first second : Dict β) :
    (d.merge first).merge second = d.merge (first.merge second) := by
  apply ext_get?
  intro key
  simp only [get?_merge, Option.or_assoc]

theorem ofList_entries (d : Dict β) : ofList d.entries = d := by
  apply ext_get?
  intro key
  rw [ofList, get?_foldl_insert d.entries empty key d.ascending, get?_empty, Option.or_none]
  rfl

theorem mem_of_mem_foldl_insert {entries : List (String × β)} {d : Dict β} {e : String × β}
    (h : e ∈ (entries.foldl (fun d e => d.insert e.1 e.2) d).entries) :
    e ∈ entries ∨ e ∈ d.entries := by
  induction entries generalizing d with
  | nil => exact .inr h
  | cons head rest ih =>
    rcases ih h with he | he
    · exact .inl (List.mem_cons_of_mem head he)
    · rcases mem_insertEntry he with rfl | he
      · exact .inl List.mem_cons_self
      · exact .inr he

theorem mem_of_mem_ofList {entries : List (String × β)} {e : String × β}
    (h : e ∈ (ofList entries).entries) : e ∈ entries :=
  (mem_of_mem_foldl_insert h).resolve_right (by simp [empty])

theorem isSome_get?_iff (d : Dict β) (key : String) :
    (d.get? key).isSome = true ↔ key ∈ d.entries.map Prod.fst := by
  simp only [Option.isSome_iff_exists, get?_eq_some_iff, List.mem_map, Prod.exists,
    exists_and_right, exists_eq_right]

theorem mem_keys_insert (d : Dict β) (key k : String) (value : β) :
    k ∈ (d.insert key value).entries.map Prod.fst ↔ k = key ∨ k ∈ d.entries.map Prod.fst := by
  rw [← isSome_get?_iff, ← isSome_get?_iff, get?_insert]
  by_cases h : key = k
  · simp [h]
  · simp [h, Ne.symm h]

theorem mem_keys_ofList (entries : List (String × β)) (key : String) :
    key ∈ (ofList entries).entries.map Prod.fst ↔ key ∈ entries.map Prod.fst := by
  have hfold : ∀ d : Dict β,
      key ∈ (entries.foldl (fun d e => d.insert e.1 e.2) d).entries.map Prod.fst ↔
        key ∈ entries.map Prod.fst ∨ key ∈ d.entries.map Prod.fst := by
    induction entries with
    | nil => simp
    | cons head rest ih =>
      intro d
      rw [List.foldl_cons, ih, mem_keys_insert, List.map_cons, List.mem_cons, or_left_comm,
        or_assoc]
  exact (hfold empty).trans (or_iff_left List.not_mem_nil)

theorem includes_iff [BEq β] [LawfulBEq β] (d required : Dict β) :
    d.includes required = true ↔
      ∀ key value, required.get? key = some value → d.get? key = some value := by
  simp only [includes, List.all_eq_true, beq_iff_eq, Prod.forall, get?_eq_some_iff required]

theorem includes_merge [BEq β] [LawfulBEq β] (d source : Dict β) :
    (d.merge source).includes source = true := by
  rw [includes_iff]
  intro key value h
  simp [h]

theorem includes_self [BEq β] [LawfulBEq β] (d : Dict β) : d.includes d = true := by
  rw [includes_iff]
  exact fun _ _ h => h

-- Merging entries that stand there already changes nothing, and nothing else does so.
theorem merge_eq_self_iff [BEq β] [LawfulBEq β] (d source : Dict β) :
    d.merge source = d ↔ d.includes source = true := by
  constructor
  · intro h
    rw [← h]
    exact includes_merge d source
  · intro h
    apply ext_get?
    intro key
    rw [get?_merge]
    cases hs : source.get? key with
    | none => rfl
    | some value => exact ((includes_iff d source).mp h key value hs).symm

end GatewayOperator.Dict
