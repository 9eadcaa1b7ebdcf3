import GatewayOperator.Json.MergePatch
import GatewayOperator.Proofs.Json.Records

namespace GatewayOperator

namespace Fields

variable {fields more : Fields}

-- In ascending order of their names, as in every written object
def Ascending (fields : Fields) : Prop := fields.Pairwise fun a b => a.1 < b.1

theorem Ascending.ext (hfields : fields.Ascending) (hmore : more.Ascending)
    (h : ∀ name, fields.get? name = more.get? name) : fields = more :=
  congrArg Dict.entries (Dict.ext_get? (a := ⟨fields, hfields⟩) (b := ⟨more, hmore⟩) h)

theorem Ascending.nodup (h : fields.Ascending) : (fields.map Prod.fst).Nodup :=
  List.pairwise_map.mpr (h.imp String.ne_of_lt)

theorem Ascending.insert (h : fields.Ascending) (name : String) (value : Json) :
    (fields.insert name value).Ascending := by
  rw [insert_eq]
  exact Dict.insertEntry_ascending name value h

theorem Ascending.erase (h : fields.Ascending) (name : String) : (fields.erase name).Ascending :=
  h.filter _

theorem get?_erase (fields : Fields) (key name : String) :
    (fields.erase key).get? name = if key = name then none else fields.get? name := by
  induction fields with
  | nil => simp [erase]
  | cons head rest ih =>
    obtain ⟨n, v⟩ := head
    by_cases hkey : n = key
    · subst hkey
      have herase : erase ((n, v) :: rest) n = erase rest n := by simp [erase]
      rw [herase, ih, get?_cons]
      by_cases hname : n = name <;> simp [hname]
    · have herase : erase ((n, v) :: rest) key = (n, v) :: erase rest key := by simp [erase, hkey]
      rw [herase, get?_cons, get?_cons, ih]
      by_cases hname : n = name
      · have hne : key ≠ name := fun e => hkey (hname.trans e.symm)
        simp [hname, hne]
      · simp [hname]

theorem get?_present_cons (n name : String) (v : Option Json)
    (rest : List (String × Option Json)) :
    get? (present ((n, v) :: rest)) name =
      if n = name then v.or (get? (present rest) name) else get? (present rest) name := by
  by_cases h : n = name
  · subst h
    simp
  · simp [h]

theorem ascending_present {fields : List (String × Option Json)}
    (h : (fields.map Prod.fst).Pairwise (· < ·)) : (present fields).Ascending := by
  refine (List.pairwise_map.mp h).filterMap _ fun a b hlt x hx y hy => ?_
  obtain ⟨_, -, rfl⟩ := Option.map_eq_some_iff.mp hx
  obtain ⟨_, -, rfl⟩ := Option.map_eq_some_iff.mp hy
  exact hlt

end Fields

namespace Json

-- What becomes of a field as it is found, by the change that the patch has for it
def mergedField (found change : Option Json) : Option Json :=
  match change with
  | none => found
  | some .null => none
  | some change => some (mergePatch (found.getD .null) change)

theorem mergedField_some (found : Option Json) {change : Json} (h : change ≠ .null) :
    mergedField found (some change) = some (mergePatch (found.getD .null) change) := by
  cases change <;> simp_all [mergedField]

theorem mergePatch_object (fields changes : Fields) :
    mergePatch (.object fields) (.object changes) = .object (mergeFields fields changes) := by
  rw [mergePatch]
  rfl

theorem mergeFields_cons_null (fields : Fields) (name : String) (rest : Fields) :
    mergeFields fields ((name, .null) :: rest) = mergeFields (fields.erase name) rest := by
  rw [mergeFields]

theorem mergeFields_cons (fields : Fields) (name : String) {change : Json} (h : change ≠ .null)
    (rest : Fields) :
    mergeFields fields ((name, change) :: rest) =
      mergeFields (fields.insert name (mergePatch ((fields.get? name).getD .null) change))
        rest := by
  rw [mergeFields]
  exact h

theorem ascending_mergeFields {fields : Fields} (h : fields.Ascending) (changes : Fields) :
    (mergeFields fields changes).Ascending := by
  induction changes generalizing fields with
  | nil => rwa [mergeFields]
  | cons head rest ih =>
    obtain ⟨name, change⟩ := head
    by_cases hnull : change = .null
    · subst hnull
      rw [mergeFields_cons_null]
      exact ih (h.erase name)
    · rw [mergeFields_cons fields name hnull]
      exact ih (h.insert name _)

theorem get?_mergeFields (fields : Fields) {changes : Fields} (h : (changes.map Prod.fst).Nodup)
    (name : String) :
    (mergeFields fields changes).get? name =
      mergedField (fields.get? name) (changes.get? name) := by
  induction changes generalizing fields with
  | nil => rw [mergeFields]; rfl
  | cons head rest ih =>
    obtain ⟨key, change⟩ := head
    obtain ⟨hkey, hrest⟩ := List.nodup_cons.mp h
    have hlater : Fields.get? rest key = none := (Fields.get?_eq_none_iff rest key).mpr hkey
    by_cases hnull : change = .null
    · subst hnull
      rw [mergeFields_cons_null, ih _ hrest, Fields.get?_erase, Fields.get?_cons]
      by_cases hname : key = name
      · subst hname
        simp [hlater, mergedField]
      · simp [hname]
    · rw [mergeFields_cons fields key hnull, ih _ hrest, Fields.get?_insert, Fields.get?_cons]
      by_cases hname : key = name
      · subst hname
        simp [hlater, mergedField_some _ hnull]
        rfl
      · simp [hname]

-- A value that takes the place of whatever it is merged into
def Plain (j : Json) : Prop := j ≠ .null ∧ ∀ target, mergePatch target j = j

theorem plain_string (s : String) : Plain (.string s) :=
  ⟨by simp, fun _ => by rw [mergePatch]; simp⟩

theorem plain_array (items : List Json) : Plain (.array items) :=
  ⟨by simp, fun _ => by rw [mergePatch]; simp⟩

theorem plain_map {α : Type} {write : α → Json} (h : ∀ a, (write a).Plain) (o : Option α) :
    ∀ j ∈ o.map write, j.Plain := by
  intro j hj
  obtain ⟨a, -, rfl⟩ := Option.map_eq_some_iff.mp hj
  exact h a

theorem plain_present {fields : List (String × Option Json)}
    (h : ∀ f ∈ fields, ∀ j ∈ f.2, j.Plain) : ∀ f ∈ Fields.present fields, f.2.Plain := by
  intro f hf
  obtain ⟨found, hmem, hvalue⟩ := List.mem_filterMap.mp hf
  obtain ⟨j, hj, rfl⟩ := Option.map_eq_some_iff.mp hvalue
  exact h found hmem j hj

-- A patch of plain values that names all that stands in the target replaces it.
theorem mergeFields_eq_changes {fields changes : Fields} (hfields : fields.Ascending)
    (hchanges : changes.Ascending)
    (hplain : ∀ f ∈ changes, f.2.Plain)
    (hall : ∀ name, changes.get? name = none → fields.get? name = none) :
    mergeFields fields changes = changes := by
  apply (ascending_mergeFields hfields changes).ext hchanges
  intro name
  rw [get?_mergeFields fields hchanges.nodup]
  cases hname : changes.get? name with
  | none => exact hall name hname
  | some change =>
    have hmem := (Dict.valueOf?_eq_some_iff hchanges name change).mp hname
    obtain ⟨hnull, hplace⟩ := hplain _ hmem
    rw [mergedField_some _ hnull, hplace]

end Json

end GatewayOperator
