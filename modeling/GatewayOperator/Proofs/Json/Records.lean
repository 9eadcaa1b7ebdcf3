import GatewayOperator.Kubernetes.Meta
import GatewayOperator.Proofs.Dict.Lookup

namespace GatewayOperator

namespace Json.Gathered

variable {α β : Type}

-- The value, if all fields could be read
def value? : Gathered α → Option α
  | complete a => some a
  | broken _ _ => none

@[simp] theorem value?_complete (a : α) : (complete a).value? = some a := rfl

@[simp] theorem value?_broken (faults : List (Nat × Fault)) (absent : List String) :
    (broken faults absent : Gathered α).value? = none := rfl

@[simp] theorem value?_map (f : α → β) (g : Gathered α) : (f <$> g).value? = g.value?.map f := by
  cases g <;> rfl

@[simp] theorem value?_seq (f : Gathered (α → β)) (g : Gathered α) :
    (f <*> g).value? = f.value?.bind fun f => g.value?.map f := by
  cases f <;> cases g <;> rfl

theorem outcome_eq_ok_iff (g : Gathered α) (a : α) : g.outcome = .ok a ↔ g.value? = some a := by
  cases g with
  | complete b => simp [outcome]
  | broken faults absent =>
    simp only [value?_broken, reduceCtorEq, iff_false]
    simp only [outcome]
    split <;> simp

theorem outcomeOfList_eq_ok_iff (g : Gathered α) (a : α) :
    g.outcomeOfList = .ok a ↔ g.value? = some a := by
  cases g with
  | complete b => simp [outcomeOfList]
  | broken faults absent =>
    simp only [value?_broken, reduceCtorEq, iff_false]
    simp only [outcomeOfList]
    split <;> simp

end Json.Gathered

namespace Fields

open Json

variable {α : Type}

@[simp] theorem get?_nil (name : String) : get? [] name = none := rfl

theorem get?_cons (n name : String) (v : Json) (rest : Fields) :
    get? ((n, v) :: rest) name = if n = name then some v else get? rest name := rfl

theorem get?_eq_none_iff (fields : Fields) (name : String) :
    fields.get? name = none ↔ name ∉ fields.map Prod.fst := by
  induction fields with
  | nil => simp
  | cons head rest ih =>
    obtain ⟨n, v⟩ := head
    by_cases h : n = name
    · simp [get?_cons, h]
    · simp only [get?_cons, h, if_false, ih, List.map_cons, List.mem_cons, not_or, Ne.symm h,
        not_false_iff, true_and]

theorem insert_eq (fields : Fields) (name : String) (value : Json) :
    fields.insert name value = Dict.insertEntry name value fields := by
  induction fields with
  | nil => rfl
  | cons head rest ih => simp only [insert, Dict.insertEntry, ih]

theorem get?_insert (fields : Fields) (key name : String) (value : Json) :
    (fields.insert key value).get? name = if key = name then some value else fields.get? name := by
  rw [insert_eq]
  exact Dict.valueOf?_insertEntry key name value fields

@[simp] theorem insertAll_nil (fields : Fields) : fields.insertAll [] = fields := rfl

theorem get?_insertAll_of_not_mem (fields more : Fields) {name : String}
    (h : name ∉ more.map Prod.fst) : (fields.insertAll more).get? name = fields.get? name := by
  induction more generalizing fields with
  | nil => rfl
  | cons head rest ih =>
    obtain ⟨n, v⟩ := head
    simp only [List.map_cons, List.mem_cons, not_or] at h
    have hinsert := get?_insert fields n name v
    rw [if_neg (Ne.symm h.1)] at hinsert
    exact (ih (fields.insert n v) h.2).trans hinsert

theorem get?_insertAll_of_nodup (fields more : Fields) (name : String)
    (h : (more.map Prod.fst).Nodup) :
    (fields.insertAll more).get? name = (more.get? name).or (fields.get? name) := by
  induction more generalizing fields with
  | nil => rfl
  | cons head rest ih =>
    obtain ⟨n, v⟩ := head
    obtain ⟨hn, hrest⟩ := List.nodup_cons.mp h
    have hstep : (fields.insertAll ((n, v) :: rest)) = (fields.insert n v).insertAll rest := rfl
    rw [hstep, ih _ hrest, get?_cons, get?_insert]
    by_cases heq : n = name
    · subst heq
      simp [(get?_eq_none_iff rest n).mpr hn]
    · simp [heq]

@[simp] theorem get?_present_nil (name : String) : get? (present []) name = none := rfl

@[simp] theorem get?_present_cons_self (name : String) (v : Option Json)
    (rest : List (String × Option Json)) :
    get? (present ((name, v) :: rest)) name = v.or (get? (present rest) name) := by
  cases v with
  | none => simp [present]
  | some v => simp [present, get?_cons]

@[simp] theorem get?_present_cons_of_ne {n name : String} (h : n ≠ name) (v : Option Json)
    (rest : List (String × Option Json)) :
    get? (present ((n, v) :: rest)) name = get? (present rest) name := by
  cases v with
  | none => simp [present]
  | some v => simp [present, get?_cons, h]

theorem find?_map_snd (fields : Fields) (name : String) :
    (find? name fields).map Prod.snd = fields.get? name := by
  induction fields with
  | nil => rfl
  | cons head rest ih =>
    obtain ⟨n, v⟩ := head
    by_cases h : n = name
    · simp [find?, get?_cons, h]
    · simp [find?, get?_cons, h, ← ih, Function.comp_def]

-- The value of a field that is there as `found`, or is not there
def valueOf? (read : Reader α) (absent : Option α) (found : Option Json) : Option α :=
  found.elim absent fun j => (read j).toOption

theorem value?_gather (fields : Fields) (name : String) (read : Reader α) (absent : Gathered α) :
    (fields.gather name read absent).value? = valueOf? read absent.value? (fields.get? name) := by
  rw [← find?_map_snd, gather]
  cases find? name fields with
  | none => rfl
  | some found =>
    obtain ⟨place, j⟩ := found
    simp only [valueOf?, Option.map_some, Option.elim_some]
    cases read j <;> rfl

@[simp] theorem value?_required (fields : Fields) (name : String) (read : Reader α) :
    (fields.required name read).value? = valueOf? read none (fields.get? name) :=
  value?_gather fields name read _

@[simp] theorem value?_orDefault (fields : Fields) (name : String) (default : α)
    (read : Reader α) :
    (fields.orDefault name default read).value? =
      valueOf? read (some default) (fields.get? name) :=
  value?_gather fields name read _

@[simp] theorem value?_orEmpty (fields : Fields) (name : String) (empty : α) (read : Reader α) :
    (fields.orEmpty name empty read).value? =
      valueOf? (fun j => (·.getD empty) <$> readOption read j) (some empty) (fields.get? name) :=
  value?_gather fields name _ _

@[simp] theorem value?_optional (fields : Fields) (name : String) (read : Reader α) :
    (fields.optional name read).value? =
      valueOf? (readOption read) (some none) (fields.get? name) :=
  value?_gather fields name _ _

end Fields

namespace Json

variable {α : Type}

-- The value reads back from what is written for it, as the value it was and not as nothing.
structure Faithful (read : Reader α) (write : α → Json) (a : α) : Prop where
  read_write : read (write a) = .ok a
  write_ne_null : write a ≠ .null

theorem faithful_record {body : Fields → Gathered α} {write : α → Json} {a : α} {fields : Fields}
    (hwrite : write a = .object fields) (h : (body fields).value? = some a) :
    Faithful (readRecord body) write a := by
  refine ⟨?_, by simp [hwrite]⟩
  rw [hwrite]
  exact (Gathered.outcome_eq_ok_iff _ _).mpr h

theorem faithful_readRecordOrList {names : List String} {least : Nat} {body : Fields → Gathered α}
    {write : α → Json} {a : α} {fields : Fields} (hwrite : write a = .object fields)
    (h : (body fields).value? = some a) : Faithful (readRecordOrList names least body) write a := by
  refine ⟨?_, by simp [hwrite]⟩
  rw [hwrite]
  exact (Gathered.outcome_eq_ok_iff _ _).mpr h

theorem readOption_of_ne_null (read : Reader α) {j : Json} (hj : j ≠ .null) :
    readOption read j = some <$> read j := by
  cases j <;> simp_all [readOption]

@[simp] theorem map_ok {β : Type} (f : α → β) (a : α) :
    (f <$> (.ok a : Except Fault α)) = .ok (f a) := rfl

theorem map_eq_ok_iff {β : Type} (f : α → β) (x : Except Fault α) (b : β) :
    f <$> x = .ok b ↔ ∃ a, x = .ok a ∧ f a = b := by
  cases x <;> simp [Functor.map, Except.map]

theorem valueOf?_some (read : Reader α) (absent : Option α) (j : Json) :
    Fields.valueOf? read absent (some j) = (read j).toOption := rfl

variable {read : Reader α} {write : α → Json}

theorem Faithful.valueOf?_required {a : α} (h : Faithful read write a) (absent : Option α) :
    Fields.valueOf? read absent (some (write a)) = some a := by
  rw [valueOf?_some, h.read_write]
  rfl

theorem Faithful.valueOf?_orEmpty {a : α} (h : Faithful read write a) (empty : α)
    (absent : Option α) :
    Fields.valueOf? (fun j => (·.getD empty) <$> readOption read j) absent (some (write a)) =
      some a := by
  rw [valueOf?_some, readOption_of_ne_null read h.write_ne_null, h.read_write]
  rfl

theorem valueOf?_optional {o : Option α} (h : ∀ a ∈ o, Faithful read write a) :
    Fields.valueOf? (readOption read) (some none) (o.map write) = some o := by
  cases o with
  | none => rfl
  | some a =>
    have ha := h a rfl
    rw [Option.map_some, valueOf?_some, readOption_of_ne_null read ha.write_ne_null, ha.read_write]
    rfl

theorem exists_of_readRecord {body : Fields → Gathered α} {j : Json} {a : α}
    (h : readRecord body j = .ok a) : ∃ fields, (body fields).value? = some a := by
  cases j with
  | object fields => exact ⟨fields, (Gathered.outcome_eq_ok_iff _ _).mp h⟩
  | _ => cases h

theorem exists_of_toOption {x : Except Fault α} {a : α} (h : x.toOption = some a) : x = .ok a := by
  cases x <;> simp_all [Except.toOption]

theorem exists_of_valueOf?_required {found : Option Json} {a : α}
    (h : Fields.valueOf? read none found = some a) : ∃ j, read j = .ok a := by
  cases found with
  | none => cases h
  | some j => exact ⟨j, exists_of_toOption h⟩

theorem exists_of_valueOf?_orDefault {found : Option Json} {default a : α}
    (h : Fields.valueOf? read (some default) found = some a) :
    a = default ∨ ∃ j, read j = .ok a := by
  cases found with
  | none => exact .inl (Option.some.inj h).symm
  | some j => exact .inr ⟨j, exists_of_toOption h⟩

theorem exists_of_readOption {j : Json} {o : Option α} (h : readOption read j = .ok o) :
    ∀ a ∈ o, ∃ j, read j = .ok a := by
  rintro a rfl
  refine ⟨j, ?_⟩
  cases j with
  | null => cases h
  | _ =>
    rw [readOption_of_ne_null read (by simp)] at h
    obtain ⟨b, hb, hab⟩ := (map_eq_ok_iff _ _ _).mp h
    exact (Option.some.inj hab) ▸ hb

theorem exists_of_valueOf?_optional {found : Option Json} {o : Option α}
    (h : Fields.valueOf? (readOption read) (some none) found = some o) :
    ∀ a ∈ o, ∃ j, read j = .ok a := by
  rcases exists_of_valueOf?_orDefault h with rfl | ⟨j, hj⟩
  · simp
  · exact exists_of_readOption hj

theorem exists_of_valueOf?_orEmpty {found : Option Json} {empty a : α}
    (h : Fields.valueOf? (fun j => (·.getD empty) <$> readOption read j) (some empty) found =
      some a) : a = empty ∨ ∃ j, read j = .ok a := by
  rcases exists_of_valueOf?_orDefault h with rfl | ⟨j, hj⟩
  · exact .inl rfl
  · obtain ⟨o, ho, rfl⟩ := (map_eq_ok_iff _ _ _).mp hj
    cases o with
    | none => exact .inl rfl
    | some b => exact .inr (exists_of_readOption ho b rfl)

end Json
end GatewayOperator
