import GatewayOperator.Proofs.Instant.Text
import GatewayOperator.Proofs.Json.Records

namespace GatewayOperator.Json

variable {α : Type}

theorem readWithin_eq_ok_iff (least greatest : Int) (j : Json) (n : Int) :
    readWithin least greatest j = .ok n ↔ j = .int n ∧ least ≤ n ∧ n ≤ greatest := by
  cases j with
  | number value =>
    cases value with
    | integer m =>
      simp only [readWithin, int, number.injEq, Number.integer.injEq]
      by_cases hm : least ≤ m ∧ m ≤ greatest
      · rw [if_pos hm]
        constructor
        · intro h
          cases h
          exact ⟨rfl, hm⟩
        · rintro ⟨rfl, -⟩
          rfl
      · rw [if_neg hm]
        constructor
        · intro h
          cases h
        · rintro ⟨rfl, hn⟩
          exact absurd hn hm
    | decimal negative size => simp [readWithin, int]
  | _ => simp [readWithin, int]

theorem bind_eq_ok_iff {β : Type} (x : Except Fault α) (f : α → Except Fault β) (b : β) :
    x >>= f = .ok b ↔ ∃ a, x = .ok a ∧ f a = .ok b := by
  cases x <;> simp [bind, Except.bind]

theorem exists_of_readRecordOrList {names : List String} {least : Nat}
    {body : Fields → Gathered α} {j : Json} {a : α}
    (h : readRecordOrList names least body j = .ok a) :
    ∃ fields, (body fields).value? = some a := by
  cases j with
  | object fields => exact ⟨fields, (Gathered.outcome_eq_ok_iff _ _).mp h⟩
  | array items =>
    obtain ⟨b, hb, h⟩ := (bind_eq_ok_iff _ _ _).mp h
    split at h
    · cases h
      exact ⟨_, (Gathered.outcomeOfList_eq_ok_iff _ _).mp hb⟩
    · cases h
  | _ => cases h

theorem exists_of_readItems {read : Reader α} {items : List Json} {out : List α}
    (h : readItems read items = .ok out) : ∀ a ∈ out, ∃ j, read j = .ok a := by
  induction items generalizing out with
  | nil =>
    cases h
    simp
  | cons j rest ih =>
    obtain ⟨a, ha, h⟩ := (bind_eq_ok_iff _ _ _).mp h
    obtain ⟨more, hmore, hout⟩ := (bind_eq_ok_iff _ _ _).mp h
    cases hout
    intro b hb
    rcases List.mem_cons.mp hb with rfl | hb
    · exact ⟨j, ha⟩
    · exact ih hmore b hb

theorem exists_of_readList {read : Reader α} {j : Json} {out : List α}
    (h : readList read j = .ok out) : ∀ a ∈ out, ∃ j, read j = .ok a := by
  cases j with
  | array items => exact exists_of_readItems h
  | _ => cases h

theorem exists_of_readEntries {read : Reader α} {fields : Fields} {out : List (String × α)}
    (h : readEntries read fields = .ok out) : ∀ e ∈ out, ∃ j, read j = .ok e.2 := by
  induction fields generalizing out with
  | nil =>
    cases h
    simp
  | cons head rest ih =>
    obtain ⟨name, j⟩ := head
    obtain ⟨a, ha, h⟩ := (bind_eq_ok_iff _ _ _).mp h
    obtain ⟨more, hmore, hout⟩ := (bind_eq_ok_iff _ _ _).mp h
    cases hout
    intro e he
    rcases List.mem_cons.mp he with rfl | he
    · exact ⟨j, ha⟩
    · exact ih hmore e he

theorem exists_of_readDict {read : Reader α} {j : Json} {d : Dict α}
    (h : readDict read j = .ok d) : ∀ e ∈ d.entries, ∃ j, read j = .ok e.2 := by
  cases j with
  | object fields =>
    obtain ⟨entries, hentries, rfl⟩ := (map_eq_ok_iff _ _ _).mp h
    exact fun e he => exists_of_readEntries hentries e (Dict.mem_of_mem_ofList he)
  | _ => cases h

theorem readItems_map {read : Reader α} {write : α → Json} {items : List α}
    (h : ∀ a ∈ items, read (write a) = .ok a) :
    readItems read (items.map write) = .ok items := by
  induction items with
  | nil => rfl
  | cons a rest ih =>
    have ha := h a List.mem_cons_self
    have hrest := ih fun b hb => h b (List.mem_cons_of_mem a hb)
    simp only [List.map_cons, readItems, ha, hrest]
    rfl

theorem readEntries_map {read : Reader α} {write : α → Json} {entries : List (String × α)}
    (h : ∀ e ∈ entries, read (write e.2) = .ok e.2) :
    readEntries read (entries.map fun e => (e.1, write e.2)) = .ok entries := by
  induction entries with
  | nil => rfl
  | cons e rest ih =>
    have he := h e List.mem_cons_self
    have hrest := ih fun b hb => h b (List.mem_cons_of_mem e hb)
    simp only [List.map_cons, readEntries, he, hrest]
    rfl

theorem readDict_map {read : Reader α} {write : α → Json} {d : Dict α}
    (h : ∀ e ∈ d.entries, read (write e.2) = .ok e.2) :
    readDict read (.object (d.entries.map fun e => (e.1, write e.2))) = .ok d := by
  simp only [readDict, readEntries_map h, map_ok, Dict.ofList_entries]

theorem faithful_string (s : String) : Faithful readString .string s := ⟨rfl, by simp⟩

theorem faithful_bool (b : Bool) : Faithful readBool .bool b := ⟨rfl, by simp⟩

theorem faithful_int_iff (least greatest n : Int) :
    Faithful (readWithin least greatest) .int n ↔ least ≤ n ∧ n ≤ greatest := by
  constructor
  · intro h
    exact ((readWithin_eq_ok_iff _ _ _ _).mp h.read_write).2
  · intro h
    exact ⟨(readWithin_eq_ok_iff _ _ _ _).mpr ⟨rfl, h⟩, by simp [int]⟩

theorem faithful_list {read : Reader α} {write : α → Json} {items : List α}
    (h : ∀ a ∈ items, Faithful read write a) : Faithful (readList read) (ofList write) items :=
  ⟨readItems_map fun a ha => (h a ha).read_write, by simp [ofList]⟩

theorem faithful_strings (items : List String) : Faithful (readList readString) strings items :=
  ⟨readItems_map fun _ _ => rfl, by simp [strings]⟩

theorem faithful_dict (d : Dict String) : Faithful (readDict readString) ofDict d :=
  ⟨readDict_map fun _ _ => rfl, by simp [ofDict]⟩

theorem faithful_instant {t : Instant} (ht : t.Proper) : Faithful Instant.read Instant.toJson t :=
  ⟨Instant.read_toJson ht, by simp [Instant.toJson]⟩

@[simp] theorem valueOf?_string (s empty : String) (absent : Option String) :
    Fields.valueOf? (fun j => (·.getD empty) <$> readOption readString j) absent
      (some (string s)) = some s :=
  (faithful_string s).valueOf?_orEmpty empty absent

@[simp] theorem valueOf?_string_optional (o : Option String) :
    Fields.valueOf? (readOption readString) (some none) (o.map string) = some o :=
  valueOf?_optional fun s _ => faithful_string s

@[simp] theorem valueOf?_bool_optional (o : Option Bool) :
    Fields.valueOf? (readOption readBool) (some none) (o.map bool) = some o :=
  valueOf?_optional fun b _ => faithful_bool b

@[simp] theorem valueOf?_strings_optional (o : Option (List String)) :
    Fields.valueOf? (readOption (readList readString)) (some none) (o.map strings) = some o :=
  valueOf?_optional fun items _ => faithful_strings items

@[simp] theorem valueOf?_dict_optional (o : Option (Dict String)) :
    Fields.valueOf? (readOption (readDict readString)) (some none) (o.map ofDict) = some o :=
  valueOf?_optional fun d _ => faithful_dict d

-- All that is read has the property.
def Ensures (read : Reader α) (P : α → Prop) : Prop := ∀ j a, read j = .ok a → P a

section

variable {read : Reader α} {P : α → Prop} {found : Option Json}

theorem Ensures.list (h : Ensures read P) : Ensures (readList read) fun as => ∀ a ∈ as, P a := by
  intro j items hitems a ha
  obtain ⟨i, hi⟩ := exists_of_readList hitems a ha
  exact h i a hi

theorem Ensures.optional (h : Ensures read P) {o : Option α}
    (hfound : Fields.valueOf? (readOption read) (some none) found = some o) : ∀ a ∈ o, P a := by
  intro a ha
  obtain ⟨j, hj⟩ := exists_of_valueOf?_optional hfound a ha
  exact h j a hj

theorem Ensures.required (h : Ensures read P) {a : α}
    (hfound : Fields.valueOf? read none found = some a) : P a := by
  obtain ⟨j, hj⟩ := exists_of_valueOf?_required hfound
  exact h j a hj

theorem Ensures.orDefault (h : Ensures read P) {default a : α} (hdefault : P default)
    (hfound : Fields.valueOf? read (some default) found = some a) : P a := by
  rcases exists_of_valueOf?_orDefault hfound with rfl | ⟨j, hj⟩
  · exact hdefault
  · exact h j a hj

theorem Ensures.orEmpty (h : Ensures read P) {empty a : α} (hempty : P empty)
    (hfound : Fields.valueOf? (fun j => (·.getD empty) <$> readOption read j) (some empty) found =
      some a) : P a := by
  rcases exists_of_valueOf?_orEmpty hfound with rfl | ⟨j, hj⟩
  · exact hempty
  · exact h j a hj

end

-- All that is read is faithful.
def Lossless (read : Reader α) (write : α → Json) : Prop := Ensures read (Faithful read write)

theorem lossless_of_forall {read : Reader α} {write : α → Json}
    (h : ∀ a, Faithful read write a) : Lossless read write :=
  fun _ a _ => h a

theorem lossless_int (least greatest : Int) : Lossless (readWithin least greatest) .int :=
  fun _ n h => (faithful_int_iff least greatest n).mpr ((readWithin_eq_ok_iff _ _ _ _).mp h).2

theorem faithful_nat_iff (greatest n : Nat) :
    Faithful (fun j => Int.toNat <$> readWithin 0 greatest j) .nat n ↔ n ≤ greatest := by
  have hread := readWithin_eq_ok_iff 0 greatest (.int n)
  constructor
  · intro h
    obtain ⟨m, hm, hmn⟩ := (map_eq_ok_iff _ _ _).mp h.read_write
    have hbounds := (readWithin_eq_ok_iff _ _ _ _).mp hm
    omega
  · intro h
    have hok := (hread n).mpr ⟨rfl, by omega, by omega⟩
    refine ⟨?_, by simp [nat, int]⟩
    rw [nat, hok, map_ok, Int.toNat_natCast]

theorem lossless_nat (greatest : Nat) :
    Lossless (fun j => Int.toNat <$> readWithin 0 greatest j) .nat := by
  intro j n h
  obtain ⟨m, hm, rfl⟩ := (map_eq_ok_iff _ _ _).mp h
  have hbounds := (readWithin_eq_ok_iff _ _ _ _).mp hm
  exact (faithful_nat_iff greatest _).mpr (by omega)

theorem lossless_nat16 : Lossless readNat16 .nat := lossless_nat 65535

theorem lossless_instant : Lossless Instant.read Instant.toJson :=
  fun _ _ h => faithful_instant (Instant.proper_of_read h)

end GatewayOperator.Json
