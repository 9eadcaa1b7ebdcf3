import GatewayOperator.Proofs.Json.Values
import GatewayOperator.Schema.Basic

namespace GatewayOperator.Schema

open Json

mutual

-- Whether the empty value of a schema can be read by it
def fillable : Schema → Bool
  | .exactly text => text = ""
  | .instant => false
  | .record _ _ attributes => fillableFields attributes
  | _ => true

def fillableFields : List (String × Presence × Schema) → Bool
  | [] => true
  | (_, presence, s) :: rest =>
    presence.mayLack && (presence ≠ .filled || fillable s) && fillableFields rest

end

def names (attributes : Attributes) : List String := attributes.map Prod.fst

mutual

-- Whether the records of a schema name no field twice and can read what they fill in
def sound : Schema → Bool
  | .list item => sound item
  | .dict item => sound item
  | .record _ _ attributes => soundFields attributes
  | _ => true

def soundFields : List (String × Presence × Schema) → Bool
  | [] => true
  | (name, presence, s) :: rest =>
    !(names rest).contains name && sound s &&
      (presence ≠ .filled && presence ≠ .given || fillable s) && soundFields rest

end

theorem soundFields_cons_iff (name : String) (presence : Presence) (s : Schema)
    (rest : Attributes) :
    soundFields ((name, presence, s) :: rest) = true ↔
      name ∉ names rest ∧ s.sound = true ∧
        (presence = .filled ∨ presence = .given → s.fillable = true) ∧
          soundFields rest = true := by
  cases presence <;> simp [soundFields, and_assoc]

theorem fillableFields_cons_iff (name : String) (presence : Presence) (s : Schema)
    (rest : Attributes) :
    fillableFields ((name, presence, s) :: rest) = true ↔
      presence.mayLack = true ∧ (presence = .filled → s.fillable = true) ∧
        fillableFields rest = true := by
  cases presence <;> simp [fillableFields, and_assoc]

theorem nodup_names {attributes : Attributes} (h : soundFields attributes = true) :
    (names attributes).Nodup := by
  induction attributes with
  | nil => simp [names]
  | cons head rest ih =>
    obtain ⟨name, presence, s⟩ := head
    obtain ⟨hname, -, -, hrest⟩ := (soundFields_cons_iff name presence s rest).mp h
    exact List.nodup_cons.mpr ⟨hname, ih hrest⟩

-- What is read of a field that is there as `found`, or is not there
def readFound (presence : Presence) (s : Schema) (found : Option Json) : Option (Option Json) :=
  match presence with
  | .optional | .nullable => Fields.valueOf? (readOption (read s)) (some none) found
  | .filled =>
    (Fields.valueOf? (fun j => (·.getD (empty s)) <$> readOption (read s) j) (some (empty s))
      found).map some
  | .defaulted => Fields.valueOf? (fun j => some <$> read s j) (some none) found
  | .required => (Fields.valueOf? (read s) none found).map some
  | .given =>
    (Fields.valueOf? (readOption (read s)) none found).map fun v => some (v.getD (empty s))

theorem value?_readFields_cons (name : String) (presence : Presence) (s : Schema)
    (rest : Attributes) (fields : Fields) :
    (readFields ((name, presence, s) :: rest) fields).value? =
      (readFound presence s (fields.get? name)).bind fun v =>
        (readFields rest fields).value?.map fun more => (v.map (name, ·)).toList ++ more := by
  cases presence <;>
    simp [readFields, readFound, Option.bind_map, Option.map_map, Function.comp_def]

theorem value?_readFields_congr {attributes : Attributes} {fields other : Fields}
    (h : ∀ name ∈ names attributes, fields.get? name = other.get? name) :
    (readFields attributes fields).value? = (readFields attributes other).value? := by
  induction attributes with
  | nil => simp [readFields]
  | cons head rest ih =>
    obtain ⟨name, presence, s⟩ := head
    rw [value?_readFields_cons, value?_readFields_cons, h name (by simp [names]),
      ih fun n hn => h n (List.mem_cons_of_mem name hn)]

-- What is read of a record are fields that the schema names, each at most once.
theorem names_of_readFields {attributes : Attributes} {fields out : Fields}
    (h : (readFields attributes fields).value? = some out) :
    (out.map Prod.fst).Sublist (names attributes) := by
  induction attributes generalizing out with
  | nil =>
    simp only [readFields, Gathered.value?_complete, Option.some.injEq] at h
    simp [← h]
  | cons head rest ih =>
    obtain ⟨name, presence, s⟩ := head
    rw [value?_readFields_cons] at h
    obtain ⟨v, -, h⟩ := Option.bind_eq_some_iff.mp h
    obtain ⟨more, hmore, rfl⟩ := Option.map_eq_some_iff.mp h
    cases v with
    | none => exact (ih hmore).cons name
    | some v => exact (ih hmore).cons_cons name

-- The canonical forms of a schema: what its reader gives, and for something never nothing.
def Settles (s : Schema) : Prop :=
  ∀ j canonical, read s j = .ok canonical →
    read s canonical = .ok canonical ∧ (j ≠ .null → canonical ≠ .null)

-- Something that was read reads as itself, also where nothing would do.
theorem Settles.readOption_canonical {s : Schema} (hs : s.Settles) {j : Json} {o : Option Json}
    (h : readOption (read s) j = .ok o) :
    ∀ canonical ∈ o, readOption (read s) canonical = .ok (some canonical) := by
  rintro canonical rfl
  cases j with
  | null => cases h
  | _ =>
    rw [readOption_of_ne_null _ (by simp)] at h
    obtain ⟨x, hx, hxc⟩ := (map_eq_ok_iff _ _ _).mp h
    cases hxc
    have hsettled := hs _ _ hx
    rw [readOption_of_ne_null _ (hsettled.2 (by simp)), hsettled.1, map_ok]

-- An empty value that can be read is read as itself where the empty value stands for nothing.
theorem readFound_empty {presence : Presence} {s : Schema}
    (hpresence : presence = .filled ∨ presence = .given) (h : read s (empty s) = .ok (empty s)) :
    readFound presence s (some (empty s)) = some (some (empty s)) := by
  have hread : ∃ o, readOption (read s) (empty s) = .ok o ∧ o.getD (empty s) = empty s := by
    by_cases hnull : empty s = .null
    · exact ⟨none, by rw [hnull]; rfl, rfl⟩
    · exact ⟨some (empty s), by rw [readOption_of_ne_null _ hnull, h, map_ok], rfl⟩
  obtain ⟨o, ho, hgetD⟩ := hread
  rcases hpresence with rfl | rfl <;>
    simp only [readFound, valueOf?_some, ho, map_ok, hgetD, Except.toOption, Option.map_some]

theorem readFound_settled {presence : Presence} {s : Schema} (hs : s.Settles)
    (hempty : presence = .filled ∨ presence = .given → read s (empty s) = .ok (empty s))
    {found v : Option Json} (h : readFound presence s found = some v) :
    readFound presence s v = some v := by
  cases presence with
  | optional | nullable =>
    cases v with
    | none => rfl
    | some x =>
      cases found with
      | none => cases h
      | some j =>
        have hx := hs.readOption_canonical (exists_of_toOption h) x rfl
        simp only [readFound, valueOf?_some, hx, Except.toOption]
  | filled =>
    obtain ⟨x, hx, rfl⟩ := Option.map_eq_some_iff.mp h
    rcases exists_of_valueOf?_orDefault hx with rfl | ⟨j, hj⟩
    · exact readFound_empty (.inl rfl) (hempty (.inl rfl))
    · obtain ⟨o, ho, rfl⟩ := (map_eq_ok_iff _ _ _).mp hj
      cases o with
      | none => exact readFound_empty (.inl rfl) (hempty (.inl rfl))
      | some y =>
        simp only [readFound, Option.getD_some, valueOf?_some, hs.readOption_canonical ho y rfl,
          map_ok, Except.toOption, Option.map_some]
  | defaulted =>
    cases v with
    | none => rfl
    | some x =>
      rcases exists_of_valueOf?_orDefault h with hx | ⟨j, hj⟩
      · cases hx
      · obtain ⟨y, hy, hyx⟩ := (map_eq_ok_iff _ _ _).mp hj
        cases hyx
        simp only [readFound, valueOf?_some, (hs j x hy).1, map_ok, Except.toOption]
  | required =>
    obtain ⟨x, hx, rfl⟩ := Option.map_eq_some_iff.mp h
    obtain ⟨j, hj⟩ := exists_of_valueOf?_required hx
    simp only [readFound, valueOf?_some, (hs j x hj).1, Except.toOption, Option.map_some]
  | given =>
    obtain ⟨o, ho, rfl⟩ := Option.map_eq_some_iff.mp h
    obtain ⟨j, hj⟩ := exists_of_valueOf?_required ho
    cases o with
    | none => exact readFound_empty (.inr rfl) (hempty (.inr rfl))
    | some y =>
      simp only [readFound, Option.getD_some, valueOf?_some, hs.readOption_canonical hj y rfl,
        Except.toOption, Option.map_some]

-- What is read of a record is what the record reads of it again.
theorem readFields_canonical {attributes : Attributes} (hnames : (names attributes).Nodup)
    (hfields : ∀ name presence s, (name, presence, s) ∈ attributes →
      s.Settles ∧ (presence = .filled ∨ presence = .given → read s (empty s) = .ok (empty s)))
    {fields out : Fields} (h : (readFields attributes fields).value? = some out) :
    (readFields attributes out).value? = some out := by
  induction attributes generalizing out with
  | nil =>
    simp only [readFields, Gathered.value?_complete, Option.some.injEq] at h
    simp [readFields, h]
  | cons head rest ih =>
    obtain ⟨name, presence, s⟩ := head
    obtain ⟨hname, hrest⟩ := List.nodup_cons.mp hnames
    obtain ⟨hsettles, hempty⟩ := hfields name presence s List.mem_cons_self
    rw [value?_readFields_cons] at h
    obtain ⟨v, hv, h⟩ := Option.bind_eq_some_iff.mp h
    obtain ⟨more, hmore, rfl⟩ := Option.map_eq_some_iff.mp h
    have hmore' := ih hrest (fun n p s' hn => hfields n p s' (List.mem_cons_of_mem _ hn)) hmore
    have habsent : Fields.get? more name = none :=
      (Fields.get?_eq_none_iff more name).mpr fun hn =>
        hname ((names_of_readFields hmore).subset hn)
    -- the first field is found in front, and the others do not look at it
    have hfound : Fields.get? ((v.map (name, ·)).toList ++ more) name = v := by
      cases v <;> simp [habsent, Fields.get?_cons]
    have hothers : (readFields rest ((v.map (name, ·)).toList ++ more)).value? =
        (readFields rest more).value? := by
      apply value?_readFields_congr
      intro n hn
      have hne : name ≠ n := fun e => hname (e ▸ hn)
      cases v <;> simp [Fields.get?_cons, hne]
    rw [value?_readFields_cons, hfound, readFound_settled hsettles hempty hv, hothers, hmore']
    rfl

theorem names_emptyFields (attributes : Attributes) :
    ((emptyFields attributes).map Prod.fst).Sublist (names attributes) := by
  induction attributes with
  | nil => simp [emptyFields]
  | cons head rest ih =>
    obtain ⟨name, presence, s⟩ := head
    simp only [emptyFields]
    split
    · exact ih.cons_cons name
    · exact ih.cons name

mutual

theorem read_empty {s : Schema} (hs : s.sound = true) (h : s.fillable = true) :
    read s (empty s) = .ok (empty s) := by
  cases s with
  | exactly text => simp_all [fillable, read, empty, readExactly]
  | instant => cases h
  | record form name attributes =>
    have hfields : (readFields attributes (emptyFields attributes)).value? = some _ :=
      readFields_empty hs h
    cases form <;>
      simp [read, empty, readForm, readStrict, readRecord, readRecordOrList,
        (Gathered.outcome_eq_ok_iff _ _).mpr hfields]
  | _ => rfl

theorem readFields_empty {attributes : Attributes} (hs : soundFields attributes = true)
    (h : fillableFields attributes = true) :
    (readFields attributes (emptyFields attributes)).value? = some (emptyFields attributes) := by
  match attributes with
  | [] => rfl
  | (name, presence, s) :: rest =>
    obtain ⟨hname, hsound, hfill, hrest⟩ := (soundFields_cons_iff name presence s rest).mp hs
    obtain ⟨hlack, hfilled, hmore⟩ := (fillableFields_cons_iff name presence s rest).mp h
    have ih := readFields_empty hrest hmore
    have habsent : Fields.get? (emptyFields rest) name = none :=
      (Fields.get?_eq_none_iff _ name).mpr fun hn => hname ((names_emptyFields rest).subset hn)
    rw [value?_readFields_cons]
    by_cases hp : presence = .filled
    · have hread := readFound_empty (.inl hp) (read_empty hsound (hfilled hp))
      have hothers : (readFields rest (emptyFields ((name, presence, s) :: rest))).value? =
          (readFields rest (emptyFields rest)).value? := by
        apply value?_readFields_congr
        intro n hn
        have hne : name ≠ n := fun e => hname (e ▸ hn)
        simp [emptyFields, hp, Fields.get?_cons, hne]
      rw [hothers, ih]
      simp [emptyFields, hp, Fields.get?_cons, hp ▸ hread]
    · have hnone : readFound presence s none = some none := by
        cases presence <;> simp_all [readFound, Fields.valueOf?, Presence.mayLack]
      simp [emptyFields, hp, habsent, hnone, ih]

end

theorem exists_of_readStrict {α : Type} {attributes : Attributes} {body : Fields → Gathered α}
    {j : Json} {a : α} (h : readStrict attributes body j = .ok a) :
    ∃ fields, (body fields).value? = some a :=
  exists_of_readRecordOrList h

theorem faithful_readStrict {α : Type} {attributes : Attributes} {body : Fields → Gathered α}
    {write : α → Json} {a : α} {fields : Fields} (hwrite : write a = .object fields)
    (h : (body fields).value? = some a) : Faithful (readStrict attributes body) write a :=
  faithful_readRecordOrList hwrite h

theorem exists_of_readForm {form : Form} {attributes : Attributes}
    {body : Fields → Gathered Fields} {j : Json} {out : Fields}
    (h : readForm form attributes body j = .ok out) :
    ∃ fields, (body fields).value? = some out := by
  cases form with
  | strict => exact exists_of_readStrict h
  | plain | whole => exact exists_of_readRecord h

theorem readForm_object (form : Form) (attributes : Attributes) (body : Fields → Gathered Fields)
    (fields : Fields) : readForm form attributes body (.object fields) = (body fields).outcome := by
  cases form <;> rfl

theorem settles_of_lossless {α : Type} {s : Schema} {reader : Reader α} {write : α → Json}
    (hread : ∀ j, read s j = write <$> reader j) (h : Lossless reader write) : s.Settles := by
  intro j canonical hj
  rw [hread] at hj
  obtain ⟨a, ha, rfl⟩ := (map_eq_ok_iff _ _ _).mp hj
  have hfaithful := h j a ha
  exact ⟨by rw [hread, hfaithful.read_write, map_ok], fun _ => hfaithful.write_ne_null⟩

theorem lossless_exactly (text : String) : Lossless (readExactly text) .string := by
  intro j s h
  cases j with
  | string t =>
    simp only [readExactly] at h
    split at h
    · cases h
      exact ⟨by simp [readExactly, *], by simp⟩
    · cases h
  | _ => cases h

theorem settles_intOrString : Settles .intOrString := by
  intro j canonical h
  cases j with
  | string t =>
    cases h
    exact ⟨rfl, by simp⟩
  | _ =>
    obtain ⟨n, hn, rfl⟩ := (map_eq_ok_iff _ _ _).mp h
    have hfaithful := lossless_int _ _ _ n hn
    refine ⟨?_, fun _ => hfaithful.write_ne_null⟩
    simp only [read, int, readIntOrString, readInt32]
    rw [← int, hfaithful.read_write, map_ok]

theorem settles_bytes : Settles .bytes := by
  intro j canonical h
  cases j with
  | null =>
    cases h
    have hsound : (Base64.fault? "").isNone = true := by decide
    exact ⟨by simp only [read, readBytes, hsound, if_true], by simp⟩
  | string t =>
    simp only [read, readBytes] at h
    split at h
    next hfault =>
      cases h
      exact ⟨by simp only [read, readBytes, hfault, if_true], by simp⟩
    · cases h
  | _ => cases h

theorem Settles.list {item : Schema} (h : item.Settles) : Settles (.list item) := by
  refine settles_of_lossless (fun _ => by rw [read]) fun j items hitems => ⟨?_, by simp⟩
  have hread : ∀ a ∈ items, read item (id a) = .ok a := by
    intro a ha
    obtain ⟨j, hj⟩ := exists_of_readList hitems a ha
    exact (h j a hj).1
  simpa only [readList, List.map_id] using readItems_map hread

theorem Settles.dict {item : Schema} (h : item.Settles) : Settles (.dict item) := by
  refine settles_of_lossless (fun _ => by rw [read]) fun j d hd => ⟨?_, by simp⟩
  have hread : ∀ e ∈ d.entries, read item (id e.2) = .ok e.2 := by
    intro e he
    obtain ⟨j, hj⟩ := exists_of_readDict hd e he
    exact (h j e.2 hj).1
  simpa only [id, List.map_id'] using readDict_map hread

mutual

-- The canonical form of a document is its own canonical form, if the schema names no field twice in
-- a record and fills in no value that it would refuse.
theorem settles {s : Schema} (hs : s.sound = true) : s.Settles := by
  match s with
  | .string =>
    exact settles_of_lossless (fun _ => by rw [read]) (lossless_of_forall faithful_string)
  | .exactly text => exact settles_of_lossless (fun _ => by rw [read]) (lossless_exactly text)
  | .boolean =>
    exact settles_of_lossless (fun _ => by rw [read]) (lossless_of_forall faithful_bool)
  | .int32 | .int64 => exact settles_of_lossless (fun _ => by rw [read]; rfl) (lossless_int _ _)
  | .nat16 => exact settles_of_lossless (fun _ => by rw [read]) lossless_nat16
  | .instant => exact settles_of_lossless (fun _ => by rw [read]) lossless_instant
  | .intOrString => exact settles_intOrString
  | .bytes => exact settles_bytes
  | .anything =>
    intro j canonical h
    cases h
    exact ⟨rfl, id⟩
  | .list item => exact (settles (s := item) hs).list
  | .dict item => exact (settles (s := item) hs).dict
  | .record form name attributes =>
    intro j canonical h
    obtain ⟨out, hout, rfl⟩ := (map_eq_ok_iff _ _ _).mp h
    obtain ⟨fields, hfields⟩ := exists_of_readForm hout
    have hsettled := readFields_canonical (nodup_names hs) (settles_of_mem hs) hfields
    exact ⟨by rw [read, readForm_object, (Gathered.outcome_eq_ok_iff _ _).mpr hsettled, map_ok],
      by simp⟩

theorem settles_of_mem {attributes : Attributes} (hs : soundFields attributes = true) :
    ∀ name presence s, (name, presence, s) ∈ attributes →
      s.Settles ∧ (presence = .filled ∨ presence = .given → read s (empty s) = .ok (empty s)) := by
  match attributes with
  | [] => simp
  | (name, presence, s) :: rest =>
    obtain ⟨-, hsound, hfill, hrest⟩ := (soundFields_cons_iff name presence s rest).mp hs
    intro n p t hmem
    rcases List.mem_cons.mp hmem with h | h
    · cases h
      exact ⟨settles hsound, fun hp => read_empty hsound (hfill hp)⟩
    · exact settles_of_mem hrest n p t h

end

end GatewayOperator.Schema
