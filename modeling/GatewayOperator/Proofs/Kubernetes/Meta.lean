import GatewayOperator.Proofs.Schema.Carried

namespace GatewayOperator

open Json

theorem OwnerReference.faithful (o : OwnerReference) : Faithful read toJson o :=
  faithful_record rfl (by simp)

namespace ObjectMeta

structure WellFormed (m : ObjectMeta) : Prop where
  carried : Schema.Carries carriedAttributes m.carried

theorem WellFormed.faithful {m : ObjectMeta} (h : m.WellFormed) : Faithful read toJson m := by
  refine faithful_record rfl ?_
  have howners : Fields.valueOf? (readOption (readList OwnerReference.read)) (some none)
      (m.ownerReferences.map (ofList OwnerReference.toJson)) = some m.ownerReferences :=
    valueOf?_optional fun owners _ => faithful_list fun o _ => o.faithful
  simp (disch := decide) [h.carried.get?_insertAll, howners]
  exact ⟨_, h.carried.readFields_insertAll (by decide) (by simp only [List.map]; decide), rfl⟩

theorem ensures_wellFormed : Ensures read WellFormed := by
  intro j m h
  obtain ⟨fields, hfields⟩ := exists_of_readRecord h
  simp only [Gathered.value?_seq, Gathered.value?_map, Option.bind_map, Option.bind_assoc,
    Function.comp_def, Option.bind_eq_some_iff, Option.map_eq_some_iff] at hfields
  obtain ⟨-, -, -, -, -, -, -, -, -, -, -, -, -, -, -, -, carried, hcarried, rfl⟩ := hfields
  exact ⟨Schema.carries_of_read (by decide) hcarried⟩

theorem wellFormed_of_carried_nil {m : ObjectMeta} (h : m.carried = []) : m.WellFormed :=
  ⟨h ▸ Schema.carries_nil (by decide)⟩

end ObjectMeta

namespace LabelSelector

structure WellFormed (s : LabelSelector) : Prop where
  carried : Schema.Carries carriedAttributes s.carried

theorem WellFormed.faithful {s : LabelSelector} (h : s.WellFormed) : Faithful read toJson s := by
  refine faithful_record rfl ?_
  simp (disch := decide) [h.carried.get?_insertAll]
  exact ⟨_, h.carried.readFields_insertAll (by decide) (by simp only [List.map]; decide), rfl⟩

theorem ensures_wellFormed : Ensures read WellFormed := by
  intro j s h
  obtain ⟨fields, hfields⟩ := exists_of_readRecord h
  simp only [Gathered.value?_seq, Gathered.value?_map, Option.bind_map, Function.comp_def,
    Option.bind_eq_some_iff, Option.map_eq_some_iff] at hfields
  obtain ⟨-, -, carried, hcarried, rfl⟩ := hfields
  exact ⟨Schema.carries_of_read (by decide) hcarried⟩

end LabelSelector

@[simp] theorem value?_readTypeTag (apiVersion kind : String) (fields : Fields) :
    (readTypeTag apiVersion kind fields).value? =
      (Fields.valueOf? (fun j => some <$> Schema.read (.exactly apiVersion) j) (some none)
        (fields.get? "apiVersion")).bind fun _ =>
          (Fields.valueOf? (fun j => some <$> Schema.read (.exactly kind) j) (some none)
            (fields.get? "kind")).bind fun _ => some () := by
  simp [readTypeTag, Schema.typeTag, Schema.defaulted, Schema.readFields, Option.bind_map,
    Option.map_bind]

@[simp] theorem valueOf?_exactly (text : String) (absent : Option (Option Json)) :
    Fields.valueOf? (fun j => some <$> Schema.read (.exactly text) j) absent
      (some (.string text)) = some (some (.string text)) := by
  simp [valueOf?_some, Schema.read, Schema.readExactly, Except.toOption]

end GatewayOperator
