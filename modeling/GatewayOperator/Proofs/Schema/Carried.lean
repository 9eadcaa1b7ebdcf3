import GatewayOperator.Proofs.Schema.Canonical

namespace GatewayOperator

open Json

namespace Fields

theorem get?_present_of_not_mem {fields : List (String × Option Json)} {name : String}
    (h : name ∉ fields.map Prod.fst) : get? (present fields) name = none := by
  induction fields with
  | nil => rfl
  | cons head rest ih =>
    obtain ⟨n, v⟩ := head
    simp only [List.map_cons, List.mem_cons, not_or] at h
    rw [get?_present_cons_of_ne (Ne.symm h.1), ih h.2]

end Fields

namespace Schema

variable {attributes : Attributes} {carried : Fields}

-- Fields that are carried along: what a record of these attributes reads of them is all of them.
def Carries (attributes : Attributes) (carried : Fields) : Prop :=
  (readFields attributes carried).value? = some carried

theorem carries_of_read (hs : soundFields attributes = true) {fields : Fields}
    (h : (readFields attributes fields).value? = some carried) : Carries attributes carried :=
  readFields_canonical (nodup_names hs) (settles_of_mem hs) h

theorem carries_nil (h : (attributes.all fun a => a.2.1 = .optional) = true) :
    Carries attributes [] := by
  unfold Carries
  induction attributes with
  | nil => rfl
  | cons head rest ih =>
    obtain ⟨name, presence, s⟩ := head
    simp only [List.all_cons, Bool.and_eq_true, decide_eq_true_eq] at h
    obtain ⟨rfl, hrest⟩ := h
    rw [value?_readFields_cons, ih hrest]
    rfl

theorem Carries.names_subset (h : Carries attributes carried) {name : String}
    (hname : name ∈ carried.map Prod.fst) : name ∈ names attributes :=
  (names_of_readFields h).subset hname

-- A field that is not carried along is found among the others.
theorem Carries.get?_insertAll (h : Carries attributes carried) (fields : Fields) {name : String}
    (hname : name ∉ names attributes) :
    (fields.insertAll carried).get? name = fields.get? name :=
  Fields.get?_insertAll_of_not_mem fields carried fun hc => hname (h.names_subset hc)

-- What is carried along is read next to fields of other names.
theorem Carries.readFields_insertAll (h : Carries attributes carried)
    (hs : soundFields attributes = true) {fields : List (String × Option Json)}
    (hnames : ∀ name ∈ names attributes, name ∉ fields.map Prod.fst) :
    (readFields attributes ((Fields.present fields).insertAll carried)).value? = some carried := by
  have hnodup : (carried.map Prod.fst).Nodup := (names_of_readFields h).nodup (nodup_names hs)
  rw [← h]
  apply value?_readFields_congr
  intro name hname
  rw [Fields.get?_insertAll_of_nodup _ _ _ hnodup,
    Fields.get?_present_of_not_mem (hnames name hname), Option.or_none]

end Schema

end GatewayOperator
