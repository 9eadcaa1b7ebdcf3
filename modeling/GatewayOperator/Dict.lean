namespace GatewayOperator

-- The order of keys is the order of their code points, which is also that of their UTF-8 bytes.
structure Dict (β : Type) where
  entries : List (String × β)
  ascending : entries.Pairwise fun a b => a.1 < b.1

namespace Dict

variable {β : Type}

theorem ext_entries {a b : Dict β} (h : a.entries = b.entries) : a = b := by
  cases a; cases b; cases h; rfl

instance [DecidableEq β] : DecidableEq (Dict β) := fun a b =>
  if h : a.entries = b.entries then isTrue (ext_entries h)
  else isFalse fun e => h (e ▸ rfl)

def empty : Dict β := ⟨[], .nil⟩

instance : Inhabited (Dict β) := ⟨empty⟩

-- The value of the first entry with that key.
def valueOf? (key : String) : List (String × β) → Option β
  | [] => none
  | (k, v) :: rest => if k = key then some v else valueOf? key rest

def get? (d : Dict β) (key : String) : Option β := valueOf? key d.entries

def contains (d : Dict β) (key : String) : Bool := (d.get? key).isSome

def isEmpty (d : Dict β) : Bool := d.entries.isEmpty

-- The entry goes to its place in the order, or takes the place of the one with its key.
def insertEntry (key : String) (value : β) : List (String × β) → List (String × β)
  | [] => [(key, value)]
  | (k, v) :: rest =>
    if key < k then (key, value) :: (k, v) :: rest
    else if key = k then (key, value) :: rest
    else (k, v) :: insertEntry key value rest

theorem mem_insertEntry {key : String} {value : β} {l : List (String × β)} {e : String × β}
    (h : e ∈ insertEntry key value l) : e = (key, value) ∨ e ∈ l := by
  induction l with
  | nil => simpa [insertEntry] using h
  | cons head rest ih =>
    obtain ⟨k, v⟩ := head
    simp only [insertEntry] at h
    split at h
    · simpa using h
    · split at h
      · rcases List.mem_cons.1 h with h | h
        · exact .inl h
        · exact .inr (List.mem_cons_of_mem _ h)
      · rcases List.mem_cons.1 h with h | h
        · exact .inr (h ▸ List.mem_cons_self)
        · exact (ih h).imp id (List.mem_cons_of_mem _)

theorem insertEntry_ascending (key : String) (value : β) {l : List (String × β)}
    (h : l.Pairwise fun a b => a.1 < b.1) :
    (insertEntry key value l).Pairwise fun a b => a.1 < b.1 := by
  induction l with
  | nil => simp [insertEntry]
  | cons head rest ih =>
    obtain ⟨k, v⟩ := head
    have hk := List.pairwise_cons.1 h
    simp only [insertEntry]
    split
    next hlt =>
      refine List.pairwise_cons.2 ⟨fun e he => ?_, h⟩
      rcases List.mem_cons.1 he with rfl | he
      · exact hlt
      · exact String.lt_trans hlt (hk.1 e he)
    next hge =>
      split
      next heq => exact List.pairwise_cons.2 ⟨fun e he => heq ▸ hk.1 e he, hk.2⟩
      next hne =>
        have hlt : k < key := by
          by_cases hc : k < key
          · exact hc
          · exact absurd (String.le_antisymm (String.not_lt.1 hc) (String.not_lt.1 hge)) hne
        refine List.pairwise_cons.2 ⟨fun e he => ?_, ih hk.2⟩
        rcases mem_insertEntry he with rfl | he
        · exact hlt
        · exact hk.1 e he

def insert (d : Dict β) (key : String) (value : β) : Dict β :=
  ⟨insertEntry key value d.entries, insertEntry_ascending key value d.ascending⟩

def singleton (key : String) (value : β) : Dict β := empty.insert key value

def ofList (entries : List (String × β)) : Dict β :=
  entries.foldl (fun d e => d.insert e.1 e.2) empty

def erase (d : Dict β) (key : String) : Dict β :=
  ⟨d.entries.filter fun e => e.1 ≠ key, d.ascending.filter _⟩

-- Entries of `source` win; all others stay.
def merge (d source : Dict β) : Dict β :=
  source.entries.foldl (fun d e => d.insert e.1 e.2) d

-- Every entry of `required` stands in `d` with the same value.
def includes [BEq β] (d required : Dict β) : Bool :=
  required.entries.all fun e => d.get? e.1 == some e.2

@[simp] theorem get?_empty (key : String) : (empty : Dict β).get? key = none := rfl

theorem valueOf?_insertEntry (key k : String) (value : β) (l : List (String × β)) :
    valueOf? k (insertEntry key value l) = if key = k then some value else valueOf? k l := by
  induction l with
  | nil => simp [insertEntry, valueOf?]
  | cons head rest ih =>
    obtain ⟨k', v'⟩ := head
    simp only [insertEntry]
    split
    · simp [valueOf?]
    · split
      next heq => by_cases h : key = k <;> simp [valueOf?, h, ← heq]
      next hne =>
        by_cases h : k' = k
        · subst h
          simp [valueOf?, hne]
        · simp [valueOf?, h, ih]

@[simp] theorem get?_insert (d : Dict β) (key k : String) (value : β) :
    (d.insert key value).get? k = if key = k then some value else d.get? k :=
  valueOf?_insertEntry key k value d.entries

end Dict

end GatewayOperator
