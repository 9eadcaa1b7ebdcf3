import GatewayOperator.Proofs.Children.WellFormed
import GatewayOperator.Store.Memory

namespace GatewayOperator

namespace Kind

def WellFormed : (k : Kind) → k.Object → Prop
  | gateway => Gateway.WellFormed
  | configMap => ConfigMap.WellFormed
  | deployment => Deployment.WellFormed
  | service => Service.WellFormed

theorem read_toJson {k : Kind} {object : k.Object} (h : k.WellFormed object) :
    k.read (k.toJson object) = .ok object := by
  cases k with
  | gateway => exact (Gateway.WellFormed.faithful h).read_write
  | configMap => exact (ConfigMap.WellFormed.faithful h).read_write
  | deployment => exact (Deployment.WellFormed.faithful h).read_write
  | service => exact (Service.WellFormed.faithful h).read_write

theorem ensures_wellFormed (k : Kind) : Json.Ensures k.read k.WellFormed := by
  cases k with
  | gateway => exact Gateway.ensures_wellFormed
  | configMap => exact ConfigMap.ensures_wellFormed
  | deployment => exact Deployment.ensures_wellFormed
  | service => exact Service.ensures_wellFormed

end Kind

namespace MemoryStore

theorem lookup_cons_eq (k other : ObjectKey) (d : Json) (rest : List (ObjectKey × Json)) :
    ((k, d) :: rest).lookup other = if other = k then some d else rest.lookup other := by
  by_cases h : other = k
  · simp [h]
  · have hbeq : (other == k) = false := beq_false_of_ne h
    simp [List.lookup_cons, hbeq, h]

theorem lookup_putEntry (key other : ObjectKey) (document : Json)
    (entries : List (ObjectKey × Json)) :
    (putEntry key document entries).lookup other =
      if other = key then some document else entries.lookup other := by
  induction entries with
  | nil => exact lookup_cons_eq key other document []
  | cons head rest ih =>
    obtain ⟨k, d⟩ := head
    simp only [putEntry]
    split
    next hk =>
      subst hk
      by_cases h : other = k <;> simp [lookup_cons_eq, h]
    next hk =>
      by_cases h : other = k
      · subst h
        simp [hk]
      · simp [lookup_cons_eq, h, ih]

@[simp] theorem find?_put_self (s : MemoryStore) (key : ObjectKey) (document : Json) :
    (s.put key document).find? key = some document := by
  simp [find?, put, lookup_putEntry]

theorem find?_put_of_ne (s : MemoryStore) {key other : ObjectKey} (h : other ≠ key)
    (document : Json) : (s.put key document).find? other = s.find? other := by
  simp [find?, put, lookup_putEntry, h]

@[simp] theorem find?_record (s : MemoryStore) (write : Write) (key : ObjectKey) :
    (s.record write).find? key = s.find? key := rfl

theorem object?_congr {s t : MemoryStore} {kind : Kind} {ns name : String}
    (h : t.find? ⟨kind, ns, name⟩ = s.find? ⟨kind, ns, name⟩) :
    t.object? kind ns name = s.object? kind ns name := by
  simp only [object?, h]

theorem object?_of_find?_eq_none {s : MemoryStore} {kind : Kind} {ns name : String}
    (h : s.find? ⟨kind, ns, name⟩ = none) : s.object? kind ns name = some none := by
  simp only [object?, h]

theorem object?_of_find?_toJson {s : MemoryStore} {kind : Kind} {ns name : String}
    {object : kind.Object} (hobject : kind.WellFormed object)
    (h : s.find? ⟨kind, ns, name⟩ = some (kind.toJson object)) :
    s.object? kind ns name = some (some object) := by
  simp only [object?, h, Kind.read_toJson hobject]

theorem wellFormed_of_object? {s : MemoryStore} {kind : Kind} {ns name : String}
    {object : kind.Object} (h : s.object? kind ns name = some (some object)) :
    kind.WellFormed object := by
  unfold object? at h
  split at h
  · cases h
  next document hfind =>
    split at h
    next read hread =>
      cases h
      exact kind.ensures_wellFormed document object hread
    next => cases h

theorem injected?_congr {s t : MemoryStore} (h : t.failing = s.failing) (kind : Kind)
    (op : Operation) : t.injected? kind op = s.injected? kind op := by
  simp only [injected?, h]

theorem injected?_of_failing_eq_nil {s : MemoryStore} (h : s.failing = []) (kind : Kind)
    (op : Operation) : s.injected? kind op = none := by
  simp [injected?, h]

-- The store is left alone, or an object is put under the key that the call names, or the stored
-- gateway gets a status.
inductive Becomes (s : MemoryStore) : Call → MemoryStore → Prop where
  | same (c : Call) : Becomes s c s
  | created (kind : Kind) (ns : String) (object : kind.Object) :
      Becomes s (.create kind ns object)
        ((s.put ⟨kind, ns, kind.nameOf object⟩ (kind.toJson object)).record
          ⟨kind, .create, kind.nameOf object⟩)
  | replaced (kind : Kind) (ns : String) (object : kind.Object) :
      Becomes s (.replace kind ns object)
        ((s.put ⟨kind, ns, kind.nameOf object⟩ (kind.toJson object)).record
          ⟨kind, .replace, kind.nameOf object⟩)
  | restated {g stored : Gateway} (status : GatewayStatus)
      (hstored : s.object? .gateway (g.metadata.ns.getD "") g.name = some (some stored)) :
      Becomes s (.putStatus g status)
        ({ s.insert .gateway { stored with status := some status } with
            statuses := s.statuses ++ [status] }.record ⟨.gateway, .status, g.name⟩)

theorem becomes_handle (c : Call) (s : MemoryStore) : s.Becomes c (handle c s).2 := by
  cases c with
  | get kind ns name =>
    simp only [handle]
    split <;> exact .same _
  | listClasses => exact .same _
  | create kind ns object =>
    simp only [handle, create]
    split
    · exact .same _
    · split
      · exact .same _
      · exact .created kind ns object
  | replace kind ns object =>
    simp only [handle, replace]
    split
    · exact .same _
    · exact .replaced kind ns object
  | putStatus g status =>
    simp only [handle, putStatus]
    split
    · exact .same _
    · split
      next stored hstored => exact .restated status hstored
      next => exact .same _

-- Every document can be read as an object of its kind, and stands under the namespace and the
-- name of that object.
def WellKeyed (s : MemoryStore) : Prop :=
  ∀ key document, s.find? key = some document →
    ∃ object, key.kind.read document = .ok object ∧ ObjectKey.of key.kind object = key

theorem wellKeyed_empty : ({} : MemoryStore).WellKeyed := by
  intro key document h
  cases h

theorem WellKeyed.put {s : MemoryStore} (hs : s.WellKeyed) {kind : Kind} {object : kind.Object}
    (hobject : kind.WellFormed object) :
    (s.put (.of kind object) (kind.toJson object)).WellKeyed := by
  intro key document h
  by_cases hkey : key = .of kind object
  · subst hkey
    rw [find?_put_self] at h
    cases h
    exact ⟨object, Kind.read_toJson hobject, rfl⟩
  · rw [find?_put_of_ne s hkey] at h
    exact hs key document h

-- In such a store a get has an answer, and what it finds is what was asked for.
theorem WellKeyed.object?_cases {s : MemoryStore} (hs : s.WellKeyed) (kind : Kind)
    (ns name : String) :
    (s.find? ⟨kind, ns, name⟩ = none ∧ s.object? kind ns name = some none) ∨
      ∃ object, s.object? kind ns name = some (some object) ∧ kind.WellFormed object ∧
        ObjectKey.of kind object = ⟨kind, ns, name⟩ := by
  cases hfind : s.find? ⟨kind, ns, name⟩ with
  | none => exact .inl ⟨rfl, object?_of_find?_eq_none hfind⟩
  | some document =>
    obtain ⟨object, hread, hkey⟩ := hs _ document hfind
    refine .inr ⟨object, ?_, kind.ensures_wellFormed document object hread, hkey⟩
    simp only [object?, hfind, hread]

theorem WellKeyed.of_object? {s : MemoryStore} (hs : s.WellKeyed) {kind : Kind}
    {ns name : String} {object : kind.Object} (h : s.object? kind ns name = some (some object)) :
    kind.WellFormed object ∧ ObjectKey.of kind object = ⟨kind, ns, name⟩ := by
  rcases hs.object?_cases kind ns name with ⟨-, habsent⟩ | ⟨found, hfound, hwell, hkey⟩
  · cases habsent.symm.trans h
  · cases hfound.symm.trans h
    exact ⟨hwell, hkey⟩

end MemoryStore

end GatewayOperator
