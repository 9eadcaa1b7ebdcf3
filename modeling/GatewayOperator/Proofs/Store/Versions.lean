import GatewayOperator.Proofs.Store.Agreement
import GatewayOperator.Store.Faults
import Mathlib.Data.Set.Insert
import Mathlib.Logic.Function.Basic
import Mathlib.Logic.Relation

namespace GatewayOperator

namespace Kind

def version? (k : Kind) (object : k.Object) : Option String := (k.metadata object).resourceVersion

def withVersion : (k : Kind) → k.Object → String → k.Object
  | gateway, g, version => { g with metadata.resourceVersion := some version }
  | configMap, c, version => { c with metadata.resourceVersion := some version }
  | deployment, d, version => { d with metadata.resourceVersion := some version }
  | service, s, version => { s with metadata.resourceVersion := some version }

@[simp] theorem version?_withVersion (k : Kind) (object : k.Object) (version : String) :
    k.version? (k.withVersion object version) = some version := by
  cases k <;> rfl

@[simp] theorem of_withVersion (k : Kind) (object : k.Object) (version : String) :
    ObjectKey.of k (k.withVersion object version) = .of k object := by
  cases k <;> rfl

end Kind

-- Each object stands under its own key, and has one of the versions that were given out so far.
structure VersionedStore where
  objects : (key : ObjectKey) → Option key.kind.Object
  issued : Set String
  keyed : ∀ key object, objects key = some object → .of key.kind object = key
  versioned : ∀ key object, objects key = some object →
    ∃ version ∈ issued, key.kind.version? object = some version

namespace VersionedStore

variable {s t u : VersionedStore} {key : ObjectKey}

def empty : VersionedStore where
  objects _ := none
  issued := ∅
  keyed _ _ h := nomatch h
  versioned _ _ h := nomatch h

-- What stands under one key is replaced, and the versions in use count as given out.
def set (s : VersionedStore) (key : ObjectKey) (value : Option key.kind.Object)
    (issued : Set String) (hissued : s.issued ⊆ issued)
    (hvalue : ∀ object ∈ value, .of key.kind object = key ∧
      ∃ version ∈ issued, key.kind.version? object = some version) : VersionedStore where
  objects := Function.update s.objects key value
  issued := issued
  keyed := by
    intro other object h
    by_cases hother : other = key
    · subst hother
      rw [Function.update_self] at h
      exact (hvalue object h).1
    · rw [Function.update_of_ne hother] at h
      exact s.keyed other object h
  versioned := by
    intro other object h
    by_cases hother : other = key
    · subst hother
      rw [Function.update_self] at h
      exact (hvalue object h).2
    · rw [Function.update_of_ne hother] at h
      obtain ⟨version, hold, hversion⟩ := s.versioned other object h
      exact ⟨version, hissued hold, hversion⟩

def write (s : VersionedStore) (key : ObjectKey) (object : key.kind.Object)
    (hkey : .of key.kind object = key) (version : String) : VersionedStore :=
  s.set key (some (key.kind.withVersion object version)) (insert version s.issued)
    (Set.subset_insert _ _) <| by
      rintro _ ⟨rfl⟩
      exact ⟨by rw [Kind.of_withVersion, hkey], version, Set.mem_insert _ _,
        Kind.version?_withVersion _ _ _⟩

def remove (s : VersionedStore) (key : ObjectKey) : VersionedStore :=
  s.set key none s.issued subset_rfl (by simp)

@[simp] theorem objects_write_self (s : VersionedStore) {object : key.kind.Object}
    (hkey : .of key.kind object = key) (version : String) :
    (s.write key object hkey version).objects key =
      some (key.kind.withVersion object version) :=
  Function.update_self _ _ _

-- Somebody writes an object, new or not, or deletes one.
inductive Change (s : VersionedStore) : VersionedStore → Prop where
  | written (key : ObjectKey) (object : key.kind.Object) (hkey : .of key.kind object = key)
      {version : String} (hfresh : version ∉ s.issued) : Change s (s.write key object hkey version)
  | removed (key : ObjectKey) : Change s (s.remove key)

-- Any number of changes by any number of clients
abbrev Others : VersionedStore → VersionedStore → Prop := Relation.ReflTransGen Change

-- Later an object is what it was, or has a version that was not given out before.
structure Evolves (s t : VersionedStore) : Prop where
  issued : s.issued ⊆ t.issued
  objects : ∀ key object, t.objects key = some object →
    s.objects key = some object ∨ ∀ version ∈ s.issued, key.kind.version? object ≠ some version

theorem Evolves.refl (s : VersionedStore) : Evolves s s := ⟨subset_rfl, fun _ _ => .inl⟩

theorem Evolves.trans (h : Evolves s t) (h' : Evolves t u) : Evolves s u := by
  refine ⟨h.issued.trans h'.issued, fun key object hobject => ?_⟩
  rcases h'.objects key object hobject with hbetween | hnew
  · exact h.objects key object hbetween
  · exact .inr fun version hversion => hnew version (h.issued hversion)

theorem evolves_set {value : Option key.kind.Object} {issued : Set String}
    {hissued : s.issued ⊆ issued}
    {hvalue : ∀ object ∈ value, .of key.kind object = key ∧
      ∃ version ∈ issued, key.kind.version? object = some version}
    (hfresh : ∀ object ∈ value, ∀ version ∈ s.issued, key.kind.version? object ≠ some version) :
    Evolves s (s.set key value issued hissued hvalue) := by
  refine ⟨hissued, fun other object h => ?_⟩
  by_cases hother : other = key
  · subst hother
    simp only [set, Function.update_self] at h
    exact .inr (hfresh object h)
  · simp only [set, Function.update_of_ne hother] at h
    exact .inl h

theorem Change.evolves (h : Change s t) : Evolves s t := by
  cases h with
  | @written key object hkey version hfresh =>
    refine evolves_set ?_
    rintro _ ⟨rfl⟩ old hold hsame
    rw [Kind.version?_withVersion, Option.some.injEq] at hsame
    exact hfresh (hsame ▸ hold)
  | removed key => exact evolves_set (by simp)

theorem Others.evolves (h : Others s t) : Evolves s t := by
  induction h with
  | refl => exact .refl s
  | tail _ hchange ih => exact ih.trans hchange.evolves

-- An object that has the version of an earlier one is the earlier one: nobody has written it since.
theorem Evolves.eq_of_version (h : Evolves s t) {old new : key.kind.Object}
    (hold : s.objects key = some old) (hnew : t.objects key = some new)
    (hversion : key.kind.version? new = key.kind.version? old) : new = old := by
  obtain ⟨version, hissued, hgiven⟩ := s.versioned key old hold
  rcases h.objects key new hnew with hsame | hother
  · exact Option.some.inj (hsame.symm.trans hold)
  · exact absurd (hversion.trans hgiven) (hother version hissued)

-- What a store may answer to a call, and what it is afterwards. Any call may be refused, and then
-- nothing is changed. An object is created only where there is none, and replaced only by one with
-- the version of the stored one.
inductive Answers (s : VersionedStore) : (call : Call) → call.Reply → VersionedStore → Prop where
  | refused {call : Call} {e : ApiError} : Answers s call (call.refuse e) s
  | found {kind : Kind} {ns name : String} :
      Answers s (.get kind ns name) (.ok (s.objects ⟨kind, ns, name⟩)) s
  | listed {classes : List GatewayClass} : Answers s .listClasses (.ok classes) s
  | created {kind : Kind} {ns version : String} {object : kind.Object}
      (hkey : ObjectKey.of kind object = ⟨kind, ns, kind.nameOf object⟩)
      (habsent : s.objects ⟨kind, ns, kind.nameOf object⟩ = none) (hfresh : version ∉ s.issued) :
      Answers s (.create kind ns object) (.ok ())
        (s.write ⟨kind, ns, kind.nameOf object⟩ object hkey version)
  | replaced {kind : Kind} {ns version : String} {object stored : kind.Object}
      (hkey : ObjectKey.of kind object = ⟨kind, ns, kind.nameOf object⟩)
      (hstored : s.objects ⟨kind, ns, kind.nameOf object⟩ = some stored)
      (hversion : kind.version? object = kind.version? stored) (hfresh : version ∉ s.issued) :
      Answers s (.replace kind ns object) (.ok ())
        (s.write ⟨kind, ns, kind.nameOf object⟩ object hkey version)
  -- how the status is put together with the old one is left open
  | recorded {g stored : Gateway} {status : GatewayStatus} {merged : Option GatewayStatus}
      {version : String} (hstored : s.objects (.of .gateway g) = some stored)
      (hfresh : version ∉ s.issued) :
      Answers s (.putStatus g status) (.ok ())
        (s.write (.of .gateway g) { stored with status := merged }
          (s.keyed (.of .gateway g) stored hstored) version)

-- To all others a call is a change like any other, if it is one at all.
theorem Answers.others {call : Call} {reply : call.Reply} (h : Answers s call reply t) :
    Others s t := by
  cases h with
  | refused | found | listed => exact .refl
  | created hkey _ hfresh | replaced hkey _ _ hfresh =>
    exact .single (.written _ _ hkey hfresh)
  | @recorded g stored status merged version hstored hfresh =>
    exact .single (.written (.of .gateway g) { stored with status := merged }
      (s.keyed (.of .gateway g) stored hstored) hfresh)

end VersionedStore

end GatewayOperator
