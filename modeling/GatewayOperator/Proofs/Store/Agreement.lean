import GatewayOperator.Proofs.Store.Memory
import Mathlib.Data.Set.Basic

namespace GatewayOperator

-- Where the object stands that a call is about; the classes stand under no key.
def Call.key? : Call → Option ObjectKey
  | .get kind ns name => some ⟨kind, ns, name⟩
  | .listClasses => none
  | .create kind ns object => some ⟨kind, ns, kind.nameOf object⟩
  | .replace kind ns object => some ⟨kind, ns, kind.nameOf object⟩
  | .putStatus g _ => some (.of .gateway g)

namespace MemoryStore

-- Two stores that hold the same under the given keys, and have the same classes and failures
structure Agree (keys : Set ObjectKey) (s t : MemoryStore) : Prop where
  failing : t.failing = s.failing
  classes : t.classes = s.classes
  find? : ∀ key ∈ keys, t.find? key = s.find? key

variable {keys more : Set ObjectKey} {s t u : MemoryStore}

theorem Agree.refl (keys : Set ObjectKey) (s : MemoryStore) : Agree keys s s :=
  ⟨rfl, rfl, fun _ _ => rfl⟩

theorem Agree.trans (h : Agree keys s t) (h' : Agree keys t u) : Agree keys s u :=
  ⟨h'.failing.trans h.failing, h'.classes.trans h.classes,
    fun key hkey => (h'.find? key hkey).trans (h.find? key hkey)⟩

theorem Agree.mono (h : Agree keys s t) (hsubset : more ⊆ keys) : Agree more s t :=
  ⟨h.failing, h.classes, fun key hkey => h.find? key (hsubset hkey)⟩

theorem Agree.injected? (h : Agree keys s t) (kind : Kind) (op : Operation) :
    t.injected? kind op = s.injected? kind op :=
  injected?_congr h.failing kind op

theorem Agree.object? (h : Agree keys s t) {kind : Kind} {ns name : String}
    (hkey : ⟨kind, ns, name⟩ ∈ keys) : t.object? kind ns name = s.object? kind ns name :=
  object?_congr (h.find? _ hkey)

theorem Agree.put (h : Agree keys s t) (key : ObjectKey) (document : Json) :
    Agree keys (s.put key document) (t.put key document) := by
  refine ⟨h.failing, h.classes, fun other hother => ?_⟩
  by_cases hsame : other = key
  · subst hsame
    rw [find?_put_self, find?_put_self]
  · rw [find?_put_of_ne t hsame, find?_put_of_ne s hsame, h.find? other hother]

theorem agree_put {key : ObjectKey} (hkey : key ∈ keys) (s : MemoryStore) (document : Json) :
    Agree keysᶜ s (s.put key document) := by
  refine ⟨rfl, rfl, fun other hother => find?_put_of_ne s ?_ document⟩
  rintro rfl
  exact hother hkey

-- What turned `s` into `s'` has turned `t` into `t'` too: the stores agree on the keys again, what
-- was written there is in both logs, and nothing else in `t` has changed.
structure SameWrites (keys : Set ObjectKey) (s s' t t' : MemoryStore) : Prop where
  agree : Agree keys s' t'
  rest : Agree keysᶜ t t'
  log : ∃ entries, s'.log = s.log ++ entries ∧ t'.log = t.log ++ entries

theorem SameWrites.refl (h : Agree keys s t) : SameWrites keys s s t t :=
  ⟨h, .refl _ _, [], (List.append_nil _).symm, (List.append_nil _).symm⟩

theorem SameWrites.trans {s₁ s₂ s₃ t₁ t₂ t₃ : MemoryStore} (h : SameWrites keys s₁ s₂ t₁ t₂)
    (h' : SameWrites keys s₂ s₃ t₂ t₃) : SameWrites keys s₁ s₃ t₁ t₃ := by
  obtain ⟨entries, hs, ht⟩ := h.log
  obtain ⟨more, hs', ht'⟩ := h'.log
  refine ⟨h'.agree, h.rest.trans h'.rest, entries ++ more, ?_, ?_⟩
  · rw [hs', hs, List.append_assoc]
  · rw [ht', ht, List.append_assoc]

theorem sameWrites_put (h : Agree keys s t) {key : ObjectKey} (hkey : key ∈ keys)
    (document : Json) (write : Write) :
    SameWrites keys s ((s.put key document).record write) t
      ((t.put key document).record write) := by
  have hboth := h.put key document
  have hrest := agree_put hkey t document
  exact ⟨⟨hboth.failing, hboth.classes, hboth.find?⟩, ⟨hrest.failing, hrest.classes, hrest.find?⟩,
    [write], rfl, rfl⟩

-- Both stores give the same answer to the call, and both are written alike.
def Alike (keys : Set ObjectKey) (c : Call) (s t : MemoryStore) : Prop :=
  ∃ reply s' t', handle c s = (reply, s') ∧ handle c t = (reply, t') ∧ SameWrites keys s s' t t'

theorem alike_get (h : Agree keys s t) {kind : Kind} {ns name : String}
    (hkey : ⟨kind, ns, name⟩ ∈ keys) : Alike keys (.get kind ns name) s t := by
  cases hfails : s.injected? kind .get with
  | some e =>
    refine ⟨some (.error e), s, t, ?_, ?_, .refl h⟩
    · simp only [handle, hfails]
    · simp only [handle, h.injected?, hfails]
  | none =>
    refine ⟨(s.object? kind ns name).map .ok, s, t, ?_, ?_, .refl h⟩
    · simp only [handle, hfails]
    · simp only [handle, h.injected?, hfails, h.object? hkey]

theorem alike_create (h : Agree keys s t) {kind : Kind} {ns : String} {object : kind.Object}
    (hkey : ⟨kind, ns, kind.nameOf object⟩ ∈ keys) : Alike keys (.create kind ns object) s t := by
  have hfind := h.find? _ hkey
  cases hfails : s.injected? kind .create with
  | some e =>
    refine ⟨some (.error e), s, t, ?_, ?_, .refl h⟩
    · simp only [handle, create, hfails]
    · simp only [handle, create, h.injected?, hfails]
  | none =>
    cases hfound : s.find? ⟨kind, ns, kind.nameOf object⟩ with
    | some document =>
      refine ⟨some (.error (alreadyExists (kind.nameOf object))), s, t, ?_, ?_, .refl h⟩
      · simp only [handle, create, hfails, hfound]
      · simp only [handle, create, h.injected?, hfails, hfind, hfound]
    | none =>
      refine ⟨some (.ok ()), _, _, ?_, ?_,
        sameWrites_put h hkey (kind.toJson object) ⟨kind, .create, kind.nameOf object⟩⟩
      · simp only [handle, create, hfails, hfound]
      · simp only [handle, create, h.injected?, hfails, hfind, hfound]

theorem alike_replace (h : Agree keys s t) {kind : Kind} {ns : String} {object : kind.Object}
    (hkey : ⟨kind, ns, kind.nameOf object⟩ ∈ keys) :
    Alike keys (.replace kind ns object) s t := by
  cases hfails : s.injected? kind .replace with
  | some e =>
    refine ⟨some (.error e), s, t, ?_, ?_, .refl h⟩
    · simp only [handle, replace, hfails]
    · simp only [handle, replace, h.injected?, hfails]
  | none =>
    refine ⟨some (.ok ()), _, _, ?_, ?_,
      sameWrites_put h hkey (kind.toJson object) ⟨kind, .replace, kind.nameOf object⟩⟩
    · simp only [handle, replace, hfails]
    · simp only [handle, replace, h.injected?, hfails]

-- The stored gateway, which gets the status, has to stand under its own key.
theorem alike_putStatus (hs : s.WellKeyed) (h : Agree keys s t) {g : Gateway}
    {status : GatewayStatus} (hkey : .of .gateway g ∈ keys) :
    Alike keys (.putStatus g status) s t := by
  have hobject : t.object? .gateway (g.metadata.ns.getD "") g.name =
      s.object? .gateway (g.metadata.ns.getD "") g.name := h.object? hkey
  cases hfails : s.injected? .gateway .status with
  | some e =>
    refine ⟨some (.error e), s, t, ?_, ?_, .refl h⟩
    · simp only [handle, putStatus, hfails]
    · simp only [handle, putStatus, h.injected?, hfails]
  | none =>
    rcases hs.object?_cases .gateway (g.metadata.ns.getD "") g.name with
      ⟨-, habsent⟩ | ⟨stored, hstored, -, hown⟩
    · refine ⟨none, s, t, ?_, ?_, .refl h⟩
      · simp only [handle, putStatus, hfails, habsent]
      · simp only [handle, putStatus, h.injected?, hfails, hobject, habsent]
    · have hanswer {u : MemoryStore} (hfails : u.injected? .gateway .status = none)
          (hstored : u.object? .gateway (g.metadata.ns.getD "") g.name = some (some stored)) :
          handle (.putStatus g status) u = (some (.ok ()),
            { u.insert .gateway { stored with status := some status } with
              statuses := u.statuses ++ [status] }.record ⟨.gateway, .status, g.name⟩) := by
        simp only [handle, putStatus, hfails, hstored]
        rfl
      have hmem : ObjectKey.of .gateway { stored with status := some status } ∈ keys :=
        hown ▸ hkey
      have hput := sameWrites_put h hmem (Gateway.toJson { stored with status := some status })
        ⟨.gateway, .status, g.name⟩
      refine ⟨_, _, _, hanswer hfails hstored,
        hanswer ((h.injected? _ _).trans hfails) (hobject.trans hstored), ?_⟩
      exact ⟨⟨hput.agree.failing, hput.agree.classes, hput.agree.find?⟩,
        ⟨hput.rest.failing, hput.rest.classes, hput.rest.find?⟩, hput.log⟩

-- Each call is about the object under one key: two stores that agree there give the same answer to
-- it, and nothing else in them changes.
theorem alike_of_agree (hs : s.WellKeyed) (h : Agree keys s t) {c : Call}
    (hkey : ∀ key ∈ c.key?, key ∈ keys) : Alike keys c s t := by
  cases c with
  | get kind ns name => exact alike_get h (hkey _ rfl)
  | listClasses =>
    exact ⟨some (.ok s.classes), s, t, rfl, by simp only [handle, h.classes], .refl h⟩
  | create kind ns object => exact alike_create h (hkey _ rfl)
  | replace kind ns object => exact alike_replace h (hkey _ rfl)
  | putStatus g status => exact alike_putStatus hs h (hkey _ rfl)

end MemoryStore

end GatewayOperator
