import GatewayOperator.Kubernetes.Condition
import Mathlib.Data.List.Infix
import Mathlib.Data.List.Nodup

namespace GatewayOperator

def Condition.untimed (c : Condition) : Condition := { c with lastTransition := default }

theorem Condition.sameUpToTime_iff (a b : Condition) :
    a.sameUpToTime b = true ↔ a.untimed = b.untimed := by
  cases a
  cases b
  simp [sameUpToTime, untimed, and_assoc]

namespace Conditions

theorem sameUpToTime_iff (a b : List Condition) :
    sameUpToTime a b = true ↔ a.map Condition.untimed = b.map Condition.untimed := by
  induction a generalizing b with
  | nil => cases b <;> simp [sameUpToTime]
  | cons c rest ih =>
    cases b with
    | nil => simp [sameUpToTime]
    | cons d more => simp [sameUpToTime, Condition.sameUpToTime_iff, ih]

-- How a new condition comes into a list: in the place of the first one of its type, or at the end
-- if there is none.
inductive Placed (new : Condition) : (before after : List Condition) → Prop where
  | inPlace {front back : List Condition} {old : Condition} (htype : old.type = new.type)
      (hfirst : ∀ c ∈ front, c.type ≠ new.type) :
      Placed new (front ++ old :: back) (front ++ new :: back)
  | atEnd {conditions : List Condition} (habsent : ∀ c ∈ conditions, c.type ≠ new.type) :
      Placed new conditions (conditions ++ [new])

theorem Placed.cons {new c : Condition} {before after : List Condition} (hc : c.type ≠ new.type)
    (h : Placed new before after) : Placed new (c :: before) (c :: after) := by
  cases h with
  | @inPlace front back old htype hfirst =>
    rw [← List.cons_append, ← List.cons_append]
    exact .inPlace htype (List.forall_mem_cons.mpr ⟨hc, hfirst⟩)
  | atEnd habsent => exact .atEnd (List.forall_mem_cons.mpr ⟨hc, habsent⟩)

theorem placed_set (conditions : List Condition) (new : Condition) :
    Placed new conditions (set conditions new) := by
  induction conditions with
  | nil => exact .atEnd (by simp)
  | cons c rest ih =>
    by_cases h : c.type = new.type
    · simpa [set, h] using @Placed.inPlace new [] rest c h (by simp)
    · simpa [set, h] using ih.cons h

theorem find?_set_self (conditions : List Condition) (new : Condition) :
    find? (set conditions new) new.type = some new := by
  induction conditions with
  | nil => simp [set, find?]
  | cons c rest ih =>
    by_cases h : c.type = new.type
    · simp [set, find?, h]
    · simpa [set, find?, h] using ih

theorem find?_set_of_ne (conditions : List Condition) {new : Condition} {type : String}
    (h : new.type ≠ type) : find? (set conditions new) type = find? conditions type := by
  induction conditions with
  | nil => simp [set, find?, h]
  | cons c rest ih =>
    by_cases hc : c.type = new.type
    · simp [set, find?, hc, h]
    · by_cases ht : c.type = type
      · simp [set, find?, ht, Ne.symm h]
      · simpa [set, find?, hc, ht] using ih

-- Setting a condition that is there already changes nothing.
theorem set_eq_self {conditions : List Condition} {c : Condition}
    (h : find? conditions c.type = some c) : set conditions c = conditions := by
  induction conditions with
  | nil => cases h
  | cons d rest ih =>
    by_cases hd : d.type = c.type
    · simp only [find?, List.find?_cons, hd, decide_true] at h
      cases h
      simp [set]
    · have hrest : find? rest c.type = some c := by simpa [find?, hd] using h
      simp [set, hd, ih hrest]

theorem map_untimed_set (conditions : List Condition) (new : Condition) :
    (set conditions new).map Condition.untimed =
      set (conditions.map Condition.untimed) new.untimed := by
  induction conditions with
  | nil => rfl
  | cons c rest ih =>
    by_cases h : c.type = new.type
    · simp [set, h, Condition.untimed]
    · have h' : c.untimed.type ≠ new.untimed.type := h
      simp [set, h, h', ih]

theorem find?_map_untimed (conditions : List Condition) (type : String) :
    find? (conditions.map Condition.untimed) type =
      (find? conditions type).map Condition.untimed := by
  simp only [find?, List.find?_map]
  rfl

theorem mem_of_mem_set {conditions : List Condition} {new c : Condition}
    (h : c ∈ set conditions new) : c = new ∨ c ∈ conditions := by
  induction conditions with
  | nil => exact .inl (List.mem_singleton.mp h)
  | cons d rest ih =>
    simp only [set] at h
    split at h
    · rcases List.mem_cons.mp h with h | h
      · exact .inl h
      · exact .inr (List.mem_cons_of_mem d h)
    · rcases List.mem_cons.mp h with rfl | h
      · exact .inr List.mem_cons_self
      · exact (ih h).imp id (List.mem_cons_of_mem d)

def types (conditions : List Condition) : List String := conditions.map Condition.type

theorem types_set (conditions : List Condition) (new : Condition) :
    types (set conditions new) = if new.type ∈ types conditions then types conditions
      else types conditions ++ [new.type] := by
  have hplaced := placed_set conditions new
  generalize set conditions new = after at hplaced ⊢
  cases hplaced with
  | @inPlace front back old htype hfirst =>
    have hmem : new.type ∈ types (front ++ old :: back) := by simp [types, htype]
    rw [if_pos hmem]
    simp [types, htype]
  | atEnd habsent =>
    have hnotMem : new.type ∉ types conditions := by simpa [types] using habsent
    rw [if_neg hnotMem]
    simp [types]

-- A condition of another type stays in its place, and so does one behind another of its type.
theorem getElem?_set {conditions : List Condition} {new c : Condition} {i : Nat}
    (hc : conditions[i]? = some c)
    (h : new.type ≠ c.type ∨ c.type ∈ types (conditions.take i)) :
    (set conditions new)[i]? = some c := by
  have hplaced := placed_set conditions new
  generalize set conditions new = after at hplaced ⊢
  cases hplaced with
  | @inPlace front back old htype hfirst =>
    rcases Nat.lt_trichotomy i front.length with hlt | rfl | hgt
    · rw [List.getElem?_append_left hlt] at hc ⊢
      exact hc
    · -- here stands the first condition of the type
      obtain rfl : old = c := by simpa using hc
      rw [List.take_left, types, List.mem_map] at h
      rcases h with hne | ⟨d, hd, hsame⟩
      · exact absurd htype.symm hne
      · exact absurd (hsame.trans htype) (hfirst d hd)
    · obtain ⟨k, rfl⟩ := Nat.exists_eq_add_of_lt hgt
      rw [List.getElem?_append_right (by omega)] at hc ⊢
      simpa [Nat.add_assoc] using hc
  | atEnd habsent =>
    obtain ⟨hi, -⟩ := List.getElem?_eq_some_iff.mp hc
    rw [List.getElem?_append_left hi]
    exact hc

-- The first condition of its type is the one that is found.
theorem find?_eq_some_of_first {conditions : List Condition} {c : Condition} {i : Nat}
    (hc : conditions[i]? = some c) (hfirst : c.type ∉ types (conditions.take i)) :
    find? conditions c.type = some c := by
  obtain ⟨hi, hget⟩ := List.getElem?_eq_some_iff.mp hc
  rw [find?, List.find?_eq_some_iff_getElem]
  refine ⟨decide_eq_true rfl, i, hi, hget, fun j hj => ?_⟩
  have hne : conditions[j].type ≠ c.type := by
    intro heq
    refine hfirst (heq ▸ List.mem_map_of_mem ?_)
    exact List.mem_take_iff_getElem.mpr ⟨j, by omega, rfl⟩
  simp [hne]

theorem types_take (conditions : List Condition) (i : Nat) :
    types (conditions.take i) = (types conditions).take i :=
  List.map_take

-- A list is known by its types in their order, by the condition that is found for each type, and by
-- the conditions that stand behind another one of their type.
theorem ext_of_find? {a b : List Condition} (htypes : types a = types b)
    (hfind : ∀ type, find? a type = find? b type)
    (hbehind : ∀ i c, a[i]? = some c → c.type ∈ types (a.take i) → b[i]? = some c) : a = b := by
  refine List.ext_getElem? fun i => ?_
  have htype : (a[i]?).map Condition.type = (b[i]?).map Condition.type := by
    simpa only [types, List.getElem?_map] using congrArg (·[i]?) htypes
  cases hc : a[i]? with
  | none =>
    rw [hc, Option.map_none, eq_comm, Option.map_eq_none_iff] at htype
    exact htype.symm
  | some c =>
    by_cases hmem : c.type ∈ types (a.take i)
    · exact (hbehind i c hc hmem).symm
    · rw [hc, Option.map_some, eq_comm, Option.map_eq_some_iff] at htype
      obtain ⟨d, hd, hsame⟩ := htype
      have hfirst : d.type ∉ types (b.take i) := by
        rwa [types_take, ← htypes, ← types_take, hsame]
      have hfound := find?_eq_some_of_first hd hfirst
      rw [hsame, ← hfind, find?_eq_some_of_first hc hmem] at hfound
      rw [hd, hfound]

-- What a controller says of a type at some time
structure Notice where
  type : String
  verdict : Verdict
  reason : String
  message : String
  time : Instant

def Notice.condition (n : Notice) : Condition :=
  Conditions.condition n.type n.verdict n.reason n.message n.time

def setAll (conditions : List Condition) (notices : List Notice) : List Condition :=
  notices.foldl (fun conditions n => set conditions n.condition) conditions

-- The last notice of a type
def last? (notices : List Notice) (type : String) : Option Notice :=
  notices.reverse.find? fun n => n.type = type

-- The types that are not known yet, each once, in the order in which they first come
def newTypes (known : List String) (notices : List Notice) : List String :=
  ((notices.map Notice.type).filter fun type => type ∉ known).eraseDups

theorem last?_cons (n : Notice) (rest : List Notice) (type : String) :
    last? (n :: rest) type =
      (last? rest type).or (if n.type = type then some n else none) := by
  rw [last?, List.reverse_cons, List.find?_append, List.find?_singleton, last?]
  simp only [decide_eq_true_eq]

theorem type_of_last? {notices : List Notice} {type : String} {n : Notice}
    (h : last? notices type = some n) : type = n.type := by
  have hfound := List.find?_some h
  exact (of_decide_eq_true hfound).symm

theorem last?_eq_none_iff {notices : List Notice} {type : String} :
    last? notices type = none ↔ ∀ n ∈ notices, n.type ≠ type := by
  simp [last?]

theorem newTypes_cons_of_mem {known : List String} {n : Notice} (h : n.type ∈ known)
    (rest : List Notice) : newTypes known (n :: rest) = newTypes known rest := by
  simp [newTypes, h]

theorem newTypes_cons_of_notMem {known : List String} {n : Notice} (h : n.type ∉ known)
    (rest : List Notice) :
    newTypes known (n :: rest) = n.type :: newTypes (known ++ [n.type]) rest := by
  simp only [newTypes, List.map_cons, List.filter_cons, h, not_false_eq_true, decide_true, if_true,
    List.eraseDups_cons, List.filter_filter]
  congr 3
  funext type
  by_cases htype : type = n.type <;> simp [htype]

theorem nodup_eraseDups (texts : List String) : texts.eraseDups.Nodup := by
  match texts with
  | [] => exact List.nodup_nil
  | t :: rest =>
    rw [List.eraseDups_cons, List.nodup_cons]
    refine ⟨fun hmem => ?_, nodup_eraseDups _⟩
    simp at hmem
termination_by texts.length
decreasing_by exact Nat.lt_succ_of_le (List.length_filter_le _ rest)

theorem nodup_newTypes (known : List String) (notices : List Notice) :
    (newTypes known notices).Nodup :=
  nodup_eraseDups _

theorem notMem_of_mem_newTypes {known : List String} {notices : List Notice} {type : String}
    (h : type ∈ newTypes known notices) : type ∉ known := by
  have hmem := List.mem_filter.mp (List.mem_eraseDups.mp h)
  exact of_decide_eq_true hmem.2

theorem types_setAll (conditions : List Condition) (notices : List Notice) :
    types (setAll conditions notices) =
      types conditions ++ newTypes (types conditions) notices := by
  induction notices generalizing conditions with
  | nil => simp [setAll, newTypes]
  | cons n rest ih =>
    have hstep := types_set conditions n.condition
    have hrest := ih (set conditions n.condition)
    by_cases h : n.type ∈ types conditions
    · have hsame : types (set conditions n.condition) = types conditions := hstep.trans (if_pos h)
      rw [hsame] at hrest
      rw [newTypes_cons_of_mem h, ← hrest]
      rfl
    · have hnew : types (set conditions n.condition) = types conditions ++ [n.type] :=
        hstep.trans (if_neg h)
      rw [hnew, List.append_assoc] at hrest
      rw [newTypes_cons_of_notMem h]
      exact hrest

theorem find?_setAll (conditions : List Condition) (notices : List Notice) (type : String) :
    find? (setAll conditions notices) type =
      ((last? notices type).map Notice.condition).or (find? conditions type) := by
  induction notices generalizing conditions with
  | nil => rfl
  | cons n rest ih =>
    have hrest := ih (set conditions n.condition)
    rw [last?_cons]
    refine hrest.trans ?_
    cases last? rest type with
    | some m => rfl
    | none =>
      by_cases h : n.type = type
      · subst h
        rw [if_pos rfl]
        exact find?_set_self conditions n.condition
      · rw [if_neg h]
        exact find?_set_of_ne conditions h

theorem getElem?_setAll {conditions : List Condition} {notices : List Notice} {c : Condition}
    {i : Nat} (hc : conditions[i]? = some c)
    (h : (∀ n ∈ notices, n.type ≠ c.type) ∨ c.type ∈ types (conditions.take i)) :
    (setAll conditions notices)[i]? = some c := by
  induction notices generalizing conditions with
  | nil => exact hc
  | cons n rest ih =>
    have hstep : (set conditions n.condition)[i]? = some c :=
      getElem?_set hc (h.imp_left fun hother => hother n List.mem_cons_self)
    refine ih hstep (h.imp (fun hother m hm => hother m (List.mem_cons_of_mem n hm)) fun hmem => ?_)
    have hprefix : types conditions <+: types (set conditions n.condition) := by
      rw [types_set]
      split
      · exact List.prefix_rfl
      · exact List.prefix_append _ _
    rw [types_take] at hmem ⊢
    exact (List.IsPrefix.take hprefix i).subset hmem

theorem notMem_take_of_nodup {texts : List String} {text : String} {i : Nat} (h : texts.Nodup)
    (htext : texts[i]? = some text) : text ∉ texts.take i := by
  obtain ⟨hi, hget⟩ := List.getElem?_eq_some_iff.mp htext
  rw [List.mem_take_iff_getElem]
  rintro ⟨j, hj, hsame⟩
  have hindex : j = i := (h.getElem_inj_iff).mp (hsame.trans hget.symm)
  omega

-- A new type comes once: all that stands behind another condition of its type was there before.
theorem lt_length_of_behind {conditions : List Condition} {notices : List Notice} {c : Condition}
    {i : Nat} (hc : (setAll conditions notices)[i]? = some c)
    (hmem : c.type ∈ types ((setAll conditions notices).take i)) : i < conditions.length := by
  by_contra hlength
  have hbehind : (types conditions).length ≤ i := by simpa [types] using hlength
  have htype : (newTypes (types conditions) notices)[i - (types conditions).length]? =
      some c.type := by
    rw [← List.getElem?_append_right hbehind, ← types_setAll, types, List.getElem?_map, hc]
    rfl
  rw [types_take, types_setAll, List.take_append, List.mem_append] at hmem
  rcases hmem with hknown | hnew
  · exact notMem_of_mem_newTypes (List.mem_of_getElem? htype) (List.mem_of_mem_take hknown)
  · exact notMem_take_of_nodup (nodup_newTypes _ _) htype hnew

theorem getElem?_of_behind {initial : List Condition} {notices : List Notice} {c : Condition}
    {i : Nat} (hc : (setAll initial notices)[i]? = some c)
    (hmem : c.type ∈ types ((setAll initial notices).take i)) :
    initial[i]? = some c ∧ c.type ∈ types (initial.take i) := by
  have hi := lt_length_of_behind hc hmem
  have hlength : i < (types initial).length := by simpa [types] using hi
  have hbehind : c.type ∈ types (initial.take i) := by
    rwa [types_take, types_setAll, List.take_append_of_le_length hlength.le, ← types_take] at hmem
  have htype : (types (setAll initial notices))[i]? = (types initial)[i]? := by
    rw [types_setAll, List.getElem?_append_left hlength]
  simp only [types, List.getElem?_map, hc, List.getElem?_eq_getElem hi, Option.map_some,
    Option.some.injEq] at htype
  have hsame : (setAll initial notices)[i]? = some initial[i] :=
    getElem?_setAll (List.getElem?_eq_getElem hi) (.inr (htype ▸ hbehind))
  rw [hc] at hsame
  exact ⟨(List.getElem?_eq_getElem hi).trans hsame.symm, hbehind⟩

-- The last notices and the order of new types are all that counts.
theorem setAll_congr {initial : List Condition} {notices others : List Notice}
    (hlast : ∀ type, last? notices type = last? others type)
    (hnew : newTypes (types initial) notices = newTypes (types initial) others) :
    setAll initial notices = setAll initial others := by
  have htypes : types (setAll initial notices) = types (setAll initial others) := by
    rw [types_setAll, types_setAll, hnew]
  refine ext_of_find? htypes (fun type => ?_) fun i c hc hbehind => ?_
  · rw [find?_setAll, find?_setAll, hlast]
  · obtain ⟨hinitial, hbefore⟩ := getElem?_of_behind hc hbehind
    exact getElem?_setAll hinitial (.inr hbefore)

-- A list of conditions and the notices of a controller, whatever they are: afterwards the types are
-- the old ones in their order and then, each once, the new ones in the order in which they first
-- came. For a type with notices the last of them is found, and for any other what was found before.
-- All old conditions but the first ones of types with notices are in their places. So the result
-- depends only on the last notice of each type and on the order of the new types.
theorem setAll_refines_map (initial : List Condition) (notices : List Notice) :
    types (setAll initial notices) = types initial ++ newTypes (types initial) notices ∧
    (newTypes (types initial) notices).Nodup ∧
    (∀ type n, last? notices type = some n → find? (setAll initial notices) type =
      some ⟨type, n.verdict.text, n.reason, n.message, n.time, none⟩) ∧
    (∀ type, (∀ n ∈ notices, n.type ≠ type) →
      find? (setAll initial notices) type = find? initial type) ∧
    (∀ (i : Nat) (c : Condition), initial[i]? = some c →
      ((∀ n ∈ notices, n.type ≠ c.type) ∨ c.type ∈ types (initial.take i)) →
      (setAll initial notices)[i]? = some c) ∧
    ∀ others, (∀ type, last? notices type = last? others type) →
      newTypes (types initial) notices = newTypes (types initial) others →
      setAll initial notices = setAll initial others := by
  refine ⟨types_setAll initial notices, nodup_newTypes _ _, fun type n hn => ?_,
    fun type hnone => ?_, fun i c => getElem?_setAll, fun others => setAll_congr⟩
  · obtain rfl := type_of_last? hn
    rw [find?_setAll, hn]
    rfl
  · rw [find?_setAll, last?_eq_none_iff.mpr hnone]
    rfl

-- Conditions of three parties, one of them with a type that is there already
def crowdedConditions : List Condition :=
  [⟨"Ready", "True", "Serving", "all is well", ⟨0, false⟩, some 3⟩,
   ⟨"Synced", "True", "Synced", "", ⟨0, false⟩, none⟩,
   ⟨"Ready", "Unknown", "Probing", "no answer yet", ⟨0, false⟩, none⟩]

def noticeOf (type : String) (verdict : Verdict) (seconds : Int) : Notice :=
  ⟨type, verdict, "Checked", "", ⟨seconds, false⟩⟩

theorem setAll_refines_map_of_crowded :
    setAll crowdedConditions
        [noticeOf "Configured" .false 10, noticeOf "Ready" .false 20,
          noticeOf "Configured" .true 30] =
      setAll crowdedConditions [noticeOf "Configured" .true 30, noticeOf "Ready" .false 20] ∧
    (setAll crowdedConditions [noticeOf "Ready" .false 20])[2]? = crowdedConditions[2]? := by
  obtain ⟨-, -, -, -, -, hcongr⟩ := setAll_refines_map crowdedConditions
    [noticeOf "Configured" .false 10, noticeOf "Ready" .false 20, noticeOf "Configured" .true 30]
  obtain ⟨-, -, -, -, hplace, -⟩ := setAll_refines_map crowdedConditions
    [noticeOf "Ready" .false 20]
  refine ⟨hcongr _ (fun type => ?_) (by decide), hplace 2 _ rfl (.inr (by decide))⟩
  by_cases hready : "Ready" = type
  · subst hready
    rfl
  · by_cases hconfigured : "Configured" = type
    · subst hconfigured
      rfl
    · simp [last?, noticeOf, hready, hconfigured]

end Conditions

end GatewayOperator
