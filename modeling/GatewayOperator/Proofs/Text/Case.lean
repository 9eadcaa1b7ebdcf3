import GatewayOperator.Text.Case
import Mathlib

namespace GatewayOperator

namespace Case

def IsAscii (s : String) : Prop := ∀ c ∈ s.toList, c.toNat < 0x80

instance (s : String) : Decidable (IsAscii s) :=
  decidable_of_iff (s.toList.all fun c => c.toNat < 0x80) (by simp [IsAscii])

-- Equal but for the case of the letters of ASCII.
def EqualUpToCase (a b : String) : Prop :=
  a.toList.map Char.toLower = b.toList.map Char.toLower

instance (a b : String) : Decidable (EqualUpToCase a b) :=
  inferInstanceAs (Decidable (a.toList.map Char.toLower = b.toList.map Char.toLower))

variable {a b : String}

-- All characters of ASCII are looked at.
theorem forall_ascii {P : Char → Prop} (h : ∀ n < 0x80, P (Char.ofNat n)) {c : Char}
    (hc : c.toNat < 0x80) : P c :=
  Char.ofNat_toNat c ▸ h c.toNat hc

theorem toNat_toLower_lt {c : Char} (hc : c.toNat < 0x80) : c.toLower.toNat < 0x80 :=
  forall_ascii (P := fun c => c.toLower.toNat < 0x80) (by decide) hc

-- There is no sigma in ASCII, so that each letter changes for itself.
theorem lowerFrom_of_ascii (before : List Char) {cs : List Char} (h : ∀ c ∈ cs, c.toNat < 0x80) :
    lowerFrom before cs = cs.map Char.toLower := by
  induction cs generalizing before with
  | nil => rfl
  | cons c rest ih =>
    obtain ⟨hc, hrest⟩ := List.forall_mem_cons.mp h
    have hsigma : c ≠ capitalSigma := by
      rintro rfl
      exact absurd hc (by decide)
    simp [lowerFrom, hsigma, lower, hc, ih _ hrest]

theorem toList_lowercase_of_ascii (h : IsAscii a) :
    (lowercase a).toList = a.toList.map Char.toLower := by
  simp [lowercase, lowerFrom_of_ascii [] h]

theorem isAscii_lowercase (h : IsAscii a) : IsAscii (lowercase a) := by
  intro c hc
  rw [toList_lowercase_of_ascii h] at hc
  obtain ⟨d, hd, rfl⟩ := List.mem_map.mp hc
  exact toNat_toLower_lt (h d hd)

theorem toList_uppercase_of_ascii (h : IsAscii a) :
    (uppercase a).toList = a.toList.map Char.toUpper := by
  have hchars : ∀ c ∈ a.toList, upper c = [c.toUpper] := fun c hc => by simp [upper, h c hc]
  rw [uppercase, String.toList_ofList, List.map_eq_flatMap]
  exact List.flatMap_congr hchars

theorem lowercase_eq_iff (ha : IsAscii a) (hb : IsAscii b) :
    lowercase a = lowercase b ↔ EqualUpToCase a b := by
  rw [← String.toList_inj, toList_lowercase_of_ascii ha, toList_lowercase_of_ascii hb]
  rfl

theorem lowercase_lowercase (h : IsAscii a) : lowercase (lowercase a) = lowercase a := by
  rw [← String.toList_inj, toList_lowercase_of_ascii (isAscii_lowercase h),
    toList_lowercase_of_ascii h, List.map_map]
  exact List.map_congr_left fun c _ => c.toLower_toLower_eq_toLower

-- Written in upper case, texts differ as much as in lower case.
theorem equalUpToCase_of_uppercase (ha : IsAscii a) (hb : IsAscii b)
    (h : uppercase a = uppercase b) : EqualUpToCase a b := by
  have hback {s : String} (hs : IsAscii s) :
      (uppercase s).toList.map Char.toLower = s.toList.map Char.toLower := by
    rw [toList_uppercase_of_ascii hs, List.map_map]
    exact List.map_congr_left fun c _ => c.toLower_toUpper_eq_toLower
  rw [EqualUpToCase, ← hback ha, ← hback hb, h]

def slashes (s : String) : Nat := s.toList.count '/'

theorem slashes_append (a b : String) : slashes (a ++ b) = slashes a + slashes b := by
  simp [slashes]

theorem ofNat_ne_slash {n : Nat} (h : n ≠ 0x2f) : Char.ofNat n ≠ '/' := by
  intro heq
  have hcode : (Char.ofNat n).toNat = 0x2f := congrArg Char.toNat heq
  rw [Char.toNat_ofNat] at hcode
  split at hcode
  · exact h hcode
  · cases hcode

-- Where no run leads to a code point, it is reached from itself only.
theorem shifted_ne {runs : List Run} {n target : Nat} (hn : n ≠ target) (htarget : 0 < target)
    (h : ∀ r ∈ runs, target - r.shift < r.first ∨ r.last < target - r.shift) :
    shifted runs n ≠ target := by
  unfold shifted
  split
  next r hfind =>
    have hin := List.find?_some hfind
    have hout := h r (List.mem_of_find?_eq_some hfind)
    simp only [Bool.and_eq_true, decide_eq_true_eq] at hin
    omega
  next => exact hn

theorem count_slash_lower (c : Char) : (lower c).count '/' = [c].count '/' := by
  unfold lower
  split
  next hc =>
    exact forall_ascii (P := fun c => [c.toLower].count '/' = [c].count '/') (by decide) hc
  next hc =>
    have hself : c ≠ '/' := by
      rintro rfl
      exact hc (by decide)
    split
    · simp [hself]
    · have hcode : c.toNat ≠ 0x2f := by omega
      have hruns : shifted lowerRuns c.toNat ≠ 0x2f :=
        shifted_ne hcode (by decide) (by decide +kernel)
      simp [hself, ofNat_ne_slash hruns]

theorem count_slash_upper (c : Char) : (upper c).count '/' = [c].count '/' := by
  unfold upper
  split
  next hc =>
    exact forall_ascii (P := fun c => [c.toUpper].count '/' = [c].count '/') (by decide) hc
  next hc =>
    have hself : c ≠ '/' := by
      rintro rfl
      exact hc (by decide)
    split
    next codes hcodes =>
      obtain ⟨before, after, hsplit, -⟩ := List.lookup_eq_some_iff.mp hcodes
      have hmem : (c.toNat, codes) ∈ upperExpansions := by simp [hsplit]
      have hnone : ∀ e ∈ upperExpansions, 0x2f ∉ e.2 := by decide +kernel
      have hslash : '/' ∉ codes.map Char.ofNat := by
        intro hin
        obtain ⟨n, hn, heq⟩ := List.mem_map.mp hin
        exact ofNat_ne_slash (fun h => hnone _ hmem (h ▸ hn)) heq
      rw [List.count_eq_zero_of_not_mem hslash]
      simp [hself]
    next =>
      have hcode : c.toNat ≠ 0x2f := by omega
      have hruns : shifted upperRuns c.toNat ≠ 0x2f :=
        shifted_ne hcode (by decide) (by decide +kernel)
      simp [hself, ofNat_ne_slash hruns]

theorem slashes_lowercase (s : String) : slashes (lowercase s) = slashes s := by
  have hfrom (before cs : List Char) : (lowerFrom before cs).count '/' = cs.count '/' := by
    induction cs generalizing before with
    | nil => rfl
    | cons c rest ih =>
      have hhead : (if c = capitalSigma then [lowerSigma before rest] else lower c).count '/' =
          [c].count '/' := by
        split
        next hc =>
          subst hc
          unfold lowerSigma
          split <;> rfl
        next => exact count_slash_lower c
      rw [lowerFrom, List.count_append, hhead, ih, ← List.count_append, List.singleton_append]
  simp [slashes, lowercase, hfrom]

theorem slashes_uppercase (s : String) : slashes (uppercase s) = slashes s := by
  have hall (cs : List Char) : (cs.flatMap upper).count '/' = cs.count '/' := by
    induction cs with
    | nil => rfl
    | cons c rest ih =>
      rw [List.flatMap_cons, List.count_append, count_slash_upper, ih, ← List.count_append,
        List.singleton_append]
  simp [slashes, uppercase, hall]

end Case

end GatewayOperator
