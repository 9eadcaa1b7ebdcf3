import GatewayOperator.Text.Numeral
import Mathlib.Data.List.Basic

namespace GatewayOperator

namespace Numeral

-- What is left of a text behind its plus sign, if it starts with one
def unsigned (s : String) : List Char :=
  match s.toList with
  | '+' :: digits => digits
  | digits => digits

-- One or more digits, with a plus sign in front if one likes, and the number they stand for
structure Denotes (s : String) (n : Nat) : Prop where
  nonempty : unsigned s ≠ []
  digits : ∀ c ∈ unsigned s, c.isDigit
  value : Nat.ofDigitChars 10 (unsigned s) 0 = n

instance (s : String) (n : Nat) : Decidable (Denotes s n) :=
  decidable_of_iff
    (unsigned s ≠ [] ∧ (unsigned s).all Char.isDigit ∧ Nat.ofDigitChars 10 (unsigned s) 0 = n)
    ⟨fun h => ⟨h.1, List.all_eq_true.mp h.2.1, h.2.2⟩,
      fun h => ⟨h.nonempty, List.all_eq_true.mpr h.digits, h.value⟩⟩

-- Digits are read on from the number `n` up to some character that cannot go on: it is no digit, or
-- it is one and the number with it is above the limit.
def Stops (limit n : Nat) (digits : List Char) (fault : Fault) : Prop :=
  ∃ front c rest, digits = front ++ c :: rest ∧ (∀ d ∈ front, d.isDigit) ∧
    Nat.ofDigitChars 10 front n ≤ limit ∧
    if c.isDigit then limit < Nat.ofDigitChars 10 (front ++ [c]) n ∧ fault = .tooLarge
    else fault = .invalidDigit

-- What is wrong with a text that is no number up to the limit
inductive Unreadable (limit : Nat) (s : String) : Fault → Prop
  | empty (h : s = "") : Unreadable limit s .empty
  | signOnly (h : s = "+") : Unreadable limit s .invalidDigit
  | stops {fault : Fault} (h : Stops limit 0 (unsigned s) fault) : Unreadable limit s fault

theorem digit?_of_isDigit {c : Char} (h : c.isDigit) :
    digit? c = some (c.toNat - '0'.toNat) := if_pos h

theorem digit?_of_not_isDigit {c : Char} (h : c.isDigit = false) : digit? c = none :=
  if_neg (Bool.eq_false_iff.mp h)

-- Reading on never makes a number smaller.
theorem le_ofDigitChars (digits : List Char) (n : Nat) : n ≤ Nat.ofDigitChars 10 digits n := by
  induction digits generalizing n with
  | nil => exact Nat.le_refl n
  | cons c rest ih =>
    rw [Nat.ofDigitChars_cons]
    have hstep := ih (10 * n + (c.toNat - '0'.toNat))
    omega

theorem extend_eq_ok_iff {limit n : Nat} (hn : n ≤ limit) (digits : List Char) (m : Nat) :
    extend limit n digits = .ok m ↔
      (∀ c ∈ digits, c.isDigit) ∧ Nat.ofDigitChars 10 digits n = m ∧ m ≤ limit := by
  induction digits generalizing n with
  | nil =>
    simp only [extend, Nat.ofDigitChars_nil, List.not_mem_nil, false_imp_iff, implies_true,
      true_and, Except.ok.injEq]
    exact ⟨fun h => ⟨h, h ▸ hn⟩, fun h => h.1⟩
  | cons c rest ih =>
    rw [extend, Nat.ofDigitChars_cons, List.forall_mem_cons]
    cases hc : c.isDigit with
    | false => simp [digit?_of_not_isDigit hc]
    | true =>
      simp only [digit?_of_isDigit hc, true_and, Nat.mul_comm n 10]
      split
      next hnext => exact ih hnext
      next hlarge =>
        have hmono := le_ofDigitChars rest (10 * n + (c.toNat - '0'.toNat))
        simp only [reduceCtorEq, false_iff]
        omega

theorem not_stops_nil (limit n : Nat) (fault : Fault) : ¬ Stops limit n [] fault := by
  rintro ⟨front, c, rest, hsplit, -⟩
  simp at hsplit

-- Either the first digit stops the reading, or something behind it does.
theorem stops_cons_iff {limit n : Nat} (hn : n ≤ limit) (c : Char) (rest : List Char)
    (fault : Fault) :
    Stops limit n (c :: rest) fault ↔
      if c.isDigit then
        if 10 * n + (c.toNat - '0'.toNat) ≤ limit then
          Stops limit (10 * n + (c.toNat - '0'.toNat)) rest fault
        else fault = .tooLarge
      else fault = .invalidDigit := by
  constructor
  · rintro ⟨front, d, after, hsplit, hfront, hlimit, hstop⟩
    -- nothing is in front of the character that stops exactly if it is the first one
    cases front with
    | nil =>
      obtain ⟨rfl, rfl⟩ := List.cons.inj hsplit
      split at hstop
      next hc =>
        have hlarge : limit < 10 * n + (c.toNat - '0'.toNat) := hstop.1
        rw [if_pos hc, if_neg (Nat.not_le_of_gt hlarge)]
        exact hstop.2
      next hc => rwa [if_neg hc]
    | cons e front =>
      obtain ⟨rfl, rfl⟩ := List.cons.inj hsplit
      obtain ⟨hc, hfront⟩ := List.forall_mem_cons.mp hfront
      have hnext := Nat.le_trans (le_ofDigitChars front _) hlimit
      rw [if_pos hc, if_pos hnext]
      exact ⟨front, d, after, rfl, hfront, hlimit, hstop⟩
  · intro h
    split at h
    next hc =>
      split at h
      next =>
        obtain ⟨front, d, after, rfl, hfront, hlimit, hstop⟩ := h
        exact ⟨c :: front, d, after, rfl, List.forall_mem_cons.mpr ⟨hc, hfront⟩, hlimit, hstop⟩
      next hlarge =>
        refine ⟨[], c, rest, rfl, List.forall_mem_nil _, hn, ?_⟩
        rw [if_pos hc]
        exact ⟨Nat.lt_of_not_le hlarge, h⟩
    next hc =>
      refine ⟨[], c, rest, rfl, List.forall_mem_nil _, hn, ?_⟩
      rwa [if_neg hc]

theorem extend_eq_error_iff {limit n : Nat} (hn : n ≤ limit) (digits : List Char) (fault : Fault) :
    extend limit n digits = .error fault ↔ Stops limit n digits fault := by
  induction digits generalizing n with
  | nil => simp [extend, not_stops_nil]
  | cons c rest ih =>
    rw [extend, stops_cons_iff hn]
    cases hc : c.isDigit with
    | false => simp [digit?_of_not_isDigit hc, eq_comm]
    | true =>
      simp only [digit?_of_isDigit hc, Nat.mul_comm n 10, if_true]
      split
      next hnext => exact ih hnext
      next => simp [eq_comm]

theorem unsigned_eq_nil_iff (s : String) : unsigned s = [] ↔ s = "" ∨ s = "+" := by
  have hsign : s = "+" ↔ s.toList = ['+'] := String.toList_inj.symm
  have hempty : s = "" ↔ s.toList = [] := String.toList_inj.symm
  rw [hsign, hempty]
  unfold unsigned
  split
  next digits hs => simp [hs]
  next hs =>
    refine (or_iff_left fun h => ?_).symm
    exact hs [] h

theorem parse_of_unsigned_ne {s : String} (h : unsigned s ≠ []) (limit : Nat) :
    parse limit s = extend limit 0 (unsigned s) := by
  unfold unsigned at h ⊢
  unfold parse
  split
  next hs => simp [hs] at h
  next hs => simp [hs] at h
  next digits _ hs => simp [hs]
  next digits _ _ hsign =>
    split
    next digits hs => exact absurd hs (hsign digits)
    next => rfl

theorem parse_eq_ok_iff (limit : Nat) (s : String) (n : Nat) :
    parse limit s = .ok n ↔ Denotes s n ∧ n ≤ limit := by
  by_cases h : unsigned s = []
  · have hnone : ¬ Denotes s n := fun hs => hs.nonempty h
    rcases (unsigned_eq_nil_iff s).mp h with rfl | rfl <;> simp [parse, hnone]
  · rw [parse_of_unsigned_ne h, extend_eq_ok_iff (Nat.zero_le limit)]
    constructor
    · rintro ⟨hdigits, hvalue, hlimit⟩
      exact ⟨⟨h, hdigits, hvalue⟩, hlimit⟩
    · rintro ⟨⟨-, hdigits, hvalue⟩, hlimit⟩
      exact ⟨hdigits, hvalue, hlimit⟩

theorem parse_eq_error_iff (limit : Nat) (s : String) (fault : Fault) :
    parse limit s = .error fault ↔ Unreadable limit s fault := by
  constructor
  · intro h
    by_cases hs : unsigned s = []
    · rcases (unsigned_eq_nil_iff s).mp hs with rfl | rfl
      · obtain rfl : Fault.empty = fault := Except.error.inj h
        exact .empty rfl
      · obtain rfl : Fault.invalidDigit = fault := Except.error.inj h
        exact .signOnly rfl
    · rw [parse_of_unsigned_ne hs, extend_eq_error_iff (Nat.zero_le limit)] at h
      exact .stops h
  · intro h
    cases h with
    | empty h => subst h; rfl
    | signOnly h => subst h; rfl
    | stops h =>
      have hs : unsigned s ≠ [] := fun hnil => not_stops_nil limit 0 fault (hnil ▸ h)
      rwa [parse_of_unsigned_ne hs, extend_eq_error_iff (Nat.zero_le limit)]

end Numeral

end GatewayOperator
