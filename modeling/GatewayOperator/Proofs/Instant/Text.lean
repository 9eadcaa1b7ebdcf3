import GatewayOperator.Instant.Reading
import GatewayOperator.Proofs.Instant.Calendar
import Mathlib.Algebra.Group.Nat.Defs

namespace GatewayOperator.Instant

-- A point in time that some text stands for: its year is known, and if it is a leap second then
-- it is counted as the last second of its minute.
structure Proper (t : Instant) : Prop where
  known : t.date.isKnown = true
  leap : t.leap = true → t.seconds % 60 = 59

-- A day number gives a date of the calendar, so that only its year can be unknown.
theorem proper_iff {t : Instant} :
    t.Proper ↔ (leastYear ≤ t.date.year ∧ t.date.year ≤ greatestYear) ∧
      (t.leap = true → t.seconds % 60 = 59) := by
  have hvalid : t.date.isValid = true := Date.isValid_ofDays _
  have hknown : t.date.isKnown = true ↔ leastYear ≤ t.date.year ∧ t.date.year ≤ greatestYear := by
    simp only [Date.isKnown, hvalid, Bool.true_and, Bool.and_eq_true, decide_eq_true_eq]
  exact ⟨fun h => ⟨hknown.mp h.known, h.leap⟩, fun h => ⟨hknown.mpr h.1, h.2⟩⟩

theorem proper_epoch : Proper ⟨0, false⟩ := ⟨by decide, by decide⟩

namespace Scan

theorem digitsValue_eq (digits : List Char) :
    digitsValue digits = Nat.ofDigitChars 10 digits 0 := by
  simp only [digitsValue, Nat.ofDigitChars_eq_foldl, Nat.mul_comm]

theorem isDigit_ne_of_not {c d : Char} (hc : c.isDigit = true) (hd : d.isDigit = false) :
    c ≠ d := by
  rintro rfl
  simp [hc] at hd

theorem not_isBlank_of_isDigit {c : Char} (hc : c.isDigit = true) : Text.isBlank c = false := by
  have hrange : 48 ≤ c.toNat ∧ c.toNat ≤ 57 := by
    simpa [Char.isDigit, UInt32.le_iff_toNat_le] using hc
  simp [Text.isBlank, Text.blankRanges]
  omega

end Scan

section Padded

theorem padded_toList (width n : Nat) :
    (padded width n).toList =
      List.replicate (width - (Nat.toDigits 10 n).length) '0' ++ Nat.toDigits 10 n := by
  simp [padded, ← String.length_toList]

theorem isDigit_of_mem_padded {w n : Nat} {c : Char} (hc : c ∈ (padded w n).toList) :
    c.isDigit = true := by
  rw [padded_toList, List.mem_append] at hc
  rcases hc with hc | hc
  · rw [List.eq_of_mem_replicate hc]
    decide
  · exact Nat.isDigit_of_mem_toDigits (by decide) (by decide) hc

theorem digitsValue_padded (width n : Nat) : Scan.digitsValue (padded width n).toList = n := by
  rw [Scan.digitsValue_eq, padded_toList, Nat.ofDigitChars_append, Nat.ofDigitChars_replicate_zero,
    Nat.mul_zero, Nat.ofDigitChars_ten_toDigits]

theorem length_padded {w n : Nat} (hwidth : 0 < w) (hn : n < 10 ^ w) :
    (padded w n).toList.length = w := by
  have hle := (Nat.length_toDigits_le_iff (b := 10) (by decide) hwidth).mpr hn
  rw [padded_toList, List.length_append, List.length_replicate]
  omega

theorem padded_ne_nil (width n : Nat) : (padded width n).toList ≠ [] := by
  rw [padded_toList]
  simp [Nat.toDigits_ne_nil]

theorem exists_padded_eq_cons (width n : Nat) :
    ∃ c digits, (padded width n).toList = c :: digits ∧ c.isDigit = true := by
  obtain ⟨c, digits, h⟩ := List.exists_cons_of_ne_nil (padded_ne_nil width n)
  exact ⟨c, digits, h, isDigit_of_mem_padded (w := width) (n := n) (by rw [h]; simp)⟩

end Padded

namespace Scan

theorem number_of_isDigit (width : Option Nat) {c : Char} {cs digits : List Char}
    (hc : c.isDigit = true)
    (hd : ((c :: cs).take (width.getD (c :: cs).length)).takeWhile Char.isDigit = digits) :
    number width (c :: cs) = .ok (digitsValue digits, (c :: cs).drop digits.length) := by
  subst hd
  simp only [number, hc, if_true]

theorem takeWhile_padded (width n : Nat) :
    (padded width n).toList.takeWhile Char.isDigit = (padded width n).toList := by
  simpa using @List.takeWhile_append_of_pos _ Char.isDigit (padded width n).toList []
    fun _ hc => isDigit_of_mem_padded hc

theorem number_padded {w n : Nat} (hwidth : 0 < w) (hn : n < 10 ^ w) (rest : List Char) :
    number (some w) ((padded w n).toList ++ rest) = .ok (n, rest) := by
  obtain ⟨c, digits, hcons, hc⟩ := exists_padded_eq_cons w n
  have htake : (((padded w n).toList ++ rest).take w).takeWhile Char.isDigit =
      (padded w n).toList := by
    rw [List.take_left' (length_padded hwidth hn), takeWhile_padded]
  rw [hcons, List.cons_append] at htake ⊢
  rw [number_of_isDigit (some w) hc htake, ← hcons, digitsValue_padded, ← List.cons_append,
    ← hcons, List.drop_left]

-- Without a width the number ends where the digits end.
theorem number_padded_of_not_isDigit (width n : Nat) {d : Char} (hd : d.isDigit = false)
    (rest : List Char) :
    number none ((padded width n).toList ++ d :: rest) = .ok (n, d :: rest) := by
  obtain ⟨c, digits, hcons, hc⟩ := exists_padded_eq_cons width n
  have htake : (((padded width n).toList ++ d :: rest).take
      ((none : Option Nat).getD ((padded width n).toList ++ d :: rest).length)).takeWhile
        Char.isDigit = (padded width n).toList := by
    rw [Option.getD_none, List.take_length,
      List.takeWhile_append_of_pos fun _ hc => isDigit_of_mem_padded hc]
    simp [hd]
  rw [hcons, List.cons_append] at htake ⊢
  rw [number_of_isDigit none hc htake, ← hcons, digitsValue_padded, ← List.cons_append, ← hcons,
    List.drop_left]

theorem bind_ok {α β : Type} {m : Scan α} {f : α → Scan β} {a : α} {cs rest : List Char}
    (h : m cs = .ok (a, rest)) : (m >>= f) cs = f a rest := by
  simp only [bind, StateT.bind, Except.bind, h]

theorem bind_eq_ok {α β : Type} {m : Scan α} {f : α → Scan β} {cs : List Char}
    {r : β × List Char} :
    (m >>= f) cs = .ok r ↔ ∃ a rest, m cs = .ok (a, rest) ∧ f a rest = .ok r := by
  simp only [bind, StateT.bind, Except.bind]
  cases h : m cs with
  | error fault => simp
  | ok s =>
    constructor
    · intro hf
      exact ⟨s.1, s.2, rfl, hf⟩
    · rintro ⟨a, rest, heq, hf⟩
      cases heq
      exact hf

theorem blanks_of_not_isBlank {c : Char} (hc : Text.isBlank c = false) (cs : List Char) :
    blanks (c :: cs) = .ok ((), c :: cs) := by
  simp [blanks, hc]

theorem blanks_padded (width n : Nat) (rest : List Char) :
    blanks ((padded width n).toList ++ rest) = .ok ((), (padded width n).toList ++ rest) := by
  obtain ⟨c, digits, hcons, hc⟩ := exists_padded_eq_cons width n
  rw [hcons]
  exact blanks_of_not_isBlank (not_isBlank_of_isDigit hc) _

theorem within_padded {n least greatest : Nat} (hn : n < 100) (hleast : least ≤ n)
    (hgreatest : n ≤ greatest) (rest : List Char) :
    within least greatest ((padded 2 n).toList ++ rest) = .ok (n, rest) := by
  rw [within, bind_ok (blanks_padded 2 n rest), bind_ok (number_padded (by decide) hn rest),
    if_pos ⟨hleast, hgreatest⟩]
  rfl

theorem oneOf_cons {c : Char} {allowed : List Char} (hc : c ∈ allowed) (rest : List Char) :
    oneOf allowed (c :: rest) = .ok (c, rest) := by
  simp only [oneOf, hc, if_true]

theorem mark_cons {c : Char} (hc : Text.isBlank c = false) (rest : List Char) :
    mark c (c :: rest) = .ok ((), rest) := by
  rw [mark, bind_ok (blanks_of_not_isBlank hc rest), bind_ok (oneOf_cons (by simp) rest)]
  rfl

-- The number of a year before its bounds are looked at
def signedNumber : Scan Int := fun cs =>
  match cs with
  | '-' :: rest => (fun n : Nat => -(n : Int)) <$> number none |>.run rest
  | '+' :: rest => (fun n : Nat => (n : Int)) <$> number none |>.run rest
  | cs => (fun n : Nat => (n : Int)) <$> number (some 4) |>.run cs

theorem map_ok {α β : Type} {m : Scan α} {a : α} {cs rest : List Char} (f : α → β)
    (h : m cs = .ok (a, rest)) : (f <$> m).run cs = .ok (f a, rest) := by
  simp only [StateT.run, Functor.map, StateT.map, bind, Except.bind, h, pure, Except.pure]

-- A sign is no digit, so a year without sign is read by the last alternative.
theorem signedNumber_yearText (year : Int) (rest : List Char) :
    signedNumber ((yearText year).toList ++ '-' :: rest) = .ok (year, '-' :: rest) := by
  have hnumber := number_padded_of_not_isDigit 4 year.natAbs (d := '-') (by decide) rest
  unfold yearText
  by_cases h : 0 ≤ year ∧ year ≤ 9999
  · have hyear : ((year.toNat : Nat) : Int) = year := Int.toNat_of_nonneg h.1
    have hshort := number_padded (w := 4) (n := year.toNat) (by decide) (by omega) ('-' :: rest)
    have hmap := map_ok (fun n : Nat => (n : Int)) hshort
    obtain ⟨c, digits, hcons, hc⟩ := exists_padded_eq_cons 4 year.toNat
    rw [if_pos h]
    rw [hyear, hcons, List.cons_append] at hmap
    rw [hcons, List.cons_append]
    unfold signedNumber
    split
    · rename_i heq
      exact absurd (List.cons.inj heq).1 (isDigit_ne_of_not hc (by decide))
    · rename_i heq
      exact absurd (List.cons.inj heq).1 (isDigit_ne_of_not hc (by decide))
    · exact hmap
  · rw [if_neg h, String.toList_append]
    by_cases hneg : year < 0
    · have hyear : -((year.natAbs : Nat) : Int) = year := by omega
      have hmap := map_ok (fun n : Nat => -(n : Int)) hnumber
      rw [hyear] at hmap
      rw [if_pos hneg]
      exact hmap
    · have hyear : ((year.natAbs : Nat) : Int) = year := by omega
      have hmap := map_ok (fun n : Nat => (n : Int)) hnumber
      rw [hyear] at hmap
      rw [if_neg hneg]
      exact hmap

theorem blanks_yearText (year : Int) (rest : List Char) :
    blanks ((yearText year).toList ++ rest) = .ok ((), (yearText year).toList ++ rest) := by
  unfold yearText
  by_cases h : 0 ≤ year ∧ year ≤ 9999
  · rw [if_pos h]
    exact blanks_padded 4 year.toNat rest
  · rw [if_neg h, String.toList_append]
    by_cases hneg : year < 0
    · rw [if_pos hneg]
      exact blanks_of_not_isBlank (by decide) _
    · rw [if_neg hneg]
      exact blanks_of_not_isBlank (by decide) _

theorem year_yearText {year : Int} (hleast : -2147483648 ≤ year) (hgreatest : year ≤ 2147483647)
    (rest : List Char) :
    Scan.year ((yearText year).toList ++ '-' :: rest) = .ok (year, '-' :: rest) := by
  have hdef : Scan.year = (do
      blanks
      let n ← signedNumber
      if -2147483648 ≤ n ∧ n ≤ 2147483647 then return n else fail .outOfRange) := rfl
  rw [hdef, bind_ok (blanks_yearText year ('-' :: rest)),
    bind_ok (signedNumber_yearText year rest), if_pos ⟨hleast, hgreatest⟩]
  rfl

-- Distances from UTC are whole minutes.
theorem distance_emod {cs rest : List Char} {o : Int} (h : distance cs = .ok (o, rest)) :
    o % 60 = 0 := by
  obtain ⟨sign, _, -, h⟩ := bind_eq_ok.mp h
  obtain ⟨⟨a, b⟩, _, -, h⟩ := bind_eq_ok.mp h
  obtain ⟨_, _, -, h⟩ := bind_eq_ok.mp h
  obtain ⟨⟨c, d⟩, _, -, h⟩ := bind_eq_ok.mp h
  dsimp only at h
  by_cases hc : 5 < c
  · rw [if_pos hc] at h
    cases h
  · rw [if_neg hc] at h
    cases h
    split <;> omega

theorem offset_emod {cs rest : List Char} {o : Int} (h : offset cs = .ok (o, rest)) :
    o % 60 = 0 := by
  unfold offset at h
  split at h
  · cases h
  · split at h
    · cases h
      rfl
    · split at h
      · cases h
        rfl
      · exact distance_emod h

end Scan

-- The point in time that has the given parts, as the last step of a scan
def assemble (date : Date) (hour minute second : Nat) (offset : Int) : Scan Instant := do
  if !date.isKnown || secondsPerDay ≤ offset.natAbs then Scan.fail .outOfRange
  let leap := second = 60
  let time := secondsOf hour minute (if leap then 59 else second)
  let t : Instant := ⟨date.toDays * secondsPerDay + time - offset, leap⟩
  if t.date.isKnown then return t else Scan.fail .impossible

theorem scan_eq : scan = (do
    let year ← Scan.year
    Scan.mark '-'
    let month ← Scan.within 1 12
    Scan.mark '-'
    let day ← Scan.within 1 31
    let _ ← Scan.oneOf ['T', 't', ' ']
    let hour ← Scan.within 0 23
    Scan.mark ':'
    let minute ← Scan.within 0 59
    Scan.mark ':'
    let second ← Scan.within 0 60
    Scan.fraction
    Scan.blanks
    let offset ← Scan.offset
    Scan.finish
    assemble ⟨year, month, day⟩ hour minute second offset) := rfl

theorem assemble_eq_ok {date : Date} {hour minute second : Nat} {offset : Int} {t : Instant}
    {cs rest : List Char} :
    assemble date hour minute second offset cs = .ok (t, rest) ↔
      (date.isKnown = true ∧ (offset.natAbs : Int) < secondsPerDay) ∧
        t = ⟨date.toDays * secondsPerDay +
          secondsOf hour minute (if second = 60 then 59 else second) - offset, second = 60⟩ ∧
        t.date.isKnown = true ∧ rest = cs := by
  have hrange : (!date.isKnown || decide (secondsPerDay ≤ offset.natAbs)) = true ↔
      ¬ (date.isKnown = true ∧ (offset.natAbs : Int) < secondsPerDay) := by
    simp only [Bool.or_eq_true, Bool.not_eq_true', decide_eq_true_eq, not_and, Int.not_lt]
    cases date.isKnown <;> simp
  unfold assemble
  simp only [hrange]
  by_cases hfit : date.isKnown = true ∧ (offset.natAbs : Int) < secondsPerDay
  · rw [if_neg (not_not_intro hfit)]
    simp only [hfit, true_and]
    generalize (⟨_, decide (second = 60)⟩ : Instant) = made
    by_cases hmade : made.date.isKnown = true
    · rw [if_pos hmade]
      constructor
      · intro h
        cases h
        exact ⟨rfl, hmade, rfl⟩
      · rintro ⟨rfl, -, rfl⟩
        rfl
    · rw [if_neg hmade]
      constructor
      · intro h
        cases h
      · rintro ⟨rfl, h, -⟩
        exact absurd h hmade
  · rw [if_pos hfit]
    simp only [hfit, false_and, iff_false]
    intro h
    cases h

-- The text up to where a fraction of a second may stand
def secondsText (t : Instant) : List Char :=
  (yearText t.date.year).toList ++ '-' ::
    ((padded 2 t.date.month).toList ++ '-' :: ((padded 2 t.date.day).toList ++ 'T' ::
      ((padded 2 (t.secondOfDay / 3600)).toList ++ ':' ::
        ((padded 2 (t.secondOfDay / 60 % 60)).toList ++ ':' ::
          (padded 2 (t.secondOfDay % 60 + if t.leap then 1 else 0)).toList))))

theorem toText_toList (t : Instant) : t.toText.toList = t.secondsText ++ ['Z'] := by
  simp [toText, secondsText, List.append_assoc]

-- The parts of a point in time give its count of seconds.
theorem seconds_eq (t : Instant) :
    t.date.toDays * secondsPerDay + secondsOf (t.secondOfDay / 3600) (t.secondOfDay / 60 % 60)
      (t.secondOfDay % 60) = t.seconds := by
  have hsecond : ((t.secondOfDay : Nat) : Int) = t.seconds % 86400 :=
    Int.toNat_of_nonneg (Int.emod_nonneg _ (by decide))
  rw [date, Date.toDays_ofDays]
  simp only [secondsOf, secondsPerDay] at hsecond ⊢
  omega

-- The written second is the sixtieth exactly in a leap second.
theorem Proper.written_second {t : Instant} (ht : t.Proper) :
    ((t.secondOfDay % 60 + if t.leap then 1 else 0) = 60 ↔ t.leap = true) ∧
      (if (t.secondOfDay % 60 + if t.leap then 1 else 0) = 60 then 59
        else t.secondOfDay % 60 + if t.leap then 1 else 0) = t.secondOfDay % 60 := by
  by_cases hl : t.leap = true
  · have hlast := ht.leap hl
    have hsecond : ((t.secondOfDay : Nat) : Int) = t.seconds % 86400 :=
      Int.toNat_of_nonneg (Int.emod_nonneg _ (by decide))
    have h59 : t.secondOfDay % 60 = 59 := by omega
    simp [hl, h59]
  · have hminute : t.secondOfDay % 60 ≠ 60 := by omega
    simp [hl, hminute]

-- What is scanned behind the seconds
def scanZone (date : Date) (hour minute second : Nat) : Scan Instant := do
  Scan.fraction
  Scan.blanks
  let offset ← Scan.offset
  Scan.finish
  assemble date hour minute second offset

theorem scan_secondsText {t : Instant} (ht : t.Proper) (more : List Char) :
    scan (t.secondsText ++ more) =
      scanZone t.date (t.secondOfDay / 3600) (t.secondOfDay / 60 % 60)
        (t.secondOfDay % 60 + if t.leap then 1 else 0) more := by
  have hknown := ht.known
  simp only [Date.isKnown, Date.isValid, Bool.and_eq_true, decide_eq_true_eq] at hknown
  obtain ⟨⟨⟨⟨⟨hmonth, hmonth'⟩, hday⟩, hday'⟩, hyear⟩, hyear'⟩ := hknown
  have hdays : t.date.day ≤ 31 := by
    unfold daysInMonth at hday'
    split at hday' <;> split at hday' <;> omega
  have hsecond : t.secondOfDay < 86400 := by
    simp only [secondOfDay, secondsPerDay]
    omega
  simp only [leastYear, greatestYear] at hyear hyear'
  simp only [secondsText, List.append_assoc, List.cons_append]
  rw [scan_eq, Scan.bind_ok (Scan.year_yearText (by omega) (by omega) _),
    Scan.bind_ok (Scan.mark_cons (by decide) _),
    Scan.bind_ok (Scan.within_padded (by omega) hmonth hmonth' _),
    Scan.bind_ok (Scan.mark_cons (by decide) _),
    Scan.bind_ok (Scan.within_padded (by omega) hday hdays _),
    Scan.bind_ok (Scan.oneOf_cons (by decide) _),
    Scan.bind_ok (Scan.within_padded (by omega) (by omega) (by omega) _),
    Scan.bind_ok (Scan.mark_cons (by decide) _),
    Scan.bind_ok (Scan.within_padded (by omega) (by omega) (by omega) _),
    Scan.bind_ok (Scan.mark_cons (by decide) _),
    Scan.bind_ok (Scan.within_padded (by split <;> omega) (by omega) (by split <;> omega) _)]
  rfl

theorem scan_toText {t : Instant} (ht : t.Proper) : scan t.toText.toList = .ok (t, []) := by
  rw [toText_toList, scan_secondsText ht, scanZone,
    Scan.bind_ok (show Scan.fraction ['Z'] = .ok ((), ['Z']) from rfl),
    Scan.bind_ok (Scan.blanks_of_not_isBlank (by decide) []),
    Scan.bind_ok (show Scan.offset ['Z'] = .ok (0, []) from rfl),
    Scan.bind_ok (show Scan.finish [] = .ok ((), []) from rfl), assemble_eq_ok]
  refine ⟨⟨ht.known, by decide⟩, ?_, ht.known, rfl⟩
  obtain ⟨hleap, hwritten⟩ := ht.written_second
  rw [hwritten, Int.sub_zero, seconds_eq t]
  simp only [hleap, Bool.decide_eq_true]

-- A text gives a proper point in time, and the text of that one gives it again.
theorem parse_toText {t : Instant} (ht : t.Proper) : parse t.toText = .ok t := by
  simp only [parse, StateT.run, scan_toText ht, Functor.map, Except.map]

theorem Scan.fraction_of_ne {zone : List Char} (hzone : ∀ c ∈ zone.head?, c ≠ '.') :
    fraction zone = .ok ((), zone) := by
  unfold fraction
  split
  · exact absurd rfl (hzone '.' rfl)
  · rfl

theorem Scan.fraction_digits {digits zone : List Char} (hne : digits ≠ [])
    (hdigits : ∀ c ∈ digits, c.isDigit = true) (hzone : ∀ c ∈ zone.head?, c.isDigit = false) :
    fraction ('.' :: (digits ++ zone)) = .ok ((), zone) := by
  have hstop : zone.takeWhile Char.isDigit = [] ∧ zone.dropWhile Char.isDigit = zone := by
    cases zone with
    | nil => exact ⟨rfl, rfl⟩
    | cons c rest => simp [hzone c rfl]
  have htake : ((digits ++ zone).take 9).takeWhile Char.isDigit = digits.take 9 := by
    rw [← List.take_takeWhile, List.takeWhile_append_of_pos hdigits, hstop.1, List.append_nil]
  have hnumber : number (some 9) (digits ++ zone) =
      .ok (digitsValue (digits.take 9), (digits ++ zone).drop (digits.take 9).length) := by
    obtain ⟨c, rest, rfl⟩ := List.exists_cons_of_ne_nil hne
    exact number_of_isDigit (some 9) (hdigits c List.mem_cons_self) htake
  have hrest : ((digits ++ zone).drop (digits.take 9).length).dropWhile Char.isDigit = zone := by
    rw [List.drop_append_of_le_length (List.length_take_le' 9 digits),
      List.dropWhile_append_of_pos fun d hd => hdigits d (List.mem_of_mem_drop hd), hstop.2]
  simp only [fraction, StateT.run, hnumber, bind, Except.bind, hrest]
  rfl

-- A fraction of a second may stand behind the seconds, and whatever zone follows, it does not
-- count.
theorem parse_fraction {t : Instant} (ht : t.Proper) {whole digits zone : String}
    (hwhole : t.toText = whole ++ "Z") (hne : digits ≠ "")
    (hdigits : ∀ c ∈ digits.toList, c.isDigit = true)
    (hzone : ∀ c ∈ zone.toList.head?, c.isDigit = false ∧ c ≠ '.') :
    parse (whole ++ "." ++ digits ++ zone) = parse (whole ++ zone) := by
  have hsame : whole.toList = t.secondsText := by
    have htext := t.toText_toList
    rw [hwhole, String.toList_append] at htext
    exact List.append_cancel_right htext
  have hfraction := Scan.fraction_digits (by simpa using hne) hdigits fun c hc => (hzone c hc).1
  have hplain := Scan.fraction_of_ne fun c hc => (hzone c hc).2
  have htext : (whole ++ "." ++ digits ++ zone).toList =
      t.secondsText ++ '.' :: (digits.toList ++ zone.toList) := by
    simp [hsame]
  have htext' : (whole ++ zone).toList = t.secondsText ++ zone.toList := by
    simp [hsame]
  rw [parse, parse, htext, htext']
  simp only [StateT.run, scan_secondsText ht, scanZone, Scan.bind_ok hfraction,
    Scan.bind_ok hplain]

theorem proper_of_scan {cs rest : List Char} {t : Instant} (h : scan cs = .ok (t, rest)) :
    t.Proper := by
  rw [scan_eq] at h
  obtain ⟨year, _, -, h⟩ := Scan.bind_eq_ok.mp h
  obtain ⟨_, _, -, h⟩ := Scan.bind_eq_ok.mp h
  obtain ⟨month, _, -, h⟩ := Scan.bind_eq_ok.mp h
  obtain ⟨_, _, -, h⟩ := Scan.bind_eq_ok.mp h
  obtain ⟨day, _, -, h⟩ := Scan.bind_eq_ok.mp h
  obtain ⟨_, _, -, h⟩ := Scan.bind_eq_ok.mp h
  obtain ⟨hour, _, -, h⟩ := Scan.bind_eq_ok.mp h
  obtain ⟨_, _, -, h⟩ := Scan.bind_eq_ok.mp h
  obtain ⟨minute, _, -, h⟩ := Scan.bind_eq_ok.mp h
  obtain ⟨_, _, -, h⟩ := Scan.bind_eq_ok.mp h
  obtain ⟨second, _, -, h⟩ := Scan.bind_eq_ok.mp h
  obtain ⟨_, _, -, h⟩ := Scan.bind_eq_ok.mp h
  obtain ⟨_, _, -, h⟩ := Scan.bind_eq_ok.mp h
  obtain ⟨offset, _, hoffset, h⟩ := Scan.bind_eq_ok.mp h
  obtain ⟨_, _, -, h⟩ := Scan.bind_eq_ok.mp h
  obtain ⟨-, rfl, hknown, -⟩ := assemble_eq_ok.mp h
  have hminutes := Scan.offset_emod hoffset
  refine ⟨hknown, fun hleap => ?_⟩
  have h60 : second = 60 := of_decide_eq_true hleap
  simp only [h60, if_true, secondsOf, secondsPerDay]
  omega

theorem proper_of_parse {text : String} {t : Instant} (h : parse text = .ok t) : t.Proper := by
  simp only [parse, StateT.run, Functor.map, Except.map] at h
  split at h
  · cases h
  · rename_i r hr
    cases h
    exact proper_of_scan hr

theorem ofText?_toText {t : Instant} (ht : t.Proper) : ofText? t.toText = some t := by
  rw [ofText?, parse_toText ht]
  rfl

theorem read_toJson {t : Instant} (ht : t.Proper) : read t.toJson = .ok t := by
  simp only [toJson, read, ofText?_toText ht]

theorem proper_of_read {j : Json} {t : Instant} (h : read j = .ok t) : t.Proper := by
  cases j with
  | string s =>
    simp only [read] at h
    split at h
    · rename_i t' hs
      cases h
      unfold ofText? at hs
      cases hp : parse s with
      | error fault => simp [hp, Except.toOption] at hs
      | ok t' =>
        simp only [hp, Except.toOption, Option.some.injEq] at hs
        exact hs ▸ proper_of_parse hp
    · cases h
  | _ => cases h

end GatewayOperator.Instant
