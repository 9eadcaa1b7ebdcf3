import GatewayOperator.Instant.Basic

namespace GatewayOperator.Instant.Date

-- The year of its era of four hundred years to which a day of the era belongs
def yearOfEra (day : Int) : Int := (day - day / 1460 + day / 36524 - day / 146096) / 365

-- Days are counted by centuries, by groups of four years, and by what is left of such a group.
-- Only the last day of an era stands behind 24 full groups and 1460 days.
theorem exists_cycle (day : Int) (h0 : 0 ≤ day) (h1 : day < 146097) :
    ∃ century group rest : Int, (0 ≤ century ∧ century ≤ 3) ∧ (0 ≤ group ∧ group ≤ 24) ∧
      (0 ≤ rest ∧ rest ≤ 1460) ∧ (group = 24 → rest = 1460 → century = 3) ∧
      day = 36524 * century + 1461 * group + rest := by
  by_cases h : day = 146096
  · exact ⟨3, 24, 1460, by omega, by omega, by omega, by omega, by omega⟩
  · refine ⟨day / 36524, day % 36524 / 1461, day % 36524 % 1461, ?_, ?_, ?_, ?_, ?_⟩ <;> omega

theorem yearOfEra_cycle (century group rest : Int) (hc : 0 ≤ century ∧ century ≤ 3)
    (hg : 0 ≤ group ∧ group ≤ 24) (hr : 0 ≤ rest ∧ rest ≤ 1460)
    (hlast : group = 24 → rest = 1460 → century = 3) :
    yearOfEra (36524 * century + 1461 * group + rest) =
      100 * century + 4 * group + if rest = 1460 then 3 else rest / 365 := by
  unfold yearOfEra
  generalize hd : 36524 * century + 1461 * group + rest = day
  have hcenturies : day / 36524 - day / 146096 = century := by
    by_cases h : group = 24 ∧ rest = 1460
    · have := hlast h.1 h.2
      omega
    · have hlt : 1461 * group + rest < 36524 := by omega
      have hcentury : day / 36524 = century := by omega
      have hera : day / 146096 = 0 := by omega
      omega
  -- the leap days before `day`, which may have passed one more of the short groups
  have hgroups : day / 1460 =
      25 * century + group + if 1460 ≤ 24 * century + group + rest then 1 else 0 := by
    split <;> omega
  have hn : day - day / 1460 + day / 36524 - day / 146096 = 365 * (100 * century + 4 * group) +
      (rest - if 1460 ≤ 24 * century + group + rest then 1 else 0) := by omega
  rw [hn, Int.mul_add_ediv_left _ _ (by decide)]
  congr 1
  split <;> split <;> omega

-- A year has its last day, counted from March, only in front of the first of March of a leap year.
theorem yearOfEra_bounds (day : Int) (h0 : 0 ≤ day) (h1 : day < 146097) :
    (0 ≤ yearOfEra day ∧ yearOfEra day ≤ 399) ∧
      0 ≤ day - (365 * yearOfEra day + yearOfEra day / 4 - yearOfEra day / 100) ∧
      day - (365 * yearOfEra day + yearOfEra day / 4 - yearOfEra day / 100) ≤ 365 ∧
      (day - (365 * yearOfEra day + yearOfEra day / 4 - yearOfEra day / 100) = 365 →
        isLeapYear (yearOfEra day + 1) = true) := by
  obtain ⟨century, group, rest, hc, hg, hr, hlast, rfl⟩ := exists_cycle day h0 h1
  rw [yearOfEra_cycle century group rest hc hg hr hlast]
  generalize hy : (if rest = 1460 then 3 else rest / 365) = year
  have hyear : 0 ≤ year ∧ year ≤ 3 ∧ 0 ≤ rest - 365 * year ∧ rest - 365 * year ≤ 365 ∧
      (rest - 365 * year = 365 → year = 3 ∧ rest = 1460) := by
    subst hy
    split <;> omega
  have h4 : (100 * century + 4 * group + year) / 4 = 25 * century + group := by omega
  have h100 : (100 * century + 4 * group + year) / 100 = century := by omega
  rw [h4, h100]
  refine ⟨by omega, by omega, by omega, fun h365 => ?_⟩
  obtain ⟨rfl, hrest⟩ := hyear.2.2.2.2 (by omega)
  simp only [isLeapYear, Bool.and_eq_true, Bool.or_eq_true, decide_eq_true_eq]
  omega

theorem isLeapYear_add_era (year era : Int) : isLeapYear (year + era * 400) = isLeapYear year := by
  have h4 : (year + era * 400) % 4 = year % 4 := by omega
  have h100 : (year + era * 400) % 100 = year % 100 := by omega
  have h400 : (year + era * 400) % 400 = year % 400 := by omega
  simp only [isLeapYear, h4, h100, h400]

-- A date in terms of the year of its era, its month counted from March, and its day counted from
-- the first of March.
theorem exists_parts_ofDays (n : Int) :
    ∃ era year month day : Int, (0 ≤ year ∧ year ≤ 399) ∧ (0 ≤ month ∧ month ≤ 11) ∧
      0 ≤ day - (153 * month + 2) / 5 ∧ month = (5 * day + 2) / 153 ∧
      (day ≤ 365 ∧ (day = 365 → isLeapYear (year + 1) = true)) ∧
      n = era * 146097 + (year * 365 + year / 4 - year / 100 + day) - 719468 ∧
      ofDays n = ⟨year + era * 400 + if month < 10 then 0 else 1,
        (if month < 10 then month + 3 else month - 9).toNat,
        (day - (153 * month + 2) / 5 + 1).toNat⟩ := by
  have hdef : ofDays n =
      let day := (n + 719468) % 146097
      let year := yearOfEra day
      let dayOfYear := day - (365 * year + year / 4 - year / 100)
      let month := (5 * dayOfYear + 2) / 153
      let calendarMonth := if month < 10 then month + 3 else month - 9
      ⟨year + (n + 719468) / 146097 * 400 + if calendarMonth ≤ 2 then 1 else 0,
        calendarMonth.toNat, (dayOfYear - (153 * month + 2) / 5 + 1).toNat⟩ := rfl
  rw [hdef]
  dsimp only
  have hbounds := yearOfEra_bounds ((n + 719468) % 146097) (by omega) (by omega)
  generalize yearOfEra ((n + 719468) % 146097) = year at hbounds
  obtain ⟨hyear, hd0, hd1, hleap⟩ := hbounds
  generalize hday : (n + 719468) % 146097 - (365 * year + year / 4 - year / 100) = day
    at hd0 hd1 hleap
  have hmarch : (if (5 * day + 2) / 153 < 10 then (5 * day + 2) / 153 + 3
      else (5 * day + 2) / 153 - 9) ≤ 2 ↔ ¬ (5 * day + 2) / 153 < 10 := by
    split <;> omega
  refine ⟨(n + 719468) / 146097, year, (5 * day + 2) / 153, day, hyear, by omega, by omega, rfl,
    ⟨hd1, hleap⟩, by omega, ?_⟩
  simp only [hmarch, ite_not]

theorem toDays_ofDays (n : Int) : (ofDays n).toDays = n := by
  obtain ⟨era, year, month, day, hy, hm, hd, -, -, hn, heq⟩ := exists_parts_ofDays n
  rw [heq]
  simp only [toDays, shiftedYear, dayOfShiftedYear]
  by_cases h : month < 10
  · have hafter : ¬ (month + 3).toNat ≤ 2 := by omega
    simp only [h, if_true, hafter, if_false]
    omega
  · have hbefore : (month - 9).toNat ≤ 2 := by omega
    simp only [h, if_false, hbefore, if_true]
    omega

-- Only February depends on the year, and it is the last month of a year that starts in March.
theorem isValid_ofDays (n : Int) : (ofDays n).isValid = true := by
  obtain ⟨era, year, month, day, -, hm, hd, hmonth, ⟨hlast, hleap⟩, -, heq⟩ := exists_parts_ofDays n
  have hyear : isLeapYear (year + era * 400 + 1) = isLeapYear (year + 1) := by
    rw [← isLeapYear_add_era (year + 1) era, Int.add_right_comm]
  rw [heq]
  simp only [isValid, Bool.and_eq_true, decide_eq_true_eq]
  by_cases hfebruary : month = 11
  · subst hfebruary
    have hcommon : isLeapYear (year + 1) = false → day ≠ 365 := by
      rintro hcommon rfl
      simp [hleap rfl] at hcommon
    simp only [daysInMonth, Int.reduceLT, if_false, hyear]
    cases hcase : isLeapYear (year + 1) with
    | true =>
      simp
      omega
    | false =>
      have hshort := hcommon hcase
      simp
      omega
  · have hcases : month = 0 ∨ month = 1 ∨ month = 2 ∨ month = 3 ∨ month = 4 ∨ month = 5 ∨
        month = 6 ∨ month = 7 ∨ month = 8 ∨ month = 9 ∨ month = 10 := by omega
    rcases hcases with rfl | rfl | rfl | rfl | rfl | rfl | rfl | rfl | rfl | rfl | rfl <;>
      simp [daysInMonth] <;> omega

end GatewayOperator.Instant.Date
