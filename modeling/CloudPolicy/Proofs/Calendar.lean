import CloudPolicy.Time.Span

/-! The calendar and its range. A date is recovered from its count of days, the days of a year are
those from its first day to the next year's, and so the instants in range are those between two
seconds. -/

namespace CloudPolicy

/-! ### Dates and their days -/

namespace Date

private theorem yearOfEra_bounds {d : Int} (hlow : 0 ≤ d) (hhigh : d < 146097) :
    0 ≤ (d - d / 1460 + d / 36524 - d / 146096) / 365 ∧
      (d - d / 1460 + d / 36524 - d / 146096) / 365 ≤ 399 := by
  omega

/-- Within one century of one era the leap days before a day are counted linearly. A year, counted
from March, has a day more when it ends in a leap year. -/
private theorem dayOfYear_bounds {d y : Int} (hlow : 0 ≤ d) (hhigh : d < 146097)
    (hy : y = (d - d / 1460 + d / 36524 - d / 146096) / 365) :
    0 ≤ d - (365 * y + y / 4 - y / 100) ∧ (d - (365 * y + y / 4 - y / 100) ≤ 364 ∨
      d - (365 * y + y / 4 - y / 100) = 365 ∧ (y + 1) % 4 = 0 ∧
        ((y + 1) % 100 ≠ 0 ∨ (y + 1) % 400 = 0)) := by
  have hcentury : d / 36524 = 0 ∨ d / 36524 = 1 ∨ d / 36524 = 2 ∨ d / 36524 = 3 ∨
      d / 36524 = 4 := by
    omega
  have hyears : y / 100 = 0 ∨ y / 100 = 1 ∨ y / 100 = 2 ∨ y / 100 = 3 := by omega
  have hleap : y % 4 = 0 ∨ y % 4 = 1 ∨ y % 4 = 2 ∨ y % 4 = 3 := by omega
  rcases hcentury with hc | hc | hc | hc | hc <;> rcases hyears with hy' | hy' | hy' | hy' <;>
    rcases hleap with hl | hl | hl | hl <;> omega

/-- Counting the days of a date gives back the days it was made from. -/
theorem toDays_ofDays (days : Int) : (ofDays days).toDays = days := by
  have hlow : 0 ≤ (days + 719468) % 146097 := Int.emod_nonneg _ (by decide)
  have hhigh : (days + 719468) % 146097 < 146097 := Int.emod_lt_of_pos _ (by decide)
  have hsplit : (days + 719468) / 146097 * 146097 + (days + 719468) % 146097 = days + 719468 :=
    Int.ediv_mul_add_emod _ _
  simp only [ofDays]
  generalize (days + 719468) % 146097 = d at hlow hhigh hsplit ⊢
  generalize (days + 719468) / 146097 = era at hsplit ⊢
  generalize hy : (d - d / 1460 + d / 36524 - d / 146096) / 365 = y
  have hyear : 0 ≤ y ∧ y ≤ 399 := hy ▸ yearOfEra_bounds hlow hhigh
  generalize hdoy : d - (365 * y + y / 4 - y / 100) = doy
  have hday : 0 ≤ doy ∧ doy ≤ 365 := by
    obtain ⟨hfirst, hlast⟩ := dayOfYear_bounds hlow hhigh hy.symm
    omega
  generalize hm : (5 * doy + 2) / 153 = m
  have hmonth : 0 ≤ m ∧ m ≤ 11 := by omega
  have hfirst : ((doy - (153 * m + 2) / 5 + 1).toNat : Int) = doy - (153 * m + 2) / 5 + 1 := by
    omega
  split
  · have hlate : ¬(m + 3).toNat ≤ 2 := by omega
    have hback : ((m + 3).toNat : Int) - 3 = m := by omega
    have hera : (y + era * 400) / 400 = era := by omega
    have hrest : (y + era * 400) % 400 = y := by omega
    simp only [toDays, if_neg hlate, hback, hfirst, hera, hrest]
    omega
  · have hearly : (m - 9).toNat ≤ 2 := by omega
    have hback : ((m - 9).toNat : Int) + 9 = m := by omega
    have hera : (y + era * 400 + 1 - 1) / 400 = era := by omega
    have hrest : (y + era * 400 + 1 - 1) % 400 = y := by omega
    simp only [toDays, if_pos hearly, hback, hfirst, hera, hrest]
    omega

/-- The date that a count of days falls on exists. -/
theorem of?_ofDays {days : Int} (hleast : leastYear ≤ (ofDays days).year)
    (hgreatest : (ofDays days).year ≤ greatestYear) :
    of? (ofDays days).year (ofDays days).month (ofDays days).day = some (ofDays days) := by
  have hlow : 0 ≤ (days + 719468) % 146097 := Int.emod_nonneg _ (by decide)
  have hhigh : (days + 719468) % 146097 < 146097 := Int.emod_lt_of_pos _ (by decide)
  suffices hparts : 1 ≤ (ofDays days).month ∧ (ofDays days).month ≤ 12 ∧ 1 ≤ (ofDays days).day ∧
      (ofDays days).day ≤ daysInMonth (ofDays days).year (ofDays days).month from
    if_pos ⟨hleast, hgreatest, hparts⟩
  simp only [ofDays]
  generalize (days + 719468) % 146097 = d at hlow hhigh ⊢
  generalize (days + 719468) / 146097 = era
  generalize hy : (d - d / 1460 + d / 36524 - d / 146096) / 365 = y
  obtain ⟨hfirst, hlast⟩ := dayOfYear_bounds hlow hhigh hy.symm
  generalize d - (365 * y + y / 4 - y / 100) = doy at hfirst hlast ⊢
  generalize hm : (5 * doy + 2) / 153 = m
  split <;> dsimp only
  -- from March to December the length of a month does not depend on the year
  · have hlength : daysInMonth (y + era * 400) (m + 3).toNat =
        if m = 1 ∨ m = 3 ∨ m = 6 ∨ m = 8 then 30 else 31 := by
      have hnot : ¬(m + 3).toNat = 2 := by omega
      rw [daysInMonth, if_neg hnot]
      congr 1
      simp only [eq_iff_iff]
      omega
    refine ⟨by omega, by omega, by omega, ?_⟩
    rw [hlength]
    split <;> omega
  · have hleap : isLeap (y + era * 400 + 1) = true ↔
        (y + 1) % 4 = 0 ∧ ((y + 1) % 100 ≠ 0 ∨ (y + 1) % 400 = 0) := by
      rw [isLeap, decide_eq_true_eq]
      omega
    obtain rfl | rfl : m = 10 ∨ m = 11 := by omega
    · refine ⟨by decide, by decide, by omega, ?_⟩
      show _ ≤ 31
      omega
    -- February has a day more in leap years
    · refine ⟨by decide, by decide, by omega, ?_⟩
      show _ ≤ if isLeap (y + era * 400 + 1) then 29 else 28
      rcases hlast with hlast | ⟨hlast, hend⟩
      · have hshort : (doy - (153 * 11 + 2) / 5 + 1).toNat ≤ 28 := by omega
        split
        next => exact Nat.le_succ_of_le hshort
        next => exact hshort
      · rw [if_pos (hleap.2 hend)]
        omega

theorem ofDays_injective {a b : Int} (h : ofDays a = ofDays b) : a = b := by
  rw [← toDays_ofDays a, h, toDays_ofDays]

end Date

/-! ### The range of instants -/

namespace Date

/-- Years counted from March have 365 days or more, from the first to the last. -/
private theorem marchStart_mono (era era' : Int) {year year' : Int} (hlow : 0 ≤ year) (hhigh : year ≤ 399)
    (hlow' : 0 ≤ year') (hhigh' : year' ≤ 399) (h : 400 * era + year ≤ 400 * era' + year') :
    era * 146097 + year * 365 + year / 4 - year / 100 +
        365 * (400 * era' + year' - (400 * era + year)) ≤
      era' * 146097 + year' * 365 + year' / 4 - year' / 100 := by
  omega

/-- The first day of a year is the 307th of the year that is counted from the March before it. -/
private theorem toDays_newYear (year : Int) :
    (Date.mk year 1 1).toDays = (year - 1) / 400 * 146097 + (year - 1) % 400 * 365 +
      (year - 1) % 400 / 4 - (year - 1) % 400 / 100 + 306 - 719468 := by
  simp only [toDays, if_pos (by decide : (1 : Nat) ≤ 2)]
  omega

/-- The dates of a year and of those after it start with its first day. -/
theorem le_year_ofDays_iff (year days : Int) :
    year ≤ (ofDays days).year ↔ (Date.mk year 1 1).toDays ≤ days := by
  have hlow : 0 ≤ (days + 719468) % 146097 := Int.emod_nonneg _ (by decide)
  have hhigh : (days + 719468) % 146097 < 146097 := Int.emod_lt_of_pos _ (by decide)
  have hsplit : (days + 719468) / 146097 * 146097 + (days + 719468) % 146097 = days + 719468 :=
    Int.ediv_mul_add_emod _ _
  have hleast' : 0 ≤ (year - 1) % 400 := Int.emod_nonneg _ (by decide)
  have hmost' : (year - 1) % 400 ≤ 399 := by omega
  have hsplit' : 400 * ((year - 1) / 400) + (year - 1) % 400 = year - 1 :=
    Int.mul_ediv_add_emod _ _
  rw [toDays_newYear]
  simp only [ofDays]
  generalize (days + 719468) % 146097 = d at *
  generalize (days + 719468) / 146097 = era at *
  generalize (year - 1) / 400 = era' at *
  generalize (year - 1) % 400 = y' at *
  generalize hy : (d - d / 1460 + d / 36524 - d / 146096) / 365 = y
  obtain ⟨hfirst, hlast⟩ := dayOfYear_bounds hlow hhigh hy.symm
  obtain ⟨hleast, hmost⟩ : 0 ≤ y ∧ y ≤ 399 := hy ▸ yearOfEra_bounds hlow hhigh
  have hearlier := marchStart_mono era' era hleast' hmost' hleast hmost
  have hlater := marchStart_mono era era' hleast hmost hleast' hmost'
  have hdays : days = era * 146097 + y * 365 + y / 4 - y / 100 +
      (d - (365 * y + y / 4 - y / 100)) - 719468 := by
    omega
  generalize d - (365 * y + y / 4 - y / 100) = doy at hfirst hlast hdays ⊢
  have hmarch : (5 * doy + 2) / 153 < 10 ↔ doy < 306 := by omega
  -- from here on only the first days of the two years matter
  generalize era * 146097 + y * 365 + y / 4 - y / 100 = first at hearlier hlater hdays
  generalize era' * 146097 + y' * 365 + y' / 4 - y' / 100 = first' at hearlier hlater ⊢
  split
  next hm =>
    have hdoy := hmarch.1 hm
    dsimp only
    omega
  next hm =>
    have hdoy := mt hmarch.2 hm
    dsimp only
    omega

end Date

namespace Timestamp

variable {t u : Timestamp} {span : TimeSpan}

/-- The second at which the first year of the calendar begins. -/
def rangeStart : Int := (Date.mk Date.leastYear 1 1).toDays * day

/-- The second at which the last year of the calendar has ended. -/
def rangeEnd : Int := (Date.mk (Date.greatestYear + 1) 1 1).toDays * day

/-- The instants in range are those of an interval of seconds. -/
theorem isInRange_iff : t.isInRange = true ↔ rangeStart ≤ t.seconds ∧ t.seconds < rangeEnd := by
  have hstart := Date.le_year_ofDays_iff Date.leastYear (t.seconds / day)
  have hend := Date.le_year_ofDays_iff (Date.greatestYear + 1) (t.seconds / day)
  rw [isInRange, decide_eq_true_eq, date, rangeStart, rangeEnd, hstart]
  simp only [day] at hend ⊢
  omega

theorem checked_eq_ok_iff : t.checked = .ok u ↔ t.isInRange = true ∧ u = t := by
  rw [checked]
  split
  next h => exact ⟨fun hu => ⟨h, (Except.ok.inj hu).symm⟩, fun hu => by rw [hu.2]⟩
  next h => exact ⟨nofun, fun hu => absurd hu.1 h⟩

theorem checked_of_isInRange (h : t.isInRange = true) : t.checked = .ok t := if_pos h

theorem checked_of_not_isInRange (h : ¬ t.isInRange = true) : t.checked = .error tooFar := if_neg h

theorem isFatal_of_checked {e : Error} (h : t.checked = .error e) : e.isFatal = true := by
  rw [checked] at h
  split at h
  next => cases h
  next =>
    cases h
    rfl

end Timestamp

theorem TimeSpan.seconds_of_ofSeconds {seconds : Int} {span : TimeSpan}
    (h : ofSeconds seconds = .ok span) : span.seconds = seconds := by
  rw [ofSeconds] at h
  split at h
  next =>
    cases h
    rfl
  next => cases h

theorem TimeSpan.isFatal_of_ofSeconds {seconds : Int} {e : Error}
    (h : ofSeconds seconds = .error e) : e.isFatal = true := by
  rw [ofSeconds] at h
  split at h
  next => cases h
  next =>
    cases h
    rfl

end CloudPolicy
