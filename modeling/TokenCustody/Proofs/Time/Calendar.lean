/-
TokenCustody.Proofs.Time.Calendar — every day has one date.

`Date.ofDays` finds a date that the calendar has, and `Date.toDays` leads
back to the day. Both count in eras of 400 years that start in March,
which have 146097 days each, and within an era the year is found by a
division that has to be corrected for the leap days (`yearOfDay`). That
the correction is right need not be seen from the formula: it grows with
the day, so it is enough to look at the first day of each of the 400
years and at the day before (`yearOfDay_daysBefore`).
-/
import TokenCustody.Time.Calendar

namespace TokenCustody.Time

/-! ## Years of an era -/

/-- The year of its era that a day of the era falls into. -/
def yearOfDay (d : Int) : Int := (d - d / 1460 + d / 36524 - d / 146096) / 365

/-- The days of an era before a year of it. -/
def daysBefore (y : Int) : Int := 365 * y + y / 4 - y / 100

/-- The day of the year that a day of an era is. -/
def dayOfYear (d : Int) : Int := d - daysBefore (yearOfDay d)

theorem yearOfDay_mono {d d' : Int} (h : d ≤ d') : yearOfDay d ≤ yearOfDay d' := by
  have hyear : d - d / 1460 ≤ d' - d' / 1460 := by omega
  have hcentury : d / 36524 ≤ d' / 36524 := by omega
  have hera (n : Int) : n / 146096 = n / 36524 / 4 := by omega
  unfold yearOfDay
  rw [hera, hera]
  omega

/-- A year begins with the day after the last day of the year before it. -/
theorem yearOfDay_daysBefore : ∀ y : Fin 400,
    yearOfDay (daysBefore (y : Nat)) = (y : Nat) ∧
      (0 < y.val → yearOfDay (daysBefore (y : Nat) - 1) < (y : Nat)) := by
  decide +kernel

theorem yearOfDay_bounds {d : Int} (h0 : 0 ≤ d) (h1 : d ≤ 146096) :
    0 ≤ yearOfDay d ∧ yearOfDay d ≤ 399 := by
  have hfirst : yearOfDay 0 = 0 := by decide
  have hlast : yearOfDay 146096 = 399 := by decide
  have hge := yearOfDay_mono h0
  have hle := yearOfDay_mono h1
  omega

/-- A day lies behind the days before its year, and in front of the next year. -/
theorem daysBefore_yearOfDay {d : Int} (h0 : 0 ≤ d) (h1 : d ≤ 146096) :
    daysBefore (yearOfDay d) ≤ d ∧
      (yearOfDay d < 399 → d < daysBefore (yearOfDay d + 1)) := by
  obtain ⟨hy0, hy1⟩ := yearOfDay_bounds h0 h1
  obtain ⟨n, hn⟩ := Int.eq_ofNat_of_zero_le hy0
  rw [hn] at hy1 ⊢
  refine ⟨Int.not_lt.mp fun hlt => ?_, fun hn399 => Int.not_le.mp fun hle => ?_⟩
  · have hpos : 0 < n := by
      refine Nat.pos_of_ne_zero fun h => ?_
      subst h
      exact absurd hlt (by simpa [daysBefore] using h0)
    have hmono := yearOfDay_mono (show d ≤ daysBefore n - 1 by omega)
    have hbefore := (yearOfDay_daysBefore ⟨n, by omega⟩).2 hpos
    simp only at hbefore
    omega
  · have hmono := yearOfDay_mono (d := daysBefore ((n + 1 : Nat) : Int)) hle
    have hfirst := (yearOfDay_daysBefore ⟨n + 1, by omega⟩).1
    simp only at hfirst
    omega

/-- A year has 366 days only if February of the year after its start has a leap day. -/
theorem dayOfYear_bounds {d : Int} (h0 : 0 ≤ d) (h1 : d ≤ 146096) :
    0 ≤ dayOfYear d ∧ dayOfYear d ≤ 365 ∧
      (dayOfYear d = 365 → isLeapYear (yearOfDay d + 1) = true) := by
  obtain ⟨hy0, hy1⟩ := yearOfDay_bounds h0 h1
  obtain ⟨hle, hlt⟩ := daysBefore_yearOfDay h0 h1
  unfold dayOfYear isLeapYear
  generalize yearOfDay d = y at *
  have h4 : (y + 1) / 4 = y / 4 + (if (y + 1) % 4 = 0 then 1 else 0) := by omega
  have h100 : (y + 1) / 100 = y / 100 + (if (y + 1) % 100 = 0 then 1 else 0) := by omega
  simp only [Bool.and_eq_true, Bool.or_eq_true, beq_iff_eq, bne_iff_ne]
  unfold daysBefore at *
  by_cases hlast : y = 399
  · subst hlast
    omega
  · have hnext := hlt (by omega)
    omega

theorem isLeapYear_add_era (y era : Int) : isLeapYear (y + era * 400) = isLeapYear y := by
  unfold isLeapYear
  rw [show (y + era * 400) % 4 = y % 4 by omega, show (y + era * 400) % 100 = y % 100 by omega,
    show (y + era * 400) % 400 = y % 400 by omega]

/-! ## Dates -/

/-- The date of a day of a year that starts in March. -/
def Date.ofMarch (y doy : Int) : Date :=
  let monthFromMarch := (5 * doy + 2) / 153
  let month := if monthFromMarch < 10 then monthFromMarch + 3 else monthFromMarch - 9
  { year := if month ≤ 2 then y + 1 else y
    month := month.toNat
    day := (doy - (153 * monthFromMarch + 2) / 5 + 1).toNat }

theorem Date.ofDays_eq (days : Int) : Date.ofDays days =
    .ofMarch (yearOfDay ((days + 719468) % 146097) + (days + 719468) / 146097 * 400)
      (dayOfYear ((days + 719468) % 146097)) := by
  have h : (days + 719468) % 146097 = days + 719468 - (days + 719468) / 146097 * 146097 := by
    omega
  rw [h]
  rfl

/-- The months from March to December belong to the year that starts then, the other two to
the next one. -/
theorem Date.ofMarch_cases {y doy : Int} (h0 : 0 ≤ doy) (h1 : doy ≤ 365) : ∃ m : Nat,
    m ≤ 11 ∧ (5 * doy + 2) / 153 = m ∧
      ((ofMarch y doy).day : Int) = doy - (153 * (m : Int) + 2) / 5 + 1 ∧
      ((m < 10 ∧ (ofMarch y doy).month = m + 3 ∧ (ofMarch y doy).year = y) ∨
        (10 ≤ m ∧ (ofMarch y doy).month = m - 9 ∧ (ofMarch y doy).year = y + 1)) := by
  obtain ⟨m, hm⟩ := Int.eq_ofNat_of_zero_le (show 0 ≤ (5 * doy + 2) / 153 by omega)
  refine ⟨m, by omega, hm, ?_, ?_⟩
  · show ((doy - (153 * ((5 * doy + 2) / 153) + 2) / 5 + 1).toNat : Int) = _
    omega
  · unfold ofMarch
    dsimp only
    rw [hm]
    by_cases h : m < 10
    · rw [if_pos (by omega), if_neg (by omega)]
      exact Or.inl ⟨h, by omega, rfl⟩
    · rw [if_neg (by omega), if_pos (by omega)]
      exact Or.inr ⟨by omega, by omega, rfl⟩

theorem Date.toDays_ofMarch {y doy : Int} (h0 : 0 ≤ doy) (h1 : doy ≤ 365) :
    (ofMarch y doy).toDays = y / 400 * 146097 + daysBefore (y % 400) + doy - 719468 := by
  have hyear : y - y / 400 * 400 = y % 400 := by omega
  obtain ⟨m, hm, -, hday, ⟨hlt, hmonth, hy⟩ | ⟨hle, hmonth, hy⟩⟩ :=
    ofMarch_cases (y := y) h0 h1
  · have hmarch : (((m + 3 : Nat) : Int) + 9) % 12 = m := by omega
    unfold toDays daysBefore
    dsimp only
    rw [hday, hmonth, hy, if_neg (by omega), hmarch, hyear]
    omega
  · have hmarch : (((m - 9 : Nat) : Int) + 9) % 12 = m := by omega
    unfold toDays daysBefore
    dsimp only
    rw [hday, hmonth, hy, if_pos (by omega), hmarch, show y + 1 - 1 = y by omega, hyear]
    omega

theorem Date.isValid_ofMarch {y doy : Int} (h0 : 0 ≤ doy) (h1 : doy ≤ 365)
    (hleap : doy = 365 → isLeapYear (y + 1) = true) : (ofMarch y doy).isValid = true := by
  obtain ⟨m, hm, hdoy, hday, hparts⟩ := ofMarch_cases (y := y) h0 h1
  unfold isValid daysInMonth
  simp only [Bool.and_eq_true, decide_eq_true_eq]
  rcases hparts with ⟨hlt, hmonth, hy⟩ | ⟨hle, hmonth, hy⟩
  · rw [hmonth, if_neg (by omega)]
    split
    · omega
    · omega
  · rw [hmonth, hy]
    split
    · split
      · omega
      · next hnot =>
        have hday365 : doy ≠ 365 := fun h => hnot (hleap h)
        omega
    · rw [if_neg (by omega)]
      omega

/-- The date of a day is a date of that day. -/
theorem Date.toDays_ofDays (days : Int) : (Date.ofDays days).toDays = days := by
  have h0 : 0 ≤ (days + 719468) % 146097 := by omega
  have h1 : (days + 719468) % 146097 ≤ 146096 := by omega
  obtain ⟨hy0, hy1⟩ := yearOfDay_bounds h0 h1
  obtain ⟨hdoy0, hdoy1, -⟩ := dayOfYear_bounds h0 h1
  rw [ofDays_eq, toDays_ofMarch hdoy0 hdoy1]
  unfold dayOfYear
  generalize yearOfDay ((days + 719468) % 146097) = y at *
  rw [show (y + (days + 719468) / 146097 * 400) % 400 = y by omega]
  omega

/-- The calendar has the date of every day. -/
theorem Date.isValid_ofDays (days : Int) : (Date.ofDays days).isValid = true := by
  have h0 : 0 ≤ (days + 719468) % 146097 := by omega
  have h1 : (days + 719468) % 146097 ≤ 146096 := by omega
  obtain ⟨hdoy0, hdoy1, hleap⟩ := dayOfYear_bounds h0 h1
  rw [ofDays_eq]
  refine isValid_ofMarch hdoy0 hdoy1 fun h => ?_
  rw [Int.add_right_comm, isLeapYear_add_era]
  exact hleap h

example : Date.ofDays 11016 = ⟨2000, 2, 29⟩ := by decide

end TokenCustody.Time
