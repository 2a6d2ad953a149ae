import Mathlib
import Almanac.Proofs.Calendar.DayNumber

/-!
# Easter Sunday and Ash Wednesday

`easterMonthDay` follows the anonymous Gregorian computus of 1876 in the form of Meeus, Jones
and Butcher. Oudin's computus of 1940, the one that many calendar libraries implement, computes
the same thing in another order: it applies the two exceptions of the epact (a full moon on the
29th day, or on the 28th in the second half of the lunar cycle) to the full moon before the
weekday step, where the anonymous computus takes a week back after it. Both give the same month
and day in every year, before 1583 and after 9999 included (`easterMonthDay_eq_oudin`).

That day is a Sunday between March 22 and April 25: it lies `easterOffset` days after March 22,
at most 34, and the weekday step lands on a Sunday (`march22_sunday`). Ash Wednesday, 46 days
earlier, is then a Wednesday between February 4 and March 10 of the same year, and both are
dates in every supported year (`easter_computus`).
-/

namespace Almanac

/-! ## Oudin's computus -/

namespace Oudin

/-- Days from March 21 to the paschal full moon, from the year's place in the 19-year lunar
cycle and the solar and lunar corrections of its century. -/
def epact (y : Int) : Int :=
  let g := y % 19
  let c := y / 100
  (c - c / 4 - (8 * c + 13) / 25 + 19 * g + 15) % 30

/-- The paschal full moon, a day earlier when the epact falls on the 29th day, or on the 28th
in the second half of the lunar cycle. -/
def fullMoon (y : Int) : Int :=
  let g := y % 19
  let h := epact y
  h - (h / 28) * (1 - (h / 28) * (29 / (h + 1)) * ((21 - g) / 11))

/-- The weekday of the paschal full moon, counted so that Easter falls `fullMoon - weekday`
days after March 28. -/
def weekday (y : Int) : Int :=
  let c := y / 100
  (y + y / 4 + fullMoon y + 2 - c + c / 4) % 7

/-- The month and day of Easter Sunday by Oudin's computus. -/
def easter (y : Int) : Int × Int :=
  let p := fullMoon y - weekday y
  (3 + (p + 26) / 30, 1 + (p + 27 + (p + 6) / 40) % 31)

/-- The epact is a residue modulo 30. -/
theorem epact_mem (y : Int) : 0 ≤ epact y ∧ epact y < 30 := by
  simp only [epact]
  omega

/-- The full moon moves back a day exactly in the two exceptional cases. -/
theorem fullMoon_eq (y : Int) :
    fullMoon y =
      if epact y = 29 ∨ (epact y = 28 ∧ 11 ≤ y % 19) then epact y - 1 else epact y := by
  have h0 := epact_mem y
  have hg : 0 ≤ y % 19 ∧ y % 19 < 19 := by omega
  simp only [fullMoon]
  generalize epact y = h at *
  generalize y % 19 = g at *
  rcases (show h ≤ 27 ∨ h = 28 ∨ h = 29 by omega) with hlt | rfl | rfl
  · have h28 : h / 28 = 0 := by omega
    simp only [h28]
    omega
  · norm_num
    split_ifs <;> omega
  · norm_num

end Oudin

/-! ## The anonymous computus in steps -/

/-- The lunar correction of a century in two forms: the anonymous computus counts it through
`(b + 8) / 25` and thirds, Oudin's computus through `(8 * b + 13) / 25`. -/
theorem lunarCorrection (b : Int) : (b - (b + 8) / 25 + 1) / 3 = (8 * b + 13) / 25 := by
  omega

/-- Days from the paschal full moon to the Sunday after it, in the anonymous computus. -/
def sundayStep (y : Int) : Int :=
  (32 + 2 * (y / 100 % 4) + 2 * (y % 100 / 4) - Oudin.epact y - y % 100 % 4) % 7

/-- Days from March 22 to Easter Sunday in the anonymous computus: the full moon and the Sunday
step, less a week in the rare years where they would overshoot. -/
def easterOffset (y : Int) : Int :=
  Oudin.epact y + sundayStep y - 7 * ((y % 19 + 11 * Oudin.epact y + 22 * sundayStep y) / 451)

/-- The anonymous computus finds Easter `easterOffset` days after March 22; both computuses
share one epact. -/
theorem easterMonthDay_eq_offset (y : Int) :
    easterMonthDay y = ((easterOffset y + 114) / 31, (easterOffset y + 114) % 31 + 1) := by
  have hh : (19 * (y % 19) + y / 100 - y / 100 / 4 - (y / 100 - (y / 100 + 8) / 25 + 1) / 3 + 15)
      % 30 = Oudin.epact y := by
    rw [lunarCorrection]
    simp only [Oudin.epact]
    congr 1
    ring
  simp only [easterMonthDay, easterOffset, sundayStep, hh]

/-- The Sunday step is a residue modulo 7. -/
theorem sundayStep_mem (y : Int) : 0 ≤ sundayStep y ∧ sundayStep y < 7 := by
  simp only [sundayStep]
  omega

/-- Easter Sunday lies between 0 and 34 days after March 22: a week is taken back exactly when
the full moon and the Sunday step would reach past April 25. -/
theorem easterOffset_mem (y : Int) : 0 ≤ easterOffset y ∧ easterOffset y ≤ 34 := by
  have h0 := Oudin.epact_mem y
  have hl := sundayStep_mem y
  have hg : 0 ≤ y % 19 ∧ y % 19 < 19 := by omega
  simp only [easterOffset]
  generalize Oudin.epact y = h at *
  generalize sundayStep y = l at *
  generalize y % 19 = g at *
  omega

/-- The two weekday steps agree modulo 7: the full moon and the Sunday step of the anonymous
computus reach the weekday that Oudin's full moon and weekday give, six days on. -/
theorem sundayStep_mod (y : Int) :
    (Oudin.epact y + sundayStep y) % 7 = (Oudin.fullMoon y - Oudin.weekday y + 6) % 7 := by
  simp only [sundayStep, Oudin.weekday]
  generalize Oudin.epact y = h
  generalize Oudin.fullMoon y = i
  omega

/-- The two computuses find the same Easter Sunday in every year. -/
theorem easterMonthDay_eq_oudin (y : Int) : easterMonthDay y = Oudin.easter y := by
  rw [easterMonthDay_eq_offset]
  have hmod := sundayStep_mod y
  have hi := Oudin.fullMoon_eq y
  have h0 := Oudin.epact_mem y
  have hl := sundayStep_mem y
  have hj : 0 ≤ Oudin.weekday y ∧ Oudin.weekday y < 7 := by
    simp only [Oudin.weekday]
    omega
  have hg : 0 ≤ y % 19 ∧ y % 19 < 19 := by omega
  simp only [Oudin.easter, easterOffset]
  generalize Oudin.epact y = h at *
  generalize sundayStep y = l at *
  generalize Oudin.weekday y = j at *
  generalize Oudin.fullMoon y = i at *
  generalize y % 19 = g at *
  have hl' : l = (i - j + 6 - h) % 7 := by omega
  simp only [Prod.mk.injEq]
  split_ifs at hi with hx
  · -- Oudin moves the full moon back a day; the anonymous computus instead takes a week back
    -- when its Sunday step is the longest, 6 days
    have hm : (g + 11 * h + 22 * l) / 451 = if j = 6 then 1 else 0 := by
      split_ifs <;> omega
    rw [hm]
    split_ifs <;> constructor <;> omega
  · have hm : (g + 11 * h + 22 * l) / 451 = 0 := by omega
    rw [hm]
    constructor <;> omega

/-! ## Weekday and window -/

/-- March 22 moved by the full moon and the Sunday step is a Sunday. -/
theorem march22_sunday (y : Int) :
    (Ymd.dayNumber ⟨y, 3, 22⟩ + Oudin.epact y + sundayStep y) % 7 = 6 := by
  simp only [Ymd.dayNumber, sundayStep]
  norm_num
  -- the year -4800 lies twelve 400-year cycles before the year 0
  have h4 : (y + 4800) / 4 = 25 * (y / 100) + y % 100 / 4 + 1200 := by omega
  have h100 : (y + 4800) / 100 = y / 100 + 48 := by omega
  have h400 : (y + 4800) / 400 = y / 100 / 4 + 12 := by omega
  have hc : y % 4 = y % 100 % 4 := by omega
  have hy : y = 100 * (y / 100) + y % 100 := by omega
  rw [h4, h100, h400, hc]
  generalize Oudin.epact y = h
  generalize y / 100 = b at *
  generalize y % 100 = c at *
  subst hy
  omega

/-- The day number of Easter Sunday is that of March 22 moved by `easterOffset`. -/
theorem easter_dayNumber (y : Int) :
    (Ymd.mk y (easterMonthDay y).1 (easterMonthDay y).2).dayNumber =
      Ymd.dayNumber ⟨y, 3, 22⟩ + easterOffset y := by
  have hp := easterOffset_mem y
  rw [easterMonthDay_eq_offset]
  dsimp only
  rcases (show easterOffset y ≤ 9 ∨ 10 ≤ easterOffset y by omega) with hm | hm
  · have h3 : (easterOffset y + 114) / 31 = 3 := by omega
    rw [h3, Ymd.dayNumber_day y 3, Ymd.dayNumber_day y 3 22]
    omega
  · have h4 : (easterOffset y + 114) / 31 = 4 := by omega
    have h31 : monthLength y 3 = 31 := by simp [monthLength]
    have hapr := Ymd.dayNumber_succ_month y (m := 3) ⟨by norm_num, by norm_num⟩
    norm_num at hapr
    rw [h4, Ymd.dayNumber_day y 4, Ymd.dayNumber_day y 3 22, hapr]
    omega

/-- Easter Sunday is a Sunday. -/
theorem easter_sunday_weekday (y : Int) :
    (Ymd.mk y (easterMonthDay y).1 (easterMonthDay y).2).dayNumber % 7 = 6 := by
  have hs := march22_sunday y
  rw [easter_dayNumber]
  simp only [easterOffset] at *
  omega

/-- Easter Sunday lies between March 22 and April 25. -/
theorem easterMonthDay_between (y : Int) :
    ((easterMonthDay y).1 = 3 ∧ 22 ≤ (easterMonthDay y).2 ∧ (easterMonthDay y).2 ≤ 31) ∨
      ((easterMonthDay y).1 = 4 ∧ 1 ≤ (easterMonthDay y).2 ∧ (easterMonthDay y).2 ≤ 25) := by
  have hp := easterOffset_mem y
  rw [easterMonthDay_eq_offset]
  omega

/-! ## Easter Sunday and Ash Wednesday as dates -/

/-- The day 46 days before Easter Sunday: a day from March 1 to March 10 when Easter falls from
April 16 on, and otherwise a day of February from the 4th on. -/
theorem ashWednesday_ymd (y : Int) : ∃ t : Ymd, t.Valid ∧ t.year = y ∧
    t.dayNumber = (Ymd.mk y (easterMonthDay y).1 (easterMonthDay y).2).dayNumber - 46 ∧
    ((t.month = 2 ∧ 4 ≤ t.day) ∨ (t.month = 3 ∧ t.day ≤ 10)) := by
  have hp := easterOffset_mem y
  rw [easter_dayNumber, Ymd.dayNumber_day y 3 22]
  rcases (show easterOffset y ≤ 24 ∨ 25 ≤ easterOffset y by omega) with hfeb | hmar
  · have hlen : 28 ≤ monthLength y 2 ∧ monthLength y 2 ≤ 29 := by
      simp only [monthLength, if_true]
      split <;> norm_num
    have hmar := Ymd.dayNumber_succ_month y (m := 2) ⟨by norm_num, by norm_num⟩
    norm_num at hmar
    refine ⟨⟨y, 2, monthLength y 2 + easterOffset y - 24⟩,
      ⟨by norm_num, by norm_num, by dsimp only; omega, by dsimp only; omega⟩, rfl, ?_,
      .inl ⟨rfl, by dsimp only; omega⟩⟩
    rw [Ymd.dayNumber_day y 2, hmar]
    omega
  · refine ⟨⟨y, 3, easterOffset y - 24⟩, ⟨by norm_num, by norm_num, by dsimp only; omega, ?_⟩,
      rfl, ?_, .inr ⟨rfl, by dsimp only; omega⟩⟩
    · have h31 : monthLength y 3 = 31 := by simp [monthLength]
      dsimp only
      omega
    · rw [Ymd.dayNumber_day y 3]
      omega

/-- In every year, the anonymous computus and Oudin's find the same month and day, and that day
is a Sunday between March 22 and April 25 of the proleptic Gregorian calendar. In a supported
year Easter Sunday is therefore a date, and Ash Wednesday is the Wednesday 46 days earlier,
between February 4 and March 10 of the same year. -/
theorem easter_computus (y : Int) :
    easterMonthDay y = Oudin.easter y ∧
    (Ymd.mk y (easterMonthDay y).1 (easterMonthDay y).2).Valid ∧
    (Ymd.mk y (easterMonthDay y).1 (easterMonthDay y).2).dayNumber % 7 = 6 ∧
    (((easterMonthDay y).1 = 3 ∧ 22 ≤ (easterMonthDay y).2) ∨
      ((easterMonthDay y).1 = 4 ∧ (easterMonthDay y).2 ≤ 25)) ∧
    (1 ≤ y ∧ y ≤ 9999 → ∃ e w : Date, easterSunday? y = .ok e ∧
      e.toYmd = ⟨y, (easterMonthDay y).1, (easterMonthDay y).2⟩ ∧
      ashWednesday? y = .ok w ∧ w.weekday = 2 ∧ w.dayNumber = e.dayNumber - 46 ∧ w.year = y ∧
      ((w.month = 2 ∧ 4 ≤ w.day) ∨ (w.month = 3 ∧ w.day ≤ 10))) := by
  refine ⟨easterMonthDay_eq_oudin y, easterMonthDay_valid y, easter_sunday_weekday y, ?_, ?_⟩
  · rcases easterMonthDay_between y with ⟨h3, h22, -⟩ | ⟨h4, -, h25⟩
    · exact .inl ⟨h3, h22⟩
    · exact .inr ⟨h4, h25⟩
  · intro hy
    obtain ⟨e, he, hymd⟩ := easterSunday?_ok hy
    obtain ⟨t, htv, hty, htn, htw⟩ := ashWednesday_ymd y
    let w : Date := ⟨t, by rw [hty]; exact hy, htv⟩
    have hsun := easter_sunday_weekday y
    have hwn : w.dayNumber = e.dayNumber - 46 := by
      show t.dayNumber = e.toYmd.dayNumber - 46
      rw [hymd, htn]
    have hash : e.addDays? ashWednesdayOffset = .ok w := by
      rw [Date.addDays?_ok_iff, ashWednesdayOffset]
      rw [Date.dayNumber_eq_ordinal, Date.dayNumber_eq_ordinal] at hwn
      omega
    refine ⟨e, w, he, hymd, ?_, ?_, hwn, hty, htw⟩
    · simp only [ashWednesday?, he, bind, Except.bind, hash]
    · show t.dayNumber % 7 = 2
      rw [htn]
      omega

end Almanac
