import Mathlib
import Almanac.Anchor.Table

/-!
# Dates in supported years

The dates this library computes for a year from 1 to 9999 exist. A day number always names a
valid month and day (`Ymd.ofDayNumber_valid`), so moving a date by any number of days fails only
when the year it lands in is off the calendar (`Date.addDays?_error`). Easter Sunday falls in
March or April of its year, and Ash Wednesday in the same supported year, so both are dates
(`Feast.dateOf_supported`). A weekday rule names a day of its month whenever it names one at all
(`Rule.resolve_supported`), and a fixed month and day is a day of every year except February 29
of a common year, which the leap-day policy moves or drops (`resolveFixed_supported`).

The proofs about day numbers follow the cycles of the calendar: a day number is split into
400-year, century, 4-year and 153-day parts, each bounded in turn.
-/

namespace Almanac

namespace Ymd

/-- The year, month and day of any day number form a valid date of the proleptic Gregorian
calendar. -/
theorem ofDayNumber_valid (n : Int) : (ofDayNumber n).Valid := by
  simp only [ofDayNumber, Valid]
  -- the 400-year cycle `b`, the day `c` in it, the year `d` in a century-sized block, the day
  -- `e` of a March-based year and its month `m`
  generalize hb : (4 * (n + 32044) + 3) / 146097 = b
  have hq : 146097 * b / 4 = 36524 * b + b / 4 := by omega
  rw [hq] at *
  have hc : 0 ≤ n + 32044 - (36524 * b + b / 4) ∧ n + 32044 - (36524 * b + b / 4) ≤ 36524 := by omega
  generalize hc' : n + 32044 - (36524 * b + b / 4) = c at *
  generalize hd : (4 * c + 3) / 1461 = d
  have hdr : 0 ≤ d ∧ d ≤ 99 := by omega
  have he : 0 ≤ c - 1461 * d / 4 ∧ c - 1461 * d / 4 ≤ 365 := by omega
  have hleap : c - 1461 * d / 4 = 365 → d % 4 = 3 ∧ (d = 99 → b % 4 = 3) := by omega
  generalize he' : c - 1461 * d / 4 = e at *
  generalize hm : (5 * e + 2) / 153 = m
  have hmr : 0 ≤ m ∧ m ≤ 11 := by omega
  have hday : 0 ≤ e - (153 * m + 2) / 5 ∧ e - (153 * m + 2) / 5 ≤ 30 := by omega
  obtain ⟨hm0, hm11⟩ := hmr
  by_cases hfeb : m = 11
  · subst hfeb
    simp only [monthLength, isLeapYear, Bool.and_eq_true, beq_iff_eq, bne_iff_ne, Bool.or_eq_true]
    norm_num
    split_ifs <;> omega
  · interval_cases m <;> simp only [monthLength] <;> norm_num <;> omega

/-- The day numbers from January 1 of the year 1 to December 31 of the year 9999 lie in
supported years. -/
theorem ofDayNumber_year_mem {n : Int} (h1 : 1721426 ≤ n) (h2 : n ≤ 5373484) :
    1 ≤ (ofDayNumber n).year ∧ (ofDayNumber n).year ≤ 9999 := by
  simp only [ofDayNumber]
  generalize hb : (4 * (n + 32044) + 3) / 146097 = b
  have hq : 146097 * b / 4 = 36524 * b + b / 4 := by omega
  rw [hq]
  have hbr : 48 ≤ b ∧ b ≤ 147 := by omega
  have hc : 0 ≤ n + 32044 - (36524 * b + b / 4) ∧ n + 32044 - (36524 * b + b / 4) ≤ 36524 := by omega
  have hc1 : b = 48 → 306 ≤ n + 32044 - (36524 * b + b / 4) := by omega
  have hc2 : b = 147 → n + 32044 - (36524 * b + b / 4) ≤ 36464 := by omega
  generalize hc' : n + 32044 - (36524 * b + b / 4) = c at *
  generalize hd : (4 * c + 3) / 1461 = d
  have hdr : 0 ≤ d ∧ d ≤ 99 := by omega
  have he : 0 ≤ c - 1461 * d / 4 ∧ c - 1461 * d / 4 ≤ 365 := by omega
  have he1 : b = 48 → d = 0 → 306 ≤ c - 1461 * d / 4 := by omega
  have he2 : b = 147 → d = 99 → c - 1461 * d / 4 ≤ 305 := by omega
  generalize he' : c - 1461 * d / 4 = e at *
  have hm : 0 ≤ (5 * e + 2) / 153 ∧ (5 * e + 2) / 153 ≤ 11 := by omega
  have hm1 : 306 ≤ e → 10 ≤ (5 * e + 2) / 153 := by omega
  have hm2 : e ≤ 305 → (5 * e + 2) / 153 ≤ 9 := by omega
  generalize (5 * e + 2) / 153 = m at *
  omega

end Ymd

/-- The faults of a date past the supported years: its year lies outside 1 to 9999, or does not
even fit a machine word. -/
def DateFault.OffCalendar : DateFault → Prop
  | .yearOutOfRange y => y < 1 ∨ 9999 < y
  | .tooLarge | .aboveRange | .belowRange => True
  | _ => False

namespace Date

/-- A number within the signed 32-bit range fits a word. -/
theorem wordFault?_eq_none {n : Int} (h : -2147483648 ≤ n ∧ n ≤ 2147483647) :
    wordFault? n = none := by
  unfold wordFault?
  split
  · rename_i hw
    simp only [Bool.or_eq_true, decide_eq_true_eq] at hw
    omega
  · split
    · omega
    · split
      · omega
      · rfl

/-- A valid month and day of a supported year make a date. -/
theorem make?_of_valid {y m d : Int} (hy : 1 ≤ y ∧ y ≤ 9999) (hv : (Ymd.mk y m d).Valid) :
    make? y m d = .ok ⟨⟨y, m, d⟩, hy, hv⟩ := by
  obtain ⟨hm1, hm2, hd1, hd2⟩ : 1 ≤ m ∧ m ≤ 12 ∧ 1 ≤ d ∧ d ≤ monthLength y m := hv
  have hd3 := monthLength_bounds y m ⟨hm1, hm2⟩
  rw [make?, wordFault?_eq_none (by omega), wordFault?_eq_none (by omega),
    wordFault?_eq_none (by omega)]
  simp [ofYmdChecked, hy, Ymd.Valid, hm1, hm2, hd1, hd2]

/-- A valid month and day of a supported year, given as integers, make a date. -/
theorem ofValues?_of_valid {y m d : Int} (hy : 1 ≤ y ∧ y ≤ 9999) (hv : (Ymd.mk y m d).Valid) :
    ofValues? (.int y) (.int m) (.int d) = .ok ⟨⟨y, m, d⟩, hy, hv⟩ := by
  obtain ⟨hm1, hm2, hd1, hd2⟩ : 1 ≤ m ∧ m ≤ 12 ∧ 1 ≤ d ∧ d ≤ monthLength y m := hv
  have hd3 := monthLength_bounds y m ⟨hm1, hm2⟩
  simp [ofValues?, argument?, Value.asInt?, wordFault?_eq_none (show -2147483648 ≤ y ∧ y ≤ 2147483647 by omega),
    wordFault?_eq_none (show -2147483648 ≤ m ∧ m ≤ 2147483647 by omega),
    wordFault?_eq_none (show -2147483648 ≤ d ∧ d ≤ 2147483647 by omega), bind, Except.bind,
    ofYmdChecked, hy, Ymd.Valid, hm1, hm2, hd1, hd2]

/-- A number that does not fit a word is off the calendar as a year. -/
theorem wordFault?_offCalendar {n : Int} {f : DateFault} (h : wordFault? n = some f) :
    f.OffCalendar := by
  unfold wordFault? at h
  split at h
  · cases h
    trivial
  · split at h
    · cases h
      trivial
    · split at h
      · cases h
        trivial
      · cases h

/-- A day number gives a date unless its year is off the calendar. -/
theorem ofDayNumber?_error {n : Int} {f : DateFault} (h : ofDayNumber? n = .error f) :
    f.OffCalendar := by
  obtain ⟨hm1, hm2, hd1, hd2⟩ := Ymd.ofDayNumber_valid n
  have hd3 := monthLength_bounds (Ymd.ofDayNumber n).year _ ⟨hm1, hm2⟩
  unfold ofDayNumber? make? at h
  dsimp only at h
  have hwm : wordFault? (Ymd.ofDayNumber n).month = none := wordFault?_eq_none (by omega)
  have hwd : wordFault? (Ymd.ofDayNumber n).day = none := wordFault?_eq_none (by omega)
  rw [hwm, hwd] at h
  cases hw : wordFault? (Ymd.ofDayNumber n).year with
  | some f' =>
    rw [hw] at h
    cases h
    exact wordFault?_offCalendar hw
  | none =>
    rw [hw] at h
    simp only [ofYmdChecked] at h
    split at h
    · rename_i hy
      rw [dif_pos ⟨hm1, hm2, hd1, hd2⟩] at h
      cases h
    · cases h
      simp only [DateFault.OffCalendar]
      omega

/-- A day number whose year is supported gives its date. -/
theorem ofDayNumber?_ok {n : Int} (hy : 1 ≤ (Ymd.ofDayNumber n).year ∧ (Ymd.ofDayNumber n).year ≤ 9999) :
    ∃ d, ofDayNumber? n = .ok d ∧ d.toYmd = Ymd.ofDayNumber n :=
  ⟨_, make?_of_valid hy (Ymd.ofDayNumber_valid n), rfl⟩

/-- Moving a date fails only with a year off the calendar. -/
theorem addDays?_error {d : Date} {n : Int} {f : DateFault} (h : d.addDays? n = .error f) :
    f.OffCalendar :=
  ofDayNumber?_error h

end Date

/-! ## Feasts -/

/-- Easter Sunday falls between March 15 and April 26 of its year. -/
theorem easterMonthDay_window (y : Int) :
    ((easterMonthDay y).1 = 3 ∧ 15 ≤ (easterMonthDay y).2 ∧ (easterMonthDay y).2 ≤ 31) ∨
      ((easterMonthDay y).1 = 4 ∧ 1 ≤ (easterMonthDay y).2 ∧ (easterMonthDay y).2 ≤ 26) := by
  simp only [easterMonthDay]
  -- the golden number, the epact and the weekday step are residues below 19, 30 and 7, so the
  -- correction is 0 or 1 and the count from March 0 lies between 107 and 149
  omega

/-- The month and day of Easter Sunday exist in every year. -/
theorem easterMonthDay_valid (y : Int) :
    (Ymd.mk y (easterMonthDay y).1 (easterMonthDay y).2).Valid := by
  show 1 ≤ (easterMonthDay y).1 ∧ (easterMonthDay y).1 ≤ 12 ∧ 1 ≤ (easterMonthDay y).2 ∧
    (easterMonthDay y).2 ≤ monthLength y (easterMonthDay y).1
  rcases easterMonthDay_window y with ⟨hm, hd1, hd2⟩ | ⟨hm, hd1, hd2⟩ <;>
  · rw [hm]
    simp only [monthLength]
    norm_num
    omega

/-- Easter Sunday of a supported year is a date. -/
theorem easterSunday?_ok {y : Int} (hy : 1 ≤ y ∧ y ≤ 9999) :
    ∃ d, easterSunday? y = .ok d ∧ d.toYmd = ⟨y, (easterMonthDay y).1, (easterMonthDay y).2⟩ :=
  ⟨_, Date.make?_of_valid hy (easterMonthDay_valid y), rfl⟩

/-- The day numbers 46 days before the Easter Sundays of supported years lie in supported
years. -/
theorem easter_dayNumber_sub_mem {y : Int} (hy : 1 ≤ y ∧ y ≤ 9999) :
    1721426 ≤ (Ymd.mk y (easterMonthDay y).1 (easterMonthDay y).2).dayNumber - 46 ∧
      (Ymd.mk y (easterMonthDay y).1 (easterMonthDay y).2).dayNumber - 46 ≤ 5373484 := by
  rcases easterMonthDay_window y with ⟨hm, hd1, hd2⟩ | ⟨hm, hd1, hd2⟩ <;>
  · simp only [Ymd.dayNumber, hm]
    omega

/-- Ash Wednesday of a supported year is a date. -/
theorem ashWednesday?_ok {y : Int} (hy : 1 ≤ y ∧ y ≤ 9999) : ∃ d, ashWednesday? y = .ok d := by
  obtain ⟨e, he, hymd⟩ := easterSunday?_ok hy
  have hn := easter_dayNumber_sub_mem hy
  rw [← hymd] at hn
  obtain ⟨d, hd, -⟩ := Date.ofDayNumber?_ok (Ymd.ofDayNumber_year_mem hn.1 hn.2)
  refine ⟨d, ?_⟩
  simp only [ashWednesday?, he, bind, Except.bind, Date.addDays?, Date.dayNumber, ashWednesdayOffset]
  rw [← hd]
  congr 1

/-- Every feast has a date in every supported year. -/
theorem Feast.dateOf_supported (f : Feast) {y : Int} (hy : 1 ≤ y ∧ y ≤ 9999) :
    ∃ d, f.dateOf (.int y) = .ok d := by
  have hyear : feastYear (.int y) = .ok y := by
    simp [feastYear, Value.isHashable, checkYear, checkYearInt, firstYear, lastYear, hy,
      Except.mapError]
  cases f with
  | ashWednesday =>
    obtain ⟨d, hd⟩ := ashWednesday?_ok hy
    exact ⟨d, by simp [Feast.dateOf, ashWednesdayOf, hyear, hd, bind, Except.bind, Except.mapError]⟩
  | easterSunday =>
    obtain ⟨d, hd, -⟩ := easterSunday?_ok hy
    exact ⟨d, by simp [Feast.dateOf, easterOf, hyear, hd, bind, Except.bind, Except.mapError]⟩

/-! ## Rules and fixed days -/

/-- The day a rule names, when the month has it, is a day of the month. -/
theorem Rule.dayIn_mem {r : Rule} {y d : Int} (h : r.dayIn y = some d) :
    1 ≤ d ∧ d ≤ monthLength y r.month := by
  have hn := monthLength_bounds y r.month r.month_mem
  unfold Rule.dayIn at h
  split at h
  · cases h
    omega
  · rename_i k hk
    have hv := r.ordinal_valid
    rw [hk] at hv
    simp only [Ordinal.Valid] at hv
    dsimp only at h
    split at h
    · cases h
    · cases h
      omega

/-- In a supported year a rule names a date, or the month lacks the occurrence it counts. -/
theorem Rule.resolve_supported (r : Rule) {y : Int} (hy : 1 ≤ y ∧ y ≤ 9999)
    (eventId : Option String) :
    (∃ d, r.resolve (.int y) eventId = .ok d) ∨
      r.resolve (.int y) eventId = .error (.problem { cause := .noOccurrence r y eventId }) := by
  have hyear : checkYear (.int y) = .ok y := by
    simp [checkYear, checkYearInt, firstYear, lastYear, hy]
  simp only [Rule.resolve, hyear, Except.mapError, bind, Except.bind, Rule.resolveIn]
  cases hd : r.dayIn y with
  | none => exact .inr rfl
  | some d =>
    obtain ⟨h1, h2⟩ := Rule.dayIn_mem hd
    have hv : (Ymd.mk y r.month d).Valid := ⟨r.month_mem.1, r.month_mem.2, h1, h2⟩
    dsimp only
    rw [Date.make?_of_valid hy hv]
    exact .inl ⟨_, rfl⟩

/-- A fixed month and day is a day of every year, unless it is February 29 of a common year. -/
theorem MonthDay.valid_in (md : MonthDay) (y : Int)
    (h : md.isLeapDay = false ∨ isLeapYear y = true) : (Ymd.mk y md.month md.day).Valid := by
  obtain ⟨hm1, hm2⟩ := md.month_mem
  obtain ⟨hd1, hd2⟩ := md.day_mem
  show 1 ≤ md.month ∧ md.month ≤ 12 ∧ 1 ≤ md.day ∧ md.day ≤ monthLength y md.month
  refine ⟨hm1, hm2, hd1, ?_⟩
  unfold maxMonthLength at hd2
  by_cases hfeb : md.month = 2
  · simp only [hfeb, if_true] at hd2
    simp only [monthLength, hfeb, if_true]
    split
    · exact hd2
    · rename_i hleap
      have h29 : md.day ≠ 29 := by
        rcases h with h | h
        · simpa [MonthDay.isLeapDay, hfeb] using h
        · exact absurd h hleap
      omega
  · simp only [hfeb, if_false] at hd2
    simpa [monthLength, hfeb] using hd2

/-- A fixed month and day has a date in every supported year, or no date under `skip` on
February 29 of a common year. -/
theorem resolveFixed_supported (p : LeapPolicy) {y : Int} (hy : 1 ≤ y ∧ y ≤ 9999)
    (md : MonthDay) : ∃ d, resolveFixed p (.int y) md = .ok d := by
  unfold resolveFixed
  cases hl : md.isLeapDay with
  | false =>
    simp only [Bool.false_eq_true, if_false]
    rw [Date.ofValues?_of_valid hy (md.valid_in y (.inl hl))]
    exact ⟨_, rfl⟩
  | true =>
    cases hleap : isLeapYear y with
    | false =>
      cases p with
      | skip => exact ⟨none, by simp [leapYearOf, hleap, bind, Except.bind, pure, Except.pure]⟩
      | clamp =>
        have hv : (Ymd.mk y 2 28).Valid := by
          refine ⟨by norm_num, by norm_num, by norm_num, ?_⟩
          show (28 : Int) ≤ monthLength y 2
          simp only [monthLength, if_true]
          split <;> norm_num
        simp only [if_true, leapYearOf, hleap, bind, Except.bind, Bool.not_false]
        rw [Date.ofValues?_of_valid hy hv]
        exact ⟨_, rfl⟩
    | true =>
      simp only [if_true, leapYearOf, hleap, bind, Except.bind, Bool.not_true, Bool.false_eq_true,
        if_false]
      rw [Date.ofValues?_of_valid hy (md.valid_in y (.inr hleap))]
      exact ⟨_, rfl⟩

end Almanac
