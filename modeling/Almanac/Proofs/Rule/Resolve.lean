import Mathlib
import Almanac.Proofs.Calendar.DayNumber

/-!
# The day a weekday rule names

A rule names, in a year, the day of its month that falls on its weekday and lies in the week of
the month that its ordinal counts: days 1 to 7 are the first week, 8 to 14 the second, and so on,
and the last occurrence lies in the last seven days of the month (`Rule.Names`). `Rule.dayIn`
does not search for that day: it computes the first occurrence from the weekday of the 1st and
adds whole weeks, or steps back from the weekday of the last day. `Rule.names_iff` shows that
the two agree, so resolving a rule in a supported year gives exactly the date it names, when
there is one, and otherwise the problem that names the rule, the year and the event
(`Rule.resolve_names`).

Only a fifth occurrence can be missing: every weekday occurs four times in a month of at least
28 days, and a fifth time exactly when its last occurrence falls after the 28th.
-/

namespace Almanac

namespace Rule

/-- The weekday of a day of a month runs on from the weekday of the 1st. -/
theorem weekdayOf_eq (y m d : Int) : weekdayOf y m d = (weekdayOf y m 1 + (d - 1)) % 7 := by
  rw [weekdayOf, weekdayOf, Ymd.dayNumber_day y m d]
  omega

/-- The weekday of a date is the weekday of its day of its month. -/
theorem weekday_eq_weekdayOf (e : Date) : e.weekday = weekdayOf e.year e.month e.day := rfl

/-- Whether date `e` is the day rule `r` names in year `y`: a day of the rule's month in that
year, on the rule's weekday, in the week of the month that the ordinal counts, or for the last
occurrence within seven days of the month's end. -/
def Names (r : Rule) (y : Int) (e : Date) : Prop :=
  e.year = y ∧ e.month = r.month ∧ e.weekday = r.weekday ∧
    match r.ordinal with
    | .last => monthLength y r.month < e.day + 7
    | .nth k => (e.day - 1) / 7 + 1 = k

/-- The rule of the last occurrence of the same weekday in the same month. -/
def toLast (r : Rule) : Rule := { r with ordinal := .last, ordinal_valid := trivial }

/-- A date names the day the rule computes, in its year and month. -/
theorem names_iff (r : Rule) (y : Int) (e : Date) :
    r.Names y e ↔ e.year = y ∧ e.month = r.month ∧ r.dayIn y = some e.day := by
  have hw := r.weekday_mem
  have hlen := monthLength_bounds y r.month r.month_mem
  unfold Names
  constructor
  · rintro ⟨rfl, hm, hwd, hord⟩
    obtain ⟨hd1, hd2⟩ : 1 ≤ e.day ∧ e.day ≤ monthLength e.year e.month :=
      ⟨e.valid.2.2.1, e.valid.2.2.2⟩
    rw [weekday_eq_weekdayOf, weekdayOf_eq] at hwd
    refine ⟨rfl, hm, ?_⟩
    rw [hm] at hd2 hwd
    have hn := weekdayOf_eq e.year r.month (monthLength e.year r.month)
    unfold dayIn
    split
    · rename_i ho
      rw [ho] at hord
      simp only [Option.some.injEq]
      omega
    · rename_i k ho
      rw [ho] at hord
      dsimp only
      rw [if_neg (by omega)]
      simp only [Option.some.injEq]
      omega
  · rintro ⟨rfl, hm, hday⟩
    obtain ⟨hd1, hd2⟩ := Rule.dayIn_mem hday
    refine ⟨rfl, hm, ?_⟩
    rw [weekday_eq_weekdayOf, weekdayOf_eq, hm]
    have hn := weekdayOf_eq e.year r.month (monthLength e.year r.month)
    have hk := r.ordinal_valid
    unfold dayIn at hday
    cases ho : r.ordinal with
    | last =>
      simp only [ho, Option.some.injEq] at hday ⊢
      omega
    | nth k =>
      simp only [ho, Ordinal.Valid] at hday hk ⊢
      split at hday
      · cases hday
      · simp only [Option.some.injEq] at hday
        omega

/-- The day a rule computes is a valid day of its month. -/
theorem dayIn_valid {r : Rule} {y d : Int} (hd : r.dayIn y = some d) :
    (Ymd.mk y r.month d).Valid := by
  obtain ⟨h1, h2⟩ := dayIn_mem hd
  exact ⟨r.month_mem.1, r.month_mem.2, h1, h2⟩

/-- The rule names a date in a year exactly when it computes a day there. -/
theorem exists_names_iff (r : Rule) {y : Int} (hy : 1 ≤ y ∧ y ≤ 9999) :
    (∃ e, r.Names y e) ↔ r.dayIn y ≠ none := by
  constructor
  · rintro ⟨e, he⟩
    rw [(names_iff r y e).1 he |>.2.2]
    exact Option.some_ne_none _
  · intro h
    obtain ⟨d, hd⟩ := Option.ne_none_iff_exists'.1 h
    let e : Date := ⟨⟨y, r.month, d⟩, hy, dayIn_valid hd⟩
    exact ⟨e, (names_iff r y e).2 ⟨rfl, rfl, hd⟩⟩

/-- A rule resolved in a supported year: the date it computes, or the problem of a missing
occurrence. -/
theorem resolve_int {r : Rule} {y : Int} (hy : 1 ≤ y ∧ y ≤ 9999) (eventId : Option String) :
    r.resolve (.int y) eventId = r.resolveIn y eventId := by
  have hyear : checkYear (.int y) = .ok y := by
    simp [checkYear, checkYearInt, firstYear, lastYear, hy]
  simp only [resolve, hyear, Except.mapError, bind, Except.bind]

/-- Resolving a rule in a supported year gives exactly the date it names. -/
theorem resolve_ok_iff (r : Rule) {y : Int} (hy : 1 ≤ y ∧ y ≤ 9999) (eventId : Option String)
    (e : Date) : r.resolve (.int y) eventId = .ok e ↔ r.Names y e := by
  rw [resolve_int hy, names_iff, resolveIn]
  cases hd : r.dayIn y with
  | none => simp
  | some d =>
    dsimp only
    rw [Date.make?_of_valid hy (dayIn_valid hd)]
    simp only [Except.mapError, Except.ok.injEq, Option.some.injEq]
    constructor
    · rintro rfl
      exact ⟨rfl, rfl, rfl⟩
    · rintro ⟨hey, hem, hed⟩
      apply Date.eq_of_toYmd
      show Ymd.mk y r.month d = e.toYmd
      rw [← hey, ← hem, hed]

/-- Resolving a rule in a supported year fails exactly when it names no date, and then with the
problem of a missing occurrence. -/
theorem resolve_error_iff (r : Rule) {y : Int} (hy : 1 ≤ y ∧ y ≤ 9999)
    (eventId : Option String) (f : Fault) : r.resolve (.int y) eventId = .error f ↔
      (¬ ∃ e, r.Names y e) ∧ f = .problem { cause := .noOccurrence r y eventId } := by
  rw [exists_names_iff r hy, resolve_int hy, resolveIn]
  cases hd : r.dayIn y with
  | none => simp [eq_comm]
  | some d =>
    dsimp only
    rw [Date.make?_of_valid hy (dayIn_valid hd)]
    simp [Except.mapError]

/-- The last occurrence of a weekday is always in its month. -/
theorem toLast_dayIn (r : Rule) (y : Int) :
    r.toLast.dayIn y = some (monthLength y r.month -
      (weekdayOf y r.month (monthLength y r.month) - r.weekday) % 7) := rfl

/-- Only a fifth occurrence can be missing, and it is missing exactly when the last occurrence
falls on the 28th or before: every weekday occurs in the first 28 days four times. -/
theorem dayIn_eq_none_iff (r : Rule) (y : Int) :
    r.dayIn y = none ↔ r.ordinal = .nth 5 ∧ ∃ d, r.toLast.dayIn y = some d ∧ d ≤ 28 := by
  have hw := r.weekday_mem
  have hlen := monthLength_bounds y r.month r.month_mem
  have hn := weekdayOf_eq y r.month (monthLength y r.month)
  simp only [toLast_dayIn, Option.some.injEq, exists_eq_left']
  unfold dayIn
  split
  · rename_i ho
    simp [ho]
  · rename_i k ho
    have hk := r.ordinal_valid
    rw [ho] at hk
    simp only [Ordinal.Valid] at hk
    dsimp only
    split
    · rename_i hpast
      simp only [ho, true_iff, Ordinal.nth.injEq]
      omega
    · rename_i hin
      simp only [ho, reduceCtorEq, false_iff, not_and, Ordinal.nth.injEq]
      omega

/-- A rule fails to resolve exactly when its fifth occurrence is asked for and the last one
falls on the 28th or before. -/
theorem resolve_fails_iff (r : Rule) {y : Int} (hy : 1 ≤ y ∧ y ≤ 9999)
    (eventId : Option String) :
    (∃ f, r.resolve (.int y) eventId = .error f) ↔
      r.ordinal = .nth 5 ∧ ∃ e, r.toLast.Names y e ∧ e.day ≤ 28 := by
  have hfails : (∃ f, r.resolve (.int y) eventId = .error f) ↔ r.dayIn y = none := by
    simp only [resolve_error_iff r hy, exists_names_iff r hy, ne_eq, Decidable.not_not,
      exists_and_left, exists_eq, and_true]
  rw [hfails, dayIn_eq_none_iff]
  refine and_congr_right fun _ => ⟨?_, ?_⟩
  · rintro ⟨d, hd, h28⟩
    let e : Date := ⟨⟨y, r.month, d⟩, hy, dayIn_valid (r := r.toLast) hd⟩
    exact ⟨e, (names_iff r.toLast y e).2 ⟨rfl, rfl, hd⟩, h28⟩
  · rintro ⟨e, he, h28⟩
    exact ⟨e.day, ((names_iff r.toLast y e).1 he).2.2, h28⟩

/-- The message of a missing occurrence, shown with the id of the event when one is given. -/
theorem noOccurrence_message_some (r : Rule) (y : Int) {id : String} (hid : id ≠ "") :
    (Fault.problem { cause := .noOccurrence r y (some id) }).message =
      s!"No {r.describe} in {y} (event '{id}')" := by
  have hempty : id.isEmpty = false := by simpa [String.isEmpty_iff] using hid
  show Problem.message _ = _
  unfold Problem.message Cause.message
  simp only [hempty, Bool.false_eq_true, if_false, String.append_empty, String.append_assoc]

/-- The message of a missing occurrence without an event, or with an empty id. -/
theorem noOccurrence_message_none (r : Rule) (y : Int) {eventId : Option String}
    (h : eventId = none ∨ eventId = some "") :
    (Fault.problem { cause := .noOccurrence r y eventId }).message =
      s!"No {r.describe} in {y}" := by
  show Problem.message _ = _
  unfold Problem.message Cause.message
  rcases h with rfl | rfl
  · simp only [String.append_empty]
  · have hempty : ("" : String).isEmpty = true := String.isEmpty_iff.2 rfl
    simp only [hempty, if_true, String.append_empty]

/-- Resolving a rule in a supported year gives the date it names, the last occurrence of its
weekday in its month or the counted one; when the month lacks a fifth occurrence, it reports
the problem of a missing occurrence, with its class, event and message. Only a fifth occurrence
can be missing, exactly when the last one falls on the 28th or before. -/
theorem resolve_names (r : Rule) {y : Int} (hy : 1 ≤ y ∧ y ≤ 9999) (eventId : Option String) :
    (∀ e, r.resolve (.int y) eventId = .ok e ↔ r.Names y e) ∧
    (∀ f, r.resolve (.int y) eventId = .error f ↔
      (¬ ∃ e, r.Names y e) ∧ f = .problem { cause := .noOccurrence r y eventId }) ∧
    (r.ordinal = .last → ∃ e, r.resolve (.int y) eventId = .ok e) ∧
    ((∃ f, r.resolve (.int y) eventId = .error f) ↔
      r.ordinal = .nth 5 ∧ ∃ e, r.toLast.Names y e ∧ e.day ≤ 28) ∧
    (Fault.problem { cause := .noOccurrence r y eventId }).kind.className =
        "InvalidRecurrenceRule" ∧
    Problem.eventId? { cause := .noOccurrence r y eventId } = eventId ∧
    (∀ id, eventId = some id → id ≠ "" →
      (Fault.problem { cause := .noOccurrence r y eventId }).message =
        s!"No {r.describe} in {y} (event '{id}')") ∧
    (eventId = none ∨ eventId = some "" →
      (Fault.problem { cause := .noOccurrence r y eventId }).message =
        s!"No {r.describe} in {y}") := by
  refine ⟨resolve_ok_iff r hy eventId, resolve_error_iff r hy eventId, ?_,
    resolve_fails_iff r hy eventId, by simp only [Fault.kind, FaultKind.className], rfl,
    fun id hid hne => by subst hid; exact noOccurrence_message_some r y hne,
    noOccurrence_message_none r y⟩
  intro hlast
  cases h : r.resolve (.int y) eventId with
  | ok e => exact ⟨e, rfl⟩
  | error f =>
    obtain ⟨hfifth, -⟩ := (resolve_fails_iff r hy eventId).1 ⟨f, h⟩
    rw [hlast] at hfifth
    cases hfifth

/-- The fifth Monday of February 2023 fails to resolve: the last Monday of that month is the
27th. -/
theorem resolve_names_fifthMonday :
    (1 ≤ (2023 : Int) ∧ (2023 : Int) ≤ 9999) ∧
      ∃ f, (⟨2, 0, .nth 5, by decide, by decide, by decide⟩ : Rule).resolve (.int 2023)
        (some "x") = .error f :=
  ⟨by decide, ((resolve_names ⟨2, 0, .nth 5, by decide, by decide, by decide⟩ (y := 2023)
    (by decide) (some "x")).2.2.2.1).2
      ⟨rfl, ⟨⟨2023, 2, 27⟩, by decide, by decide⟩,
        ⟨rfl, rfl, by decide, show (28 : Int) < 27 + 7 by decide⟩, by decide⟩⟩

end Rule

end Almanac
