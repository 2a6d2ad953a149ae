import Mathlib
import Almanac.Cli.MonthGrid
import Almanac.Proofs.Rule.Resolve

/-!
# The layout of a month grid

`monthGrid` builds a month's grid as one row of cells, blank cells up to the weekday of the 1st
and then one cell per day, and cuts the row into weeks of seven with `weeksOf`, padding the last
week with blank cells. Here the grid is described by place instead: `dayAt` names the day shown
in each column of each week, and `monthGrid_eq` shows that the grid holds that day's cell there
and a blank cell wherever `dayAt` names no day. Day `k` stands in week `(lead + k - 1) / 7` and
column `(lead + k - 1) % 7` (`dayAt_eq_some_iff`), which is the column of its weekday
(`column_eq_weekday`).

A day's marker lists the capital initials of its events' categories, each once and in increasing
order, and then the number of events when there are several (`Marks`). `marker_marks` shows that
sorting the initials and dropping equal neighbours gives exactly that list.

`monthGrid_layout` puts these together with the texts of the cells: day numbers are right-aligned
in two places, cells are six characters wide, and lines lose exactly their trailing blanks.
-/

namespace Almanac

/-! ## Markers -/

namespace Text

theorem mem_dedupSorted {l : List String} {s : String} : s ∈ dedupSorted l ↔ s ∈ l := by
  fun_induction dedupSorted l with
  | case1 a b rest hab ih =>
    rw [beq_iff_eq] at hab
    subst hab
    simp [ih]
  | case2 a b rest hab ih => simp [ih]
  | case3 xs => rfl

/-- Dropping equal neighbours from a sorted list leaves a strictly increasing one. -/
theorem dedupSorted_sortedLT {l : List String} (h : l.Pairwise (· ≤ ·)) :
    (dedupSorted l).SortedLT := by
  rw [List.sortedLT_iff_pairwise]
  fun_induction dedupSorted l with
  | case1 a b rest hab ih => exact ih h.of_cons
  | case2 a b rest hab ih =>
    refine List.Pairwise.cons (fun x hx => ?_) (ih h.of_cons)
    rw [mem_dedupSorted] at hx
    refine lt_of_le_of_ne (List.rel_of_pairwise_cons h hx) fun hax => ?_
    subst hax
    rw [beq_iff_eq] at hab
    rcases List.mem_cons.mp hx with hb | hrest
    · exact hab hb
    · exact hab (le_antisymm (List.rel_of_pairwise_cons h List.mem_cons_self)
        (List.rel_of_pairwise_cons h.of_cons hrest))
  | case3 xs hxs =>
    match xs, hxs with
    | [], _ => exact List.Pairwise.nil
    | [_], _ => exact List.pairwise_singleton _ _
    | a :: b :: rest, hxs => exact absurd rfl (hxs a b rest)

theorem mem_sortedDistinct {l : List String} {s : String} : s ∈ sortedDistinct l ↔ s ∈ l := by
  rw [sortedDistinct, mem_dedupSorted, (List.mergeSort_perm _ _).mem_iff]

/-- The texts in increasing order, each once, are strictly increasing. -/
theorem sortedDistinct_sortedLT (l : List String) : (sortedDistinct l).SortedLT := by
  apply dedupSorted_sortedLT
  simpa using @List.pairwise_mergeSort String (fun a b => decide (a ≤ b))
    (fun a b c hab hbc => by simp only [decide_eq_true_eq] at *; exact le_trans hab hbc)
    (fun a b => by simpa using le_total a b) l

end Text

namespace Cli

/-- `m` marks the events of one day: the capital initials of their categories, each once and in
increasing order, then the number of events when there are several. -/
def Marks (events : List Occurrence) (m : String) : Prop :=
  ∃ kinds : List String, kinds.SortedLT ∧
    (∀ s, s ∈ kinds ↔ ∃ e ∈ events, ∃ c cs, e.definition.category.toList = c :: cs ∧
      s = Text.upper (String.ofList [c])) ∧
    m = String.join kinds ++ (if events.length ≤ 1 then "" else toString events.length)

/-- The marker of events with non-empty categories marks them. -/
theorem marker_marks (events : List Occurrence)
    (h : ∀ e ∈ events, e.definition.category ≠ "") : Marks events (marker events) := by
  let initials := events.map fun e =>
    Text.upper (String.ofList (e.definition.category.toList.take 1))
  refine ⟨Text.sortedDistinct initials, Text.sortedDistinct_sortedLT initials, fun s => ?_, ?_⟩
  · rw [Text.mem_sortedDistinct, List.mem_map]
    constructor
    · rintro ⟨e, he, rfl⟩
      obtain ⟨c, cs, hc⟩ := List.exists_cons_of_ne_nil (mt String.toList_eq_nil_iff.mp (h e he))
      exact ⟨e, he, c, cs, hc, by rw [hc]; rfl⟩
    · rintro ⟨e, he, c, cs, hc, rfl⟩
      exact ⟨e, he, by rw [hc]; rfl⟩
  · unfold marker
    cases events with
    | nil => simp [initials, Text.sortedDistinct, Text.dedupSorted]
    | cons e rest =>
      simp only [List.isEmpty_cons, Bool.false_eq_true, ↓reduceIte, List.length_cons, beq_iff_eq]
      split
      · rw [if_pos (by omega), String.append_empty]
      · rw [if_neg (by omega)]

/-! ## Cells and lines -/

/-- A day's number takes two places: a one-digit day gets a space in front. -/
theorem dayNumberText_eq {k : Nat} (hk : k < 100) :
    dayNumberText k = (if k < 10 then " " else "") ++ toString k := by
  have hs : toString (k : Int) = k.repr := rfl
  have hpos : 0 < k.repr.length := Nat.length_repr_pos
  have hle : k.repr.length ≤ 2 := (Nat.length_repr_le_iff (by omega)).mpr (by omega)
  have hone : k.repr.length ≤ 1 ↔ k < 10 := Nat.length_repr_le_iff (by omega)
  unfold dayNumberText
  dsimp only
  rw [hs, Nat.toString_eq_repr]
  split
  · rw [show 2 - k.repr.length = 1 by omega]
    rfl
  · rw [show 2 - k.repr.length = 0 by omega]
    rfl

/-- Both texts of a cell are as wide as a cell. -/
theorem cell_width (top bottom : String) :
    (cell top bottom).1.length = cellWidth ∧ (cell top bottom).2.length = cellWidth := by
  simp [cell, padRight, spaces, cellWidth]

/-- Trimming a line at the right removes its trailing blanks and nothing else. -/
theorem trimRight_spec (s : String) :
    ∃ blanks : List Char, s.toList = (trimRight s).toList ++ blanks ∧
      (∀ c ∈ blanks, Text.isBlank c) ∧ ∀ c ∈ (trimRight s).toList.getLast?, ¬ Text.isBlank c := by
  refine ⟨(s.toList.reverse.takeWhile Text.isBlank).reverse, ?_, ?_, ?_⟩
  · simp [trimRight, ← List.reverse_append, List.takeWhile_append_dropWhile]
  · intro c hc
    exact List.mem_takeWhile_imp (List.mem_reverse.mp hc)
  · intro c hc
    simp only [trimRight, String.toList_ofList, List.getLast?_reverse] at hc
    have hhead := List.head?_dropWhile_not Text.isBlank s.toList.reverse
    rw [hc] at hhead
    simpa using hhead

/-! ## Weeks -/

/-- A week read off the front of a row of cells: its first seven cells, padded with blank ones. -/
theorem week_getD_eq_take (l : List (String × String)) :
    (List.range 7).map (fun j => l[j]?.getD blankCell) =
      l.take 7 ++ List.replicate (7 - (l.take 7).length) blankCell := by
  apply List.ext_getElem?
  intro j
  simp only [List.getElem?_map, List.getElem?_append, List.getElem?_take,
    List.getElem?_replicate, List.length_take]
  by_cases hj : j < 7 <;> by_cases hl : j < l.length <;> simp [hj, hl] <;> omega

/-- With enough fuel, week `i` of a row of cells holds its cells `7 i` to `7 i + 6`, blank ones
past its end, and there are as many weeks as the row fills or starts. -/
theorem weeksOf_eq (cells : List (String × String)) (fuel : Nat)
    (h : (cells.length + 6) / 7 ≤ fuel) :
    weeksOf cells fuel = (List.range ((cells.length + 6) / 7)).map fun i =>
      (List.range 7).map fun j => cells[7 * i + j]?.getD blankCell := by
  fun_induction weeksOf cells fuel with
  | case1 => simp
  | case2 cells hne =>
    have : 0 < cells.length := List.length_pos_iff.mpr hne
    omega
  | case3 cells fuel hne week rest hrest =>
    have hlen : cells.length ≤ 7 := by simpa [rest] using hrest
    have hpos : 0 < cells.length := List.length_pos_iff.mpr hne
    rw [show (cells.length + 6) / 7 = 1 by omega]
    simp only [List.range_one, List.map_cons, List.map_nil, Nat.mul_zero, Nat.zero_add,
      week_getD_eq_take, week]
  | case4 cells fuel hne week rest hrest ih =>
    have hlen : 7 < cells.length := by simpa [rest] using hrest
    have hrest_len : rest.length = cells.length - 7 := List.length_drop
    have hweeks : (cells.length + 6) / 7 = (rest.length + 6) / 7 + 1 := by omega
    rw [hweeks, List.range_succ_eq_map (n := (rest.length + 6) / 7), List.map_cons, List.map_map,
      ih (by omega)]
    congr 1
    · have : (cells.take 7).length = 7 := by simp; omega
      simp only [Nat.mul_zero, Nat.zero_add, week_getD_eq_take, this, Nat.sub_self,
        List.replicate_zero, List.append_nil, week]
    · refine List.map_congr_left fun i _ => ?_
      simp only [Function.comp_apply]
      refine List.map_congr_left fun j _ => ?_
      simp only [rest, List.getElem?_drop]
      congr 2
      omega

/-- The day shown at column `col` of week `week` in a month of `days` days whose first day stands
in column `lead`: the days follow one another a cell each, seven to a week. -/
def dayAt (lead days week col : Nat) : Option Nat :=
  if lead ≤ 7 * week + col ∧ 7 * week + col < lead + days then some (7 * week + col + 1 - lead)
  else none

/-- Day `k` of the month, and no other, is shown in week `(lead + k - 1) / 7`, column
`(lead + k - 1) % 7`. -/
theorem dayAt_eq_some_iff {lead days week col k : Nat} (hcol : col < 7) :
    dayAt lead days week col = some k ↔
      1 ≤ k ∧ k ≤ days ∧ week = (lead + k - 1) / 7 ∧ col = (lead + k - 1) % 7 := by
  unfold dayAt
  split <;> simp <;> omega

example : dayAt 3 29 0 3 = some 1 ∧ dayAt 3 29 4 3 = some 29 ∧ dayAt 3 29 4 4 = none := by
  decide

/-- When the 1st stands in the column of its weekday, so does every day of the month. -/
theorem column_eq_weekday (year month : Int) {k : Nat} (hk : 1 ≤ k) :
    (((Rule.weekdayOf year month 1).toNat + k - 1) % 7 : Nat) = Rule.weekdayOf year month k := by
  rw [Rule.weekdayOf_eq year month k]
  have h0 : 0 ≤ Rule.weekdayOf year month 1 := Int.emod_nonneg _ (by decide)
  omega

/-- Cell `p` of a row of `lead` blank cells followed by `days` cells. -/
theorem paddedRow_getD (lead days : Nat) (f : Nat → String × String) (p : Nat) :
    (List.replicate lead blankCell ++ (List.range days).map f)[p]?.getD blankCell =
      if lead ≤ p ∧ p < lead + days then f (p - lead) else blankCell := by
  simp only [List.getElem?_append, List.length_replicate, List.getElem?_replicate,
    List.getElem?_map]
  by_cases h1 : p < lead <;> by_cases h2 : p - lead < days <;> simp [h1, h2] <;> omega

/-- The weeks of a month's row of cells: each place holds the cell of the day `dayAt` names
there, or a blank cell. -/
theorem weeksOf_monthCells (lead days fuel : Nat) (dayCell : Int → String × String)
    (hfuel : (lead + days + 6) / 7 ≤ fuel) :
    weeksOf (List.replicate lead blankCell ++
        ((List.range days).map fun i => Int.ofNat i + 1).map dayCell) fuel =
      (List.range ((lead + days + 6) / 7)).map fun week => (List.range 7).map fun col =>
        match dayAt lead days week col with
        | some k => dayCell k
        | none => blankCell := by
  rw [weeksOf_eq _ _ (by simpa using hfuel)]
  simp only [List.map_map, List.length_append, List.length_replicate, List.length_map,
    List.length_range]
  refine List.map_congr_left fun week _ => List.map_congr_left fun col _ => ?_
  rw [paddedRow_getD]
  unfold dayAt
  split
  · simp only [Function.comp_apply, Int.ofNat_eq_natCast]
    congr 1
    omega
  · rfl

/-! ## The grid -/

/-- The grid of a month of the calendar: its title, the weekday names and a rule, then the two
lines of each week, whose places hold the cells of the days `dayAt` names there and blank cells
elsewhere, and last, when events fall in the month, a blank line and a line for each of them in
their order. December 9999 has no grid: stepping past its last day leaves the calendar. -/
theorem monthGrid_eq (country : String) (year month : Int) (events : List Occurrence)
    (hy : 1 ≤ year ∧ year ≤ 9999) (hm : 1 ≤ month ∧ month ≤ 12) :
    let lead := (Rule.weekdayOf year month 1).toNat
    let days := (monthLength year month).toNat
    let inMonth := events.filter fun e => e.date.year = year ∧ e.date.month = month
    monthGrid country year month events =
      if year = 9999 ∧ month = 12 then .error .dateOverflow
      else .ok ([country ++ "  " ++ monthName month ++ " " ++ toString year, weekdayHeader,
          String.ofList (List.replicate weekdayHeader.length '-')] ++
        (List.range ((lead + days + 6) / 7)).flatMap (fun week =>
          weekLines ((List.range 7).map fun col =>
            match dayAt lead days week col with
            | some k => cell (dayNumberText k)
                (marker (events.filter fun e => e.date.toYmd = ⟨year, month, k⟩))
            | none => blankCell)) ++
        (if inMonth = [] then [] else "" :: inMonth.map eventLine)) := by
  intro lead days inMonth
  have hkey : ∀ (t : Date) (d : Int),
      (t.key == (year, month, d)) = decide (t.toYmd = ⟨year, month, d⟩) := by
    rintro ⟨⟨y, m, d'⟩, _, _⟩ d
    rw [Bool.eq_iff_iff]
    simp only [beq_iff_eq, decide_eq_true_eq, Date.key, Prod.mk.injEq, Ymd.mk.injEq]
  have hmonth : ∀ t : Date,
      (t.year == year && t.month == month) = decide (t.year = year ∧ t.month = month) := by
    intro t
    rw [Bool.eq_iff_iff]
    simp only [Bool.and_eq_true, beq_iff_eq, decide_eq_true_eq]
  have hfirst : (Ymd.mk year month 1).Valid := by
    have := monthLength_bounds year month hm
    refine ⟨hm.1, hm.2, le_refl _, ?_⟩
    show (1 : Int) ≤ monthLength year month
    omega
  have hlead : (Date.weekday ⟨⟨year, month, 1⟩, hy, hfirst⟩).toNat = lead := rfl
  have hdays : (monthLength year month).toNat = days := rfl
  unfold monthGrid
  simp only [Date.make?_of_valid hy hfirst, Except.mapError, bind, Except.bind, lastYear]
  by_cases hend : year = 9999 ∧ month = 12
  · simp only [hend, and_self, ↓reduceIte]
    rfl
  · simp only [hend, ↓reduceIte, hkey, hmonth, List.isEmpty_iff, hlead, hdays, pure, Except.pure]
    rw [weeksOf_monthCells _ _ _ _ (by simp; omega), List.flatMap_map]

/-- The lines of a month grid, exactly when they are drawn: for a month of the calendar other
than December 9999, the title, the weekday names and a rule; then two lines for each of the
`⌈(lead + days) / 7⌉` weeks the month touches, where `lead` is the weekday of the 1st and `days`
the length of the month, with day `k`'s number and marker in the cell of week
`(lead + k - 1) / 7` and column `(lead + k - 1) % 7`, the column of its weekday, and every other
cell blank; then, when events fall in the month, a blank line and one line for each of them, in
their order. Day numbers take two places, cells six characters, markers list the capital
initials of the day's events and their number, and lines lose exactly their trailing blanks. -/
theorem monthGrid_layout (country : String) (year month : Int) (events : List Occurrence)
    (hy : 1 ≤ year ∧ year ≤ 9999) (hm : 1 ≤ month ∧ month ≤ 12)
    (hcat : ∀ e ∈ events, e.definition.category ≠ "") :
    let lead := (Rule.weekdayOf year month 1).toNat
    let days := (monthLength year month).toNat
    let onDay (k : Nat) := events.filter fun e => e.date.toYmd = ⟨year, month, k⟩
    let inMonth := events.filter fun e => e.date.year = year ∧ e.date.month = month
    (monthGrid country year month events =
      if year = 9999 ∧ month = 12 then .error .dateOverflow
      else .ok ([country ++ "  " ++ monthName month ++ " " ++ toString year, weekdayHeader,
          String.ofList (List.replicate weekdayHeader.length '-')] ++
        (List.range ((lead + days + 6) / 7)).flatMap (fun week =>
          weekLines ((List.range 7).map fun col =>
            match dayAt lead days week col with
            | some k => cell (dayNumberText k) (marker (onDay k))
            | none => blankCell)) ++
        (if inMonth = [] then [] else "" :: inMonth.map eventLine))) ∧
    (∀ week col k, col < 7 → (dayAt lead days week col = some k ↔
      1 ≤ k ∧ k ≤ days ∧ week = (lead + k - 1) / 7 ∧ col = (lead + k - 1) % 7)) ∧
    (∀ k, 1 ≤ k → (((lead + k - 1) % 7 : Nat) : Int) = Rule.weekdayOf year month k) ∧
    (∀ k, Marks (onDay k) (marker (onDay k))) ∧
    (∀ k : Nat, k < 100 → dayNumberText k = (if k < 10 then " " else "") ++ toString k) ∧
    (∀ top bottom, (cell top bottom).1.length = cellWidth ∧
      (cell top bottom).2.length = cellWidth) ∧
    (∀ line, ∃ blanks : List Char, line.toList = (trimRight line).toList ++ blanks ∧
      (∀ c ∈ blanks, Text.isBlank c) ∧
      ∀ c ∈ (trimRight line).toList.getLast?, ¬ Text.isBlank c) := by
  intro lead days onDay inMonth
  refine ⟨monthGrid_eq country year month events hy hm, fun _ _ _ hcol => dayAt_eq_some_iff hcol,
    fun _ hk => column_eq_weekday year month hk, fun k => marker_marks _ ?_,
    fun _ hk => dayNumberText_eq hk, cell_width, trimRight_spec⟩
  intro e he
  exact hcat e (List.mem_filter.mp he).1

/-- The grid of December 9999 is not drawn. -/
theorem monthGrid_december_9999 : monthGrid "TT" 9999 12 [] = .error .dateOverflow := rfl

/-- Emancipation Day and Grand Kadooment Day in Barbados, which fall together on 1 August 2022. -/
def kadoomentDay : List Occurrence :=
  [⟨{ id := "bb-emancipation", country := "BB", category := "historical",
        title := "Emancipation Day" }, 2022, ⟨⟨2022, 8, 1⟩, by decide, by decide⟩⟩,
    ⟨{ id := "bb-kadooment", country := "BB", category := "cultural",
        title := "Grand Kadooment Day" }, 2022, ⟨⟨2022, 8, 1⟩, by decide, by decide⟩⟩]

theorem monthGrid_layout_kadooment :
    (1 ≤ (2022 : Int) ∧ (2022 : Int) ≤ 9999) ∧ (1 ≤ (8 : Int) ∧ (8 : Int) ≤ 12) ∧
      (∀ e ∈ kadoomentDay, e.definition.category ≠ "") ∧
      Marks (kadoomentDay.filter fun e => e.date.toYmd = ⟨2022, 8, 1⟩)
        (marker (kadoomentDay.filter fun e => e.date.toYmd = ⟨2022, 8, 1⟩)) := by
  have hcat : ∀ e ∈ kadoomentDay, e.definition.category ≠ "" := by
    intro e he
    simp only [kadoomentDay, List.mem_cons, List.mem_nil_iff, or_false] at he
    rcases he with rfl | rfl <;> decide
  exact ⟨by decide, by decide, hcat,
    (monthGrid_layout "BB" 2022 8 kadoomentDay (by decide) (by decide) hcat).2.2.2.1 1⟩

end Cli

end Almanac
