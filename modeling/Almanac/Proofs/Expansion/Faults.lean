import Almanac.Proofs.Expansion.Raise

/-!
# The faults of an expansion

Two classes of faults confine what an expansion meets (`AnchorTable.Confined`). In a year from
1 to 9999 everything an expansion computes is defined. An expansion of a country whose anchors
can be keys then ends in one of three ways (`expand_supported_year_outcome`): with a report;
with a data-integrity problem, only under the error policy `raise`; or with a date that leaves
the calendar. Definitions that each declare exactly one kind and whose ids name no feast are
never reported as malformed, whatever the country, year and options (`expand_not_malformed`).
-/

namespace Almanac

/-- The faults an expansion of a supported year may end with: a data-integrity problem, or a
date that leaves the calendar. -/
def Fault.Expected : Fault → Prop
  | .problem _ => True
  | .date g => g.OffCalendar
  | _ => False

/-- An expected fault is a problem or a date off the calendar. -/
theorem Fault.Expected.cases {f : Fault} (h : f.Expected) :
    (∃ p, f = .problem p) ∨ ∃ g, f = .date g ∧ g.OffCalendar := by
  cases f with
  | problem p => exact .inl ⟨p, rfl⟩
  | date g => exact .inr ⟨g, rfl, h⟩
  | _ => exact False.elim h

/-- A date fault is never reported as a malformed definition. -/
theorem Fault.kind_date (g : DateFault) : (Fault.date g).kind ≠ .malformed := by
  cases g <;> simp [Fault.kind]

/-- A reference that can be a key: a name, or a value that is neither a list nor a record. -/
def AnchorRef.Hashable : AnchorRef → Prop
  | .name _ => True
  | .other v => v.isHashable = true

namespace AnchorTable

/-! ## Tables of a supported year -/

/-- A table of an integer year from 1 to 9999. -/
structure Supported (t : AnchorTable) (y : Int) : Prop where
  /-- The table's year is the integer `y`. -/
  year : t.year = .int y
  /-- The year is supported. -/
  mem : 1 ≤ y ∧ y ≤ 9999

section Supported

variable {t : AnchorTable} {y : Int} (ht : t.Supported y)
include ht

/-- The year of a supported table equals itself, as every integer does. -/
theorem Supported.year_equals : t.year.equals t.year = true := by
  rw [ht.year]
  exact Value.equals_int_self y

/-- The feasts of a supported year have dates. -/
theorem Supported.feast {S : Fault → Prop} (f : Feast) : Except.FaultsIn S (f.dateOf t.year) := by
  obtain ⟨d, hd⟩ := f.dateOf_supported ht.mem
  rw [ht.year, hd]
  exact Except.FaultsIn.ok d

/-- In a supported year a fixed date is a date, and a rule fails only without an occurrence. -/
theorem Supported.declared {S : Fault → Prop}
    (hS : ∀ r e, S (.problem { cause := .noOccurrence r y e })) (ev : Definition)
    {decl : Declaration} (hk : decl.kind ≠ .relative) :
    Except.FaultsIn S (t.resolveDeclared ev decl) := by
  cases decl with
  | fixed md =>
    obtain ⟨d, hd⟩ := resolveFixed_supported t.leapDay ht.mem md
    rw [resolveDeclared, ht.year, hd]
    exact Except.FaultsIn.ok d
  | rule r =>
    rw [resolveDeclared, ht.year]
    rcases r.resolve_supported ht.mem (some ev.id) with ⟨d, hd⟩ | hd
    · rw [hd]
      exact Except.FaultsIn.ok (some d)
    · rw [hd]
      exact Except.FaultsIn.error (hS r _)
  | relative rel => exact absurd rfl hk

/-- A supported table whose relative definitions count from anchors that can be keys meets only
expected faults. -/
theorem Supported.confined_expected
    (hh : ∀ ev ∈ t.definitions, ∀ rel, ev.declaration? = .ok (.relative rel) → rel.anchor.Hashable) :
    t.Confined Fault.Expected where
  year := ht.year_equals
  cycle _ := trivial
  unknown _ _ := trivial
  offCalendar _ hg := hg
  feast := ht.feast
  declared ev _ _ _ hk := ht.declared (fun _ _ => trivial) ev hk
  malformed _ _ _ _ := trivial
  anchor ev hev rel hrel := keyOf_faultsIn fun v hv hnot => by
    have href := hh ev hev rel hrel
    rw [hv] at href
    simp [AnchorRef.Hashable, hnot] at href

/-- A supported table whose definitions each declare exactly one kind meets no fault reported as
a malformed definition. -/
theorem Supported.confined_declared (hd : ∀ ev ∈ t.definitions, ∃ d, ev.declaration? = .ok d) :
    t.Confined fun f => f.kind ≠ .malformed where
  year := ht.year_equals
  cycle _ := by simp [Fault.kind]
  unknown _ _ := by simp [Fault.kind]
  offCalendar g _ := Fault.kind_date g
  feast := ht.feast
  declared ev _ _ _ hk := ht.declared (fun _ _ => by simp [Fault.kind]) ev hk
  malformed ev hev ks hks := by
    obtain ⟨d, hd⟩ := hd ev hev
    rw [hd] at hks
    cases hks
  anchor _ _ _ _ := keyOf_faultsIn fun _ _ _ => by simp [Fault.kind]

end Supported

end AnchorTable

/-- A checked year lies in 1 to 9999. -/
theorem checkYear_mem {v : Value} {year : Int} (h : checkYear v = .ok year) :
    1 ≤ year ∧ year ≤ 9999 := by
  cases v with
  | int y =>
    obtain rfl := checkYear_int h
    exact checkYear_int_mem h
  | _ => cases h

namespace Expansion

/-- An expansion whose dates fail only expectedly fails with a problem only when it raises, and
otherwise with a date off the calendar: under `skip` a problem becomes a warning. -/
theorem collect_error_expected {onError : ErrorPolicy} {year : Int}
    {date : Definition → Except Fault (Option Date)} {defs : List Definition}
    (hd : ∀ ev ∈ defs, Except.FaultsIn Fault.Expected (date ev)) {f : Fault}
    (h : collect onError year date defs = .error f) :
    (onError = .raise ∧ ∃ p, f = .problem p) ∨ ∃ g, f = .date g ∧ g.OffCalendar := by
  obtain ⟨ev, hev, ⟨p, _, hr, rfl⟩ | ⟨hf, hnp⟩⟩ := collect_mem_error h
  · exact .inl ⟨hr, _, rfl⟩
  · rcases (hd ev hev _ hf).cases with ⟨p, rfl⟩ | hg
    · exact absurd rfl (hnp p)
    · exact .inr hg

/-- Tagging a problem while expanding an event, or raising it from there, keeps its class. -/
theorem kind_raisedWhileExpanding (p : Problem) (id : String) :
    (Fault.problem (p.raisedWhileExpanding id)).kind = (Fault.problem p).kind := by
  simp only [Problem.raisedWhileExpanding_eq, Fault.kind, Problem.whileExpanding_cause]

/-- An expansion whose dates are never malformed neither ends with nor warns of a malformed
definition. -/
theorem collect_not_malformed {onError : ErrorPolicy} {year : Int}
    {date : Definition → Except Fault (Option Date)} {defs : List Definition}
    (hd : ∀ ev ∈ defs, Except.FaultsIn (fun f => f.kind ≠ .malformed) (date ev)) :
    Except.FaultsIn (fun f => f.kind ≠ .malformed) (collect onError year date defs) ∧
      ∀ es ws, collect onError year date defs = .ok (es, ws) →
        ∀ w ∈ ws, (Fault.problem w.problem).kind ≠ .malformed := by
  refine ⟨fun f h => ?_, fun es ws h w hw => ?_⟩
  · obtain ⟨ev, hev, ⟨p, hp, _, rfl⟩ | ⟨hf, _⟩⟩ := collect_mem_error h
    · rw [kind_raisedWhileExpanding]
      exact hd ev hev _ hp
    · exact hd ev hev _ hf
  · obtain ⟨ev, hev, p, hp, rfl⟩ := collect_mem_warnings h hw
    have hk := hd ev hev _ hp
    simpa only [Fault.kind, Problem.whileExpanding_cause] using hk

end Expansion

open Expansion in
/-- The ways an expansion of a supported year ends. In a year from 1 to 9999 the feasts and
every fixed month and day have a date, and a rule fails only when the month lacks its weekday.
For a country whose relative events count from anchors that can be keys, dating any definition
on the expansion's table meets only a data-integrity problem or a date that leaves the
calendar: never a cycle guard out of step, a definition of another kind taken as relative, a
relative one dated as declared, or a table asked for another year. The expansion gives a
report, or raises a data-integrity problem under the error policy `raise`, or fails with a
date that leaves the calendar. -/
theorem expand_supported_year_outcome (c : Catalog) (config : Config) (country : String) {y : Int}
    (hy : 1 ≤ y ∧ y ≤ 9999)
    (hhash : ∀ ev ∈ c.eventsFor country, ∀ rel, ev.relative = some rel → rel.anchor.Hashable) :
    (∀ f : Feast, ∃ d, f.dateOf (.int y) = .ok d) ∧
    (∀ p md, ∃ d, resolveFixed p (.int y) md = .ok d) ∧
    (∀ (r : Rule) eventId, (∃ d, r.resolve (.int y) eventId = .ok d) ∨
      r.resolve (.int y) eventId = .error (.problem { cause := .noOccurrence r y eventId })) ∧
    (∀ ev f, (dateOf (AnchorTable.empty (.int y) (c.eventsFor country) config.leapDay) ev).2 =
      .error f → (∃ p, f = .problem p) ∨ ∃ g, f = .date g ∧ g.OffCalendar) ∧
    ((∃ R, (c.expand config (.str country) (.int y)).2 = .ok R) ∨
      (config.onError = .raise ∧
        ∃ p, (c.expand config (.str country) (.int y)).2 = .error (.problem p)) ∨
      ∃ g, (c.expand config (.str country) (.int y)).2 = .error (.date g) ∧ g.OffCalendar) := by
  have ht : (AnchorTable.empty (.int y) (c.eventsFor country) config.leapDay).Confined
      Fault.Expected := by
    refine AnchorTable.Supported.confined_expected ⟨rfl, hy⟩ fun ev hev rel hrel => ?_
    exact hhash ev (firstOfEach_kept hev).1 rel (Definition.relative_of_declaration? hrel)
  refine ⟨fun f => f.dateOf_supported hy, fun p md => resolveFixed_supported p hy md,
    fun r eventId => r.resolve_supported hy eventId,
    fun ev f hf => (dateOf_confined ht (fun _ => trivial) f hf).cases, ?_⟩
  have hyear : checkYear (.int y) = .ok y := by
    simp [checkYear, checkYearInt, firstYear, lastYear, hy]
  rw [Catalog.expand_result]
  simp only [hyear, Catalog.eventsOf, Except.mapError, Except.bind]
  cases hc : collect config.onError y
      (fun ev => (dateOf (AnchorTable.empty (.int y) (c.eventsFor country) config.leapDay) ev).2)
      (firstOfEach (c.eventsFor country) []).1 with
  | ok r => exact .inl ⟨_, rfl⟩
  | error f =>
    rcases collect_error_expected (fun ev _ => dateOf_confined ht fun _ => trivial) hc with
      ⟨hr, p, rfl⟩ | ⟨g, rfl, hg⟩
    · exact .inr (.inl ⟨hr, p, rfl⟩)
    · exact .inr (.inr ⟨g, rfl, hg⟩)

/-- Independence Day of Trinidad and Tobago, on August 31. -/
def independenceDay : Definition :=
  { id := "independence-day", country := "TT", category := "historical"
    fixed := some ⟨8, 31, by decide, by decide⟩ }

/-- An event counted from a number, which names no anchor. -/
def strayEvent : Definition :=
  { id := "stray", country := "TT", category := "cultural"
    relative := some ⟨.other (.int 5), 1⟩ }

/-- A catalog with the two events. -/
def strayCatalog : Catalog := Catalog.ofDefinitions [independenceDay, strayEvent] []

/-- The outcome of expanding the catalog with the stray event in 2024. -/
theorem expand_supported_year_outcome_stray :
    (1 ≤ (2024 : Int) ∧ (2024 : Int) ≤ 9999) ∧
      (∀ ev ∈ strayCatalog.eventsFor "TT", ∀ rel, ev.relative = some rel → rel.anchor.Hashable) ∧
      ((∃ R, (strayCatalog.expand {} (.str "TT") (.int 2024)).2 = .ok R) ∨
        (({} : Config).onError = .raise ∧
          ∃ p, (strayCatalog.expand {} (.str "TT") (.int 2024)).2 = .error (.problem p)) ∨
        ∃ g, (strayCatalog.expand {} (.str "TT") (.int 2024)).2 = .error (.date g) ∧
          g.OffCalendar) := by
  have hhash : ∀ ev ∈ strayCatalog.eventsFor "TT", ∀ rel, ev.relative = some rel →
      rel.anchor.Hashable := by
    have hevents : strayCatalog.eventsFor "TT" = [independenceDay, strayEvent] := rfl
    intro ev hev rel hrel
    rw [hevents] at hev
    rcases List.mem_pair.mp hev with rfl | rfl
    · cases hrel
    · cases hrel
      rfl
  exact ⟨by decide, hhash,
    (expand_supported_year_outcome strayCatalog {} "TT" (by decide) hhash).2.2.2.2⟩

open Expansion in
/-- A catalog whose definitions each declare exactly one kind and have ids that name no feast
is never reported malformed by an expansion, for any country, year or options: neither the
fault an expansion ends with nor any warning it keeps is a malformed definition. -/
theorem expand_not_malformed (c : Catalog)
    (hw : ∀ code, ∀ ev ∈ c.eventsFor code, isFeastName ev.id = false ∧ ∃ d, ev.declaration? = .ok d)
    (config : Config) (country yearValue : Value) :
    Except.FaultsIn (fun f => f.kind ≠ .malformed) (c.expand config country yearValue).2 ∧
      ∀ R, (c.expand config country yearValue).2 = .ok R →
        ∀ w ∈ R.warnings, (Fault.problem w.problem).kind ≠ .malformed := by
  rw [Catalog.expand_result]
  cases hy : checkYear yearValue with
  | error f =>
    simp only [Except.mapError, Except.bind]
    refine ⟨Except.FaultsIn.error ?_, fun R h => nomatch h⟩
    cases f <;> simp [Fault.kind]
  | ok year =>
    have hdefs : Except.FaultsIn (fun f => f.kind ≠ .malformed) (c.eventsOf country) ∧
        ∀ defs, c.eventsOf country = .ok defs →
          ∀ ev ∈ defs, isFeastName ev.id = false ∧ ∃ d, ev.declaration? = .ok d := by
      unfold Catalog.eventsOf
      split
      · rename_i s
        exact ⟨Except.FaultsIn.ok _, fun defs h => by cases h; exact hw s⟩
      · split
        · exact ⟨Except.FaultsIn.ok _, fun defs h ev hev => by cases h; cases hev⟩
        · exact ⟨Except.FaultsIn.error (by simp [Fault.kind]), fun defs h => nomatch h⟩
    simp only [Except.mapError, Except.bind]
    cases he : c.eventsOf country with
    | error f =>
      simp only
      exact ⟨Except.FaultsIn.error (hdefs.1 f he), fun R h => nomatch h⟩
    | ok defs =>
      dsimp only
      have ht : (AnchorTable.empty (.int year) defs config.leapDay).Confined
          fun f => f.kind ≠ .malformed :=
        AnchorTable.Supported.confined_declared ⟨rfl, checkYear_mem hy⟩ fun ev hev =>
          (hdefs.2 defs he ev (firstOfEach_kept hev).1).2
      have hdate : ∀ ev ∈ (firstOfEach defs []).1, Except.FaultsIn (fun f => f.kind ≠ .malformed)
          (dateOf (AnchorTable.empty (.int year) defs config.leapDay) ev).2 := by
        intro ev hev
        have hnf := (hdefs.2 defs he ev (firstOfEach_kept hev).1).1
        refine dateOf_confined ht fun h => ?_
        rw [hnf] at h
        cases h
      have hc := @collect_not_malformed config.onError year _ _ hdate
      refine ⟨Except.FaultsIn.map hc.1 _, fun R h w hw => ?_⟩
      cases hcol : collect config.onError year
          (fun ev => (dateOf (AnchorTable.empty (.int year) defs config.leapDay) ev).2)
          (firstOfEach defs []).1 with
      | error _ =>
        rw [hcol] at h
        cases h
      | ok r =>
        rw [hcol] at h
        cases h
        exact hc.2 r.1 r.2 hcol w hw

end Almanac
