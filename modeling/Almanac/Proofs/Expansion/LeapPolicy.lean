import Almanac.Proofs.Anchor.LeapPolicy
import Almanac.Proofs.Expansion.Report

/-!
# Reports under the two leap-day policies

The leap-day policy decides only what becomes of an event whose chain of anchors ends at a
definition fixed on February 29, in a common year: `skip` leaves it out silently and `clamp`
counts it from February 28. So in a leap year both policies give the same outcome, and in a
common year a run under `clamp` that fails, if at all, only with a problem, and the run under
`skip` raise the same problem, or report the same warnings and the same events but for those
chains, which only `clamp` reports (`expand_leap_policy`).

The comparison is made on `collect`: each definition's date under `clamp` is its date under
`skip`, unless the chain ends at February 29, where `skip` has no date and `clamp` a date or a
date off the calendar (`Drops`, `collect_drops`). Sorting commutes with leaving events out,
since no two events of a report share an id (`filter_mergeSort_of_ids`).
-/

namespace Almanac

/-! ## The order of a report's events -/

theorem Date.before_iff (a b : Date) : a.before b = true ↔
    a.year < b.year ∨ (a.year = b.year ∧ (a.month < b.month ∨ (a.month = b.month ∧ a.day < b.day))) := by
  simp [Date.before]

namespace Occurrence

theorem le_iff (a b : Occurrence) : a.le b = true ↔
    a.date.before b.date = true ∨ (a.date.key = b.date.key ∧ a.definition.id ≤ b.definition.id) := by
  simp [Occurrence.le]

theorem le_trans {a b c : Occurrence} (hab : a.le b = true) (hbc : b.le c = true) : a.le c = true := by
  rw [le_iff, Date.before_iff, Date.key, Date.key, Prod.mk.injEq, Prod.mk.injEq] at *
  rcases hab with h1 | ⟨⟨h1, h2, h3⟩, hid⟩ <;> rcases hbc with h4 | ⟨⟨h4, h5, h6⟩, hid'⟩
  · exact Or.inl (by omega)
  · exact Or.inl (by omega)
  · exact Or.inl (by omega)
  · exact Or.inr ⟨⟨by omega, by omega, by omega⟩, hid.trans hid'⟩

theorem le_total (a b : Occurrence) : (a.le b || b.le a) = true := by
  rw [Bool.or_eq_true, le_iff, le_iff, Date.before_iff, Date.before_iff, Date.key, Date.key,
    Prod.mk.injEq, Prod.mk.injEq, Prod.mk.injEq, Prod.mk.injEq]
  by_cases hkey : a.date.year = b.date.year ∧ a.date.month = b.date.month ∧ a.date.day = b.date.day
  · obtain ⟨h1, h2, h3⟩ := hkey
    rcases le_or_gt a.definition.id b.definition.id with hid | hid
    · exact Or.inl (Or.inr ⟨⟨h1, h2, h3⟩, hid⟩)
    · exact Or.inr (Or.inr ⟨⟨h1.symm, h2.symm, h3.symm⟩, hid.le⟩)
  · have hbefore : (a.date.year < b.date.year ∨ (a.date.year = b.date.year ∧
        (a.date.month < b.date.month ∨ (a.date.month = b.date.month ∧ a.date.day < b.date.day)))) ∨
        (b.date.year < a.date.year ∨ (b.date.year = a.date.year ∧
        (b.date.month < a.date.month ∨ (b.date.month = a.date.month ∧ b.date.day < a.date.day)))) := by
      omega
    rcases hbefore with h | h
    · exact Or.inl (Or.inl h)
    · exact Or.inr (Or.inl h)

/-- Two occurrences that sort with each other have the same id. -/
theorem id_eq_of_le {a b : Occurrence} (hab : a.le b = true) (hba : b.le a = true) :
    a.definition.id = b.definition.id := by
  rw [le_iff, Date.before_iff, Date.key, Date.key, Prod.mk.injEq, Prod.mk.injEq] at hab hba
  rcases hab with h1 | ⟨⟨h1, h2, h3⟩, hid⟩ <;> rcases hba with h4 | ⟨⟨h4, h5, h6⟩, hid'⟩
  · omega
  · omega
  · omega
  · exact hid.antisymm hid'

end Occurrence

/-- Among events no two of which share an id, leaving events out of the sorted list sorts what
is left. -/
theorem filter_mergeSort_of_ids {es : List Occurrence}
    (hid : ∀ a ∈ es, ∀ b ∈ es, a.definition.id = b.definition.id → a = b) (q : Occurrence → Bool) :
    (es.mergeSort Occurrence.le).filter q = (es.filter q).mergeSort Occurrence.le := by
  have hsorted : ((es.mergeSort Occurrence.le).filter q).Pairwise fun a b => a.le b = true :=
    (List.pairwise_mergeSort (fun a b c => @Occurrence.le_trans a b c) Occurrence.le_total es).filter q
  have hsorted' : ((es.filter q).mergeSort Occurrence.le).Pairwise fun a b => a.le b = true :=
    List.pairwise_mergeSort (fun a b c => @Occurrence.le_trans a b c) Occurrence.le_total (es.filter q)
  have hperm := ((List.mergeSort_perm es Occurrence.le).filter q).trans
    (List.mergeSort_perm (es.filter q) Occurrence.le).symm
  refine List.Perm.eq_of_pairwise (fun a b ha hb hab hba => ?_) hsorted hsorted' hperm
  have ha' : a ∈ es := List.mem_mergeSort.mp (List.mem_filter.mp ha).1
  have hb' : b ∈ es := (List.mem_filter.mp (List.mem_mergeSort.mp hb)).1
  exact hid a ha' b hb' (Occurrence.id_eq_of_le hab hba)

/-! ## Dates under the two policies -/

namespace Expansion

open AnchorTable

/-- A fresh table dates a definition to nothing exactly when its chain of anchors ends at
February 29, in a common year under `skip`. -/
theorem dateOf_eq_none_iff {t : AnchorTable} (hf : t.fresh = t) (hy : t.year.equals t.year = true)
    (ev : Definition) :
    (dateOf t ev).2 = .ok none ↔
      EndsAtLeapDay t.definitions ev.id ∧ t.leapDay = .skip ∧ leapYearOf t.year = .ok false := by
  cases hfe : isFeastName ev.id with
  | true =>
    rw [dateOf_of_feast t hfe]
    constructor
    · intro h
      cases h
    · rintro ⟨hend, -⟩
      rw [hend.notFeast] at hfe
      cases hfe
  | false =>
    have h := fresh_resolve_eq_none_iff hy ev.id (some ev.id)
    rw [hf] at h
    rw [dateOf_of_not_feast t hfe]
    exact h

/-- Under `skip`, a definition with a date or a fault is dated the same under any policy. -/
theorem dateOf_withLeapDay {t : AnchorTable} (hskip : t.leapDay = .skip) {ev : Definition}
    (h : (dateOf t ev).2 ≠ .ok none) (p : LeapPolicy) :
    (dateOf (t.withLeapDay p) ev).2 = (dateOf t ev).2 := by
  cases hfe : isFeastName ev.id with
  | true => rw [dateOf_of_feast _ hfe, dateOf_of_feast _ hfe]
  | false =>
    rw [dateOf_of_not_feast _ hfe] at h ⊢
    rw [dateOf_of_not_feast _ hfe]
    exact resolve_withLeapDay hskip _ _ h p

/-- What has no date under `skip`, with nothing recorded, is dated under `clamp` or falls off
the calendar. -/
theorem dateOf_clamp_of_none {t : AnchorTable} (ht : t.dates = []) (hskip : t.leapDay = .skip)
    {ev : Definition} (h : (dateOf t ev).2 = .ok none) :
    DatedOrOff (dateOf (t.withLeapDay .clamp) ev).2 := by
  cases hfe : isFeastName ev.id with
  | true =>
    rw [dateOf_of_feast _ hfe] at h
    cases h
  | false =>
    rw [dateOf_of_not_feast _ hfe] at h ⊢
    exact resolve_clamp_of_none ht hskip h

/-! ## Outcomes that differ by the events of some definitions -/

/-- Two outcomes of `collect` that are one and the same problem, or the same warnings with the
second's events those of the first whose definitions are not `gone`. -/
inductive Drops (gone : Definition → Bool) :
    Except Fault (List Occurrence × List Skipped) → Except Fault (List Occurrence × List Skipped) →
      Prop
  /-- Both raise one problem. -/
  | problem (p : Problem) : Drops gone (.error (.problem p)) (.error (.problem p))
  /-- Both finish, with the same warnings. -/
  | found (es : List Occurrence) (ws : List Skipped) :
      Drops gone (.ok (es, ws)) (.ok (es.filter fun o => !gone o.definition, ws))

section Drops

variable {gone : Definition → Bool} {x y : Except Fault (List Occurrence × List Skipped)}

/-- An event of a definition that stays is found by both. -/
theorem Drops.cons_kept {o : Occurrence} (hg : gone o.definition = false) (h : Drops gone x y) :
    Drops gone (x.map fun r => (o :: r.1, r.2)) (y.map fun r => (o :: r.1, r.2)) := by
  cases h with
  | problem p => exact .problem p
  | found es ws =>
    have hfilter : (o :: es).filter (fun o => !gone o.definition) =
        o :: es.filter (fun o => !gone o.definition) := by
      simp [hg]
    show Drops gone (.ok (o :: es, ws)) (.ok (o :: es.filter _, ws))
    rw [← hfilter]
    exact .found _ _

/-- An event of a definition that is gone is found by the first only. -/
theorem Drops.cons_gone {o : Occurrence} (hg : gone o.definition = true) (h : Drops gone x y) :
    Drops gone (x.map fun r => (o :: r.1, r.2)) y := by
  cases h with
  | problem p => exact .problem p
  | found es ws =>
    have hfilter : (o :: es).filter (fun o => !gone o.definition) =
        es.filter (fun o => !gone o.definition) := by
      simp [hg]
    show Drops gone (.ok (o :: es, ws)) _
    rw [← hfilter]
    exact .found _ _

/-- A warning is left by both. -/
theorem Drops.warn (w : Skipped) (h : Drops gone x y) :
    Drops gone (x.map fun r => (r.1, w :: r.2)) (y.map fun r => (r.1, w :: r.2)) := by
  cases h with
  | problem p => exact .problem p
  | found es ws => exact .found es (w :: ws)

end Drops

/-- A fault other than a problem ends the expansion at once. -/
theorem collect_cons_of_fault {onError : ErrorPolicy} {year : Int}
    {date : Definition → Except Fault (Option Date)} {ev : Definition} {rest : List Definition}
    {f : Fault} (hd : date ev = .error f) (hf : ∀ p, f ≠ .problem p) :
    collect onError year date (ev :: rest) = .error f := by
  cases f
  case problem p => exact absurd rfl (hf p)
  all_goals simp only [collect, hd]

/-- Two expansions whose dates agree except on `gone` definitions, which only the first dates
(or finds off the calendar), end alike: with one problem, or with the same warnings and the
first's events but those of `gone` definitions, once the first meets no fault but problems. -/
theorem collect_drops {onError : ErrorPolicy} {year : Int}
    {dc ds : Definition → Except Fault (Option Date)} {gone : Definition → Bool}
    {defs : List Definition}
    (hgone : ∀ ev ∈ defs, gone ev = true → ds ev = .ok none ∧ DatedOrOff (dc ev))
    (hkept : ∀ ev ∈ defs, gone ev = false → dc ev = ds ev)
    (hc : ∀ f, collect onError year dc defs = .error f → ∃ p, f = .problem p) :
    Drops gone (collect onError year dc defs) (collect onError year ds defs) := by
  induction defs with
  | nil => exact .found [] []
  | cons ev rest ih =>
    have hgone' := fun e he => hgone e (List.mem_cons_of_mem ev he)
    have hkept' := fun e he => hkept e (List.mem_cons_of_mem ev he)
    cases hg : gone ev with
    | true =>
      obtain ⟨hs, hd | ⟨f, hd⟩⟩ := hgone ev List.mem_cons_self hg
      · obtain ⟨d, hd⟩ := hd
        have hcc : collect onError year dc (ev :: rest) =
            (collect onError year dc rest).map fun r => (⟨ev, year, d⟩ :: r.1, r.2) := by
          simp only [collect, hd]
        have hsc : collect onError year ds (ev :: rest) = collect onError year ds rest := by
          simp only [collect, hs]
        rw [hcc, hsc]
        refine Drops.cons_gone hg (ih hgone' hkept' fun f hf => hc f ?_)
        rw [hcc, hf]
        rfl
      · obtain ⟨p, hp⟩ := hc _ (collect_cons_of_fault hd fun p h => by cases h)
        cases hp
    | false =>
      have hd := hkept ev List.mem_cons_self hg
      cases hr : ds ev with
      | ok r =>
        cases r with
        | none =>
          have hcc : collect onError year dc (ev :: rest) = collect onError year dc rest := by
            simp only [collect, hd, hr]
          have hsc : collect onError year ds (ev :: rest) = collect onError year ds rest := by
            simp only [collect, hr]
          rw [hcc, hsc]
          exact ih hgone' hkept' fun f hf => hc f (by rw [hcc, hf])
        | some d =>
          have hcc : collect onError year dc (ev :: rest) =
              (collect onError year dc rest).map fun r => (⟨ev, year, d⟩ :: r.1, r.2) := by
            simp only [collect, hd, hr]
          have hsc : collect onError year ds (ev :: rest) =
              (collect onError year ds rest).map fun r => (⟨ev, year, d⟩ :: r.1, r.2) := by
            simp only [collect, hr]
          rw [hcc, hsc]
          refine Drops.cons_kept hg (ih hgone' hkept' fun f hf => hc f ?_)
          rw [hcc, hf]
          rfl
      | error f =>
        by_cases hf : ∃ p, f = .problem p
        · obtain ⟨p, rfl⟩ := hf
          cases onError with
          | raise =>
            simp only [collect, hd, hr]
            exact .problem _
          | skip =>
            have hcc : collect .skip year dc (ev :: rest) = (collect .skip year dc rest).map
                fun r => (r.1, ⟨ev.id, p.whileExpanding ev.id⟩ :: r.2) := by
              simp only [collect, hd, hr]
            have hsc : collect .skip year ds (ev :: rest) = (collect .skip year ds rest).map
                fun r => (r.1, ⟨ev.id, p.whileExpanding ev.id⟩ :: r.2) := by
              simp only [collect, hr]
            rw [hcc, hsc]
            refine Drops.warn _ (ih hgone' hkept' fun f hf => hc f ?_)
            rw [hcc, hf]
            rfl
        · have hnp : ∀ p, f ≠ .problem p := fun p h => hf ⟨p, h⟩
          exact absurd (hc f (collect_cons_of_fault (hd.trans hr) hnp)) hf

/-- In a leap year, a fresh table under `skip` dates every definition as it does under
`clamp`. -/
theorem dateOf_clamp_of_leapYear {t : AnchorTable} (hf : t.fresh = t)
    (hy : t.year.equals t.year = true) (hskip : t.leapDay = .skip)
    (hleap : leapYearOf t.year = .ok true) (ev : Definition) :
    (dateOf (t.withLeapDay .clamp) ev).2 = (dateOf t ev).2 := by
  refine dateOf_withLeapDay hskip (fun hnone => ?_) .clamp
  obtain ⟨-, -, hyr⟩ := (dateOf_eq_none_iff hf hy ev).mp hnone
  rw [hleap] at hyr
  cases hyr

open Classical in
/-- In a common year, a fresh table under `clamp` that meets no fault but problems collects what
it collects under `skip`, and the events of the chains ending at February 29 besides. -/
theorem collect_clamp_drops {t : AnchorTable} (hf : t.fresh = t)
    (hy : t.year.equals t.year = true) (hskip : t.leapDay = .skip)
    (hcommon : leapYearOf t.year = .ok false) {onError : ErrorPolicy} {year : Int}
    (hc : ∀ f, collect onError year (fun ev => (dateOf (t.withLeapDay .clamp) ev).2)
      t.definitions = .error f → ∃ p, f = .problem p) :
    Drops (fun ev => decide (EndsAtLeapDay t.definitions ev.id))
      (collect onError year (fun ev => (dateOf (t.withLeapDay .clamp) ev).2) t.definitions)
      (collect onError year (fun ev => (dateOf t ev).2) t.definitions) := by
  have hdates : t.dates = [] := by rw [← hf]; rfl
  refine collect_drops (fun ev _ hg => ?_) (fun ev _ hg => ?_) hc
  · have hnone := (dateOf_eq_none_iff hf hy ev).mpr ⟨of_decide_eq_true hg, hskip, hcommon⟩
    exact ⟨hnone, dateOf_clamp_of_none hdates hskip hnone⟩
  · refine dateOf_withLeapDay hskip (fun hnone => ?_) .clamp
    have hend := ((dateOf_eq_none_iff hf hy ev).mp hnone).1
    simp [hend] at hg

/-- Events collected over distinct ids are told apart by their ids. -/
theorem collect_events_eq_of_id {onError : ErrorPolicy} {year : Int}
    {date : Definition → Except Fault (Option Date)} {defs : List Definition}
    {es : List Occurrence} {ws : List Skipped} (hnd : (defs.map (·.id)).Nodup)
    (h : collect onError year date defs = .ok (es, ws)) {a b : Occurrence} (ha : a ∈ es)
    (hb : b ∈ es) (hid : a.definition.id = b.definition.id) : a = b := by
  obtain ⟨ev, hev, d, hd, rfl⟩ := collect_mem_events h ha
  obtain ⟨ev', hev', d', hd', rfl⟩ := collect_mem_events h hb
  obtain rfl : ev = ev' := List.inj_on_of_nodup_map hnd hev hev' hid
  rw [hd] at hd'
  cases hd'
  rfl

/-- A dated definition among distinct ids is collected with its date. -/
theorem collect_mem_of_dated {onError : ErrorPolicy} {year : Int}
    {date : Definition → Except Fault (Option Date)} {defs : List Definition}
    {es : List Occurrence} {ws : List Skipped} (hnd : (defs.map (·.id)).Nodup)
    (h : collect onError year date defs = .ok (es, ws)) {ev : Definition} (hev : ev ∈ defs)
    {d : Date} (hd : date ev = .ok (some d)) : ⟨ev, year, d⟩ ∈ es := by
  have hf : es.filter (·.definition.id == ev.id) = (landing year ev (date ev)).1 :=
    congrArg Prod.fst (collect_filter hnd h hev)
  rw [hd] at hf
  have hmem : (⟨ev, year, d⟩ : Occurrence) ∈ es.filter (·.definition.id == ev.id) := by
    rw [hf]
    simp [landing]
  exact (List.mem_filter.mp hmem).1

end Expansion

namespace Catalog

/-- The outcome of expanding a country named by a text, in a year that passes the check. -/
theorem expand_of_checkYear (c : Catalog) (config : Config) (country : String) {y year : Int}
    (hy : checkYear (.int y) = .ok year) :
    (c.expand config (.str country) (.int y)).2 =
      (Expansion.collect config.onError year
          (fun ev => (Expansion.dateOf
            (AnchorTable.empty (.int year) (c.eventsFor country) config.leapDay) ev).2)
          (firstOfEach (c.eventsFor country) []).1).map fun r =>
        { country := .str country, year, events := r.1.mergeSort Occurrence.le, warnings := r.2 } := by
  rw [expand_result, hy]
  rfl

end Catalog

open Expansion AnchorTable Classical in
/-- The leap-day policy matters only in a common year, and there only to events whose chain of
anchors ends at February 29. In a leap year both policies give the same outcome. In a common
year, when the run under `clamp` fails, if at all, only with a problem, both runs raise the same
problem, or both finish with the same warnings, and the run under `skip` reports the events of
the run under `clamp`, dates unchanged, but for those whose chain ends at February 29; the run
under `clamp` dates each definition fixed on February 29 on February 28. -/
theorem expand_leap_policy (c : Catalog) (country : String) (onError : ErrorPolicy) (y : Int) :
    (isLeapYear y = true →
      (c.expand ⟨.clamp, onError⟩ (.str country) (.int y)).2 =
        (c.expand ⟨.skip, onError⟩ (.str country) (.int y)).2) ∧
    (isLeapYear y = false →
      (∀ f, (c.expand ⟨.clamp, onError⟩ (.str country) (.int y)).2 = .error f →
        ∃ p, f = .problem p) →
      (∃ p, (c.expand ⟨.clamp, onError⟩ (.str country) (.int y)).2 = .error (.problem p) ∧
          (c.expand ⟨.skip, onError⟩ (.str country) (.int y)).2 = .error (.problem p)) ∨
        ∃ R, (c.expand ⟨.clamp, onError⟩ (.str country) (.int y)).2 = .ok R ∧
          (c.expand ⟨.skip, onError⟩ (.str country) (.int y)).2 = .ok { R with
            events := R.events.filter fun o =>
              !decide (EndsAtLeapDay (firstOfEach (c.eventsFor country) []).1 o.definition.id) } ∧
          ∀ s, LeapDayBase (firstOfEach (c.eventsFor country) []).1 s →
            ∃ o ∈ R.events, o.definition.id = s ∧ o.date.key = (y, 2, 28)) := by
  cases hy : checkYear (.int y) with
  | error e =>
    have he : ∀ p, (c.expand ⟨p, onError⟩ (.str country) (.int y)).2 = .error (.year e) := by
      intro p
      rw [Catalog.expand_result, hy]
      rfl
    refine ⟨fun _ => by rw [he, he], fun _ hc => ?_⟩
    obtain ⟨p, hp⟩ := hc _ (he .clamp)
    cases hp
  | ok year =>
    have hrange := checkYear_int_mem hy
    obtain rfl := checkYear_int hy
    rw [Catalog.expand_of_checkYear c _ _ hy, Catalog.expand_of_checkYear c _ _ hy]
    have hclamp : AnchorTable.empty (.int year) (c.eventsFor country) .clamp =
        (AnchorTable.empty (.int year) (c.eventsFor country) .skip).withLeapDay .clamp := rfl
    have hkeptDefs : (firstOfEach (c.eventsFor country) []).1 =
        (AnchorTable.empty (.int year) (c.eventsFor country) .skip).definitions := rfl
    simp only [hclamp, hkeptDefs]
    generalize hts : AnchorTable.empty (.int year) (c.eventsFor country) .skip = ts at *
    have hfresh : ts.fresh = ts := by rw [← hts]; rfl
    have hyear : ts.year = .int year := by rw [← hts]; rfl
    have hyeq : ts.year.equals ts.year = true := by rw [hyear]; exact Value.equals_int_self year
    have hskip : ts.leapDay = .skip := by rw [← hts]; rfl
    have hnd : (ts.definitions.map (·.id)).Nodup := by rw [← hts]; exact firstOfEach_nodup _ _
    refine ⟨fun hleap => ?_, fun hcommon hc => ?_⟩
    · simp only [dateOf_clamp_of_leapYear hfresh hyeq hskip (by rw [hyear, leapYearOf, hleap])]
    · have hc' : ∀ f, collect onError year (fun ev => (dateOf (ts.withLeapDay .clamp) ev).2)
          ts.definitions = .error f → ∃ p, f = .problem p := fun f hf => hc f (by rw [hf]; rfl)
      have hdrops := collect_clamp_drops hfresh hyeq hskip (by rw [hyear, leapYearOf, hcommon]) hc'
      generalize hxc : collect onError year (fun ev => (dateOf (ts.withLeapDay .clamp) ev).2)
        ts.definitions = xc at hdrops ⊢
      generalize hxs : collect onError year (fun ev => (dateOf ts ev).2)
        ts.definitions = xs at hdrops ⊢
      cases hdrops with
      | problem p => exact Or.inl ⟨p, rfl, rfl⟩
      | found es ws =>
        refine Or.inr ⟨_, rfl, ?_, ?_⟩
        · have hid := fun a ha b hb => collect_events_eq_of_id (a := a) (b := b) hnd hxc ha hb
          dsimp only
          rw [filter_mergeSort_of_ids hid]
          rfl
        · intro s hb
          obtain ⟨ev, md, hev, -, -⟩ := hb.fixed
          have hmem : ev ∈ ts.definitions := List.mem_of_find?_eq_some hev
          have hid : ev.id = s := by simpa using List.find?_some hev
          obtain ⟨d, hd, hkey⟩ :=
            resolve_clamp_base (by rw [← hfresh]; rfl) hb hyear hrange hcommon (some s)
          have hdc : (dateOf (ts.withLeapDay .clamp) ev).2 = .ok (some d) := by
            rw [dateOf_of_not_feast _ (hid ▸ hb.notFeast), hid]
            exact hd
          exact ⟨⟨ev, year, d⟩, List.mem_mergeSort.mpr (collect_mem_of_dated hnd hxc hmem hdc),
            hid, hkey⟩

open Expansion Classical in
/-- The festival catalog in the common year 2025: the run under `clamp` dates the leap-day fair on
February 28, and the run under `skip` reports its events without the leap-day chain. -/
theorem expand_leap_policy_festival :
    ∃ R, (festivalCatalog.expand ⟨.clamp, .skip⟩ (.str "TT") (.int 2025)).2 = .ok R ∧
      (festivalCatalog.expand ⟨.skip, .skip⟩ (.str "TT") (.int 2025)).2 = .ok { R with
        events := R.events.filter fun o =>
          !decide (EndsAtLeapDay (firstOfEach (festivalCatalog.eventsFor "TT") []).1
            o.definition.id) } ∧
      ∃ o ∈ R.events, o.definition.id = "leap-day-fair" ∧ o.date.key = (2025, 2, 28) := by
  have hclamp : (festivalCatalog.expand ⟨.clamp, .skip⟩ (.str "TT") (.int 2025)).2.toBool = true := by
    decide +kernel
  have hbase : LeapDayBase (firstOfEach (festivalCatalog.eventsFor "TT") []).1 "leap-day-fair" :=
    ⟨by decide, leapDayFair, ⟨2, 29, by decide, by decide⟩, rfl, rfl, rfl⟩
  have hnoerr : ∀ f, (festivalCatalog.expand ⟨.clamp, .skip⟩ (.str "TT") (.int 2025)).2 = .error f →
      ∃ p, f = .problem p := by
    intro f hf
    rw [hf] at hclamp
    cases hclamp
  rcases (expand_leap_policy festivalCatalog "TT" .skip 2025).2 (by decide) hnoerr with
    ⟨p, hp, -⟩ | ⟨R, hR, hskip, hdates⟩
  · rw [hp] at hclamp
    cases hclamp
  · exact ⟨R, hR, hskip, hdates _ hbase⟩

end Almanac
