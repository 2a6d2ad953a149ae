import Mathlib
import Almanac.Proofs.Anchor.LeapDay

/-!
# The leap-day policy

The leap-day policy is read at one place only: a definition fixed on February 29 in a common
year has no date under `skip` and is moved to February 28 under `clamp`. So a resolution that
has a date, or fails, under `skip` is the same under any policy (`resolve_withLeapDay`), and one
that has no date under `skip` reached such a definition, which `clamp` dates on February 28:
its answer is then a date, or a date off the calendar (`resolve_clamp_of_none`,
`resolve_clamp_base`).
-/

namespace Almanac

/-- February 28 of a supported year is a date. -/
theorem Date.ofValues_feb28 {y : Int} (hy : 1 ≤ y ∧ y ≤ 9999) :
    ∃ d, Date.ofValues? (.int y) (.int 2) (.int 28) = .ok d ∧ d.key = (y, 2, 28) := by
  have hw : Date.wordFault? y = none := by
    unfold Date.wordFault?
    split
    · rename_i h
      simp at h
      omega
    · split
      · omega
      · split
        · omega
        · rfl
  have hv : (Ymd.mk y 2 28).Valid := by
    refine ⟨by simp, by simp, by simp, ?_⟩
    show (28 : Int) ≤ monthLength y 2
    unfold monthLength
    rw [if_pos rfl]
    split <;> decide
  have h2 : Date.wordFault? 2 = none := by decide
  have h28 : Date.wordFault? 28 = none := by decide
  refine ⟨⟨⟨y, 2, 28⟩, hy, hv⟩, ?_, rfl⟩
  simp [Date.ofValues?, Date.argument?, Value.asInt?, hw, h2, h28, bind, Except.bind,
    Date.ofYmdChecked, hy, hv]

/-- Outside February 29 of a common year under `skip`, a fixed date does not depend on the
policy. -/
theorem resolveFixed_policy {year : Value} {md : MonthDay} (p : LeapPolicy)
    (h : resolveFixed .skip year md ≠ .ok none) :
    resolveFixed p year md = resolveFixed .skip year md := by
  unfold resolveFixed at h ⊢
  cases hmd : md.isLeapDay with
  | false => rfl
  | true =>
    cases hy : leapYearOf year with
    | error e => rfl
    | ok b =>
      cases b with
      | true => rfl
      | false => simp [hmd, hy, bind, Except.bind, pure, Except.pure] at h

/-- Under `clamp`, February 29 of a common year is February 28. -/
theorem resolveFixed_clamp_leap {year : Value} {md : MonthDay} (hmd : md.isLeapDay = true)
    (hy : leapYearOf year = .ok false) :
    resolveFixed .clamp year md =
      ((Date.ofValues? year (.int 2) (.int 28)).mapError Fault.date).map some := by
  unfold resolveFixed
  simp only [hmd, hy, if_true, bind, Except.bind, Bool.not_false]
  cases Date.ofValues? year (.int 2) (.int 28) <;> rfl

namespace AnchorTable

/-- The table with another leap-day policy. -/
def withLeapDay (t : AnchorTable) (p : LeapPolicy) : AnchorTable := { t with leapDay := p }

section Policy

variable (t : AnchorTable) (p : LeapPolicy)

@[simp] theorem withLeapDay_year : (t.withLeapDay p).year = t.year := rfl
@[simp] theorem withLeapDay_definitions : (t.withLeapDay p).definitions = t.definitions := rfl
@[simp] theorem withLeapDay_leapDay : (t.withLeapDay p).leapDay = p := rfl
@[simp] theorem withLeapDay_dates : (t.withLeapDay p).dates = t.dates := rfl
@[simp] theorem withLeapDay_visiting : (t.withLeapDay p).visiting = t.visiting := rfl

@[simp] theorem recorded?_withLeapDay (key : AnchorRef) :
    (t.withLeapDay p).recorded? key = t.recorded? key := rfl

@[simp] theorem definition?_withLeapDay (key : AnchorRef) :
    (t.withLeapDay p).definition? key = t.definition? key := rfl

theorem enter_withLeapDay (id : String) : (t.withLeapDay p).enter id = (t.enter id).withLeapDay p :=
  rfl

theorem put_withLeapDay (key : AnchorRef) (d : Option Date) :
    (t.withLeapDay p).put key d = (t.put key d).withLeapDay p := by
  unfold put withLeapDay
  split <;> rfl

end Policy

/-- A lookup under `skip` that does not find a date-less anchor finds the same under any
policy. -/
theorem lookup_withLeapDay {t : AnchorTable} (hskip : t.leapDay = .skip) (ref : AnchorRef)
    (rb : Option String) (hr : ∀ u, t.lookup ref rb ≠ .ok (.date none, u)) (p : LeapPolicy) :
    (t.withLeapDay p).lookup ref rb = (t.lookup ref rb).map fun r => (r.1, r.2.withLeapDay p) := by
  revert hr
  simp only [lookup, bind, Except.bind, pure, Except.pure]
  cases keyOf ref with
  | error e => exact fun _ => rfl
  | ok key =>
    simp only [recorded?_withLeapDay, withLeapDay_year, definition?_withLeapDay]
    cases t.recorded? key with
    | some d => exact fun _ => rfl
    | none =>
      simp only
      split
      · intro _
        cases (Feast.dateOf _ t.year) <;> simp [put_withLeapDay, Except.map]
      · cases t.definition? key with
        | none => exact fun _ => rfl
        | some ev =>
          simp only
          cases ev.declaration? with
          | error ks => exact fun _ => rfl
          | ok decl =>
            cases decl with
            | relative rel => exact fun _ => rfl
            | rule r =>
              intro _
              simp only [resolveDeclared, withLeapDay_year]
              cases (some <$> r.resolve t.year (some ev.id) : Except Fault (Option Date)) <;>
                simp [put_withLeapDay, Except.map]
            | fixed md =>
              simp only [resolveDeclared, withLeapDay_leapDay, withLeapDay_year]
              intro hr
              have hfix : resolveFixed .skip t.year md ≠ .ok none := by
                intro hnone
                rw [hskip, hnone] at hr
                exact hr _ rfl
              rw [resolveFixed_policy p hfix, ← hskip]
              cases resolveFixed t.leapDay t.year md <;> simp [put_withLeapDay, Except.map]

/-- A walk under `skip` that does not stop at no date is the same walk under any policy. -/
theorem walk_withLeapDay {t : AnchorTable} (hskip : t.leapDay = .skip) {ev : Definition}
    {pending : List Definition} (hr : ∀ X u, t.walk ev pending ≠ ⟨X, u, .ok none⟩) (p : LeapPolicy) :
    (t.withLeapDay p).walk ev pending =
      { t.walk ev pending with table := (t.walk ev pending).table.withLeapDay p } := by
  fun_induction t.walk ev pending with
  | case1 t ev pending chain hc => rw [walk_eq, withLeapDay_visiting, hc]
  | case2 t ev pending hc f ha =>
    rw [walk_eq, withLeapDay_visiting, hc]
    simp only [ha, enter_withLeapDay]
  | case3 t ev pending hc rel ha f hl =>
    have hl' : ∀ u, (t.enter ev.id).lookup rel.anchor (some ev.id) ≠ .ok (.date none, u) := by
      intro u hu
      rw [hl] at hu
      cases hu
    rw [walk_eq, withLeapDay_visiting, hc]
    simp only [ha, enter_withLeapDay, lookup_withLeapDay (t := t.enter ev.id) hskip _ _ hl' p, hl]
    rfl
  | case4 t ev pending hc rel ha d u hl =>
    have hl' : ∀ u, (t.enter ev.id).lookup rel.anchor (some ev.id) ≠ .ok (.date none, u) := by
      intro u' hu
      rw [hl] at hu
      simp only [Except.ok.injEq, Prod.mk.injEq, Found.date.injEq] at hu
      obtain ⟨rfl, rfl⟩ := hu
      exact hr _ _ rfl
    rw [walk_eq, withLeapDay_visiting, hc]
    simp only [ha, enter_withLeapDay, lookup_withLeapDay (t := t.enter ev.id) hskip _ _ hl' p, hl]
    rfl
  | case5 t ev pending hc rel ha next u hl ih =>
    have hl' : ∀ u, (t.enter ev.id).lookup rel.anchor (some ev.id) ≠ .ok (.date none, u) := by
      intro u' hu
      rw [hl] at hu
      cases hu
    obtain ⟨rfl, -⟩ := lookup_relative hl
    rw [walk_eq, withLeapDay_visiting, hc]
    simp only [ha, enter_withLeapDay, lookup_withLeapDay (t := t.enter ev.id) hskip _ _ hl' p, hl,
      Except.map]
    exact ih hskip hr

/-- Resolving a relative event under `skip` to a date or a fault resolves it the same way under
any policy. -/
theorem resolveRelative_withLeapDay {t : AnchorTable} (hskip : t.leapDay = .skip)
    (ev : Definition) (year : Value) (h : (t.resolveRelative ev year).2 ≠ .ok none)
    (p : LeapPolicy) : ((t.withLeapDay p).resolveRelative ev year).2 = (t.resolveRelative ev year).2 := by
  rcases resolveRelative_cases t ev year with ⟨hyr, rel, hd⟩ | ⟨f, hf⟩
  · cases hrec : t.recorded? (.name (normalizeName ev.id)) with
    | some d =>
      rw [resolveRelative_of_recorded hyr hd hrec, resolveRelative_of_recorded
        (by rwa [withLeapDay_year]) hd (by rwa [recorded?_withLeapDay])]
    | none =>
      rw [resolveRelative_of_walk hyr hd hrec] at h ⊢
      rw [resolveRelative_of_walk (by rwa [withLeapDay_year]) hd (by rwa [recorded?_withLeapDay])]
      have hr : ∀ X u, t.walk ev [] ≠ ⟨X, u, .ok none⟩ := by
        intro X u hu
        rw [hu] at h
        simp only [settle_snd, settleValue_none] at h
        exact h rfl
      rw [walk_withLeapDay hskip hr p, withLeapDay_visiting]
      cases (t.walk ev []).found with
      | ok d => simp only [settle_snd]
      | error f => rfl
  · rw [hf (t.withLeapDay p) rfl, hf t rfl]

/-- Resolving an anchor under `skip` to a date or a fault resolves it the same way under any
policy. -/
theorem resolve_withLeapDay {t : AnchorTable} (hskip : t.leapDay = .skip) (ref : AnchorRef)
    (rb : Option String) (h : (t.resolve ref rb).2 ≠ .ok none) (p : LeapPolicy) :
    ((t.withLeapDay p).resolve ref rb).2 = (t.resolve ref rb).2 := by
  cases hl : t.lookup ref rb with
  | error e =>
    have hl' : ∀ u, t.lookup ref rb ≠ .ok (.date none, u) := by
      intro u hu
      rw [hl] at hu
      cases hu
    rw [resolve_of_lookup_error hl, resolve_of_lookup_error (e := e)]
    rw [lookup_withLeapDay hskip ref rb hl' p, hl]
    rfl
  | ok r =>
    obtain ⟨f, u⟩ := r
    have hl' : ∀ u, t.lookup ref rb ≠ .ok (.date none, u) := by
      intro u' hu
      rw [hl] at hu
      simp only [Except.ok.injEq, Prod.mk.injEq] at hu
      obtain ⟨rfl, rfl⟩ := hu
      rw [resolve_of_lookup_date hl] at h
      exact h rfl
    have hlp := lookup_withLeapDay hskip ref rb hl' p
    rw [hl] at hlp
    cases f with
    | date d => rw [resolve_of_lookup_date hl, resolve_of_lookup_date hlp]
    | relative ev =>
      obtain ⟨rfl, -⟩ := lookup_relative hl
      rw [resolve_of_lookup_relative hl] at h
      rw [resolve_of_lookup_relative hl, resolve_of_lookup_relative hlp, withLeapDay_year]
      exact resolveRelative_withLeapDay hskip ev u.year h p

/-- Under `clamp`, a name whose own definition is fixed on February 29 is looked up, in a
common year and with nothing recorded, as February 28 of the year. -/
theorem lookup_clamp_base {t : AnchorTable} (ht : t.dates = []) {s : String}
    (hb : LeapDayBase t.definitions s) (hyear : leapYearOf t.year = .ok false) (rb : Option String) :
    (t.withLeapDay .clamp).lookup (.name s) rb =
      ((Date.ofValues? t.year (.int 2) (.int 28)).mapError Fault.date).map fun d =>
        (.date (some d), (t.withLeapDay .clamp).put (.name s) (some d)) := by
  obtain ⟨hnf, ev, md, hev, hd, hleap⟩ := hb
  rw [lookup_of_base (t := t.withLeapDay .clamp) hnf hev hd (by simp [recorded?, ht]),
    withLeapDay_leapDay, withLeapDay_year, resolveFixed_clamp_leap hleap hyear]
  cases Date.ofValues? t.year (.int 2) (.int 28) <;> rfl

/-- The outcomes under `clamp` of what has no date under `skip`: a date, or a date off the
calendar. -/
def DatedOrOff (r : Except Fault (Option Date)) : Prop :=
  (∃ d, r = .ok (some d)) ∨ ∃ f, r = .error (.date f)

/-- A walk from a table with nothing recorded that stops at no date under `skip` walks the same
events under `clamp` and stops at a date, or fails off the calendar. -/
theorem Walks.clamp_of_none {t : AnchorTable} {ev : Definition} {X : List Definition}
    {u : AnchorTable} {d : Option Date} (h : Walks t ev X u d) (ht : t.dates = []) (hd : d = none) :
    (∃ d' u', Walks (t.withLeapDay .clamp) ev X u' (some d')) ∨
      ∃ f, ((t.withLeapDay .clamp).walk ev []).found = .error (.date f) := by
  induction h with
  | @date t ev rel d u hnot ha hl =>
    subst hd
    obtain ⟨s, hs, hb, -, hyear⟩ := lookup_eq_none (t := t.enter ev.id) ht hl
    have hcl := lookup_clamp_base (t := t.enter ev.id) ht hb hyear (some ev.id)
    rw [← hs, ← enter_withLeapDay] at hcl
    cases hdate : Date.ofValues? (t.enter ev.id).year (.int 2) (.int 28) with
    | ok d' =>
      rw [hdate] at hcl
      exact .inl ⟨d', _, .date (by simpa using hnot) ha hcl⟩
    | error f =>
      rw [hdate] at hcl
      have hfail : ((t.withLeapDay .clamp).enter ev.id).lookup rel.anchor (some ev.id) =
          .error (.date f) := by
        rw [hcl]
        rfl
      exact .inr ⟨f, by rw [walk_of_lookup_error (by simpa using hnot) ha hfail]⟩
  | @relative t ev n rel X u d hnot ha hl hw ih =>
    obtain ⟨-, -, -, -, -, hskip, -⟩ := hw.endsAtLeapDay ht hd
    have hl' : ∀ u, (t.enter ev.id).lookup rel.anchor (some ev.id) ≠ .ok (.date none, u) := by
      intro u hu
      rw [hl] at hu
      cases hu
    have hlc := lookup_withLeapDay (t := t.enter ev.id) hskip _ _ hl' .clamp
    rw [hl, ← enter_withLeapDay] at hlc
    rcases ih ht hd with ⟨d', u', hc⟩ | ⟨f, hc⟩
    · exact .inl ⟨d', u', .relative (by simpa using hnot) ha hlc (by rwa [enter_withLeapDay])⟩
    · refine .inr ⟨f, ?_⟩
      rw [walk_of_lookup_relative (by simpa using hnot) ha hlc, walk_pending]
      exact hc

/-- Settling events that each declare a distance from a date gives a date, or a date off the
calendar. -/
theorem settleValue_some_datedOrOff {X : List Definition}
    (hX : ∀ m ∈ X, ∃ rel, m.anchorOf = .ok rel) (d : Date) : DatedOrOff (settleValue X (some d)) := by
  cases hs : settleValue X (some d) with
  | ok r =>
    cases r with
    | none => exact absurd hs (settleValue_some_ne_none X d)
    | some e => exact Or.inl ⟨e, rfl⟩
  | error e =>
    obtain ⟨f, rfl⟩ := settleValue_error hX hs
    exact Or.inr ⟨f, rfl⟩

/-- What a table with nothing recorded resolves a relative event to no date under `skip`, it
resolves under `clamp` to a date, or to a date off the calendar. -/
theorem resolveRelative_clamp_of_none {t : AnchorTable} (ht : t.dates = []) {ev : Definition}
    {year : Value} (h : (t.resolveRelative ev year).2 = .ok none) :
    DatedOrOff ((t.withLeapDay .clamp).resolveRelative ev year).2 := by
  rcases resolveRelative_cases t ev year with ⟨hyr, rel, hd⟩ | ⟨f, hf⟩
  · have hrec : t.recorded? (.name (normalizeName ev.id)) = none := by simp [recorded?, ht]
    rw [resolveRelative_of_walk hyr hd hrec] at h
    rw [resolveRelative_of_walk (by rwa [withLeapDay_year]) hd (by rwa [recorded?_withLeapDay])]
    cases hw : t.walk ev [] with
    | mk X u found =>
      rw [hw] at h
      cases found with
      | error e => cases h
      | ok d =>
        simp only [settle_snd] at h
        cases d with
        | some d => exact absurd h (settleValue_some_ne_none X d)
        | none =>
          have hwk := walk_eq_ok_iff.mp hw
          rcases hwk.clamp_of_none ht rfl with ⟨d', u', hc⟩ | ⟨f, hc⟩
          · rw [walk_eq_ok_iff.mpr hc]
            simp only [settle_snd]
            exact settleValue_some_datedOrOff hc.anchorOf d'
          · rw [hc]
            exact Or.inr ⟨f, rfl⟩
  · rw [hf t rfl] at h
    cases h

/-- What a table with nothing recorded resolves to no date under `skip` it resolves under
`clamp` to a date, or to a date off the calendar. -/
theorem resolve_clamp_of_none {t : AnchorTable} (ht : t.dates = []) (hskip : t.leapDay = .skip)
    {ref : AnchorRef} {rb : Option String} (h : (t.resolve ref rb).2 = .ok none) :
    DatedOrOff ((t.withLeapDay .clamp).resolve ref rb).2 := by
  cases hl : t.lookup ref rb with
  | error e =>
    rw [resolve_of_lookup_error hl] at h
    cases h
  | ok r =>
    obtain ⟨f, u⟩ := r
    cases f with
    | date d =>
      rw [resolve_of_lookup_date hl] at h
      cases h
      obtain ⟨s, rfl, hb, -, hyear⟩ := lookup_eq_none ht hl
      have hcl := lookup_clamp_base ht hb hyear rb
      cases hd : Date.ofValues? t.year (.int 2) (.int 28) with
      | ok d =>
        rw [hd] at hcl
        rw [resolve_of_lookup_date hcl]
        exact Or.inl ⟨d, rfl⟩
      | error f =>
        rw [hd] at hcl
        rw [resolve_of_lookup_error hcl]
        exact Or.inr ⟨f, rfl⟩
    | relative ev =>
      obtain ⟨hu, -⟩ := lookup_relative hl
      rw [hu] at hl
      have hl' : ∀ u, t.lookup ref rb ≠ .ok (.date none, u) := by
        intro u hu
        rw [hl] at hu
        cases hu
      have hlc := lookup_withLeapDay hskip ref rb hl' .clamp
      rw [hl] at hlc
      rw [resolve_of_lookup_relative hl] at h
      rw [resolve_of_lookup_relative hlc, withLeapDay_year]
      exact resolveRelative_clamp_of_none ht h
/-- Under `clamp`, a name fixed on February 29 resolves, with nothing recorded and in a common
supported year, to February 28 of that year. -/
theorem resolve_clamp_base {t : AnchorTable} (ht : t.dates = []) {s : String}
    (hb : LeapDayBase t.definitions s) {y : Int} (hyear : t.year = .int y)
    (hy : 1 ≤ y ∧ y ≤ 9999) (hcommon : isLeapYear y = false) (rb : Option String) :
    ∃ d, ((t.withLeapDay .clamp).resolve (.name s) rb).2 = .ok (some d) ∧ d.key = (y, 2, 28) := by
  obtain ⟨d, hd, hkey⟩ := Date.ofValues_feb28 hy
  have hl := lookup_clamp_base ht hb (by rw [hyear, leapYearOf, hcommon]) rb
  rw [hyear, hd] at hl
  exact ⟨d, by rw [resolve_of_lookup_date hl], hkey⟩

end AnchorTable

end Almanac
