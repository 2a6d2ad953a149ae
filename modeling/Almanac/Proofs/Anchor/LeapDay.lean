import Almanac.Proofs.Anchor.Memo

/-!
# Anchors on February 29

Under the leap-day policy `skip`, a definition fixed on February 29 does not occur in a common
year, and neither does any event counted from it, however long the chain of anchors between
them. This module shows that these are the only names the fresh table resolves to no date
(`fresh_resolve_eq_none_iff`): a lookup finds no date only at such a definition
(`lookup_eq_none`), and a walk stops at no date only at the end of such a chain
(`endsAtLeapDay_of_walk`).
-/

namespace Almanac

/-- A name whose own definition is fixed on February 29. -/
structure LeapDayBase (defs : List Definition) (s : String) : Prop where
  /-- The name is no feast, which would be looked up first. -/
  notFeast : isFeastName s = false
  /-- The first definition of the name is fixed on February 29. -/
  fixed : ∃ ev md, defs.find? (·.id == s) = some ev ∧ ev.declaration? = .ok (.fixed md) ∧
    md.isLeapDay = true

/-- The chain of anchors from a name, the name itself included, ends at a definition fixed on
February 29. -/
inductive EndsAtLeapDay (defs : List Definition) : String → Prop
  /-- The name's own definition is fixed on February 29. -/
  | base {s : String} (h : LeapDayBase defs s) : EndsAtLeapDay defs s
  /-- The name's definition is relative to a name whose chain ends there. -/
  | relative {s a : String} {ev : Definition} {rel : Relative} (notFeast : isFeastName s = false)
      (found : defs.find? (·.id == s) = some ev) (hrel : ev.declaration? = .ok (.relative rel))
      (anchor : rel.anchor = .name a) (next : EndsAtLeapDay defs a) : EndsAtLeapDay defs s

/-- A fixed definition has no date only on February 29 of a common year, under `skip`. -/
theorem resolveFixed_eq_none {p : LeapPolicy} {year : Value} {md : MonthDay} :
    resolveFixed p year md = .ok none ↔
      md.isLeapDay = true ∧ leapYearOf year = .ok false ∧ p = .skip := by
  unfold resolveFixed
  cases hmd : md.isLeapDay with
  | false =>
    simp only [Bool.false_eq_true, if_false, false_and, iff_false]
    cases Date.ofValues? year (.int md.month) (.int md.day) <;>
      simp [Except.mapError, Functor.map, Except.map]
  | true =>
    cases hy : leapYearOf year with
    | error e => simp [bind, Except.bind]
    | ok b =>
      cases b with
      | true =>
        simp only [bind, Except.bind, Bool.not_true, Bool.false_eq_true, if_false, true_and]
        cases Date.ofValues? year (.int md.month) (.int md.day) <;>
          simp [Except.mapError, Functor.map, Except.map]
      | false =>
        cases p with
        | skip => simp [bind, Except.bind, pure, Except.pure]
        | clamp =>
          simp only [bind, Except.bind, Bool.not_false, if_true, true_and, reduceCtorEq, iff_false]
          cases Date.ofValues? year (.int 2) (.int 28) <;> simp [Except.mapError, pure, Except.pure]

/-- A spelling of a name is a feast exactly when the name is. -/
@[simp] theorem isFeastName_normalizeName (s : String) :
    isFeastName (normalizeName s) = isFeastName s := by
  simp only [isFeastName, Feast.ofName?, normalizeName_normalizeName]

namespace AnchorTable

/-- A lookup in a table that records nothing finds no date only at a name whose definition is
fixed on February 29, in a common year under `skip`. -/
theorem lookup_eq_none {t : AnchorTable} (ht : t.dates = []) {ref : AnchorRef}
    {rb : Option String} {u : AnchorTable} (h : t.lookup ref rb = .ok (.date none, u)) :
    ∃ s, ref = .name s ∧ LeapDayBase t.definitions s ∧ t.leapDay = .skip ∧
      leapYearOf t.year = .ok false := by
  have hrec : ∀ key, t.recorded? key = none := by
    intro key
    simp [recorded?, ht]
  cases ref with
  | other v =>
    exfalso
    cases hkey : keyOf (.other v) with
    | error e => rw [lookup_of_keyOf_error hkey] at h; cases h
    | ok key =>
      simp only [lookup, hkey, hrec, bind, Except.bind] at h
      have : key = .other v := by
        simp only [keyOf] at hkey
        split at hkey <;> simp_all
      subst this
      simp [definition?, throw, throwThe, MonadExceptOf.throw] at h
  | name s =>
    refine ⟨s, rfl, ?_⟩
    simp only [lookup, keyOf_name, hrec, bind, Except.bind] at h
    cases hf : Feast.ofName? (normalizeName s) with
    | some f =>
      simp only [hf] at h
      cases hd : f.dateOf t.year with
      | error e =>
        rw [hd] at h
        cases h
      | ok d =>
        rw [hd] at h
        simp [pure, Except.pure] at h
    | none =>
      simp only [hf] at h
      have hnf : isFeastName s = false := by
        rw [← isFeastName_normalizeName, isFeastName, hf]
        rfl
      rw [normalizeName_of_not_feast hnf] at h
      simp only [definition?] at h
      cases hev : t.definitions.find? (·.id == s) with
      | none => simp [hev, throw, throwThe, MonadExceptOf.throw] at h
      | some ev =>
        simp only [hev] at h
        cases hd : ev.declaration? with
        | error ks => simp [hd, throw, throwThe, MonadExceptOf.throw] at h
        | ok decl =>
          cases decl with
          | relative rel => simp [hd, pure, Except.pure] at h
          | rule r =>
            simp only [hd, resolveDeclared] at h
            cases hr : r.resolve t.year (some ev.id) with
            | error e =>
              simp only [Functor.map, Except.map, hr] at h
              cases h
            | ok d =>
              simp [Functor.map, Except.map, hr, pure, Except.pure] at h
          | fixed md =>
            simp only [hd, resolveDeclared] at h
            cases hfix : resolveFixed t.leapDay t.year md with
            | error e => simp [hfix] at h
            | ok d =>
              simp only [hfix, pure, Except.pure, Except.ok.injEq, Prod.mk.injEq,
                Found.date.injEq] at h
              obtain ⟨rfl, -⟩ := h
              obtain ⟨hleap, hyear, hskip⟩ := resolveFixed_eq_none.mp hfix
              exact ⟨⟨hnf, ev, md, hev, hd, hleap⟩, hskip, hyear⟩

/-- An unrecorded name whose definition is fixed on February 29 is looked up as a fixed date. -/
theorem lookup_of_base {t : AnchorTable} {s : String} {ev : Definition} {md : MonthDay}
    (hnf : isFeastName s = false) (hev : t.definitions.find? (·.id == s) = some ev)
    (hd : ev.declaration? = .ok (.fixed md)) (hrec : t.recorded? (.name s) = none)
    (rb : Option String) :
    t.lookup (.name s) rb =
      (resolveFixed t.leapDay t.year md).map fun d => (.date d, t.put (.name s) d) := by
  simp only [lookup, keyOf_name, normalizeName_of_not_feast hnf, hrec, ofName?_of_not_feast hnf,
    definition?, hev, hd, resolveDeclared, bind, Except.bind, pure, Except.pure]
  cases resolveFixed t.leapDay t.year md <;> rfl

/-- A walk from a table with nothing recorded stops at no date only where the anchor of the last
event it entered is a chain ending at February 29, in a common year under `skip`. -/
theorem Walks.endsAtLeapDay {t : AnchorTable} {ev : Definition} {X : List Definition}
    {u : AnchorTable} {d : Option Date} (h : Walks t ev X u d) (ht : t.dates = []) (hd : d = none) :
    ∃ rel a, ev.anchorOf = .ok rel ∧ rel.anchor = .name a ∧ EndsAtLeapDay t.definitions a ∧
      t.leapDay = .skip ∧ leapYearOf t.year = .ok false := by
  induction h with
  | @date t ev rel d u hnot ha hl =>
    subst hd
    obtain ⟨a, hanchor, hb, hskip, hyear⟩ := lookup_eq_none (t := t.enter ev.id) ht hl
    exact ⟨rel, a, ha, hanchor, .base hb, hskip, hyear⟩
  | @relative t ev n rel X u d hnot ha hl hw ih =>
    obtain ⟨-, hkey, -, hn⟩ := lookup_relative hl
    obtain ⟨nr, a', hna, ha', hend, hskip, hyear⟩ := ih ht hd
    obtain ⟨nr', hna', hnr⟩ := hn.anchorOf
    rw [hna'] at hna
    cases hna
    cases hanchor : rel.anchor with
    | other v =>
      rw [hanchor] at hkey
      simp only [keyOf] at hkey
      split at hkey <;> cases hkey
    | name a =>
      rw [hanchor, keyOf_name, Except.ok.injEq, AnchorRef.name.injEq] at hkey
      have hnf : isFeastName a = false := by
        rw [← isFeastName_normalizeName, hkey]
        exact hn.notFeast
      rw [normalizeName_of_not_feast hnf] at hkey
      subst hkey
      exact ⟨rel, n.id, ha, hanchor, .relative hnf hn.found hnr ha' hend, hskip, hyear⟩

/-- The date of an event moved from a date is a date. -/
theorem shiftBy_some {ev : Definition} {d : Date} {v : Option Date}
    (h : shiftBy ev (some d) = .ok v) : ∃ e, v = some e := by
  simp only [shiftBy, bind, Except.bind, Functor.map, Except.map, Except.mapError] at h
  split at h
  · cases h
  · split at h <;> cases h
    exact ⟨_, rfl⟩

/-- Settling a walk that stopped at a date never gives no date. -/
theorem settleValue_some_ne_none (X : List Definition) (d : Date) :
    settleValue X (some d) ≠ .ok none := by
  induction X generalizing d with
  | nil => simp [settleValue]
  | cons ev rest ih =>
    simp only [settleValue]
    cases hs : shiftBy ev (some d) with
    | error f => simp [Except.bind]
    | ok v =>
      obtain ⟨e, rfl⟩ := shiftBy_some hs
      exact ih e

/-- Settling a walk that stopped at no date gives no date. -/
@[simp] theorem settleValue_none (X : List Definition) : settleValue X none = .ok none := by
  induction X with
  | nil => rfl
  | cons ev rest ih =>
    simp only [settleValue, shiftBy_none]
    exact ih

/-- A chain ending at February 29 is walked from the fresh table to no date, in a common year
under `skip`: its name is the fixed definition itself, or a canonical event whose walk stops at
no date. -/
theorem walk_of_endsAtLeapDay {t : AnchorTable} (hskip : t.leapDay = .skip)
    (hyear : leapYearOf t.year = .ok false) {a : String} (h : EndsAtLeapDay t.definitions a) :
    LeapDayBase t.definitions a ∨
      ∃ ev, Canonical t ev ∧ ev.id = a ∧ ∃ X u, t.chainWalk ev = ⟨X, u, .ok none⟩ := by
  induction h with
  | base hb => exact Or.inl hb
  | @relative s a ev rel hnf hev hrel ha _ ih =>
    right
    have hid : ev.id = s := by
      have := List.find?_some hev
      simpa using this
    subst hid
    have hc : Canonical t ev := ⟨hev, ⟨rel, hrel⟩, hnf⟩
    have hanchor := Definition.anchorOf_of_declaration? hrel
    refine ⟨ev, hc, rfl, ?_⟩
    rcases ih with ⟨hnf', ev', md, hev', hd', hleap⟩ | ⟨ev', hc', rfl, X, u, hw⟩
    · have hfix : resolveFixed t.leapDay t.year md = .ok none :=
        resolveFixed_eq_none.mpr ⟨hleap, hyear, hskip⟩
      have hlink : t.link ev = .ok (.date none) := by
        rw [link_of_anchorOf hanchor, ha,
          lookup_of_base (t := t.fresh) hnf' hev' hd' rfl, fresh_leapDay, fresh_year, hfix]
        rfl
      obtain ⟨u, hw⟩ := chainWalk_of_date hlink
      exact ⟨[ev], u, hw⟩
    · have hlink : t.link ev = .ok (.relative ev') := by
        rw [link_of_anchorOf hanchor, ha, fresh_lookup_canonical hc']
        rfl
      obtain ⟨u', hw'⟩ := chainWalk_of_relative hc hlink hw
      exact ⟨X ++ [ev], u', hw'⟩

/-- The fresh table resolves a name to no date exactly when its chain of anchors ends at a
definition fixed on February 29, the year is a common year and the policy is `skip`. -/
theorem fresh_resolve_eq_none_iff {t : AnchorTable} (hy : t.year.equals t.year = true)
    (s : String) (rb : Option String) :
    (t.fresh.resolve (.name s) rb).2 = .ok none ↔
      EndsAtLeapDay t.definitions s ∧ t.leapDay = .skip ∧ leapYearOf t.year = .ok false := by
  constructor
  · intro h
    cases hl : t.fresh.lookup (.name s) rb with
    | error e =>
      rw [resolve_of_lookup_error hl] at h
      cases h
    | ok r =>
      obtain ⟨f, w⟩ := r
      cases f with
      | date d =>
        rw [resolve_of_lookup_date hl] at h
        cases h
        obtain ⟨s', hs', hb, hskip, hyear⟩ := lookup_eq_none rfl hl
        cases hs'
        exact ⟨.base hb, hskip, hyear⟩
      | relative ev =>
        obtain ⟨rfl, hkey, -, hc⟩ := lookup_relative hl
        rw [resolve_of_lookup_relative hl, fresh_year, fresh_resolveRelative (hc.congr (u := t) rfl),
          if_pos hy] at h
        cases hw : t.chainWalk ev with
        | mk X u found =>
          rw [chainDate, hw] at h
          cases found with
          | error e => cases h
          | ok d0 =>
            cases d0 with
            | some d => exact absurd h (settleValue_some_ne_none X d)
            | none =>
              obtain ⟨rel, a, ha, hanchor, hend, hskip, hyear⟩ :=
                (walk_eq_ok_iff.mp hw).endsAtLeapDay rfl rfl
              obtain ⟨rel', ha', hrel⟩ := hc.anchorOf
              rw [ha'] at ha
              cases ha
              rw [keyOf_name, Except.ok.injEq, AnchorRef.name.injEq] at hkey
              have hnf : isFeastName s = false := by
                rw [← isFeastName_normalizeName, hkey]
                exact hc.notFeast
              rw [normalizeName_of_not_feast hnf] at hkey
              subst hkey
              exact ⟨.relative hnf hc.found hrel hanchor hend, hskip, hyear⟩
  · rintro ⟨hend, hskip, hyear⟩
    rcases walk_of_endsAtLeapDay hskip hyear hend with ⟨hnf, ev, md, hev, hd, hleap⟩ | ⟨ev, hc, rfl, X, u, hw⟩
    · have hfix : resolveFixed t.leapDay t.year md = .ok none :=
        resolveFixed_eq_none.mpr ⟨hleap, hyear, hskip⟩
      have hl := lookup_of_base (t := t.fresh) hnf hev hd rfl rb
      rw [fresh_leapDay, fresh_year, hfix] at hl
      rw [resolve_of_lookup_date hl]
    · rw [fresh_resolve_canonical hc hy, chainDate, hw]
      exact settleValue_none X

end AnchorTable

end Almanac
