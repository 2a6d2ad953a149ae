import Almanac.Proofs.Anchor.Walk

/-!
# Recorded dates are fresh dates

An anchor table is shared by every lookup of one expansion, so what it records must not depend
on what was asked of it before. The invariant of this module says so: every recorded date is
the date that the fresh table of the same environment resolves the name to (`Sound`); between
two steps the stack is also empty (`Faithful`).

The main results are that resolving a name or a relative event in a faithful table gives the
answer of the fresh table, dates and failures alike, and leaves a faithful table whose recorded
dates changed only if no fault other than a date off the calendar came up (`resolve_agrees`,
`resolveRelative_agrees`). A walk in a faithful table either fails before it meets a recorded
date, and then fails as the fresh walk does (`walk_blank_of_error`), or stops at a date that the
fresh walk reaches as well (`walk_agrees`); and every date settled on the way back up is the
fresh date of its event (`settle_sound`).
-/

namespace Almanac

namespace AnchorTable

/-- Every recorded date is the one the fresh table resolves its name to. -/
def Sound (t : AnchorTable) : Prop := ∀ e ∈ t.dates, (t.fresh.resolve e.1 none).2 = .ok e.2

/-- The invariant of a table between two steps. -/
structure Faithful (t : AnchorTable) : Prop where
  /-- No event is being resolved. -/
  idle : t.visiting = []
  /-- Every recorded date is fresh. -/
  sound : t.Sound

/-! ## Resolution through one lookup -/

theorem resolve_of_lookup_error {t : AnchorTable} {ref : AnchorRef} {rb : Option String}
    {e : Fault} (h : t.lookup ref rb = .error e) : t.resolve ref rb = (t, .error e) := by
  rw [resolve, h]

theorem resolve_of_lookup_date {t : AnchorTable} {ref : AnchorRef} {rb : Option String}
    {d : Option Date} {u : AnchorTable} (h : t.lookup ref rb = .ok (.date d, u)) :
    t.resolve ref rb = (u, .ok d) := by
  rw [resolve, h]

theorem resolve_of_lookup_relative {t : AnchorTable} {ref : AnchorRef} {rb : Option String}
    {ev : Definition} {u : AnchorTable} (h : t.lookup ref rb = .ok (.relative ev, u)) :
    t.resolve ref rb = u.resolveRelative ev u.year := by
  rw [resolve, h]

/-- A successful resolution depends on the reference only through its key. -/
theorem resolve_congr_ok {t : AnchorTable} {ref ref' key : AnchorRef} {b c : Option String}
    {d : Option Date} (hkey : keyOf ref = .ok key) (hkey' : keyOf ref' = .ok key)
    (h : (t.resolve ref b).2 = .ok d) : (t.resolve ref' c).2 = .ok d := by
  cases hl : t.lookup ref b with
  | error e =>
    rw [resolve_of_lookup_error hl] at h
    cases h
  | ok r =>
    obtain ⟨f, u⟩ := r
    have hl' := lookup_congr (c := c) hkey hkey' hl
    cases f with
    | date d' => rwa [resolve_of_lookup_date hl', ← resolve_of_lookup_date hl]
    | relative ev => rwa [resolve_of_lookup_relative hl', ← resolve_of_lookup_relative hl]

/-- The fresh table never resolves a value that is no name. -/
theorem fresh_resolve_other (t : AnchorTable) (v : Value) (rb : Option String) (d : Option Date) :
    (t.fresh.resolve (.other v) rb).2 ≠ .ok d := by
  cases hl : t.fresh.lookup (.other v) rb with
  | error e =>
    rw [resolve_of_lookup_error hl]
    simp
  | ok r =>
    exfalso
    simp only [lookup, keyOf] at hl
    split at hl
    · simp [bind, Except.bind, definition?, throw, throwThe, MonadExceptOf.throw] at hl
    · cases hl

/-- Resolving a relative event in a year that equals the table's closes its walk and settles
what it found. -/
theorem resolveRelative_of_walk {t : AnchorTable} {ev : Definition} {rel : Relative} {y : Value}
    (hy : y.equals t.year = true) (hrel : ev.declaration? = .ok (.relative rel))
    (hrec : t.recorded? (.name (normalizeName ev.id)) = none) :
    t.resolveRelative ev y =
      match (t.walk ev []).found with
      | .ok d => ({ (t.walk ev []).table with visiting := t.visiting }.settle (t.walk ev []).pending d)
      | .error f => ({ (t.walk ev []).table with visiting := t.visiting }, .error f) := by
  simp only [resolveRelative, hy, Bool.not_true, Bool.false_eq_true, if_false, hrel, hrec,
    walk_close]
  cases (t.walk ev []).found <;> rfl

/-- Resolving a relative event whose date is recorded, in a year that equals the table's, gives
that date and leaves the table as it is. -/
theorem resolveRelative_of_recorded {t : AnchorTable} {ev : Definition} {rel : Relative}
    {y : Value} {d : Option Date} (hy : y.equals t.year = true)
    (hrel : ev.declaration? = .ok (.relative rel))
    (hrec : t.recorded? (.name (normalizeName ev.id)) = some d) :
    t.resolveRelative ev y = (t, .ok d) := by
  simp only [resolveRelative, hy, Bool.not_true, Bool.false_eq_true, if_false, hrel, hrec]

/-- A table resolves a relative event only in a year that equals its own and for a definition
that declares a distance. Otherwise it refuses, with a fault that depends only on its year, and
stays as it is. -/
theorem resolveRelative_cases (t : AnchorTable) (ev : Definition) (year : Value) :
    (year.equals t.year = true ∧ ∃ rel, ev.declaration? = .ok (.relative rel)) ∨
      ∃ f, ∀ u : AnchorTable, u.year = t.year → u.resolveRelative ev year = (u, .error f) := by
  cases hyr : year.equals t.year with
  | false => exact .inr ⟨.tableYear t.year year, fun u hu => by simp [resolveRelative, hu, hyr]⟩
  | true =>
    cases hd : ev.declaration? with
    | error ks =>
      exact .inr ⟨.problem { cause := .malformed (.declarations ev.id ks) },
        fun u hu => by simp [resolveRelative, hu, hyr, hd]⟩
    | ok decl =>
      cases decl with
      | relative rel => exact .inl ⟨rfl, rel, rfl⟩
      | fixed md =>
        exact .inr ⟨.notRelative ev.id (.fixed md : Declaration).kind,
          fun u hu => by simp [resolveRelative, hu, hyr, hd]⟩
      | rule r =>
        exact .inr ⟨.notRelative ev.id (.rule r : Declaration).kind,
          fun u hu => by simp [resolveRelative, hu, hyr, hd]⟩

/-- The relative event a key of the fresh table names resolves to its walk, settled, once the
year of the table equals itself. -/
theorem fresh_resolveRelative {t : AnchorTable} {ev : Definition} (hn : Canonical t ev)
    (y : Value) :
    (t.fresh.resolveRelative ev y).2 =
      if y.equals t.year then t.chainDate ev else .error (.tableYear t.year y) := by
  obtain ⟨rel, -, hrel⟩ := hn.anchorOf
  by_cases hy : y.equals t.year = true
  · rw [resolveRelative_of_walk (by rwa [fresh_year]) hrel (recorded?_fresh t _), if_pos hy,
      chainDate, chainWalk, Walked.settled]
    cases (t.fresh.walk ev []).found with
    | ok d => exact settle_snd _ _ d
    | error f => rfl
  · simp [resolveRelative, hy]

/-- A canonical event is found in the fresh table by its id. -/
theorem fresh_lookup_canonical {t : AnchorTable} {ev : Definition} (hn : Canonical t ev)
    (rb : Option String) : t.fresh.lookup (.name ev.id) rb = .ok (.relative ev, t.fresh) := by
  obtain ⟨rel, hrel⟩ := hn.relative
  have hname := normalizeName_of_not_feast hn.notFeast
  have hfeast := ofName?_of_not_feast hn.notFeast
  simp only [lookup, keyOf_name, hname, recorded?_fresh, hfeast, bind, Except.bind, pure,
    Except.pure, definition?, fresh_definitions, hn.found, hrel]

/-- The fresh table resolves the id of a canonical event to its walk, settled, once its year
equals itself. -/
theorem fresh_resolve_canonical {t : AnchorTable} {ev : Definition} (hn : Canonical t ev)
    (hy : t.year.equals t.year = true) (rb : Option String) :
    (t.fresh.resolve (.name ev.id) rb).2 = t.chainDate ev := by
  rw [resolve_of_lookup_relative (fresh_lookup_canonical hn rb), fresh_year,
    fresh_resolveRelative (hn.congr rfl)]
  simp [hy]

/-! ## Sound tables -/

/-- Only names are recorded in a sound table. -/
theorem Sound.name {t : AnchorTable} (ht : t.Sound) {e : AnchorRef × Option Date}
    (he : e ∈ t.dates) : ∃ s, e.1 = .name s := by
  have := ht e he
  cases h1 : e.1 with
  | name s => exact ⟨s, rfl⟩
  | other v =>
    rw [h1] at this
    exact absurd this (fresh_resolve_other t v none e.2)

/-- A date found recorded in a sound table is the fresh date of its key. -/
theorem Sound.recorded {t : AnchorTable} (ht : t.Sound) {key : AnchorRef} {d : Option Date}
    (h : t.recorded? key = some d) : (t.fresh.resolve key none).2 = .ok d := by
  obtain ⟨e, he, hs, rfl⟩ := recorded?_eq_some h
  obtain ⟨s, hname⟩ := ht.name he
  rw [hname, AnchorRef.sameAs_name] at hs
  rw [hs, ← hname]
  exact ht e he

/-- Recording the fresh date of a key keeps a table sound. -/
theorem Sound.put {t : AnchorTable} (ht : t.Sound) {key : AnchorRef} {d : Option Date}
    (h : (t.fresh.resolve key none).2 = .ok d) : (t.put key d).Sound := by
  intro e he
  rw [put_fresh]
  rcases mem_put he with he | ⟨rfl, he1 | ⟨e0, he0, he01, hs⟩⟩
  · exact ht e he
  · rwa [he1]
  · obtain ⟨s, hname⟩ := ht.name he0
    rw [hname, AnchorRef.sameAs_name] at hs
    rw [← he01, hname, ← hs]
    exact h

/-- A lookup in a sound table keeps it sound. -/
theorem lookup_sound {t : AnchorTable} (ht : t.Sound) {ref : AnchorRef} {rb : Option String}
    {f : Found} {u : AnchorTable} (h : t.lookup ref rb = .ok (f, u)) : u.Sound := by
  cases hkey : keyOf ref with
  | error e =>
    rw [lookup_of_keyOf_error hkey] at h
    cases h
  | ok key =>
    cases hrec : t.recorded? key with
    | some d =>
      rw [lookup_of_recorded hkey hrec] at h
      cases h
      exact ht
    | none =>
      rw [lookup_of_unrecorded hkey hrec] at h
      cases hl : t.fresh.lookup ref rb with
      | error e =>
        rw [hl] at h
        cases h
      | ok r =>
        obtain ⟨f', u'⟩ := r
        rw [hl] at h
        simp only [Except.map, Except.ok.injEq, Prod.mk.injEq] at h
        obtain ⟨rfl, rfl⟩ := h
        cases f' with
        | relative ev => exact ht
        | date d =>
          refine ht.put ?_
          have := resolve_of_lookup_date hl
          refine resolve_congr_ok (b := rb) hkey (keyOf_key hkey) ?_
          rw [this]

/-- A successful walk in a sound table keeps it sound. -/
theorem Walks.sound {t : AnchorTable} {ev : Definition} {X : List Definition} {u : AnchorTable}
    {d : Option Date} (h : Walks t ev X u d) (ht : t.Sound) : u.Sound := by
  induction h with
  | @date t ev rel d u _ _ hl => exact lookup_sound (t := t.enter ev.id) ht hl
  | relative _ _ _ _ ih => exact ih ht

/-- A walk in a sound table that stops at a date stops where the fresh walk of its event lands,
whether the date was recorded or found. -/
theorem lands_of_lookup {t : AnchorTable} (ht : t.Sound) {ev : Definition} {rel : Relative}
    (ha : ev.anchorOf = .ok rel) {d : Option Date} {u : AnchorTable}
    (h : t.lookup rel.anchor (some ev.id) = .ok (.date d, u)) : Lands t ev d := by
  cases hkey : keyOf rel.anchor with
  | error e =>
    rw [lookup_of_keyOf_error hkey] at h
    cases h
  | ok key =>
    cases hrec : t.recorded? key with
    | none =>
      rw [lookup_eq_link ha hkey hrec] at h
      obtain ⟨f, hl, hf⟩ := Except.map_eq_ok.mp h
      cases (Prod.mk.inj hf).1
      exact .inl hl
    | some d' =>
      rw [lookup_of_recorded hkey hrec] at h
      simp only [Except.ok.injEq, Prod.mk.injEq, Found.date.injEq] at h
      obtain ⟨rfl, -⟩ := h
      have hF := ht.recorded hrec
      cases hfl : t.fresh.lookup key none with
      | error e =>
        rw [resolve_of_lookup_error hfl] at hF
        cases hF
      | ok r =>
        obtain ⟨f, w⟩ := r
        have hlink : t.link ev = .ok f := by
          rw [link_of_anchorOf ha, lookup_congr (keyOf_key hkey) hkey hfl]
          rfl
        cases f with
        | date d'' =>
          rw [resolve_of_lookup_date hfl] at hF
          cases hF
          exact .inl hlink
        | relative k =>
          obtain ⟨rfl, -, -, hk⟩ := lookup_relative hfl
          rw [resolve_of_lookup_relative hfl, fresh_year, fresh_resolveRelative (hk.congr (u := t) rfl)] at hF
          split at hF
          · exact .inr ⟨k, hlink, hF⟩
          · cases hF

/-- What a walk in a sound table settles agrees with the fresh walks: for every event on its
path, the fresh walk from that event succeeds and settles to what the path settles to up to
it. -/
theorem Walks.agrees {t : AnchorTable} {ev : Definition} {X : List Definition} {u : AnchorTable}
    {d : Option Date} (h : Walks t ev X u d) (ht : t.Sound) (hc : Canonical t ev) :
    ∀ Z m, Z ++ [m] <+: X →
      ∃ Y d0 w, t.chainWalk m = ⟨Y, w, .ok d0⟩ ∧ settleValue Y d0 = settleValue (Z ++ [m]) d := by
  induction h with
  | @date t ev rel d u hnot ha hl =>
    intro Z m hZ
    have hlen := hZ.length_le
    simp only [List.length_append, List.length_singleton] at hlen
    obtain rfl : Z = [] := List.eq_nil_of_length_eq_zero (by omega)
    obtain rfl : m = ev := by simpa using hZ.eq_of_length (by simp)
    have hland := (lands_of_lookup (t := t.enter m.id) ht ha hl).congr (u := t) (by simp)
    obtain ⟨Y, d0, w, hY, hs⟩ := chainWalk_of_lands hc hland
    exact ⟨Y, d0, w, hY, by rw [hs, List.nil_append, settleValue_singleton]⟩
  | @relative t ev n rel X u d hnot ha hl hw ih =>
    obtain ⟨-, hkey, hrec, hn⟩ := lookup_relative hl
    have ih' := ih ht (hn.congr rfl)
    rw [chainWalk_congr (u := t) (by simp)] at ih'
    have hlink : t.link ev = .ok (.relative n) := by
      obtain ⟨f, hlk, hf⟩ := Except.map_eq_ok.mp ((lookup_eq_link ha hkey hrec).symm.trans hl)
      cases (Prod.mk.inj hf).1
      rwa [← link_congr (t := t.enter ev.id) (by simp)]
    intro Z m hZ
    rcases List.prefix_concat_iff.mp hZ with heq | hpre
    · obtain ⟨rfl, hm⟩ := List.append_inj' heq rfl
      obtain rfl := List.singleton_inj.mp hm
      obtain ⟨Z', rfl⟩ := hw.last
      obtain ⟨Y, d0, w, hY, hs⟩ := ih' Z' n List.prefix_rfl
      obtain ⟨w', hY'⟩ := chainWalk_of_relative hc hlink hY
      refine ⟨Y ++ [m], d0, w', hY', ?_⟩
      rw [settleValue_append, hs, settleValue_append _ [m]]
    · exact ih' Z m hpre

/-- Settling a walk whose every prefix settles to the fresh date of its last event keeps a
table sound. -/
theorem settle_sound {t : AnchorTable} (ht : t.Sound) {X : List Definition} {d : Option Date}
    (hX : ∀ Z m, Z ++ [m] <+: X → ∀ v, settleValue (Z ++ [m]) d = .ok v →
      (t.fresh.resolve (.name (normalizeName m.id)) none).2 = .ok v) :
    (t.settle X d).1.Sound := by
  induction X generalizing t d with
  | nil => rwa [settle_nil]
  | cons ev rest ih =>
    have hfirst := hX [] ev (List.prefix_cons_inj _ |>.mpr List.nil_prefix)
    rw [settle_cons]
    cases hv : shiftBy ev d with
    | error f => exact ht
    | ok v =>
      have hput := ht.put (hfirst v (by simpa [settleValue] using hv))
      refine ih hput fun Z m hZ v' hv' => ?_
      rw [put_fresh]
      refine hX (ev :: Z) m ((List.prefix_cons_inj _).mpr hZ) v' ?_
      simp only [List.cons_append, settleValue, hv]
      exact hv'

/-! ## One step of a faithful table -/

/-- The table of a faithful table with its records dropped is the fresh table. -/
theorem Faithful.blank_eq {t : AnchorTable} (ht : t.Faithful) : t.blank = t.fresh := by
  obtain ⟨idle, -⟩ := ht
  cases t
  cases idle
  rfl

/-- What one step `out` of a faithful table `t` does against the fresh answer `r0`: it answers
`r0`, leaves a faithful table of the same environment, and leaves the table as it was when it
fails with any fault but a date off the calendar. -/
structure Agrees (t : AnchorTable) (out : AnchorTable × Except Fault (Option Date))
    (r0 : Except Fault (Option Date)) : Prop where
  answer : out.2 = r0
  faithful : out.1.Faithful
  env : out.1.fresh = t.fresh
  unchanged : ∀ e, out.2 = .error e → (∀ f, e ≠ .date f) → out.1 = t

/-- A step that gives the fresh answer and keeps the table agrees. -/
theorem Agrees.stay {t : AnchorTable} (ht : t.Faithful) (r : Except Fault (Option Date)) :
    Agrees t (t, r) r :=
  ⟨rfl, ht, rfl, fun _ _ _ => rfl⟩

/-- A walk that fails in a faithful table leaves the table as it was, with the fault that the
walk of the fresh table meets. -/
theorem Faithful.agrees_walk_error {t u : AnchorTable} (ht : t.Faithful) {ev : Definition}
    {X : List Definition} {e : Fault} (hw : t.walk ev [] = ⟨X, u, .error e⟩) :
    Agrees t ({ u with visiting := t.visiting }, .error e) (t.chainDate ev) := by
  have hfound : (t.walk ev []).found = .error e := by rw [hw]
  have hclose := walk_close_of_error hfound
  rw [walk_close, hw] at hclose
  simp only at hclose
  have hf : t.chainDate ev = .error e := by
    have hb := walk_blank_of_error hfound
    rw [ht.blank_eq] at hb
    rw [chainDate, chainWalk, Walked.settled, hb]
    rfl
  rw [(Prod.mk.inj hclose).1, hf]
  exact Agrees.stay ht _

/-- A walk that succeeds in a faithful table settles to the fresh date of its event, and leaves
a faithful table of the same environment with every date it records fresh. -/
theorem Walks.settle_agrees {t u : AnchorTable} {ev : Definition} {X : List Definition}
    {d : Option Date} (hwk : Walks t ev X u d) (ht : t.Faithful)
    (hy : t.year.equals t.year = true) (hc : Canonical t ev) :
    Agrees t ({ u with visiting := t.visiting }.settle X d) (t.chainDate ev) := by
  have hfr : u.fresh = t.fresh := by
    have := walk_fresh t ev []
    rwa [walk_eq_ok_iff.mpr hwk] at this
  have hu : ({ u with visiting := t.visiting } : AnchorTable).Sound := hwk.sound ht.sound
  have hagree := hwk.agrees ht.sound hc
  obtain ⟨Z, rfl⟩ := hwk.last
  have hfresh : t.chainDate ev = settleValue (Z ++ [ev]) d := by
    obtain ⟨Y, d0, w, hY, hs⟩ := hagree Z ev List.prefix_rfl
    rw [chainDate, hY]
    exact hs
  have hX : ∀ Z' m, Z' ++ [m] <+: Z ++ [ev] → ∀ v,
      settleValue (Z' ++ [m]) d = .ok v →
      (({ u with visiting := t.visiting } : AnchorTable).fresh.resolve
        (.name (normalizeName m.id)) none).2 = .ok v := by
    intro Z' m hZ v hv
    have hm : Canonical t m :=
      hwk.canonical hc m (hZ.subset (List.mem_append_right _ (List.mem_singleton_self m)))
    obtain ⟨Y, d0, w, hY, hs⟩ := hagree Z' m hZ
    rw [fresh_with_visiting, hfr, normalizeName_of_not_feast hm.notFeast,
      fresh_resolve_canonical hm hy, chainDate, hY]
    exact hs.trans hv
  obtain ⟨hsv, hsf⟩ := settle_table ({ u with visiting := t.visiting } : AnchorTable) (Z ++ [ev]) d
  refine ⟨by rw [settle_snd, hfresh], ⟨?_, settle_sound hu hX⟩, ?_, ?_⟩
  · rw [hsv]
    exact ht.idle
  · rw [hsf, fresh_with_visiting, hfr]
  · intro e he hne
    rw [settle_snd] at he
    obtain ⟨f, rfl⟩ := settleValue_error hwk.anchorOf he
    exact absurd rfl (hne f)

/-- Resolving a relative event in a faithful table agrees with the fresh table, once the year of
the table equals itself, the event is the definition found by its id and its id is no feast. -/
theorem resolveRelative_agrees {t : AnchorTable} (ht : t.Faithful)
    (hy : t.year.equals t.year = true) {ev : Definition}
    (hev : t.definitions.find? (·.id == ev.id) = some ev) (hnf : isFeastName ev.id = false)
    (year : Value) :
    Agrees t (t.resolveRelative ev year) (t.fresh.resolveRelative ev year).2 := by
  rcases resolveRelative_cases t ev year with ⟨hyr, rel, hd⟩ | ⟨f, hf⟩
  · have hc : Canonical t ev := ⟨hev, ⟨rel, hd⟩, hnf⟩
    have h0 : (t.fresh.resolveRelative ev year).2 = t.chainDate ev := by
      rw [fresh_resolveRelative hc]
      simp [hyr]
    rw [h0]
    cases hrec : t.recorded? (.name ev.id) with
    | some d =>
      have hF := ht.sound.recorded hrec
      rw [fresh_resolve_canonical hc hy] at hF
      rw [resolveRelative_of_recorded hyr hd (by rwa [normalizeName_of_not_feast hnf]), hF]
      exact Agrees.stay ht _
    | none =>
      rw [resolveRelative_of_walk hyr hd (by rwa [normalizeName_of_not_feast hnf])]
      cases hw : t.walk ev [] with
      | mk X u found =>
        cases found with
        | error e => exact ht.agrees_walk_error hw
        | ok d => exact (walk_eq_ok_iff.mp hw).settle_agrees ht hy hc
  · rw [hf t rfl, hf t.fresh (fresh_year t)]
    exact Agrees.stay ht _

/-- Resolving any anchor in a faithful table agrees with the fresh table. -/
theorem resolve_agrees {t : AnchorTable} (ht : t.Faithful) (ref : AnchorRef) (rb : Option String) :
    Agrees t (t.resolve ref rb) (t.fresh.resolve ref rb).2 := by
  cases hkey : keyOf ref with
  | error e =>
    rw [resolve_of_lookup_error (lookup_of_keyOf_error hkey),
      resolve_of_lookup_error (lookup_of_keyOf_error hkey)]
    exact Agrees.stay ht _
  | ok key =>
    cases hrec : t.recorded? key with
    | some d =>
      rw [resolve_of_lookup_date (lookup_of_recorded hkey hrec),
        resolve_congr_ok (c := rb) (keyOf_key hkey) hkey (ht.sound.recorded hrec)]
      exact Agrees.stay ht _
    | none =>
      have hl := lookup_of_unrecorded (b := rb) hkey hrec
      cases hfl : t.fresh.lookup ref rb with
      | error e =>
        rw [hfl] at hl
        rw [resolve_of_lookup_error hl, resolve_of_lookup_error hfl]
        exact Agrees.stay ht _
      | ok r =>
        obtain ⟨f, w⟩ := r
        rw [hfl] at hl
        simp only [Except.map] at hl
        cases f with
        | date d =>
          rw [resolve_of_lookup_date hl, resolve_of_lookup_date hfl]
          have hF : (t.fresh.resolve key none).2 = .ok d :=
            resolve_congr_ok (b := rb) hkey (keyOf_key hkey) (by rw [resolve_of_lookup_date hfl])
          refine ⟨rfl, ⟨?_, ht.sound.put hF⟩, ?_, fun _ h _ => by cases h⟩
          · simp only [absorb, put_visiting]
            exact ht.idle
          · simp only [absorb, put_fresh]
        | relative ev =>
          obtain ⟨rfl, -, -, hc⟩ := lookup_relative hfl
          rw [resolve_of_lookup_relative hl, resolve_of_lookup_relative hfl, fresh_year]
          simp only [absorb]
          cases hy : t.year.equals t.year with
          | true => exact resolveRelative_agrees ht hy hc.found hc.notFeast t.year
          | false =>
            simp only [resolveRelative, fresh_year, hy, Bool.not_false, if_true]
            exact Agrees.stay ht _

end AnchorTable

end Almanac
