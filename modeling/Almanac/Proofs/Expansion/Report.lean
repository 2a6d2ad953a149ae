import Almanac.Proofs.Expansion.Collect

/-!
# What a report says about each definition

A report of a country's events in a year accounts for every kept definition, that is the first
definition of each id, in exactly one way: as a dated event, as a warning, or not at all. Which
one is decided by the date the fresh table of the year gives the definition alone, so it does
not depend on the order of the definitions or on what the shared table recorded before
(`expand_report_reading`).

A definition is left out silently exactly when its chain of anchors ends at February 29 of a
common year under the leap-day policy `skip`; it is a warning exactly when its id names a feast
or the fresh table meets a problem resolving it, and the warning holds that problem as met while
expanding the id, its message naming the id when another definition is at fault.
-/

namespace Almanac

/-! ## Kept definitions -/

theorem firstOfEach_fst_cons (ev : Definition) (rest : List Definition) (seen : List String) :
    (firstOfEach (ev :: rest) seen).1 =
      if seen.contains ev.id then (firstOfEach rest seen).1
      else ev :: (firstOfEach rest (ev.id :: seen)).1 := by
  simp only [firstOfEach]
  split <;> rfl

/-- A kept definition is one of the definitions, with an id not seen before. -/
theorem firstOfEach_kept {defs : List Definition} {seen : List String} {ev : Definition}
    (h : ev ∈ (firstOfEach defs seen).1) : ev ∈ defs ∧ ev.id ∉ seen := by
  induction defs generalizing seen with
  | nil => simp [firstOfEach] at h
  | cons e rest ih =>
    rw [firstOfEach_fst_cons] at h
    split at h
    · obtain ⟨hm, hs⟩ := ih h
      exact ⟨List.mem_cons_of_mem e hm, hs⟩
    · rename_i hnew
      rcases List.mem_cons.mp h with rfl | hm
      · exact ⟨List.mem_cons_self, by simpa using hnew⟩
      · obtain ⟨hm', hs⟩ := ih hm
        exact ⟨List.mem_cons_of_mem e hm', fun h' => hs (List.mem_cons_of_mem _ h')⟩

/-- The kept definitions have distinct ids. -/
theorem firstOfEach_nodup (defs : List Definition) (seen : List String) :
    ((firstOfEach defs seen).1.map (·.id)).Nodup := by
  induction defs generalizing seen with
  | nil => simp [firstOfEach]
  | cons e rest ih =>
    rw [firstOfEach_fst_cons]
    split
    · exact ih seen
    · refine List.nodup_cons.mpr ⟨?_, ih _⟩
      intro hm
      obtain ⟨k, hk, hid⟩ := List.mem_map.mp hm
      exact (firstOfEach_kept hk).2 (hid ▸ List.mem_cons_self)

namespace Problem

/-- A problem met while expanding an id names that id as expanded. -/
@[simp] theorem whileExpanding_expanding (p : Problem) (id : String) :
    (p.whileExpanding id).expanding = some id := by
  unfold whileExpanding
  split <;> rfl

/-- Tagging a problem keeps its cause: the definition at fault, its anchor or its chain. -/
@[simp] theorem whileExpanding_cause (p : Problem) (id : String) :
    (p.whileExpanding id).cause = p.cause := by
  unfold whileExpanding
  split <;> rfl

/-- The message of a problem met while expanding an id names the id exactly when another
definition is at fault. -/
theorem message_whileExpanding (p : Problem) (id : String) :
    (p.whileExpanding id).message =
      p.cause.message ++ (if p.eventId? = some id then "" else s!" (while expanding '{id}')") := by
  simp only [message, whileExpanding_expanding, whileExpanding_cause, eventId?]
  by_cases h : p.cause.eventId? = some id
  · simp [h]
  · have h' : ¬ some id = p.cause.eventId? := fun e => h e.symm
    simp [h, h']

end Problem

namespace Expansion

/-- What the expansion of one definition leaves in a report: its event, its warning, or
nothing. -/
def landing (year : Int) (ev : Definition) : Except Fault (Option Date) → List Occurrence × List Skipped
  | .ok (some d) => ([⟨ev, year, d⟩], [])
  | .error (.problem p) => ([], [⟨ev.id, p.whileExpanding ev.id⟩])
  | _ => ([], [])

/-- One definition leaves at most one event. -/
theorem landing_fst_length (year : Int) (ev : Definition) (r : Except Fault (Option Date)) :
    (landing year ev r).1.length ≤ 1 := by
  unfold landing
  split <;> simp

/-- A definition leaves nothing exactly when it has no date, or a fault that is no problem. -/
theorem landing_eq_nil_iff {year : Int} {ev : Definition} {r : Except Fault (Option Date)} :
    landing year ev r = ([], []) ↔ r = .ok none ∨ ∃ f, r = .error f ∧ ∀ p, f ≠ .problem p := by
  cases r with
  | ok d => cases d <;> simp [landing]
  | error f => cases f <;> simp [landing]

/-- A definition leaves a warning exactly when its date is a problem. -/
theorem landing_snd_ne_nil_iff {year : Int} {ev : Definition} {r : Except Fault (Option Date)} :
    (landing year ev r).2 ≠ [] ↔ ∃ p, r = .error (.problem p) := by
  cases r with
  | ok d => cases d <;> simp [landing]
  | error f => cases f <;> simp [landing]

/-- The date an expansion gives a definition whose id names a feast is the refusal. -/
theorem dateOf_of_feast (t : AnchorTable) {ev : Definition} (h : isFeastName ev.id = true) :
    (dateOf t ev).2 = .error (reservedFault ev.id) := by
  simp [dateOf, h]

/-- The date an expansion gives any other definition is that of its id, resolved on its own
behalf. -/
theorem dateOf_of_not_feast (t : AnchorTable) {ev : Definition} (h : isFeastName ev.id = false) :
    dateOf t ev = t.resolve (.name ev.id) (some ev.id) := by
  simp [dateOf, h]

/-! ## What `collect` finds -/

/-- An expansion that finishes went on past every definition: no definition has a fault other
than a problem, and problems only under `skip`. -/
theorem collect_goesOn {onError : ErrorPolicy} {year : Int}
    {date : Definition → Except Fault (Option Date)} {defs : List Definition} {es : List Occurrence} {ws : List Skipped}
    (h : collect onError year date defs = .ok (es, ws)) {ev : Definition} (hev : ev ∈ defs)
    {f : Fault} (hf : date ev = .error f) : onError = .skip ∧ ∃ p, f = .problem p := by
  induction defs generalizing es ws with
  | nil => cases hev
  | cons e rest ih =>
    simp only [collect] at h
    rcases List.mem_cons.mp hev with rfl | hrest
    · rw [hf] at h
      cases f
      case problem p =>
        cases onError with
        | raise => cases h
        | skip => exact ⟨rfl, p, rfl⟩
      all_goals cases h
    · split at h
      · exact ih h hrest
      · cases hc : collect onError year date rest with
        | error _ => rw [hc] at h; cases h
        | ok r => exact ih hc hrest
      · split at h
        · cases h
        · cases hc : collect .skip year date rest with
          | error _ => rw [hc] at h; cases h
          | ok r => exact ih hc hrest
      · cases h

/-- Every collected event is the dated event of a definition. -/
theorem collect_mem_events {onError : ErrorPolicy} {year : Int}
    {date : Definition → Except Fault (Option Date)} {defs : List Definition} {es : List Occurrence} {ws : List Skipped}
    (h : collect onError year date defs = .ok (es, ws)) {o : Occurrence} (ho : o ∈ es) :
    ∃ ev ∈ defs, ∃ d, date ev = .ok (some d) ∧ o = ⟨ev, year, d⟩ := by
  induction defs generalizing es ws with
  | nil =>
    cases h
    cases ho
  | cons e rest ih =>
    simp only [collect] at h
    split at h
    · obtain ⟨ev, hev, hd⟩ := ih h ho
      exact ⟨ev, List.mem_cons_of_mem e hev, hd⟩
    · rename_i d hd
      cases hc : collect onError year date rest with
      | error _ => rw [hc] at h; cases h
      | ok r =>
        rw [hc] at h
        simp only [Except.map, Except.ok.injEq, Prod.mk.injEq] at h
        obtain ⟨rfl, rfl⟩ := h
        rcases List.mem_cons.mp ho with rfl | ho'
        · exact ⟨e, List.mem_cons_self, d, hd, rfl⟩
        · obtain ⟨ev, hev, hd'⟩ := ih hc ho'
          exact ⟨ev, List.mem_cons_of_mem e hev, hd'⟩
    · split at h
      · cases h
      · cases hc : collect .skip year date rest with
        | error _ => rw [hc] at h; cases h
        | ok r =>
          rw [hc] at h
          simp only [Except.map, Except.ok.injEq, Prod.mk.injEq] at h
          obtain ⟨rfl, rfl⟩ := h
          obtain ⟨ev, hev, hd'⟩ := ih hc ho
          exact ⟨ev, List.mem_cons_of_mem e hev, hd'⟩
    · cases h

/-- Every collected warning is the problem of a definition, met while expanding it. -/
theorem collect_mem_warnings {onError : ErrorPolicy} {year : Int}
    {date : Definition → Except Fault (Option Date)} {defs : List Definition} {es : List Occurrence} {ws : List Skipped}
    (h : collect onError year date defs = .ok (es, ws)) {w : Skipped} (hw : w ∈ ws) :
    ∃ ev ∈ defs, ∃ p, date ev = .error (.problem p) ∧ w = ⟨ev.id, p.whileExpanding ev.id⟩ := by
  induction defs generalizing es ws with
  | nil =>
    cases h
    cases hw
  | cons e rest ih =>
    simp only [collect] at h
    split at h
    · obtain ⟨ev, hev, hd⟩ := ih h hw
      exact ⟨ev, List.mem_cons_of_mem e hev, hd⟩
    · cases hc : collect onError year date rest with
      | error _ => rw [hc] at h; cases h
      | ok r =>
        rw [hc] at h
        simp only [Except.map, Except.ok.injEq, Prod.mk.injEq] at h
        obtain ⟨rfl, rfl⟩ := h
        obtain ⟨ev, hev, hd'⟩ := ih hc hw
        exact ⟨ev, List.mem_cons_of_mem e hev, hd'⟩
    · rename_i p hp
      split at h
      · cases h
      · cases hc : collect .skip year date rest with
        | error _ => rw [hc] at h; cases h
        | ok r =>
          rw [hc] at h
          simp only [Except.map, Except.ok.injEq, Prod.mk.injEq] at h
          obtain ⟨rfl, rfl⟩ := h
          rcases List.mem_cons.mp hw with rfl | hw'
          · exact ⟨e, List.mem_cons_self, p, hp, rfl⟩
          · obtain ⟨ev, hev, hd'⟩ := ih hc hw'
            exact ⟨ev, List.mem_cons_of_mem e hev, hd'⟩
    · cases h

/-- An expansion that fails, fails on one of its definitions: under `raise` with the problem
met there, raised while expanding it, and otherwise with that definition's fault as it is. -/
theorem collect_mem_error {onError : ErrorPolicy} {year : Int}
    {date : Definition → Except Fault (Option Date)} {defs : List Definition} {f : Fault}
    (h : collect onError year date defs = .error f) :
    ∃ ev ∈ defs, (∃ p, date ev = .error (.problem p) ∧ onError = .raise ∧
        f = .problem (p.raisedWhileExpanding ev.id)) ∨
      (date ev = .error f ∧ ∀ p, f ≠ .problem p) := by
  induction defs with
  | nil => cases h
  | cons e rest ih =>
    simp only [collect] at h
    split at h
    · obtain ⟨ev, hev, hf⟩ := ih h
      exact ⟨ev, List.mem_cons_of_mem e hev, hf⟩
    · cases hc : collect onError year date rest with
      | error _ =>
        rw [hc] at h
        cases h
        obtain ⟨ev, hev, hf⟩ := ih hc
        exact ⟨ev, List.mem_cons_of_mem e hev, hf⟩
      | ok _ => rw [hc] at h; cases h
    · rename_i p hp
      cases onError with
      | raise =>
        cases h
        exact ⟨e, List.mem_cons_self, .inl ⟨p, hp, rfl, rfl⟩⟩
      | skip =>
        cases hc : collect .skip year date rest with
        | error _ =>
          simp only [hc, Except.map] at h
          cases h
          obtain ⟨ev, hev, hf⟩ := ih hc
          exact ⟨ev, List.mem_cons_of_mem e hev, hf⟩
        | ok _ => simp [hc, Except.map] at h
    · rename_i _ hnp hf
      cases h
      exact ⟨e, List.mem_cons_self, .inr ⟨hf, hnp⟩⟩

/-- Among definitions with distinct ids, the events and warnings collected under one id are
what that id's own date leaves. -/
theorem collect_filter {onError : ErrorPolicy} {year : Int}
    {date : Definition → Except Fault (Option Date)} {defs : List Definition} {es : List Occurrence} {ws : List Skipped}
    (hnd : (defs.map (·.id)).Nodup) (h : collect onError year date defs = .ok (es, ws))
    {ev : Definition} (hev : ev ∈ defs) :
    (es.filter (·.definition.id == ev.id), ws.filter (·.eventId == ev.id)) =
      landing year ev (date ev) := by
  induction defs generalizing es ws with
  | nil => cases hev
  | cons e rest ih =>
    obtain ⟨hnotin, hnd'⟩ := List.nodup_cons.mp hnd
    have hnone : ∀ {es' ws'}, collect onError year date rest = .ok (es', ws') →
        es'.filter (·.definition.id == e.id) = [] ∧ ws'.filter (·.eventId == e.id) = [] := by
      intro es' ws' hc
      constructor
      · refine List.filter_eq_nil_iff.mpr fun o ho heq => hnotin ?_
        obtain ⟨k, hk, d, -, rfl⟩ := collect_mem_events hc ho
        exact List.mem_map.mpr ⟨k, hk, by simpa using heq⟩
      · refine List.filter_eq_nil_iff.mpr fun w hw heq => hnotin ?_
        obtain ⟨k, hk, p, -, rfl⟩ := collect_mem_warnings hc hw
        exact List.mem_map.mpr ⟨k, hk, by simpa using heq⟩
    rcases List.mem_cons.mp hev with rfl | hrest
    · simp only [collect] at h
      split at h
      · rename_i hd
        rw [hd]
        simp only [landing]
        exact Prod.ext (hnone h).1 (hnone h).2
      · rename_i d hd
        cases hc : collect onError year date rest with
        | error _ => rw [hc] at h; cases h
        | ok r =>
          rw [hc] at h
          simp only [Except.map, Except.ok.injEq, Prod.mk.injEq] at h
          obtain ⟨rfl, rfl⟩ := h
          rw [hd]
          simp [landing, (hnone hc).1, (hnone hc).2]
      · rename_i p hp
        split at h
        · cases h
        · cases hc : collect .skip year date rest with
          | error _ => rw [hc] at h; cases h
          | ok r =>
            rw [hc] at h
            simp only [Except.map, Except.ok.injEq, Prod.mk.injEq] at h
            obtain ⟨rfl, rfl⟩ := h
            rw [hp]
            simp [landing, (hnone hc).1, (hnone hc).2]
      · cases h
    · have hne : e.id ≠ ev.id := fun heq => hnotin (List.mem_map.mpr ⟨ev, hrest, heq.symm⟩)
      have hne' : (e.id == ev.id) = false := by simpa using hne
      simp only [collect] at h
      split at h
      · exact ih hnd' h hrest
      · cases hc : collect onError year date rest with
        | error _ => rw [hc] at h; cases h
        | ok r =>
          rw [hc] at h
          simp only [Except.map, Except.ok.injEq, Prod.mk.injEq] at h
          obtain ⟨rfl, rfl⟩ := h
          rw [← ih hnd' hc hrest]
          simp [hne']
      · split at h
        · cases h
        · cases hc : collect .skip year date rest with
          | error _ => rw [hc] at h; cases h
          | ok r =>
            rw [hc] at h
            simp only [Except.map, Except.ok.injEq, Prod.mk.injEq] at h
            obtain ⟨rfl, rfl⟩ := h
            rw [← ih hnd' hc hrest]
            simp [hne']
      · cases h

end Expansion

/-- The name of a chain ending at February 29 names no feast. -/
theorem EndsAtLeapDay.notFeast {defs : List Definition} {s : String} (h : EndsAtLeapDay defs s) :
    isFeastName s = false := by
  cases h with
  | base hb => exact hb.notFeast
  | relative hnf _ _ _ _ => exact hnf

/-- Sorting keeps what a filter that keeps at most one element finds. -/
theorem filter_mergeSort_of_length_le_one {α : Type} {l : List α} (le : α → α → Bool)
    (q : α → Bool) (h : (l.filter q).length ≤ 1) : (l.mergeSort le).filter q = l.filter q := by
  have hp : List.Perm ((l.mergeSort le).filter q) (l.filter q) := (List.mergeSort_perm l le).filter q
  cases hl : l.filter q with
  | nil =>
    rw [hl] at hp
    exact List.Perm.eq_nil hp
  | cons a t =>
    rw [hl] at h hp
    cases t with
    | nil => exact List.perm_singleton.mp hp
    | cons b t' => simp at h

/-- How a report reads against the fresh table `t0` of its expansion, whose definitions are the
kept ones. -/
structure ReportReading (t0 : AnchorTable) (onError : ErrorPolicy) (r : Report) : Prop where
  /-- Each kept definition lands in exactly one place, as its fresh date says: its event with
  that date, its warning, or nowhere. -/
  lands : ∀ ev ∈ t0.definitions,
    (r.events.filter (·.definition.id == ev.id), r.warnings.filter (·.eventId == ev.id)) =
      Expansion.landing r.year ev (Expansion.dateOf t0 ev).2
  /-- Every event is of a kept definition. -/
  events_kept : ∀ o ∈ r.events, o.definition ∈ t0.definitions
  /-- Every warning is of a kept definition. -/
  warnings_kept : ∀ w ∈ r.warnings, ∃ ev ∈ t0.definitions, w.eventId = ev.id
  /-- Warnings are left only under `skip`. -/
  raise_clean : onError = .raise → r.warnings = []
  /-- A kept definition is left out silently exactly when its chain of anchors ends at
  February 29 of a common year, under `skip`. -/
  silent : ∀ ev ∈ t0.definitions,
    (r.events.filter (·.definition.id == ev.id) = [] ∧ r.warnings.filter (·.eventId == ev.id) = []) ↔
      EndsAtLeapDay t0.definitions ev.id ∧ t0.leapDay = .skip ∧ leapYearOf t0.year = .ok false
  /-- A kept definition is a warning exactly when its id names a feast or the fresh table meets
  a problem resolving it. -/
  warned : ∀ ev ∈ t0.definitions, r.warnings.filter (·.eventId == ev.id) ≠ [] ↔
    isFeastName ev.id = true ∨ ∃ p, (t0.resolve (.name ev.id) (some ev.id)).2 = .error (.problem p)
  /-- A warning holds the problem met, as met while expanding its id: the cause is kept, and the
  message names the id when another definition is at fault. -/
  tagged : ∀ w ∈ r.warnings, ∃ ev ∈ t0.definitions, w.eventId = ev.id ∧
    ∃ p, (Expansion.dateOf t0 ev).2 = .error (.problem p) ∧ w.problem = p.whileExpanding ev.id ∧
      w.problem.expanding = some ev.id ∧ w.problem.cause = p.cause ∧
      w.problem.message =
        p.cause.message ++ (if p.eventId? = some ev.id then "" else s!" (while expanding '{ev.id}')")

/-- An integer year that passes the check is itself. -/
theorem checkYear_int {y year : Int} (h : checkYear (.int y) = .ok year) : year = y := by
  simp only [checkYear, checkYearInt] at h
  split at h
  · cases h
    rfl
  · cases h

/-- An integer year that passes the check is a supported year. -/
theorem checkYear_int_mem {y year : Int} (h : checkYear (.int y) = .ok year) : 1 ≤ y ∧ y ≤ 9999 := by
  simp only [checkYear, checkYearInt] at h
  split at h
  · rename_i hr
    exact hr
  · cases h

open Expansion in
/-- Every report of a country's events in a year reads against the fresh table of that year:
each kept definition lands in exactly one place, as the date the fresh table gives it alone
says, whatever the order of the definitions and whatever the shared table recorded before. -/
theorem expand_report_reading {c : Catalog} {config : Config} {country : String} {y : Int}
    {notes : List Note} {r : Report} (h : c.expand config (.str country) (.int y) = (notes, .ok r)) :
    ReportReading (AnchorTable.empty (.int y) (c.eventsFor country) config.leapDay)
      config.onError r := by
  have hres := Catalog.expand_result c config (.str country) (.int y)
  rw [h] at hres
  cases hy : checkYear (.int y) with
  | error f =>
    rw [hy] at hres
    cases hres
  | ok year =>
    obtain rfl := checkYear_int hy
    generalize ht0 : AnchorTable.empty (.int year) (c.eventsFor country) config.leapDay = t0
    have hkept : (firstOfEach (c.eventsFor country) []).1 = t0.definitions := by rw [← ht0]; rfl
    have hfresh : t0.fresh = t0 := by rw [← ht0]; rfl
    have hyear : t0.year.equals t0.year = true := by rw [← ht0]; exact Value.equals_int_self year
    have hnd : (t0.definitions.map (·.id)).Nodup := hkept ▸ firstOfEach_nodup _ _
    simp only [hy, Except.mapError, Except.bind, Catalog.eventsOf, ht0, hkept] at hres
    cases hcol : collect config.onError year (fun ev => (dateOf t0 ev).2) t0.definitions with
    | error f =>
      rw [hcol] at hres
      cases hres
    | ok found =>
      obtain ⟨es, ws⟩ := found
      rw [hcol] at hres
      simp only [Except.map, Except.ok.injEq] at hres
      subst hres
      have hlands : ∀ ev ∈ t0.definitions,
          ((es.mergeSort Occurrence.le).filter (·.definition.id == ev.id),
            ws.filter (·.eventId == ev.id)) = landing year ev (dateOf t0 ev).2 := by
        intro ev hev
        have hl := collect_filter hnd hcol hev
        have hlen : (es.filter (·.definition.id == ev.id)).length ≤ 1 := by
          have hfst : es.filter (·.definition.id == ev.id) = (landing year ev (dateOf t0 ev).2).1 :=
            congrArg Prod.fst hl
          rw [hfst]
          exact landing_fst_length year ev _
        rw [filter_mergeSort_of_length_le_one _ _ hlen]
        exact hl
      have hgoes := fun {ev} (hev : ev ∈ t0.definitions) {f} (hf : (dateOf t0 ev).2 = .error f) =>
        collect_goesOn hcol hev hf
      refine ⟨hlands, ?_, ?_, ?_, ?_, ?_, ?_⟩
      · intro o ho
        obtain ⟨ev, hev, d, -, rfl⟩ := collect_mem_events hcol (List.mem_mergeSort.mp ho)
        exact hev
      · intro w hw
        obtain ⟨ev, hev, p, -, rfl⟩ := collect_mem_warnings hcol hw
        exact ⟨ev, hev, rfl⟩
      · intro hraise
        refine List.eq_nil_iff_forall_not_mem.mpr fun w hw => ?_
        obtain ⟨ev, hev, p, hp, -⟩ := collect_mem_warnings hcol hw
        rw [(hgoes hev hp).1] at hraise
        cases hraise
      · intro ev hev
        rw [← Prod.mk.injEq, hlands ev hev, landing_eq_nil_iff]
        constructor
        · rintro (hnone | ⟨f, hf, hnp⟩)
          · cases hfeast : isFeastName ev.id with
            | true =>
              rw [dateOf_of_feast t0 hfeast] at hnone
              cases hnone
            | false =>
              rw [dateOf_of_not_feast t0 hfeast, ← hfresh] at hnone
              exact (AnchorTable.fresh_resolve_eq_none_iff hyear ev.id (some ev.id)).mp hnone
          · obtain ⟨p, rfl⟩ := (hgoes hev hf).2
            exact absurd rfl (hnp p)
        · rintro ⟨hend, hskip, hcommon⟩
          left
          rw [dateOf_of_not_feast t0 hend.notFeast, ← hfresh]
          exact (AnchorTable.fresh_resolve_eq_none_iff hyear ev.id (some ev.id)).mpr
            ⟨hfresh ▸ hend, hskip, hcommon⟩
      · intro ev hev
        have hsnd : ws.filter (·.eventId == ev.id) = (landing year ev (dateOf t0 ev).2).2 :=
          congrArg Prod.snd (hlands ev hev)
        rw [hsnd]
        rw [landing_snd_ne_nil_iff]
        cases hfeast : isFeastName ev.id with
        | true =>
          rw [dateOf_of_feast t0 hfeast]
          simp [reservedFault]
        | false =>
          rw [dateOf_of_not_feast t0 hfeast]
          simp
      · intro w hw
        obtain ⟨ev, hev, p, hp, rfl⟩ := collect_mem_warnings hcol hw
        exact ⟨ev, hev, rfl, p, hp, rfl, Problem.whileExpanding_expanding p ev.id,
          Problem.whileExpanding_cause p ev.id, Problem.message_whileExpanding p ev.id⟩

/-- An event that takes Easter's name as its id, which no definition may. -/
def easterFair : Definition :=
  { id := "easter", country := "TT", category := "cultural"
    fixed := some ⟨4, 1, by decide, by decide⟩ }

/-- The close of a harvest festival that nothing defines. -/
def harvestClose : Definition :=
  { id := "harvest-close", country := "TT", category := "cultural"
    relative := some ⟨.name "harvest", 3⟩ }

/-- The festival definitions, an event named for Easter and one counted from an unknown anchor,
for Trinidad and Tobago. -/
def festivalCatalog : Catalog :=
  Catalog.ofDefinitions (festivalDefinitions ++ [easterFair, harvestClose])
    [⟨"TT", "Trinidad and Tobago"⟩]

/-- The festival catalog expanded for 2025 with both policies `skip`: the events named for
Easter and counted from the unknown harvest are warnings, in order, and the report reads
against the fresh table, so the leap-day chain is left out silently and the carnival chain is
dated. -/
theorem expand_report_reading_festival :
    ∃ notes r, festivalCatalog.expand { leapDay := .skip, onError := .skip } (.str "TT")
        (.int 2025) = (notes, .ok r) ∧
      r.warnings.map (·.eventId) = ["easter", "harvest-close"] ∧
      ReportReading (AnchorTable.empty (.int 2025) (festivalCatalog.eventsFor "TT") .skip) .skip
        r := by
  have hrun : (match (festivalCatalog.expand { leapDay := .skip, onError := .skip } (.str "TT")
      (.int 2025)).2 with
      | .ok r => r.warnings.map (·.eventId) == ["easter", "harvest-close"]
      | .error _ => false) = true := by
    decide +kernel
  cases hx : festivalCatalog.expand { leapDay := .skip, onError := .skip } (.str "TT")
      (.int 2025) with
  | mk notes res =>
    rw [hx] at hrun
    cases res with
    | error f => cases hrun
    | ok r =>
      simp only [beq_iff_eq] at hrun
      exact ⟨notes, r, rfl, hrun, expand_report_reading hx⟩

end Almanac
