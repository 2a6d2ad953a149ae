import Almanac.Proofs.Anchor.LeapDay

/-!
# Anchor tables through any sequence of steps

A caller builds a table for a year and then resolves names, resolves relative events by id and
reads recorded dates, in any order, including steps that fail. What the table records is shared
by every later step, so a stack entry left behind or a date recorded wrongly would change later
answers.

This module shows that nothing of the kind happens, whatever the steps: the table stays
faithful (`runSteps_faithful`), so between two steps the stack is empty and every recorded date
is the one the fresh table gives; a step that fails with anything but a date off the calendar
leaves the table as it was, and a resolving step answers what it answers on the fresh table
(`apply_agrees`). The one condition on the caller is that no relative event is resolved by an
id that names a feast, as the loader and the expansion already refuse such ids.
-/

namespace Almanac

/-- One step of a caller on an anchor table. -/
inductive TableStep where
  /-- Resolves an anchor, on behalf of an event if one is given. -/
  | resolve (ref : AnchorRef) (requestedBy : Option String)
  /-- Resolves the relative event of an id in a year. -/
  | resolveRelative (id : String) (year : Value)
  /-- Reads the date recorded for an anchor. -/
  | get (ref : AnchorRef)

namespace TableStep

/-- The table after a step, and the step's answer. A relative event is the table's definition
of its id; an id without one is a missing key. -/
def apply (t : AnchorTable) : TableStep → AnchorTable × Except Fault (Option Date)
  | resolve ref rb => t.resolve ref rb
  | resolveRelative id year =>
    match t.definitions.find? (·.id == id) with
    | some ev => t.resolveRelative ev year
    | none => (t, .error (.missingKey id))
  | get ref => (t, t.get ref)

/-- Whether a caller may take a step: a relative event is never resolved by an id that names
a feast. -/
def allowed : TableStep → Bool
  | resolveRelative id _ => !isFeastName id
  | _ => true

/-- Whether a step resolves something, rather than reading what is recorded. -/
def resolves : TableStep → Bool
  | get _ => false
  | _ => true

end TableStep

namespace AnchorTable

/-- The table after a sequence of steps. -/
def runSteps (t : AnchorTable) : List TableStep → AnchorTable
  | [] => t
  | s :: rest => (s.apply t).1.runSteps rest

/-- The table built for a year has nothing recorded and nothing entered. -/
@[simp] theorem empty_fresh (year : Value) (defs : List Definition) (policy : LeapPolicy) :
    (empty year defs policy).fresh = empty year defs policy := rfl

/-- The fresh table resolves a feast's name to the feast's date. -/
theorem fresh_resolve_feast (t : AnchorTable) {n : String} {f : Feast}
    (hf : Feast.ofName? n = some f) (rb : Option String) :
    (t.fresh.resolve (.name n) rb).2 = (f.dateOf t.year).map some := by
  have hf' : Feast.ofName? (normalizeName n) = some f := by
    rw [← hf]
    simp only [Feast.ofName?, normalizeName_normalizeName]
  cases hd : f.dateOf t.year with
  | error e =>
    have hl : t.fresh.lookup (.name n) rb = .error e := by
      simp only [lookup, keyOf_name, recorded?_fresh, hf', fresh_year, hd, bind, Except.bind]
    rw [resolve_of_lookup_error hl]
    rfl
  | ok d =>
    have hl : t.fresh.lookup (.name n) rb =
        .ok (.date (some d), t.fresh.put (.name (normalizeName n)) (some d)) := by
      simp only [lookup, keyOf_name, recorded?_fresh, hf', fresh_year, hd, bind, Except.bind,
        pure, Except.pure]
    rw [resolve_of_lookup_date hl]
    rfl

end AnchorTable

/-- An integer year equals itself. -/
theorem Value.equals_int_self (y : Int) : Value.equals (.int y) (.int y) = true := by
  simp [Value.equals, Value.integer?]

namespace TableStep

open AnchorTable

/-- One allowed step of a faithful table agrees with the fresh table: resolving steps give the
fresh answer, and reading gives what is recorded. -/
theorem apply_agrees {t : AnchorTable} (ht : t.Faithful) (hy : t.year.equals t.year = true)
    {s : TableStep} (hs : s.allowed = true) :
    ∃ r0, Agrees t (s.apply t) r0 ∧ (s.resolves = true → r0 = (s.apply t.fresh).2) := by
  cases s with
  | resolve ref rb => exact ⟨_, resolve_agrees ht ref rb, fun _ => rfl⟩
  | get ref => exact ⟨_, Agrees.stay ht _, fun h => nomatch h⟩
  | resolveRelative id year =>
    have hnf : isFeastName id = false := by simpa [allowed] using hs
    cases hev : t.definitions.find? (·.id == id) with
    | none =>
      refine ⟨.error (.missingKey id), ?_, fun _ => ?_⟩
      · simp only [apply, hev]
        exact Agrees.stay ht _
      · simp only [apply, fresh_definitions, hev]
    | some ev =>
      have hid : ev.id = id := by
        have := List.find?_some hev
        simpa using this
      subst hid
      refine ⟨(t.fresh.resolveRelative ev year).2, ?_, fun _ => ?_⟩
      · simp only [apply, hev]
        exact resolveRelative_agrees ht hy hev hnf year
      · simp only [apply, fresh_definitions, hev]

/-- Allowed steps keep a table faithful and its environment as it was. -/
theorem runSteps_faithful {t : AnchorTable} (ht : t.Faithful) (hy : t.year.equals t.year = true)
    {steps : List TableStep} (hs : ∀ s ∈ steps, s.allowed = true) :
    (t.runSteps steps).Faithful ∧ (t.runSteps steps).fresh = t.fresh := by
  induction steps generalizing t with
  | nil => exact ⟨ht, rfl⟩
  | cons s rest ih =>
    obtain ⟨r0, hag, -⟩ := apply_agrees ht hy (hs s List.mem_cons_self)
    have hyear : (s.apply t).1.year = t.year := by
      rw [← fresh_year, hag.env, fresh_year]
    obtain ⟨hf, hfr⟩ := ih hag.faithful (by rw [hyear]; exact hy)
      (fun s' h => hs s' (List.mem_cons_of_mem s h))
    exact ⟨hf, hfr.trans hag.env⟩

end TableStep

/-- What holds of a table `t` that allowed steps have reached from the table `t0` built for a
year, and of the next step `s`. -/
structure StepInvariant (t0 t : AnchorTable) (s : TableStep) : Prop where
  /-- No event is being resolved between two steps. -/
  idle : t.visiting = []
  /-- Every recorded date is the one the built table resolves its name to. -/
  recorded : ∀ e ∈ t.dates, (t0.resolve e.1 none).2 = .ok e.2
  /-- A feast's name is recorded only with the feast's date. -/
  feast : ∀ e ∈ t.dates, ∀ n f, e.1 = .name n → Feast.ofName? n = some f →
    (f.dateOf t0.year).map some = .ok e.2
  /-- No date is recorded only for a name whose chain ends at February 29, in a common year
  under `skip`. -/
  noDate : ∀ e ∈ t.dates, e.2 = none → ∃ n, e.1 = .name n ∧ EndsAtLeapDay t0.definitions n ∧
    t0.leapDay = .skip ∧ leapYearOf t0.year = .ok false
  /-- A step that fails with anything but a date off the calendar leaves the recorded dates as
  they were. -/
  unchanged : ∀ e, (s.apply t).2 = .error e → (∀ f, e ≠ .date f) → (s.apply t).1.dates = t.dates
  /-- A resolving step answers what it answers on the built table. -/
  answer : s.resolves = true → (s.apply t).2 = (s.apply t0).2

/-- From a fresh table whose year equals itself, the invariant holds after any sequence of
allowed steps, for any allowed next step. -/
theorem stepInvariant_of_fresh {t0 : AnchorTable} (hf0 : t0.fresh = t0)
    (hy : t0.year.equals t0.year = true) {steps : List TableStep} {s : TableStep}
    (hallowed : ∀ s' ∈ steps ++ [s], s'.allowed = true) : StepInvariant t0 (t0.runSteps steps) s := by
  have h0 : t0.Faithful := by
    rw [← hf0]
    exact ⟨rfl, fun _ he => nomatch he⟩
  obtain ⟨hfaith, hfresh⟩ := TableStep.runSteps_faithful h0 hy
    (fun s' h => hallowed s' (List.mem_append_left _ h))
  rw [hf0] at hfresh
  obtain ⟨r0, hag, hans⟩ := TableStep.apply_agrees hfaith
    (by rw [← AnchorTable.fresh_year, hfresh]; exact hy) (hallowed s (by simp))
  have hrec : ∀ e ∈ (t0.runSteps steps).dates, (t0.resolve e.1 none).2 = .ok e.2 := by
    intro e he
    have := hfaith.sound e he
    rwa [hfresh] at this
  refine ⟨hfaith.idle, hrec, ?_, ?_, ?_, ?_⟩
  · intro e he n f hn hf
    have h := hrec e he
    rw [hn, ← hf0, AnchorTable.fresh_resolve_feast _ hf] at h
    exact h
  · intro e he hnone
    obtain ⟨n, hn⟩ := hfaith.sound.name he
    have h := hrec e he
    rw [hn, hnone, ← hf0] at h
    obtain ⟨hend, hskip, hyear⟩ := (AnchorTable.fresh_resolve_eq_none_iff hy n none).mp h
    exact ⟨n, hn, hend, hskip, hyear⟩
  · intro e he hne
    rw [hag.unchanged e (hag.answer ▸ he) hne]
  · intro hres
    rw [hag.answer, hans hres, hfresh]

/-- A table built for a year keeps its invariant through any sequence of allowed steps, failing
ones included: after every step the stack is empty, every recorded date is the fresh one, and
the next step, if it fails with anything but a date off the calendar, leaves the recorded dates
as they were and, if it resolves, answers what it answers on the fresh table. -/
theorem anchorTable_steps_faithful (y : Int) (defs : List Definition) (policy : LeapPolicy)
    (steps : List TableStep) (s : TableStep) (hallowed : ∀ s' ∈ steps ++ [s], s'.allowed = true) :
    StepInvariant (AnchorTable.empty (.int y) defs policy)
      ((AnchorTable.empty (.int y) defs policy).runSteps steps) s :=
  stepInvariant_of_fresh (AnchorTable.empty_fresh _ _ _) (Value.equals_int_self y) hallowed

/-- Carnival Monday, the day before carnival Tuesday. -/
def carnivalMonday : Definition :=
  { id := "carnival-monday", country := "TT", category := "cultural"
    relative := some ⟨.name "carnival-tuesday", -1⟩ }

/-- Carnival Tuesday, the day before Ash Wednesday, in its older spelling. -/
def carnivalTuesday : Definition :=
  { id := "carnival-tuesday", country := "TT", category := "cultural"
    relative := some ⟨.name "ash_wednesday", -1⟩ }

/-- A fair held on February 29. -/
def leapDayFair : Definition :=
  { id := "leap-day-fair", country := "TT", category := "cultural"
    fixed := some ⟨2, 29, by decide, by decide⟩ }

/-- The close of the leap-day fair, two days after it. -/
def leapDayFairClose : Definition :=
  { id := "leap-day-fair-close", country := "TT", category := "cultural"
    relative := some ⟨.name "leap-day-fair", 2⟩ }

/-- Two chains of relative events, one to Ash Wednesday and one to February 29, with a later
definition of carnival Monday that the table drops. -/
def festivalDefinitions : List Definition :=
  [carnivalMonday, carnivalTuesday, leapDayFair, leapDayFairClose,
    { carnivalMonday with relative := some ⟨.name "easter", -48⟩ }]

/-- Steps of a caller in 2025: the chain to Ash Wednesday, an anchor that nothing defines, the
chain to February 29, which 2025 lacks, and Easter. -/
def festivalSteps : List TableStep :=
  [.resolveRelative "carnival-monday" (.int 2025), .resolve (.name "harvest") none,
    .resolveRelative "leap-day-fair-close" (.int 2025), .resolve (.name "easter") none]

/-- The invariant on a table built for 2025 under `skip` after the festival steps, at a next
step that fails. The steps record six dates, none for the two events of the leap-day chain, and
the second step fails. -/
theorem anchorTable_steps_faithful_festival :
    (∀ s' ∈ festivalSteps ++ [.resolve (.name "harvest") (some "carnival-monday")],
        s'.allowed = true) ∧
      ((TableStep.resolve (.name "harvest") none).apply
          ((AnchorTable.empty (.int 2025) festivalDefinitions .skip).runSteps
            (festivalSteps.take 1))).2.toBool = false ∧
      ((AnchorTable.empty (.int 2025) festivalDefinitions .skip).runSteps festivalSteps).dates.map
          (·.2.isSome) = [true, true, true, false, false, true] ∧
      StepInvariant (AnchorTable.empty (.int 2025) festivalDefinitions .skip)
        ((AnchorTable.empty (.int 2025) festivalDefinitions .skip).runSteps festivalSteps)
        (.resolve (.name "harvest") (some "carnival-monday")) :=
  ⟨by decide +kernel, by decide +kernel, by decide +kernel,
    anchorTable_steps_faithful 2025 festivalDefinitions .skip festivalSteps
      (.resolve (.name "harvest") (some "carnival-monday")) (by decide +kernel)⟩

end Almanac
