import Almanac.Proofs.Anchor.Confined
import Almanac.Proofs.Expansion.Report

/-!
# Raising against skipping

The error policy decides only what happens at the first problem. Under `skip` the problem is
kept as a warning and the expansion goes on with the same table; under `raise` it ends the
expansion. Since a failed attempt leaves the table as it was, every later definition gets the
same date under both policies, so the two runs agree (`expand_raise_skip`): without warnings
they give the same report, and otherwise the raising run raises the first warning's problem.

That problem is raised as the warning holds it, and, when another definition is at fault, as a
tagged copy raised from the problem as it first came up: untagged, as every problem a table of
an integer year meets is (`dateOf_untagged`).
-/

namespace Almanac

/-- A problem as it first comes up: not yet met while expanding an event, and raised from
nothing. -/
structure Problem.Untagged (p : Problem) : Prop where
  /-- No expansion has seen it yet. -/
  expanding : p.expanding = none
  /-- It is raised from nothing. -/
  raisedFrom : p.raisedFrom = none

/-- A fault that is a problem is one as it first comes up. -/
def Fault.Untagged (f : Fault) : Prop := ∀ p, f = .problem p → p.Untagged

namespace Fault

/-- A problem built from its cause alone is untagged. -/
theorem untagged_problem (c : Cause) : (Fault.problem { cause := c }).Untagged := by
  intro p hp
  cases hp
  exact ⟨rfl, rfl⟩

/-- A date fault is no problem. -/
theorem untagged_date (f : DateFault) : (Fault.date f).Untagged := fun _ h => nomatch h

/-- A year fault is no problem. -/
theorem untagged_year (f : YearFault) : (Fault.year f).Untagged := fun _ h => nomatch h

end Fault

/-- Every fault of a computation is untagged. -/
def Except.Untagged {α : Type} (x : Except Fault α) : Prop := ∀ f, x = .error f → f.Untagged

namespace Except.Untagged

variable {α : Type}

theorem mapError_date (x : Except DateFault α) : Except.Untagged (x.mapError Fault.date) := by
  intro f hf
  cases x with
  | error e =>
    cases hf
    exact Fault.untagged_date e
  | ok a => cases hf

theorem mapError_year (x : Except YearFault α) : Except.Untagged (x.mapError Fault.year) := by
  intro f hf
  cases x with
  | error e =>
    cases hf
    exact Fault.untagged_year e
  | ok a => cases hf

end Except.Untagged

/-! ## Every problem an anchor table meets is untagged -/

/-- A feast's date fails only on its year argument or off the calendar. -/
theorem Feast.dateOf_untagged (f : Feast) (year : Value) :
    Except.Untagged (f.dateOf year) := by
  have hyear : Except.Untagged (feastYear year) := by
    unfold feastYear
    split
    · intro _ h p hp
      cases h
      cases hp
    · exact Except.Untagged.mapError_year _
  cases f with
  | ashWednesday =>
    exact Except.FaultsIn.bind hyear fun y _ => Except.Untagged.mapError_date _
  | easterSunday =>
    exact Except.FaultsIn.bind hyear fun y _ => Except.Untagged.mapError_date _

/-- A rule fails with a problem only when the month has no such day. -/
theorem Rule.resolve_untagged (r : Rule) (year : Value) (eventId : Option String) :
    Except.Untagged (r.resolve year eventId) := by
  refine Except.FaultsIn.bind (Except.Untagged.mapError_year _) fun y _ => ?_
  unfold Rule.resolveIn
  split
  · intro f h
    cases h
    exact Fault.untagged_problem _
  · exact Except.Untagged.mapError_date _

/-- A fixed date fails only on its year argument or off the calendar. -/
theorem resolveFixed_untagged (policy : LeapPolicy) (year : Value) (md : MonthDay) :
    Except.Untagged (resolveFixed policy year md) := by
  have hleap : Except.Untagged (leapYearOf year) := by
    unfold leapYearOf
    split <;> first
      | exact Except.FaultsIn.ok _
      | (intro _ h p hp; cases h; cases hp)
  have hdate := Except.FaultsIn.map (Except.Untagged.mapError_date
    (Date.ofValues? year (.int md.month) (.int md.day))) some
  unfold resolveFixed
  split
  · refine Except.FaultsIn.bind hleap fun b _ => ?_
    split
    · cases policy with
      | skip => exact Except.FaultsIn.ok _
      | clamp =>
        exact Except.FaultsIn.bind (Except.Untagged.mapError_date _) fun _ _ => Except.FaultsIn.ok _
    · exact hdate
  · exact hdate

namespace AnchorTable

theorem keyOf_untagged (ref : AnchorRef) : Except.Untagged (keyOf ref) :=
  keyOf_faultsIn fun _ _ _ _ h => nomatch h

theorem resolveDeclared_untagged (t : AnchorTable) (ev : Definition) (decl : Declaration) :
    Except.Untagged (t.resolveDeclared ev decl) := by
  cases decl with
  | fixed md => exact resolveFixed_untagged _ _ _
  | rule r => exact Except.FaultsIn.map (Rule.resolve_untagged _ _ _) _
  | relative rel =>
    intro f hf p hp
    cases hf
    cases hp

/-- A table whose year equals itself meets only untagged problems. -/
theorem confined_untagged {t : AnchorTable} (hy : t.year.equals t.year = true) :
    t.Confined Fault.Untagged where
  year := hy
  cycle _ := Fault.untagged_problem _
  unknown _ _ := Fault.untagged_problem _
  offCalendar g _ := Fault.untagged_date g
  feast f := Feast.dateOf_untagged f t.year
  declared ev _ decl _ _ := resolveDeclared_untagged t ev decl
  malformed _ _ _ _ := Fault.untagged_problem _
  anchor _ _ rel _ := keyOf_untagged rel.anchor

end AnchorTable

namespace Expansion

/-- Dating a definition in a table whose year equals itself meets only untagged problems. -/
theorem dateOf_untagged (t : AnchorTable) (hy : t.year.equals t.year = true) (ev : Definition) :
    Except.Untagged (dateOf t ev).2 :=
  dateOf_confined (AnchorTable.confined_untagged hy) fun _ => Fault.untagged_problem _

end Expansion

/-! ## The problem that is raised -/

namespace Problem

/-- The raised problem is tagged as the warning is; it is raised from the problem as it came
up exactly when another definition is at fault. -/
theorem raisedWhileExpanding_eq (p : Problem) (id : String) :
    p.raisedWhileExpanding id =
      { p.whileExpanding id with
        raisedFrom := if p.eventId? = some id then p.raisedFrom else some p } := by
  unfold raisedWhileExpanding whileExpanding
  by_cases h : p.eventId? = some id <;> simp [h]

/-- The message of a problem depends on its cause and the event expanded only. -/
theorem message_with_raisedFrom (p : Problem) (q : Option Problem) :
    ({ p with raisedFrom := q } : Problem).message = p.message := rfl

end Problem

namespace Expansion

/-! ## Raising against skipping, for given dates -/

section Policies

variable {year : Int} {date : Definition → Except Fault (Option Date)}

/-- An expansion that skips nothing is the same expansion when it raises. -/
theorem collect_raise_of_skip {defs : List Definition} {es : List Occurrence}
    (h : collect .skip year date defs = .ok (es, [])) : collect .raise year date defs = .ok (es, []) := by
  induction defs generalizing es with
  | nil => exact h
  | cons ev rest ih =>
    simp only [collect] at h ⊢
    split at h
    · exact ih h
    · cases hc : collect .skip year date rest with
      | error _ => rw [hc] at h; cases h
      | ok r =>
        rw [hc] at h
        simp only [Except.map, Except.ok.injEq, Prod.mk.injEq] at h
        obtain ⟨rfl, hr⟩ := h
        obtain ⟨es', ws'⟩ := r
        simp only at hr
        subst hr
        rw [ih hc]
        rfl
    · cases hc : collect .skip year date rest with
      | error _ => simp [hc, Except.map] at h
      | ok r => simp [hc, Except.map] at h
    · cases h

/-- An expansion that skips a definition raises, when it raises, the problem of the first one
it skips. -/
theorem collect_raise_of_skip_cons {defs : List Definition} {es : List Occurrence} {w : Skipped}
    {ws : List Skipped} (h : collect .skip year date defs = .ok (es, w :: ws)) :
    ∃ ev ∈ defs, ∃ p, date ev = .error (.problem p) ∧ w = ⟨ev.id, p.whileExpanding ev.id⟩ ∧
      collect .raise year date defs = .error (.problem (p.raisedWhileExpanding ev.id)) := by
  induction defs generalizing es with
  | nil => cases h
  | cons ev rest ih =>
    simp only [collect] at h ⊢
    split at h
    · rename_i hd
      obtain ⟨e, he, p, hp, hw, hraise⟩ := ih h
      exact ⟨e, List.mem_cons_of_mem ev he, p, hp, hw, hraise⟩
    · cases hc : collect .skip year date rest with
      | error _ => rw [hc] at h; cases h
      | ok r =>
        rw [hc] at h
        simp only [Except.map, Except.ok.injEq, Prod.mk.injEq] at h
        obtain ⟨rfl, hr⟩ := h
        obtain ⟨es', ws'⟩ := r
        simp only at hr
        subst hr
        obtain ⟨e, he, p, hp, hw, hraise⟩ := ih hc
        refine ⟨e, List.mem_cons_of_mem ev he, p, hp, hw, ?_⟩
        rw [hraise]
        rfl
    · rename_i p hp
      cases hc : collect .skip year date rest with
      | error _ => rw [hc] at h; cases h
      | ok r =>
        rw [hc] at h
        simp only [Except.map, Except.ok.injEq, Prod.mk.injEq, List.cons.injEq] at h
        exact ⟨ev, List.mem_cons_self, p, hp, h.2.1.symm, rfl⟩
    · cases h

/-- An expansion that raises nothing skips nothing either. -/
theorem collect_skip_of_raise {defs : List Definition} {es : List Occurrence} {ws : List Skipped}
    (h : collect .raise year date defs = .ok (es, ws)) :
    ws = [] ∧ collect .skip year date defs = .ok (es, []) := by
  induction defs generalizing es ws with
  | nil =>
    cases h
    exact ⟨rfl, rfl⟩
  | cons ev rest ih =>
    simp only [collect] at h ⊢
    split at h
    · exact ih h
    · cases hc : collect .raise year date rest with
      | error _ => rw [hc] at h; cases h
      | ok r =>
        rw [hc] at h
        simp only [Except.map, Except.ok.injEq, Prod.mk.injEq] at h
        obtain ⟨rfl, rfl⟩ := h
        obtain ⟨es', ws'⟩ := r
        obtain ⟨rfl, hs⟩ := ih hc
        refine ⟨rfl, ?_⟩
        rw [hs]
        rfl
    · cases h
    · cases h

end Policies

end Expansion

open Expansion in
/-- Raising against skipping, over the same catalog, leap-day policy, country and year. If the
skipping run gives a report, the raising run gives the same report when it has no warnings, and
otherwise raises the problem of the first warning: the same cause and event expanded, hence the
same message, raised from the problem as it came up, untagged, exactly when another definition
is at fault. If the raising run gives a report, it has no warnings and the skipping run gives
it too. -/
theorem expand_raise_skip (c : Catalog) (leapDay : LeapPolicy) (country yearValue : Value) :
    (∀ R, (c.expand ⟨leapDay, .skip⟩ country yearValue).2 = .ok R →
      (R.warnings = [] → (c.expand ⟨leapDay, .raise⟩ country yearValue).2 = .ok R) ∧
      (∀ w rest, R.warnings = w :: rest → ∃ p, p.Untagged ∧ w.problem = p.whileExpanding w.eventId ∧
        (c.expand ⟨leapDay, .raise⟩ country yearValue).2 = .error (.problem
          { w.problem with raisedFrom := if p.eventId? = some w.eventId then none else some p }))) ∧
    (∀ R, (c.expand ⟨leapDay, .raise⟩ country yearValue).2 = .ok R →
      R.warnings = [] ∧ (c.expand ⟨leapDay, .skip⟩ country yearValue).2 = .ok R) := by
  have hs := Catalog.expand_result c ⟨leapDay, .skip⟩ country yearValue
  have hr := Catalog.expand_result c ⟨leapDay, .raise⟩ country yearValue
  cases hy : checkYear yearValue with
  | error f =>
    simp only [hy, Except.mapError, Except.bind] at hs hr
    refine ⟨fun R h => ?_, fun R h => ?_⟩
    · rw [hs] at h
      cases h
    · rw [hr] at h
      cases h
  | ok year =>
    cases hd : c.eventsOf country with
    | error f =>
      simp only [hy, hd, Except.mapError, Except.bind] at hs hr
      refine ⟨fun R h => ?_, fun R h => ?_⟩
      · rw [hs] at h
        cases h
      · rw [hr] at h
        cases h
    | ok defs =>
      simp only [hy, hd, Except.mapError, Except.bind] at hs hr
      generalize hdate : (fun ev => (dateOf (AnchorTable.empty (.int year) defs leapDay) ev).2) =
        date at hs hr
      refine ⟨fun R h => ?_, fun R h => ?_⟩
      · rw [hs] at h
        cases hc : collect .skip year date (firstOfEach defs []).1 with
        | error f =>
          rw [hc] at h
          cases h
        | ok found =>
          obtain ⟨es, ws⟩ := found
          rw [hc] at h
          simp only [Except.map, Except.ok.injEq] at h
          subst h
          refine ⟨fun hw => ?_, fun w rest hw => ?_⟩
          · simp only at hw
            subst hw
            rw [hr, collect_raise_of_skip hc]
            rfl
          · simp only at hw
            subst hw
            obtain ⟨ev, -, p, hp, rfl, hraise⟩ := collect_raise_of_skip_cons hc
            have hu : p.Untagged := by
              rw [← hdate] at hp
              exact dateOf_untagged _ (Value.equals_int_self year) _ _ hp p rfl
            refine ⟨p, hu, rfl, ?_⟩
            rw [hr, hraise, Problem.raisedWhileExpanding_eq, hu.raisedFrom]
            rfl
      · rw [hr] at h
        cases hc : collect .raise year date (firstOfEach defs []).1 with
        | error f =>
          rw [hc] at h
          cases h
        | ok found =>
          obtain ⟨es, ws⟩ := found
          rw [hc] at h
          simp only [Except.map, Except.ok.injEq] at h
          subst h
          obtain ⟨rfl, hskip⟩ := collect_skip_of_raise hc
          refine ⟨rfl, ?_⟩
          rw [hs, hskip]
          rfl

open Expansion in
/-- The festival catalog in 2025 under `skip` warns first of the event named for Easter, and the
run under `raise` raises that warning's problem. -/
theorem expand_raise_skip_festival :
    ∃ R w rest, (festivalCatalog.expand ⟨.skip, .skip⟩ (.str "TT") (.int 2025)).2 = .ok R ∧
      R.warnings = w :: rest ∧ w.eventId = "easter" ∧
      ∃ p, p.Untagged ∧ w.problem = p.whileExpanding w.eventId ∧
        (festivalCatalog.expand ⟨.skip, .raise⟩ (.str "TT") (.int 2025)).2 = .error (.problem
          { w.problem with raisedFrom := if p.eventId? = some w.eventId then none else some p }) := by
  have hrun : (match (festivalCatalog.expand ⟨.skip, .skip⟩ (.str "TT") (.int 2025)).2 with
      | .ok R => R.warnings.map (·.eventId) == ["easter", "harvest-close"]
      | .error _ => false) = true := by
    decide +kernel
  cases hx : (festivalCatalog.expand ⟨.skip, .skip⟩ (.str "TT") (.int 2025)).2 with
  | error f =>
    rw [hx] at hrun
    cases hrun
  | ok R =>
    rw [hx] at hrun
    dsimp only at hrun
    cases hw : R.warnings with
    | nil =>
      rw [hw] at hrun
      cases hrun
    | cons w rest =>
      rw [hw] at hrun
      simp only [List.map_cons, beq_iff_eq, List.cons.injEq] at hrun
      exact ⟨R, w, rest, rfl, hw, hrun.1,
        ((expand_raise_skip festivalCatalog .skip (.str "TT") (.int 2025)).1 R hx).2 w rest hw⟩

end Almanac
