import Almanac.Proofs.Anchor.Steps

/-!
# The expansion as a function of fresh dates

An expansion dates its definitions one after the other in one shared anchor table. Since the
table stays faithful (`dateOf_agrees`), each definition gets the date the fresh table gives it,
whatever was expanded before: the expansion is the fold `collect` of those fresh dates, which
keeps the dated events and the skipped ids in order, stops at the first problem under `raise`
and at the first other fault under either policy (`run_collect`, `expand_result`).
-/

namespace Almanac

namespace Expansion

/-- The dated events and the skipped ids of an expansion in which each definition is dated by
`date`, or the fault that ends it. -/
def collect (onError : ErrorPolicy) (year : Int) (date : Definition → Except Fault (Option Date)) :
    List Definition → Except Fault (List Occurrence × List Skipped)
  | [] => .ok ([], [])
  | ev :: rest =>
    match date ev with
    | .ok none => collect onError year date rest
    | .ok (some d) => (collect onError year date rest).map fun r => (⟨ev, year, d⟩ :: r.1, r.2)
    | .error (.problem p) =>
      match onError with
      | .raise => .error (.problem (p.raisedWhileExpanding ev.id))
      | .skip =>
        (collect onError year date rest).map fun r => (r.1, ⟨ev.id, p.whileExpanding ev.id⟩ :: r.2)
    | .error f => .error f

open AnchorTable

/-- Dating one definition in a faithful table agrees with the fresh table. -/
theorem dateOf_agrees {t : AnchorTable} (ht : t.Faithful) (ev : Definition) :
    Agrees t (dateOf t ev) (dateOf t.fresh ev).2 := by
  unfold dateOf
  cases hf : isFeastName ev.id with
  | true => exact Agrees.stay ht _
  | false => exact resolve_agrees ht _ _

/-- The events and warnings of a progress. -/
def Progress.found (p : Progress) : List Occurrence × List Skipped := (p.events, p.warnings)

/-- An expansion from a faithful table adds to what it has found what `collect` finds with the
fresh dates, and fails as `collect` does. -/
theorem run_collect (config : Config) (country : String) (year : Int) {t : AnchorTable}
    (defs : List Definition) (p : Progress) (hp : p.table.Faithful) (hp0 : p.table.fresh = t) :
    (run config country year p defs).2.map Progress.found =
      (collect config.onError year (fun ev => (dateOf t ev).2) defs).map
        fun r => (p.events ++ r.1, p.warnings ++ r.2) := by
  induction defs generalizing p with
  | nil => simp [run, collect, Progress.found, Except.map]
  | cons ev rest ih =>
    have hag := dateOf_agrees hp ev
    rw [hp0] at hag
    rcases hexp : dateOf p.table ev with ⟨u, r⟩
    rw [hexp] at hag
    have hans : r = (dateOf t ev).2 := hag.answer
    have hu : u.Faithful := hag.faithful
    have hu0 : u.fresh = t := by rw [← hp0]; exact hag.env
    rw [run, hexp, collect, ← hans]
    cases r with
    | ok d =>
      cases d with
      | none => exact ih _ hu hu0
      | some d =>
        simp only
        rw [ih _ hu hu0]
        cases collect config.onError year (fun ev => (dateOf t ev).2) rest <;>
          simp [Except.map]
    | error f =>
      cases f
      case problem q =>
        cases hpol : config.onError with
        | raise => rfl
        | skip =>
          simp only
          rw [ih _ hu hu0, hpol]
          cases collect .skip year (fun ev => (dateOf t ev).2) rest <;> simp [Except.map]
      all_goals rfl

end Expansion

namespace Catalog

open Expansion

/-- The result of an expansion: the year is checked, the country's definitions are looked up,
and the report holds what `collect` finds with the fresh dates of the kept definitions, its
events sorted. -/
theorem expand_result (c : Catalog) (config : Config) (country yearValue : Value) :
    (c.expand config country yearValue).2 =
      ((checkYear yearValue).mapError Fault.year).bind fun year =>
        (c.eventsOf country).bind fun defs =>
          (collect config.onError year
              (fun ev => (dateOf (AnchorTable.empty (.int year) defs config.leapDay) ev).2)
              (firstOfEach defs []).1).map fun r =>
            { country, year, events := r.1.mergeSort Occurrence.le, warnings := r.2 } := by
  unfold expand
  cases checkYear yearValue with
  | error f => rfl
  | ok year =>
    cases c.eventsOf country with
    | error f => rfl
    | ok defs =>
      cases defs with
      | nil => simp [firstOfEach, collect, Except.map, Except.mapError, Except.bind]
      | cons ev rest =>
        simp only [Except.mapError, Except.bind]
        have hrun := run_collect config country.text year
          (t := AnchorTable.empty (.int year) (ev :: rest) config.leapDay)
          (firstOfEach (ev :: rest) []).1
          ⟨AnchorTable.empty (.int year) (ev :: rest) config.leapDay,
            (firstOfEach (ev :: rest) []).2.map fun id =>
              Note.debug .expansion s!"duplicate event id {id} ignored", [], []⟩
          ⟨rfl, fun _ he => nomatch he⟩ rfl
        revert hrun
        cases run config country.text year _ _ with
        | mk notes res =>
          cases collect config.onError year
              (fun ev' => (dateOf (AnchorTable.empty (.int year) (ev :: rest) config.leapDay) ev').2)
              (firstOfEach (ev :: rest) []).1 with
          | error f =>
            cases res with
            | error f' =>
              intro hrun
              cases hrun
              rfl
            | ok q =>
              intro hrun
              cases hrun
          | ok found =>
            cases res with
            | error f' =>
              intro hrun
              cases hrun
            | ok q =>
              intro hrun
              simp only [Except.map, Progress.found, List.nil_append, Except.ok.injEq,
                Prod.mk.injEq] at hrun
              simp only [Except.map, hrun.1, hrun.2]

end Catalog

end Almanac
