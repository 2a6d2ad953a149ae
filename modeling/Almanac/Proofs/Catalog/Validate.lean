import Almanac.Proofs.Anchor.Chain
import Almanac.Proofs.Catalog.Load
import Almanac.Cli.Run

/-!
# Validating a catalog

Validation expands every country of a catalog over a list of years with the error policy forced
to `skip`. When no expansion ends with a fault other than a data-integrity problem, the findings
are the warnings of those expansions: country by country in the catalog's order, year by year
in the list's order (`Validation.countries_eq`).

A skipping expansion keeps a warning exactly when the raising one with the same leap-day policy
raises a problem (`Catalog.expand_raise_problem_iff`). The countries of a catalog built from
definitions cover every code that has definitions (`Catalog.mem_countries_of_country`). So the
findings are empty, and the `validate` command ends with code 0 rather than 1, exactly when no
code with definitions raises a problem in any of the years (`validate_findings`).
-/

namespace Almanac

namespace Expansion

/-- Under `skip` a problem never ends the expansion. -/
theorem collect_skip_error (year : Int) (date : Definition → Except Fault (Option Date))
    (defs : List Definition) :
    Except.FaultsIn (fun f => ∀ p, f ≠ .problem p) (collect .skip year date defs) := by
  intro f h
  obtain ⟨_, _, ⟨_, _, hr, _⟩ | ⟨_, hnp⟩⟩ := collect_mem_error h
  · cases hr
  · exact hnp

end Expansion

namespace Catalog

open Expansion

/-- The report of an expansion is of the year asked for. -/
theorem expand_year {c : Catalog} {config : Config} {country : Value} {y : Int} {R : Report}
    (h : (c.expand config country (.int y)).2 = .ok R) : R.year = y := by
  rw [expand_result] at h
  obtain ⟨year, hyear, h⟩ := Except.bind_eq_ok.mp h
  obtain ⟨defs, -, h⟩ := Except.bind_eq_ok.mp h
  obtain ⟨r, -, rfl⟩ := Except.map_eq_ok.mp h
  cases hc : checkYear (.int y) with
  | error f =>
    rw [hc] at hyear
    cases hyear
  | ok y' =>
    rw [hc] at hyear
    cases hyear
    exact checkYear_int hc

/-- A skipping expansion never ends with a problem. -/
theorem expand_skip_error (c : Catalog) (leapDay : LeapPolicy) (country yearValue : Value) :
    Except.FaultsIn (fun f => ∀ p, f ≠ .problem p) (c.expand ⟨leapDay, .skip⟩ country yearValue).2 := by
  rw [expand_result]
  refine Except.FaultsIn.bind ?_ fun year _ => Except.FaultsIn.bind ?_ fun defs _ =>
    Except.FaultsIn.map (collect_skip_error _ _ _) _
  · intro f hf
    cases hy : checkYear yearValue with
    | error g =>
      rw [hy] at hf
      cases hf
      exact fun p hp => nomatch hp
    | ok _ =>
      rw [hy] at hf
      cases hf
  · unfold eventsOf
    split
    · exact Except.FaultsIn.ok _
    · split
      · exact Except.FaultsIn.ok _
      · exact Except.FaultsIn.error fun p hp => nomatch hp

/-- Both error policies run the same `collect` over the same fresh dates: when the skipping
expansion gives a report, its warnings are what that run skips, and the raising expansion is
the run under `raise`. -/
theorem expand_policies {c : Catalog} {leapDay : LeapPolicy} {country yearValue : Value}
    {R : Report} (h : (c.expand ⟨leapDay, .skip⟩ country yearValue).2 = .ok R) :
    ∃ year date defs es, collect .skip year date defs = .ok (es, R.warnings) ∧
      (c.expand ⟨leapDay, .raise⟩ country yearValue).2 =
        (collect .raise year date defs).map fun r =>
          { country, year, events := r.1.mergeSort Occurrence.le, warnings := r.2 } := by
  rw [expand_result] at h
  obtain ⟨year, hy, h⟩ := Except.bind_eq_ok.mp h
  obtain ⟨defs, hd, h⟩ := Except.bind_eq_ok.mp h
  obtain ⟨⟨es, ws⟩, hc, rfl⟩ := Except.map_eq_ok.mp h
  refine ⟨year, _, _, es, hc, ?_⟩
  rw [expand_result, hy, hd]
  rfl

/-- When the skipping expansion gives a report, the raising one raises a problem exactly when
the report has warnings. -/
theorem expand_raise_problem_iff {c : Catalog} {leapDay : LeapPolicy} {country yearValue : Value}
    {R : Report} (h : (c.expand ⟨leapDay, .skip⟩ country yearValue).2 = .ok R) :
    (∃ p, (c.expand ⟨leapDay, .raise⟩ country yearValue).2 = .error (.problem p)) ↔
      R.warnings ≠ [] := by
  obtain ⟨year, date, defs, es, hs, hr⟩ := expand_policies h
  rw [hr]
  cases hw : R.warnings with
  | nil =>
    rw [hw] at hs
    rw [collect_raise_of_skip hs]
    simp [Except.map]
  | cons w ws =>
    rw [hw] at hs
    obtain ⟨ev, -, p, -, -, hraise⟩ := collect_raise_of_skip_cons hs
    rw [hraise]
    simp [Except.map]

/-- A code without definitions never raises a problem. -/
theorem expand_no_events {c : Catalog} {config : Config} {code : String} {yearValue : Value}
    (h : c.eventsFor code = []) (p : Problem) :
    (c.expand config (.str code) yearValue).2 ≠ .error (.problem p) := by
  unfold expand
  split
  · exact fun he => nomatch he
  · simp [eventsOf, h]

/-- The countries of a catalog built from definitions include every code that has
definitions. -/
theorem mem_countries_of_country {defs : List Definition} {listed : List Country} {code : String}
    (h : ∃ ev ∈ defs, ev.country = code) :
    ∃ k ∈ (ofDefinitions defs listed).countries, k.code = code := by
  obtain ⟨extra, hcountries, -, hextra⟩ := ofDefinitions_countries defs listed
  rw [hcountries]
  by_cases hl : code ∈ listed.map (·.code)
  · obtain ⟨k, hk, rfl⟩ := List.mem_map.mp hl
    exact ⟨k, List.mem_append_left _ hk, rfl⟩
  · have hk : code ∈ extra := (hextra code).mpr ⟨h, hl⟩
    exact ⟨⟨code, code⟩, List.mem_append_right _ (List.mem_map.mpr ⟨code, hk, rfl⟩), rfl⟩

end Catalog

namespace Validation

variable {c : Catalog} {config : Config}

/-- The findings of one country over years whose expansions all give reports: the warnings of
the reports, year by year. -/
theorem country_eq {code : String} {years : List Int} {reports : Int → Report}
    (h : ∀ y ∈ years, (c.expand config (.str code) (.int y)).2 = .ok (reports y))
    (notes : List Note) (found : List Finding) :
    (country c config code (years.map .int) notes found).2 =
      .ok (found ++ years.flatMap fun y =>
        (reports y).warnings.map fun w => ⟨code, y, w.problem⟩) := by
  induction years generalizing notes found with
  | nil => simp [country]
  | cons y ys ih =>
    have hy := h y List.mem_cons_self
    have hyear := Catalog.expand_year hy
    simp only [List.map_cons, country]
    rcases hE : c.expand config (.str code) (.int y) with ⟨more, res⟩
    rw [hE] at hy
    dsimp only at hy
    subst hy
    dsimp only
    rw [ih (fun y' hy' => h y' (List.mem_cons_of_mem y hy')), hyear]
    simp

/-- The findings of countries over years whose expansions all give reports: the warnings of the
reports, country by country and year by year. -/
theorem countries_eq {years : List Int} {reports : String → Int → Report} {ks : List Country}
    (h : ∀ k ∈ ks, ∀ y ∈ years, (c.expand config (.str k.code) (.int y)).2 = .ok (reports k.code y))
    (notes : List Note) (found : List Finding) :
    (countries c config (years.map .int) ks notes found).2 =
      .ok (found ++ ks.flatMap fun k => years.flatMap fun y =>
        (reports k.code y).warnings.map fun w => ⟨k.code, y, w.problem⟩) := by
  induction ks generalizing notes found with
  | nil => simp [countries]
  | cons k ks ih =>
    have hk := country_eq (h k List.mem_cons_self) notes found
    simp only [countries]
    rcases hE : country c config k.code (years.map .int) notes found with ⟨notes', res⟩
    rw [hE] at hk
    dsimp only at hk
    subst hk
    dsimp only
    rw [ih (fun k' hk' => h k' (List.mem_cons_of_mem k hk'))]
    simp

end Validation

/-- Validation finds what its run over the countries finds, under the error policy `skip`. -/
theorem Catalog.validate_snd (c : Catalog) (config : Config) (years : List Value) :
    (c.validate config years).2 =
      (Validation.countries c { config with onError := .skip } years c.countries [] []).2 := by
  unfold validate
  dsimp only
  cases Validation.countries c { config with onError := .skip } years c.countries [] [] with
  | mk notes res => cases res <;> rfl

/-- Validation depends on the options only through the leap-day policy. -/
theorem Catalog.validate_congr (c : Catalog) {config config' : Config}
    (h : config.leapDay = config'.leapDay) (years : List Value) :
    c.validate config years = c.validate config' years := by
  simp only [Catalog.validate, h]

/-- No code that has definitions raises a problem in any of the years, under the error policy
`raise` and the leap-day policy of `config`. -/
def Catalog.RaisesNone (c : Catalog) (config : Config) (years : List Int) : Prop :=
  ∀ code, c.eventsFor code ≠ [] → ∀ y ∈ years, ∀ p,
    (c.expand { config with onError := .raise } (.str code) (.int y)).2 ≠ .error (.problem p)

/-- The reports that skip have no warnings in any country and year exactly when no code with
definitions raises a problem: a code without definitions has no events, and raises nothing. -/
theorem Catalog.raisesNone_iff {c : Catalog} {defs : List Definition} {listed : List Country}
    (hc : c = Catalog.ofDefinitions defs listed) {config : Config} {years : List Int}
    {reports : String → Int → Report}
    (hrep : ∀ k ∈ c.countries, ∀ y ∈ years,
      (c.expand { config with onError := .skip } (.str k.code) (.int y)).2 =
        .ok (reports k.code y)) :
    (∀ k ∈ c.countries, ∀ y ∈ years, (reports k.code y).warnings = []) ↔
      c.RaisesNone config years := by
  constructor
  · intro hnil code hcode y hy p hp
    have hdefs : ∃ ev ∈ defs, ev.country = code := by
      subst hc
      rw [ofDefinitions_eventsFor] at hcode
      obtain ⟨ev, hev, he⟩ := List.exists_mem_of_ne_nil _ hcode |>.imp fun ev h =>
        List.mem_filter.mp h
      exact ⟨ev, hev, by simpa using he⟩
    obtain ⟨k, hk, rfl⟩ : ∃ k ∈ c.countries, k.code = code := by
      subst hc
      exact mem_countries_of_country hdefs
    exact (expand_raise_problem_iff (hrep k hk y hy)).mp ⟨p, hp⟩ (hnil k hk y hy)
  · intro hclean k hk y hy
    by_contra hw
    obtain ⟨p, hp⟩ := (expand_raise_problem_iff (hrep k hk y hy)).mpr hw
    by_cases he : c.eventsFor k.code = []
    · exact expand_no_events he p hp
    · exact hclean k.code he y hy p hp

namespace Cli

/-- The catalog a run reads: the packaged one when no file is named, else the named file's. -/
def catalogOf (read : String → Except Fault Value) (path : String) : Except Fault Catalog :=
  if path.isEmpty then Catalog.packaged else (read path).bind Catalog.load

/-- A run that goes on with a catalog ends as its continuation does with the catalog it reads,
whatever it wrote before. -/
theorem withCatalog_ending {read : String → Except Fault Value} {c : Console} {verbose : Bool}
    {path : String} {k : Console → Catalog → Outcome} {catalog : Catalog}
    (h : catalogOf read path = .ok catalog) (e : Ending) (hk : ∀ c', (k c' catalog).ending = e) :
    ((withCatalog c verbose path k).finish read).ending = e := by
  unfold withCatalog
  unfold catalogOf at h
  split
  · rename_i hp
    rw [if_pos hp] at h
    rw [h]
    exact hk c
  · rename_i hp
    rw [if_neg hp] at h
    obtain ⟨raw, hraw, hload⟩ := Except.bind_eq_ok.mp h
    simp only [Run.finish, hraw, hload]
    exact hk _

/-- How a run that met a fault ends does not depend on what it wrote. -/
theorem failed_ending (c c' : Console) (f : Fault) : (failed c f).ending = (failed c' f).ending := by
  cases f <;> rfl

/-- The `validate` command over a range of years ends with code 0 when validation finds nothing,
with code 1 when it finds problems, and as a failure when validation fails. -/
theorem validateCommand_ending {verbose : Bool} {words : List String} {args : Parsed}
    {read : String → Except Fault Value} {catalog : Catalog}
    (hparse : validateSpec.parse words = .ok args)
    (hrange : args.int "from_year" ≤ args.int "to_year")
    (hcat : catalogOf read (args.text "dataset") = .ok catalog) :
    ((validateCommand verbose words).finish read).ending =
      match (catalog.validate { leapDay := (configOf args).leapDay }
          ((List.range (args.int "to_year" - args.int "from_year" + 1).toNat).map
            fun (i : Nat) => Value.int (args.int "from_year" + Int.ofNat i))).2 with
      | .ok [] => .exit 0
      | .ok _ => .exit 1
      | .error f => (failed {} f).ending := by
  unfold validateCommand withArgs
  rw [hparse]
  dsimp only
  rw [if_neg (not_lt.mpr hrange)]
  refine withCatalog_ending hcat _ fun c' => ?_
  cases catalog.validate { leapDay := (configOf args).leapDay }
      ((List.range (args.int "to_year" - args.int "from_year" + 1).toNat).map
        fun (i : Nat) => Value.int (args.int "from_year" + Int.ofNat i)) with
  | mk notes result =>
    cases result with
    | error f => exact failed_ending _ _ f
    | ok found =>
      cases found with
      | nil => rfl
      | cons x xs => rfl

end Cli

open Catalog in
/-- Validation of a catalog built from definitions. Suppose no skipping expansion of its
countries over the years ends with a fault other than a data-integrity problem. Then validation
finds the warnings of those expansions, country by country in the catalog's order and year by
year in the list's order. It finds nothing exactly when no code that has definitions raises a
problem in any of the years, under the error policy `raise` and the same leap-day policy. The
`validate` command over a range of years then ends with code 0 in that case and with code 1
otherwise. -/
theorem validate_findings {c : Catalog} {defs : List Definition} {listed : List Country}
    (hc : c = ofDefinitions defs listed) (config : Config) (years : List Int)
    (hgoes : ∀ k ∈ c.countries, ∀ y ∈ years, ∀ f,
      (c.expand { config with onError := .skip } (.str k.code) (.int y)).2 = .error f →
        ∃ p, f = .problem p) :
    (∃ reports : String → Int → Report,
      (∀ k ∈ c.countries, ∀ y ∈ years,
        (c.expand { config with onError := .skip } (.str k.code) (.int y)).2 =
          .ok (reports k.code y)) ∧
      (c.validate config (years.map .int)).2 = .ok (c.countries.flatMap fun k =>
        years.flatMap fun y => (reports k.code y).warnings.map fun w => ⟨k.code, y, w.problem⟩)) ∧
    ((c.validate config (years.map .int)).2 = .ok [] ↔ c.RaisesNone config years) ∧
    ∀ (verbose : Bool) (words : List String) (args : Cli.Parsed)
      (read : String → Except Fault Value),
      Cli.validateSpec.parse words = .ok args → Cli.catalogOf read (args.text "dataset") = .ok c →
      (Cli.configOf args).leapDay = config.leapDay →
      args.int "from_year" ≤ args.int "to_year" →
      years = (List.range (args.int "to_year" - args.int "from_year" + 1).toNat).map
        (fun (i : Nat) => args.int "from_year" + Int.ofNat i) →
      (((Cli.validateCommand verbose words).finish read).ending = .exit 0 ↔
          c.RaisesNone config years) ∧
        (((Cli.validateCommand verbose words).finish read).ending = .exit 0 ∨
          ((Cli.validateCommand verbose words).finish read).ending = .exit 1) := by
  have hok : ∀ k ∈ c.countries, ∀ y ∈ years,
      ∃ R, (c.expand { config with onError := .skip } (.str k.code) (.int y)).2 = .ok R := by
    intro k hk y hy
    cases hE : (c.expand { config with onError := .skip } (.str k.code) (.int y)).2 with
    | ok R => exact ⟨R, rfl⟩
    | error f =>
      obtain ⟨p, rfl⟩ := hgoes k hk y hy f hE
      exact absurd rfl (expand_skip_error c config.leapDay _ _ _ hE p)
  let reports : String → Int → Report := fun code y =>
    match (c.expand { config with onError := .skip } (.str code) (.int y)).2 with
    | .ok R => R
    | .error _ => { country := .str code, year := y }
  have hrep : ∀ k ∈ c.countries, ∀ y ∈ years,
      (c.expand { config with onError := .skip } (.str k.code) (.int y)).2 =
        .ok (reports k.code y) := by
    intro k hk y hy
    obtain ⟨R, hR⟩ := hok k hk y hy
    simp only [reports, hR]
  have hval : (c.validate config (years.map .int)).2 = .ok (c.countries.flatMap fun k =>
      years.flatMap fun y => (reports k.code y).warnings.map fun w => ⟨k.code, y, w.problem⟩) := by
    rw [validate_snd, Validation.countries_eq hrep]
    simp
  have hiff : (c.validate config (years.map .int)).2 = .ok [] ↔ c.RaisesNone config years := by
    rw [hval]
    simp only [Except.ok.injEq, List.flatMap_eq_nil_iff, List.map_eq_nil_iff]
    exact Catalog.raisesNone_iff hc hrep
  refine ⟨⟨reports, hrep, hval⟩, hiff, ?_⟩
  intro verbose words args read hparse hcat hleap hrange hyears
  have hyears' : (List.range (args.int "to_year" - args.int "from_year" + 1).toNat).map
      (fun (i : Nat) => Value.int (args.int "from_year" + Int.ofNat i)) = years.map .int := by
    rw [hyears, List.map_map]
    rfl
  rw [Cli.validateCommand_ending hparse hrange hcat, hyears',
    @validate_congr c { leapDay := (Cli.configOf args).leapDay } config hleap]
  rw [← hiff]
  cases hv : (c.validate config (years.map .int)).2 with
  | error f =>
    rw [hval] at hv
    cases hv
  | ok found =>
    cases found with
    | nil => simp
    | cons x xs => simp

/-- The festival catalog validated for 2025: its skipping expansion ends with a report, and
validation finds its warnings, so the catalog raises a problem in 2025. -/
theorem validate_findings_festival :
    (∀ k ∈ festivalCatalog.countries, ∀ y ∈ [(2025 : Int)], ∀ f,
        (festivalCatalog.expand { ({} : Config) with onError := .skip } (.str k.code)
          (.int y)).2 = .error f → ∃ p, f = .problem p) ∧
      (festivalCatalog.validate {} ([(2025 : Int)].map .int)).2 ≠ .ok [] ∧
      ¬festivalCatalog.RaisesNone {} [2025] := by
  have hcountries : festivalCatalog.countries = [⟨"TT", "Trinidad and Tobago"⟩] := by
    decide +kernel
  have hexpand : (festivalCatalog.expand { ({} : Config) with onError := .skip } (.str "TT")
      (.int 2025)).2.toBool = true := by
    decide +kernel
  have hfound : (match (festivalCatalog.validate {} ([(2025 : Int)].map .int)).2 with
      | .ok findings => findings.isEmpty
      | .error _ => true) = false := by
    decide +kernel
  have hgoes : ∀ k ∈ festivalCatalog.countries, ∀ y ∈ [(2025 : Int)], ∀ f,
      (festivalCatalog.expand { ({} : Config) with onError := .skip } (.str k.code)
        (.int y)).2 = .error f → ∃ p, f = .problem p := by
    intro k hk y hy f hf
    rw [hcountries, List.mem_singleton] at hk
    rw [List.mem_singleton] at hy
    subst hk hy
    rw [hf] at hexpand
    cases hexpand
  have hne : (festivalCatalog.validate {} ([(2025 : Int)].map .int)).2 ≠ .ok [] := by
    intro h
    rw [h] at hfound
    cases hfound
  exact ⟨hgoes, hne, fun hnone => hne ((validate_findings rfl {} [2025] hgoes).2.1.mpr hnone)⟩

end Almanac
