import Almanac.Report

/-!
# Validating a catalog

Validation expands every listed country over a list of years, with the error policy forced to
`skip`, and collects every data-integrity problem the expansions meet: country by country in the
catalog's order, year by year in the given order, and the problems of one expansion in its
order. No problem means the catalog is clean for those years. A fault that is no
data-integrity problem ends the validation.
-/

namespace Almanac

/-- A data-integrity problem met while expanding a country in a year. -/
structure Finding where
  /-- The country code. -/
  country : String
  /-- The year. -/
  year : Int
  /-- The problem, tagged with the event being expanded. -/
  problem : Problem

namespace Validation

/-- The findings of one country over the years, after those found so far. -/
def country (c : Catalog) (config : Config) (code : String) :
    List Value → List Note → List Finding → Noted (List Finding)
  | [], notes, found => (notes, .ok found)
  | y :: ys, notes, found =>
    match c.expand config (.str code) y with
    | (more, .error f) => (notes ++ more, .error f)
    | (more, .ok r) =>
      country c config code ys (notes ++ more)
        (found ++ r.warnings.map fun w => ⟨code, r.year, w.problem⟩)

/-- The findings of the countries over the years, after those found so far. -/
def countries (c : Catalog) (config : Config) (years : List Value) :
    List Country → List Note → List Finding → Noted (List Finding)
  | [], notes, found => (notes, .ok found)
  | k :: ks, notes, found =>
    match country c config k.code years notes found with
    | (notes, .error f) => (notes, .error f)
    | (notes, .ok found) => countries c config years ks notes found

end Validation

/-- The data-integrity problems of a catalog over a list of years. -/
def Catalog.validate (c : Catalog) (config : Config) (years : List Value) :
    Noted (List Finding) :=
  let config := { config with onError := .skip }
  match Validation.countries c config years c.countries [] [] with
  | (notes, .error f) => (notes, .error f)
  | (notes, .ok found) =>
    let note := Note.debug .api
      s!"validated {c.countries.length} countries over {years.length} years: {found.length} problems"
    (notes ++ [note], .ok found)

end Almanac
