import Almanac.Cli.Spec

/-!
# The commands of the almanac

The command line has a top-level command that selects a subcommand, and one specification per
subcommand: `expand` lists a country's events in a year, `ash-wednesday` prints the dates of Ash
Wednesday, `countries` lists the countries, `validate` checks a dataset over a range of years,
and the tools `month`, `ash-table` and `ash-scatter` print a month grid, a table of moveable
feasts and a plot. The tools are named in their messages by the name the program was started
under.
-/

namespace Almanac

namespace Cli

/-- The option naming another dataset file. -/
def datasetOption : Argument :=
  { dest := "dataset", flags := ["--dataset"], help := some "alternative dataset JSON file" }

/-- The leap-day option, with or without its help text. -/
def leapDayOption (help : Option String) : Argument :=
  { dest := "leap_day", flags := ["--leap-day"], choices := some ["clamp", "skip"],
    default := .str "clamp", help }

/-- An option that reads an integer, with its default. -/
def intOption (dest flag : String) (default : Int) (help : Option String) : Argument :=
  { dest, flags := [flag], integer := true, default := .int default, help }

/-- The subcommands and their help texts. -/
def subcommands : List (String × String) := [
  ("expand", "List a country's dated events for one year"),
  ("ash-wednesday", "Print Ash Wednesday (and Easter) dates"),
  ("countries", "List supported countries"),
  ("validate", "Check the dataset over a year range"),
  ("month", "Print a month grid with a country's events"),
  ("ash-table", "Print a table of Easter-dependent dates (diagnostics)"),
  ("ash-scatter", "Plot Ash Wednesday dates (needs the diagnostics extra)")]

/-- The top-level command. -/
def mainSpec : Spec where
  prog := "caribalmanac"
  description := some "Caribbean historical and cultural event almanac."
  arguments := [Argument.helpOption,
    { dest := "verbose", flags := ["-v", "--verbose"], effect := .flag, default := .bool false,
      help := some "debug logging to stderr" },
    { dest := "cmd", effect := .subcommand subcommands }]

/-- The `expand` subcommand. -/
def expandSpec : Spec where
  prog := "caribalmanac expand"
  description := some "List a country's dated events for one year"
  arguments := [Argument.helpOption,
    { dest := "country", help := some "Country code, e.g. BS" },
    { dest := "year", integer := true },
    { dest := "category", flags := ["--category"], choices := some ["all", "historical", "cultural"],
      default := .str "all" },
    { dest := "tag", flags := ["--tag"], effect := .append, default := .list [],
      help := some "tag filter (repeatable, any match)" },
    { dest := "search", flags := ["--search"], default := .str "",
      help := some "case-insensitive text search" },
    leapDayOption (some "Feb 29 policy in common years"),
    { dest := "on_error", flags := ["--on-error"], choices := some ["raise", "skip"],
      default := .str "raise" },
    datasetOption,
    { dest := "json", flags := ["--json"], effect := .flag, default := .bool false,
      help := some "emit JSON instead of a table" }]

/-- The `ash-wednesday` subcommand. -/
def ashWednesdaySpec : Spec where
  prog := "caribalmanac ash-wednesday"
  description := some "Print the date of Ash Wednesday"
  arguments := [Argument.helpOption,
    { dest := "years", effect := .storeMany, integer := true },
    { dest := "easter", flags := ["--easter"], effect := .flag, default := .bool false,
      help := some "also print Easter Sunday" }]

/-- The `countries` subcommand. -/
def countriesSpec : Spec where
  prog := "caribalmanac countries"
  description := some "List supported countries"
  arguments := [Argument.helpOption, datasetOption]

/-- The `validate` subcommand. -/
def validateSpec : Spec where
  prog := "caribalmanac validate"
  description := some "Expand every country over a year range and report data errors"
  arguments := [Argument.helpOption, intOption "from_year" "--from-year" 1900 none,
    intOption "to_year" "--to-year" 2100 none, leapDayOption none, datasetOption]

/-- The month-grid tool, named by the program's name. -/
def monthSpec (tool : String) : Spec where
  prog := tool
  description := some "Print a Gregorian month grid with a country's events marked."
  arguments := [Argument.helpOption,
    { dest := "country", help := some "Country code, e.g. TT" },
    { dest := "year", integer := true },
    { dest := "month", integer := true },
    leapDayOption (some "Feb 29 policy in common years"),
    datasetOption]

/-- The feast-table tool, named by the program's name. -/
def tableSpec (tool : String) : Spec where
  prog := tool
  description := some
    "Print a table of Easter-dependent dates (Carnival, Ash Wednesday, Easter, ...)."
  arguments := [Argument.helpOption, intOption "from_year" "--from-year" 2000 none,
    intOption "to_year" "--to-year" 2030 none,
    { dest := "dates", flags := ["--dates"], choices := some ["mmdd", "iso"],
      default := .str "mmdd", help := some "Display format in table columns (default: mmdd)." },
    intOption "list_month" "--list-month" 3 (some
      "After the table, list the years whose Ash Wednesday falls in this month (default: 3=March).")]

/-- The plotting tool, named by the program's name. -/
def scatterSpec (tool : String) : Spec where
  prog := tool
  description := some "Scatter plot of Ash Wednesday / Easter day-of-year across years."
  arguments := [Argument.helpOption, intOption "start_year" "--start-year" 1900 none,
    intOption "end_year" "--end-year" 2100 none,
    { dest := "series", flags := ["--series"], effect := .append,
      choices := some ["ash-wednesday", "easter-sunday"],
      help := some "Series to plot (repeatable, default: all)." },
    { dest := "show_trend", flags := ["--show-trend"], effect := .flag, default := .bool false },
    intOption "trend_win" "--trend-win" 11 (some "Rolling median window (odd recommended)."),
    { dest := "outbase", flags := ["--outbase"], default := .str "ash_wednesday_scatter",
      help := some "Output base name (writes .png)" }]

end Cli

end Almanac
