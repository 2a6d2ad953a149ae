import Almanac.Cli.Spec
import Almanac.Text.Numeral
import Almanac.Text.Quoted

/-!
# Parsing command-line words

Words are read against a command's arguments in the following way.

Each word is first classed. A word after a lone `--` is a positional word, and `--` itself is
kept as a marker. A word that does not start with `-`, is empty or is `-` alone is positional. A
word equal to a flag is that option. A word `flag=value` with an exact flag is that option with
a glued value. Otherwise the word may abbreviate flags: a word starting with `--` (up to any `=`)
abbreviates every long flag that starts with it; a word starting with a single `-` stands for
its two-letter flag with the rest glued on, and abbreviates every flag that starts with the
whole word. Several matches are ambiguous; one match is taken. A negative number is
positional, and so is a word with a space; any other word is an unknown option.

Then the words are consumed from left to right. Before each option, the positionals still
waiting take as many of the positional words in front of it as they can, matched as a whole:
each positional takes its words greedily, and the earlier positionals are preferred when not
all of them can be matched. An option takes the next word when it stores one, or its glued
value; a switch with a glued value of letters is a cluster of single-letter switches. Unknown
options and words no positional takes are left over.

When the words are used up, every positional must have taken its words. Parsing stops early
when the help option is met, and with an error for an unreadable integer, a word outside an
argument's choices, an option missing its word, or a glued value that no option takes.
-/

namespace Almanac

namespace Cli

/-- Why parsing stopped before the end. -/
inductive Stop where
  /-- The help option was given. -/
  | help
  /-- The words do not fit the arguments. -/
  | error (message : String)
  deriving Repr

/-- An option found in a word: the argument (none for an unknown option), the flag as written,
how a value is glued on (`=`, directly, or not at all) and the glued value. -/
structure Found where
  /-- The option, if the word names one. -/
  arg : Option Argument
  /-- The flag. -/
  flag : String
  /-- `some "="` for `flag=value`, `some ""` for a value glued directly, `none` otherwise. -/
  sep : Option String
  /-- The glued value. -/
  glued : Option String

namespace Spec

/-- The option with a flag. -/
def optionOf (s : Spec) (flag : String) : Option Argument :=
  s.arguments.find? fun a => a.flags.contains flag

/-- Every flag with its option, in order. -/
def flagList (s : Spec) : List (String × Argument) :=
  s.arguments.flatMap fun a => a.flags.map fun f => (f, a)

/-- The options a word may abbreviate. -/
def abbreviations (s : Spec) (word : String) : List Found :=
  match word.toList with
  | '-' :: '-' :: _ =>
    let (stem, sep, glued) := match word.splitOn "=" with
      | stem :: rest@(_ :: _) => (stem, some "=", some ("=".intercalate rest))
      | _ => (word, none, none)
    s.flagList.filterMap fun (f, a) =>
      if f.startsWith stem then some ⟨some a, f, sep, glued⟩ else none
  | '-' :: c :: rest =>
    let short := String.ofList ['-', c]
    s.flagList.filterMap fun (f, a) =>
      if f == short then some ⟨some a, f, some "", some (String.ofList rest)⟩
      else if f.startsWith word then some ⟨some a, f, none, none⟩
      else none
  | _ => []

end Spec

/-- Whether a word reads as a negative number: `-` and digits, or `-`, digits, a point and
digits, with an optional line break at the end. -/
def isNegativeNumber (word : String) : Bool :=
  let cs := word.toList
  let cs := if cs.getLast? == some '\n' then cs.dropLast else cs
  match cs with
  | '-' :: rest =>
    let (whole, more) := (rest.takeWhile Text.isDigit, rest.dropWhile Text.isDigit)
    match more with
    | [] => !whole.isEmpty
    | '.' :: frac => !frac.isEmpty && frac.all Text.isDigit
    | _ => false
  | _ => false

namespace Spec

/-- The option a word names, if it is an option word. -/
def classify (s : Spec) (word : String) : Except Stop (Option Found) :=
  match word.toList with
  | [] => .ok none
  | c :: _ =>
    if c != '-' then .ok none
    else if let some a := s.optionOf word then .ok (some ⟨some a, word, none, none⟩)
    else if word.length == 1 then .ok none
    else
      let exact := match word.splitOn "=" with
        | stem :: rest@(_ :: _) => (s.optionOf stem).map fun a =>
          (⟨some a, stem, some "=", some ("=".intercalate rest)⟩ : Found)
        | _ => none
      match exact with
      | some f => .ok (some f)
      | none =>
        match s.abbreviations word with
        | [f] => .ok (some f)
        | _ :: _ :: _ =>
          let flags := ", ".intercalate ((s.abbreviations word).map (·.flag))
          .error (.error s!"ambiguous option: {word} could match {flags}")
        | [] =>
          if isNegativeNumber word then .ok none
          else if word.toList.contains ' ' then .ok none
          else .ok (some ⟨none, word, none, none⟩)

end Spec

/-- The class of a word: `A` for a positional word, `O` for an option, `-` for the marker. -/
inductive Mark where
  | arg
  | opt
  | dash
  deriving DecidableEq, Repr

/-- The classes of words and the options found, by position. -/
def classifyAll (s : Spec) : List String → Bool → Nat →
    Except Stop (List Mark × List (Nat × Found))
  | [], _, _ => .ok ([], [])
  | w :: rest, afterDash, i =>
    if afterDash then do
      let (marks, found) ← classifyAll s rest true (i + 1)
      pure (.arg :: marks, found)
    else if w == "--" then do
      let (marks, found) ← classifyAll s rest true (i + 1)
      pure (.dash :: marks, found)
    else do
      let f ← s.classify w
      let (marks, found) ← classifyAll s rest false (i + 1)
      match f with
      | some f => pure (.opt :: marks, (i, f) :: found)
      | none => pure (.arg :: marks, found)

/-- The number of leading marks that satisfy a test. -/
def leading (p : Mark → Bool) (ms : List Mark) : Nat := (ms.takeWhile p).length

/-- The numbers of marks a positional may take at the front of a pattern, most first. -/
def positionalCounts (t : Argument.Takes) (ms : List Mark) : List Nat :=
  let d := leading (· == .dash) ms
  match ms.drop d with
  | .arg :: rest =>
    let r := match t with
      | .none | .one => leading (· == .dash) rest
      | .some => leading (· != .opt) rest
      | .rest => rest.length
    (List.range (r + 1)).reverse.map fun k => d + 1 + k
  | _ => []

/-- The counts of marks taken by positionals matched together at the front of a pattern,
preferring more marks for earlier positionals. -/
def matchAll : List Argument → List Mark → Option (List Nat)
  | [], _ => some []
  | a :: rest, ms =>
    (positionalCounts a.takes ms).findSome? fun k =>
      (matchAll rest (ms.drop k)).map (k :: ·)

/-- The counts of marks taken by the longest run of leading positionals that can be matched. -/
def matchPartial (args : List Argument) (ms : List Mark) : List Nat :=
  ((List.range args.length).reverse.findSome? fun i =>
    matchAll (args.take (i + 1)) ms).getD []

/-- The number of words an option takes from the front of a pattern. -/
def optionCount (a : Argument) (ms : List Mark) : Except Stop Nat :=
  let fault (msg : String) : Except Stop Nat := .error (.error s!"argument {a.name}: {msg}")
  match a.takes with
  | .none => .ok 0
  | .one => if ms.head? == some .arg then .ok 1 else fault "expected one argument"
  | .some =>
    let n := leading (· == .arg) ms
    if n ≥ 1 then .ok n else fault "expected at least one argument"
  | .rest => .ok ms.length

/-- The state of parsing. -/
structure Progress where
  /-- The values read so far. -/
  parsed : Parsed
  /-- The destinations of the arguments met. -/
  seen : List String := []
  /-- The words nothing took. -/
  extras : List String := []
  /-- The words left for a subcommand. -/
  later : List String := []
  /-- The positionals still waiting. -/
  waiting : List Argument

/-- The value of one word for an argument: an integer when the argument reads integers. -/
def readWord (a : Argument) (w : String) : Except Stop Value :=
  if a.integer then
    match Text.readInt? w with
    | some n => .ok (.int n)
    | none => .error (.error (s!"argument {a.name}: invalid int value: " ++ Text.quote w))
  else .ok (.str w)

/-- Checks a value against an argument's choices. -/
def checkChoice (a : Argument) (v : Value) : Except Stop Unit :=
  match a.allowed, v with
  | some cs, .str w =>
    if cs.contains w then .ok ()
    else
      let listed := ", ".intercalate (cs.map Text.quote)
      .error (.error (s!"argument {a.name}: invalid choice: " ++ Text.quote w ++
        s!" (choose from {listed})"))
  | _, _ => .ok ()

/-- Removes the first `--` from the words of a positional. -/
def dropMarker : List String → List String
  | [] => []
  | w :: rest => if w == "--" then rest else w :: dropMarker rest

/-- Applies an argument to the words it took. -/
def apply (p : Progress) (a : Argument) (words : List String) : Except Stop Progress := do
  let p := { p with seen := p.seen ++ [a.dest] }
  let words := if a.isPositional && a.takes != .rest then dropMarker words else words
  match a.effect with
  | .help => throw .help
  | .flag => pure { p with parsed := p.parsed.set a.dest (.bool true) }
  | .subcommand _ =>
    match words with
    | name :: rest =>
      checkChoice a (.str name)
      pure { p with parsed := p.parsed.set a.dest (.str name), later := p.later ++ rest }
    | [] => pure p
  | .storeMany =>
    let vs ← words.mapM (readWord a)
    vs.forM (checkChoice a)
    pure { p with parsed := p.parsed.set a.dest (.list vs) }
  | .store | .append =>
    match words with
    | [w] =>
      let v ← readWord a w
      checkChoice a v
      match a.effect with
      | .append =>
        let old := match p.parsed.get a.dest with
          | .list items => items
          | _ => []
        pure { p with parsed := p.parsed.set a.dest (.list (old ++ [v])) }
      | _ => pure { p with parsed := p.parsed.set a.dest v }
    | _ => pure p

/-- Lets the waiting positionals take words from position `start`; gives the position after
them. -/
def takePositionals (words : List String) (marks : List Mark) (p : Progress) (start : Nat) :
    Except Stop (Progress × Nat) := do
  let counts := matchPartial p.waiting (marks.drop start)
  let rec go : List Argument → List Nat → Progress → Nat → Except Stop (Progress × Nat)
    | a :: args, k :: ks, p, i => do
      let p ← apply p a ((words.drop i).take k)
      go args ks p (i + k)
    | _, _, p, i => pure (p, i)
  let (p, stop) ← go p.waiting counts p start
  pure ({ p with waiting := p.waiting.drop counts.length }, stop)

/-- The option error for a glued value that nothing takes. -/
def ignoredGlue (a : Argument) (glued : String) : Stop :=
  .error (s!"argument {a.name}: ignored explicit argument " ++ Text.quote glued)

/-- Reads the option found at position `i`, with any single-letter switches clustered in it;
gives the options and the words each takes, and the position after them. Unknown options and
unknown letters of a cluster are left over. -/
def readOption (s : Spec) (words : List String) (marks : List Mark) (i : Nat) :
    Nat → Found → List (Argument × List String) → Progress →
    Except Stop (List (Argument × List String) × Nat × Progress)
  | 0, _, acc, p => pure (acc, i + 1, p)
  | _ + 1, ⟨none, _, _, _⟩, acc, p =>
    pure (acc, i + 1, { p with extras := p.extras ++ (words.drop i).take 1 })
  | fuel + 1, ⟨some a, flag, sep, glued⟩, acc, p =>
    match glued with
    | some g => do
      let count ← optionCount a [.arg]
      let second := (flag.toList.drop 1).head?
      if count == 0 && second != some '-' && g != "" then
        if sep == some "=" || g.toList.head? == some '-' then throw (ignoredGlue a g)
        let acc := acc ++ [(a, [])]
        let letter := (g.toList.head?).getD ' '
        let next := String.ofList ['-', letter]
        match s.optionOf next with
        | some b =>
          let rest := String.ofList (g.toList.drop 1)
          let (sep, glued) :=
            if rest.isEmpty then (none, none)
            else if rest.toList.head? == some '=' then (some "=", some (String.ofList (rest.toList.drop 1)))
            else (some "", some rest)
          readOption s words marks i fuel ⟨some b, next, sep, glued⟩ acc p
        | none => pure (acc, i + 1, { p with extras := p.extras ++ ["-" ++ g] })
      else if count == 1 then pure (acc ++ [(a, [g])], i + 1, p)
      else throw (ignoredGlue a g)
    | none => do
      let count ← optionCount a (marks.drop (i + 1))
      pure (acc ++ [(a, (words.drop (i + 1)).take count)], i + 1 + count, p)

/-- Consumes the option at position `i`. -/
def takeOption (s : Spec) (words : List String) (marks : List Mark) (found : List (Nat × Found))
    (p : Progress) (i : Nat) : Except Stop (Progress × Nat) := do
  match (found.find? (·.1 == i)).map (·.2) with
  | none => pure (p, i + 1)
  | some f =>
    let (actions, stop, p) ← readOption s words marks i (words.length + 1) f [] p
    let p ← actions.foldlM (fun p (a, ws) => apply p a ws) p
    pure (p, stop)

/-- Consumes words alternately by positionals and options, from position `start` while options
remain at or after it. -/
def consume (s : Spec) (words : List String) (marks : List Mark) (found : List (Nat × Found)) :
    Nat → Progress → Nat → Except Stop (Progress × Nat)
  | 0, p, start => pure (p, start)
  | fuel + 1, p, start =>
    match ((found.map (·.1)).filter (· ≥ start)).min? with
    | none => pure (p, start)
    | some next =>
      if start != next then
        match takePositionals words marks p start with
        | .error e => .error e
        | .ok (p, stop) =>
          if stop > start then consume s words marks found fuel p stop
          else
            let p := { p with extras := p.extras ++ (words.drop stop).take (next - stop) }
            match takeOption s words marks found p next with
            | .error e => .error e
            | .ok (p, stop) => consume s words marks found fuel p stop
      else
        match takeOption s words marks found p next with
        | .error e => .error e
        | .ok (p, stop) => consume s words marks found fuel p stop

/-- The values of the arguments before any word is read. -/
def defaults (s : Spec) : Parsed :=
  (s.arguments.filter fun a => match a.effect with
    | .help => false
    | _ => true).map fun a => (a.dest, a.default)

/-- Parses words, giving the values and the words left over. -/
def Spec.parseKnown (s : Spec) (words : List String) : Except Stop (Parsed × List String) := do
  let (marks, found) ← classifyAll s words false 0
  let p : Progress := { parsed := defaults s, waiting := s.positionals }
  let (p, start) ← consume s words marks found (words.length + 1) p 0
  let (p, stop) ← takePositionals words marks p start
  let p := { p with extras := p.extras ++ words.drop stop }
  let missing := (s.arguments.filter fun a =>
    a.isPositional && !p.seen.contains a.dest).map Argument.name
  if !missing.isEmpty then
    throw (.error ("the following arguments are required: " ++ ", ".intercalate missing))
  pure (p.parsed, p.extras ++ p.later)

/-- Parses words; a word left over is an error. -/
def Spec.parse (s : Spec) (words : List String) : Except Stop Parsed := do
  let (parsed, extras) ← s.parseKnown words
  if !extras.isEmpty then throw (.error ("unrecognized arguments: " ++ " ".intercalate extras))
  pure parsed

end Cli

end Almanac
