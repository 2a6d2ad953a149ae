import Almanac.Config
import Almanac.Calendar.Lookup
import Almanac.Rule.Resolve
import Almanac.Value.Equality
import Almanac.Calendar.Arguments

/-!
# Anchor tables

An anchor table holds the dates of anchors for one year of one country: the feasts, and the
events of the country's definitions, by id. It starts empty and records each date the first
time it is asked for, so later references reuse it; an event that does not occur that year is
recorded as `none`. Names are kept with older spellings of feast names replaced.

Looking an anchor up goes as follows: a recorded date is returned as it is; a feast is dated by
its computus; an id is dated by its definition, which must declare exactly one kind. A fixed
month and day falls on that day of the year, except that February 29 of a common year moves to
February 28 or does not occur, as the leap-day policy says; a rule falls on its occurrence. An
id that no definition has is an unknown anchor.

A relative event is resolved by following its anchors down to the first one that is not a
relative event still to resolve. That one is looked up; then, back up the chain, each event's
offset is added to the date below it and recorded. While the chain is followed the ids entered
are kept on a stack, and entering an id that is already on it is a cycle, reported with the
ids from its first entry on and the id repeated at the end. However the walk ends, the events
it entered are left again, the last entered first, and each must be the last one on the stack
when it is left. The walk needs no bound: every event it goes on to is a definition that is not
on the stack yet.
-/

namespace Almanac

/-- Whether two references, spellings replaced, name the same anchor. -/
def AnchorRef.sameAs : AnchorRef → AnchorRef → Bool
  | .name a, .name b => a == b
  | .other a, .other b => a.equals b
  | _, _ => false

/-- The date of a fixed month and day in a year given as a value, with the leap-day policy for
February 29 of a common year. -/
def resolveFixed (policy : LeapPolicy) (year : Value) (md : MonthDay) :
    Except Fault (Option Date) := do
  if md.isLeapDay then
    if !(← leapYearOf year) then
      match policy with
      | .skip => return none
      | .clamp => return some (← (Date.ofValues? year (.int 2) (.int 28)).mapError .date)
  some <$> (Date.ofValues? year (.int md.month) (.int md.day)).mapError .date

/-- The distance a relative definition declares. A definition that declares none is refused
with its kind, and one that does not declare exactly one kind is malformed. -/
def Definition.anchorOf (ev : Definition) : Except Fault Relative :=
  match ev.relative with
  | some rel => .ok rel
  | none =>
    match ev.kind? with
    | .ok k => .error (.notRelative ev.id k)
    | .error ks => .error (.problem { cause := .malformed (.declarations ev.id ks) })

/-- What looking an anchor up finds: a date (`none` when the anchor does not occur), or a
relative event still to resolve. -/
inductive Found where
  /-- The anchor's date. -/
  | date (d : Option Date)
  /-- A relative event. -/
  | relative (ev : Definition)

/-- The dates of anchors in one year, recorded as they are resolved. -/
structure AnchorTable where
  /-- The year, as it was given. -/
  year : Value
  /-- The definitions, at most one for each id. -/
  definitions : List Definition
  /-- What February 29 of a common year becomes. -/
  leapDay : LeapPolicy
  /-- The recorded dates, by name, in the order of first recording. -/
  dates : List (AnchorRef × Option Date) := []
  /-- The ids of the relative events entered and not yet left, oldest first. -/
  visiting : List String := []

/-- The definitions without those whose id an earlier one already has, and the ids of the
ones left out, in order. -/
def firstOfEach : List Definition → List String → List Definition × List String
  | [], _ => ([], [])
  | ev :: rest, seen =>
    if seen.contains ev.id then
      let (kept, dropped) := firstOfEach rest seen
      (kept, ev.id :: dropped)
    else
      let (kept, dropped) := firstOfEach rest (ev.id :: seen)
      (ev :: kept, dropped)

namespace AnchorTable

/-- The empty table for a year, keeping the first definition of each id. -/
def empty (year : Value) (defs : List Definition) (policy : LeapPolicy) : AnchorTable :=
  { year, definitions := (firstOfEach defs []).1, leapDay := policy }

/-- The name under which a reference is recorded: older spellings replaced; a value that
cannot be a key is refused. -/
def keyOf : AnchorRef → Except Fault AnchorRef
  | .name s => .ok (.name (normalizeName s))
  | .other v => if v.isHashable then .ok (.other v) else .error (.unhashable v.typeName)

/-- The date recorded under a name, if one is. -/
def recorded? (t : AnchorTable) (key : AnchorRef) : Option (Option Date) :=
  (t.dates.find? fun e => e.1.sameAs key).map (·.2)

/-- Records a date under a name: a name already recorded keeps its place. -/
def put (t : AnchorTable) (key : AnchorRef) (d : Option Date) : AnchorTable :=
  if t.dates.any (·.1.sameAs key) then
    { t with dates := t.dates.map fun e => if e.1.sameAs key then (e.1, d) else e }
  else { t with dates := t.dates ++ [(key, d)] }

/-- Whether a date is recorded for an anchor. -/
def contains (t : AnchorTable) (ref : AnchorRef) : Except Fault Bool := do
  let key ← keyOf ref
  pure (t.recorded? key).isSome

/-- The date recorded for an anchor; `none` when none is, or when it does not occur. -/
def get (t : AnchorTable) (ref : AnchorRef) : Except Fault (Option Date) := do
  let key ← keyOf ref
  pure ((t.recorded? key).getD none)

/-- Records a date for an anchor. -/
def record (t : AnchorTable) (ref : AnchorRef) (d : Option Date) : Except Fault AnchorTable := do
  let key ← keyOf ref
  pure (t.put key d)

/-- The number of recorded names. -/
def size (t : AnchorTable) : Nat := t.dates.length

/-- The definition of an id. -/
def definition? (t : AnchorTable) : AnchorRef → Option Definition
  | .name s => t.definitions.find? (·.id == s)
  | .other _ => none

/-- The date a fixed or rule definition gives in the table's year. -/
def resolveDeclared (t : AnchorTable) (ev : Definition) :
    Declaration → Except Fault (Option Date)
  | .fixed md => resolveFixed t.leapDay t.year md
  | .rule r => some <$> r.resolve t.year (some ev.id)
  | .relative _ => throw (.declaredRelative ev.id)

/-- Looks an anchor up, on behalf of the event `requestedBy` if given: a recorded date, or the
date of a feast or of a fixed or rule definition, which is then recorded; a relative event is
found unresolved. -/
def lookup (t : AnchorTable) (ref : AnchorRef) (requestedBy : Option String) :
    Except Fault (Found × AnchorTable) := do
  let key ← keyOf ref
  if let some d := t.recorded? key then return (.date d, t)
  let feast := match key with
    | .name s => Feast.ofName? s
    | .other _ => none
  if let some f := feast then
    let d ← f.dateOf t.year
    return (.date (some d), t.put key (some d))
  let some ev := t.definition? key
    | throw (.problem { cause := .unknownAnchor requestedBy ref })
  match ev.declaration? with
  | .error ks => throw (.problem { cause := .malformed (.declarations ev.id ks) })
  | .ok (.relative _) => return (.relative ev, t)
  | .ok decl =>
    let d ← t.resolveDeclared ev decl
    return (.date d, t.put key d)

/-- The cycle that entering `id` closes, if it is already on the stack: the ids from its first
entry on, and `id` again. -/
def cycleAt (visiting : List String) (id : String) : Option (List String) :=
  if visiting.contains id then some (visiting.dropWhile (· != id) ++ [id]) else none

/-- The table with an event entered on its stack. -/
def enter (t : AnchorTable) (id : String) : AnchorTable := { t with visiting := t.visiting ++ [id] }

/-- Leaves an event, which must be the last one entered. -/
def leave (t : AnchorTable) (id : String) : Except Fault AnchorTable :=
  if t.visiting.getLast? = some id then .ok { t with visiting := t.visiting.dropLast }
  else .error (.guardOutOfStep id)

/-- Leaves the given events in order; the first one out of step stops it, with the events
before it left. -/
def leaveAll (t : AnchorTable) : List Definition → AnchorTable × Except Fault Unit
  | [] => (t, .ok ())
  | ev :: rest =>
    match t.leave ev.id with
    | .ok u => u.leaveAll rest
    | .error f => (t, .error f)

/-- The number of definitions whose ids are not on the stack. -/
def unentered (t : AnchorTable) : Nat :=
  (t.definitions.filter fun d => !t.visiting.contains d.id).length

/-- Entering an id leaves the definitions still to enter less those with that id. -/
theorem filter_enter (t : AnchorTable) (id : String) :
    (t.enter id).definitions.filter (fun d => !(t.enter id).visiting.contains d.id) =
      (t.definitions.filter fun d => !t.visiting.contains d.id).filter fun d => d.id != id := by
  simp only [enter, List.filter_filter]
  congr 1
  funext e
  simp only [List.contains_append, List.contains_cons, List.contains_nil, Bool.or_false,
    Bool.not_or, bne, Bool.and_comm]

/-- Entering an id leaves no more definitions to enter. -/
theorem unentered_enter_le (t : AnchorTable) (id : String) : (t.enter id).unentered ≤ t.unentered := by
  unfold unentered
  rw [filter_enter]
  exact List.length_filter_le _ _

/-- Entering the id of a definition that is not on the stack leaves fewer to enter. -/
theorem unentered_enter_lt {t : AnchorTable} {id : String} (hid : id ∉ t.visiting)
    (hdef : t.definitions.any (·.id == id) = true) : (t.enter id).unentered < t.unentered := by
  obtain ⟨d, hd, hdid⟩ := List.any_eq_true.mp hdef
  simp only [beq_iff_eq] at hdid
  unfold unentered
  rw [filter_enter, List.length_filter_lt_length_iff_exists]
  exact ⟨d, List.mem_filter.mpr ⟨hd, by simpa [hdid] using hid⟩, by simp [hdid]⟩

/-- Entering an event that is not on the stack and going on to a definition leaves fewer
definitions to enter, counting the event itself when it is no definition. -/
theorem unentered_step {t : AnchorTable} {id : String} {next : Definition} (hid : id ∉ t.visiting)
    (hnext : (t.enter id).definitions.any (·.id == next.id) = true) :
    (t.enter id).unentered + (if (t.enter id).definitions.any (·.id == next.id) then 0 else 1) <
      t.unentered + if t.definitions.any (·.id == id) then 0 else 1 := by
  rw [if_pos hnext]
  split
  · next hdef =>
    have := unentered_enter_lt hid hdef
    omega
  · have := unentered_enter_le t id
    omega

/-- A lookup that finds a relative event leaves the table as it was and finds one of its
definitions. -/
theorem lookup_eq_relative {t : AnchorTable} {ref : AnchorRef} {rb : Option String}
    {next : Definition} {u : AnchorTable} (h : t.lookup ref rb = .ok (.relative next, u)) :
    u = t ∧ t.definitions.any (·.id == next.id) = true := by
  unfold lookup at h
  cases hkey : keyOf ref with
  | error f => simp [hkey, bind, Except.bind] at h
  | ok key =>
    cases hrec : t.recorded? key with
    | some d => simp [hkey, hrec, bind, Except.bind, pure, Except.pure] at h
    | none =>
      simp only [hkey, hrec, bind, Except.bind] at h
      split at h
      · split at h <;> cases h
      · cases hdef : t.definition? key with
        | none => simp [hdef, throw, throwThe, MonadExceptOf.throw] at h
        | some ev =>
          simp only [hdef] at h
          split at h
          · cases h
          · cases h
            refine ⟨rfl, List.any_eq_true.mpr ⟨next, ?_⟩⟩
            cases key with
            | name s =>
              exact ⟨List.mem_of_find?_eq_some hdef, by simp⟩
            | other v => cases hdef
          · split at h <;> cases h

/-- Where a walk down a chain of anchors ends: the events it entered, the last entered first;
the table; and the date of the last anchor it looked up, or the fault that stopped it. -/
structure Walked where
  /-- The events entered, the last entered first. -/
  pending : List Definition
  /-- The table, with the events entered still on its stack. -/
  table : AnchorTable
  /-- The date of the anchor the walk stopped at, or the fault it met. -/
  found : Except Fault (Option Date)

/-- Follows the anchors from the relative event `ev`, entering each event on the way and adding
it to `pending`, until an anchor that is not a relative event still to resolve is found and
looked up. -/
def walk (t : AnchorTable) (ev : Definition) (pending : List Definition) : Walked :=
  match _cycle : cycleAt t.visiting ev.id with
  | some chain => ⟨pending, t, .error (.problem { cause := .cycle chain })⟩
  | none =>
    match ev.anchorOf with
    | .error f => ⟨ev :: pending, t.enter ev.id, .error f⟩
    | .ok rel =>
      match _found : (t.enter ev.id).lookup rel.anchor (some ev.id) with
      | .error f => ⟨ev :: pending, t.enter ev.id, .error f⟩
      | .ok (.date d, u) => ⟨ev :: pending, u, .ok d⟩
      | .ok (.relative next, u) => u.walk next (ev :: pending)
termination_by t.unentered + if t.definitions.any (·.id == ev.id) then 0 else 1
decreasing_by
  obtain ⟨rfl, hnext⟩ := lookup_eq_relative _found
  have hid : ev.id ∉ t.visiting := by
    unfold cycleAt at _cycle
    split at _cycle
    · cases _cycle
    · next hc => simpa using hc
  exact unentered_step hid hnext

/-- Leaves the events a walk entered, whatever it found, and then gives what it found; a fault
met while leaving takes its place. -/
def Walked.close (w : Walked) : AnchorTable × Except Fault (Option Date) :=
  match w.table.leaveAll w.pending with
  | (u, .ok ()) => (u, w.found)
  | (u, .error f) => (u, .error f)

/-- The date of a relative event given the date of its anchor: no date stays no date, and a
date is moved by the distance the event declares. -/
def shiftBy (ev : Definition) : Option Date → Except Fault (Option Date)
  | none => .ok none
  | some d => do
    let rel ← ev.anchorOf
    some <$> (d.addDays? rel.offset).mapError .date

/-- Adds the offsets of the entered events to the date found below them, innermost first, and
records each date. An event below an anchor that does not occur does not occur either. A date
that leaves the calendar stops the recording there. -/
def settle (t : AnchorTable) : List Definition → Option Date →
    AnchorTable × Except Fault (Option Date)
  | [], d => (t, .ok d)
  | ev :: rest, d =>
    match shiftBy ev d with
    | .ok e => settle (t.put (.name (normalizeName ev.id)) e) rest e
    | .error f => (t, .error f)

/-- Resolves a relative event in a year, which must be the table's: a recorded date is
returned; otherwise its chain is walked, its events are left and their dates settled. -/
def resolveRelative (t : AnchorTable) (ev : Definition) (year : Value) :
    AnchorTable × Except Fault (Option Date) :=
  if !year.equals t.year then (t, .error (.tableYear t.year year))
  else
    match ev.declaration? with
    | .error ks => (t, .error (.problem { cause := .malformed (.declarations ev.id ks) }))
    | .ok (.relative _) =>
      match t.recorded? (.name (normalizeName ev.id)) with
      | some d => (t, .ok d)
      | none =>
        let w := t.walk ev []
        match w.close with
        | (u, .ok d) => u.settle w.pending d
        | (u, .error f) => (u, .error f)
    | .ok decl => (t, .error (.notRelative ev.id decl.kind))

/-- Resolves an anchor, on behalf of the event `requestedBy` if given, recording what it
finds. -/
def resolve (t : AnchorTable) (ref : AnchorRef) (requestedBy : Option String) :
    AnchorTable × Except Fault (Option Date) :=
  match t.lookup ref requestedBy with
  | .error f => (t, .error f)
  | .ok (.date d, t') => (t', .ok d)
  | .ok (.relative ev, t') => t'.resolveRelative ev t'.year

end AnchorTable

end Almanac
