import Mathlib
import Almanac.Proofs.Anchor.Steps

/-!
# The chain semantics of relative events

A relative event is dated by following its anchors: from the event, to the definition its anchor
names, and on while that is another relative event; the first anchor that is not is dated, and
the distances are added back up the chain. The anchor table does this with a loop that keeps the
entered events on a stack and in a pending list.

This module states the same resolution as a plain recursion, `Chain.resolveChain`, with the ids
entered so far as its only state:

* entering an id that is already entered is a cycle, reported from the first entry of the id on,
  with the id repeated at the end;
* otherwise the anchor is looked at (`Chain.target`): a feast gives its computed date; a name that
  is no definition's id is an unknown anchor, reported for the event whose anchor it is and with
  the anchor as written; a definition that declares no kind or several is malformed; a fixed or
  rule definition gives its date in the year; a relative one is entered next;
* the date found is moved by the event's distance, and no date stays no date.

The recursion ends because every id entered is that of a definition, and none twice. The main
result (`resolveRelative_follows_chain`) is that the table built for a year answers what this
recursion answers, faults included, and that it leaves the table faithful, with nothing on the
stack.
-/

namespace Almanac

namespace Chain

/-- Where the anchor of a relative event leads: a date, or the next relative event with the
distance it declares. -/
inductive Next where
  /-- The anchor's date. -/
  | date (d : Option Date)
  /-- The next relative event and its distance. -/
  | event (ev : Definition) (rel : Relative)

/-- What a lookup finds where the chain leads. -/
def Next.found : Next → Found
  | .date d => .date d
  | .event ev _ => .relative ev

variable (defs : List Definition) (policy : LeapPolicy) (y : Int)

/-- Where the anchor `a` of the relative event `id` leads in year `y`: the date of a feast or
of a fixed or rule definition (the first of its id), or the next relative event. A value that
is no name names nothing, and one that cannot be a key is refused. -/
def target (id : String) (a : AnchorRef) : Except Fault Next :=
  match a with
  | .other v =>
    if v.isHashable then .error (.problem { cause := .unknownAnchor (some id) a })
    else .error (.unhashable v.typeName)
  | .name s =>
    match Feast.ofName? s with
    | some f => (f.dateOf (.int y)).map fun d => .date (some d)
    | none =>
      match defs.find? (·.id == normalizeName s) with
      | none => .error (.problem { cause := .unknownAnchor (some id) a })
      | some ev =>
        match ev.declaration? with
        | .error ks => .error (.problem { cause := .malformed (.declarations ev.id ks) })
        | .ok (.fixed md) => (resolveFixed policy (.int y) md).map .date
        | .ok (.rule r) => (r.resolve (.int y) (some ev.id)).map fun d => .date (some d)
        | .ok (.relative rel) => .ok (.event ev rel)

/-- The anchor of an event leads to another relative event only if that is a definition
declaring the distance. -/
theorem target_event {id : String} {a : AnchorRef} {n : Definition} {nr : Relative}
    (h : target defs policy y id a = .ok (.event n nr)) :
    n ∈ defs ∧ n.declaration? = .ok (.relative nr) := by
  unfold target at h
  split at h
  · split at h <;> cases h
  · split at h
    · obtain ⟨_, -, h⟩ := Except.map_eq_ok.mp h
      cases h
    · split at h
      · cases h
      · rename_i ev hev
        split at h
        · cases h
        · obtain ⟨_, -, h⟩ := Except.map_eq_ok.mp h
          cases h
        · obtain ⟨_, -, h⟩ := Except.map_eq_ok.mp h
          cases h
        · next rel hrel =>
          cases h
          exact ⟨List.mem_of_find?_eq_some hev, hrel⟩

/-- The ids still to be entered: those of the definitions and of the event at hand, less the
ids entered already. -/
def unentered (stack : List String) (ev : Definition) : Finset String :=
  (defs.map (·.id) ++ [ev.id]).toFinset \ stack.toFinset

/-- Entering an event and going on to a definition leaves fewer ids to enter. -/
theorem unentered_lt {stack : List String} {ev n : Definition} (hn : n ∈ defs)
    (hev : ev.id ∉ stack) :
    (unentered defs (stack ++ [ev.id]) n).card < (unentered defs stack ev).card := by
  apply Finset.card_lt_card
  refine Finset.ssubset_iff_of_subset ?_ |>.mpr ⟨ev.id, ?_, ?_⟩
  · intro x hx
    simp only [unentered, Finset.mem_sdiff, List.mem_toFinset, List.mem_append, List.mem_map,
      List.mem_singleton] at hx ⊢
    refine ⟨?_, fun h => hx.2 (.inl h)⟩
    rcases hx.1 with h | h
    · exact .inl h
    · exact .inl ⟨n, hn, h.symm⟩
  · simp [unentered, hev]
  · simp [unentered]

/-- The chain semantics of the relative event `ev` at distance `rel` from its anchor, with the
ids in `stack` entered before it, oldest first. -/
def resolveChain (stack : List String) (ev : Definition) (rel : Relative) :
    Except Fault (Option Date) :=
  if _entered : ev.id ∈ stack then
    .error (.problem { cause := .cycle (stack.dropWhile (· != ev.id) ++ [ev.id]) })
  else
    match _found : target defs policy y ev.id rel.anchor with
    | .error e => .error e
    | .ok (.date d) => AnchorTable.shift rel d
    | .ok (.event n nr) => (resolveChain (stack ++ [ev.id]) n nr).bind (AnchorTable.shift rel)
termination_by (unentered defs stack ev).card
decreasing_by exact unentered_lt defs (target_event defs policy y _found).1 _entered

end Chain

/-- The feast of a spelling is the feast of the name it stands for. -/
@[simp] theorem Feast.ofName?_normalizeName (s : String) :
    Feast.ofName? (normalizeName s) = Feast.ofName? s := by
  simp only [Feast.ofName?, normalizeName_normalizeName]

/-- The first kept definition of an id is its first definition, unless the id was seen. -/
theorem find?_firstOfEach (defs : List Definition) (seen : List String) (k : String) :
    (firstOfEach defs seen).1.find? (·.id == k) =
      if k ∈ seen then none else defs.find? (·.id == k) := by
  induction defs generalizing seen with
  | nil => simp [firstOfEach]
  | cons e rest ih =>
    have hcons : (firstOfEach (e :: rest) seen).1 =
        if seen.contains e.id then (firstOfEach rest seen).1
        else e :: (firstOfEach rest (e.id :: seen)).1 := by
      simp only [firstOfEach]
      split <;> rfl
    rw [hcons]
    by_cases hk : e.id = k
    · subst hk
      by_cases he : e.id ∈ seen
      · simp [he, ih]
      · simp [he]
    · have hb : (e.id == k) = false := by simpa using hk
      by_cases he : e.id ∈ seen
      · simp [he, ih, hb]
      · simp [he, ih, hb, Ne.symm hk]

namespace AnchorTable

open Chain

/-- With nothing recorded, a lookup on behalf of an event finds what the chain semantics says
its anchor leads to. -/
theorem lookup_eq_target (defs : List Definition) (policy : LeapPolicy) (y : Int)
    {t : AnchorTable} (ht : t.dates = []) (hy : t.year = .int y)
    (hp : t.leapDay = policy) (hd : ∀ k, t.definitions.find? (·.id == k) = defs.find? (·.id == k))
    (id : String) (a : AnchorRef) :
    (t.lookup a (some id)).map Prod.fst = (target defs policy y id a).map Next.found := by
  have hrec : ∀ key, t.recorded? key = none := by
    intro key
    simp [recorded?, ht]
  cases a with
  | other v =>
    simp only [lookup, keyOf, target]
    split
    · simp [hrec, definition?, bind, Except.bind, throw, throwThe, MonadExceptOf.throw, Except.map]
    · simp [bind, Except.bind, Except.map]
  | name s =>
    simp only [lookup, keyOf_name, hrec, target, Feast.ofName?_normalizeName, bind, Except.bind]
    cases hf : Feast.ofName? s with
    | some f =>
      simp only [hy]
      cases f.dateOf (.int y) <;> rfl
    | none =>
      simp only [definition?, hd]
      cases hev : defs.find? (·.id == normalizeName s) with
      | none => rfl
      | some ev =>
        simp only
        cases hdecl : ev.declaration? with
        | error ks => rfl
        | ok decl =>
          cases decl with
          | relative rel => rfl
          | fixed md =>
            simp only [resolveDeclared, hy, hp]
            cases resolveFixed policy (.int y) md <;> rfl
          | rule r =>
            simp only [resolveDeclared, hy]
            cases r.resolve (.int y) (some ev.id) <;> rfl

/-- The table built for a year finds the first definition of each id. -/
theorem empty_find? (year : Value) (defs : List Definition) (policy : LeapPolicy) (k : String) :
    (AnchorTable.empty year defs policy).definitions.find? (·.id == k) = defs.find? (·.id == k) := by
  simp [empty, find?_firstOfEach]

/-- A walk with nothing recorded, in a table of the year, policy and definitions of the chain
semantics, settles to the chain semantics from the ids on its stack. -/
theorem walk_chain (defs : List Definition) (policy : LeapPolicy) (y : Int) (stack : List String)
    {ev : Definition} {rel : Relative} : ev.declaration? = .ok (.relative rel) →
    ∀ t : AnchorTable, t.dates = [] → t.year = .int y → t.leapDay = policy →
      (∀ k, t.definitions.find? (·.id == k) = defs.find? (·.id == k)) → t.visiting = stack →
      (t.walk ev []).settled = resolveChain defs policy y stack ev rel := by
  fun_induction resolveChain defs policy y stack ev rel with
  | case1 stack ev rel hin =>
    intro _ t _ _ _ _ hv
    have hcyc : cycleAt t.visiting ev.id = some (stack.dropWhile (· != ev.id) ++ [ev.id]) := by
      simp [cycleAt, hv, hin]
    rw [walk_eq, hcyc]
    rfl
  | case2 stack ev rel hin e htarget =>
    intro hrel t ht hy hp hd hv
    have hl := lookup_eq_target defs policy y (t := t.enter ev.id) ht hy hp hd ev.id rel.anchor
    rw [htarget] at hl
    rw [walk_of_lookup_error (hv ▸ hin) (Definition.anchorOf_of_declaration? hrel)
      (Except.map_eq_error.mp hl)]
    rfl
  | case3 stack ev rel hin d htarget =>
    intro hrel t ht hy hp hd hv
    have hl := lookup_eq_target defs policy y (t := t.enter ev.id) ht hy hp hd ev.id rel.anchor
    rw [htarget] at hl
    obtain ⟨⟨f, u⟩, hlk, hf⟩ := Except.map_eq_ok.mp hl
    subst hf
    rw [walk_of_lookup_date (hv ▸ hin) (Definition.anchorOf_of_declaration? hrel) hlk,
      Walked.settled, ← shiftBy_of_anchorOf (Definition.anchorOf_of_declaration? hrel) d]
    exact settleValue_singleton ev d
  | case4 stack ev rel hin n nr htarget ih =>
    intro hrel t ht hy hp hd hv
    have hl := lookup_eq_target defs policy y (t := t.enter ev.id) ht hy hp hd ev.id rel.anchor
    rw [htarget] at hl
    obtain ⟨⟨f, u⟩, hlk, hf⟩ := Except.map_eq_ok.mp hl
    subst hf
    obtain ⟨rfl, -⟩ := lookup_relative hlk
    rw [walk_of_lookup_relative (hv ▸ hin) (Definition.anchorOf_of_declaration? hrel) hlk,
      walk_pending, Walked.settled_append,
      ih (target_event defs policy y htarget).2 (t.enter ev.id) ht hy hp hd (by simp [hv])]
    congr 1
    funext d
    rw [settleValue_singleton, shiftBy_of_anchorOf (Definition.anchorOf_of_declaration? hrel)]

end AnchorTable

open AnchorTable Chain in
/-- Resolving a relative event on the table built for a year follows the chain semantics: for
every list of definitions (the first of each id counts), leap-day policy and year, and every
relative event that is the first definition of its id and names no feast, the answer is
`resolveChain` from an empty stack, dates and faults alike; and the table left is faithful,
with nothing on the stack. -/
theorem resolveRelative_follows_chain (defs : List Definition) (policy : LeapPolicy) (y : Int)
    {ev : Definition} {rel : Relative} (hfirst : defs.find? (·.id == ev.id) = some ev)
    (hrel : ev.declaration? = .ok (.relative rel)) (hnf : isFeastName ev.id = false) :
    ((AnchorTable.empty (.int y) defs policy).resolveRelative ev (.int y)).2 =
        resolveChain defs policy y [] ev rel ∧
      ((AnchorTable.empty (.int y) defs policy).resolveRelative ev (.int y)).1.Faithful := by
  have hfound : (AnchorTable.empty (.int y) defs policy).definitions.find? (·.id == ev.id) =
      some ev := (empty_find? _ defs policy ev.id).trans hfirst
  have hc : Canonical (AnchorTable.empty (.int y) defs policy) ev := ⟨hfound, ⟨rel, hrel⟩, hnf⟩
  have h0 : (AnchorTable.empty (.int y) defs policy).Faithful := ⟨rfl, fun _ he => nomatch he⟩
  have hy : (Value.int y).equals (AnchorTable.empty (.int y) defs policy).year = true :=
    Value.equals_int_self y
  have hag := resolveRelative_agrees h0 hy hfound hnf (.int y)
  refine ⟨?_, hag.faithful⟩
  rw [hag.answer, fresh_resolveRelative hc, if_pos hy, chainDate, chainWalk]
  exact walk_chain defs policy y [] hrel _ rfl rfl rfl (empty_find? _ defs policy) rfl

/-- The chain from carnival Monday, through carnival Tuesday, to Ash Wednesday of 2025. -/
theorem resolveRelative_follows_chain_carnival :
    [carnivalMonday, carnivalTuesday].find? (·.id == carnivalMonday.id) = some carnivalMonday ∧
      carnivalMonday.declaration? = .ok (.relative ⟨.name "carnival-tuesday", -1⟩) ∧
      isFeastName carnivalMonday.id = false ∧
      ((AnchorTable.empty (.int 2025) [carnivalMonday, carnivalTuesday] .clamp).resolveRelative
          carnivalMonday (.int 2025)).2 =
        Chain.resolveChain [carnivalMonday, carnivalTuesday] .clamp 2025 [] carnivalMonday
          ⟨.name "carnival-tuesday", -1⟩ :=
  ⟨rfl, rfl, by decide,
    (resolveRelative_follows_chain [carnivalMonday, carnivalTuesday] .clamp 2025 rfl rfl
      (by decide)).1⟩

end Almanac
