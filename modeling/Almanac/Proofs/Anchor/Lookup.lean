import Mathlib
import Almanac.Report

/-!
# Lookups in anchor tables

An anchor table is an environment (its year, its definitions and its leap-day policy), the
dates recorded so far and the stack of relative events being resolved. A lookup reads the
recorded dates under the one key it is given and nothing else of them: when nothing is recorded
there, it finds what the *fresh* table of the same environment finds, the one with nothing
recorded and nothing being resolved, and records what it finds if that is a date.

This module states that reduction, together with the facts about keys, recorded dates and
relative events found by id that the proofs about resolution rest on. A relative event reached
through a lookup is *canonical*: it is the first definition of its id, it declares a distance
and nothing else, and its id names no feast, so two canonical events with the same id are the
same event.
-/

namespace Almanac

/-- Replacing the older spellings of feast names is idempotent. -/
@[simp] theorem normalizeName_normalizeName (s : String) :
    normalizeName (normalizeName s) = normalizeName s := by
  unfold normalizeName
  split <;> split <;> simp_all

/-- A name that refers to no feast is spelled as it is recorded. -/
theorem normalizeName_of_not_feast {s : String} (h : isFeastName s = false) :
    normalizeName s = s := by
  unfold normalizeName
  split
  next => exact absurd h (by decide)
  next => exact absurd h (by decide)
  next => exact absurd h (by decide)
  next => rfl

/-- A name that refers to no feast has no feast of its spelling either. -/
theorem ofName?_of_not_feast {s : String} (h : isFeastName s = false) : Feast.ofName? s = none := by
  simpa [isFeastName] using h

/-- A name is the same anchor as another reference only if that reference is the name. -/
theorem AnchorRef.sameAs_name {a : String} {k : AnchorRef} :
    (AnchorRef.name a).sameAs k = true ↔ k = .name a := by
  cases k with
  | name b =>
    simp only [sameAs, beq_iff_eq, AnchorRef.name.injEq]
    exact eq_comm
  | other v => simp [sameAs]

/-- A definition that declares a distance and nothing else counts from that distance's anchor. -/
theorem Definition.relative_of_declaration? {ev : Definition} {rel : Relative}
    (h : ev.declaration? = .ok (.relative rel)) : ev.relative = some rel := by
  unfold Definition.declaration? at h
  split at h <;> cases h
  assumption

/-- The distance of a definition that declares a distance and nothing else. -/
theorem Definition.anchorOf_of_declaration? {ev : Definition} {rel : Relative}
    (h : ev.declaration? = .ok (.relative rel)) : ev.anchorOf = .ok rel := by
  simp [Definition.anchorOf, Definition.relative_of_declaration? h]

namespace AnchorTable

/-- The table of the same year, definitions and policy with nothing recorded and nothing being
resolved. -/
def fresh (t : AnchorTable) : AnchorTable := { t with dates := [], visiting := [] }

/-- The table with its recorded dates forgotten and its stack kept. -/
def blank (t : AnchorTable) : AnchorTable := { t with dates := [] }

/-- The table after a lookup has found something that was not recorded: a date is recorded
under the key, a relative event leaves the table as it was. -/
def absorb (t : AnchorTable) (key : AnchorRef) : Found → AnchorTable
  | .date d => t.put key d
  | .relative _ => t

section Environment

variable (t : AnchorTable)

@[simp] theorem fresh_year : t.fresh.year = t.year := rfl
@[simp] theorem fresh_definitions : t.fresh.definitions = t.definitions := rfl
@[simp] theorem fresh_leapDay : t.fresh.leapDay = t.leapDay := rfl
@[simp] theorem fresh_dates : t.fresh.dates = [] := rfl
@[simp] theorem fresh_visiting : t.fresh.visiting = [] := rfl
@[simp] theorem fresh_fresh : t.fresh.fresh = t.fresh := rfl
@[simp] theorem blank_fresh : t.blank.fresh = t.fresh := rfl
@[simp] theorem blank_visiting : t.blank.visiting = t.visiting := rfl
@[simp] theorem blank_dates : t.blank.dates = [] := rfl

@[simp] theorem fresh_with_visiting (v : List String) :
    ({ t with visiting := v } : AnchorTable).fresh = t.fresh := rfl

@[simp] theorem fresh_with_dates (ds : List (AnchorRef × Option Date)) :
    ({ t with dates := ds } : AnchorTable).fresh = t.fresh := rfl

@[simp] theorem put_fresh (key : AnchorRef) (d : Option Date) : (t.put key d).fresh = t.fresh := by
  unfold put; split <;> rfl

@[simp] theorem put_visiting (key : AnchorRef) (d : Option Date) :
    (t.put key d).visiting = t.visiting := by
  unfold put; split <;> rfl

@[simp] theorem absorb_fresh (key : AnchorRef) (f : Found) : (t.absorb key f).fresh = t.fresh := by
  cases f <;> simp [absorb]

@[simp] theorem absorb_visiting (key : AnchorRef) (f : Found) :
    (t.absorb key f).visiting = t.visiting := by
  cases f <;> simp [absorb]

@[simp] theorem enter_fresh (id : String) : (t.enter id).fresh = t.fresh := rfl
@[simp] theorem enter_visiting (id : String) : (t.enter id).visiting = t.visiting ++ [id] := rfl
@[simp] theorem enter_dates (id : String) : (t.enter id).dates = t.dates := rfl
@[simp] theorem enter_blank (id : String) : (t.enter id).blank = t.blank.enter id := rfl

@[simp] theorem put_with_visiting (key : AnchorRef) (d : Option Date) (v : List String) :
    ({ t with visiting := v } : AnchorTable).put key d = { t.put key d with visiting := v } := by
  unfold put; split <;> rfl

@[simp] theorem absorb_with_visiting (key : AnchorRef) (f : Found) (v : List String) :
    ({ t with visiting := v } : AnchorTable).absorb key f = { t.absorb key f with visiting := v } := by
  cases f <;> simp [absorb]

/-- A fresh table has nothing recorded. -/
@[simp] theorem recorded?_fresh (key : AnchorRef) : t.fresh.recorded? key = none := rfl

/-- A table is its environment, its recorded dates and its stack. -/
theorem eq_of_fresh {u : AnchorTable} (hf : u.fresh = t.fresh) (hd : u.dates = t.dates)
    (hv : u.visiting = t.visiting) : u = t := by
  cases u
  cases t
  simp only [fresh, mk.injEq] at hf hd hv ⊢
  exact ⟨hf.1, hf.2.1, hf.2.2.1, hd, hv⟩

end Environment

/-! ## Keys and recorded dates -/

@[simp] theorem keyOf_name (s : String) : keyOf (.name s) = .ok (.name (normalizeName s)) := rfl

/-- A key is its own key. -/
theorem keyOf_key {ref key : AnchorRef} (h : keyOf ref = .ok key) : keyOf key = .ok key := by
  cases ref with
  | name s =>
    cases h
    simp
  | other v =>
    simp only [keyOf] at h
    split at h
    · cases h
      simp [keyOf, *]
    · cases h

/-- A recorded date comes from an entry recorded under the same anchor. -/
theorem recorded?_eq_some {t : AnchorTable} {key : AnchorRef} {d : Option Date}
    (h : t.recorded? key = some d) : ∃ e ∈ t.dates, e.1.sameAs key = true ∧ e.2 = d := by
  unfold recorded? at h
  obtain ⟨e, he, rfl⟩ := Option.map_eq_some_iff.mp h
  have hs := List.find?_some he
  exact ⟨e, List.mem_of_find?_eq_some he, hs, rfl⟩

/-- An entry after recording is an entry from before, or carries the new date under the key or
under an anchor recorded before that is the same as the key. -/
theorem mem_put {t : AnchorTable} {key : AnchorRef} {d : Option Date} {e : AnchorRef × Option Date}
    (h : e ∈ (t.put key d).dates) :
    e ∈ t.dates ∨ e.2 = d ∧ (e.1 = key ∨ ∃ e0 ∈ t.dates, e0.1 = e.1 ∧ e0.1.sameAs key = true) := by
  unfold put at h
  split at h
  · obtain ⟨e0, he0, rfl⟩ := List.mem_map.mp h
    by_cases hs : e0.1.sameAs key = true
    · right
      refine ⟨by simp [hs], .inr ⟨e0, he0, by simp [hs], hs⟩⟩
    · left
      simpa [hs] using he0
  · rcases List.mem_append.mp h with h | h
    · exact .inl h
    · right
      obtain rfl := List.mem_singleton.mp h
      exact ⟨rfl, .inl rfl⟩

/-! ## Lookups -/

/-- A reference that cannot be a key fails the lookup. -/
theorem lookup_of_keyOf_error {t : AnchorTable} {ref : AnchorRef} {rb : Option String} {f : Fault}
    (h : keyOf ref = .error f) : t.lookup ref rb = .error f := by
  simp [lookup, h, bind, Except.bind]

/-- A recorded date is found as it is, and the table is left as it was. -/
theorem lookup_of_recorded {t : AnchorTable} {ref key : AnchorRef} {rb : Option String}
    {d : Option Date} (hkey : keyOf ref = .ok key) (hrec : t.recorded? key = some d) :
    t.lookup ref rb = .ok (.date d, t) := by
  simp [lookup, hkey, hrec, bind, Except.bind, pure, Except.pure]

/-- Under a key with nothing recorded, a table finds what its fresh table finds, and records it
if it is a date. -/
theorem lookup_of_unrecorded {t : AnchorTable} {ref key : AnchorRef} {b : Option String}
    (hkey : keyOf ref = .ok key) (hrec : t.recorded? key = none) :
    t.lookup ref b = (t.fresh.lookup ref b).map fun r => (r.1, t.absorb key r.1) := by
  have hdef : t.fresh.definition? = t.definition? := by
    funext k
    cases k <;> rfl
  have hdecl : t.fresh.resolveDeclared = t.resolveDeclared := by
    funext ev decl
    cases decl <;> rfl
  simp only [lookup, hkey, hrec, recorded?_fresh, bind, Except.bind, pure, Except.pure]
  rw [fresh_year, hdef, hdecl]
  split
  · split <;> rfl
  · split
    · split
      · rfl
      · rfl
      · split <;> rfl
    · rfl

/-- The stack is not read by a lookup: the same is found, and the stack is kept. -/
theorem lookup_with_visiting (t : AnchorTable) (ref : AnchorRef) (rb : Option String)
    (v : List String) :
    ({ t with visiting := v } : AnchorTable).lookup ref rb =
      (t.lookup ref rb).map fun r => (r.1, { r.2 with visiting := v }) := by
  cases hkey : keyOf ref with
  | error f => simp [lookup_of_keyOf_error hkey, Except.map]
  | ok key =>
    have hrec : ({ t with visiting := v } : AnchorTable).recorded? key = t.recorded? key := rfl
    cases h : t.recorded? key with
    | some d =>
      rw [lookup_of_recorded hkey (hrec.trans h), lookup_of_recorded hkey h]
      rfl
    | none =>
      rw [lookup_of_unrecorded hkey (hrec.trans h), lookup_of_unrecorded hkey h, fresh_with_visiting]
      cases t.fresh.lookup ref rb <;> simp [Except.map]

/-- A successful lookup depends on the reference only through its key. -/
theorem lookup_congr {t : AnchorTable} {ref ref' key : AnchorRef} {b c : Option String}
    {r : Found × AnchorTable} (hkey : keyOf ref = .ok key) (hkey' : keyOf ref' = .ok key)
    (h : t.lookup ref b = .ok r) : t.lookup ref' c = .ok r := by
  simp only [lookup, hkey, hkey', bind, Except.bind] at h ⊢
  split at h
  · exact h
  · split at h
    · exact h
    · split at h
      · exact h
      · cases h

/-! ## Relative events found by id -/

/-- A relative event as a lookup finds it: the first definition of its id, declaring a distance
and nothing else, with an id that names no feast. -/
structure Canonical (t : AnchorTable) (ev : Definition) : Prop where
  /-- The event is the first definition of its id. -/
  found : t.definitions.find? (·.id == ev.id) = some ev
  /-- The event declares a distance and nothing else. -/
  relative : ∃ rel, ev.declaration? = .ok (.relative rel)
  /-- The id names no feast. -/
  notFeast : isFeastName ev.id = false

/-- Two canonical events with the same id are the same event. -/
theorem Canonical.eq {t : AnchorTable} {n m : Definition} (hn : Canonical t n)
    (hm : Canonical t m) (h : n.id = m.id) : n = m := by
  have := hn.found
  rw [h, hm.found] at this
  exact (Option.some.inj this).symm

/-- Canonical events depend only on the definitions. -/
theorem Canonical.congr {t u : AnchorTable} {ev : Definition} (hn : Canonical t ev)
    (h : t.definitions = u.definitions) : Canonical u ev :=
  ⟨h ▸ hn.found, hn.relative, hn.notFeast⟩

/-- A canonical event's distance is the one it declares. -/
theorem Canonical.anchorOf {t : AnchorTable} {ev : Definition} (hc : Canonical t ev) :
    ∃ rel, ev.anchorOf = .ok rel ∧ ev.declaration? = .ok (.relative rel) := by
  obtain ⟨rel, hrel⟩ := hc.relative
  exact ⟨rel, Definition.anchorOf_of_declaration? hrel, hrel⟩

/-- A lookup that finds a relative event finds it by its id, under which nothing is recorded;
the event is canonical and the table is left as it was. -/
theorem lookup_relative {t : AnchorTable} {ref : AnchorRef} {rb : Option String}
    {ev : Definition} {u : AnchorTable} (h : t.lookup ref rb = .ok (.relative ev, u)) :
    u = t ∧ keyOf ref = .ok (.name ev.id) ∧ t.recorded? (.name ev.id) = none ∧ Canonical t ev := by
  cases hkey : keyOf ref with
  | error f =>
    rw [lookup_of_keyOf_error hkey] at h
    cases h
  | ok key =>
    cases hrec : t.recorded? key with
    | some d =>
      rw [lookup_of_recorded hkey hrec] at h
      cases h
    | none =>
      simp only [lookup, hkey, hrec, bind, Except.bind, pure, Except.pure] at h
      cases key with
      | other v => simp [definition?, throw, throwThe, MonadExceptOf.throw] at h
      | name s =>
        cases hf : Feast.ofName? s with
        | some f =>
          simp only [hf] at h
          split at h <;> cases h
        | none =>
          simp only [hf, definition?] at h
          cases hd : t.definitions.find? (·.id == s) with
          | none => simp [hd, throw, throwThe, MonadExceptOf.throw] at h
          | some ev' =>
            simp only [hd] at h
            split at h
            · cases h
            · next rel' hdecl =>
              cases h
              have hid : ev.id = s := by simpa using List.find?_some hd
              subst hid
              refine ⟨rfl, rfl, hrec, hd, ⟨rel', hdecl⟩, ?_⟩
              simpa [isFeastName] using hf
            · split at h <;> cases h

/-- What a fresh table finds for the anchor of a relative event, on the event's behalf. -/
def link (t : AnchorTable) (ev : Definition) : Except Fault Found :=
  ev.anchorOf.bind fun rel => (t.fresh.lookup rel.anchor (some ev.id)).map Prod.fst

/-- Links depend on the environment only. -/
theorem link_congr {t u : AnchorTable} (h : t.fresh = u.fresh) : t.link = u.link := by
  funext ev
  simp only [link, h]

/-- The link of an event with a distance is what the fresh table finds for its anchor. -/
theorem link_of_anchorOf {t : AnchorTable} {ev : Definition} {rel : Relative}
    (ha : ev.anchorOf = .ok rel) :
    t.link ev = (t.fresh.lookup rel.anchor (some ev.id)).map Prod.fst := by
  rw [link, ha]
  rfl

/-- Where nothing is recorded under the anchor of a relative event, the table finds its link. -/
theorem lookup_eq_link {t : AnchorTable} {ev : Definition} {rel : Relative} {key : AnchorRef}
    (ha : ev.anchorOf = .ok rel) (hkey : keyOf rel.anchor = .ok key) (hrec : t.recorded? key = none) :
    t.lookup rel.anchor (some ev.id) = (t.link ev).map fun f => (f, t.absorb key f) := by
  rw [lookup_of_unrecorded hkey hrec, link_of_anchorOf ha]
  cases t.fresh.lookup rel.anchor (some ev.id) <;> rfl

/-- A lookup keeps the stack and the environment of the table. -/
theorem lookup_ok_table {t : AnchorTable} {ref : AnchorRef} {rb : Option String} {f : Found}
    {u : AnchorTable} (h : t.lookup ref rb = .ok (f, u)) :
    u.visiting = t.visiting ∧ u.fresh = t.fresh := by
  cases hkey : keyOf ref with
  | error e =>
    rw [lookup_of_keyOf_error hkey] at h
    cases h
  | ok key =>
    cases hrec : t.recorded? key with
    | some d =>
      rw [lookup_of_recorded hkey hrec] at h
      cases h
      exact ⟨rfl, rfl⟩
    | none =>
      rw [lookup_of_unrecorded hkey hrec] at h
      cases hl : t.fresh.lookup ref rb with
      | error e =>
        rw [hl] at h
        cases h
      | ok r =>
        rw [hl] at h
        cases h
        simp

/-- With nothing recorded, a lookup of the anchor of a relative event finds its link. -/
theorem lookup_fst_of_blank {t : AnchorTable} {ev : Definition} {rel : Relative}
    (ha : ev.anchorOf = .ok rel) (h : t.dates = []) :
    (t.lookup rel.anchor (some ev.id)).map Prod.fst = t.link ev := by
  cases hkey : keyOf rel.anchor with
  | error e =>
    rw [lookup_of_keyOf_error hkey, link_of_anchorOf ha, lookup_of_keyOf_error hkey]
  | ok key =>
    have hrec : t.recorded? key = none := by simp [recorded?, h]
    rw [lookup_eq_link ha hkey hrec]
    cases t.link ev <;> rfl

end AnchorTable

end Almanac
