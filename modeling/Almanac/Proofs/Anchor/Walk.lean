import Almanac.Proofs.Anchor.Lookup

/-!
# Walking a chain of relative events

Resolving a relative event walks down its anchors: each step enters the event on the stack,
reads the distance it declares, looks its anchor up, and stops at the first anchor that is not a
relative event still to resolve. This module takes one step of that walk apart (`walk_eq`) and
proves what a whole walk does with what it is given:

* the list of entered events is an accumulator, so a walk can be started with any (`walk_pending`);
* the events a walk entered lie on the stack above the ones there before, the last entered on
  top, so leaving them in the order of the list takes each one off the top and gives back the
  stack the walk started with, whatever the walk found (`walk_close`); a walk that fails has
  recorded nothing, so closing it gives back the table it started from (`walk_close_of_error`);
* a successful walk is a chain of steps that each find the next relative event, ending with one
  that finds a date (`Walks`, `walk_eq_ok_iff`);
* the stack is read only by the cycle check, so a successful walk succeeds the same way on any
  stack that holds none of the events it entered (`Walks.frame`);
* a walk that fails met no recorded date, so it fails the same way with nothing recorded
  (`walk_blank_of_error`);
* a walk with nothing recorded never enters an event whose anchor leads back to the stack or to
  where it started (`Walks.no_back_link`).

Adding the distances back up the chain is `settleValue`, the value `settle` computes.
-/

namespace Almanac

/-- A mapped computation succeeds exactly when the computation does. -/
theorem Except.map_eq_ok {ε α β : Type} {x : Except ε α} {f : α → β} {b : β} :
    x.map f = .ok b ↔ ∃ a, x = .ok a ∧ f a = b := by
  cases x <;> simp [Except.map]

/-- A mapped computation fails exactly as the computation does. -/
theorem Except.map_eq_error {ε α β : Type} {x : Except ε α} {f : α → β} {e : ε} :
    x.map f = .error e ↔ x = .error e := by
  cases x <;> simp [Except.map]

namespace AnchorTable

/-- Entering an event is possible exactly when it is not on the stack. -/
@[simp] theorem cycleAt_eq_none {visiting : List String} {id : String} :
    cycleAt visiting id = none ↔ id ∉ visiting := by
  unfold cycleAt
  split <;> simp_all

/-- One step of a walk: the cycle check, the distance of the event, then the lookup of its
anchor with the event entered. -/
theorem walk_eq (t : AnchorTable) (ev : Definition) (pending : List Definition) :
    t.walk ev pending =
      match cycleAt t.visiting ev.id with
      | some chain => ⟨pending, t, .error (.problem { cause := .cycle chain })⟩
      | none =>
        match ev.anchorOf with
        | .error f => ⟨ev :: pending, t.enter ev.id, .error f⟩
        | .ok rel =>
          match (t.enter ev.id).lookup rel.anchor (some ev.id) with
          | .error f => ⟨ev :: pending, t.enter ev.id, .error f⟩
          | .ok (.date d, u) => ⟨ev :: pending, u, .ok d⟩
          | .ok (.relative next, u) => u.walk next (ev :: pending) := by
  rw [walk]
  split
  · next h => simp only [h]
  · next h =>
    simp only [h]
    cases ev.anchorOf with
    | error f => rfl
    | ok rel =>
      dsimp only
      split
      · next hl => simp only [hl]
      · next hl => simp only [hl]
      · next hl => simp only [hl]

section Step

variable {t : AnchorTable} {ev : Definition} {rel : Relative} {pending : List Definition}

/-- A step whose anchor is not found ends the walk with the fault, the event entered. -/
theorem walk_of_lookup_error (hin : ev.id ∉ t.visiting) (ha : ev.anchorOf = .ok rel) {f : Fault}
    (hl : (t.enter ev.id).lookup rel.anchor (some ev.id) = .error f) :
    t.walk ev pending = ⟨ev :: pending, t.enter ev.id, .error f⟩ := by
  rw [walk_eq, cycleAt_eq_none.mpr hin]
  simp only [ha, hl]

/-- A step whose anchor is found with a date ends the walk there. -/
theorem walk_of_lookup_date (hin : ev.id ∉ t.visiting) (ha : ev.anchorOf = .ok rel)
    {d : Option Date} {u : AnchorTable}
    (hl : (t.enter ev.id).lookup rel.anchor (some ev.id) = .ok (.date d, u)) :
    t.walk ev pending = ⟨ev :: pending, u, .ok d⟩ := by
  rw [walk_eq, cycleAt_eq_none.mpr hin]
  simp only [ha, hl]

/-- A step whose anchor is a relative event goes on with that event, the first one pending. -/
theorem walk_of_lookup_relative (hin : ev.id ∉ t.visiting) (ha : ev.anchorOf = .ok rel)
    {next : Definition} {u : AnchorTable}
    (hl : (t.enter ev.id).lookup rel.anchor (some ev.id) = .ok (.relative next, u)) :
    t.walk ev pending = u.walk next (ev :: pending) := by
  rw [walk_eq, cycleAt_eq_none.mpr hin]
  simp only [ha, hl]

end Step

/-- The events a walk enters are put in front of those it was given. -/
theorem walk_append (t : AnchorTable) (ev : Definition) (pending rest : List Definition) :
    t.walk ev (pending ++ rest) =
      { t.walk ev pending with pending := (t.walk ev pending).pending ++ rest } := by
  fun_induction t.walk ev pending with
  | case1 t ev pending chain hc => rw [walk_eq, hc]
  | case2 t ev pending hc f ha => rw [walk_eq, hc]; simp only [ha]; rfl
  | case3 t ev pending hc rel ha f hl => rw [walk_eq, hc]; simp only [ha, hl]; rfl
  | case4 t ev pending hc rel ha d u hl => rw [walk_eq, hc]; simp only [ha, hl]; rfl
  | case5 t ev pending hc rel ha next u hl ih =>
    rw [walk_eq, hc]
    simp only [ha, hl]
    exact ih

/-- A walk started with events pending is the walk started with none, those events behind. -/
theorem walk_pending (t : AnchorTable) (ev : Definition) (pending : List Definition) :
    t.walk ev pending = { t.walk ev [] with pending := (t.walk ev []).pending ++ pending } :=
  walk_append t ev [] pending

/-- A walk keeps the environment and leaves the events it entered on the stack above the ones
there before, the last entered on top. -/
theorem walk_table (t : AnchorTable) (ev : Definition) (pending : List Definition) :
    ∃ X, (t.walk ev pending).pending = X ++ pending ∧
      (t.walk ev pending).table.visiting = t.visiting ++ (X.map (·.id)).reverse ∧
      (t.walk ev pending).table.fresh = t.fresh := by
  fun_induction t.walk ev pending with
  | case1 => exact ⟨[], rfl, by simp, rfl⟩
  | case2 t ev pending => exact ⟨[ev], rfl, by simp, rfl⟩
  | case3 t ev pending => exact ⟨[ev], rfl, by simp, rfl⟩
  | case4 t ev pending hc rel ha d u hl =>
    obtain ⟨hv, hf⟩ := lookup_ok_table hl
    exact ⟨[ev], rfl, by simpa using hv, by simpa using hf⟩
  | case5 t ev pending hc rel ha next u hl ih =>
    obtain ⟨rfl, -⟩ := lookup_relative hl
    obtain ⟨X, hX, hv, hf⟩ := ih
    exact ⟨X ++ [ev], by simp [hX], by simp [hv], by simpa using hf⟩

/-- After a walk from nothing pending, the events it entered lie on the stack, the last entered
on top. -/
theorem walk_visiting (t : AnchorTable) (ev : Definition) :
    (t.walk ev []).table.visiting = t.visiting ++ ((t.walk ev []).pending.map (·.id)).reverse := by
  obtain ⟨X, hX, hv, -⟩ := walk_table t ev []
  rw [hv, hX, List.append_nil]

/-- A walk keeps the environment. -/
theorem walk_fresh (t : AnchorTable) (ev : Definition) (pending : List Definition) :
    (t.walk ev pending).table.fresh = t.fresh :=
  (walk_table t ev pending).choose_spec.2.2

/-- A walk that fails records nothing. -/
theorem walk_dates_of_error {t : AnchorTable} {ev : Definition} {pending : List Definition}
    {e : Fault} (h : (t.walk ev pending).found = .error e) : (t.walk ev pending).table.dates = t.dates := by
  fun_induction t.walk ev pending with
  | case1 => rfl
  | case2 => rfl
  | case3 => rfl
  | case4 => cases h
  | case5 t ev pending hc rel ha next u hl ih =>
    obtain ⟨rfl, -⟩ := lookup_relative hl
    exact ih h

/-! ## Leaving the entered events -/

/-- Leaving the event on top of the stack takes it off. -/
theorem leave_of_visiting {u : AnchorTable} {v : List String} {id : String}
    (h : u.visiting = v ++ [id]) : u.leave id = .ok { u with visiting := v } := by
  simp [leave, h]

/-- Leaving events in the reverse order of their entry takes each one off the top, and gives
back the stack below them. -/
theorem leaveAll_of_visiting {u : AnchorTable} {v : List String} {X : List Definition}
    (h : u.visiting = v ++ (X.map (·.id)).reverse) :
    u.leaveAll X = ({ u with visiting := v }, .ok ()) := by
  induction X generalizing u with
  | nil =>
    simp only [List.map_nil, List.reverse_nil, List.append_nil] at h
    rw [leaveAll, ← h]
  | cons ev rest ih =>
    have htop : u.visiting = (v ++ (rest.map (·.id)).reverse) ++ [ev.id] := by simp [h]
    rw [leaveAll, leave_of_visiting htop]
    exact ih rfl

/-- Closing a walk from nothing pending leaves every event it entered, gives back the stack it
started with, and keeps what it found. -/
theorem walk_close (t : AnchorTable) (ev : Definition) :
    (t.walk ev []).close = ({ (t.walk ev []).table with visiting := t.visiting }, (t.walk ev []).found) := by
  rw [Walked.close, leaveAll_of_visiting (walk_visiting t ev)]

/-- Closing a walk that failed gives back the table it started from. -/
theorem walk_close_of_error {t : AnchorTable} {ev : Definition} {e : Fault}
    (h : (t.walk ev []).found = .error e) : (t.walk ev []).close = (t, .error e) := by
  rw [walk_close, h]
  congr 1
  exact eq_of_fresh t (by simp [walk_fresh]) (walk_dates_of_error h) rfl

/-! ## Successful walks -/

/-- A successful walk from nothing pending: `Walks t ev X u d` says that the walk from `ev` in
`t` enters the events `X`, the last entered first, and stops at `d` with the table `u`. Each
event entered is off the stack and declares a distance; the walk stops at a date, or finds the
next relative event and walks on from it. -/
inductive Walks : AnchorTable → Definition → List Definition → AnchorTable → Option Date → Prop
  /-- The anchor of the event is found as a date. -/
  | date {t : AnchorTable} {ev : Definition} {rel : Relative} {d : Option Date} {u : AnchorTable} :
      ev.id ∉ t.visiting → ev.anchorOf = .ok rel →
      (t.enter ev.id).lookup rel.anchor (some ev.id) = .ok (.date d, u) → Walks t ev [ev] u d
  /-- The anchor of the event is the next relative event, walked on from there. -/
  | relative {t : AnchorTable} {ev n : Definition} {rel : Relative} {X : List Definition}
      {u : AnchorTable} {d : Option Date} :
      ev.id ∉ t.visiting → ev.anchorOf = .ok rel →
      (t.enter ev.id).lookup rel.anchor (some ev.id) = .ok (.relative n, t.enter ev.id) →
      Walks (t.enter ev.id) n X u d → Walks t ev (X ++ [ev]) u d

/-- A walk that succeeds from nothing pending entered an event not on the stack, which declares
a distance, and either stopped at once at a date or went on from the next relative event its
anchor led to. -/
theorem walk_ok_cases {t : AnchorTable} {ev : Definition} {X : List Definition}
    {u : AnchorTable} {d : Option Date} (h : t.walk ev [] = ⟨X, u, .ok d⟩) :
    ev.id ∉ t.visiting ∧ ∃ rel, ev.anchorOf = .ok rel ∧
      ((X = [ev] ∧ (t.enter ev.id).lookup rel.anchor (some ev.id) = .ok (.date d, u)) ∨
        ∃ n X', X = X' ++ [ev] ∧
          (t.enter ev.id).lookup rel.anchor (some ev.id) = .ok (.relative n, t.enter ev.id) ∧
          (t.enter ev.id).walk n [] = ⟨X', u, .ok d⟩) := by
  rw [walk_eq] at h
  cases hc : cycleAt t.visiting ev.id with
  | some chain => simp [hc] at h
  | none =>
    refine ⟨cycleAt_eq_none.mp hc, ?_⟩
    simp only [hc] at h
    cases ha : ev.anchorOf with
    | error f => simp [ha] at h
    | ok rel =>
      refine ⟨rel, rfl, ?_⟩
      simp only [ha] at h
      cases hl : (t.enter ev.id).lookup rel.anchor (some ev.id) with
      | error f => simp [hl] at h
      | ok r =>
        obtain ⟨f, w⟩ := r
        cases f with
        | date d' =>
          simp only [hl, Walked.mk.injEq, Except.ok.injEq] at h
          obtain ⟨rfl, rfl, rfl⟩ := h
          exact .inl ⟨rfl, rfl⟩
        | relative n =>
          obtain ⟨rfl, -⟩ := lookup_relative hl
          simp only [hl] at h
          rw [walk_pending] at h
          simp only [Walked.mk.injEq] at h
          obtain ⟨hX, hu, hd⟩ := h
          exact .inr ⟨n, (t.enter ev.id |>.walk n []).pending, hX.symm, rfl, by rw [← hu, ← hd]⟩

/-- A walk succeeds from nothing pending exactly as `Walks` says. -/
theorem walk_eq_ok_iff {t : AnchorTable} {ev : Definition} {X : List Definition}
    {u : AnchorTable} {d : Option Date} : t.walk ev [] = ⟨X, u, .ok d⟩ ↔ Walks t ev X u d := by
  constructor
  · intro h
    induction hm : t.unentered + (if t.definitions.any (·.id == ev.id) then 0 else 1)
      using Nat.strong_induction_on generalizing t ev X with
    | _ m ih =>
      obtain ⟨hnot, rel, ha, ⟨rfl, hl⟩ | ⟨n, X', rfl, hl, hw⟩⟩ := walk_ok_cases h
      · exact .date hnot ha hl
      · refine .relative hnot ha hl (ih _ ?_ hw rfl)
        rw [← hm]
        exact unentered_step hnot (lookup_eq_relative hl).2
  · intro h
    induction h with
    | date hnot ha hl => rw [walk_of_lookup_date hnot ha hl]
    | relative hnot ha hl _ ih => rw [walk_of_lookup_relative hnot ha hl, walk_pending, ih]

/-- The events a successful walk enters are distinct and were not on the stack. -/
theorem Walks.ids {t : AnchorTable} {ev : Definition} {X : List Definition} {u : AnchorTable}
    {d : Option Date} (h : Walks t ev X u d) :
    (∀ m ∈ X, m.id ∉ t.visiting) ∧ (X.map (·.id)).Nodup := by
  induction h with
  | date hnot => simpa using hnot
  | @relative t ev n rel X u d hnot ha hl hw ih =>
    obtain ⟨hout, hnd⟩ := ih
    have hout' : ∀ m ∈ X, m.id ∉ t.visiting ∧ m.id ≠ ev.id := by
      intro m hm
      simpa using hout m hm
    refine ⟨fun m hm => ?_, ?_⟩
    · rcases List.mem_append.mp hm with hm | hm
      · exact (hout' m hm).1
      · obtain rfl := List.mem_singleton.mp hm
        exact hnot
    · rw [List.map_append, List.nodup_append]
      refine ⟨hnd, by simp, fun a ha b hb => ?_⟩
      obtain ⟨m, hm, rfl⟩ := List.mem_map.mp ha
      have hb' : b = ev.id := by simpa using hb
      rw [hb']
      exact (hout' m hm).2

/-- The stack is read only by the cycle check: a successful walk succeeds the same way on any
stack that holds none of the events it entered. -/
theorem Walks.frame {t : AnchorTable} {ev : Definition} {X : List Definition} {u : AnchorTable}
    {d : Option Date} (h : Walks t ev X u d) (v : List String) (hv : ∀ m ∈ X, m.id ∉ v) :
    Walks { t with visiting := v } ev X { u with visiting := v ++ (X.map (·.id)).reverse } d := by
  induction h generalizing v with
  | @date t ev rel d u hnot ha hl =>
    have henter : ({ t with visiting := v } : AnchorTable).enter ev.id =
        { t.enter ev.id with visiting := v ++ [ev.id] } := rfl
    refine .date (by simpa using hv) ha ?_
    rw [henter, lookup_with_visiting, hl]
    rfl
  | @relative t ev n rel X u d hnot ha hl hw ih =>
    have henter : ({ t with visiting := v } : AnchorTable).enter ev.id =
        { t.enter ev.id with visiting := v ++ [ev.id] } := rfl
    have hX : ∀ m ∈ X, m.id ∉ v ++ [ev.id] := by
      intro m hm
      have h1 := hw.ids.1 m hm
      have h2 := hv m (by simp [hm])
      simp only [enter_visiting, List.mem_append, List.mem_singleton, not_or] at h1
      simp [h1.2, h2]
    have hl' : (({ t with visiting := v } : AnchorTable).enter ev.id).lookup rel.anchor (some ev.id) =
        .ok (.relative n, ({ t with visiting := v } : AnchorTable).enter ev.id) := by
      rw [henter, lookup_with_visiting, hl]
      rfl
    have hframe := ih (v ++ [ev.id]) hX
    rw [← henter] at hframe
    have := Walks.relative (hv ev (by simp)) ha hl' hframe
    simpa using this

/-- The events a walk enters after a canonical one are canonical. -/
theorem Walks.canonical {t : AnchorTable} {ev : Definition} {X : List Definition}
    {u : AnchorTable} {d : Option Date} (h : Walks t ev X u d) (hc : Canonical t ev) :
    ∀ m ∈ X, Canonical t m := by
  induction h with
  | date => simpa using hc
  | @relative t ev n rel X u d hnot ha hl hw ih =>
    have hn : Canonical (t.enter ev.id) n := (lookup_relative hl).2.2.2
    intro m hm
    rcases List.mem_append.mp hm with hm | hm
    · exact (ih hn m hm).congr rfl
    · obtain rfl := List.mem_singleton.mp hm
      exact hc

/-- Every event a successful walk enters declares a distance. -/
theorem Walks.anchorOf {t : AnchorTable} {ev : Definition} {X : List Definition}
    {u : AnchorTable} {d : Option Date} (h : Walks t ev X u d) :
    ∀ m ∈ X, ∃ rel, m.anchorOf = .ok rel := by
  induction h with
  | @date t ev rel d u _ ha =>
    intro m hm
    rw [List.mem_singleton.mp hm]
    exact ⟨rel, ha⟩
  | @relative t ev n rel X u d _ ha _ _ ih =>
    intro m hm
    rcases List.mem_append.mp hm with hm | hm
    · exact ih m hm
    · rw [List.mem_singleton.mp hm]
      exact ⟨rel, ha⟩

/-- With nothing recorded, no event a walk enters has an anchor that leads back to the stack or
to the event the walk started from. -/
theorem Walks.no_back_link {t : AnchorTable} {ev : Definition} {X : List Definition}
    {u : AnchorTable} {d : Option Date} (h : Walks t ev X u d) (hblank : t.dates = []) :
    ∀ m ∈ X, ∀ k, t.link m = .ok (.relative k) → k.id ∉ t.visiting ++ [ev.id] := by
  induction h with
  | @date t ev rel d u hnot ha hl =>
    intro m hm k hk
    rw [List.mem_singleton.mp hm] at hk
    have := lookup_fst_of_blank (t := t.enter ev.id) ha hblank
    rw [hl, link_congr (enter_fresh t ev.id)] at this
    rw [← this] at hk
    cases hk
  | @relative t ev n rel X u d hnot ha hl hw ih =>
    have hlink : t.link ev = .ok (.relative n) := by
      have := lookup_fst_of_blank (t := t.enter ev.id) ha hblank
      rw [hl, link_congr (enter_fresh t ev.id)] at this
      exact this.symm
    have hn : n.id ∉ t.visiting ++ [ev.id] := by
      cases hw with
      | date hnot' => simpa using hnot'
      | relative hnot' => simpa using hnot'
    intro m hm k hk
    rcases List.mem_append.mp hm with hm | hm
    · have := ih hblank m hm k (by rwa [link_congr (enter_fresh t ev.id)])
      simp only [enter_visiting, List.mem_append, List.mem_singleton, not_or] at this ⊢
      exact ⟨this.1.1, this.1.2⟩
    · rw [List.mem_singleton.mp hm, hlink] at hk
      cases hk
      exact hn

/-- A successful walk ends with the event it started from. -/
theorem Walks.last {t : AnchorTable} {ev : Definition} {X : List Definition} {u : AnchorTable}
    {d : Option Date} (h : Walks t ev X u d) : ∃ Z, X = Z ++ [ev] := by
  cases h with
  | date => exact ⟨[], rfl⟩
  | relative => exact ⟨_, rfl⟩

/-- A lookup that fails in a table fails the same way with nothing recorded. -/
theorem lookup_blank_of_error {t : AnchorTable} {ref : AnchorRef} {rb : Option String} {e : Fault}
    (h : t.lookup ref rb = .error e) : t.blank.lookup ref rb = .error e := by
  cases hkey : keyOf ref with
  | error f =>
    rw [lookup_of_keyOf_error hkey] at h ⊢
    exact h
  | ok key =>
    cases hrec : t.recorded? key with
    | some d => rw [lookup_of_recorded hkey hrec] at h; cases h
    | none =>
      rw [lookup_of_unrecorded hkey hrec] at h
      rw [lookup_of_unrecorded hkey rfl, blank_fresh]
      cases hfl : t.fresh.lookup ref rb with
      | error e' => rw [hfl] at h; exact h
      | ok r => rw [hfl] at h; cases h

/-- A lookup that finds a relative event finds it the same way with nothing recorded. -/
theorem lookup_blank_of_relative {t : AnchorTable} {ref : AnchorRef} {rb : Option String}
    {n : Definition} (h : t.lookup ref rb = .ok (.relative n, t)) :
    t.blank.lookup ref rb = .ok (.relative n, t.blank) := by
  obtain ⟨-, hkey, hrec, -⟩ := lookup_relative h
  rw [lookup_of_unrecorded hkey hrec] at h
  rw [lookup_of_unrecorded hkey rfl, blank_fresh]
  cases hfl : t.fresh.lookup ref rb with
  | error e => rw [hfl] at h; cases h
  | ok r =>
    obtain ⟨f, w⟩ := r
    rw [hfl] at h
    simp only [Except.map, Except.ok.injEq, Prod.mk.injEq] at h
    obtain ⟨rfl, -⟩ := h
    rfl

/-- A walk that fails met no recorded date on its way, so it fails the same way with nothing
recorded. -/
theorem walk_blank_of_error {t : AnchorTable} {ev : Definition} {pending : List Definition}
    {e : Fault} (h : (t.walk ev pending).found = .error e) :
    (t.blank.walk ev pending).found = .error e := by
  fun_induction t.walk ev pending with
  | case1 t ev pending chain hc =>
    rw [walk_eq, blank_visiting, hc]
    exact h
  | case2 t ev pending hc f ha =>
    rw [walk_eq, blank_visiting, hc]
    simp only [ha]
    exact h
  | case3 t ev pending hc rel ha f hl =>
    rw [walk_eq, blank_visiting, hc]
    simp only [ha, ← enter_blank, lookup_blank_of_error hl]
    exact h
  | case4 => cases h
  | case5 t ev pending hc rel ha next u hl ih =>
    obtain ⟨rfl, -⟩ := lookup_relative hl
    rw [walk_eq, blank_visiting, hc]
    simp only [ha, ← enter_blank, lookup_blank_of_relative hl]
    exact ih h

/-! ## Settling the entered events -/

/-- The date a relative event falls on, given the date of its anchor: its distance later, if
the date exists; an event counted from an anchor that does not occur does not occur either. -/
def shift (rel : Relative) : Option Date → Except Fault (Option Date)
  | none => .ok none
  | some d => ((d.addDays? rel.offset).map some).mapError .date

/-- The date of the last of the entered events, adding their distances from the innermost one
out, starting from the date their walk found. -/
def settleValue : List Definition → Option Date → Except Fault (Option Date)
  | [], d => .ok d
  | ev :: rest, d => (shiftBy ev d).bind (settleValue rest)

@[simp] theorem shift_none (rel : Relative) : shift rel none = .ok none := rfl

@[simp] theorem shiftBy_none (ev : Definition) : shiftBy ev none = .ok none := rfl

theorem shift_some (rel : Relative) (d : Date) :
    shift rel (some d) =
      match d.addDays? rel.offset with
      | .ok e => .ok (some e)
      | .error f => .error (.date f) := by
  simp only [shift, Except.map, Except.mapError]
  cases d.addDays? rel.offset <;> rfl

/-- An event that declares a distance is moved by it. -/
theorem shiftBy_of_anchorOf {ev : Definition} {rel : Relative} (ha : ev.anchorOf = .ok rel)
    (d : Option Date) : shiftBy ev d = shift rel d := by
  cases d with
  | none => rfl
  | some x =>
    simp only [shiftBy, ha, bind, Except.bind, shift, Functor.map, Except.map, Except.mapError]
    cases x.addDays? rel.offset <;> rfl

theorem settle_cons (t : AnchorTable) (ev : Definition) (rest : List Definition) (d : Option Date) :
    t.settle (ev :: rest) d =
      match shiftBy ev d with
      | .ok e => (t.put (.name (normalizeName ev.id)) e).settle rest e
      | .error f => (t, .error f) := by
  rfl

/-- Settling computes `settleValue`. -/
theorem settle_snd (t : AnchorTable) (X : List Definition) (d : Option Date) :
    (t.settle X d).2 = settleValue X d := by
  induction X generalizing t d with
  | nil => rfl
  | cons ev rest ih =>
    rw [settle_cons, settleValue]
    cases shiftBy ev d with
    | ok e => exact ih _ e
    | error f => rfl

/-- Settling a list in two parts settles the inner part first. -/
theorem settleValue_append (X Y : List Definition) (d : Option Date) :
    settleValue (X ++ Y) d = (settleValue X d).bind (settleValue Y) := by
  induction X generalizing d with
  | nil => rfl
  | cons ev rest ih =>
    simp only [List.cons_append, settleValue]
    cases shiftBy ev d with
    | ok e => exact ih e
    | error f => rfl

/-- Settling one event is shifting by its distance. -/
@[simp] theorem settleValue_singleton (ev : Definition) (d : Option Date) :
    settleValue [ev] d = shiftBy ev d := by
  simp only [settleValue]
  cases shiftBy ev d <;> rfl

theorem settle_nil (t : AnchorTable) (d : Option Date) : t.settle [] d = (t, .ok d) := by
  rfl

/-- Settling keeps the stack and the environment. -/
theorem settle_table (t : AnchorTable) (X : List Definition) (d : Option Date) :
    (t.settle X d).1.visiting = t.visiting ∧ (t.settle X d).1.fresh = t.fresh := by
  induction X generalizing t d with
  | nil => simp [settle_nil]
  | cons ev rest ih =>
    rw [settle_cons]
    cases shiftBy ev d with
    | ok e => simpa using ih (t.put (.name (normalizeName ev.id)) e) e
    | error f => simp

/-- Settling events that each declare a distance fails only with a date off the calendar. -/
theorem settleValue_error {X : List Definition} (hX : ∀ m ∈ X, ∃ rel, m.anchorOf = .ok rel)
    {d : Option Date} {e : Fault} (h : settleValue X d = .error e) : ∃ f, e = .date f := by
  induction X generalizing d with
  | nil => cases h
  | cons ev rest ih =>
    obtain ⟨rel, ha⟩ := hX ev List.mem_cons_self
    simp only [settleValue, shiftBy_of_anchorOf ha] at h
    cases hs : shift rel d with
    | error e' =>
      rw [hs] at h
      cases h
      cases d with
      | none => cases hs
      | some x =>
        rw [shift_some] at hs
        split at hs
        · cases hs
        · cases hs
          exact ⟨_, rfl⟩
    | ok v =>
      rw [hs] at h
      exact ih (fun m hm => hX m (List.mem_cons_of_mem ev hm)) h

/-- The date a walk settles to: the date it found, moved by the distances of the events it
entered, the innermost first. -/
def Walked.settled (w : Walked) : Except Fault (Option Date) := w.found.bind (settleValue w.pending)

/-- Settling a walk with more events behind it settles those last. -/
theorem Walked.settled_append (w : Walked) (Y : List Definition) :
    ({ w with pending := w.pending ++ Y } : Walked).settled = w.settled.bind (settleValue Y) := by
  obtain ⟨X, u, found⟩ := w
  cases found with
  | error e => rfl
  | ok d => exact settleValue_append X Y d

/-! ## Walks from relative events in the fresh table -/

/-- The walk from a relative event in the fresh table. -/
def chainWalk (t : AnchorTable) (ev : Definition) : Walked := t.fresh.walk ev []

/-- The date a fresh table resolves a relative event to: its walk, settled. -/
def chainDate (t : AnchorTable) (ev : Definition) : Except Fault (Option Date) :=
  (t.chainWalk ev).settled

/-- The anchor of a relative event resolves to `d` in the fresh table: it is found as that date,
or it is a relative event that resolves to `d`. -/
def Lands (t : AnchorTable) (ev : Definition) (d : Option Date) : Prop :=
  t.link ev = .ok (.date d) ∨ ∃ k, t.link ev = .ok (.relative k) ∧ t.chainDate k = .ok d

/-- The first step of a walk in the fresh table finds the event's link. -/
theorem fresh_enter_lookup (t : AnchorTable) {ev : Definition} {rel : Relative}
    (ha : ev.anchorOf = .ok rel) :
    ((t.fresh.enter ev.id).lookup rel.anchor (some ev.id)).map Prod.fst = t.link ev := by
  rw [lookup_fst_of_blank ha rfl]
  rfl

/-- A link that is found declares a distance. -/
theorem anchorOf_of_link {t : AnchorTable} {ev : Definition} {f : Found} (h : t.link ev = .ok f) :
    ∃ rel, ev.anchorOf = .ok rel := by
  cases ha : ev.anchorOf with
  | error e => simp [link, ha, Except.bind] at h
  | ok rel => exact ⟨rel, rfl⟩

/-- The walk from an event whose anchor is found as a date stops there. -/
theorem chainWalk_of_date {t : AnchorTable} {ev : Definition} {d : Option Date}
    (h : t.link ev = .ok (.date d)) : ∃ u, t.chainWalk ev = ⟨[ev], u, .ok d⟩ := by
  obtain ⟨rel, ha⟩ := anchorOf_of_link h
  have hl := fresh_enter_lookup t ha
  rw [h] at hl
  obtain ⟨⟨f, u⟩, hlk, hf⟩ := Except.map_eq_ok.mp hl
  subst hf
  exact ⟨u, walk_of_lookup_date (by simp) ha hlk⟩

/-- The walk from an event whose anchor is another relative event goes on with that event's own
walk, whenever that walk succeeds: the own walk never comes back to the event, so the extra entry
on the stack changes nothing. -/
theorem chainWalk_of_relative {t : AnchorTable} {ev k : Definition} {d0 : Option Date}
    {X : List Definition} {u : AnchorTable} (hn : Canonical t ev) (h : t.link ev = .ok (.relative k))
    (hk : t.chainWalk k = ⟨X, u, .ok d0⟩) : ∃ u', t.chainWalk ev = ⟨X ++ [ev], u', .ok d0⟩ := by
  obtain ⟨rel, ha, -⟩ := hn.anchorOf
  have hl := fresh_enter_lookup t ha
  rw [h] at hl
  obtain ⟨⟨f, u1⟩, hlk, hf⟩ := Except.map_eq_ok.mp hl
  subst hf
  obtain ⟨rfl, -, -, hkc⟩ := lookup_relative hlk
  have hkc : Canonical t k := hkc.congr rfl
  have hkw := walk_eq_ok_iff.mp hk
  have hback := hkw.no_back_link rfl
  have hXc := hkw.canonical (hkc.congr rfl)
  have hnX : ∀ m ∈ X, m.id ∉ [ev.id] := by
    intro m hm hmn
    have hm_eq : m = ev := (hXc m hm).eq (hn.congr rfl) (by simpa using hmn)
    subst hm_eq
    have := hback m hm k (by rw [link_congr (fresh_fresh t)]; exact h)
    simp at this
  have hframe := walk_eq_ok_iff.mpr (hkw.frame [ev.id] hnX)
  refine ⟨{ u with visiting := [ev.id] ++ (X.map (·.id)).reverse }, ?_⟩
  rw [chainWalk, walk_of_lookup_relative (by simp) ha hlk, walk_pending,
    show t.fresh.enter ev.id = { t.fresh with visiting := [ev.id] } from rfl, hframe]

/-- An event whose anchor lands on `d` is walked successfully, and settles to its distance from
`d`. -/
theorem chainWalk_of_lands {t : AnchorTable} {ev : Definition} {d : Option Date}
    (hn : Canonical t ev) (h : Lands t ev d) :
    ∃ X d0 u, t.chainWalk ev = ⟨X, u, .ok d0⟩ ∧ settleValue X d0 = shiftBy ev d := by
  rcases h with h | ⟨k, hl, hk⟩
  · obtain ⟨u, hw⟩ := chainWalk_of_date h
    exact ⟨[ev], d, u, hw, settleValue_singleton ev d⟩
  · cases hw : t.chainWalk k with
    | mk X u found =>
      rw [chainDate, hw] at hk
      cases found with
      | error e => cases hk
      | ok d0 =>
        obtain ⟨u', hw'⟩ := chainWalk_of_relative hn hl hw
        refine ⟨X ++ [ev], d0, u', hw', ?_⟩
        rw [settleValue_append, show settleValue X d0 = .ok d from hk]
        simp only [Except.bind, settleValue_singleton]

/-- Walks from a relative event depend on the environment only. -/
theorem chainWalk_congr {t u : AnchorTable} (h : t.fresh = u.fresh) : t.chainWalk = u.chainWalk := by
  funext ev
  simp only [chainWalk, h]

/-- Resolution through the fresh table depends on the environment only. -/
theorem chainDate_congr {t u : AnchorTable} (h : t.fresh = u.fresh) : t.chainDate = u.chainDate := by
  funext ev
  simp only [chainDate, chainWalk_congr h]

/-- Landing depends on the environment only. -/
theorem Lands.congr {t u : AnchorTable} {ev : Definition} {d : Option Date}
    (h : Lands t ev d) (hf : t.fresh = u.fresh) : Lands u ev d := by
  rw [Lands, ← link_congr hf, ← chainDate_congr hf]
  exact h

end AnchorTable

end Almanac
