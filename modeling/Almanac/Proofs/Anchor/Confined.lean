import Almanac.Proofs.Calendar.Supported
import Almanac.Proofs.Anchor.Memo

/-!
# Confining the faults of an anchor table

Which faults an anchor table can meet is decided by a few facts about its year and its
definitions (`AnchorTable.Confined`). The table raises cycles and unknown anchors itself. It
computes the feasts of its year and the dates its fixed and rule definitions declare. It takes
the keys of the anchors its relative definitions count from, and adds distances to dates. Every
lookup, walk and resolution stays within a class of faults that admits all of these
(`AnchorTable.resolve_confined`), and so does dating a definition in an expansion
(`Expansion.dateOf_confined`).
-/

namespace Almanac

/-- Every fault of a computation lies in the class `S`. -/
def Except.FaultsIn {α : Type} (S : Fault → Prop) (x : Except Fault α) : Prop :=
  ∀ f, x = .error f → S f

namespace Except.FaultsIn

variable {α β : Type} {S : Fault → Prop}

theorem ok (a : α) : Except.FaultsIn S (Except.ok a : Except Fault α) := fun _ h => nomatch h

theorem error {f : Fault} (h : S f) : Except.FaultsIn S (Except.error f : Except Fault α) := by
  intro g hg
  cases hg
  exact h

theorem bind {x : Except Fault α} {g : α → Except Fault β} (hx : Except.FaultsIn S x)
    (hg : ∀ a, x = .ok a → Except.FaultsIn S (g a)) : Except.FaultsIn S (x.bind g) := by
  intro f hf
  cases hxe : x with
  | error e =>
    rw [hxe] at hf
    cases hf
    exact hx f hxe
  | ok a =>
    rw [hxe] at hf
    exact hg a hxe f hf

theorem map {x : Except Fault α} (hx : Except.FaultsIn S x) (g : α → β) :
    Except.FaultsIn S (x.map g) := by
  intro f hf
  cases hxe : x with
  | error e =>
    rw [hxe] at hf
    cases hf
    exact hx f hxe
  | ok a =>
    rw [hxe] at hf
    cases hf

end Except.FaultsIn

namespace AnchorTable

/-- The definition of a key is one of the table's definitions. -/
theorem definition?_mem {t : AnchorTable} {key : AnchorRef} {ev : Definition}
    (h : t.definition? key = some ev) : ev ∈ t.definitions := by
  cases key with
  | name s => exact List.mem_of_find?_eq_some h
  | other v => cases h

/-- The declared dates depend on the year and the leap-day policy only. -/
theorem resolveDeclared_congr {t u : AnchorTable} (h : u.fresh = t.fresh) :
    u.resolveDeclared = t.resolveDeclared := by
  have hy : u.year = t.year := by rw [← fresh_year u, h, fresh_year]
  have hl : u.leapDay = t.leapDay := by rw [← fresh_leapDay u, h, fresh_leapDay]
  funext ev decl
  cases decl <;> simp only [resolveDeclared, hy, hl]

/-- A reference fails to become a key only when it is a value that cannot be one. -/
theorem keyOf_faultsIn {S : Fault → Prop} {ref : AnchorRef}
    (hS : ∀ v, ref = .other v → v.isHashable = false → S (.unhashable v.typeName)) :
    Except.FaultsIn S (keyOf ref) := by
  cases ref with
  | name s => exact Except.FaultsIn.ok _
  | other v =>
    simp only [keyOf]
    split
    · exact Except.FaultsIn.ok _
    · rename_i hv
      exact Except.FaultsIn.error (hS v rfl (by simpa using hv))

/-- The faults a table can meet lie in the class `S`: its year equals itself, `S` admits the
cycles, unknown anchors and dates off the calendar, and the feasts of the year, the dates its
definitions declare, their malformed declarations and the keys of their anchors fail within
`S`. -/
structure Confined (S : Fault → Prop) (t : AnchorTable) : Prop where
  /-- The year equals itself, so relative events resolve in it. -/
  year : t.year.equals t.year = true
  /-- A cycle of references. -/
  cycle : ∀ chain, S (.problem { cause := .cycle chain })
  /-- A reference to an unknown anchor. -/
  unknown : ∀ rb ref, S (.problem { cause := .unknownAnchor rb ref })
  /-- A date moved off the calendar. -/
  offCalendar : ∀ g : DateFault, g.OffCalendar → S (.date g)
  /-- The feasts of the year. -/
  feast : ∀ f : Feast, Except.FaultsIn S (f.dateOf t.year)
  /-- The dates the fixed and rule definitions declare. -/
  declared : ∀ ev ∈ t.definitions, ∀ decl, ev.declaration? = .ok decl → decl.kind ≠ .relative →
    Except.FaultsIn S (t.resolveDeclared ev decl)
  /-- A definition that does not declare exactly one kind. -/
  malformed : ∀ ev ∈ t.definitions, ∀ ks, ev.declaration? = .error ks →
    S (.problem { cause := .malformed (.declarations ev.id ks) })
  /-- The keys of the anchors. -/
  anchor : ∀ ev ∈ t.definitions, ∀ rel, ev.declaration? = .ok (.relative rel) →
    Except.FaultsIn S (keyOf rel.anchor)

/-- Settling events that each declare a distance fails only with a date off the calendar. -/
theorem settleValue_confined {S : Fault → Prop} (hS : ∀ g : DateFault, g.OffCalendar → S (.date g))
    {X : List Definition} (hX : ∀ m ∈ X, ∃ rel, m.anchorOf = .ok rel) (d : Option Date) :
    Except.FaultsIn S (settleValue X d) := by
  induction X generalizing d with
  | nil => exact Except.FaultsIn.ok d
  | cons ev rest ih =>
    obtain ⟨rel, ha⟩ := hX ev List.mem_cons_self
    refine Except.FaultsIn.bind ?_ fun e _ => ih (fun m hm => hX m (List.mem_cons_of_mem ev hm)) e
    rw [shiftBy_of_anchorOf ha]
    cases d with
    | none => exact Except.FaultsIn.ok none
    | some x =>
      rw [shift_some]
      split
      · exact Except.FaultsIn.ok _
      · rename_i f hf
        exact Except.FaultsIn.error (hS f (Date.addDays?_error hf))

section Confined

variable {S : Fault → Prop} {t : AnchorTable} (ht : t.Confined S)
include ht

/-- Being confined does not depend on what a table has recorded or entered. -/
theorem Confined.of_fresh {u : AnchorTable} (h : u.fresh = t.fresh) : u.Confined S := by
  have hy : u.year = t.year := by rw [← fresh_year u, h, fresh_year]
  have hd : u.definitions = t.definitions := by rw [← fresh_definitions u, h, fresh_definitions]
  refine ⟨hy ▸ ht.year, ht.cycle, ht.unknown, ht.offCalendar, hy ▸ ht.feast, ?_,
    hd ▸ ht.malformed, hd ▸ ht.anchor⟩
  rw [hd, resolveDeclared_congr h]
  exact ht.declared

/-- A lookup meets only faults of the class, given the key of the reference does. -/
theorem lookup_confined {ref : AnchorRef} (href : Except.FaultsIn S (keyOf ref))
    (rb : Option String) : Except.FaultsIn S (t.lookup ref rb) := by
  unfold lookup
  refine Except.FaultsIn.bind href fun key _ => ?_
  cases t.recorded? key with
  | some d => exact Except.FaultsIn.ok _
  | none =>
    simp only
    split
    · rename_i f _
      exact Except.FaultsIn.bind (ht.feast f) fun _ _ => Except.FaultsIn.ok _
    · split
      · rename_i ev hev
        have hmem := definition?_mem hev
        split
        · rename_i ks hks
          exact Except.FaultsIn.error (ht.malformed ev hmem ks hks)
        · exact Except.FaultsIn.ok _
        · rename_i decl hrel hdecl
          refine Except.FaultsIn.bind (ht.declared ev hmem decl hdecl ?_) fun _ _ =>
            Except.FaultsIn.ok _
          cases decl with
          | relative rel => exact absurd rfl (hrel rel)
          | _ => simp [Declaration.kind]
      · exact Except.FaultsIn.error (ht.unknown _ _)

/-- A walk from a relative event as a lookup finds it meets only faults of the class: each event
it enters is a definition of the table that declares a distance. -/
theorem walk_confined {ev : Definition} (hc : Canonical t ev) (pending : List Definition) :
    Except.FaultsIn S (t.walk ev pending).found := by
  fun_induction t.walk ev pending with
  | case1 => exact Except.FaultsIn.error (ht.cycle _)
  | case2 t ev pending hcy f ha =>
    obtain ⟨rel, ha', -⟩ := hc.anchorOf
    rw [ha'] at ha
    cases ha
  | case3 t ev pending hcy rel ha f hl =>
    obtain ⟨rel', ha', hrel⟩ := hc.anchorOf
    obtain rfl : rel' = rel := Except.ok.inj (ha'.symm.trans ha)
    have hte : (t.enter ev.id).Confined S := ht.of_fresh (enter_fresh t ev.id)
    exact Except.FaultsIn.error (lookup_confined hte
      (ht.anchor ev (List.mem_of_find?_eq_some hc.found) rel' hrel) (some ev.id) f hl)
  | case4 => exact Except.FaultsIn.ok _
  | case5 t ev pending hcy rel ha next u hl ih =>
    obtain ⟨rfl, -, -, hcn⟩ := lookup_relative hl
    exact ih (ht.of_fresh (enter_fresh t ev.id)) hcn

/-- Resolving a relative event as a lookup finds it, in the table's own year, meets only faults
of the class: the year and the kind checks pass, and the events entered are left in step. -/
theorem resolveRelative_confined {ev : Definition} (hc : Canonical t ev) :
    Except.FaultsIn S (t.resolveRelative ev t.year).2 := by
  obtain ⟨rel, -, hrel⟩ := hc.anchorOf
  cases hrec : t.recorded? (.name (normalizeName ev.id)) with
  | some d =>
    rw [resolveRelative_of_recorded ht.year hrel hrec]
    exact Except.FaultsIn.ok _
  | none =>
    rw [resolveRelative_of_walk ht.year hrel hrec]
    cases hw : t.walk ev [] with
    | mk X u found =>
      have hf := walk_confined ht hc []
      rw [hw] at hf
      cases found with
      | error f => exact Except.FaultsIn.error (hf f rfl)
      | ok d =>
        simp only
        rw [settle_snd]
        exact settleValue_confined ht.offCalendar (walk_eq_ok_iff.mp hw).anchorOf d

/-- Resolving a reference meets only faults of the class, given its key does. -/
theorem resolve_confined {ref : AnchorRef} (href : Except.FaultsIn S (keyOf ref))
    (rb : Option String) : Except.FaultsIn S (t.resolve ref rb).2 := by
  cases hl : t.lookup ref rb with
  | error e =>
    rw [resolve_of_lookup_error hl]
    exact Except.FaultsIn.error (lookup_confined ht href rb e hl)
  | ok r =>
    obtain ⟨found, u⟩ := r
    cases found with
    | date d =>
      rw [resolve_of_lookup_date hl]
      exact Except.FaultsIn.ok d
    | relative ev =>
      rw [resolve_of_lookup_relative hl]
      obtain ⟨rfl, -, -, hc⟩ := lookup_relative hl
      exact resolveRelative_confined ht hc

end Confined

end AnchorTable

namespace Expansion

/-- Dating a definition in a confined table meets only faults of the class, given the class
admits the refusal of an id that names a feast, should it do so. -/
theorem dateOf_confined {S : Fault → Prop} {t : AnchorTable} (ht : t.Confined S) {ev : Definition}
    (hres : isFeastName ev.id = true → S (reservedFault ev.id)) :
    Except.FaultsIn S (dateOf t ev).2 := by
  unfold dateOf
  split
  · rename_i h
    exact Except.FaultsIn.error (hres h)
  · exact AnchorTable.resolve_confined ht (Except.FaultsIn.ok _) _

end Expansion

end Almanac
