import Almanac.Proofs.Expansion.Faults

/-!
# Loading a dataset

A catalog built from definitions and listed countries (`Catalog.ofDefinitions`) gives each code
the definitions with that country code, in dataset order (`ofDefinitions_eventsFor`). Its
countries are the listed ones, followed by each code that has definitions and is not listed,
named by itself, in strictly increasing order (`ofDefinitions_countries`).

A dataset that loads was read record by record. Each record made a definition, no id came
twice, and no definition has an id that names a feast or declares other than exactly one kind.
So no expansion of a loaded catalog meets a malformed definition (`load_invariants`).
-/

namespace Almanac

/-- A bind succeeds exactly when both of its steps do. -/
theorem Except.bind_eq_ok {ε α β : Type} {x : Except ε α} {f : α → Except ε β} {b : β} :
    x >>= f = .ok b ↔ ∃ a, x = .ok a ∧ f a = .ok b := by
  cases x with
  | error e => simp [bind, Except.bind]
  | ok a => simp [bind, Except.bind]

/-- A traversal that succeeds pairs every item with its result. -/
theorem List.mapM_ok_forall₂ {ε α β : Type} {f : α → Except ε β} {l : List α} {bs : List β}
    (h : l.mapM f = .ok bs) : List.Forall₂ (fun a b => f a = .ok b) l bs := by
  induction l generalizing bs with
  | nil =>
    rw [List.mapM_nil] at h
    cases h
    exact .nil
  | cons a l ih =>
    rw [List.mapM_cons] at h
    obtain ⟨b, hb, h⟩ := Except.bind_eq_ok.mp h
    obtain ⟨bs', hbs, h⟩ := Except.bind_eq_ok.mp h
    cases h
    exact .cons hb (ih hbs)

namespace Catalog

/-! ## Grouping by country -/

/-- Adding a definition to its group appends it to the group of its code and leaves the other
groups as they were. -/
theorem find?_addToGroup (groups : List (String × List Definition)) (ev : Definition)
    (code : String) :
    ((addToGroup groups ev).find? (·.1 == code)).map (·.2) =
      if ev.country = code then some ((((groups.find? (·.1 == code)).map (·.2)).getD []) ++ [ev])
      else (groups.find? (·.1 == code)).map (·.2) := by
  unfold addToGroup
  split
  · rename_i hany
    have hkey : ((·.1 == code) ∘ fun g : String × List Definition =>
        if g.1 == ev.country then (g.1, g.2 ++ [ev]) else g) = (·.1 == code) := by
      funext g
      simp only [Function.comp]
      split <;> rfl
    rw [List.find?_map, hkey]
    cases hf : groups.find? (·.1 == code) with
    | none =>
      have hc : ev.country ≠ code := by
        rintro rfl
        obtain ⟨g, hg, he⟩ := List.any_eq_true.mp hany
        exact List.find?_eq_none.mp hf g hg he
      simp [hc]
    | some g =>
      have hg : g.1 = code := by simpa using List.find?_some hf
      by_cases hc : ev.country = code
      · simp [hc, hg]
      · have hc' : ¬code = ev.country := fun h => hc h.symm
        simp [hc, hc', hg]
  · rename_i hany
    rw [List.find?_append]
    cases hf : groups.find? (·.1 == code) with
    | none => by_cases hc : ev.country = code <;> simp [hc]
    | some g =>
      have hg : g.1 = code := by simpa using List.find?_some hf
      have hc : ev.country ≠ code := by
        rintro rfl
        exact hany (List.any_eq_true.mpr ⟨g, List.mem_of_find?_eq_some hf, by simp [hg]⟩)
      simp [hc]

/-- Grouping definitions appends those of each code to its group, in order. -/
theorem group_foldl (defs : List Definition) (groups : List (String × List Definition))
    (code : String) :
    (((defs.foldl addToGroup groups).find? (·.1 == code)).map (·.2)).getD [] =
      (((groups.find? (·.1 == code)).map (·.2)).getD []) ++ defs.filter (·.country == code) := by
  induction defs generalizing groups with
  | nil => simp
  | cons ev rest ih =>
    rw [List.foldl_cons, ih, find?_addToGroup]
    by_cases hc : ev.country = code <;> simp [hc]

/-- The events of a code are the definitions with that country code, in order. -/
theorem ofDefinitions_eventsFor (defs : List Definition) (listed : List Country) (code : String) :
    (ofDefinitions defs listed).eventsFor code = defs.filter (·.country == code) := by
  simp only [ofDefinitions, eventsFor]
  rw [group_foldl]
  simp

/-- Adding a definition adds its country's code to the codes, unless it is there already. -/
theorem codes_addToGroup (groups : List (String × List Definition)) (ev : Definition) :
    (addToGroup groups ev).map (·.1) =
      if ev.country ∈ groups.map (·.1) then groups.map (·.1)
      else groups.map (·.1) ++ [ev.country] := by
  unfold addToGroup
  split
  · rename_i hany
    have hmem : ev.country ∈ groups.map (·.1) := by
      obtain ⟨g, hg, he⟩ := List.any_eq_true.mp hany
      exact List.mem_map.mpr ⟨g, hg, by simpa using he⟩
    rw [if_pos hmem, List.map_map]
    congr 1
    funext g
    simp only [Function.comp]
    split <;> rfl
  · rename_i hany
    have hmem : ev.country ∉ groups.map (·.1) := by
      intro hm
      obtain ⟨g, hg, he⟩ := List.mem_map.mp hm
      exact hany (List.any_eq_true.mpr ⟨g, hg, by simp [he]⟩)
    simp [hmem]

/-- Grouping keeps the codes distinct, and adds the country codes of the definitions. -/
theorem codes_foldl (defs : List Definition) {groups : List (String × List Definition)}
    (hnd : (groups.map (·.1)).Nodup) :
    ((defs.foldl addToGroup groups).map (·.1)).Nodup ∧
      ∀ k, k ∈ (defs.foldl addToGroup groups).map (·.1) ↔
        k ∈ groups.map (·.1) ∨ ∃ ev ∈ defs, ev.country = k := by
  induction defs generalizing groups with
  | nil => simp [hnd]
  | cons ev rest ih =>
    have hstep : ((addToGroup groups ev).map (·.1)).Nodup ∧
        ∀ k, k ∈ (addToGroup groups ev).map (·.1) ↔ k ∈ groups.map (·.1) ∨ ev.country = k := by
      rw [codes_addToGroup]
      split
      · rename_i hmem
        refine ⟨hnd, fun k => ⟨.inl, ?_⟩⟩
        rintro (hk | rfl)
        · exact hk
        · exact hmem
      · rename_i hmem
        refine ⟨List.nodup_append.mpr ⟨hnd, List.nodup_singleton _, ?_⟩, fun k => ?_⟩
        · simp only [List.mem_singleton]
          rintro a ha b rfl rfl
          exact hmem ha
        · simp [eq_comm]
    obtain ⟨hnd', hmem'⟩ := ih hstep.1
    refine ⟨hnd', fun k => ?_⟩
    rw [List.foldl_cons, hmem', hstep.2]
    simp only [List.mem_cons, exists_eq_or_imp]
    tauto

/-- The countries of a catalog: the listed ones, then each code with definitions that is not
listed, named by itself, in strictly increasing order. -/
theorem ofDefinitions_countries (defs : List Definition) (listed : List Country) :
    ∃ extra : List String,
      (ofDefinitions defs listed).countries = listed ++ extra.map (fun k => ⟨k, k⟩) ∧
      extra.Pairwise (· < ·) ∧
      ∀ k, k ∈ extra ↔ (∃ ev ∈ defs, ev.country = k) ∧ k ∉ listed.map (·.code) := by
  obtain ⟨hnd, hmem⟩ := @codes_foldl defs [] List.nodup_nil
  refine ⟨_, rfl, ?_, fun k => ?_⟩
  · have hsorted := @List.pairwise_mergeSort String (fun a b => decide (a ≤ b))
      (fun a b c hab hbc => by simp only [decide_eq_true_eq] at *; exact le_trans hab hbc)
      (fun a b => by simpa using le_total a b) ((defs.foldl addToGroup []).map (·.1))
    have hnd' := (List.mergeSort_perm ((defs.foldl addToGroup []).map (·.1))
      fun a b => decide (a ≤ b)).nodup_iff.mpr hnd
    refine List.Pairwise.filter _ ((hsorted.and hnd').imp ?_)
    rintro a b ⟨hab, hne⟩
    exact lt_of_le_of_ne (by simpa using hab) hne
  · simp [hmem]

end Catalog

/-! ## Reading records -/

/-- An id read from a record names no feast. -/
theorem Record.idOf_ok {rec : Value} {id : String} (h : Record.idOf rec = .ok id) :
    isFeastName id = false := by
  unfold Record.idOf at h
  split at h
  · split at h
    · cases h
    · split at h
      · cases h
      · rename_i hfeast
        cases h
        simpa using hfeast
  · cases h
  · cases h

/-- A definition with a single kind declares it. -/
theorem Definition.declaration?_of_kind? {ev : Definition} {k : Kind} (h : ev.kind? = .ok k) :
    ∃ d, ev.declaration? = .ok d := by
  unfold Definition.kind? Definition.declared at h
  unfold Definition.declaration?
  cases hf : ev.fixed <;> cases hr : ev.rule <;> cases hl : ev.relative <;>
    simp [hf, hr, hl] at h ⊢

/-- A definition read from a record has an id that names no feast, and declares exactly one
kind. -/
theorem Record.toDefinition_ok {rec : Value} {ev : Definition} (h : Record.toDefinition rec = .ok ev) :
    isFeastName ev.id = false ∧ ∃ d, ev.declaration? = .ok d := by
  unfold Record.toDefinition at h
  obtain ⟨id, hid, h⟩ := Except.bind_eq_ok.mp h
  iterate 8 obtain ⟨_, -, h⟩ := Except.bind_eq_ok.mp h
  dsimp only at h
  split at h
  · rename_i k hk
    cases h
    exact ⟨Record.idOf_ok hid, Definition.declaration?_of_kind? hk⟩
  · cases h

namespace Catalog

/-- Reading records makes a definition of each, with distinct ids none of which was read
before, and each with an id that names no feast and exactly one kind declared. -/
theorem readDefinitions_ok {records : List Value} {seen : List String} {defs : List Definition}
    (h : readDefinitions records seen = .ok defs) :
    List.Forall₂ (fun r ev => Record.toDefinition r = .ok ev) records defs ∧
      (defs.map (·.id)).Nodup ∧ (∀ ev ∈ defs, ev.id ∉ seen) ∧
      ∀ ev ∈ defs, isFeastName ev.id = false ∧ ∃ d, ev.declaration? = .ok d := by
  induction records generalizing seen defs with
  | nil =>
    cases h
    exact ⟨.nil, List.nodup_nil, by simp, by simp⟩
  | cons r rest ih =>
    simp only [readDefinitions] at h
    obtain ⟨ev, hev, h⟩ := Except.bind_eq_ok.mp h
    split at h
    · obtain ⟨_, h, -⟩ := Except.bind_eq_ok.mp h
      cases h
    rename_i hfresh
    obtain ⟨more, hmore, h⟩ := Except.bind_eq_ok.mp h
    cases h
    obtain ⟨h₂, hnd, hout, hwell⟩ := ih hmore
    refine ⟨.cons hev h₂, List.nodup_cons.mpr ⟨fun hm => ?_, hnd⟩, fun e he => ?_, fun e he => ?_⟩
    · obtain ⟨e, he, hid⟩ := List.mem_map.mp hm
      exact hout e he (hid ▸ List.mem_cons_self)
    · rcases List.mem_cons.mp he with rfl | he
      · simpa using hfresh
      · exact fun hs => hout e he (List.mem_cons_of_mem _ hs)
    · rcases List.mem_cons.mp he with rfl | he
      · exact Record.toDefinition_ok hev
      · exact hwell e he

/-- A dataset that loads is a record whose events read to definitions and whose countries each
have a code and a name; the catalog groups the definitions and lists the countries. -/
theorem load_ok {raw : Value} {c : Catalog} (h : load raw = .ok c) :
    ∃ records defs countryRecords listed,
      (raw.fieldD "events" (.list [])).members = .ok records ∧
      readDefinitions records [] = .ok defs ∧
      (raw.fieldD "countries" (.list [])).members = .ok countryRecords ∧
      List.Forall₂ (fun r k => ∃ code name, r.index "code" = .ok code ∧
        r.index "name" = .ok name ∧ k = ⟨code.text, name.text⟩) countryRecords listed ∧
      c = ofDefinitions defs listed := by
  unfold load at h
  split at h
  swap
  · obtain ⟨_, h, -⟩ := Except.bind_eq_ok.mp h
    cases h
  dsimp only at h
  obtain ⟨records, hrec, h⟩ := Except.bind_eq_ok.mp h
  obtain ⟨defs, hdefs, h⟩ := Except.bind_eq_ok.mp h
  obtain ⟨countryRecords, hcr, h⟩ := Except.bind_eq_ok.mp h
  obtain ⟨listed, hlisted, h⟩ := Except.bind_eq_ok.mp h
  cases h
  refine ⟨records, defs, countryRecords, listed, hrec, hdefs, hcr,
    List.Forall₂.imp (fun r k hk => ?_) (List.mapM_ok_forall₂ hlisted), rfl⟩
  obtain ⟨code, hcode, hk⟩ := Except.bind_eq_ok.mp hk
  obtain ⟨name, hname, hk⟩ := Except.bind_eq_ok.mp hk
  cases hk
  exact ⟨code, name, hcode, hname, rfl⟩

end Catalog

/-- What a loaded catalog holds. Its definitions are read from the dataset's event records, one
for each, in order. Their ids are distinct, and none names a feast or declares other than
exactly one kind. The listed countries are read from the country records, in order. Each
code's events are the definitions with that country code, in order. The countries are the
listed ones followed by each code with definitions that is not listed, named by itself, in
increasing order. No expansion, for any country, year or options, ends with or warns of a
malformed definition. -/
theorem load_invariants {raw : Value} {c : Catalog} (h : Catalog.load raw = .ok c) :
    ∃ (records : List Value) (defs : List Definition) (countryRecords : List Value)
        (listed : List Country) (extra : List String),
      (raw.fieldD "events" (.list [])).members = .ok records ∧
      List.Forall₂ (fun r ev => Record.toDefinition r = .ok ev) records defs ∧
      (defs.map (·.id)).Nodup ∧
      (∀ ev ∈ defs, isFeastName ev.id = false ∧ ∃ d, ev.declaration? = .ok d) ∧
      (raw.fieldD "countries" (.list [])).members = .ok countryRecords ∧
      List.Forall₂ (fun r k => ∃ code name, r.index "code" = .ok code ∧
        r.index "name" = .ok name ∧ k = ⟨code.text, name.text⟩) countryRecords listed ∧
      (∀ code, c.eventsFor code = defs.filter (·.country == code)) ∧
      c.countries = listed ++ extra.map (fun k => ⟨k, k⟩) ∧ extra.Pairwise (· < ·) ∧
      (∀ k, k ∈ extra ↔ (∃ ev ∈ defs, ev.country = k) ∧ k ∉ listed.map (·.code)) ∧
      ∀ config country yearValue,
        Except.FaultsIn (fun f => f.kind ≠ .malformed) (c.expand config country yearValue).2 ∧
        ∀ R, (c.expand config country yearValue).2 = .ok R →
          ∀ w ∈ R.warnings, (Fault.problem w.problem).kind ≠ .malformed := by
  obtain ⟨records, defs, countryRecords, listed, hrec, hdefs, hcr, hlisted, rfl⟩ :=
    Catalog.load_ok h
  obtain ⟨hread, hnd, -, hwell⟩ := Catalog.readDefinitions_ok hdefs
  obtain ⟨extra, hcountries, hsorted, hextra⟩ := Catalog.ofDefinitions_countries defs listed
  have hevents := Catalog.ofDefinitions_eventsFor defs listed
  refine ⟨records, defs, countryRecords, listed, extra, hrec, hread, hnd, hwell, hcr, hlisted,
    hevents, hcountries, hsorted, hextra, expand_not_malformed _ fun code ev hev => ?_⟩
  rw [hevents] at hev
  exact hwell ev (List.mem_filter.mp hev).1

/-- A dataset that lists Trinidad and Tobago and defines Good Friday and Easter Monday for
Barbados only. -/
def barbadosDataset : Value :=
  .record [("events", .list [
      .record [("id", .str "good-friday"), ("country_code", .str "BB"), ("category", .str "cultural"),
        ("relative_to", .str "easter"), ("offset_days", .int (-2))],
      .record [("id", .str "easter-monday"), ("country_code", .str "BB"),
        ("category", .str "cultural"), ("relative_to", .str "easter"), ("offset_days", .int 1)]]),
    ("countries", .list [.record [("code", .str "TT"), ("name", .str "Trinidad and Tobago")]])]

/-- The Barbados dataset loads to a catalog that lists Barbados, named by its code, after the
listed Trinidad and Tobago, and what that catalog holds. -/
theorem load_invariants_barbados :
    ∃ c, Catalog.load barbadosDataset = .ok c ∧
      c.countries = [⟨"TT", "Trinidad and Tobago"⟩, ⟨"BB", "BB"⟩] ∧
      ∃ (records : List Value) (defs : List Definition) (countryRecords : List Value)
        (listed : List Country) (extra : List String),
        (barbadosDataset.fieldD "events" (.list [])).members = .ok records ∧
        List.Forall₂ (fun r ev => Record.toDefinition r = .ok ev) records defs ∧
        (defs.map (·.id)).Nodup ∧
        (∀ ev ∈ defs, isFeastName ev.id = false ∧ ∃ d, ev.declaration? = .ok d) ∧
        (barbadosDataset.fieldD "countries" (.list [])).members = .ok countryRecords ∧
        List.Forall₂ (fun r k => ∃ code name, r.index "code" = .ok code ∧
          r.index "name" = .ok name ∧ k = ⟨code.text, name.text⟩) countryRecords listed ∧
        (∀ code, c.eventsFor code = defs.filter (·.country == code)) ∧
        c.countries = listed ++ extra.map (fun k => ⟨k, k⟩) ∧ extra.Pairwise (· < ·) ∧
        (∀ k, k ∈ extra ↔ (∃ ev ∈ defs, ev.country = k) ∧ k ∉ listed.map (·.code)) ∧
        ∀ config country yearValue,
          Except.FaultsIn (fun f => f.kind ≠ .malformed) (c.expand config country yearValue).2 ∧
          ∀ R, (c.expand config country yearValue).2 = .ok R →
            ∀ w ∈ R.warnings, (Fault.problem w.problem).kind ≠ .malformed := by
  have hload : (match Catalog.load barbadosDataset with
      | .ok c => c.countries == [⟨"TT", "Trinidad and Tobago"⟩, ⟨"BB", "BB"⟩]
      | .error _ => false) = true := by
    decide +kernel
  cases h : Catalog.load barbadosDataset with
  | error f =>
    rw [h] at hload
    cases hload
  | ok c =>
    rw [h] at hload
    simp only [beq_iff_eq] at hload
    exact ⟨c, rfl, hload, load_invariants h⟩

end Almanac
