import Mathlib
import Almanac.Proofs.Catalog.Load

/-!
# Reading recurrence texts

`Rule.parse` reads a yearly recurrence text in one pass, dropping each named part once it has
been checked. This module states what it accepts without that machinery, as a map of named
parts and the conditions on it (`Rule.Accepts`):

* the body of the text (trimmed, without a leading `RRULE:`) is cut at every `;`; the pieces
  that are blank once trimmed are skipped, and every other piece is a name and a value split at
  its first `=`, both trimmed and upper-cased (`Rule.NamedPart`);
* a name given twice takes its last value (`Rule.lastValue`);
* that map must be yearly, with no interval but 1, a month numeral, a day part of the form
  `^([+-]?\d{1,2})?(MO|TU|WE|TH|FR|SA|SU)$` (`Rule.DayPart`), an ordinal from the day part or
  from a set position but not both, and no other name (`Rule.Accepted`).

`Rule.parseValue_accepts` shows that a text reads as a rule exactly when it satisfies these
conditions, that every other text is refused with a value error, and that the text
`Rule.format` writes reads back as the same rule.
-/

namespace Almanac

/-- Relabelling the fault of a computation leaves its result. -/
theorem Except.mapError_eq_ok_iff {ε ε' α : Type} (f : ε → ε') (x : Except ε α) (a : α) :
    x.mapError f = .ok a ↔ x = .ok a := by
  cases x <;> simp [Except.mapError]

namespace Rule

/-! ## The accepted texts -/

/-- The names a recurrence text may give. -/
def partNames : List String := ["FREQ", "INTERVAL", "WKST", "BYMONTH", "BYDAY", "BYSETPOS"]

/-- A day part as the pattern `^([+-]?\d{1,2})?(MO|TU|WE|TH|FR|SA|SU)$` reads it: an optional
ordinal of an optional sign and one or two decimal digits, then the code of weekday `w`;
`ordinal` is the ordinal's text, if there is one. A day part is trimmed, so the pattern's end
cannot match before a final line break. -/
def DayPart (cs : List Char) (ordinal : Option String) (w : Int) : Prop :=
  0 ≤ w ∧ w ≤ 6 ∧
    ((ordinal = none ∧ cs = (dayCode w).toList) ∨
      ∃ sign digits, (sign = [] ∨ sign = ['+'] ∨ sign = ['-']) ∧
        (digits.length = 1 ∨ digits.length = 2) ∧ (∀ c ∈ digits, Text.isDigit c) ∧
        cs = sign ++ digits ++ (dayCode w).toList ∧
        ordinal = some (String.ofList (sign ++ digits)))

/-- The text of the ordinal: the one of the day part, else a set position that is not empty,
else 1. -/
def ordinalLiteral : Option String → Option String → String
  | some t, _ => t
  | none, some p => if p.isEmpty then "1" else p
  | none, none => "1"

/-- What a map of named parts must hold to write rule `r`: `value` gives the value of a name,
and `named` tells the names given. -/
structure Accepted (value : String → Option String) (named : String → Prop) (r : Rule) :
    Prop where
  /-- The rule is yearly. -/
  yearly : value "FREQ" = some "YEARLY"
  /-- No interval other than 1. -/
  interval : value "INTERVAL" = none ∨ value "INTERVAL" = some "1"
  /-- No name outside the six a rule uses. -/
  known : ∀ k, named k → k ∈ partNames
  /-- The month is a numeral of the rule's month. -/
  month : ∃ t, value "BYMONTH" = some t ∧ Text.readInt? t = some r.month
  /-- The day part names the rule's weekday; the ordinal comes from it or from the set
  position, not from both, and reads as the rule's ordinal. -/
  day : ∃ t ordinal, value "BYDAY" = some t ∧ DayPart t.toList ordinal r.weekday ∧
    ¬ (ordinal.isSome ∧ (value "BYSETPOS").isSome) ∧
    Text.readInt? (ordinalLiteral ordinal (value "BYSETPOS")) = some r.ordinal.toInt

/-- A part `name=value` split at its first `=`: its name and its value, trimmed and upper-cased. -/
def NamedPart (item : List Char) (kv : String × String) : Prop :=
  ∃ name value, item = name ++ '=' :: value ∧ '=' ∉ name ∧
    kv = (Text.upper (String.ofList (Text.trimBlankList name)),
      Text.upper (String.ofList (Text.trimBlankList value)))

/-- The pieces of a body between its `;`, trimmed, without the empty ones. -/
def bodyItems (b : String) : List (List Char) :=
  ((b.toList.splitOn ';').map Text.trimBlankList).filter (· ≠ [])

/-- The value of the last part of a name: a later part overrides an earlier one. -/
def lastValue (ps : List (String × String)) (k : String) : Option String :=
  (ps.reverse.find? (·.1 == k)).map (·.2)

/-- The rules a recurrence text writes: its pieces are named parts, and the map they make holds
the rule. -/
def Accepts (text : String) (r : Rule) : Prop :=
  ∃ ps, List.Forall₂ NamedPart (bodyItems (body text)) ps ∧
    Accepted (lastValue ps) (· ∈ ps.map (·.1)) r

/-! ## Named parts -/

/-- A part splits at its first `=`, and only a part that has one. -/
theorem splitPart_eq_some_iff (item : String) (kv : String × String) :
    splitPart item = some kv ↔ NamedPart item.toList kv := by
  unfold splitPart NamedPart Text.trimBlank
  constructor
  · intro h
    split at h
    · exact absurd h nofun
    · rename_i c rest hdrop
      simp only [Option.some.injEq] at h
      subst h
      have hc : c = '=' := by
        have := List.head_dropWhile_not (· != '=') (l := item.toList) (by simp [hdrop])
        simpa [hdrop] using this
      subst hc
      refine ⟨item.toList.takeWhile (· != '='), rest, ?_, ?_, ?_⟩
      · rw [← hdrop, List.takeWhile_append_dropWhile]
      · intro hmem
        simpa using List.mem_takeWhile_imp hmem
      · simp only [String.toList_ofList]
  · rintro ⟨name, value, hitem, hname, rfl⟩
    have hpos : ∀ a ∈ name, (a != '=') = true := fun a ha => by
      simpa using ne_of_mem_of_not_mem ha hname
    simp [hitem, List.takeWhile_append_of_pos hpos, List.dropWhile_append_of_pos hpos]

/-- The same, for a part given by its characters. -/
theorem splitPart_ofList_eq_some_iff (item : List Char) (kv : String × String) :
    splitPart (String.ofList item) = some kv ↔ NamedPart item kv := by
  rw [splitPart_eq_some_iff, String.toList_ofList]

/-- A part has at most one split. -/
theorem NamedPart.unique {item : List Char} {kv kv' : String × String} (h : NamedPart item kv)
    (h' : NamedPart item kv') : kv = kv' := by
  rw [← splitPart_ofList_eq_some_iff] at h h'
  exact Option.some.inj (h.symm.trans h')

/-- Setting the named parts one after the other. -/
def setParts (acc ps : List (String × String)) : List (String × String) :=
  ps.foldl (fun a kv => setPart a kv.1 kv.2) acc

@[simp]
theorem setParts_nil (acc : List (String × String)) : setParts acc [] = acc := rfl

@[simp]
theorem setParts_cons (acc ps : List (String × String)) (kv : String × String) :
    setParts acc (kv :: ps) = setParts (setPart acc kv.1 kv.2) ps := rfl

/-- The named parts of a list of pieces are the splits of its pieces that are not blank, set
one after the other; a piece without `=` is a fault. -/
theorem namedParts_eq_ok_iff (text : String) (ls : List (List Char))
    (acc parts : List (String × String)) :
    namedParts text (ls.map String.ofList) acc = .ok parts ↔
      ∃ ps, List.Forall₂ NamedPart ((ls.map Text.trimBlankList).filter (· ≠ [])) ps ∧
        parts = setParts acc ps := by
  induction ls generalizing acc with
  | nil =>
    simp only [List.map_nil, List.filter_nil, List.forall₂_nil_left_iff, exists_eq_left]
    simp [namedParts, setParts, pure, Except.pure, eq_comm]
  | cons l ls ih =>
    simp only [List.map_cons, namedParts, Text.trimBlank, String.toList_ofList,
      String.isEmpty_iff, String.ofList_eq_empty_iff]
    by_cases hl : Text.trimBlankList l = []
    · rw [if_pos hl, List.filter_cons_of_neg (by simpa using hl), ih]
    · rw [if_neg hl, List.filter_cons_of_pos (by simpa using hl)]
      simp only [List.forall₂_cons_left_iff]
      cases hs : splitPart (String.ofList (Text.trimBlankList l)) with
      | none =>
        have hnone : ∀ kv, ¬ NamedPart (Text.trimBlankList l) kv := fun kv hkv => by
          rw [← splitPart_ofList_eq_some_iff, hs] at hkv
          cases hkv
        simp only [reduceCtorEq, false_iff]
        rintro ⟨_, ⟨kv, _, hkv, -, -⟩, -⟩
        exact hnone kv hkv
      | some kv =>
        have hkv : NamedPart (Text.trimBlankList l) kv := (splitPart_ofList_eq_some_iff _ _).1 hs
        simp only [ih]
        constructor
        · rintro ⟨ps, hps, rfl⟩
          exact ⟨kv :: ps, ⟨kv, ps, hkv, hps, rfl⟩, rfl⟩
        · rintro ⟨_, ⟨kv', ps, hkv', hps, rfl⟩, rfl⟩
          obtain rfl := hkv.unique hkv'
          exact ⟨ps, hps, rfl⟩

/-! ## The map of named parts -/

/-- Setting a part changes the value of its name and no other. -/
theorem lookupPart_setPart (ps : List (String × String)) (k v k' : String) :
    lookupPart (setPart ps k v) k' = if k = k' then some v else lookupPart ps k' := by
  unfold setPart lookupPart
  split
  · rename_i hany
    have hname : ((fun q : String × String => q.1 == k') ∘
        fun p : String × String => if p.1 == k then (k, v) else p) = (·.1 == k') := by
      funext p
      by_cases h : p.1 = k <;> simp [h]
    rw [List.find?_map, hname]
    cases hf : ps.find? (·.1 == k') with
    | none =>
      have : k ≠ k' := by
        rintro rfl
        obtain ⟨p, hp, hpk⟩ := List.any_eq_true.1 hany
        exact List.find?_eq_none.1 hf p hp hpk
      simp [this]
    | some p =>
      have hp : p.1 = k' := by simpa using List.find?_some hf
      by_cases hk : k = k'
      · simp [hp, hk]
      · simp [hp, hk, Ne.symm hk]
  · rename_i hany
    have hnone : ps.find? (·.1 == k) = none :=
      List.find?_eq_none.2 fun p hp hpk => hany (List.any_eq_true.2 ⟨p, hp, hpk⟩)
    by_cases hk : k = k'
    · subst hk
      simp [List.find?_append, hnone]
    · simp [List.find?_append, hk]

/-- The names of the parts after setting one. -/
theorem mem_setPart_names (ps : List (String × String)) (k v k' : String) :
    k' ∈ (setPart ps k v).map (·.1) ↔ k' = k ∨ k' ∈ ps.map (·.1) := by
  unfold setPart
  split
  · rename_i hany
    obtain ⟨p, hp, hpk⟩ := List.any_eq_true.1 hany
    have hk : k ∈ ps.map (·.1) := List.mem_map.2 ⟨p, hp, by simpa using hpk⟩
    have hsame : (ps.map fun p => if p.1 == k then (k, v) else p).map (·.1) = ps.map (·.1) := by
      rw [List.map_map]
      congr 1
      funext q
      by_cases h : q.1 = k <;> simp [h]
    rw [hsame]
    constructor
    · exact Or.inr
    · rintro (rfl | h)
      exacts [hk, h]
  · simp [or_comm]

/-- After setting parts a name has the value of its last part, else its old value. -/
theorem lookupPart_setParts (acc ps : List (String × String)) (k : String) :
    lookupPart (setParts acc ps) k = (lastValue ps k).or (lookupPart acc k) := by
  induction ps generalizing acc with
  | nil => simp [lastValue]
  | cons kv ps ih =>
    rw [setParts_cons, ih, lookupPart_setPart]
    by_cases h : kv.1 = k <;> simp [lastValue, List.find?_append, h]

/-- After setting parts the names are those of the parts and the old ones. -/
theorem mem_setParts_names (acc ps : List (String × String)) (k : String) :
    k ∈ (setParts acc ps).map (·.1) ↔ k ∈ ps.map (·.1) ∨ k ∈ acc.map (·.1) := by
  induction ps generalizing acc with
  | nil => simp
  | cons kv ps ih =>
    rw [setParts_cons, ih, mem_setPart_names, List.map_cons, List.mem_cons]
    tauto

/-- The parts set from nothing give each name its last value. -/
theorem lookupPart_setParts_nil (ps : List (String × String)) :
    lookupPart (setParts [] ps) = lastValue ps :=
  funext fun k => by
    rw [lookupPart_setParts]
    simp [lookupPart]

theorem mem_setParts_nil_names (ps : List (String × String)) :
    (· ∈ (setParts [] ps).map (·.1)) = (· ∈ ps.map (·.1)) :=
  funext fun k => by simp only [mem_setParts_names, List.map_nil, List.not_mem_nil, or_false]

/-- Dropping a name removes its value and no other. -/
theorem lookupPart_dropPart (ps : List (String × String)) (k k' : String) :
    lookupPart (dropPart ps k) k' = if k = k' then none else lookupPart ps k' := by
  unfold lookupPart dropPart
  rw [List.find?_filter]
  split
  · rename_i hk
    subst hk
    simp
  · rename_i hk
    have hsame : (fun p : String × String => decide ((p.1 != k) = true ∧ (p.1 == k') = true)) =
        (·.1 == k') := by
      funext p
      by_cases h : p.1 = k'
      · simp [h, Ne.symm hk]
      · simp [h]
    rw [hsame]

/-- Dropping a name keeps the parts of every other name. -/
theorem mem_dropPart (ps : List (String × String)) (k : String) (p : String × String) :
    p ∈ dropPart ps k ↔ p ∈ ps ∧ p.1 ≠ k := by
  simp [dropPart]

/-- No part is left once the six names are dropped exactly when no other name is given. -/
theorem dropPart_partNames_eq_nil (parts : List (String × String)) :
    dropPart (dropPart (dropPart (dropPart (dropPart (dropPart parts "FREQ") "INTERVAL") "WKST")
      "BYMONTH") "BYDAY") "BYSETPOS" = [] ↔ ∀ k, k ∈ parts.map (·.1) → k ∈ partNames := by
  simp only [List.eq_nil_iff_forall_not_mem, mem_dropPart, List.mem_map, partNames, List.mem_cons,
    List.not_mem_nil, or_false]
  constructor
  · rintro h k ⟨p, hp, rfl⟩
    by_contra hn
    simp only [not_or] at hn
    exact h p (by simp [hp, hn])
  · rintro h p ⟨⟨⟨⟨⟨⟨hp, h1⟩, h2⟩, h3⟩, h4⟩, h5⟩, h6⟩
    rcases h p.1 ⟨p, hp, rfl⟩ with h' | h' | h' | h' | h' | h' <;> contradiction

/-! ## Day parts -/

/-- The weekday codes, and only they, name a weekday. -/
theorem weekdayOfCode?_eq_some_iff (code : List Char) (w : Int) :
    weekdayOfCode? code = some w ↔ 0 ≤ w ∧ w ≤ 6 ∧ code = (dayCode w).toList := by
  constructor
  · intro h
    unfold weekdayOfCode? at h
    split at h <;> simp only [Option.some.injEq, reduceCtorEq] at h <;> subst h <;> decide
  · rintro ⟨h0, h6, rfl⟩
    interval_cases w <;> decide

/-- A weekday code is two characters, the first of them a letter. -/
theorem dayCode_toList {w : Int} (h0 : 0 ≤ w) (h6 : w ≤ 6) :
    ∃ c₁ c₂, (dayCode w).toList = [c₁, c₂] ∧
      Text.isDigit c₁ = false ∧ c₁ ≠ '+' ∧ c₁ ≠ '-' := by
  interval_cases w <;> exact ⟨_, _, rfl, by decide⟩

/-- A digit is no sign. -/
theorem ne_sign_of_isDigit {d : Char} (hd : Text.isDigit d = true) : d ≠ '+' ∧ d ≠ '-' := by
  constructor <;> rintro rfl <;> exact absurd hd (by decide)

/-- A day part splits into an ordinal and a weekday exactly when the pattern matches it. -/
theorem splitDay_eq_some_iff (cs : List Char) (ordinal : Option String) (w : Int) :
    splitDay cs = some (ordinal, w) ↔ DayPart cs ordinal w := by
  constructor
  · intro h
    unfold splitDay at h
    split at h
    rename_i sign rest hsign
    have hcs : cs = sign ++ rest ∧ (sign = [] ∨ sign = ['+'] ∨ sign = ['-']) := by
      split at hsign <;> simp only [Prod.mk.injEq] at hsign <;> obtain ⟨rfl, rfl⟩ := hsign <;>
        simp
    obtain ⟨rfl, hsgn⟩ := hcs
    split at h
    · rename_i d₁ d₂ code
      split_ifs at h with h1 h2 h3 <;> obtain ⟨w', hw, hw'⟩ := Option.map_eq_some_iff.1 h <;>
        simp only [Prod.mk.injEq] at hw' <;> obtain ⟨rfl, rfl⟩ := hw' <;>
        obtain ⟨h0, h6, hcode⟩ := (weekdayOfCode?_eq_some_iff _ _).1 hw
      · exact ⟨h0, h6, .inr ⟨sign, [d₁, d₂], hsgn, .inr rfl, by simp [h1, h2], by simp [hcode],
          rfl⟩⟩
      · exact ⟨h0, h6, .inr ⟨sign, [d₁], hsgn, .inl rfl, by simp [h1], by simp [hcode], rfl⟩⟩
      · have : sign = [] := by simpa using h3
        subst this
        exact ⟨h0, h6, .inl ⟨rfl, by simpa using hcode⟩⟩
    · cases h
  · rintro ⟨h0, h6, hform⟩
    obtain ⟨c₁, c₂, hc, hc₁, hp, hm⟩ := dayCode_toList h0 h6
    have hw : weekdayOfCode? [c₁, c₂] = some w := by
      rw [← hc]
      exact (weekdayOfCode?_eq_some_iff _ _).2 ⟨h0, h6, rfl⟩
    rcases hform with ⟨rfl, rfl⟩ | ⟨sign, digits, hsign, hlen, hdig, rfl, rfl⟩
    · simp [splitDay, hc, hc₁, hp, hm, hw]
    · rcases hlen with hlen | hlen
      · obtain ⟨d₁, rfl⟩ := List.length_eq_one_iff.1 hlen
        have hd₁ := hdig d₁ (by simp)
        rcases hsign with rfl | rfl | rfl <;>
          simp [splitDay, hc, hc₁, hd₁, hw, ne_sign_of_isDigit hd₁]
      · obtain ⟨d₁, d₂, rfl⟩ := List.length_eq_two.1 hlen
        have hd₁ := hdig d₁ (by simp)
        have hd₂ := hdig d₂ (by simp)
        rcases hsign with rfl | rfl | rfl <;>
          simp [splitDay, hc, hd₁, hd₂, hw, ne_sign_of_isDigit hd₁]

/-! ## Rules from numbers -/

/-- A rule is its month, weekday and ordinal. -/
theorem ext {r r' : Rule} (hm : r.month = r'.month) (hw : r.weekday = r'.weekday)
    (ho : r.ordinal = r'.ordinal) : r = r' := by
  cases r
  cases r'
  simp_all

/-- The ordinal a number stands for stands for that number. -/
theorem toInt_of_ordinalOf? {o : Int} {x : { x : Ordinal // x.Valid }} (h : ordinalOf? o = some x) :
    x.1.toInt = o := by
  unfold ordinalOf? at h
  split_ifs at h with h1 h2
  · cases h
    simp [Ordinal.toInt, h1]
  · cases h
    simp only [Ordinal.toInt]
    omega

/-- Every ordinal is the one its number stands for. -/
theorem ordinalOf?_toInt (x : Ordinal) (hx : x.Valid) : ordinalOf? x.toInt = some ⟨x, hx⟩ := by
  cases x with
  | last => simp [ordinalOf?, Ordinal.toInt]
  | nth n =>
    simp only [Ordinal.Valid] at hx
    have : (n : Int) ≠ -1 := by omega
    simp [ordinalOf?, Ordinal.toInt, this, hx]

/-- The number of a rule's ordinal is -1 or positive. -/
theorem toInt_ordinal_mem (r : Rule) : r.ordinal.toInt = -1 ∨ 1 ≤ r.ordinal.toInt := by
  have hv := r.ordinal_valid
  cases h : r.ordinal with
  | last => simp [Ordinal.toInt]
  | nth n =>
    rw [h] at hv
    simp only [Ordinal.Valid] at hv
    simp only [Ordinal.toInt]
    omega

/-- Three numbers make a rule exactly when they are its month, weekday and ordinal. -/
theorem make?_eq_ok_iff (m w o : Int) (r : Rule) :
    make? m w o = .ok r ↔ r.month = m ∧ r.weekday = w ∧ r.ordinal.toInt = o := by
  constructor
  · intro h
    unfold make? at h
    split_ifs at h with hm hw
    split at h
    · rename_i x hx hof
      obtain rfl := Except.ok.inj h
      exact ⟨rfl, rfl, toInt_of_ordinalOf? hof⟩
    · cases h
  · rintro ⟨rfl, rfl, rfl⟩
    simp only [make?, r.month_mem, r.weekday_mem, and_self, dite_true,
      ordinalOf?_toInt r.ordinal r.ordinal_valid]

/-! ## Reading texts -/

/-- A text reads as a rule exactly when its named parts, as `namedParts` sets them, hold the
rule: the checks of `parse` one after the other, with every dropped name read off the whole
map. -/
theorem parse_eq_ok_iff_accepted (text : String) (r : Rule) :
    parse text = .ok r ↔ ∃ parts,
      namedParts text (((body text).toList.splitOn ';').map String.ofList) [] = .ok parts ∧
        Accepted (lookupPart parts) (· ∈ parts.map (·.1)) r := by
  unfold parse
  constructor
  · intro h
    rw [Except.bind_eq_ok] at h
    obtain ⟨parts, hparts, h⟩ := h
    refine ⟨parts, hparts, ?_⟩
    simp only [bind, Except.bind, pure, Except.pure, throw, throwThe, MonadExceptOf.throw,
      lookupPart_dropPart, String.reduceEq, ↓reduceIte] at h
    split at h
    case isTrue => cases h
    rename_i hfreq
    split at h
    case isTrue => cases h
    rename_i hint
    split at h
    case h_2 => cases h
    rename_i mt hmt
    split at h
    case h_2 => cases h
    rename_i m hm
    split at h
    case h_2 => cases h
    rename_i dt hdt
    split at h
    case h_2 => cases h
    rename_i day hday
    split at h
    case isTrue => cases h
    rename_i hnot
    split at h
    case h_2 => cases h
    rename_i o hord
    split at h
    case isTrue => cases h
    rename_i hpos
    split at h
    case isTrue => cases h
    rename_i hempty
    obtain ⟨hmr, hwr, hor⟩ :=
      (make?_eq_ok_iff _ _ _ _).1 ((Except.mapError_eq_ok_iff _ _ _).1 h)
    subst hmr hor
    obtain ⟨ot, w⟩ := day
    subst hwr
    exact {
      yearly := by simpa using hfreq
      interval := by cases hi : lookupPart parts "INTERVAL" <;> simp_all
      known := (dropPart_partNames_eq_nil parts).1 (by simpa using hempty)
      month := ⟨mt, hmt, hm⟩
      day := ⟨dt, ot, hdt, (splitDay_eq_some_iff _ _ _).1 hday, by simpa using hnot, hord⟩ }
  · rintro ⟨parts, hparts,
      ⟨hfreq, hint, hknown, ⟨mt, hmt, hm⟩, ⟨dt, ot, hdt, hday, hnot, hord⟩⟩⟩
    have hsplit : splitDay dt.toList = some (ot, r.weekday) := (splitDay_eq_some_iff _ _ _).2 hday
    have hempty := (dropPart_partNames_eq_nil parts).2 hknown
    have hinterval : (lookupPart parts "INTERVAL").getD "1" = "1" := by
      rcases hint with h | h <;> simp [h]
    have hpos : (r.ordinal.toInt != -1 && decide (r.ordinal.toInt < 1)) = false := by
      rcases toInt_ordinal_mem r with h | h <;> simp [h]
    have hmake : make? r.month r.weekday r.ordinal.toInt = .ok r :=
      (make?_eq_ok_iff _ _ _ _).2 ⟨rfl, rfl, rfl⟩
    have htwice : (ot.isSome && (lookupPart parts "BYSETPOS").isSome) = false := by
      simpa using hnot
    rw [hparts]
    simp only [bind, Except.bind, pure, Except.pure, throw, throwThe, MonadExceptOf.throw,
      lookupPart_dropPart, String.reduceEq, ↓reduceIte, hfreq, hinterval, hmt, hm, hdt, hsplit,
      hempty, htwice, bne_self_eq_false, Bool.false_eq_true, List.isEmpty_nil, Bool.not_true]
    split
    · rename_i o ho
      obtain rfl : r.ordinal.toInt = o := Option.some.inj (hord.symm.trans ho)
      simp only [hpos, hmake, Bool.false_eq_true, ↓reduceIte, Except.mapError]
    · rename_i ho
      exact absurd (hord.symm.trans ho) nofun

/-- A text reads as a rule exactly when it is accepted as that rule. -/
theorem parse_eq_ok_iff (text : String) (r : Rule) : parse text = .ok r ↔ Accepts text r := by
  rw [parse_eq_ok_iff_accepted]
  constructor
  · rintro ⟨parts, hparts, hacc⟩
    obtain ⟨ps, hps, rfl⟩ := (namedParts_eq_ok_iff _ _ _ _).1 hparts
    rw [lookupPart_setParts_nil, mem_setParts_nil_names] at hacc
    exact ⟨ps, hps, hacc⟩
  · rintro ⟨ps, hps, hacc⟩
    refine ⟨setParts [] ps, (namedParts_eq_ok_iff _ _ _ _).2 ⟨ps, hps, rfl⟩, ?_⟩
    rwa [lookupPart_setParts_nil, mem_setParts_nil_names]

/-! ## Written rules -/

/-- The characters of the month, ordinal and weekday code of a written rule, and of its names. -/
def formatChars : List Char := "0123456789-ABCDEFGHIJKLMNOPQRSTUVWXYZ".toList

/-- They are not blank, are their own upper case, and neither end a part nor split one. -/
theorem formatChars_plain : ∀ c ∈ formatChars,
    Text.isBlank c = false ∧ Text.upperChar c = [c] ∧ c ≠ ';' ∧ c ≠ '=' := by
  have h : formatChars.all
      (fun c => !Text.isBlank c && Text.upperChar c == [c] && c != ';' && c != '=') = true := by
    decide
  intro c hc
  simpa [and_assoc] using List.all_eq_true.1 h c hc

theorem forall_formatChars {l : List Char} (h : l.all (· ∈ formatChars) = true) :
    ∀ c ∈ l, c ∈ formatChars :=
  fun c hc => by simpa using List.all_eq_true.1 h c hc

theorem all_not_blank_of_formatChars {l : List Char} (h : ∀ c ∈ l, c ∈ formatChars) :
    l.all (fun c => !Text.isBlank c) = true :=
  List.all_eq_true.2 fun c hc => by simp [(formatChars_plain c (h c hc)).1]

/-- Characters without blanks are trimmed to themselves. -/
theorem trimBlankList_of_not_blank {l : List Char} (h : ∀ c ∈ l, Text.isBlank c = false) :
    Text.trimBlankList l = l := by
  have hfront : l.dropWhile Text.isBlank = l :=
    List.dropWhile_eq_self_iff.2 fun hl => by simp [h _ (List.getElem_mem hl)]
  have hback : l.reverse.dropWhile Text.isBlank = l.reverse :=
    List.dropWhile_eq_self_iff.2 fun hl => by
      rw [h _ (List.mem_reverse.1 (List.getElem_mem hl))]
      simp
  unfold Text.trimBlankList
  rw [hfront, hback, List.reverse_reverse]

/-- A text of plain characters is its own upper case. -/
theorem upper_of_formatChars {s : String} (h : ∀ c ∈ s.toList, c ∈ formatChars) :
    Text.upper s = s := by
  unfold Text.upper
  rw [List.flatMap_congr fun c hc => (formatChars_plain c (h c hc)).2.1, List.flatMap_singleton',
    String.ofList_toList]

/-- A part written as `name=value` splits back into its name and value. -/
theorem namedPart_of_formatChars {name value : String}
    (hn : ∀ c ∈ name.toList, c ∈ formatChars) (hv : ∀ c ∈ value.toList, c ∈ formatChars) :
    NamedPart (name.toList ++ '=' :: value.toList) (name, value) := by
  have hblank : ∀ s : String, (∀ c ∈ s.toList, c ∈ formatChars) →
      Text.upper (String.ofList (Text.trimBlankList s.toList)) = s := fun s hs => by
    rw [trimBlankList_of_not_blank fun c hc => (formatChars_plain c (hs c hc)).1,
      String.ofList_toList, upper_of_formatChars hs]
  exact ⟨name.toList, value.toList, rfl, fun h => (formatChars_plain '=' (hn _ h)).2.2.2 rfl,
    by rw [hblank name hn, hblank value hv]⟩

/-- A part `name=value` of plain characters has neither blanks nor `;`. -/
theorem part_chars (name value : List Char) (hn : ∀ c ∈ name, c ∈ formatChars)
    (hv : ∀ c ∈ value, c ∈ formatChars) :
    ∀ c ∈ name ++ '=' :: value, Text.isBlank c = false ∧ c ≠ ';' := by
  intro c hc
  simp only [List.mem_append, List.mem_cons] at hc
  rcases hc with h | rfl | h
  · exact ⟨(formatChars_plain c (hn c h)).1, (formatChars_plain c (hn c h)).2.2.1⟩
  · decide
  · exact ⟨(formatChars_plain c (hv c h)).1, (formatChars_plain c (hv c h)).2.2.1⟩

/-- A month is written in digits and reads back. -/
theorem month_text (r : Rule) :
    (∀ c ∈ (toString r.month).toList, c ∈ formatChars) ∧
      Text.readInt? (toString r.month) = some r.month := by
  obtain ⟨h1, h12⟩ := r.month_mem
  generalize r.month = m at h1 h12 ⊢
  interval_cases m <;> exact ⟨forall_formatChars (by decide), by decide⟩

/-- A weekday code is written in letters. -/
theorem dayCode_chars (r : Rule) : ∀ c ∈ (dayCode r.weekday).toList, c ∈ formatChars := by
  obtain ⟨h0, h6⟩ := r.weekday_mem
  generalize r.weekday = w at h0 h6 ⊢
  interval_cases w <;> exact forall_formatChars (by decide)

/-- An ordinal is written as an optional `-` and one digit, and reads back. -/
theorem ordinal_text (r : Rule) :
    (∀ c ∈ (toString r.ordinal.toInt).toList, c ∈ formatChars) ∧
      Text.readInt? (toString r.ordinal.toInt) = some r.ordinal.toInt ∧
      ∃ sign digits, (sign = [] ∨ sign = ['+'] ∨ sign = ['-']) ∧
        (digits.length = 1 ∨ digits.length = 2) ∧ (∀ c ∈ digits, Text.isDigit c) ∧
        (toString r.ordinal.toInt).toList = sign ++ digits := by
  have hv := r.ordinal_valid
  generalize r.ordinal = o at hv ⊢
  cases o with
  | last =>
    exact ⟨forall_formatChars (by decide), by decide, ['-'], ['1'], by simp, by simp,
      by simpa using (by decide : Text.isDigit '1' = true), by decide⟩
  | nth n =>
    obtain ⟨h1, h5⟩ := hv
    refine ⟨forall_formatChars ?_, ?_, [], (toString (n : Int)).toList, by simp, ?_,
      List.all_eq_true.1 ?_, rfl⟩ <;> interval_cases n <;> decide

/-- The day part of a written rule is written in plain characters. -/
theorem dayText_chars (r : Rule) :
    ∀ c ∈ (toString r.ordinal.toInt ++ dayCode r.weekday).toList, c ∈ formatChars := by
  intro c hc
  rw [String.toList_append, List.mem_append] at hc
  rcases hc with h | h
  exacts [(ordinal_text r).1 c h, dayCode_chars r c h]

/-- A written rule is three parts `name=value` between two `;`. -/
theorem format_toList (r : Rule) :
    (format r).toList = ("FREQ".toList ++ '=' :: "YEARLY".toList) ++ ';' ::
      (("BYMONTH".toList ++ '=' :: (toString r.month).toList) ++ ';' ::
        ("BYDAY".toList ++ '=' :: (toString r.ordinal.toInt ++ dayCode r.weekday).toList)) := by
  have e1 : "FREQ=YEARLY;BYMONTH=".toList =
      "FREQ".toList ++ '=' :: "YEARLY".toList ++ ';' :: "BYMONTH".toList ++ ['='] := by simp
  have e2 : ";BYDAY=".toList = ';' :: "BYDAY".toList ++ ['='] := by simp
  have hs : ∀ s : String, toString s = s := fun _ => rfl
  unfold format
  rw [hs, hs, hs]
  simp only [String.toList_append, e1, e2, List.append_assoc, List.cons_append, List.nil_append]

/-- No character of a written rule is blank. -/
theorem format_not_blank (r : Rule) : ∀ c ∈ (format r).toList, Text.isBlank c = false := by
  have hm := all_not_blank_of_formatChars (month_text r).1
  have ho := all_not_blank_of_formatChars (ordinal_text r).1
  have hd := all_not_blank_of_formatChars (dayCode_chars r)
  have hall : (format r).toList.all (fun c => !Text.isBlank c) = true := by
    rw [format_toList]
    simp only [List.all_append, List.all_cons, String.toList_append, hm, ho, hd, Bool.and_true]
    decide
  intro c hc
  simpa using List.all_eq_true.1 hall c hc

/-- A written rule is its own body: it is trimmed and starts with `F`, not with `RRULE:`. -/
theorem body_format (r : Rule) : body (format r) = format r := by
  have htrim : Text.trimBlank (format r) = format r := by
    rw [Text.trimBlank, trimBlankList_of_not_blank (format_not_blank r), String.ofList_toList]
  have hprefix : ¬ ("RRULE:".toList <+: (Text.upper (format r)).toList) := by
    have hF : Text.upperChar 'F' = ['F'] := by decide
    simp [Text.upper, format_toList, show "FREQ".toList = 'F' :: "REQ".toList by simp, hF]
  unfold body
  simp only [htrim, String.startsWith_string_iff, hprefix, if_false]

/-- The pieces of a written rule are its three parts. -/
theorem bodyItems_format (r : Rule) :
    bodyItems (format r) = ["FREQ".toList ++ '=' :: "YEARLY".toList,
      "BYMONTH".toList ++ '=' :: (toString r.month).toList,
      "BYDAY".toList ++ '=' :: (toString r.ordinal.toInt ++ dayCode r.weekday).toList] := by
  have h1 := part_chars "FREQ".toList "YEARLY".toList (forall_formatChars (by decide))
    (forall_formatChars (by decide))
  have h2 := part_chars "BYMONTH".toList _ (forall_formatChars (by decide)) (month_text r).1
  have h3 := part_chars "BYDAY".toList _ (forall_formatChars (by decide)) (dayText_chars r)
  unfold bodyItems
  rw [format_toList, List.splitOn_append_cons_self_of_not_mem fun h => (h1 _ h).2 rfl,
    List.splitOn_append_cons_self_of_not_mem fun h => (h2 _ h).2 rfl,
    List.splitOn_eq_singleton fun h => (h3 _ h).2 rfl]
  simp only [List.map_cons, List.map_nil, trimBlankList_of_not_blank fun c hc => (h1 c hc).1,
    trimBlankList_of_not_blank fun c hc => (h2 c hc).1,
    trimBlankList_of_not_blank fun c hc => (h3 c hc).1]
  simp

/-- A written rule is accepted as that rule. -/
theorem accepts_format (r : Rule) : Accepts (format r) r := by
  obtain ⟨-, hread, sign, digits, hsign, hlen, hdig, hdigits⟩ := ordinal_text r
  have hday : DayPart (toString r.ordinal.toInt ++ dayCode r.weekday).toList
      (some (toString r.ordinal.toInt)) r.weekday :=
    ⟨r.weekday_mem.1, r.weekday_mem.2, .inr ⟨sign, digits, hsign, hlen, hdig,
      by rw [String.toList_append, hdigits], by rw [← hdigits, String.ofList_toList]⟩⟩
  refine ⟨[("FREQ", "YEARLY"), ("BYMONTH", toString r.month),
    ("BYDAY", toString r.ordinal.toInt ++ dayCode r.weekday)], ?_, ?_⟩
  · rw [body_format, bodyItems_format]
    exact .cons (namedPart_of_formatChars (forall_formatChars (by decide))
        (forall_formatChars (by decide)))
      (.cons (namedPart_of_formatChars (forall_formatChars (by decide)) (month_text r).1)
        (.cons (namedPart_of_formatChars (forall_formatChars (by decide)) (dayText_chars r)) .nil))
  · exact {
      yearly := by simp [lastValue]
      interval := .inl (by simp [lastValue])
      known := by simp [partNames]
      month := ⟨_, by simp [lastValue], (month_text r).2⟩
      day := ⟨_, some (toString r.ordinal.toInt), by simp [lastValue], hday, by simp [lastValue],
        hread⟩ }

/-! ## Recurrence texts -/

/-- The rules that recurrence texts write: a text reads as a rule exactly when it is accepted
as that rule, every other text is refused with a value error, and a written rule reads back as
itself. -/
theorem parseValue_accepts :
    (∀ (text : String) (r : Rule), parseValue (.str text) = .ok r ↔ Accepts text r) ∧
    (∀ text : String, (¬ ∃ r, Accepts text r) →
      ∃ f, parseValue (.str text) = .error f ∧ f.kind = .value) ∧
    (∀ r : Rule, parseValue (.str (format r)) = .ok r) := by
  have hok : ∀ (text : String) (r : Rule), parseValue (.str text) = .ok r ↔ Accepts text r :=
    fun text r => by rw [parseValue, Except.mapError_eq_ok_iff, parse_eq_ok_iff]
  refine ⟨hok, fun text hnone => ?_, fun r => (hok _ r).2 (accepts_format r)⟩
  cases h : parse text with
  | ok r => exact absurd ⟨r, (parse_eq_ok_iff text r).1 h⟩ hnone
  | error f => exact ⟨.ruleText f, by simp [parseValue, h, Except.mapError], rfl⟩

end Rule

end Almanac
