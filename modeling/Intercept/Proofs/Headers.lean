import Intercept.Proofs.Request
import Intercept.Proofs.Text.Case

/-!
# Intercept.Proofs.Headers -- which of several headers counts

A header can be given several times, and under several spellings of its name. Each spelling keeps
the value that was given for it last, and a lookup takes the value of one spelling: the very one it
asks for, else the one in small letters, else the least one. So the value comes from one of the
places where the header is given, and the names alone tell which one that is.
-/

namespace Intercept.Headers

variable {name s value : String} {names : List String} {pairs : List (String × String)}

/-! ## Places -/

/-- A text stands at a place of a list, and at no later one. -/
def LastAt (s : String) (names : List String) (i : Nat) : Prop :=
  names[i]? = some s ∧ s ∉ names.drop (i + 1)

instance (s : String) (names : List String) (i : Nat) : Decidable (LastAt s names i) :=
  inferInstanceAs (Decidable (_ ∧ _))

theorem LastAt.le {i j : Nat} (h : LastAt s names i) (hj : names[j]? = some s) : j ≤ i := by
  refine Nat.le_of_not_lt fun hlt => h.2 (List.mem_iff_getElem?.mpr ⟨j - (i + 1), ?_⟩)
  rw [List.getElem?_drop, Nat.add_sub_cancel' hlt, hj]

/-- Of names that were given, the one of which a lookup takes the value. -/
inductive Preferred (name : String) (names : List String) : String → Prop
  | exact (hexact : name ∈ names) : Preferred name names name
  | small (hexact : name ∉ names) (hsmall : lowerName name ∈ names) :
      Preferred name names (lowerName name)
  | least {s : String} (hexact : name ∉ names) (hsmall : lowerName name ∉ names)
      (hs : s ∈ names) (hsame : lowerName s = lowerName name)
      (hleast : ∀ s' ∈ names, lowerName s' = lowerName name → s ≤ s') : Preferred name names s

/-- The place of which a lookup takes the value: the last one with the preferred spelling. -/
def DecidedAt (name : String) (names : List String) (i : Nat) : Prop :=
  ∃ s, Preferred name names s ∧ LastAt s names i

theorem preferred_of_exact (h : name ∈ names) : Preferred name names s ↔ s = name := by
  constructor
  · intro hs
    cases hs with
    | exact _ => rfl
    | small hexact _ => exact absurd h hexact
    | least hexact _ _ _ _ => exact absurd h hexact
  · rintro rfl
    exact .exact h

theorem preferred_of_small (hexact : name ∉ names) (h : lowerName name ∈ names) :
    Preferred name names s ↔ s = lowerName name := by
  constructor
  · intro hs
    cases hs with
    | exact h => exact absurd h hexact
    | small _ _ => rfl
    | least _ hsmall _ _ _ => exact absurd h hsmall
  · rintro rfl
    exact .small hexact h

theorem preferred_of_neither (hexact : name ∉ names) (hsmall : lowerName name ∉ names) :
    Preferred name names s ↔ s ∈ names ∧ lowerName s = lowerName name
      ∧ ∀ s' ∈ names, lowerName s' = lowerName name → s ≤ s' := by
  constructor
  · intro hs
    cases hs with
    | exact h => exact absurd h hexact
    | small _ h => exact absurd h hsmall
    | least _ _ hs hsame hleast => exact ⟨hs, hsame, hleast⟩
  · rintro ⟨hs, hsame, hleast⟩
    exact .least hexact hsmall hs hsame hleast

/-- Where the very spelling is given, its last place decides. -/
theorem decidedAt_of_exact {i j : Nat} (h : LastAt name names i) :
    DecidedAt name names j ↔ j = i := by
  have hmem : name ∈ names := List.mem_of_getElem? h.1
  constructor
  · rintro ⟨s, hs, hj⟩
    obtain rfl := (preferred_of_exact hmem).mp hs
    exact Nat.le_antisymm (h.le hj.1) (hj.le h.1)
  · rintro rfl
    exact ⟨name, .exact hmem, h⟩

/-! ## One spelling -/

theorem mem_names_ofList : s ∈ (ofList pairs).entries.map Prod.fst ↔ s ∈ pairs.map Prod.fst := by
  rw [entries_ofList, Keyed.keys_ofList, List.mem_eraseDups]

theorem getExact?_eq_some {h : Headers} (hd : h.Distinct) :
    h.getExact? s = some value ↔ (s, value) ∈ h.entries :=
  Keyed.lookup_eq_some_iff hd

theorem getExact?_ofList_eq_none : (ofList pairs).getExact? s = none ↔ s ∉ pairs.map Prod.fst := by
  rw [← mem_names_ofList, getExact?, List.lookup_eq_none_iff, List.mem_map]
  constructor
  · rintro hnone ⟨p, hp, rfl⟩
    exact bne_iff_ne.mp (hnone p hp) rfl
  · intro hnone p hp
    exact bne_iff_ne.mpr fun heq => hnone ⟨p, hp, heq.symm⟩

theorem mem_of_getExact?_ofList (h : (ofList pairs).getExact? s = some value) :
    s ∈ pairs.map Prod.fst :=
  mem_names_ofList.mp
    (List.mem_map_of_mem ((getExact?_eq_some (distinct_ofList pairs)).mp h))

/-- The value of a spelling is the one that was given for it last. -/
theorem getExact?_ofList : (ofList pairs).getExact? s = some value ↔
    ∃ i, LastAt s (pairs.map Prod.fst) i ∧ (pairs.map Prod.snd)[i]? = some value := by
  rw [getExact?_eq_some (distinct_ofList pairs), entries_ofList, Keyed.mem_ofList_iff]
  constructor
  · rintro ⟨earlier, later, rfl, hlater⟩
    refine ⟨earlier.length, ⟨by simp, ?_⟩, by simp⟩
    rw [← List.map_drop, List.drop_length_add_append, List.drop_one, List.tail_cons, List.mem_map]
    rintro ⟨p, hp, hps⟩
    exact hlater p hp hps
  · rintro ⟨i, ⟨hname, hlast⟩, hvalue⟩
    have hi : pairs[i]? = some (s, value) := by
      simp only [List.getElem?_map, Option.map_eq_some_iff] at hname hvalue
      obtain ⟨p, hp, rfl⟩ := hname
      obtain ⟨q, hq, rfl⟩ := hvalue
      rw [hp, Option.some.injEq] at hq
      rw [hp, hq]
    obtain ⟨hlt, hget⟩ := List.getElem?_eq_some_iff.mp hi
    refine ⟨pairs.take i, pairs.drop (i + 1), ?_, fun p hp hps => hlast ?_⟩
    · rw [← hget, List.getElem_cons_drop, List.take_append_drop]
    · rw [← List.map_drop, ← hps]
      exact List.mem_map_of_mem hp

/-! ## All spellings -/

/-- The least of the spellings that differ in case only, with its value. -/
theorem least?_ofList (hexact : name ∉ pairs.map Prod.fst)
    (hsmall : lowerName name ∉ pairs.map Prod.fst) :
    (least? ((ofList pairs).entries.filter fun p => lowerName p.1 == lowerName name)).map Prod.snd
        = some value
      ↔ ∃ s, Preferred name (pairs.map Prod.fst) s ∧ (ofList pairs).getExact? s = some value := by
  have hd := distinct_ofList pairs
  have hmem : ∀ p, p ∈ (ofList pairs).entries.filter (lowerName ·.1 == lowerName name) ↔
      p ∈ (ofList pairs).entries ∧ lowerName p.1 = lowerName name := by
    simp
  simp only [preferred_of_neither hexact hsmall, Option.map_eq_some_iff]
  constructor
  · rintro ⟨p, hp, rfl⟩
    obtain ⟨hentry, hleast⟩ := least?_eq_some hp
    obtain ⟨hentry, hsame⟩ := (hmem p).mp hentry
    have hnames := mem_names_ofList.mp (List.mem_map_of_mem hentry)
    refine ⟨p.1, ⟨hnames, hsame, fun s' hs' hsame' => ?_⟩, (getExact?_eq_some hd).mpr hentry⟩
    obtain ⟨q, hq, rfl⟩ := List.mem_map.mp (mem_names_ofList.mpr hs')
    exact String.not_lt.mp (hleast q ((hmem q).mpr ⟨hq, hsame'⟩))
  · rintro ⟨s, ⟨-, hsame, hleast⟩, hvalue⟩
    have hentry := (getExact?_eq_some hd).mp hvalue
    have hthere := (hmem (s, value)).mpr ⟨hentry, hsame⟩
    cases hp : least? ((ofList pairs).entries.filter (lowerName ·.1 == lowerName name)) with
    | none =>
      rw [least?_eq_none.mp hp] at hthere
      exact absurd hthere List.not_mem_nil
    | some p =>
      obtain ⟨hpentry, hpleast⟩ := least?_eq_some hp
      obtain ⟨hpentry, hpsame⟩ := (hmem p).mp hpentry
      -- The two are not above each other, and a name stands only once.
      have hname : p.1 = s := String.le_antisymm (String.not_lt.mp (hpleast _ hthere))
        (hleast p.1 (mem_names_ofList.mp (List.mem_map_of_mem hpentry)) hpsame)
      have hsnd : (ofList pairs).getExact? s = some p.2 :=
        (getExact?_eq_some hd).mpr (hname ▸ hpentry)
      exact ⟨p, rfl, Option.some.inj (hsnd.symm.trans hvalue)⟩

/-- The value of a lookup is the one of the preferred spelling. -/
theorem get?_ofList_iff_preferred : (ofList pairs).get? name = some value ↔
    ∃ s, Preferred name (pairs.map Prod.fst) s ∧ (ofList pairs).getExact? s = some value := by
  rw [get?]
  cases hexact : (ofList pairs).getExact? name with
  | some v =>
    simp only [preferred_of_exact (mem_of_getExact?_ofList hexact), exists_eq_left, hexact]
  | none =>
    have hno := getExact?_ofList_eq_none.mp hexact
    cases hsmall : (ofList pairs).getExact? (lowerName name) with
    | some v =>
      have hmem := mem_of_getExact?_ofList hsmall
      simp only [preferred_of_small hno hmem, exists_eq_left, hsmall]
    | none => exact least?_ofList hno (getExact?_ofList_eq_none.mp hsmall)

/-- A lookup takes the value of the place that the names tell. -/
theorem get?_ofList : (ofList pairs).get? name = some value ↔
    ∃ i, DecidedAt name (pairs.map Prod.fst) i ∧ (pairs.map Prod.snd)[i]? = some value := by
  rw [get?_ofList_iff_preferred]
  simp only [getExact?_ofList]
  constructor
  · rintro ⟨s, hs, i, hi, hvalue⟩
    exact ⟨i, ⟨s, hs, hi⟩, hvalue⟩
  · rintro ⟨i, ⟨s, hs, hi⟩, hvalue⟩
    exact ⟨s, hs, i, hi, hvalue⟩

/-! ## What was given last -/

theorem Preferred.mem (h : Preferred name names s) : s ∈ names := by
  cases h with
  | exact hexact => exact hexact
  | small _ hsmall => exact hsmall
  | least _ _ hs _ _ => exact hs

/-- Which spelling is preferred depends on the names that are given and not on their order. -/
theorem Preferred.congr {names' : List String} (hnames : ∀ s, s ∈ names ↔ s ∈ names')
    (h : Preferred name names s) : Preferred name names' s := by
  cases h with
  | exact hexact => exact .exact ((hnames name).mp hexact)
  | small hexact hsmall =>
    exact .small (mt (hnames name).mpr hexact) ((hnames _).mp hsmall)
  | least hexact hsmall hs hsame hleast =>
    exact .least (mt (hnames name).mpr hexact) (mt (hnames _).mpr hsmall) ((hnames s).mp hs) hsame
      fun s' hs' => hleast s' ((hnames s').mpr hs')

/-- The value of the last pair with a name. -/
def lastGiven? (pairs : List (String × String)) (s : String) : Option String :=
  (pairs.filter (·.1 == s)).getLast?.map Prod.snd

theorem getExact?_ofList_eq_lastGiven? : (ofList pairs).getExact? s = lastGiven? pairs s := by
  rw [getExact?, entries_ofList, Keyed.lookup_ofList, lastGiven?]
  induction pairs using List.reverseRecOn with
  | nil => rfl
  | append_singleton pairs p ih =>
    rw [List.reverse_append, List.reverse_singleton, List.singleton_append, Keyed.lookup_cons_eq,
      List.filter_append]
    by_cases hs : s = p.1
    · simp [hs]
    · rw [if_neg hs, ih]
      simp [Ne.symm hs]

theorem get?_ofList_of_preferred (h : Preferred name (pairs.map Prod.fst) s) :
    (ofList pairs).get? name = lastGiven? pairs s := by
  rw [← getExact?_ofList_eq_lastGiven?]
  cases hvalue : (ofList pairs).getExact? s with
  | none => exact absurd h.mem (getExact?_ofList_eq_none.mp hvalue)
  | some v => exact get?_ofList_iff_preferred.mpr ⟨s, h, hvalue⟩

/-! ## Whether there is a value -/

theorem lowerName_lowerName (name : String) : lowerName (lowerName name) = lowerName name := by
  rw [lowerName, lowerName, String.toList_ofList, Text.asciiLower_asciiLower]

theorem mem_entries_of_getExact? {h : Headers} (hvalue : h.getExact? s = some value) :
    (s, value) ∈ h.entries :=
  Keyed.mem_of_lookup hvalue

/-- A lookup finds nothing exactly when no name is the same but for the case of its letters. -/
theorem get?_eq_none_iff {h : Headers} :
    h.get? name = none ↔ ∀ p ∈ h.entries, lowerName p.1 ≠ lowerName name := by
  rw [get?]
  cases hexact : h.getExact? name with
  | some v =>
    refine iff_of_false (by simp) fun hnone => ?_
    exact hnone _ (mem_entries_of_getExact? hexact) rfl
  | none =>
    cases hsmall : h.getExact? (lowerName name) with
    | some v =>
      refine iff_of_false (by simp) fun hnone => ?_
      exact hnone _ (mem_entries_of_getExact? hsmall) (lowerName_lowerName name)
    | none =>
      simp only [Option.map_eq_none_iff, least?_eq_none, List.filter_eq_nil_iff, beq_iff_eq, ne_eq]

theorem contains_of_lowerName_eq {h : Headers} {name' : String}
    (hsame : lowerName name' = lowerName name) : h.contains name' = h.contains name := by
  have hnone : h.get? name' = none ↔ h.get? name = none := by
    rw [get?_eq_none_iff, get?_eq_none_iff, hsame]
  rw [contains, contains, Bool.eq_iff_iff, Option.isSome_iff_ne_none, Option.isSome_iff_ne_none,
    ne_eq, ne_eq, hnone]

/-! ## Lookups by what was given -/

/-- How a lookup is to answer, told by the pairs that were given alone. -/
structure Answers (pairs : List (String × String)) (name : String) (answer : Option String) :
    Prop where
  /-- The very spelling that is asked for counts, where it is given. -/
  exact : name ∈ pairs.map Prod.fst → answer = lastGiven? pairs name
  /-- Without it, the spelling in small letters counts. -/
  small : name ∉ pairs.map Prod.fst → lowerName name ∈ pairs.map Prod.fst →
    answer = lastGiven? pairs (lowerName name)
  /-- Without either, the least of the other spellings counts. -/
  least : name ∉ pairs.map Prod.fst → lowerName name ∉ pairs.map Prod.fst →
    ∀ s ∈ pairs.map Prod.fst, lowerName s = lowerName name →
      (∀ s' ∈ pairs.map Prod.fst, lowerName s' = lowerName name → s ≤ s') →
        answer = lastGiven? pairs s
  /-- Without any spelling there is no answer. -/
  absent : answer = none ↔ ∀ s ∈ pairs.map Prod.fst, lowerName s ≠ lowerName name

theorem answers_get?_ofList (pairs : List (String × String)) (name : String) :
    Answers pairs name ((ofList pairs).get? name) where
  exact h := get?_ofList_of_preferred (.exact h)
  small hexact h := get?_ofList_of_preferred (.small hexact h)
  least hexact hsmall s hs hsame hleast :=
    get?_ofList_of_preferred (.least hexact hsmall hs hsame hleast)
  absent := by
    rw [get?_eq_none_iff]
    constructor
    · intro h s hs
      obtain ⟨p, hp, rfl⟩ := List.mem_map.mp (mem_names_ofList.mpr hs)
      exact h p hp
    · intro h p hp
      exact h p.1 (mem_names_ofList.mp (List.mem_map_of_mem hp))

theorem mem_names_iff_filter : s ∈ pairs.map Prod.fst ↔ pairs.filter (·.1 == s) ≠ [] := by
  rw [ne_eq, List.filter_eq_nil_iff, List.mem_map]
  simp only [beq_iff_eq, not_forall, not_not, exists_prop]

/-- Pairs that are given in another order, those with one name in the same, give the same values. -/
theorem get?_ofList_of_filter {pairs' : List (String × String)}
    (h : ∀ s, pairs'.filter (·.1 == s) = pairs.filter (·.1 == s)) (name : String) :
    (ofList pairs').get? name = (ofList pairs).get? name := by
  have hnames : ∀ s, s ∈ pairs'.map Prod.fst ↔ s ∈ pairs.map Prod.fst := fun s => by
    rw [mem_names_iff_filter, mem_names_iff_filter, h s]
  have hgiven : ∀ s, (ofList pairs').getExact? s = (ofList pairs).getExact? s := fun s => by
    rw [getExact?_ofList_eq_lastGiven?, getExact?_ofList_eq_lastGiven?, lastGiven?, lastGiven?, h s]
  ext value
  rw [get?_ofList_iff_preferred, get?_ofList_iff_preferred]
  simp only [hgiven]
  exact exists_congr fun s => and_congr_left' ⟨.congr hnames, .congr fun s => (hnames s).symm⟩

/-- A lookup answers with what was given last for the preferred spelling. So it does not matter in
which case a name is asked for when only its presence counts, nor in which order different names were
given. -/
theorem get?_well_defined (pairs : List (String × String)) (name : String) :
    Answers pairs name ((ofList pairs).get? name)
      ∧ (∀ name', lowerName name' = lowerName name →
        (ofList pairs).contains name' = (ofList pairs).contains name)
      ∧ ∀ pairs', (∀ s, pairs'.filter (·.1 == s) = pairs.filter (·.1 == s)) →
        (ofList pairs').get? name = (ofList pairs).get? name :=
  ⟨answers_get?_ofList pairs name, fun _ => contains_of_lowerName_eq,
    fun _ h => get?_ofList_of_filter h name⟩

/-- Of two spellings that are both given and neither of which is asked for, the lesser one counts, with
its last value, and another name may be given in between. -/
theorem get?_well_defined_spellings :
    let pairs := [("user-AGENT", "b"), ("USER-agent", "a"), ("Accept", "x"), ("USER-agent", "c")]
    let moved := [("Accept", "x"), ("USER-agent", "a"), ("USER-agent", "c"), ("user-AGENT", "b")]
    (ofList pairs).get? "User-Agent" = some "c" ∧ (ofList pairs).get? "Host" = none
      ∧ (ofList pairs).contains "ACCEPT" = (ofList pairs).contains "accept"
      ∧ (∀ s, moved.filter (·.1 == s) = pairs.filter (·.1 == s))
      ∧ (ofList moved).get? "User-Agent" = (ofList pairs).get? "User-Agent" := by
  intro pairs moved
  have hmoved : ∀ s, moved.filter (·.1 == s) = pairs.filter (·.1 == s) := by
    intro s
    by_cases hs : s ∈ ["user-AGENT", "USER-agent", "Accept"]
    · have hall : ∀ s ∈ ["user-AGENT", "USER-agent", "Accept"],
          moved.filter (·.1 == s) = pairs.filter (·.1 == s) := by decide
      exact hall s hs
    · simp only [List.mem_cons, List.not_mem_nil, or_false, not_or, eq_comm (a := s)] at hs
      simp [moved, pairs, hs]
  have hleast := (get?_well_defined pairs "User-Agent").1.least (by decide) (by decide +kernel)
    "USER-agent" (by decide) (by decide +kernel) (by decide +kernel)
  exact ⟨hleast.trans (by decide +kernel),
    (get?_well_defined pairs "Host").1.absent.mpr (by decide +kernel),
    (get?_well_defined pairs "accept").2.1 "ACCEPT" (by decide +kernel), hmoved,
    (get?_well_defined pairs "User-Agent").2.2 moved hmoved⟩

end Intercept.Headers
