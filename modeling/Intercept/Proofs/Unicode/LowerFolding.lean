import Intercept.Proofs.Unicode.CaseFolding
import Intercept.Unicode.CaseMapping

/-!
# Intercept.Proofs.Unicode.LowerFolding -- lower case up to folding

A text in lower case folds as the text itself does, but for the capital `i` with a dot, which
becomes two characters. The two letters that a capital sigma may become fold alike, so what stands
around it does not matter.
-/

namespace Intercept.Unicode

/-! ## The tables side by side -/

/-- The runs that contain the capital sigma and the small one at the end of a word. -/
def sigmas : List Run :=
  [{ first := 0x3a3, last := 0x3ab, step := 1, target := 0x3c3 },
    { first := 0x3c2, last := 0x3c2, step := 1, target := 0x3c3 }]

/-- Whether a run leads as one of some others does, or leads to where one of them comes from. -/
def Run.follows (runs : List Run) (r : Run) : Bool :=
  runs.contains r || runs.contains r.inverse

set_option maxRecDepth 100000 in
/-- Lower case goes where folding goes, or the way back. -/
theorem exists_lowerTable_foldTable : ∃ cs cs', lowerTable = RunTable.ofText (String.ofList cs)
    ∧ foldTable = RunTable.ofText (String.ofList cs')
    ∧ ((runsOf cs).all (Run.follows (runsOf cs'))
      && sigmas.all fun r => (runsOf cs').contains r) = true := by
  refine Exists.intro ?lower (Exists.intro ?folded (And.intro ?table (And.intro ?table' ?runs)))
  case table =>
    unfold lowerTable
    with_reducible rfl
  case table' =>
    unfold foldTable
    with_reducible rfl
  case runs => decide +kernel

theorem follows_of_mem_lowerTable {r : Run} (hr : r ∈ lowerTable.runs.toList) :
    r ∈ foldTable.runs.toList ∨ r.inverse ∈ foldTable.runs.toList := by
  obtain ⟨cs, cs', hlower, hfold, hcheck⟩ := exists_lowerTable_foldTable
  rw [hlower, runs_ofText] at hr
  rw [hfold, runs_ofText]
  have hfollows := List.all_eq_true.mp (Bool.and_eq_true_iff.mp hcheck).1 r hr
  simpa only [Run.follows, Bool.or_eq_true, List.contains_iff_mem] using hfollows

theorem mem_foldTable_of_mem_sigmas {r : Run} (hr : r ∈ sigmas) : r ∈ foldTable.runs.toList := by
  obtain ⟨cs, cs', -, hfold, hcheck⟩ := exists_lowerTable_foldTable
  rw [hfold, runs_ofText]
  exact List.contains_iff_mem.mp (List.all_eq_true.mp (Bool.and_eq_true_iff.mp hcheck).2 r hr)

/-! ## Code points -/

variable {n : Nat}

/-- A code point and its lower case fold alike. -/
theorem send_send_lowerTable (n : Nat) :
    foldTable.send (lowerTable.send n) = foldTable.send n := by
  rcases lowerTable.send_cases n with heq | ⟨r, hr, hcontains, heq⟩
  · rw [heq]
  · rcases follows_of_mem_lowerTable hr with hmem | hmem
    · rw [heq, ← folding.separate.send_of_mem hmem hcontains, send_send]
    · have hback : foldTable.send (lowerTable.send n) = n := by
        rw [heq, folding.separate.send_of_mem hmem (Run.contains_inverse hcontains)]
        show r.first + (r.target + (n - r.first) - r.target) = n
        rw [Nat.add_sub_cancel_left, Nat.add_sub_cancel' (Run.contains_iff.mp hcontains).1]
      have hstays : foldTable.send n = n := by
        have hagain := send_send (lowerTable.send n)
        rwa [hback] at hagain
      rw [hback, hstays]

theorem isValidChar_send_lowerTable (hn : n.isValidChar) : (lowerTable.send n).isValidChar := by
  rcases lowerTable.send_cases n with heq | ⟨r, hr, hcontains, heq⟩
  · rwa [heq]
  · rw [heq]
    rcases follows_of_mem_lowerTable hr with hmem | hmem
    · exact Run.isValidChar_of_spellable (folding.spellable r hmem).2
        (Run.contains_inverse hcontains)
    · exact Run.isValidChar_of_spellable (folding.spellable _ hmem).1
        (Run.contains_inverse hcontains)

/-! ## Characters -/

variable {c : Char}

/-- What a character becomes in lower case, up to folding. -/
def spread (c : Char) : List Char :=
  if c = 'İ' then ['i', '\u0307'] else [fold c]

theorem spread_of_ne (h : c ≠ 'İ') : spread c = [fold c] :=
  if_neg h

/-- Nothing folds to a loner but the loner itself. -/
theorem fold_eq_loner {d : Char} (hd : d.toNat ∈ loners) : fold c = d ↔ c = d := by
  rw [← Char.toNat_inj, toNat_fold, send_eq_loner hd, Char.toNat_inj]

theorem fold_toLower (c : Char) : fold c.toLower = fold c := by
  rw [fold_eq_fold_iff, toNat_toLower]
  split
  · next h =>
    rw [send_ascii (n := c.toNat) (by omega), if_pos h, send_ascii (by omega), if_neg (by omega)]
  · rfl

theorem fold_sigma {d : Char} (hd : d = 'ς' ∨ d = 'σ') : fold d = fold 'Σ' := by
  have hcapital : foldTable.send 'Σ'.toNat = 'σ'.toNat :=
    folding.separate.send_of_mem (mem_foldTable_of_mem_sigmas List.mem_cons_self) (by decide)
  have hfinal : foldTable.send 'ς'.toNat = 'σ'.toNat :=
    folding.separate.send_of_mem
      (mem_foldTable_of_mem_sigmas (List.mem_cons_of_mem _ List.mem_cons_self)) (by decide)
  rw [fold_eq_fold_iff, hcapital]
  rcases hd with rfl | rfl
  · exact hfinal
  · rw [← hcapital, send_send]

theorem map_fold_lowerChar (c : Char) : (lowerChar c).map fold = spread c := by
  rw [lowerChar]
  split
  · next h =>
    rw [spread_of_ne (by rintro rfl; exact absurd h (by decide)), List.map_singleton, fold_toLower]
  · split
    · next h =>
      obtain rfl : c = 'İ' := Char.toNat_inj.mp h
      have hletter : fold 'i' = 'i' := by
        rw [fold, if_pos (by decide)]
        rfl
      have hdot : fold (Char.ofNat 0x307) = '\u0307' := (fold_eq_loner (by decide)).mpr rfl
      rw [List.map_cons, List.map_singleton, hletter, hdot, spread, if_pos rfl]
    · next h =>
      have hvalid : (lowerTable.send c.toNat).isValidChar := isValidChar_send_lowerTable c.valid
      have hfold : fold (Char.ofNat (lowerTable.send c.toNat)) = fold c := by
        rw [fold_eq_fold_iff, toNat_ofNat_of_valid hvalid, send_send_lowerTable]
      rw [spread_of_ne (by rintro rfl; exact h rfl), List.map_singleton, hfold]

/-! ## Texts -/

/-- The lower case of a text, up to folding. -/
theorem map_fold_lowercase (cs : List Char) : (lowercase cs).map fold = cs.flatMap spread := by
  have hafter : ∀ before, (lowerAfter before cs).map fold = cs.flatMap spread := by
    induction cs with
    | nil =>
      intro before
      rfl
    | cons c cs ih =>
      intro before
      rw [lowerAfter, List.map_append, ih, List.flatMap_cons]
      congr 1
      split
      · next h =>
        rw [h, spread_of_ne (by decide)]
        split
        · rw [List.map_singleton, fold_sigma (.inl rfl)]
        · rw [List.map_singleton, fold_sigma (.inr rfl)]
      · exact map_fold_lowerChar c
  exact hafter []

/-- A text without the capital `i` with a dot folds as its lower case does. -/
theorem flatMap_spread {cs : List Char} (h : 'İ' ∉ cs) : cs.flatMap spread = cs.map fold := by
  induction cs with
  | nil => rfl
  | cons c cs ih =>
    rw [List.mem_cons, not_or] at h
    rw [List.flatMap_cons, spread_of_ne (Ne.symm h.1), ih h.2]
    rfl

/-- The case of an ASCII letter does not matter. -/
theorem spread_toLower (c : Char) : spread c.toLower = spread c := by
  have hall : ∀ n ≤ 90, 65 ≤ n → (Char.ofNat n).toLower ≠ 'İ' := by decide
  by_cases hc : c = 'İ'
  · rw [hc]
    rfl
  · have hlower : c.toLower ≠ 'İ' := by
      rcases Text.toLower_eq_or_capital c with heq | ⟨n, hhigh, hlow, rfl⟩
      · rwa [heq]
      · exact hall n hhigh hlow
    rw [spread_of_ne hlower, spread_of_ne hc, fold_toLower]

theorem flatMap_spread_asciiLower (cs : List Char) :
    (Text.asciiLower cs).flatMap spread = cs.flatMap spread := by
  rw [Text.asciiLower, List.flatMap_map]
  exact congrArg (cs.flatMap ·) (funext spread_toLower)

/-! ## Texts that stand in others -/

/-- A text stands in another one up to folding: a run of characters there folds as it does. -/
def StandsFolded (part cs : List Char) : Prop :=
  ∃ run, run <:+: cs ∧ run.map fold = part.map fold

variable {part cs run : List Char}

theorem standsFolded_iff : StandsFolded part cs ↔ part.map fold <:+: cs.map fold := by
  rw [List.infix_map_iff]
  exact exists_congr fun run => and_congr_right fun _ => eq_comm

/-- What a part of a text spreads to stands in the lower case of the text. -/
theorem infix_map_fold_lowercase (h : run <:+: cs) :
    run.flatMap spread <:+: (lowercase cs).map fold := by
  obtain ⟨front, back, rfl⟩ := h
  rw [map_fold_lowercase, List.flatMap_append, List.flatMap_append]
  exact ⟨_, _, rfl⟩

/-- The lower case of a text keeps the texts that stand in it and have no capital `i` with a dot. -/
theorem standsFolded_lowercase (hcapital : 'İ' ∉ part) (h : StandsFolded part cs) :
    StandsFolded part (lowercase cs) := by
  obtain ⟨run, hrun, hfold⟩ := h
  have hrunCapital : 'İ' ∉ run := by
    intro hmem
    have hmap : fold 'İ' ∈ part.map fold := hfold ▸ List.mem_map_of_mem hmem
    rw [(fold_eq_loner (by decide)).mpr rfl] at hmap
    obtain ⟨c, hc, heq⟩ := List.mem_map.mp hmap
    exact hcapital ((fold_eq_loner (by decide)).mp heq ▸ hc)
  rw [standsFolded_iff, ← hfold, ← flatMap_spread hrunCapital]
  exact infix_map_fold_lowercase hrun

section Spread

variable {xs : List Char} (hdot : '\u0307' ∉ xs) (hlast : xs.getLast? ≠ some 'i')

include hdot hlast

/-- A text that neither has the dot nor ends in an `i` cannot begin with what a capital `i` with a
dot spreads to. -/
theorem prefix_of_prefix_flatMap_spread (h : xs <+: cs.flatMap spread) : xs <+: cs.map fold := by
  induction cs generalizing xs with
  | nil => exact h
  | cons c cs ih =>
    cases xs with
    | nil => exact List.nil_prefix
    | cons x xs =>
      rw [List.mem_cons, not_or] at hdot
      rw [List.flatMap_cons] at h
      by_cases hc : c = 'İ'
      · rw [spread, if_pos hc, List.cons_append, List.cons_append, List.cons_prefix_cons] at h
        obtain ⟨rfl, hrest⟩ := h
        cases xs with
        | nil => exact absurd rfl hlast
        | cons y xs =>
          obtain ⟨rfl, -⟩ := List.cons_prefix_cons.mp hrest
          exact absurd List.mem_cons_self hdot.2
      · rw [spread_of_ne hc, List.singleton_append, List.cons_prefix_cons] at h
        refine List.cons_prefix_cons.mpr ⟨h.1, ?_⟩
        cases xs with
        | nil => exact List.nil_prefix
        | cons y xs => exact ih hdot.2 (by rwa [List.getLast?_cons_cons] at hlast) h.2

theorem infix_of_infix_flatMap_spread (h : xs <:+: cs.flatMap spread) : xs <:+: cs.map fold := by
  induction cs with
  | nil => exact h
  | cons c cs ih =>
    by_cases hfront : xs <+: (c :: cs).flatMap spread
    · exact (prefix_of_prefix_flatMap_spread hdot hlast hfront).isInfix
    · refine (ih ?_).trans (List.suffix_cons _ _).isInfix
      rw [List.flatMap_cons] at h hfront
      by_cases hc : c = 'İ'
      · rw [spread, if_pos hc, List.cons_append, List.cons_append] at h hfront
        rw [List.infix_cons_iff, List.infix_cons_iff] at h
        rcases h.resolve_left hfront with hnext | hrest
        · cases xs with
          | nil => exact List.nil_infix
          | cons x xs =>
            obtain ⟨rfl, -⟩ := List.cons_prefix_cons.mp hnext
            exact absurd List.mem_cons_self hdot
        · exact hrest
      · rw [spread_of_ne hc, List.singleton_append] at h hfront
        rw [List.infix_cons_iff] at h
        exact h.resolve_left hfront

end Spread

/-- Nothing comes to stand in a text when it is made small, except what ends in an `i` or has the
dot of one. -/
theorem standsFolded_of_lowercase (hdot : '\u0307' ∉ part)
    (hlast : ∀ c, part.getLast? = some c → fold c ≠ 'i') (h : StandsFolded part (lowercase cs)) :
    StandsFolded part cs := by
  rw [standsFolded_iff, map_fold_lowercase] at h
  rw [standsFolded_iff]
  refine infix_of_infix_flatMap_spread (fun hmem => ?_) (fun hend => ?_) h
  · obtain ⟨c, hc, heq⟩ := List.mem_map.mp hmem
    exact hdot ((fold_eq_loner (by decide)).mp heq ▸ hc)
  · rw [List.getLast?_map, Option.map_eq_some_iff] at hend
    obtain ⟨c, hc, heq⟩ := hend
    exact hlast c hc heq

end Intercept.Unicode
