import Intercept.Proofs.Text.Case
import Intercept.Proofs.Unicode.Table
import Intercept.Unicode.CaseFolding

/-!
# Intercept.Proofs.Unicode.CaseFolding -- characters that are the same up to case
-/

namespace Intercept.Unicode

namespace Run

variable {r r' : Run} {n : Nat}

/-- The run that leads back. -/
def inverse (r : Run) : Run :=
  { first := r.target, last := r.target + (r.last - r.first), step := r.step, target := r.first }

/-- Whether a run leaves out every other code point. -/
def skips (r : Run) : Bool := r.step == 2 || r.first == r.last

/-- Whether two runs can be seen to share no code point. -/
def apart (r r' : Run) : Bool :=
  Nat.blt r.last r'.first || Nat.blt r'.last r.first
    || (r.skips && r'.skips && r.first % 2 != r'.first % 2)

/-- Whether all code points of a run are characters. -/
def spellable (r : Run) : Bool :=
  r.last < 0xd800 || (0xe000 ≤ r.first && r.last < 0x110000)

theorem contains_inverse (h : r.contains n = true) :
    r.inverse.contains (r.target + (n - r.first)) = true := by
  obtain ⟨hfirst, hlast, hstep⟩ := contains_iff.mp h
  refine contains_iff.mpr ⟨Nat.le_add_right _ _, ?_, ?_⟩
  · show _ ≤ r.target + (r.last - r.first)
    omega
  · show (r.target + (n - r.first) - r.target) % r.step = 0
    rw [Nat.add_sub_cancel_left, hstep]

theorem mod_two_of_skips (hskips : r.skips = true) (h : r.contains n = true) :
    n % 2 = r.first % 2 := by
  obtain ⟨hfirst, hlast, hstep⟩ := contains_iff.mp h
  rcases Bool.or_eq_true_iff.mp hskips with htwo | hsingle
  · rw [beq_iff_eq] at htwo
    rw [htwo] at hstep
    omega
  · rw [beq_iff_eq] at hsingle
    rw [Nat.le_antisymm (hsingle ▸ hlast) hfirst]

theorem contains_eq_false_of_apart (hapart : r.apart r' = true) (h : r.contains n = true) :
    r'.contains n = false := by
  rw [← Bool.not_eq_true]
  intro h'
  obtain ⟨hfirst, hlast, -⟩ := contains_iff.mp h
  obtain ⟨hfirst', hlast', -⟩ := contains_iff.mp h'
  simp only [apart, Bool.or_eq_true, Bool.and_eq_true, Nat.blt_eq, bne_iff_ne] at hapart
  rcases hapart with (hlt | hlt) | ⟨⟨hskips, hskips'⟩, hne⟩
  · omega
  · omega
  · exact hne ((mod_two_of_skips hskips h).symm.trans (mod_two_of_skips hskips' h'))

theorem isValidChar_of_spellable (hr : r.spellable = true) (h : r.contains n = true) :
    n.isValidChar := by
  obtain ⟨hfirst, hlast, -⟩ := contains_iff.mp h
  simp only [spellable, Bool.or_eq_true, Bool.and_eq_true, decide_eq_true_eq] at hr
  rw [Nat.isValidChar]
  omega

end Run

/-- The run of the capitals of ASCII. -/
def capitals : Run := { first := 0x41, last := 0x5a, step := 1, target := 0x61 }

/-- Characters that nothing else folds to and that fold to nothing else: the capital `i` with a dot,
and the dot above. -/
def loners : List Nat := [0x130, 0x307]

/-- What the kernel checks of the runs by which characters fold: no target is listed itself. -/
def foldingCheck (runs : List Run) : Bool :=
  runs.all (fun r => r.first ≤ r.last && r.spellable && r.inverse.spellable
      && (0x80 ≤ r.first || r == capitals)
      && loners.all fun n => !r.contains n && !r.inverse.contains n)
    && decide (runs.Pairwise fun r r' => r.last < r'.first)
    && runs.all (fun r => runs.all fun r' => r.inverse.apart r')
    && runs.contains capitals

set_option maxRecDepth 100000 in
theorem exists_foldTable : ∃ cs, foldTable = RunTable.ofText (String.ofList cs)
    ∧ foldingCheck (runsOf cs) = true := by
  refine Exists.intro ?cs (And.intro ?table ?runs)
  case table =>
    unfold foldTable
    with_reducible rfl
  case runs => decide +kernel

/-- The facts about the folding table on which everything else rests. -/
structure Folding : Prop where
  separate : foldTable.Separate
  settled : ∀ r ∈ foldTable.runs.toList, ∀ r' ∈ foldTable.runs.toList,
    r.inverse.apart r' = true
  spellable : ∀ r ∈ foldTable.runs.toList, r.spellable = true ∧ r.inverse.spellable = true
  capitals_mem : capitals ∈ foldTable.runs.toList
  eq_capitals : ∀ r ∈ foldTable.runs.toList, r.first < 0x80 → r = capitals
  loners : ∀ r ∈ foldTable.runs.toList, ∀ n ∈ loners,
    r.contains n = false ∧ r.inverse.contains n = false

theorem folding : Folding := by
  obtain ⟨cs, htable, hcheck⟩ := exists_foldTable
  have hruns : foldTable.runs.toList = runsOf cs := by rw [htable, runs_ofText]
  simp only [foldingCheck, Bool.and_eq_true, Bool.or_eq_true, List.all_eq_true,
    decide_eq_true_eq, List.contains_iff_mem, beq_iff_eq, Bool.not_eq_true'] at hcheck
  obtain ⟨⟨⟨heach, hapart⟩, hsettled⟩, hcapitals⟩ := hcheck
  rw [← hruns] at heach hapart hsettled hcapitals
  refine ⟨⟨?_, fun r hr => (heach r hr).1.1.1.1, hapart⟩, hsettled,
    fun r hr => ⟨(heach r hr).1.1.1.2, (heach r hr).1.1.2⟩, hcapitals, fun r hr hlt => ?_,
    fun r hr => (heach r hr).2⟩
  · rw [htable]
    rfl
  · exact (heach r hr).1.2.resolve_left (Nat.not_le.mpr hlt)

/-! ## Code points -/

variable {n : Nat} {r : Run}

/-- A target folds to itself. -/
theorem send_send (n : Nat) : foldTable.send (foldTable.send n) = foldTable.send n := by
  rcases foldTable.send_cases n with heq | ⟨r, hr, hcontains, heq⟩
  · rw [heq, heq]
  · refine RunTable.send_of_not_contains fun r' hr' => ?_
    rw [heq]
    exact Run.contains_eq_false_of_apart (folding.settled r hr r' hr')
      (Run.contains_inverse hcontains)

theorem isValidChar_send (hn : n.isValidChar) : (foldTable.send n).isValidChar := by
  rcases foldTable.send_cases n with heq | ⟨r, hr, hcontains, heq⟩
  · rwa [heq]
  · rw [heq]
    exact Run.isValidChar_of_spellable (folding.spellable r hr).2 (Run.contains_inverse hcontains)

/-- Nothing folds to a loner but the loner itself. -/
theorem send_eq_loner {k : Nat} (hk : k ∈ loners) : foldTable.send n = k ↔ n = k := by
  constructor
  · intro h
    rcases foldTable.send_cases n with heq | ⟨r, hr, hcontains, heq⟩
    · exact heq.symm.trans h
    · have hinverse := Run.contains_inverse hcontains
      rw [← heq, h, (folding.loners r hr k hk).2] at hinverse
      cases hinverse
  · rintro rfl
    exact RunTable.send_of_not_contains fun r hr => (folding.loners r hr n hk).1

/-- Among the characters of ASCII, the capitals fold to small letters. -/
theorem send_ascii (hn : n < 0x80) :
    foldTable.send n = if 0x41 ≤ n ∧ n ≤ 0x5a then n + 0x20 else n := by
  have hcapitals : capitals.contains n = true ↔ 0x41 ≤ n ∧ n ≤ 0x5a := by
    simp [Run.contains_iff, capitals, Nat.mod_one]
  split
  · next h =>
    rw [folding.separate.send_of_mem folding.capitals_mem (hcapitals.mpr h)]
    show 0x61 + (n - 0x41) = n + 0x20
    omega
  · next h =>
    refine RunTable.send_of_not_contains fun r hr => ?_
    rw [← Bool.not_eq_true]
    intro hcontains
    have hfirst := (Run.contains_iff.mp hcontains).1
    obtain rfl := folding.eq_capitals r hr (Nat.lt_of_le_of_lt hfirst hn)
    exact h (hcapitals.mp hcontains)

/-! ## Characters -/

theorem toNat_ofNat_of_valid (hn : n.isValidChar) : (Char.ofNat n).toNat = n := by
  rw [show Char.ofNat n = Char.ofNatAux n hn from dif_pos hn]
  rfl

theorem toNat_toLower (c : Char) : c.toLower.toNat
    = if 0x41 ≤ c.toNat ∧ c.toNat ≤ 0x5a then c.toNat + 0x20 else c.toNat := by
  have hall : ∀ n ≤ 90, 65 ≤ n →
      (Char.ofNat n).toNat = n ∧ (Char.ofNat n).toLower.toNat = n + 32 := by decide
  split
  · next h => rw [← (hall c.toNat h.2 h.1).2, Char.ofNat_toNat]
  · next h =>
    rcases Text.toLower_eq_or_capital c with heq | ⟨n, hhigh, hlow, rfl⟩
    · rw [heq]
    · rw [(hall n hhigh hlow).1] at h
      exact absurd ⟨hlow, hhigh⟩ h

/-- Folding is what the table says, for the characters of ASCII too. -/
theorem toNat_fold (c : Char) : (fold c).toNat = foldTable.send c.toNat := by
  rw [fold]
  split
  · next h => rw [send_ascii h, toNat_toLower c]
  · exact toNat_ofNat_of_valid (isValidChar_send c.valid)

theorem fold_eq_fold_iff {c d : Char} :
    fold c = fold d ↔ foldTable.send c.toNat = foldTable.send d.toNat := by
  rw [← toNat_fold, ← toNat_fold, Char.toNat_inj]

theorem fold_fold (c : Char) : fold (fold c) = fold c := by
  rw [fold_eq_fold_iff, toNat_fold, send_send]

/-! ## Characters that fold alike -/

section Sources

variable {pairs : Array (Nat × Nat)} {target s i j : Nat}

theorem of_mem_sourcesFrom (h : s ∈ sourcesFrom pairs target i) : (target, s) ∈ pairs.toList := by
  induction i with
  | zero => cases h
  | succ i ih =>
    rw [sourcesFrom] at h
    split at h
    · next t s' hget =>
      split at h
      · next ht =>
        rcases List.mem_cons.mp h with rfl | h
        · exact Array.mem_toList_iff.mpr (ht ▸ Array.mem_of_getElem? hget)
        · exact ih h
      · cases h
    · cases h

/-- Pairs with one target that stand side by side are collected together. -/
theorem mem_sourcesFrom (hj : pairs[j]? = some (target, s)) (hji : j < i)
    (hall : ∀ k, j ≤ k → k < i → ∃ s, pairs[k]? = some (target, s)) :
    s ∈ sourcesFrom pairs target i := by
  induction i with
  | zero => exact absurd hji (Nat.not_lt_zero j)
  | succ i ih =>
    obtain ⟨s', hs'⟩ := hall i (Nat.le_of_lt_succ hji) (Nat.lt_succ_self i)
    rw [sourcesFrom, hs']
    show s ∈ if target = target then s' :: sourcesFrom pairs target i else []
    rw [if_pos rfl]
    rcases Nat.eq_or_lt_of_le (Nat.le_of_lt_succ hji) with rfl | hlt
    · rw [hj] at hs'
      exact List.mem_cons.mpr (.inl (Prod.mk.inj (Option.some.inj hs')).2)
    · refine List.mem_cons_of_mem _ (ih hlt fun k hjk hki => ?_)
      exact hall k hjk (Nat.lt_succ_of_lt hki)

theorem mem_sourcesOf (h : pairs.toList.Pairwise fun p q => p.1 ≤ q.1) :
    s ∈ sourcesOf pairs (pairs.map Prod.fst) target ↔ (target, s) ∈ pairs.toList := by
  constructor
  · intro hs
    rw [sourcesOf] at hs
    split at hs
    · cases hs
    · exact of_mem_sourcesFrom hs
  · intro hs
    obtain ⟨j, hj⟩ := Array.getElem?_of_mem (Array.mem_toList_iff.mp hs)
    have hascending : (pairs.map Prod.fst).toList.Pairwise (· ≤ ·) := by
      rwa [Array.toList_map, List.pairwise_map]
    have hkey : (pairs.map Prod.fst)[j]? = some target := by simp [hj]
    obtain ⟨i, hi, hji⟩ := exists_lastIndexLE? hascending hkey (Nat.le_refl target)
    obtain ⟨k, hk, hkle⟩ := lastIndexLE?_eq_some hi
    rw [sourcesOf, hi]
    refine mem_sourcesFrom hj (Nat.lt_succ_of_le hji) fun m hjm hmi => ?_
    -- Everything from the pair to the last one that is small enough has the target.
    rw [Array.getElem?_map, Option.map_eq_some_iff] at hk
    obtain ⟨q, hq, rfl⟩ := hk
    obtain ⟨hisize, higet⟩ := Array.getElem?_eq_some_iff.mp hq
    have hmsize : m < pairs.size := by omega
    have hbelow := getD_le_getD hascending hjm (by rwa [Array.size_map])
    have habove := getD_le_getD hascending (Nat.le_of_lt_succ hmi) (by rwa [Array.size_map])
    simp only [Array.getD_eq_getD_getElem?, Array.getElem?_map, hj, hq,
      Array.getElem?_eq_getElem hmsize, Option.map_some, Option.getD_some] at hbelow habove
    refine ⟨pairs[m].2, ?_⟩
    rw [Array.getElem?_eq_getElem hmsize, Nat.le_antisymm hbelow (Nat.le_trans habove hkle)]

end Sources

theorem unfoldPairs_toList : unfoldPairs.toList
    = (foldTable.toList.map fun p => (p.2, p.1)).mergeSort fun p q => p.1 ≤ q.1 := by
  simp [unfoldPairs]

theorem pairwise_unfoldPairs : unfoldPairs.toList.Pairwise fun p q => p.1 ≤ q.1 := by
  rw [unfoldPairs_toList]
  refine (List.pairwise_mergeSort (fun a b c hab hbc => ?_) (fun a b => ?_) _).imp
    of_decide_eq_true
  · rw [decide_eq_true_eq] at *
    exact Nat.le_trans hab hbc
  · rw [Bool.or_eq_true, decide_eq_true_eq, decide_eq_true_eq]
    exact Nat.le_total _ _

/-- The pairs are the code points that a run contains, behind where they fold to. -/
theorem mem_unfoldPairs {k : Nat} : (k, n) ∈ unfoldPairs.toList ↔
    ∃ r ∈ foldTable.runs.toList, r.contains n = true ∧ foldTable.send n = k := by
  rw [unfoldPairs_toList, List.mem_mergeSort, List.mem_map]
  constructor
  · rintro ⟨p, hp, heq⟩
    obtain ⟨rfl, rfl⟩ := Prod.mk.inj heq
    obtain ⟨r, hr, hcontains, hsend⟩ := folding.separate.mem_toList.mp hp
    exact ⟨r, hr, hcontains, hsend⟩
  · rintro ⟨r, hr, hcontains, rfl⟩
    exact ⟨(n, foldTable.send n), folding.separate.mem_toList.mpr ⟨r, hr, hcontains, rfl⟩, rfl⟩

/-- The variants of a character are those that fold as it does. -/
theorem mem_caseVariants {c d : Char} : d ∈ caseVariants c ↔ fold d = fold c := by
  have hsources : ∀ {s}, s ∈ sourcesOf unfoldPairs unfoldKeys (fold c).toNat ↔
      ∃ r ∈ foldTable.runs.toList, r.contains s = true ∧ foldTable.send s = (fold c).toNat := by
    intro s
    rw [unfoldKeys, mem_sourcesOf pairwise_unfoldPairs, mem_unfoldPairs]
  simp only [caseVariants, List.mem_cons, List.mem_filter, List.mem_map, decide_eq_true_eq,
    hsources]
  constructor
  · rintro (rfl | ⟨⟨n, rfl | ⟨r, hr, hcontains, hsend⟩, rfl⟩, -⟩)
    · rfl
    · rw [Char.ofNat_toNat, fold_fold]
    · have hvalid := Run.isValidChar_of_spellable (folding.spellable r hr).1 hcontains
      rw [fold_eq_fold_iff, toNat_ofNat_of_valid hvalid, hsend, toNat_fold]
  · intro h
    by_cases heq : d = c
    · exact .inl heq
    · refine .inr ⟨⟨d.toNat, ?_, Char.ofNat_toNat d⟩, heq⟩
      have hsend : foldTable.send d.toNat = (fold c).toNat := by rw [← h, toNat_fold]
      rcases foldTable.send_cases d.toNat with hstays | ⟨r, hr, hcontains, -⟩
      · exact .inl (hstays.symm.trans hsend)
      · exact .inr ⟨r, hr, hcontains, hsend⟩

end Intercept.Unicode
