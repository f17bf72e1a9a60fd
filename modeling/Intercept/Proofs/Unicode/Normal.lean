import Intercept.Proofs.Unicode.Table
import Intercept.Unicode.Normal

/-!
# Intercept.Proofs.Unicode.Normal -- normalisation leaves ASCII alone

A character of ASCII is not taken apart, is no mark, and is not put together with another one. So a
text in ASCII is its own normal form, and of any text the part in ASCII at its front stays, up to
its last character.
-/

namespace Intercept.Unicode

/-! ## What the tables hold -/

/-- No character of ASCII is taken apart or put behind another one. -/
def beyondAscii (e : Nat × List Nat) : Bool :=
  0x80 ≤ e.1 && (match e.2 with
    | [_, b] => 0x80 ≤ b && b < 0x200000
    | _ => true)

set_option maxRecDepth 1000000 in
theorem exists_decompositions : ∃ cs, decompositions = ExpansionTable.ofText (String.ofList cs)
    ∧ (expansionsOf cs).all beyondAscii = true := by
  refine Exists.intro ?cs (And.intro ?table ?entries)
  case table =>
    unfold decompositions
    with_reducible rfl
  case entries => decide +kernel

set_option maxRecDepth 100000 in
theorem exists_combiningClassTable : ∃ cs,
    combiningClassTable = RunTable.ofText (String.ofList cs)
    ∧ (runsOf cs).all (fun r => 0x80 ≤ r.first) = true := by
  refine Exists.intro ?cs (And.intro ?table ?runs)
  case table =>
    unfold combiningClassTable
    with_reducible rfl
  case runs => decide +kernel

variable {a b n k : Nat}

theorem combiningClass_ascii (hn : n < 0x80) : combiningClass n = 0 := by
  obtain ⟨cs, htable, hruns⟩ := exists_combiningClassTable
  have hfind : combiningClassTable.find? n = none := by
    rw [htable]
    exact RunTable.find?_eq_none fun r hr =>
      Nat.lt_of_lt_of_le hn (of_decide_eq_true (List.all_eq_true.mp hruns r hr))
  rw [combiningClass, hfind]
  rfl

theorem decompose_ascii (hn : n < 0x80) (fuel : Nat) : decompose fuel n = [n] := by
  obtain ⟨cs, htable, hentries⟩ := exists_decompositions
  have hfind : decompositions.find? n = none := by
    rw [htable]
    refine ExpansionTable.find?_eq_none fun e he => ?_
    have hbeyond := (Bool.and_eq_true_iff.mp (List.all_eq_true.mp hentries e he)).1
    exact Nat.lt_of_lt_of_le hn (of_decide_eq_true hbeyond)
  cases fuel with
  | zero => rfl
  | succ fuel =>
    rw [decompose, if_neg (by omega), hfind]
    rfl

/-- The second part of a pair that is put together is not in ASCII. -/
theorem of_mem_compositionPairs (h : (k, n) ∈ compositionPairs) :
    ∃ a b, k = a * 0x200000 + b ∧ 0x80 ≤ b ∧ b < 0x200000 := by
  obtain ⟨cs, htable, hentries⟩ := exists_decompositions
  rw [compositionPairs, List.mem_toArray, List.mem_mergeSort, List.mem_filterMap] at h
  obtain ⟨⟨m, ns⟩, hmem, hpair⟩ := h
  -- Only sequences of two give pairs, and such a sequence is that of an entry.
  rw [Array.toList_zip] at hmem
  have htarget := (List.of_mem_zip hmem).2
  rw [htable, expansionTable_ofList, List.mem_map] at htarget
  obtain ⟨e, he, rfl⟩ := htarget
  have hbeyond := (Bool.and_eq_true_iff.mp (List.all_eq_true.mp hentries e he)).2
  dsimp only at hpair
  split at hpair
  · next a b hsnd =>
    rw [Option.ite_none_left_eq_some] at hpair
    cases hpair.2
    rw [hsnd] at hbeyond
    obtain ⟨hlow, hhigh⟩ := Bool.and_eq_true_iff.mp hbeyond
    exact ⟨a, b, rfl, of_decide_eq_true hlow, of_decide_eq_true hhigh⟩
  · cases hpair

theorem composePair?_ascii (ha : a < 0x80) (hb : b < 0x80) : composePair? a b = none := by
  rw [composePair?, if_neg (by omega), if_neg (by omega), Option.eq_none_iff_forall_ne_some]
  intro m hm
  obtain ⟨p, hp, hkey⟩ := Option.bind_eq_some_iff.mp hm
  obtain ⟨i, -, hget⟩ := Option.bind_eq_some_iff.mp hp
  split at hkey
  · next heq =>
    obtain ⟨x, y, hxy, hlow, hhigh⟩ := of_mem_compositionPairs (Array.mem_of_getElem? hget)
    omega
  · cases hkey

/-! ## Texts -/

theorem reorder_cons (hn : combiningClass n = 0) (ns : List Nat) :
    reorder (n :: ns) = n :: reorder ns := by
  rw [reorder, List.foldr_cons, if_pos hn]
  dsimp only
  rw [List.mergeSort_nil, List.nil_append, reorder]

/-- A starter that is not put together with what follows it stays as it is. -/
theorem composeFrom_cons (ha : combiningClass a = 0) (hb : combiningClass b = 0)
    (hpair : composePair? a b = none) (ns : List Nat) :
    composeFrom none [] 0 (a :: b :: ns) = a :: composeFrom none [] 0 (b :: ns) := by
  simp [composeFrom, ha, hb, hpair]

variable {c d : Char}

/-- In front of a character of ASCII another one stays as it is. -/
theorem normalize_cons_ascii (hc : c.toNat < 0x80) (hd : d.toNat < 0x80) (rest : List Char) :
    normalize (c :: d :: rest) = c :: normalize (d :: rest) := by
  have hcls := combiningClass_ascii hc
  have hdls := combiningClass_ascii hd
  simp only [normalize, List.flatMap_cons, decompose_ascii hc, decompose_ascii hd,
    List.singleton_append, reorder_cons hcls, reorder_cons hdls,
    composeFrom_cons hcls hdls (composePair?_ascii hc hd), List.map_cons, Char.ofNat_toNat]

/-- A text in ASCII is its own normal form. -/
theorem normalize_ascii {cs : List Char} (h : ∀ c ∈ cs, c.toNat < 0x80) : normalize cs = cs := by
  match cs with
  | [] => simp [normalize, reorder, composeFrom]
  | [c] =>
    have hc := h c (List.mem_singleton_self c)
    have hcls := combiningClass_ascii hc
    simp only [normalize, List.flatMap_cons, List.flatMap_nil, decompose_ascii hc,
      List.singleton_append, reorder_cons hcls]
    simp [reorder, composeFrom, hcls]
  | c :: d :: rest =>
    rw [normalize_cons_ascii (h c List.mem_cons_self)
      (h d (List.mem_cons_of_mem c List.mem_cons_self)),
      normalize_ascii fun x hx => h x (List.mem_cons_of_mem c hx)]

end Intercept.Unicode
