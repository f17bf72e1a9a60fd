import Intercept.Proofs.Text.Case
import Intercept.Proofs.Unicode.Table
import Intercept.Unicode.CaseMapping

/-!
# Intercept.Proofs.Unicode.CaseMapping -- changing case adds no separator

Making a text small or large sends letters to letters. In particular lower case makes no line feed,
so a text that is one line still is one, and upper case makes no comma, so a text between commas is
still between the same ones.
-/

namespace Intercept.Unicode

/-! ## Tables of runs -/

/-- If no run of a table leads below a bound, then the table sends nothing below it that was not. -/
theorem lt_send {t : RunTable} {bound n : Nat} (h : ∀ r ∈ t.runs.toList, bound < r.target)
    (hn : bound < n) : bound < t.send n := by
  rcases t.send_cases n with heq | ⟨r, hr, -, heq⟩
  · rwa [heq]
  · exact heq ▸ Nat.lt_add_right _ (h r hr)

set_option maxRecDepth 100000 in
/-- The characters of the notation have to be spelled out before the kernel can look at them. -/
theorem exists_lowerTable : ∃ cs, lowerTable = RunTable.ofText (String.ofList cs)
    ∧ (runsOf cs).all (fun r => 10 < r.target) = true := by
  refine Exists.intro ?cs (And.intro ?table ?runs)
  case table =>
    unfold lowerTable
    with_reducible rfl
  case runs => decide +kernel

/-- Lower case letters lie behind the line feed, which is character 10. -/
theorem ten_lt_send_lowerTable {n : Nat} (hn : 10 < n) : 10 < lowerTable.send n := by
  obtain ⟨cs, htable, hruns⟩ := exists_lowerTable
  rw [htable]
  refine lt_send (fun r hr => ?_) hn
  rw [runs_ofText] at hr
  exact of_decide_eq_true (List.all_eq_true.mp hruns r hr)

/-! ## Lower case -/

/-- What is no code point counts as the first character, which is why that one is left out. -/
theorem ofNat_ne {c : Char} {n : Nat} (hc : c ≠ '\x00') (hn : c.toNat < n) : Char.ofNat n ≠ c := by
  intro h
  by_cases hvalid : n.isValidChar
  · have hchar : Char.ofNat n = Char.ofNatAux n hvalid := dif_pos hvalid
    have hval : n = c.toNat := congrArg Char.toNat (hchar.symm.trans h)
    exact Nat.ne_of_gt hn hval
  · have hchar : Char.ofNat n = '\x00' := dif_neg hvalid
    exact hc (h.symm.trans hchar)

theorem toLower_ne_newline {c : Char} (h : c ≠ '\n') : c.toLower ≠ '\n' := by
  have hall : ∀ n ≤ 90, 65 ≤ n → (Char.ofNat n).toLower ≠ '\n' := by decide
  rcases Text.toLower_eq_or_capital c with heq | ⟨n, hhigh, hlow, rfl⟩
  · rwa [heq]
  · exact hall n hhigh hlow

theorem newline_not_mem_lowerChar {c : Char} (h : c ≠ '\n') : '\n' ∉ lowerChar c := by
  unfold lowerChar
  split
  · rw [List.mem_singleton]
    exact (toLower_ne_newline h).symm
  · next hascii =>
    split
    · decide
    · rw [List.mem_singleton]
      exact (ofNat_ne (by decide) (ten_lt_send_lowerTable (by omega))).symm

theorem newline_not_mem_lowercase {cs : List Char} (h : '\n' ∉ cs) : '\n' ∉ lowercase cs := by
  have hafter : ∀ before, '\n' ∉ lowerAfter before cs := by
    induction cs with
    | nil =>
      intro before
      exact List.not_mem_nil
    | cons c cs ih =>
      intro before
      rw [List.mem_cons, not_or] at h
      rw [lowerAfter, List.mem_append, not_or]
      refine ⟨?_, ih h.2 _⟩
      -- The sigma has two small letters, and neither is a line feed.
      split
      · split <;> decide
      · exact newline_not_mem_lowerChar (Ne.symm h.1)
  exact hafter []

/-! ## Upper case -/

set_option maxRecDepth 100000 in
/-- Capitals lie behind the comma, which is character 44. -/
theorem exists_upperTable : ∃ cs, upperTable = RunTable.ofText (String.ofList cs)
    ∧ (runsOf cs).all (fun r => 44 < r.target) = true := by
  refine Exists.intro ?cs (And.intro ?table ?runs)
  case table =>
    unfold upperTable
    with_reducible rfl
  case runs => decide +kernel

set_option maxRecDepth 100000 in
theorem exists_upperExpansions : ∃ cs, upperExpansions = ExpansionTable.ofText (String.ofList cs)
    ∧ (expansionsOf cs).all (fun e => e.2.all (44 < ·)) = true := by
  refine Exists.intro ?cs (And.intro ?table ?entries)
  case table =>
    unfold upperExpansions
    with_reducible rfl
  case entries => decide +kernel

theorem lt_send_upperTable {n : Nat} (hn : 44 < n) : 44 < upperTable.send n := by
  obtain ⟨cs, htable, hruns⟩ := exists_upperTable
  rw [htable]
  refine lt_send (fun r hr => ?_) hn
  rw [runs_ofText] at hr
  exact of_decide_eq_true (List.all_eq_true.mp hruns r hr)

theorem lt_of_mem_upperExpansions {n m : Nat} {ns : List Nat}
    (h : upperExpansions.find? n = some ns) (hm : m ∈ ns) : 44 < m := by
  obtain ⟨cs, htable, hentries⟩ := exists_upperExpansions
  rw [htable] at h
  have hentry := List.all_eq_true.mp hentries _ (ExpansionTable.mem_of_find? h)
  exact of_decide_eq_true (List.all_eq_true.mp hentry m hm)

theorem comma_not_mem_upperChar {c : Char} (h : c ≠ ',') : ',' ∉ upperChar c := by
  have hascii : ∀ n < 0x80, n ≠ 44 → (Char.ofNat n).toUpper ≠ ',' := by decide
  unfold upperChar
  split
  · next hc =>
    rw [List.mem_singleton]
    have hne : c.toNat ≠ 44 := fun heq => h (by rw [← c.ofNat_toNat, heq])
    have hupper := hascii c.toNat hc hne
    rw [c.ofNat_toNat] at hupper
    exact hupper.symm
  · next hc =>
    split
    · next ns hfind =>
      intro hmem
      obtain ⟨m, hm, hchar⟩ := List.mem_map.mp hmem
      exact ofNat_ne (by decide) (lt_of_mem_upperExpansions hfind hm) hchar
    · rw [List.mem_singleton]
      exact (ofNat_ne (by decide) (lt_send_upperTable (by omega))).symm

end Intercept.Unicode
