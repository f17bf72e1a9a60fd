import Intercept.Proofs.Text.Blanks

/-!
# Intercept.Proofs.Text.Case -- small letters

Making ASCII capitals small is done once and for all: it changes nothing in what it has made, and it
neither makes nor removes a blank.
-/

namespace Intercept.Text

open Intercept.Unicode (isBlank)

/-! ## Characters -/

/-- Only the 26 capitals are changed. -/
theorem toLower_eq_or_capital (c : Char) :
    c.toLower = c ∨ ∃ n, n ≤ 90 ∧ 65 ≤ n ∧ c = Char.ofNat n := by
  by_cases h : c.val ≥ 'A'.val ∧ c.val ≤ 'Z'.val
  · have hlow : 65 ≤ c.toNat := UInt32.le_iff_toNat_le.mp h.1
    have hhigh : c.toNat ≤ 90 := UInt32.le_iff_toNat_le.mp h.2
    exact Or.inr ⟨c.toNat, hhigh, hlow, c.ofNat_toNat.symm⟩
  · exact Or.inl (dif_neg h)

theorem toLower_toLower (c : Char) : c.toLower.toLower = c.toLower := by
  have hall : ∀ n ≤ 90, 65 ≤ n →
      (Char.ofNat n).toLower.toLower = (Char.ofNat n).toLower := by decide
  rcases toLower_eq_or_capital c with h | ⟨n, hhigh, hlow, rfl⟩
  · rw [h, h]
  · exact hall n hhigh hlow

theorem isBlank_toLower (c : Char) : isBlank c.toLower = isBlank c := by
  have hall : ∀ n ≤ 90, 65 ≤ n →
      isBlank (Char.ofNat n).toLower = isBlank (Char.ofNat n) := by decide
  rcases toLower_eq_or_capital c with h | ⟨n, hhigh, hlow, rfl⟩
  · rw [h]
  · exact hall n hhigh hlow

theorem toLower_of_isDigit {c : Char} (h : c.isDigit = true) : c.toLower = c := by
  have hall : ∀ n ≤ 90, 65 ≤ n → (Char.ofNat n).isDigit = false := by decide
  rcases toLower_eq_or_capital c with heq | ⟨n, hhigh, hlow, rfl⟩
  · exact heq
  · rw [hall n hhigh hlow] at h
    cases h

/-- Only small letters come of other characters. -/
theorem eq_of_toLower_eq {c d : Char} (hd : d.isLower = false) (h : c.toLower = d) : c = d := by
  have hall : ∀ n ≤ 90, 65 ≤ n → (Char.ofNat n).toLower.isLower = true := by decide
  rcases toLower_eq_or_capital c with heq | ⟨n, hhigh, hlow, rfl⟩
  · rwa [heq] at h
  · rw [← h, hall n hhigh hlow] at hd
    cases hd

/-! ## Texts -/

theorem mem_of_mem_asciiLower {c : Char} {cs : List Char} (hc : c.isLower = false)
    (h : c ∈ asciiLower cs) : c ∈ cs := by
  obtain ⟨d, hd, hdc⟩ := List.mem_map.mp h
  exact eq_of_toLower_eq hc hdc ▸ hd

theorem asciiLower_asciiLower (cs : List Char) : asciiLower (asciiLower cs) = asciiLower cs := by
  rw [asciiLower, asciiLower, List.map_map]
  exact List.map_congr_left fun c _ => toLower_toLower c

theorem trimStart_asciiLower (cs : List Char) :
    trimStart (asciiLower cs) = asciiLower (trimStart cs) := by
  induction cs with
  | nil => rfl
  | cons c cs ih =>
    show trimStart (c.toLower :: asciiLower cs) = _
    rw [trimStart_cons, trimStart_cons, isBlank_toLower]
    split
    · exact ih
    · rfl

theorem trimEnd_asciiLower (cs : List Char) :
    trimEnd (asciiLower cs) = asciiLower (trimEnd cs) := by
  induction cs with
  | nil => rfl
  | cons c cs ih =>
    show trimEnd (c.toLower :: asciiLower cs) = _
    rw [trimEnd, trimEnd, ih, isBlank_toLower]
    cases trimEnd cs with
    | nil =>
      show (if isBlank c then [] else [c.toLower]) = asciiLower (if isBlank c then [] else [c])
      split <;> rfl
    | cons d r => rfl

theorem trim_asciiLower (cs : List Char) : trim (asciiLower cs) = asciiLower (trim cs) := by
  rw [trim, trim, trimStart_asciiLower, trimEnd_asciiLower]

end Intercept.Text
