import Intercept.Text.Scan

/-!
# Intercept.Proofs.Text.Blanks -- what trimming keeps

Trimming cuts runs of blanks off both sides of a text and nothing else. The facts are stated for a
text that is written as a concatenation, since that is how the readers of lines take a line apart: a
side of blanks falls away, and what stands behind a character that is no blank stays.
-/

namespace Intercept.Text

open Intercept.Unicode (isBlank)

/-- Every character of a text is blank. -/
def AllBlank (cs : List Char) : Prop := ∀ c ∈ cs, isBlank c = true

/-- No character of a text is blank. -/
def NoBlank (cs : List Char) : Prop := ∀ c ∈ cs, isBlank c = false

instance (cs : List Char) : Decidable (AllBlank cs) :=
  List.decidableBAll (fun c => isBlank c = true) cs

instance (cs : List Char) : Decidable (NoBlank cs) :=
  List.decidableBAll (fun c => isBlank c = false) cs

/-- A text that is empty or begins with a blank, as what follows a word does. -/
def BlankFirst (cs : List Char) : Prop := ∀ c, cs.head? = some c → isBlank c = true

/-- A text that is empty or ends with a blank, as what stands in front of a word does. -/
def BlankLast (cs : List Char) : Prop := ∀ c, cs.getLast? = some c → isBlank c = true

@[simp]
theorem allBlank_nil : AllBlank [] := by simp [AllBlank]

@[simp]
theorem noBlank_nil : NoBlank [] := by simp [NoBlank]

@[simp]
theorem noBlank_cons {c : Char} {cs : List Char} :
    NoBlank (c :: cs) ↔ isBlank c = false ∧ NoBlank cs := by
  simp [NoBlank]

@[simp]
theorem noBlank_append {a b : List Char} : NoBlank (a ++ b) ↔ NoBlank a ∧ NoBlank b := by
  simp [NoBlank, or_imp, forall_and]

theorem allBlank_append {a b : List Char} : AllBlank (a ++ b) ↔ AllBlank a ∧ AllBlank b :=
  List.forall_mem_append

theorem not_mem_of_noBlank {c : Char} (hc : isBlank c = true) {cs : List Char} (h : NoBlank cs) :
    c ∉ cs := by
  intro hmem
  rw [h c hmem] at hc
  cases hc

theorem newline_not_mem_of_noBlank {cs : List Char} (h : NoBlank cs) : '\n' ∉ cs :=
  not_mem_of_noBlank (by decide) h

@[simp]
theorem blankFirst_nil : BlankFirst [] := by simp [BlankFirst]

@[simp]
theorem blankFirst_cons {c : Char} {cs : List Char} :
    BlankFirst (c :: cs) ↔ isBlank c = true := by
  simp [BlankFirst]

theorem blankFirst_append_of_allBlank {b r : List Char} (hb : AllBlank b) (hne : b ≠ []) :
    BlankFirst (b ++ r) := by
  obtain ⟨c, b', rfl⟩ := List.exists_cons_of_ne_nil hne
  exact blankFirst_cons.mpr (hb c List.mem_cons_self)

theorem blankFirst_append {a b : List Char} (ha : BlankFirst a) (hb : AllBlank b) :
    BlankFirst (a ++ b) := by
  cases a with
  | nil =>
    intro c hc
    exact hb c (List.mem_of_mem_head? hc)
  | cons c a => exact blankFirst_cons.mpr (blankFirst_cons.mp ha)

/-! ## The front -/

@[simp]
theorem trimStart_nil : trimStart [] = [] := rfl

theorem trimStart_cons {c : Char} {cs : List Char} :
    trimStart (c :: cs) = if isBlank c then trimStart cs else c :: cs := by
  simp [trimStart, List.dropWhile_cons]

theorem trimStart_cons_of_blank {c : Char} {cs : List Char} (hc : isBlank c = true) :
    trimStart (c :: cs) = trimStart cs := by
  rw [trimStart_cons, if_pos hc]

theorem trimStart_cons_of_not_blank {c : Char} {cs : List Char} (hc : isBlank c = false) :
    trimStart (c :: cs) = c :: cs := by
  rw [trimStart_cons, hc]
  rfl

theorem trimStart_append_of_allBlank {a : List Char} (ha : AllBlank a) (b : List Char) :
    trimStart (a ++ b) = trimStart b := by
  induction a with
  | nil => rfl
  | cons c a ih =>
    rw [List.cons_append, trimStart_cons_of_blank (ha c (by simp))]
    exact ih fun d hd => ha d (List.mem_cons_of_mem c hd)

theorem trimStart_append_of_noBlank {a : List Char} (ha : NoBlank a) (hne : a ≠ [])
    (b : List Char) : trimStart (a ++ b) = a ++ b := by
  cases a with
  | nil => exact absurd rfl hne
  | cons c a => exact trimStart_cons_of_not_blank (ha c (by simp))

theorem trimStart_append_of_ne_nil {a : List Char} (ha : trimStart a ≠ []) (b : List Char) :
    trimStart (a ++ b) = trimStart a ++ b := by
  induction a with
  | nil => exact absurd rfl ha
  | cons c a ih =>
    by_cases hc : isBlank c = true
    · rw [trimStart_cons_of_blank hc] at ha ⊢
      rw [List.cons_append, trimStart_cons_of_blank hc, ih ha]
    · rw [Bool.not_eq_true] at hc
      rw [List.cons_append, trimStart_cons_of_not_blank hc, trimStart_cons_of_not_blank hc,
        List.cons_append]

/-- A trimmed front does not begin with a blank. -/
theorem not_blank_of_trimStart_eq {cs r : List Char} {c : Char} (h : trimStart cs = c :: r) :
    isBlank c = false := by
  induction cs with
  | nil => simp at h
  | cons d cs ih =>
    by_cases hd : isBlank d = true
    · rw [trimStart_cons_of_blank hd] at h
      exact ih h
    · rw [Bool.not_eq_true] at hd
      rw [trimStart_cons_of_not_blank hd] at h
      cases h
      exact hd

theorem trimStart_trimStart (cs : List Char) : trimStart (trimStart cs) = trimStart cs := by
  cases h : trimStart cs with
  | nil => rfl
  | cons c r => exact trimStart_cons_of_not_blank (not_blank_of_trimStart_eq h)

/-- What is cut off the front are blanks. -/
theorem exists_trimStart (cs : List Char) : ∃ a, AllBlank a ∧ cs = a ++ trimStart cs := by
  induction cs with
  | nil => exact ⟨[], by simp, rfl⟩
  | cons c cs ih =>
    by_cases hc : isBlank c = true
    · obtain ⟨a, ha, heq⟩ := ih
      refine ⟨c :: a, ?_, ?_⟩
      · intro d hd
        rcases List.mem_cons.mp hd with rfl | hd
        · exact hc
        · exact ha d hd
      · rw [trimStart_cons_of_blank hc, List.cons_append, ← heq]
    · rw [Bool.not_eq_true] at hc
      exact ⟨[], by simp, by rw [trimStart_cons_of_not_blank hc, List.nil_append]⟩

/-! ## The end -/

@[simp]
theorem trimEnd_nil : trimEnd [] = [] := rfl

theorem trimEnd_eq_nil_of_allBlank {b : List Char} (hb : AllBlank b) : trimEnd b = [] := by
  induction b with
  | nil => rfl
  | cons c b ih =>
    have hrest : trimEnd b = [] := ih fun d hd => hb d (List.mem_cons_of_mem c hd)
    simp [trimEnd, hrest, hb c]

/-- What stands in front of a text that does not vanish stays. -/
theorem trimEnd_append_of_ne_nil {b : List Char} (hb : trimEnd b ≠ []) (a : List Char) :
    trimEnd (a ++ b) = a ++ trimEnd b := by
  induction a with
  | nil => rfl
  | cons c a ih =>
    have hne : a ++ trimEnd b ≠ [] := by simp [hb]
    rw [List.cons_append, trimEnd, ih]
    cases h : a ++ trimEnd b with
    | nil => exact absurd h hne
    | cons d r => simp [h]

theorem trimEnd_cons_of_not_blank {c : Char} (hc : isBlank c = false) (cs : List Char) :
    trimEnd (c :: cs) = c :: trimEnd cs := by
  cases h : trimEnd cs <;> simp [trimEnd, h, hc]

theorem prefix_trimEnd_append {w : List Char} (hw : NoBlank w) (m : List Char) :
    w <+: trimEnd (w ++ m) := by
  induction w with
  | nil => exact List.nil_prefix
  | cons c w ih =>
    obtain ⟨hc, hw⟩ := noBlank_cons.mp hw
    rw [List.cons_append, trimEnd_cons_of_not_blank hc, List.cons_prefix_cons]
    exact ⟨rfl, ih hw⟩

theorem trimEnd_append_of_allBlank (a : List Char) {b : List Char} (hb : AllBlank b) :
    trimEnd (a ++ b) = trimEnd a := by
  induction a with
  | nil => simpa using trimEnd_eq_nil_of_allBlank hb
  | cons c a ih => rw [List.cons_append, trimEnd, ih, trimEnd]

/-- What is cut off the end are blanks. -/
theorem exists_trimEnd (cs : List Char) : ∃ b, AllBlank b ∧ cs = trimEnd cs ++ b := by
  induction cs with
  | nil => exact ⟨[], by simp, rfl⟩
  | cons c cs ih =>
    obtain ⟨b, hb, heq⟩ := ih
    cases h : trimEnd cs with
    | cons d r =>
      refine ⟨b, hb, ?_⟩
      rw [trimEnd, h, List.cons_append, ← h, ← heq]
    | nil =>
      rw [h, List.nil_append] at heq
      by_cases hc : isBlank c = true
      · refine ⟨c :: cs, ?_, by simp [trimEnd, h, hc]⟩
        intro d hd
        rcases List.mem_cons.mp hd with rfl | hd
        · exact hc
        · exact hb d (heq ▸ hd)
      · exact ⟨cs, heq ▸ hb, by simp [trimEnd, h, hc]⟩

theorem trimEnd_trimEnd (cs : List Char) : trimEnd (trimEnd cs) = trimEnd cs := by
  obtain ⟨b, hb, heq⟩ := exists_trimEnd cs
  have h := trimEnd_append_of_allBlank (trimEnd cs) hb
  rw [← heq] at h
  exact h.symm

theorem trimEnd_of_noBlank {w : List Char} (hw : NoBlank w) : trimEnd w = w := by
  induction w with
  | nil => rfl
  | cons c w ih =>
    rw [trimEnd_cons_of_not_blank (hw c (by simp)), ih fun d hd => hw d (List.mem_cons_of_mem c hd)]

/-! ## Both sides -/

@[simp]
theorem trim_nil : trim [] = [] := rfl

theorem trim_append_of_allBlank {a : List Char} (ha : AllBlank a) (w : List Char) :
    trim (a ++ w) = trim w := by
  rw [trim, trim, trimStart_append_of_allBlank ha]

theorem trim_of_noBlank {w : List Char} (hw : NoBlank w) : trim w = w := by
  cases w with
  | nil => rfl
  | cons c w =>
    rw [trim, trimStart_cons_of_not_blank (hw c (by simp)), trimEnd_of_noBlank hw]

/-- Blanks behind a text do not matter. -/
theorem trim_append_blanks (w : List Char) {b : List Char} (hb : AllBlank b) :
    trim (w ++ b) = trim w := by
  obtain ⟨a, ha, heq⟩ := exists_trimStart w
  -- Unless the text is all blanks, trimming the front stops inside it.
  cases h : trimStart w with
  | nil =>
    rw [h, List.append_nil] at heq
    rw [trim, heq, trimStart_append_of_allBlank ha, trim, ← heq, h]
    obtain ⟨a', -, heq'⟩ := exists_trimStart b
    refine trimEnd_eq_nil_of_allBlank fun c hc => hb c ?_
    rw [heq']
    exact List.mem_append_right a' hc
  | cons c r =>
    have hc := not_blank_of_trimStart_eq h
    rw [heq, h, List.append_assoc, trim_append_of_allBlank ha, trim_append_of_allBlank ha,
      trim, trim, List.cons_append, trimStart_cons_of_not_blank hc, trimStart_cons_of_not_blank hc,
      ← List.cons_append, trimEnd_append_of_allBlank _ hb]

/-- What is cut off at both sides are blanks. -/
theorem exists_trim (cs : List Char) :
    ∃ a b, AllBlank a ∧ AllBlank b ∧ cs = a ++ (trim cs ++ b) := by
  obtain ⟨a, ha, hfront⟩ := exists_trimStart cs
  obtain ⟨b, hb, hend⟩ := exists_trimEnd (trimStart cs)
  refine ⟨a, b, ha, hb, ?_⟩
  rw [trim, ← hend, ← hfront]

/-- A trimmed text has lost blanks only. -/
theorem filter_trim (cs : List Char) : (trim cs).filter (!isBlank ·) = cs.filter (!isBlank ·) := by
  obtain ⟨a, b, ha, hb, heq⟩ := exists_trim cs
  have hnone : ∀ {b : List Char}, AllBlank b → b.filter (!isBlank ·) = [] := by
    intro b hb
    exact List.filter_eq_nil_iff.mpr fun c hc => by simp [hb c hc]
  have hcs : cs.filter (!isBlank ·) = (a ++ (trim cs ++ b)).filter (!isBlank ·) :=
    congrArg (List.filter (!isBlank ·)) heq
  rw [hcs, List.filter_append, List.filter_append, hnone ha, hnone hb, List.nil_append,
    List.append_nil]

theorem trim_trimStart (cs : List Char) : trim (trimStart cs) = trim cs := by
  rw [trim, trimStart_trimStart, trim]

theorem trimEnd_trim (cs : List Char) : trimEnd (trim cs) = trim cs := by
  rw [trim, trimEnd_trimEnd]

theorem trim_trim (cs : List Char) : trim (trim cs) = trim cs := by
  have hstart : trimStart (trim cs) = trim cs := by
    rw [trim]
    cases h : trimStart cs with
    | nil => rfl
    | cons c r =>
      have hc := not_blank_of_trimStart_eq h
      rw [trimEnd_cons_of_not_blank hc, trimStart_cons_of_not_blank hc]
  rw [trim, hstart, trimEnd_trim]

/-- A line that begins with a word and ends with one is trimmed already. -/
theorem trim_between {p w : List Char} (hp : NoBlank p) (hne : p ≠ []) (hw : NoBlank w)
    (hwne : w ≠ []) (mid : List Char) : trim (p ++ (mid ++ w)) = p ++ (mid ++ w) := by
  have hend : trimEnd (p ++ mid ++ w) = p ++ mid ++ w := by
    rw [trimEnd_append_of_ne_nil (by rwa [trimEnd_of_noBlank hw]), trimEnd_of_noBlank hw]
  rw [trim, trimStart_append_of_noBlank hp hne, ← List.append_assoc, hend]

end Intercept.Text
