import Intercept.Proofs.Text.Pieces
import Mathlib.Data.List.TakeDrop
import Mathlib.Data.List.TakeWhile

/-!
# Intercept.Proofs.Text.Readers -- what the readers of a line read

Each reader of `Intercept.Text.Scan` is described by how it takes a text apart: what it answers is
the case exactly when the text is a concatenation of a certain form. A word is always read whole,
so a fixed text without blanks is read at the front of a word only if the word begins with it.
-/

namespace Intercept.Text

open Intercept.Unicode (isBlank)

/-! ## Blanks and words -/

theorem afterBlanks?_eq_some {cs rest : List Char} :
    afterBlanks? cs = some rest ↔
      ∃ c r, isBlank c = true ∧ cs = c :: r ∧ rest = trimStart r := by
  cases cs with
  | nil => simp [afterBlanks?]
  | cons c r =>
    rw [afterBlanks?]
    split
    · next hc =>
      constructor
      · intro h
        exact ⟨c, r, hc, rfl, (Option.some.inj h).symm⟩
      · rintro ⟨d, r', -, hcons, rfl⟩
        cases hcons
        rfl
    · next hc =>
      simp only [reduceCtorEq, false_iff]
      rintro ⟨d, r', hd, hcons, -⟩
      cases hcons
      exact hc hd

theorem afterBlanks?_cons {c : Char} (hc : isBlank c = true) (r : List Char) :
    afterBlanks? (c :: r) = some (trimStart r) := by
  simp [afterBlanks?, hc]

theorem afterBlanks?_of_noBlank {w : List Char} (hw : NoBlank w) (hne : w ≠ []) (r : List Char) :
    afterBlanks? (w ++ r) = none := by
  cases w with
  | nil => exact absurd rfl hne
  | cons c w => simp [afterBlanks?, hw c (by simp)]

/-- What is read behind a run of blanks, of which there is one at least. -/
theorem afterBlanks?_append {b : List Char} (hb : AllBlank b) (hne : b ≠ []) (r : List Char) :
    afterBlanks? (b ++ r) = some (trimStart r) := by
  cases b with
  | nil => exact absurd rfl hne
  | cons c b =>
    rw [List.cons_append, afterBlanks?_cons (hb c (by simp)),
      trimStart_append_of_allBlank fun d hd => hb d (List.mem_cons_of_mem c hd)]

/-- What follows the text that is read behind blanks follows what is read. -/
theorem afterBlanks?_append_of_ne_nil {cs rest : List Char} (h : afterBlanks? cs = some rest)
    (hrest : rest ≠ []) (b : List Char) : afterBlanks? (cs ++ b) = some (rest ++ b) := by
  obtain ⟨c, r, hc, rfl, rfl⟩ := afterBlanks?_eq_some.mp h
  rw [List.cons_append, afterBlanks?_cons hc, trimStart_append_of_ne_nil hrest]

theorem firstWord_append {w r : List Char} (hw : NoBlank w) (hr : BlankFirst r) :
    firstWord (w ++ r) = (w, r) := by
  rw [firstWord, List.span_eq_takeWhile_dropWhile]
  induction w with
  | nil =>
    cases r with
    | nil => rfl
    | cons c r => simp [hr c rfl]
  | cons c w ih =>
    have hc : isBlank c = false := hw c (by simp)
    have h := ih fun d hd => hw d (List.mem_cons_of_mem c hd)
    simp only [Prod.mk.injEq] at h
    simp [hc, h.1, h.2]

theorem firstWord_spec (cs : List Char) :
    cs = (firstWord cs).1 ++ (firstWord cs).2 ∧ NoBlank (firstWord cs).1
      ∧ BlankFirst (firstWord cs).2 := by
  rw [firstWord, List.span_eq_takeWhile_dropWhile]
  refine ⟨List.takeWhile_append_dropWhile.symm, ?_, ?_⟩
  · intro c hc
    simpa using List.mem_takeWhile_imp hc
  · intro c hc
    have h := List.head?_dropWhile_not (!isBlank ·) cs
    rw [hc] at h
    simpa using h

theorem word?_eq_some {cs w rest : List Char} :
    word? cs = some (w, rest) ↔ cs = w ++ rest ∧ w ≠ [] ∧ NoBlank w ∧ BlankFirst rest := by
  constructor
  · intro h
    obtain ⟨hcs, hw, hr⟩ := firstWord_spec cs
    cases hf : firstWord cs with
    | mk w' r' =>
      cases w' with
      | nil => simp [word?, hf] at h
      | cons c w' =>
        simp only [word?, hf, Option.some.injEq, Prod.mk.injEq] at h
        obtain ⟨rfl, rfl⟩ := h
        rw [hf] at hcs hw hr
        exact ⟨hcs, by simp, hw, hr⟩
  · rintro ⟨rfl, hne, hw, hr⟩
    cases w with
    | nil => exact absurd rfl hne
    | cons c w => rw [word?, firstWord_append hw hr]

/-- A fixed text without blanks that stands at the front of a word and what follows it is the front
of the word. -/
theorem after?_word {front w r rest : List Char} (hfront : NoBlank front) (hr : BlankFirst r)
    (h : after? front (w ++ r) = some rest) : ∃ q, w = front ++ q ∧ rest = q ++ r := by
  rw [after?_eq_some] at h
  rcases List.append_eq_append_iff.mp h with ⟨q, hq, hr'⟩ | ⟨q, hq, hrest⟩
  · -- the fixed text reaches beyond the word, where a blank would stand in it
    cases q with
    | nil => exact ⟨[], by simpa using hq.symm, by simpa using hr'.symm⟩
    | cons c q =>
      have hc : isBlank c = false := hfront c (by simp [hq])
      have hc' : isBlank c = true := hr c (by simp [hr'])
      rw [hc] at hc'
      exact absurd hc' (by simp)
  · exact ⟨q, hq, hrest⟩

/-- Where a text with blanks and a word at its front ends in a part that is not empty, that part
ends in a part of the word. -/
theorem exists_part_of_word {a w x y : List Char} (ha : AllBlank a) (hw : NoBlank w) (hne : w ≠ [])
    (hy : y ≠ []) (h : a ++ w = x ++ y) :
    ∃ w₁ w₂, w = w₁ ++ w₂ ∧ w₂ ≠ [] ∧ ∀ rest, trimStart (y ++ rest) = w₂ ++ rest := by
  rcases List.append_eq_append_iff.mp h with ⟨w₁, -, hw'⟩ | ⟨a', ha', hy'⟩
  · refine ⟨w₁, y, hw', hy, fun rest => ?_⟩
    rw [hw', noBlank_append] at hw
    exact trimStart_append_of_noBlank hw.2 hy rest
  · refine ⟨[], w, rfl, hne, fun rest => ?_⟩
    have hblank : AllBlank a' := fun c hc => ha c (ha' ▸ List.mem_append_right x hc)
    rw [hy', List.append_assoc, trimStart_append_of_allBlank hblank,
      trimStart_append_of_noBlank hw hne]

/-! ## One of some words -/

theorem oneOf?_eq_some {words : List String} {cs rest : List Char} {word : String}
    (h : oneOf? words cs = some (word, rest)) : word ∈ words ∧ cs = word.toList ++ rest := by
  induction words with
  | nil => simp [oneOf?] at h
  | cons s words ih =>
    rw [oneOf?] at h
    split at h
    · next after hafter =>
      cases h
      exact ⟨List.mem_cons_self, afterStr?_eq_some.mp hafter⟩
    · obtain ⟨hmem, hcs⟩ := ih h
      exact ⟨List.mem_cons_of_mem s hmem, hcs⟩

/-- Where one of some words stands, one of them is read. -/
theorem oneOf?_ne_none {words : List String} {cs : List Char} {s : String} (hs : s ∈ words)
    (h : s.toList <+: cs) : oneOf? words cs ≠ none := by
  obtain ⟨rest, rfl⟩ := h
  induction words with
  | nil => cases hs
  | cons t words ih =>
    rw [oneOf?]
    split
    · simp
    · next hnone =>
      rcases List.mem_cons.mp hs with rfl | hs
      · rw [afterStr?_append] at hnone
        cases hnone
      · exact ih hs

/-- A fixed text that begins without a blank is not read where a word has ended. -/
theorem after?_of_blankFirst {c : Char} {front r : List Char} (hc : isBlank c = false)
    (hr : BlankFirst r) : after? (c :: front) r = none := by
  cases r with
  | nil => rfl
  | cons d r =>
    have hd : isBlank d = true := blankFirst_cons.mp hr
    have hne : c ≠ d := by
      rintro rfl
      rw [hc] at hd
      exact absurd hd (by simp)
    rw [after?, if_neg hne]

/-! ## Blanks behind what is read -/

theorem exists_trimStart_append_blanks {b : List Char} (hb : AllBlank b) (cs : List Char) :
    ∃ b', AllBlank b' ∧ trimStart (cs ++ b) = trimStart cs ++ b' := by
  by_cases h : trimStart cs = []
  · obtain ⟨a, ha, heq⟩ := exists_trimStart cs
    obtain ⟨a', -, heq'⟩ := exists_trimStart b
    rw [h, List.append_nil] at heq
    refine ⟨trimStart b, fun c hc => hb c ?_, ?_⟩
    · rw [heq']
      exact List.mem_append_right a' hc
    · rw [h, heq, trimStart_append_of_allBlank ha, List.nil_append]
  · exact ⟨b, hb, trimStart_append_of_ne_nil h b⟩

/-- A fixed text without blanks is read in front of blanks exactly if it is read without them. -/
theorem after?_append_blanks {front b : List Char} (hfront : NoBlank front) (hb : AllBlank b)
    (cs : List Char) : after? front (cs ++ b) = (after? front cs).map (· ++ b) := by
  induction front generalizing cs with
  | nil => rfl
  | cons p front ih =>
    rw [noBlank_cons] at hfront
    cases cs with
    | nil =>
      exact after?_of_blankFirst hfront.1 fun c hc => hb c (List.mem_of_mem_head? hc)
    | cons c cs =>
      rw [List.cons_append, after?, after?]
      split
      · exact ih hfront.2 cs
      · rfl

theorem exists_afterSign?_append_blanks {sign : Char} (hsign : isBlank sign = false)
    {b : List Char} (hb : AllBlank b) (cs : List Char) :
    ∃ b', AllBlank b' ∧ afterSign? sign (cs ++ b) = (afterSign? sign cs).map (· ++ b') := by
  obtain ⟨b₁, hb₁, hfront⟩ := exists_trimStart_append_blanks hb cs
  have hread := after?_append_blanks (noBlank_cons.mpr ⟨hsign, noBlank_nil⟩) hb₁ (trimStart cs)
  rw [afterSign?, afterSign?, hfront, hread]
  cases after? [sign] (trimStart cs) with
  | none => exact ⟨[], by simp, rfl⟩
  | some rest =>
    obtain ⟨b₂, hb₂, hrest⟩ := exists_trimStart_append_blanks hb₁ rest
    exact ⟨b₂, hb₂, congrArg some hrest⟩

theorem exists_takeWhile_append_blanks {p : Char → Bool} (hp : ∀ c, isBlank c = true → p c = true)
    {b : List Char} (hb : AllBlank b) (cs : List Char) :
    ∃ b', AllBlank b' ∧ (cs ++ b).takeWhile p = cs.takeWhile p ++ b' := by
  induction cs with
  | nil =>
    have hall : b.takeWhile p = b := List.takeWhile_eq_self_iff.mpr fun c hc => hp c (hb c hc)
    exact ⟨b, hb, hall⟩
  | cons c cs ih =>
    rw [List.cons_append, List.takeWhile_cons, List.takeWhile_cons]
    split
    · obtain ⟨b', hb', heq⟩ := ih
      exact ⟨b', hb', by rw [heq, List.cons_append]⟩
    · exact ⟨[], by simp, rfl⟩

/-! ## The first possible place -/

variable {α : Type}

theorem readFirst?_eq_of_none {read : List Char → Option α} {front back : List Char}
    (hfront : ∀ a b, b ≠ [] → front = a ++ b → read (b ++ back) = none) :
    readFirst? read (front ++ back) = (readFirst? read back).map fun p => (front ++ p.1, p.2) := by
  induction front with
  | nil => simp
  | cons c front ih =>
    have hc : read (c :: (front ++ back)) = none :=
      hfront [] (c :: front) (by simp) rfl
    have hrest : ∀ a b, b ≠ [] → front = a ++ b → read (b ++ back) = none :=
      fun a b hb heq => hfront (c :: a) b hb (by rw [heq, List.cons_append])
    rw [List.cons_append, readFirst?, hc, ih hrest, Option.map_map]
    rfl

theorem readFirst?_here {read : List Char → Option α} {cs : List Char} {a : α}
    (h : read cs = some a) : readFirst? read cs = some ([], a) := by
  cases cs <;> simp [readFirst?, h]

/-- The first place is the one behind `front` if nothing can be read at an earlier one. -/
theorem readFirst?_append {read : List Char → Option α} {front back : List Char} {a : α}
    (hback : read back = some a)
    (hfront : ∀ x y, y ≠ [] → front = x ++ y → read (y ++ back) = none) :
    readFirst? read (front ++ back) = some (front, a) := by
  rw [readFirst?_eq_of_none hfront, readFirst?_here hback]
  simp

end Intercept.Text
