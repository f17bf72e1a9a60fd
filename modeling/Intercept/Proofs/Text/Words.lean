import Intercept.Proofs.Text.Pieces

/-!
# Intercept.Proofs.Text.Words -- words, and texts put together

A blank cuts the words of a text in two, so blanks around a text add no word. What was put together
with a separator that stands in no part is cut into the same parts again. What stands right behind a
separator or right in front of one is told by the pieces.
-/

namespace Intercept.Text

open Intercept.Unicode (isBlank)

/-! ## Words -/

@[simp]
theorem words_nil : words [] = [] := rfl

theorem words_cons_blank {c : Char} (hc : isBlank c = true) (cs : List Char) :
    words (c :: cs) = words cs := by
  simp [words, wordsFrom, hc]

/-- The words before a blank do not depend on what follows it, nor those behind it on what precedes
it; `word` is the reversed one being read. -/
theorem wordsFrom_append_blank {c : Char} (hc : isBlank c = true) (word a b : List Char) :
    wordsFrom word (a ++ c :: b) = wordsFrom word a ++ words b := by
  induction a generalizing word with
  | nil =>
    simp only [List.nil_append, wordsFrom, hc, if_true, words]
    split <;> rfl
  | cons d a ih =>
    rw [List.cons_append, wordsFrom, wordsFrom]
    split
    · split
      · exact ih []
      · rw [ih [], List.cons_append]
    · exact ih (d :: word)

theorem words_append_blank {c : Char} (hc : isBlank c = true) (a b : List Char) :
    words (a ++ c :: b) = words a ++ words b :=
  wordsFrom_append_blank hc [] a b

theorem words_of_allBlank {b : List Char} (hb : AllBlank b) : words b = [] := by
  induction b with
  | nil => rfl
  | cons c b ih =>
    rw [words_cons_blank (hb c List.mem_cons_self)]
    exact ih fun d hd => hb d (List.mem_cons_of_mem c hd)

theorem words_append_blanks (a : List Char) {b : List Char} (hb : AllBlank b) :
    words (a ++ b) = words a := by
  cases b with
  | nil => rw [List.append_nil]
  | cons c b =>
    have hrest : words b = [] := words_of_allBlank fun d hd => hb d (List.mem_cons_of_mem c hd)
    rw [words_append_blank (hb c List.mem_cons_self), hrest, List.append_nil]

theorem wordsFrom_of_noBlank {w : List Char} (hw : NoBlank w) {word : List Char}
    (hne : word ≠ [] ∨ w ≠ []) : wordsFrom word w = [word.reverse ++ w] := by
  induction w generalizing word with
  | nil =>
    have hword : word ≠ [] := hne.resolve_right fun h => h rfl
    simp [wordsFrom, hword]
  | cons c w ih =>
    rw [noBlank_cons] at hw
    rw [wordsFrom, if_neg (by simp [hw.1]), ih hw.2 (Or.inl (List.cons_ne_nil c word))]
    simp

theorem words_of_noBlank {w : List Char} (hw : NoBlank w) (hne : w ≠ []) : words w = [w] :=
  wordsFrom_of_noBlank hw (Or.inr hne)

theorem words_append_of_allBlank {b : List Char} (hb : AllBlank b) (a : List Char) :
    words (b ++ a) = words a := by
  induction b with
  | nil => rfl
  | cons c b ih =>
    rw [List.cons_append, words_cons_blank (hb c List.mem_cons_self)]
    exact ih fun d hd => hb d (List.mem_cons_of_mem c hd)

/-- A word at the front of a text is the first one. -/
theorem words_append_of_blankFirst {w r : List Char} (hw : NoBlank w) (hne : w ≠ [])
    (hr : BlankFirst r) : words (w ++ r) = w :: words r := by
  cases r with
  | nil => rw [List.append_nil, words_of_noBlank hw hne, words_nil]
  | cons c r =>
    have hc := blankFirst_cons.mp hr
    rw [words_append_blank hc, words_of_noBlank hw hne, words_cons_blank hc, List.singleton_append]

theorem words_append_of_blankLast {a : List Char} (ha : BlankLast a) (b : List Char) :
    words (a ++ b) = words a ++ words b := by
  rcases List.eq_nil_or_concat a with rfl | ⟨a, c, rfl⟩
  · rfl
  · have hc : isBlank c = true := ha c (by simp)
    rw [List.concat_eq_append, List.append_assoc, List.singleton_append, words_append_blank hc,
      words_append_blank hc, words_nil, List.append_nil]

theorem mem_wordsFrom {w word cs : List Char} (hword : NoBlank word) (h : w ∈ wordsFrom word cs) :
    NoBlank w ∧ w ⊆ word ++ cs := by
  induction cs generalizing word with
  | nil =>
    rw [wordsFrom] at h
    split at h
    · cases h
    · rw [List.mem_singleton] at h
      rw [h]
      exact ⟨fun c hc => hword c (List.mem_reverse.mp hc), fun c hc => by simpa using hc⟩
  | cons d cs ih =>
    have hlater : w ∈ wordsFrom [] cs → NoBlank w ∧ w ⊆ word ++ d :: cs := by
      intro hw
      obtain ⟨hblank, hsub⟩ := ih noBlank_nil hw
      exact ⟨hblank, fun c hc => List.mem_append_right word (List.mem_cons_of_mem d (hsub hc))⟩
    rw [wordsFrom] at h
    split at h
    · split at h
      · exact hlater h
      · rcases List.mem_cons.mp h with rfl | h
        · exact ⟨fun c hc => hword c (List.mem_reverse.mp hc), fun c hc => by
            exact List.mem_append_left _ (List.mem_reverse.mp hc)⟩
        · exact hlater h
    · next hd =>
      obtain ⟨hblank, hsub⟩ := ih (noBlank_cons.mpr ⟨by simpa using hd, hword⟩) h
      refine ⟨hblank, fun c hc => ?_⟩
      rcases List.mem_cons.mp (hsub hc) with rfl | hmem
      · exact List.mem_append_right word List.mem_cons_self
      · exact List.mem_append.mpr ((List.mem_append.mp hmem).imp_right (List.mem_cons_of_mem d))

theorem noBlank_of_mem_words {w cs : List Char} (h : w ∈ words cs) : NoBlank w :=
  (mem_wordsFrom noBlank_nil h).1

theorem subset_of_mem_words {w cs : List Char} (h : w ∈ words cs) : w ⊆ cs :=
  (mem_wordsFrom noBlank_nil h).2

/-! ## Pieces -/

/-- What stands in front of the first separator belongs to the first piece. -/
theorem splitOn_append_of_not_mem {sep : Char} {a : List Char} (ha : sep ∉ a) {b piece : List Char}
    {pieces : List (List Char)} (hb : splitOn sep b = piece :: pieces) :
    splitOn sep (a ++ b) = (a ++ piece) :: pieces := by
  induction a with
  | nil => exact hb
  | cons c a ih =>
    rw [List.mem_cons, not_or] at ha
    exact splitOn_cons_of_ne (Ne.symm ha.1) (ih ha.2)

/-- What stands behind the last separator belongs to the last piece. -/
theorem exists_splitOn_append {sep : Char} {b : List Char} (hb : sep ∉ b) (cs : List Char) :
    ∃ pieces last, splitOn sep cs = pieces ++ [last]
      ∧ splitOn sep (cs ++ b) = pieces ++ [last ++ b] := by
  induction cs with
  | nil => exact ⟨[], [], rfl, splitOn_of_not_mem hb⟩
  | cons c cs ih =>
    obtain ⟨pieces, last, hcs, hb'⟩ := ih
    by_cases hc : c = sep
    · refine ⟨[] :: pieces, last, ?_, ?_⟩
      · rw [hc, splitOn_cons_sep, hcs, List.cons_append]
      · rw [hc, List.cons_append, splitOn_cons_sep, hb', List.cons_append]
    · cases pieces with
      | nil => exact ⟨[], c :: last, splitOn_cons_of_ne hc hcs, splitOn_cons_of_ne hc hb'⟩
      | cons piece pieces =>
        exact ⟨(c :: piece) :: pieces, last, splitOn_cons_of_ne hc hcs, splitOn_cons_of_ne hc hb'⟩

/-- What stands in front of the last separator and what stands behind it are told apart. -/
theorem append_cons_inj {sep : Char} {a a' w w' : List Char} (hw : sep ∉ w) (hw' : sep ∉ w')
    (h : a ++ sep :: w = a' ++ sep :: w') : a = a' ∧ w = w' := by
  have hlast := congrArg (splitOn sep) h
  rw [splitOn_append, splitOn_append, splitOn_of_not_mem hw, splitOn_of_not_mem hw'] at hlast
  obtain rfl : w = w' := by simpa using (List.append_inj_right' hlast rfl)
  exact ⟨List.append_cancel_right h, rfl⟩

theorem join_cons_cons (sep part next : List Char) (parts : List (List Char)) :
    join sep (part :: next :: parts) = part ++ (sep ++ join sep (next :: parts)) := by
  rw [join, List.intercalate_cons_cons, List.append_assoc, join]

/-- A joined text around one of its parts: the parts before it have the separator behind them, those
after it have it in front. -/
theorem join_around (sep : Char) (parts : List (List Char)) (part : List Char)
    (parts' : List (List Char)) :
    join [sep] (parts ++ part :: parts') =
      parts.flatMap (· ++ [sep]) ++ (part ++ parts'.flatMap (sep :: ·)) := by
  induction parts with
  | nil =>
    induction parts' generalizing part with
    | nil => simp [join]
    | cons next parts' ih =>
      rw [List.nil_append, join_cons_cons, ← List.nil_append (next :: parts'), ih next]
      simp
  | cons first parts ih =>
    obtain ⟨next, more, hmore⟩ :=
      List.exists_cons_of_ne_nil (List.append_ne_nil_of_right_ne_nil parts (List.cons_ne_nil part parts'))
    rw [List.cons_append, hmore, join_cons_cons, ← hmore, ih, List.flatMap_cons]
    simp only [List.append_assoc]

theorem splitOn_join {sep : Char} {parts : List (List Char)} (hne : parts ≠ [])
    (h : ∀ part ∈ parts, sep ∉ part) : splitOn sep (join [sep] parts) = parts := by
  induction parts with
  | nil => exact absurd rfl hne
  | cons part parts ih =>
    have hpart : sep ∉ part := h part List.mem_cons_self
    cases parts with
    | nil => simpa [join] using splitOn_of_not_mem hpart
    | cons next parts =>
      have hrest := ih (List.cons_ne_nil next parts) fun p hp => h p (List.mem_cons_of_mem part hp)
      rw [join_cons_cons, List.singleton_append, splitOn_append, splitOn_of_not_mem hpart]
      exact congrArg (part :: ·) hrest

/-- A joined text begins with its first part. -/
theorem exists_join_cons (sep part : List Char) (parts : List (List Char)) :
    ∃ more, join sep (part :: parts) = part ++ more := by
  cases parts with
  | nil => exact ⟨[], by simp [join]⟩
  | cons next parts =>
    exact ⟨_, join_cons_cons sep part next parts⟩

/-- What is in a joined text is in what joins it or in one of the parts. -/
theorem of_mem_join {c : Char} {sep : List Char} {parts : List (List Char)} (h : c ∈ join sep parts) :
    c ∈ sep ∨ ∃ part ∈ parts, c ∈ part := by
  induction parts with
  | nil => exact absurd h List.not_mem_nil
  | cons part parts ih =>
    cases parts with
    | nil => exact .inr ⟨part, List.mem_cons_self, by simpa [join] using h⟩
    | cons next parts =>
      rw [join_cons_cons, List.mem_append, List.mem_append] at h
      rcases h with h | h | h
      · exact .inr ⟨part, List.mem_cons_self, h⟩
      · exact .inl h
      · rcases ih h with h | ⟨other, hother, h⟩
        · exact .inl h
        · exact .inr ⟨other, List.mem_cons_of_mem part hother, h⟩

theorem join_splitOn (sep : Char) (cs : List Char) : join [sep] (splitOn sep cs) = cs := by
  induction cs with
  | nil => rfl
  | cons c cs ih =>
    obtain ⟨piece, pieces, h⟩ := List.exists_cons_of_ne_nil (splitOn_ne_nil sep cs)
    rw [h] at ih
    by_cases hc : c = sep
    · rw [hc, splitOn_cons_sep, h, join, List.intercalate_cons_cons]
      exact congrArg (sep :: ·) ih
    · rw [splitOn_cons_of_ne hc h]
      cases pieces with
      | nil => simpa [join] using ih
      | cons next pieces =>
        rw [join, List.intercalate_cons_cons] at ih ⊢
        exact congrArg (c :: ·) ih

/-! ## Where a text stands beside a separator -/

theorem join_append {sep : Char} {parts parts' : List (List Char)} (hne : parts ≠ [])
    (hne' : parts' ≠ []) :
    join [sep] (parts ++ parts') = join [sep] parts ++ sep :: join [sep] parts' := by
  induction parts with
  | nil => exact absurd rfl hne
  | cons part parts ih =>
    cases parts with
    | nil =>
      obtain ⟨next, more, rfl⟩ := List.exists_cons_of_ne_nil hne'
      rw [List.singleton_append, join_cons_cons]
      simp [join]
    | cons next parts =>
      rw [List.cons_append, List.cons_append, join_cons_cons, ← List.cons_append,
        ih (List.cons_ne_nil next parts), join_cons_cons]
      simp only [List.append_assoc]

/-- A joined text ends with its last part. -/
theorem exists_join_concat (sep : Char) (parts : List (List Char)) (part : List Char) :
    ∃ more, join [sep] (parts ++ [part]) = more ++ part := by
  by_cases hne : parts = []
  · exact ⟨[], by simp [hne, join]⟩
  · refine ⟨join [sep] parts ++ [sep], ?_⟩
    rw [join_append hne (List.cons_ne_nil part [])]
    simp [join]

/-- A text without the separator does not stand across it. -/
theorem infix_append_cons {sep : Char} {word a b : List Char} (h : sep ∉ word)
    (hpart : word <:+: a ++ sep :: b) : word <:+: a ∨ word <:+: b := by
  obtain ⟨front, back, hsplit⟩ := hpart
  rcases List.append_eq_append_iff.mp hsplit with ⟨rest, ha, -⟩ | ⟨rest, hfront, hrest⟩
  · exact Or.inl ⟨front, rest, ha.symm⟩
  · cases rest with
    | nil =>
      rw [List.append_nil] at hfront
      exact Or.inl ⟨front, [], by rw [hfront, List.append_nil]⟩
    | cons c rest =>
      obtain ⟨rfl, hb⟩ := List.cons.inj hrest
      -- The separator stands in front of the text, since it is not in it.
      rcases List.append_eq_append_iff.mp hfront with ⟨rest', -, hword⟩ | ⟨rest', -, hmore⟩
      · exact absurd (hword ▸ List.mem_append_right rest' List.mem_cons_self) h
      · cases rest' with
        | nil =>
          rw [List.nil_append] at hmore
          exact absurd (hmore ▸ List.mem_cons_self) h
        | cons d rest' =>
          obtain ⟨-, hrest'⟩ := List.cons.inj hmore
          exact Or.inr ⟨rest', back, by rw [hb, hrest', List.append_eq, List.append_eq]⟩

/-- A text stands behind a separator where a piece other than the first begins with it. -/
theorem cons_infix_iff {sep : Char} {word : List Char} (h : sep ∉ word) {cs : List Char} :
    sep :: word <:+: cs ↔ ∃ piece ∈ (splitOn sep cs).tail, word <+: piece := by
  constructor
  · rintro ⟨front, back, rfl⟩
    obtain ⟨piece, pieces, hback⟩ := List.exists_cons_of_ne_nil (splitOn_ne_nil sep back)
    have hcut : splitOn sep (front ++ (sep :: word) ++ back)
        = splitOn sep front ++ (word ++ piece) :: pieces := by
      rw [List.append_assoc, List.cons_append, splitOn_append, splitOn_append_of_not_mem h hback]
    refine ⟨word ++ piece, ?_, List.prefix_append word piece⟩
    rw [hcut, List.tail_append_of_ne_nil (splitOn_ne_nil sep front)]
    exact List.mem_append_right _ List.mem_cons_self
  · rintro ⟨piece, hpiece, behind, rfl⟩
    obtain ⟨first, pieces, hcut⟩ := List.exists_cons_of_ne_nil (splitOn_ne_nil sep cs)
    rw [hcut, List.tail_cons] at hpiece
    obtain ⟨earlier, later, rfl⟩ := List.append_of_mem hpiece
    obtain ⟨more, hmore⟩ := exists_join_cons [sep] (word ++ behind) later
    have hcs : cs = join [sep] (first :: earlier) ++ sep :: (word ++ behind ++ more) := by
      rw [← hmore, ← join_append (List.cons_ne_nil _ _) (List.cons_ne_nil _ _), List.cons_append,
        ← hcut, join_splitOn]
    exact ⟨join [sep] (first :: earlier), behind ++ more, by simp [hcs]⟩

/-- A text stands in front of a separator where a piece other than the last ends with it. -/
theorem concat_infix_iff {sep : Char} {word : List Char} (h : sep ∉ word) {cs : List Char} :
    word ++ [sep] <:+: cs ↔ ∃ piece ∈ (splitOn sep cs).dropLast, word <:+ piece := by
  constructor
  · rintro ⟨front, back, rfl⟩
    obtain ⟨pieces, last, -, hfront⟩ := exists_splitOn_append h front
    have hcut : splitOn sep (front ++ (word ++ [sep]) ++ back)
        = pieces ++ (last ++ word) :: splitOn sep back := by
      rw [← List.append_assoc, List.append_assoc, List.singleton_append, splitOn_append, hfront,
        List.append_assoc, List.singleton_append]
    refine ⟨last ++ word, ?_, List.suffix_append last word⟩
    rw [hcut, List.dropLast_append_cons, List.dropLast_cons_of_ne_nil (splitOn_ne_nil sep back)]
    exact List.mem_append_right _ List.mem_cons_self
  · rintro ⟨piece, hpiece, before, rfl⟩
    obtain ⟨pieces, last, hcut⟩ := List.eq_nil_or_concat (splitOn sep cs)
      |>.resolve_left (splitOn_ne_nil sep cs)
    rw [hcut, List.concat_eq_append, List.dropLast_concat] at hpiece
    obtain ⟨earlier, later, rfl⟩ := List.append_of_mem hpiece
    obtain ⟨more, hmore⟩ := exists_join_concat sep earlier (before ++ word)
    have hcs : cs = more ++ (before ++ word) ++ sep :: join [sep] (later ++ [last]) := by
      rw [← hmore, ← join_append (by simp) (by simp), List.append_assoc, List.singleton_append,
        ← List.cons_append, ← List.append_assoc, ← List.concat_eq_append, ← hcut, join_splitOn]
    exact ⟨more ++ before, join [sep] (later ++ [last]), by simp [hcs]⟩

/-- A text whose characters are written anew, the separator as itself and no other one with it, is
cut where the text was. -/
theorem splitOn_flatMap {sep : Char} {f : Char → List Char} (hsep : f sep = [sep])
    (hf : ∀ c, c ≠ sep → sep ∉ f c) (cs : List Char) :
    splitOn sep (cs.flatMap f) = (splitOn sep cs).map (List.flatMap f) := by
  induction cs with
  | nil => rfl
  | cons c cs ih =>
    rw [List.flatMap_cons]
    by_cases hc : c = sep
    · rw [hc, hsep, List.singleton_append, splitOn_cons_sep, splitOn_cons_sep, ih, List.map_cons]
      rfl
    · obtain ⟨piece, pieces, hcut⟩ := List.exists_cons_of_ne_nil (splitOn_ne_nil sep cs)
      rw [hcut, List.map_cons] at ih
      rw [splitOn_cons_of_ne hc hcut, splitOn_append_of_not_mem (hf c hc) ih, List.map_cons,
        List.flatMap_cons]

end Intercept.Text
