import Intercept.Proofs.Text.Ends
import Intercept.Proofs.Text.Readers

/-!
# Intercept.Proofs.Text.Parts -- what is cut out of a text

The readers of a line only cut. Whatever one of them answers is made of the characters of the text
that it was given, so a part of a line holds no line feed, just as the line holds none.
-/

namespace Intercept.Text

variable {cs rest : List Char}

/-! ## Trimmed texts and fixed texts -/

theorem trimStart_subset (cs : List Char) : trimStart cs ⊆ cs := by
  obtain ⟨a, -, heq⟩ := exists_trimStart cs
  intro c hc
  rw [heq]
  exact List.mem_append_right a hc

theorem trim_subset (cs : List Char) : trim cs ⊆ cs := by
  obtain ⟨a, b, -, -, heq⟩ := exists_trim cs
  intro c hc
  rw [heq]
  exact List.mem_append_right a (List.mem_append_left b hc)

theorem trimEndOf_subset {back : List Char} (hback : back ≠ []) (cs : List Char) :
    trimEndOf back cs ⊆ cs := by
  obtain ⟨r, heq, -⟩ := exists_trimEndOf hback cs
  intro c hc
  rw [heq]
  exact List.mem_append_left r hc

theorem afterStr?_subset {front : String} (h : afterStr? front cs = some rest) : rest ⊆ cs := by
  rw [afterStr?_eq_some.mp h]
  exact List.subset_append_right _ _

theorem afterBlanks?_subset (h : afterBlanks? cs = some rest) : rest ⊆ cs := by
  obtain ⟨c, r, -, rfl, rfl⟩ := afterBlanks?_eq_some.mp h
  exact List.Subset.trans (trimStart_subset r) (List.subset_cons_self c r)

/-! ## Words and pieces -/

theorem word?_subset {w : List Char} (h : word? cs = some (w, rest)) : w ⊆ cs ∧ rest ⊆ cs := by
  obtain ⟨rfl, -, -, -⟩ := word?_eq_some.mp h
  exact ⟨List.subset_append_left w rest, List.subset_append_right w rest⟩

theorem oneOf?_subset {words : List String} {word : String}
    (h : oneOf? words cs = some (word, rest)) : rest ⊆ cs := by
  rw [(oneOf?_eq_some h).2]
  exact List.subset_append_right _ _

theorem subset_of_mem_splitOn {sep : Char} {piece : List Char} (h : piece ∈ splitOn sep cs) :
    piece ⊆ cs := by
  induction cs generalizing piece with
  | nil =>
    rw [splitOn, List.mem_singleton] at h
    rw [h]
    exact List.Subset.refl []
  | cons c cs ih =>
    by_cases hc : c = sep
    · rw [hc, splitOn_cons_sep, List.mem_cons] at h
      rcases h with rfl | h
      · exact List.nil_subset _
      · exact List.subset_cons_of_subset c (ih h)
    · obtain ⟨first, pieces, hpieces⟩ := List.exists_cons_of_ne_nil (splitOn_ne_nil sep cs)
      rw [splitOn_cons_of_ne hc hpieces, List.mem_cons] at h
      rcases h with rfl | h
      · exact List.cons_subset_cons c (ih (by simp [hpieces]))
      · exact List.subset_cons_of_subset c (ih (by simp [hpieces, h]))

theorem splitOnce?_eq_some {sep : Char} {front back : List Char}
    (h : splitOnce? sep cs = some (front, back)) : cs = front ++ sep :: back := by
  induction cs generalizing front with
  | nil => cases h
  | cons c cs ih =>
    rw [splitOnce?] at h
    split at h
    · next hc =>
      cases h
      rw [hc, List.nil_append]
    · obtain ⟨⟨front', back'⟩, hrest, hpair⟩ := Option.map_eq_some_iff.mp h
      cases hpair
      rw [ih hrest, List.cons_append]

/-- A text is cut at the first separator. -/
theorem splitOnce?_eq_some_iff {sep : Char} {front back : List Char} :
    splitOnce? sep cs = some (front, back) ↔
      front = cs.takeWhile (· != sep) ∧ cs.dropWhile (· != sep) = sep :: back := by
  induction cs generalizing front with
  | nil => simp [splitOnce?]
  | cons c cs ih =>
    rw [splitOnce?, List.takeWhile_cons, List.dropWhile_cons]
    by_cases hc : c = sep
    · simp [hc, eq_comm]
    · simp only [hc, if_false, bne_iff_ne, ne_eq, not_false_eq_true, if_true,
        Option.map_eq_some_iff, Prod.mk.injEq]
      constructor
      · rintro ⟨⟨front', back'⟩, hrest, rfl, rfl⟩
        obtain ⟨rfl, hback⟩ := ih.mp hrest
        exact ⟨rfl, hback⟩
      · rintro ⟨rfl, hback⟩
        exact ⟨_, ih.mpr ⟨rfl, hback⟩, rfl, rfl⟩

/-! ## Places -/

/-- What stands before the first place at which a reader succeeds, and what it succeeds on there. -/
theorem parts_of_readFirst? {α : Type} {read : List Char → Option α} {front : List Char} {a : α}
    (h : readFirst? read cs = some (front, a)) :
    ∃ back, cs = front ++ back ∧ read back = some a := by
  induction cs generalizing front with
  | nil =>
    obtain ⟨b, hb, hpair⟩ := Option.map_eq_some_iff.mp h
    cases hpair
    exact ⟨[], rfl, hb⟩
  | cons c cs ih =>
    rw [readFirst?] at h
    split at h
    · next b hb =>
      cases h
      exact ⟨c :: cs, rfl, hb⟩
    · obtain ⟨⟨front', b⟩, hrest, hpair⟩ := Option.map_eq_some_iff.mp h
      cases hpair
      obtain ⟨back, heq, hback⟩ := ih hrest
      exact ⟨back, by rw [heq, List.cons_append], hback⟩

/-- The first place at which a reader succeeds is not behind any other. -/
theorem readFirst?_le {α : Type} {read : List Char → Option α} {x back front : List Char} {a b : α}
    (hback : read back = some b) (h : readFirst? read (x ++ back) = some (front, a)) :
    front.length ≤ x.length := by
  induction x generalizing front with
  | nil =>
    rw [List.nil_append, readFirst?_here hback] at h
    cases h
    exact Nat.le_refl 0
  | cons c x ih =>
    rw [List.cons_append, readFirst?] at h
    split at h
    · cases h
      exact Nat.zero_le _
    · obtain ⟨⟨front', a'⟩, hrest, hpair⟩ := Option.map_eq_some_iff.mp h
      cases hpair
      exact Nat.succ_le_succ (ih hrest)

/-- A text that stands anywhere in another one is part of it. -/
theorem infix_of_contains {part : List Char} (h : contains part cs = true) : part <:+: cs := by
  obtain ⟨⟨front, rest⟩, hread⟩ := Option.isSome_iff_exists.mp h
  obtain ⟨back, rfl, hback⟩ := parts_of_readFirst? hread
  rw [after?_eq_some] at hback
  exact ⟨front, rest, by rw [hback, List.append_assoc]⟩

theorem readFirst?_isSome {α : Type} {read : List Char → Option α} {back : List Char} {a : α}
    (hback : read back = some a) (front : List Char) :
    (readFirst? read (front ++ back)).isSome = true := by
  induction front with
  | nil => rw [List.nil_append, readFirst?_here hback, Option.isSome_some]
  | cons c front ih =>
    rw [List.cons_append, readFirst?]
    split
    · rfl
    · rwa [Option.isSome_map]

theorem contains_iff_infix {part : List Char} : contains part cs = true ↔ part <:+: cs := by
  refine ⟨infix_of_contains, ?_⟩
  rintro ⟨front, rest, rfl⟩
  rw [List.append_assoc]
  exact readFirst?_isSome (after?_append part rest) front

theorem not_infix_of_contains {part : List Char} (h : contains part cs = false) : ¬ part <:+: cs := by
  rw [← contains_iff_infix, h]
  exact Bool.false_ne_true

theorem startsWith_iff_prefix {front : List Char} : startsWith front cs = true ↔ front <+: cs := by
  rw [startsWith, Option.isSome_iff_exists]
  exact exists_congr fun rest => after?_eq_some.trans eq_comm

theorem unquote_subset (cs : List Char) : unquote cs ⊆ cs := by
  unfold unquote
  split
  · next rest =>
    cases hfront : before? ['"'] rest with
    | none => exact List.Subset.refl _
    | some front =>
      rw [Option.getD_some, before?_eq_some.mp hfront]
      exact List.subset_cons_of_subset '"' (List.subset_append_left front ['"'])
  · exact List.Subset.refl _

end Intercept.Text
