import Intercept.Text.Scan

/-!
# Intercept.Proofs.Text.Sorted -- sorted texts without repetition

Sorting texts and dropping repetitions neither loses a text nor makes one up. What comes out ascends
strictly, so it is the only such list with the same texts: neither the order nor the repetitions of
the texts that go in can be seen in it.
-/

namespace Intercept.Text

theorem mem_eraseRepsBy_loop {α : Type} [BEq α] [LawfulBEq α] {x a : α} {as acc : List α} :
    x ∈ List.eraseRepsBy.loop (· == ·) a as acc ↔ x = a ∨ x ∈ as ∨ x ∈ acc := by
  induction as generalizing a acc with
  | nil => simp [List.eraseRepsBy.loop, or_comm]
  | cons b as ih =>
    rw [List.eraseRepsBy.loop]
    split
    · next hab =>
      rw [beq_iff_eq] at hab
      rw [ih, hab, List.mem_cons, or_assoc, or_self_left]
    · rw [ih, List.mem_cons, List.mem_cons]
      constructor
      · rintro (h | h | h | h)
        · exact Or.inr (Or.inl (Or.inl h))
        · exact Or.inr (Or.inl (Or.inr h))
        · exact Or.inl h
        · exact Or.inr (Or.inr h)
      · rintro (h | (h | h) | h)
        · exact Or.inr (Or.inr (Or.inl h))
        · exact Or.inl h
        · exact Or.inr (Or.inl h)
        · exact Or.inr (Or.inr (Or.inr h))

theorem mem_eraseReps {α : Type} [BEq α] [LawfulBEq α] {x : α} {as : List α} :
    x ∈ as.eraseReps ↔ x ∈ as := by
  cases as with
  | nil => rfl
  | cons a as =>
    rw [List.eraseReps, List.eraseRepsBy, mem_eraseRepsBy_loop, List.mem_cons]
    simp

/-! ## Repetitions -/

theorem eraseRepsBy_loop_eq {α : Type} {r : α → α → Bool} (a : α) (as acc : List α) :
    List.eraseRepsBy.loop r a as acc = acc.reverse ++ List.eraseRepsBy.loop r a as [] := by
  induction as generalizing a acc with
  | nil => simp [List.eraseRepsBy.loop]
  | cons b as ih =>
    rw [List.eraseRepsBy.loop, List.eraseRepsBy.loop]
    split
    · exact ih a acc
    · rw [ih b (a :: acc), ih b [a]]
      simp

theorem eraseReps_cons_cons {α : Type} [BEq α] (a b : α) (as : List α) :
    (a :: b :: as).eraseReps = if a == b then (a :: as).eraseReps else a :: (b :: as).eraseReps := by
  rw [List.eraseReps, List.eraseRepsBy, List.eraseRepsBy.loop]
  cases hab : a == b with
  | true => rfl
  | false => exact eraseRepsBy_loop_eq b as [a]

section Ascending

variable {α : Type} {le : α → α → Prop}

/-- In a list that ascends, equal elements are neighbours, so that none is left twice. -/
theorem pairwise_eraseReps [BEq α] [LawfulBEq α] (antisymm : ∀ a b, le a b → le b a → a = b)
    {l : List α} (h : l.Pairwise le) : l.eraseReps.Pairwise fun a b => le a b ∧ a ≠ b := by
  cases l with
  | nil => exact .nil
  | cons a as =>
    induction as generalizing a with
    | nil => exact List.pairwise_singleton _ a
    | cons b as ih =>
      obtain ⟨ha, has⟩ := List.pairwise_cons.mp h
      rw [eraseReps_cons_cons]
      split
      · next hab =>
        rw [beq_iff_eq] at hab
        exact ih a (hab ▸ has)
      · next hab =>
        refine List.pairwise_cons.mpr ⟨fun x hx => ?_, ih b has⟩
        rw [mem_eraseReps] at hx
        refine ⟨ha x hx, ?_⟩
        -- If the element came again behind its greater neighbour, the two would be equal.
        rintro rfl
        rcases List.mem_cons.mp hx with rfl | hx
        · simp at hab
        · have hba := (List.pairwise_cons.mp has).1 a hx
          simp [antisymm a b (ha b List.mem_cons_self) hba] at hab

/-- A list that ascends without repetition is determined by its elements. -/
theorem eq_of_ascending (antisymm : ∀ a b, le a b → le b a → a = b) {as bs : List α}
    (ha : as.Pairwise le) (hb : bs.Pairwise le) (ha' : as.Nodup) (hb' : bs.Nodup)
    (h : ∀ x, x ∈ as ↔ x ∈ bs) : as = bs :=
  List.Perm.eq_of_pairwise (fun a b _ _ => antisymm a b) ha hb
    ((List.perm_ext_iff_of_nodup ha' hb').mpr h)

end Ascending

theorem nodup_eraseDups {α : Type} [BEq α] [LawfulBEq α] (l : List α) : l.eraseDups.Nodup := by
  cases l with
  | nil => exact .nil
  | cons a as =>
    rw [List.eraseDups_cons, List.nodup_cons, List.mem_eraseDups]
    exact ⟨by simp, nodup_eraseDups _⟩
termination_by l.length
decreasing_by exact Nat.lt_succ_of_le (List.length_filter_le _ as)

/-! ## Sorted texts -/

section Comparing

variable {α : Type} (cmp : α → α → Ordering) [Std.TransCmp cmp]

/-- Sorting by a comparison puts a list in ascending order. -/
theorem pairwise_mergeSort_isLE (l : List α) :
    (l.mergeSort fun a b => (cmp a b).isLE).Pairwise fun a b => (cmp a b).isLE := by
  refine List.pairwise_mergeSort (fun a b c => Std.TransCmp.isLE_trans) ?_ l
  intro a b
  rw [Bool.or_eq_true]
  by_cases hab : (cmp a b).isLE
  · exact Or.inl hab
  · exact Or.inr (Ordering.isLE_of_eq_lt (Std.OrientedCmp.lt_of_not_isLE hab))

theorem eq_of_isLE_of_isLE [Std.LawfulEqCmp cmp] (a b : α) (hab : (cmp a b).isLE)
    (hba : (cmp b a).isLE) : a = b :=
  Std.LawfulEqCmp.eq_of_compare (Std.OrientedCmp.isLE_antisymm hab hba)

end Comparing

theorem mem_sortedUnique {x : List Char} {lines : List (List Char)} :
    x ∈ sortedUnique lines ↔ x ∈ lines := by
  rw [sortedUnique, mem_eraseReps, List.mem_mergeSort]

theorem sortedUnique_eq_nil {lines : List (List Char)} : sortedUnique lines = [] ↔ lines = [] := by
  simp only [List.eq_nil_iff_forall_not_mem, mem_sortedUnique]

theorem sortedUnique_singleton (line : List Char) : sortedUnique [line] = [line] := by
  rw [sortedUnique, List.mergeSort_singleton]
  rfl

theorem pairwise_sortedUnique (lines : List (List Char)) :
    (sortedUnique lines).Pairwise fun a b => (compare a b).isLE ∧ a ≠ b :=
  pairwise_eraseReps (eq_of_isLE_of_isLE compare) (pairwise_mergeSort_isLE compare lines)

/-- Which texts there are is all that matters. -/
theorem sortedUnique_congr {as bs : List (List Char)} (h : ∀ x, x ∈ as ↔ x ∈ bs) :
    sortedUnique as = sortedUnique bs := by
  have ha := pairwise_sortedUnique as
  have hb := pairwise_sortedUnique bs
  refine eq_of_ascending (eq_of_isLE_of_isLE compare) (ha.imp And.left) (hb.imp And.left)
    (ha.imp And.right) (hb.imp And.right) fun x => ?_
  rw [mem_sortedUnique, mem_sortedUnique, h]

end Intercept.Text
