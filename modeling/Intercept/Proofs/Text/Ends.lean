import Intercept.Proofs.Text.Pieces

/-!
# Intercept.Proofs.Text.Ends -- what stands at the end of a text

Taking a fixed text off an end as often as it stands there leaves a text that does not end with it,
and what stands behind the last separator holds no separator.
-/

namespace Intercept.Text

/-! ## Taking off an end -/

theorem before?_eq_none {back cs : List Char} : before? back cs = none ↔ ¬ back <:+ cs := by
  rw [Option.eq_none_iff_forall_ne_some]
  constructor
  · rintro h ⟨front, hfront⟩
    exact h front (before?_eq_some.mpr hfront.symm)
  · intro h front hfront
    exact h ⟨front, (before?_eq_some.mp hfront).symm⟩

theorem exists_dropEnds (back : List Char) (fuel : Nat) (cs : List Char) :
    ∃ r, cs = dropEnds back fuel cs ++ r ∧ ∀ c ∈ r, c ∈ back := by
  induction fuel generalizing cs with
  | zero => exact ⟨[], (List.append_nil cs).symm, by simp⟩
  | succ fuel ih =>
    rw [dropEnds]
    split
    · next front hfront =>
      rw [before?_eq_some] at hfront
      obtain ⟨r, hr, hmem⟩ := ih front
      refine ⟨r ++ back, by rw [← List.append_assoc, ← hr, hfront], fun c hc => ?_⟩
      exact (List.mem_append.mp hc).elim (hmem c) id
    · exact ⟨[], (List.append_nil cs).symm, by simp⟩

/-- Fuel for every character is enough, since each step takes one off at least. -/
theorem not_suffix_dropEnds {back : List Char} (hback : back ≠ []) {fuel : Nat} {cs : List Char}
    (hfuel : cs.length ≤ fuel) : ¬ back <:+ dropEnds back fuel cs := by
  induction fuel generalizing cs with
  | zero =>
    rw [Nat.le_zero, List.length_eq_zero_iff] at hfuel
    rw [dropEnds, hfuel, List.suffix_nil]
    exact hback
  | succ fuel ih =>
    rw [dropEnds]
    split
    · next front hfront =>
      rw [before?_eq_some] at hfront
      refine ih ?_
      have hpos := List.length_pos_iff.mpr hback
      rw [hfront, List.length_append] at hfuel
      omega
    · next hnone => exact before?_eq_none.mp hnone

theorem trimEndOf_eq {back : List Char} (hback : back ≠ []) (cs : List Char) :
    trimEndOf back cs = dropEnds back cs.length cs := by
  rw [trimEndOf, if_neg (by simp [hback])]

/-- What is taken off an end is made of the characters of what is to be taken off. -/
theorem exists_trimEndOf {back : List Char} (hback : back ≠ []) (cs : List Char) :
    ∃ r, cs = trimEndOf back cs ++ r ∧ ∀ c ∈ r, c ∈ back := by
  rw [trimEndOf_eq hback]
  exact exists_dropEnds back cs.length cs

theorem length_trimEndOf_le {back : List Char} (hback : back ≠ []) (cs : List Char) :
    (trimEndOf back cs).length ≤ cs.length := by
  obtain ⟨r, hr, -⟩ := exists_trimEndOf hback cs
  have hlen := congrArg List.length hr
  rw [List.length_append] at hlen
  omega

theorem noBlank_trimEndOf {back cs : List Char} (hback : back ≠ []) (h : NoBlank cs) :
    NoBlank (trimEndOf back cs) := by
  obtain ⟨r, hr, -⟩ := exists_trimEndOf hback cs
  rw [hr] at h
  exact (noBlank_append.mp h).1

theorem not_suffix_trimEndOf {back : List Char} (hback : back ≠ []) (cs : List Char) :
    ¬ back <:+ trimEndOf back cs := by
  rw [trimEndOf_eq hback]
  exact not_suffix_dropEnds hback (Nat.le_refl _)

theorem trimEndOf_eq_self {back cs : List Char} (hback : back ≠ []) :
    trimEndOf back cs = cs ↔ ¬ back <:+ cs := by
  constructor
  · intro h
    have hnot := not_suffix_trimEndOf hback cs
    rwa [h] at hnot
  · intro h
    rw [trimEndOf_eq hback]
    cases hlen : cs.length with
    | zero => rfl
    | succ n => rw [dropEnds, before?_eq_none.mpr h]

/-- What is taken off once is all that is taken off when the rest does not end with it. -/
theorem trimEndOf_append_eq {back : List Char} (hback : back ≠ []) (cs : List Char) :
    trimEndOf back (cs ++ back) = cs ↔ ¬ back <:+ cs := by
  constructor
  · intro h
    have hnot := not_suffix_trimEndOf hback (cs ++ back)
    rwa [h] at hnot
  · intro h
    have hstep : ∀ fuel, dropEnds back fuel cs = cs := by
      intro fuel
      cases fuel with
      | zero => rfl
      | succ fuel => rw [dropEnds, before?_eq_none.mpr h]
    have hpos := List.length_pos_iff.mpr hback
    obtain ⟨fuel, hfuel⟩ : ∃ fuel, (cs ++ back).length = fuel + 1 :=
      ⟨(cs ++ back).length - 1, by rw [List.length_append]; omega⟩
    rw [trimEndOf_eq hback, hfuel, dropEnds, before?_eq_some.mpr rfl]
    exact hstep fuel

/-! ## Behind the last separator -/

theorem afterLast_of_not_mem {sep : Char} {cs : List Char} (h : sep ∉ cs) :
    afterLast sep cs = cs := by
  rw [afterLast, splitOn_of_not_mem h]
  rfl

theorem afterLast_append {sep : Char} {b : List Char} (hb : sep ∉ b) (a : List Char) :
    afterLast sep (a ++ sep :: b) = b := by
  rw [afterLast, splitOn_append, splitOn_of_not_mem hb, List.getLastD_eq_getLast?,
    List.getLast?_concat]
  rfl

/-- What ends a text and holds no separator stands behind the last one. -/
theorem suffix_of_not_mem {sep : Char} {s a b : List Char} (hs : sep ∉ s)
    (h : s <:+ a ++ sep :: b) : s <:+ b := by
  obtain ⟨t, ht⟩ := h
  obtain ⟨v, -, hv⟩ | ⟨v, -, hv⟩ := List.append_eq_append_iff.mp ht
  · exact absurd (hv ▸ List.mem_append_right v List.mem_cons_self) hs
  · cases v with
    | nil =>
      rw [List.nil_append] at hv
      exact absurd (hv ▸ List.mem_cons_self) hs
    | cons c v => exact ⟨v, (List.cons.inj hv).2.symm⟩

/-- A text that holds a separator can be cut at the last one. -/
theorem exists_last {sep : Char} {cs : List Char} (h : sep ∈ cs) :
    ∃ a b, cs = a ++ sep :: b ∧ sep ∉ b := by
  obtain ⟨b, a, heq, hb⟩ := List.eq_append_cons_of_mem (List.mem_reverse.mpr h)
  refine ⟨a.reverse, b.reverse, ?_, by simpa using hb⟩
  rw [← List.reverse_reverse cs, heq]
  simp

end Intercept.Text
