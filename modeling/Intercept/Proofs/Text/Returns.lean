import Intercept.Proofs.Text.Parts
import Intercept.Proofs.Text.Words

/-!
# Intercept.Proofs.Text.Returns -- carriage returns at the ends of lines

A carriage return in front of a line feed belongs to the line end. So a text that ends with one is
not found again when it has been written as a line, and it is the only kind of text that is not. What
ends with a carriage return is told for a text that is glued from parts.
-/

namespace Intercept.Text

variable {a b cs line : List Char}

/-- A text whose last character is a carriage return. -/
def EndsInReturn (cs : List Char) : Prop :=
  cs.getLast? = some '\r'

instance (cs : List Char) : Decidable (EndsInReturn cs) :=
  inferInstanceAs (Decidable (_ = _))

/-! ## Texts from parts -/

/-- The last part that is not empty decides. -/
theorem endsInReturn_append :
    EndsInReturn (a ++ b) ↔ EndsInReturn b ∨ b = [] ∧ EndsInReturn a := by
  unfold EndsInReturn
  rw [List.getLast?_append, Option.or_eq_some_iff, List.getLast?_eq_none_iff]

theorem endsInReturn_append_of_ne_nil (hne : b ≠ []) : EndsInReturn (a ++ b) ↔ EndsInReturn b := by
  rw [endsInReturn_append]
  exact or_iff_left fun h => hne h.1

/-- A sign is no carriage return, so what stands behind it decides even if nothing does. -/
theorem endsInReturn_append_cons {c : Char} (hc : c ≠ '\r') :
    EndsInReturn (a ++ c :: b) ↔ EndsInReturn b := by
  rw [List.append_cons, endsInReturn_append]
  refine or_iff_left ?_
  rintro ⟨-, hlast⟩
  rw [EndsInReturn, List.getLast?_concat] at hlast
  exact hc (Option.some.inj hlast)

theorem not_endsInReturn_append (ha : ¬ EndsInReturn a) (hb : ¬ EndsInReturn b) :
    ¬ EndsInReturn (a ++ b) := by
  rw [endsInReturn_append]
  rintro (h | ⟨-, h⟩)
  · exact hb h
  · exact ha h

theorem not_endsInReturn_join {sep : List Char} (hsep : ¬ EndsInReturn sep)
    {parts : List (List Char)} (h : ∀ part ∈ parts, ¬ EndsInReturn part) :
    ¬ EndsInReturn (join sep parts) := by
  induction parts with
  | nil => simp [EndsInReturn, join]
  | cons part parts ih =>
    obtain ⟨hpart, hparts⟩ := List.forall_mem_cons.mp h
    cases parts with
    | nil => simpa [join] using hpart
    | cons next parts =>
      rw [join_cons_cons]
      exact not_endsInReturn_append hpart (not_endsInReturn_append hsep (ih hparts))

theorem not_endsInReturn_of_not_mem (h : '\r' ∉ cs) : ¬ EndsInReturn cs := fun hlast =>
  h (List.mem_of_getLast? hlast)

theorem not_endsInReturn_of_noBlank (h : NoBlank cs) : ¬ EndsInReturn cs :=
  not_endsInReturn_of_not_mem (not_mem_of_noBlank (by decide) h)

/-- A carriage return is a blank, so a trimmed text does not end with one. -/
theorem not_endsInReturn_trim (cs : List Char) : ¬ EndsInReturn (trim cs) := by
  intro hlast
  obtain ⟨front, hfront⟩ := List.getLast?_eq_some_iff.mp hlast
  have htrim := trimEnd_trim cs
  rw [hfront, trimEnd_append_of_allBlank front (by decide)] at htrim
  obtain ⟨r, -, hr⟩ := exists_trimEnd front
  have hlength := congrArg List.length hr
  rw [htrim] at hlength
  simp only [List.length_append, List.length_singleton] at hlength
  omega

/-! ## Lines -/

theorem dropReturn_eq_self_iff : dropReturn line = line ↔ ¬ EndsInReturn line := by
  unfold dropReturn EndsInReturn
  rw [List.getLast?_eq_some_iff]
  cases hread : before? ['\r'] line with
  | none =>
    rw [Option.getD_none]
    refine iff_of_true rfl ?_
    rintro ⟨front, hfront⟩
    exact before?_eq_none.mp hread ⟨front, hfront.symm⟩
  | some front =>
    rw [before?_eq_some] at hread
    rw [Option.getD_some]
    refine iff_of_false ?_ fun h => h ⟨front, hread⟩
    intro heq
    have hlength := congrArg List.length hread
    rw [heq] at hlength
    simp at hlength

/-- A text without carriage returns that stands at the front of a line stands there without the line
end as well. -/
theorem startsWith_dropReturn {front : List Char} (h : '\r' ∉ front) (line : List Char) :
    startsWith front (dropReturn line) = startsWith front line := by
  unfold dropReturn
  cases hread : before? ['\r'] line with
  | none => rfl
  | some kept =>
    rw [before?_eq_some] at hread
    rw [Option.getD_some, Bool.eq_iff_iff, startsWith_iff_prefix, startsWith_iff_prefix, hread]
    constructor
    · exact fun hprefix => hprefix.trans (List.prefix_append kept ['\r'])
    · intro hprefix
      rcases List.prefix_concat_iff.mp hprefix with heq | hkept
      · exact absurd (heq ▸ List.mem_append_right kept (List.mem_singleton_self '\r')) h
      · exact hkept

end Intercept.Text
