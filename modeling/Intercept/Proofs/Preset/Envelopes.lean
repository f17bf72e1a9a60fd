import Intercept.Proofs.Preset

/-!
# Intercept.Proofs.Preset.Envelopes -- the order of the mocked rules

Some mocked rules are about the same locators, so it matters that these have the same answer. The
patterns that are answered by a list and the one that is answered by an object part in the path,
in front of any wildcard. So no locator is matched by patterns of both kinds, and the rules may be
tried in any order.
-/

namespace Intercept.Preset

open Mocker (concerns Unanimous)
open Pattern (Apart BeginsWith)

variable {url : String}

theorem apart_pathOpenings : Apart (pathOpenings listPaths) (pathOpenings objectPaths) := by
  unfold Apart
  decide +kernel

theorem emptyList_ne_emptyObject : emptyList ≠ emptyObject := by decide

/-- A rule is about no other locators than its pattern opens with. -/
theorem beginsWith_of_concerns {starts : List (List Char)} {rule : String × String}
    (hopens : Pattern.Compiles (Pattern.Expr.opensWith starts) rule.1)
    (h : concerns url rule = true) : BeginsWith starts url := by
  obtain ⟨p, hp, hstarts⟩ := hopens
  rw [concerns, hp, Option.any_some] at h
  exact Pattern.beginsWith_of_opensWith hstarts h

/-- No locator is asked for by a rule that answers with a list and by one that answers with an
object. -/
theorem not_both_envelopes {a b : String × String} (ha : a ∈ mockedRules) (hb : b ∈ mockedRules)
    (hlist : a.2 = emptyList) (hobject : b.2 = emptyObject) :
    ¬ (concerns url a = true ∧ concerns url b = true) := by
  rintro ⟨hconcerns, hconcerns'⟩
  rcases mocked_answersByPath a ha with ⟨-, hopens⟩ | ⟨hother, -⟩
  · rcases mocked_answersByPath b hb with ⟨hother, -⟩ | ⟨-, hopens'⟩
    · exact emptyList_ne_emptyObject (hother.symm.trans hobject)
    · exact apart_pathOpenings.not_beginsWith (beginsWith_of_concerns hopens hconcerns)
        (beginsWith_of_concerns hopens' hconcerns')
  · exact emptyList_ne_emptyObject (hlist.symm.trans hother)

theorem unanimous_mockedRules (url : String) : Unanimous mockedRules url := by
  intro a ha b hb hconcerns hconcerns'
  rcases mocked_answersByPath a ha with ⟨hlist, -⟩ | ⟨hobject, -⟩
  · rcases mocked_answersByPath b hb with ⟨hlist', -⟩ | ⟨hobject', -⟩
    · exact hlist.trans hlist'.symm
    · exact absurd ⟨hconcerns, hconcerns'⟩ (not_both_envelopes ha hb hlist hobject')
  · rcases mocked_answersByPath b hb with ⟨hlist', -⟩ | ⟨hobject', -⟩
    · exact absurd ⟨hconcerns', hconcerns⟩ (not_both_envelopes hb ha hlist' hobject)
    · exact hobject.trans hobject'.symm

/-- A mocker of the mocked rules in any other order decides as the built-in one does: no locator is
asked for by rules with different answers. -/
theorem classify_of_permuted {rules : List (String × String)} (h : rules.Perm mockedRules) :
    ∃ m m', fawvw = .ok m ∧ Mocker.compile rules = .ok m' ∧ (∀ r, m'.classify r = m.classify r)
      ∧ ∀ url, ∀ a ∈ mockedRules, ∀ b ∈ mockedRules, a.2 = emptyList → b.2 = emptyObject →
        ¬ (concerns url a = true ∧ concerns url b = true) := by
  obtain ⟨m, hm⟩ := Mocker.exists_compile exists_compilePattern
  obtain ⟨m', hm'⟩ := Mocker.exists_compile fun rule hrule =>
    exists_compilePattern rule (h.mem_iff.mp hrule)
  refine ⟨m, m', hm, hm', fun r => ?_, fun url a ha b hb => not_both_envelopes ha hb⟩
  rw [Mocker.classify_of_compile hm, Mocker.classify_of_compile hm',
    (unanimous_mockedRules r.url).firstBody?_perm h.symm]

/-- The rules from the last one to the first. -/
theorem classify_of_permuted_reversed : mockedRules.reverse.Perm mockedRules
    ∧ ∃ m m', fawvw = .ok m ∧ Mocker.compile mockedRules.reverse = .ok m'
      ∧ ∀ r, m'.classify r = m.classify r := by
  have hperm : mockedRules.reverse.Perm mockedRules := List.reverse_perm mockedRules
  obtain ⟨m, m', hm, hm', hclassify, -⟩ := classify_of_permuted hperm
  exact ⟨hperm, m, m', hm, hm', hclassify⟩

end Intercept.Preset
