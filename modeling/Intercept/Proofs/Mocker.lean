import Intercept.Mocker
import Intercept.Proofs.Fault
import Mathlib.Data.List.Perm.Basic

/-!
# Intercept.Proofs.Mocker -- what rules given as text decide

A mocker is made of patterns given as text, each with a body. What it decides is told by these texts
alone: it replaces the body by that of the first rule whose pattern is found in the locator. Where
all rules that are about a locator have the same body, their order does not matter.
-/

namespace Intercept

theorem compilePattern_eq_ok {source : String} {p : Pattern} :
    compilePattern source = .ok p ↔ Pattern.compile? source = some p := by
  rw [compilePattern]
  cases Pattern.compile? source with
  | none => exact iff_of_false nofun nofun
  | some q => rw [Except.ok.injEq, Option.some.injEq]

namespace Mocker

/-- Whether a rule given as text is about a locator; one that cannot be compiled is about none. -/
def concerns (url : String) (rule : String × String) : Bool :=
  (Pattern.compile? rule.1).any (·.isMatch url)

/-- The body of the first of some rules that is about a locator. -/
def firstBody? (rules : List (String × String)) (url : String) : Option String :=
  (rules.find? (concerns url)).map Prod.snd

variable {rules rules' : List (String × String)} {url : String} {m : Mocker}

theorem isMatch_of_compilePattern {rule : String × String} {p : Pattern}
    (h : compilePattern rule.1 = .ok p) : p.isMatch url = concerns url rule := by
  rw [concerns, compilePattern_eq_ok.mp h, Option.any_some]

/-- A compiled rule asks for what its text asks for. -/
theorem isMatch_of_compile {rule : String × String} {compiled : MockRule}
    (h : MockRule.compile rule.1 rule.2 = .ok compiled) :
    compiled.isMatch url = concerns url rule ∧ compiled.body = rule.2 := by
  obtain ⟨p, hp, rfl⟩ := map_eq_ok.mp h
  exact ⟨isMatch_of_compilePattern hp, rfl⟩

/-- A mocker gives the body of the first rule that is about the locator. -/
theorem classify_of_compile (h : compile rules = .ok m) (r : Request) :
    m.classify r = .pass (firstBody? rules r.url) := by
  obtain ⟨compiled, hcompiled, rfl⟩ := map_eq_ok.mp h
  have hbody : (compiled.find? (·.isMatch r.url)).map MockRule.body = firstBody? rules r.url :=
    map_find?_mapM (fun hmade => (isMatch_of_compile hmade).imp_right fun hb _ => hb) hcompiled
  rw [← hbody, classify, find?]
  cases compiled.find? (·.isMatch r.url) <;> rfl

/-- Rules can be made a mocker of if all of their patterns can be compiled. -/
theorem exists_compile (h : ∀ rule ∈ rules, ∃ p, compilePattern rule.1 = .ok p) :
    ∃ m, compile rules = .ok m := by
  have hmade : ∀ rule ∈ rules, ∃ compiled, MockRule.compile rule.1 rule.2 = .ok compiled ∧ True := by
    intro rule hrule
    obtain ⟨p, hp⟩ := h rule hrule
    exact ⟨_, map_eq_ok.mpr ⟨p, hp, rfl⟩, trivial⟩
  obtain ⟨compiled, hcompiled, -⟩ := exists_mapM_eq_ok hmade
  exact ⟨_, map_eq_ok.mpr ⟨compiled, hcompiled, rfl⟩⟩

/-! ## Order -/

/-- No two rules with different bodies are about a locator. -/
def Unanimous (rules : List (String × String)) (url : String) : Prop :=
  ∀ a ∈ rules, ∀ b ∈ rules, concerns url a = true → concerns url b = true → a.2 = b.2

/-- Where the rules are unanimous, any rule that is about the locator tells the body. -/
theorem Unanimous.firstBody?_eq_some_iff (h : Unanimous rules url) {body : String} :
    firstBody? rules url = some body ↔ ∃ rule ∈ rules, concerns url rule = true ∧ rule.2 = body := by
  rw [firstBody?, Option.map_eq_some_iff]
  constructor
  · rintro ⟨rule, hfind, hbody⟩
    exact ⟨rule, List.mem_of_find?_eq_some hfind, List.find?_some hfind, hbody⟩
  · rintro ⟨rule, hrule, hconcerns, rfl⟩
    obtain ⟨first, hfirst⟩ :=
      Option.isSome_iff_exists.mp (List.find?_isSome.mpr ⟨rule, hrule, hconcerns⟩)
    refine ⟨first, hfirst, h first (List.mem_of_find?_eq_some hfirst) rule hrule ?_ hconcerns⟩
    exact List.find?_some hfirst

theorem Unanimous.perm (h : Unanimous rules url) (hperm : rules.Perm rules') :
    Unanimous rules' url :=
  fun a ha b hb => h a (hperm.mem_iff.mpr ha) b (hperm.mem_iff.mpr hb)

theorem Unanimous.firstBody?_perm (h : Unanimous rules url) (hperm : rules.Perm rules') :
    firstBody? rules url = firstBody? rules' url := by
  refine Option.ext fun body => ?_
  rw [h.firstBody?_eq_some_iff, (h.perm hperm).firstBody?_eq_some_iff]
  simp only [hperm.mem_iff]

end Mocker

end Intercept
