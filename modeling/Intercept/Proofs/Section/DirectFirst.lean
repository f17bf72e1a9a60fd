import Intercept.Proofs.Section.FilterOrder
import Intercept.Proofs.Unicode.CaseMapping

/-!
# Intercept.Proofs.Section.DirectFirst -- rules that let traffic through

Rules are tried in order, so those that let traffic through are to come first. What a rule does is
named by one of its fields, but the order looks for the name behind any comma and does not ask where
the field ends. A field that goes on behind it, such as the host `direct.example.com`, passes for the
name as well. Such a rule stands among the direct ones, where its type and its text put it.
-/

namespace Intercept.Section

open Intercept.Text (splitOn)

/-! ## Fields -/

/-- A field without blanks, in capitals. -/
def bare (field : List Char) : List Char :=
  Unicode.uppercase (field.filter (· != ' '))

/-- A rule with a field behind the first that names the direct way, and nothing else. -/
def NamesDirect (line : List Char) : Prop :=
  ∃ field ∈ (splitOn ',' line).tail, bare field = "DIRECT".toList

instance (line : List Char) : Decidable (NamesDirect line) :=
  inferInstanceAs (Decidable (∃ field ∈ _, _))

/-- A rule without such a field, but with one behind the first that begins like that. -/
def ResemblesDirect (line : List Char) : Prop :=
  ¬ NamesDirect line ∧ ∃ field ∈ (splitOn ',' line).tail, "DIRECT".toList <+: bare field

instance (line : List Char) : Decidable (ResemblesDirect line) :=
  inferInstanceAs (Decidable (_ ∧ ∃ field ∈ _, _))

variable {text line a b : List Char}

theorem bare_cons (c : Char) (cs : List Char) :
    bare (c :: cs) = (if c = ' ' then [] else Unicode.upperChar c) ++ bare cs := by
  unfold bare Unicode.uppercase
  rw [List.filter_cons]
  by_cases hc : c = ' '
  · rw [if_neg (by simp [hc]), if_pos hc, List.nil_append]
  · rw [if_pos (by simp [hc]), if_neg hc, List.flatMap_cons]

theorem bare_eq_flatMap (cs : List Char) :
    bare cs = cs.flatMap fun c => if c = ' ' then [] else Unicode.upperChar c := by
  induction cs with
  | nil => rw [bare, Unicode.uppercase, List.filter_nil, List.flatMap_nil, List.flatMap_nil]
  | cons c cs ih => rw [bare_cons, List.flatMap_cons, ih]

/-- The fields of a line in capitals are the fields of the line, each in capitals. -/
theorem splitOn_bare (line : List Char) :
    splitOn ',' (bare line) = (splitOn ',' line).map bare := by
  have hbare : bare = List.flatMap fun c => if c = ' ' then [] else Unicode.upperChar c := by
    funext cs
    exact bare_eq_flatMap cs
  rw [hbare]
  refine Text.splitOn_flatMap ?_ (fun c hc => ?_) line
  · rfl
  · split
    · exact List.not_mem_nil
    · exact Unicode.comma_not_mem_upperChar hc

/-- A rule counts as direct when a field behind the first begins with the name. -/
theorem direct_iff : Direct line ↔ ∃ field ∈ (splitOn ',' line).tail,
    "DIRECT".toList <+: bare field := by
  have hmark : ",DIRECT".toList = ',' :: "DIRECT".toList := by decide
  rw [Direct, hmark, ← bare, Text.cons_infix_iff (by decide), splitOn_bare, ← List.map_tail]
  simp only [List.mem_map, exists_exists_and_eq_and]

theorem NamesDirect.direct (h : NamesDirect line) : Direct line := by
  obtain ⟨field, hfield, heq⟩ := h
  exact direct_iff.mpr ⟨field, hfield, heq ▸ List.prefix_rfl⟩

theorem ResemblesDirect.direct (h : ResemblesDirect line) : Direct line :=
  direct_iff.mpr h.2

theorem namesDirect_or_resemblesDirect (h : Direct line) :
    NamesDirect line ∨ ResemblesDirect line := by
  by_cases hnames : NamesDirect line
  · exact Or.inl hnames
  · exact Or.inr ⟨hnames, direct_iff.mp h⟩

/-! ## Places of direct rules -/

/-- One rule comes before another by its type, its network and its text, in this order. -/
def BeforeByRest (a b : List Char) : Prop :=
  Prod.Lex (· < ·) (Prod.Lex (· < ·) (Prod.Lex (· < ·)
    (Prod.Lex (List.Lex (· < ·)) (List.Lex (· < ·))))) (place a).2 (place b).2

theorem before_iff_of_direct (ha : Direct a) (hb : Direct b) : Before a b ↔ BeforeByRest a b := by
  have hfirst : (place a).1 = (place b).1 := (if_pos ha).trans (if_pos hb).symm
  rw [Before, Prod.lex_def, hfirst]
  constructor
  · rintro (hlt | ⟨-, hrest⟩)
    · exact absurd hlt (Nat.lt_irrefl _)
    · exact hrest
  · exact fun hrest => Or.inr ⟨rfl, hrest⟩

theorem BeforeByRest.typeRank_le (h : BeforeByRest a b) : typeRank a ≤ typeRank b := by
  rw [BeforeByRest, Prod.lex_def] at h
  rcases h with hlt | ⟨heq, -⟩
  · exact Nat.le_of_lt hlt
  · exact Nat.le_of_eq heq

/-- Nothing but direct rules comes before a direct one. -/
theorem Before.direct (h : Before a b) (hb : Direct b) : Direct a := by
  have hplace : (place b).1 = 0 := if_pos hb
  by_contra ha
  have hplace' : (place a).1 = 1 := if_neg ha
  rw [Before, Prod.lex_def, hplace, hplace'] at h
  rcases h with hlt | ⟨heq, -⟩
  · exact absurd hlt (by decide)
  · cases heq

theorem Before.asymm (h : Before a b) : ¬ Before b a := by
  intro h'
  have hgt := Std.OrientedCmp.gt_of_lt (compareFilters_eq_lt.mpr h')
  rw [compareFilters_eq_lt.mpr h] at hgt
  cases hgt

/-- Of two rules of a text, one comes before the other in the list. -/
theorem rel_or_rel_of_pairwise {R : List Char → List Char → Prop}
    (h : (filterEntries text).Pairwise R) (ha : IsRule text a) (hb : IsRule text b) (hne : a ≠ b) :
    R a b ∨ R b a := by
  obtain ⟨i, hi, rfl⟩ := List.getElem_of_mem (mem_filterEntries_iff.mpr ha)
  obtain ⟨j, hj, rfl⟩ := List.getElem_of_mem (mem_filterEntries_iff.mpr hb)
  rcases Nat.lt_trichotomy i j with hlt | rfl | hlt
  · exact Or.inl (List.pairwise_iff_getElem.mp h i j hi hj hlt)
  · exact absurd rfl hne
  · exact Or.inr (List.pairwise_iff_getElem.mp h j i hj hi hlt)

/-! ## Direct rules first -/

/-- Every rule that names the direct way precedes every rule that does not. -/
def DirectFirst (text : List Char) : Prop :=
  (filterEntries text).Pairwise fun earlier later => NamesDirect later → NamesDirect earlier

/-- In front of a rule that names the direct way there are only such rules and ones that resemble
them. -/
theorem pairwise_namesDirect_or_resemblesDirect (text : List Char) :
    (filterEntries text).Pairwise fun earlier later =>
      NamesDirect later → NamesDirect earlier ∨ ResemblesDirect earlier := by
  refine (pairwise_before text).imp fun hbefore hlater => ?_
  exact namesDirect_or_resemblesDirect (hbefore.direct hlater.direct)

theorem DirectFirst.beforeByRest (h : DirectFirst text) (ha : IsRule text a) (hb : IsRule text b)
    (hresembles : ResemblesDirect a) (hnames : NamesDirect b) : BeforeByRest b a := by
  have hne : a ≠ b := by
    rintro rfl
    exact hresembles.1 hnames
  rcases rel_or_rel_of_pairwise (h.and (pairwise_before text)) ha hb hne with
    ⟨hnames', -⟩ | ⟨-, hbefore⟩
  · exact absurd (hnames' hnames) hresembles.1
  · exact (before_iff_of_direct hnames.direct hresembles.direct).mp hbefore

theorem directFirst_of_beforeByRest (h : ∀ a b, IsRule text a → IsRule text b →
    ResemblesDirect a → NamesDirect b → BeforeByRest b a) : DirectFirst text := by
  refine ((pairwise_before text).and (pairwise_namesDirect_or_resemblesDirect text)).imp_of_mem ?_
  rintro a b ha hb ⟨hbefore, hearlier⟩ hnames
  rcases hearlier hnames with hnames' | hresembles
  · exact hnames'
  -- A rule that only resembles a direct one would have to come behind it.
  · have hbehind := h a b (mem_filterEntries_iff.mp ha) (mem_filterEntries_iff.mp hb) hresembles
      hnames
    have hbefore' := (before_iff_of_direct hnames.direct hresembles.direct).mpr hbehind
    exact absurd hbefore' hbefore.asymm

/-- The rules that name the direct way come first exactly when every rule that only resembles them
comes behind them anyhow, by its type, its network or its text. Rules that do not even resemble them
never come in front. -/
theorem directFirst_iff (text : List Char) :
    (DirectFirst text ↔ ∀ a b, IsRule text a → IsRule text b → ResemblesDirect a → NamesDirect b →
        BeforeByRest b a) ∧
      (filterEntries text).Pairwise fun earlier later =>
        NamesDirect later → NamesDirect earlier ∨ ResemblesDirect earlier :=
  ⟨⟨fun h _ _ => h.beforeByRest, directFirst_of_beforeByRest⟩,
    pairwise_namesDirect_or_resemblesDirect text⟩

/-- A host whose name begins with the word is rejected before its domain is let through. -/
theorem not_directFirst_host :
    ¬ DirectFirst "DOMAIN,direct.example.com,REJECT\nDOMAIN-SUFFIX,example.com,DIRECT".toList := by
  intro h
  have hresembles : ResemblesDirect "DOMAIN,direct.example.com,REJECT".toList := by decide +kernel
  have hnames : NamesDirect "DOMAIN-SUFFIX,example.com,DIRECT".toList := by decide +kernel
  have hbefore : BeforeByRest "DOMAIN-SUFFIX,example.com,DIRECT".toList
      "DOMAIN,direct.example.com,REJECT".toList :=
    h.beforeByRest ⟨by decide, by decide, by decide, by decide +kernel⟩
      ⟨by decide, by decide, by decide, by decide +kernel⟩ hresembles hnames
  -- A whole domain is tried behind a single host.
  exact absurd hbefore.typeRank_le (by decide)

end Intercept.Section
