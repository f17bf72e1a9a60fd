import Intercept.Proofs.Text.Readers
import Intercept.Route.Snippet
import Intercept.Section.LocalBody

/-!
# Intercept.Proofs.Route.Lines -- one line read as a route and as an entry

A snippet takes the first word of a trimmed line for the pattern, a section takes what stands in
front of the first place from which the rest of the line can be read. Both find the same place: at
an earlier one a part of the pattern would have to be the word that is looked for, with the real one
behind it where its operand should be.
-/

namespace Intercept

open Intercept.Text
open Intercept.Section (afterUrl? patternThen? mockLine?)

namespace SnippetLine

/-! ## Lines with the word `url` -/

theorem patternUrl?_eq_some {line pattern body : List Char}
    (h : patternUrl? line = some (pattern, body)) :
    ∃ gap rest, line = pattern ++ gap ∧ pattern ≠ [] ∧ NoBlank pattern ∧ BlankFirst gap
      ∧ gap ≠ [] ∧ trimStart gap = "url".toList ++ rest ∧ afterBlanks? rest = some body := by
  simp only [patternUrl?, Option.bind_eq_bind, Option.bind_eq_some_iff] at h
  obtain ⟨⟨pattern', gap⟩, hword, behind, hgap, rest, hrest, body', hbody, hpair⟩ := h
  cases hpair
  obtain ⟨hline, hne, hpattern, hblank⟩ := word?_eq_some.mp hword
  obtain ⟨c, gap', hc, rfl, rfl⟩ := afterBlanks?_eq_some.mp hgap
  refine ⟨c :: gap', rest, hline, hne, hpattern, hblank, by simp, ?_, hbody⟩
  rw [trimStart_cons_of_blank hc]
  exact afterStr?_eq_some.mp hrest

/-- In front of the end of the pattern, the word `url` can only be read with the real one as what
follows it. -/
theorem afterUrl?_of_part {part gap rest body : List Char} (hpart : NoBlank part)
    (hgap : BlankFirst gap) (hne : gap ≠ []) (hurl : trimStart gap = "url".toList ++ rest)
    {cs : List Char} (hcs : trimStart cs = part ++ gap) (h : afterUrl? cs = some body) :
    body = "url".toList ++ rest := by
  rw [afterUrl?, hcs, Option.bind_eq_some_iff] at h
  obtain ⟨behind, hbehind, hbody⟩ := h
  obtain ⟨q, hq, rfl⟩ := after?_word (by decide : NoBlank "url".toList) hgap hbehind
  have hq' : NoBlank q := by
    rw [hq, noBlank_append] at hpart
    exact hpart.2
  -- Only a part that is the word `url` as a whole has a blank behind it.
  by_cases hnil : q = []
  · rw [hnil, List.nil_append] at hbody
    obtain ⟨c, gap', hc, rfl, rfl⟩ := afterBlanks?_eq_some.mp hbody
    rwa [trimStart_cons_of_blank hc] at hurl
  · rw [afterBlanks?_of_noBlank hq' hnil] at hbody
    exact absurd hbody (by simp)

/-- Behind blanks and a pattern, the word `url` is read where it stands by every reader of what
follows, as long as the reader does not read the word `url` itself. -/
theorem patternThen?_append {α : Type} {read : List Char → Option α}
    (hread : ∀ rest, read ("url".toList ++ rest) = none) {lead pattern gap rest body : List Char}
    {a : α} (hlead : AllBlank lead) (hpattern : NoBlank pattern) (hpne : pattern ≠ [])
    (hgap : BlankFirst gap) (hgne : gap ≠ []) (hurl : trimStart gap = "url".toList ++ rest)
    (hbody : afterBlanks? rest = some body) (ha : read body = some a) :
    patternThen? read ((lead ++ pattern) ++ gap) = some (pattern, a) := by
  have hback : (afterUrl? gap).bind read = some a := by
    rw [afterUrl?, hurl, afterStr?_append, Option.bind_some, hbody, Option.bind_some, ha]
  -- At an earlier place it would have to read the word `url` itself.
  have hfront : ∀ x y, y ≠ [] → lead ++ pattern = x ++ y →
      (afterUrl? (y ++ gap)).bind read = none := by
    intro x y hy hxy
    obtain ⟨_, part, hparts, -, hstart⟩ := exists_part_of_word hlead hpattern hpne hy hxy
    have hpart : NoBlank part := by
      rw [hparts, noBlank_append] at hpattern
      exact hpattern.2
    rw [Option.bind_eq_none_iff]
    intro body' hbody'
    rw [afterUrl?_of_part hpart hgap hgne hurl (hstart _) hbody']
    exact hread _
  rw [patternThen?, readFirst?_append hback hfront, Option.map_some,
    trim_append_of_allBlank hlead, trim_of_noBlank hpattern]

/-- A line whose trimmed form has a pattern and the word `url` has that pattern for every reader of
what follows, as long as the reader does not read the word `url` itself. -/
theorem patternThen?_of_patternUrl? {α : Type} {read : List Char → Option α}
    (hread : ∀ rest, read ("url".toList ++ rest) = none) {line pattern body : List Char} {a : α}
    (hline : patternUrl? (trim line) = some (pattern, body)) (hbody : body ≠ [])
    (ha : ∀ b, AllBlank b → read (body ++ b) = some a) :
    patternThen? read line = some (pattern, a) := by
  obtain ⟨gap, rest, htrim, hpne, hpattern, hgap, hgne, hurl, hrest⟩ := patternUrl?_eq_some hline
  obtain ⟨lead, trail, hlead, htrail, hwhole⟩ := exists_trim line
  have hurl' : trimStart (gap ++ trail) = "url".toList ++ (rest ++ trail) := by
    rw [trimStart_append_of_ne_nil (by simp [hurl]), hurl, List.append_assoc]
  have hsplit : line = (lead ++ pattern) ++ (gap ++ trail) := by
    rw [hwhole, htrim]
    simp only [List.append_assoc]
  -- Behind the pattern the reader finds its operand, with the blanks that were trimmed behind it.
  rw [hsplit]
  exact patternThen?_append hread hlead hpattern hpne (blankFirst_append hgap htrail)
    (by simp [hgne]) hurl' (afterBlanks?_append_of_ne_nil hrest hbody trail) (ha trail htrail)

/-! ## Lines that mock -/

theorem mockRoute?_eq_some {line : List Char} {l : SnippetLine} (h : mockRoute? line = some l) :
    ∃ pattern gap rest params, line = pattern ++ gap ∧ pattern ≠ [] ∧ NoBlank pattern
      ∧ BlankFirst gap ∧ gap ≠ [] ∧ trimStart gap = "mock-response-body".toList ++ rest
      ∧ afterBlanks? rest = some params
      ∧ l = .route pattern (.mock (String.ofList (Section.extractData params).1)) := by
  simp only [mockRoute?, Option.bind_eq_bind, Option.bind_eq_some_iff] at h
  obtain ⟨⟨pattern, gap⟩, hword, behind, hgap, rest, hrest, params, hparams, hl⟩ := h
  cases hl
  obtain ⟨hline, hne, hpattern, hblank⟩ := word?_eq_some.mp hword
  obtain ⟨c, gap', hc, rfl, rfl⟩ := afterBlanks?_eq_some.mp hgap
  refine ⟨pattern, c :: gap', rest, params, hline, hne, hpattern, hblank, by simp, ?_, hparams, rfl⟩
  rw [trimStart_cons_of_blank hc]
  exact afterStr?_eq_some.mp hrest

/-- The parameters of a trimmed line end without a blank. -/
theorem trimEnd_params {front rest params : List Char} (hparams : afterBlanks? rest = some params)
    (htrim : trimEnd (front ++ rest) = front ++ rest) : trimEnd params = params := by
  obtain ⟨c, r, -, rfl, rfl⟩ := afterBlanks?_eq_some.mp hparams
  obtain ⟨a, ha, hr⟩ := exists_trimStart r
  cases hs : trimStart r with
  | nil => rfl
  | cons d s =>
    have hd := not_blank_of_trimStart_eq hs
    have hkept : trimEnd (d :: s) ≠ [] := by
      rw [trimEnd_cons_of_not_blank hd]
      simp
    have hwhole : front ++ c :: r = (front ++ c :: a) ++ (d :: s) := by
      rw [hr, hs]
      simp
    rw [hwhole, trimEnd_append_of_ne_nil hkept] at htrim
    exact List.append_cancel_left htrim

/-- A line that mocks has the same pattern and parameters in a section, unless the pattern itself
holds the word for mocking. -/
theorem mockLine?_of_mockRoute? {line pattern params gap rest : List Char}
    (htrim : trim line = pattern ++ gap) (hpne : pattern ≠ []) (hpattern : NoBlank pattern)
    (hgap : BlankFirst gap) (hword : trimStart gap = "mock-response-body".toList ++ rest)
    (hparams : afterBlanks? rest = some params)
    (hfree : ∀ a b, pattern ≠ a ++ ("mock-response-body".toList ++ b)) :
    mockLine? line = some (pattern, params) := by
  obtain ⟨lead, trail, hlead, htrail, hwhole⟩ := exists_trim line
  have hgap' : BlankFirst (gap ++ trail) := blankFirst_append hgap htrail
  have hword' : trimStart (gap ++ trail) = "mock-response-body".toList ++ (rest ++ trail) := by
    rw [trimStart_append_of_ne_nil (by simp [hword]), hword, List.append_assoc]
  have hsplit : line = (lead ++ pattern) ++ (gap ++ trail) := by
    rw [hwhole, htrim]
    simp only [List.append_assoc]
  obtain ⟨c, r, hc, rfl, rfl⟩ := afterBlanks?_eq_some.mp hparams
  have hback : (afterStr? "mock-response-body" (trimStart (gap ++ trail))).bind afterBlanks?
      = some (trimStart (r ++ trail)) := by
    rw [hword', afterStr?_append, Option.bind_some, List.cons_append, afterBlanks?_cons hc]
  have hfront : ∀ x y, y ≠ [] → lead ++ pattern = x ++ y →
      (afterStr? "mock-response-body" (trimStart (y ++ (gap ++ trail)))).bind afterBlanks?
        = none := by
    intro x y hy hxy
    obtain ⟨before, part, hparts, -, hstart⟩ := exists_part_of_word hlead hpattern hpne hy hxy
    rw [Option.bind_eq_none_iff, hstart]
    intro behind hbehind
    -- An earlier place would put the word for mocking into the pattern.
    obtain ⟨q, hq, -⟩ := after?_word (by decide) hgap' hbehind
    exact absurd (hparts.trans (by rw [hq])) (hfree before q)
  -- The route read the trimmed line; the section trims the parameters, which changes nothing.
  have hend : trimEnd (trimStart r) = trimStart r := by
    obtain ⟨a, ha, hgapEq⟩ := exists_trimStart gap
    have hline : trim line = (pattern ++ (a ++ "mock-response-body".toList)) ++ c :: r := by
      rw [htrim, hgapEq, hword]
      simp only [List.append_assoc]
    exact trimEnd_params hparams (by rw [← hline, trimEnd_trim])
  rw [mockLine?, hsplit, readFirst?_append hback hfront, Option.map_some, trim_append_of_allBlank hlead,
    trim_of_noBlank hpattern, trim_trimStart, trim_append_blanks r htrail, trim, hend]

end SnippetLine

end Intercept
