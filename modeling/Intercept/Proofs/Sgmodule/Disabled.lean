import Intercept.Proofs.Sgmodule.Document
import Intercept.Proofs.Text.Pieces
import Intercept.Proofs.Text.Sorted
import Mathlib.Data.List.Basic

/-!
# Intercept.Proofs.Sgmodule.Disabled -- what lines that are switched off still do

A rule is switched off by a number sign in front of it. The directives for arguments begin with one
too, and of the rest, filter rules and hostnames are read from lines without the blanks at their
front, so that such a line says nothing there wherever its number sign stands. The other sections
look at the first column only: a number sign behind blanks is the first character of a pattern to
them.
-/

namespace Intercept.Sgmodule

open Intercept.Text Intercept.Section

/-! ## Disabled lines -/

/-- Whether the first character of a line that is not blank is a number sign. -/
def isComment (line : List Char) : Bool :=
  (trimStart line).head? == some '#'

/-- Whether a line is a directive for arguments. -/
def isDirective (line : List Char) : Bool :=
  (directiveValue? "arguments" line).isSome || (directiveValue? "arguments-desc" line).isSome

/-- Whether a line is switched off: it is a comment and no directive. -/
def isDisabled (line : List Char) : Bool :=
  isComment line && !isDirective line

/-- A text without the lines that are switched off. -/
def withoutDisabled (text : List Char) : List Char :=
  deleteLines isDisabled text

/-- Deleting the lines that are switched off changes no module that is made from a text. -/
def Inert (text : List Char) : Prop :=
  ∀ name made, buildChars name made (withoutDisabled text) = buildChars name made text

theorem isDisabled_eq_true {line : List Char} : isDisabled line = true ↔
    (∃ rest, trimStart line = '#' :: rest) ∧ directiveValue? "arguments" line = none
      ∧ directiveValue? "arguments-desc" line = none := by
  simp [isDisabled, isComment, isDirective, List.head?_eq_some_iff]

/-! ## What is read line by line -/

/-- A reader that reads no line that is switched off reads the same without those lines. -/
theorem filterMap_withoutDisabled {α : Type} {read : List Char → Option α} {text : List Char}
    (h : ∀ line ∈ lines text, isDisabled line = true → read line = none) :
    (lines (withoutDisabled text)).filterMap read = (lines text).filterMap read := by
  rw [withoutDisabled, lines_deleteLines, List.filterMap_filter]
  refine List.filterMap_congr fun line hline => ?_
  cases hd : isDisabled line with
  | true => exact (h line hline hd).symm
  | false => rfl

theorem directiveValues_withoutDisabled {name : String}
    (hname : name = "arguments" ∨ name = "arguments-desc") (text : List Char) :
    directiveValues name (withoutDisabled text) = directiveValues name text := by
  refine filterMap_withoutDisabled fun line _ hd => ?_
  obtain ⟨-, harguments, hdesc⟩ := isDisabled_eq_true.mp hd
  rcases hname with rfl | rfl
  · exact harguments
  · exact hdesc

theorem directives_withoutDisabled (name : List Char) (made : Stamp) (text : List Char) :
    directives name made (withoutDisabled text) = directives name made text := by
  rw [directives, directives, argumentsLine, argumentsLine, argumentsDescLine, argumentsDescLine,
    directiveValues_withoutDisabled (Or.inl rfl), directiveValues_withoutDisabled (Or.inr rfl)]

/-- Filter rules are read from trimmed lines, at whose front the number sign stands. -/
theorem filterLines_withoutDisabled (text : List Char) :
    filterLines (withoutDisabled text) = filterLines text := by
  have hread : ∀ text, filterLines text = (lines text).filterMap fun line =>
      Option.guard (fun line => !line.isEmpty && line.head? != some '#' && namesFilter line)
        (trim line) := by
    intro text
    rw [filterLines, ← List.filterMap_eq_filter, List.filterMap_map]
    rfl
  rw [hread, hread]
  refine filterMap_withoutDisabled fun line _ hd => ?_
  obtain ⟨⟨rest, hrest⟩, -⟩ := isDisabled_eq_true.mp hd
  rw [trim, hrest, trimEnd_cons_of_not_blank (by decide)]
  simp [Option.guard]

theorem hostnamesOf_withoutDisabled (text : List Char) :
    hostnamesOf (withoutDisabled text) = hostnamesOf text := by
  have hnone : ∀ line, isDisabled line = true → hostnameLine? line = none := by
    intro line hd
    obtain ⟨⟨rest, hrest⟩, -⟩ := isDisabled_eq_true.mp hd
    rw [hostnameLine?, hrest]
    rfl
  rw [hostnamesOf, filterMap_withoutDisabled fun line _ => hnone line, hostnamesOf]

/-! ## Sections that look at the first column -/

/-- No reader of a section that looks at the first column reads a line. -/
structure Unread (line : List Char) : Prop where
  reject : rejectEntry? line = none
  redirect : redirectEntry? line = none
  header : headerRule? line = none
  expression : expressionEntry? line = none
  replacement : replacementEntry? line = none
  mock : localEntry? line = none
  script : scriptEntry? line = none

/-- A line has a number sign in the first column, or nothing would be read from it anyway. -/
def Harmless (line : List Char) : Prop :=
  line.head? = some '#' ∨ Unread line

theorem filterMap_activeLines_withoutDisabled {α : Type} {read : List Char → Option α}
    {text : List Char}
    (h : ∀ line ∈ lines text, isDisabled line = true → line.head? = some '#' ∨ read line = none) :
    (activeLines (withoutDisabled text)).filterMap read = (activeLines text).filterMap read := by
  rw [activeLines, activeLines, List.filterMap_filter, List.filterMap_filter]
  refine filterMap_withoutDisabled fun line hline hd => ?_
  rcases h line hline hd with hfirst | hnone
  · simp [hfirst]
  · simp [hnone]

theorem sections_withoutDisabled {text : List Char}
    (h : ∀ line ∈ lines text, isDisabled line = true → Harmless line) :
    sections (withoutDisabled text) = sections text := by
  have hread {α : Type} {read : List Char → Option α}
      (hnone : ∀ line, Unread line → read line = none) :
      (activeLines (withoutDisabled text)).filterMap read = (activeLines text).filterMap read := by
    refine filterMap_activeLines_withoutDisabled fun line hline hd => ?_
    exact (h line hline hd).imp_right (hnone line)
  simp only [sections, filterEntries, filterLines_withoutDisabled, urlEntries, headerEntries,
    bodyEntries, localEntries, scriptEntries, interceptionEntries, hostnamesOf_withoutDisabled,
    hread fun _ => Unread.reject, hread fun _ => Unread.redirect, hread fun _ => Unread.header,
    hread fun _ => Unread.expression, hread fun _ => Unread.replacement, hread fun _ => Unread.mock,
    hread fun _ => Unread.script]

theorem inert_of_harmless {text : List Char}
    (h : ∀ line ∈ lines text, isDisabled line = true → Harmless line) : Inert text := by
  intro name made
  rw [buildChars, buildChars, documentLines, documentLines, sections_withoutDisabled h,
    directives_withoutDisabled]

/-- Lines with a number sign in the first column can be deleted, whatever stands behind it. -/
theorem inert_of_first_column {text : List Char}
    (h : ∀ line ∈ lines text, isDisabled line = true → line.head? = some '#') : Inert text :=
  inert_of_harmless fun line hline hd => Or.inl (h line hline hd)

/-! ## Lines that are still read -/

theorem firstPerKey_nil_eq_nil {entries : List (List Char)} (h : firstPerKey [] entries = []) :
    entries = [] := by
  cases entries with
  | nil => rfl
  | cons entry rest => simp [firstPerKey] at h

theorem headerEntries_eq_nil {text : List Char} (h : headerEntries text = []) :
    (activeLines text).filterMap headerRule? = [] := by
  have hranked := List.map_eq_nil_iff.mp (firstPerKey_nil_eq_nil h)
  rw [List.eq_nil_iff_forall_not_mem] at hranked ⊢
  intro rule hrule
  -- Every change has one of the three ranks, so no rule is lost by going through the ranks.
  refine hranked rule (List.mem_flatMap.mpr ⟨rule.change.rank, ?_, ?_⟩)
  · cases rule.change <;> simp [HeaderChange.rank]
  · exact List.mem_filter.mpr ⟨hrule, by simp⟩

/-- A line that makes no section has nothing for any of them. -/
theorem unread_of_sections {line : List Char} (hactive : activeLines line = [line])
    (h : (sections line).flatMap Section.lines = []) : Unread line := by
  have hentries : ∀ s ∈ sections line, s.entries = [] := by
    intro s hs
    have hlines := List.flatMap_eq_nil_iff.mp h s hs
    rw [Section.lines] at hlines
    split at hlines
    · next hempty => exact List.isEmpty_iff.mp hempty
    · cases hlines
  have hnone {α : Type} {read : List Char → Option α}
      (hread : (activeLines line).filterMap read = []) : read line = none := by
    rw [hactive] at hread
    simpa using hread
  simp only [sections, List.forall_mem_cons] at hentries
  obtain ⟨-, hurl, hheader, hbody, hlocal, hscript, -⟩ := hentries
  obtain ⟨hreject, hredirect⟩ := List.append_eq_nil_iff.mp (sortedUnique_eq_nil.mp hurl)
  obtain ⟨hexpression, hreplacement⟩ := List.append_eq_nil_iff.mp (sortedUnique_eq_nil.mp hbody)
  exact {
    reject := hnone hreject
    redirect := hnone hredirect
    header := hnone (headerEntries_eq_nil hheader)
    expression := hnone hexpression
    replacement := hnone hreplacement
    mock := hnone (sortedUnique_eq_nil.mp hlocal)
    script := hnone (sortedUnique_eq_nil.mp hscript) }

theorem sections_nil : (sections []).flatMap Section.lines = [] := by
  have hlines : lines [] = [] := rfl
  simp [sections, Section.lines, filterEntries, filterLines, urlEntries, headerEntries, bodyEntries,
    localEntries, scriptEntries, interceptionEntries, hostnamesOf, activeLines, hlines,
    sortedUnique_eq_nil, firstPerKey, Hostnames.entries, Hostnames.sorted]

/-- Without its only line a text makes no section. -/
theorem harmless_of_inert {line : List Char} (hline : '\n' ∉ line) (hd : isDisabled line = true)
    (h : Inert line) : Harmless line := by
  obtain ⟨⟨rest, hrest⟩, -⟩ := isDisabled_eq_true.mp hd
  have hne : line ≠ [] := by
    rintro rfl
    cases hrest
  have hempty : withoutDisabled line = [] := by
    simp [withoutDisabled, deleteLines, splitOn_of_not_mem hline, deletePieces, hd]
  by_cases hfirst : line.head? = some '#'
  · exact Or.inl hfirst
  · refine Or.inr (unread_of_sections ?_ ?_)
    · simp [activeLines, lines_of_not_mem hline hne, hfirst]
    -- The directives are the same with and without the line, so any difference is in the sections.
    · have hbuild := h [] ⟨0, 0, 0, 0, 0, 0⟩
      rw [buildChars, buildChars, documentLines, documentLines, directives_withoutDisabled,
        writeLines_append, writeLines_append] at hbuild
      rw [hempty, sections_nil] at hbuild
      exact writeLines_eq_nil.mp (List.append_cancel_left hbuild).symm

/-! ## The two together -/

/-- Whatever lines are allowed to be switched off, all texts in which no other lines are switched off
can do without them exactly if each of those lines has its number sign in the first column or says
nothing to the sections that look there. -/
theorem inert_iff (allowed : List Char → Prop) :
    (∀ text, (∀ line ∈ lines text, isDisabled line = true → allowed line) → Inert text)
      ↔ ∀ line, '\n' ∉ line → isDisabled line = true → allowed line → Harmless line := by
  constructor
  -- A line is a text of which it is the only line.
  · intro h line hline hd ha
    refine harmless_of_inert hline hd (h line fun l hl _ => ?_)
    have hne : line ≠ [] := by
      rintro rfl
      cases hl
    rw [lines_of_not_mem hline hne, List.mem_singleton] at hl
    exact hl ▸ ha
  · intro h text htext
    exact inert_of_harmless fun line hline hd =>
      h line (not_mem_of_mem_lines hline) hd (htext line hline hd)

/-- A remark in the first column and an indented one may be deleted from a text that has an indented
directive besides. -/
theorem inert_iff_remarks :
    Inert "# rules\n  #!arguments = a:1\n  # indented\n^https://a.com url reject".toList := by
  have hlines : lines "# rules\n  #!arguments = a:1\n  # indented\n^https://a.com url reject".toList
      = ["# rules".toList, "  #!arguments = a:1".toList, "  # indented".toList,
        "^https://a.com url reject".toList] := by decide
  have hindented : Unread "  # indented".toList := by constructor <;> decide
  refine (inert_iff fun line => line = "# rules".toList ∨ line = "  # indented".toList).mpr ?_ _ ?_
  · rintro line - - (rfl | rfl)
    · exact Or.inl (by decide)
    · exact Or.inr hindented
  · rw [hlines]
    decide

/-- A rule that is indented and switched off is still in the module, under a pattern that begins with
the number sign. -/
theorem not_inert_indented :
    ¬ Inert "  #^https://a.com url script-response-body https://x.com/s.js".toList := by
  intro h
  rcases harmless_of_inert (by decide) (by decide) h with hfirst | hunread
  · exact absurd hfirst (by decide)
  · exact absurd hunread.script (by decide)

end Intercept.Sgmodule
