import Intercept.Sgmodule.Document

/-!
# Intercept.Proofs.Sgmodule.Document -- where entries stand in a module

An entry of a section stands behind the title of the section, with nothing but other entries of it
in between: an empty line ends a section, so no empty line is between the two.
-/

namespace Intercept.Sgmodule

/-! ## Written lines -/

theorem writeLines_cons (line : List Char) (ls : List (List Char)) :
    writeLines (line :: ls) = line ++ '\n' :: writeLines ls := by
  simp [writeLines]

theorem writeLines_append (as bs : List (List Char)) :
    writeLines (as ++ bs) = writeLines as ++ writeLines bs :=
  List.flatMap_append

theorem writeLines_eq_nil {ls : List (List Char)} : writeLines ls = [] ↔ ls = [] := by
  cases ls <;> simp [writeLines]

/-! ## Entries in their section -/

/-- A line stands in the section of a title in the module that is made from rules: behind the title
and before the next empty line. -/
def Listed (name : List Char) (made : Stamp) (text : List Char) (title : String)
    (entry : List Char) : Prop :=
  ∃ before between after, documentLines name made text
      = before ++ ('[' :: (title.toList ++ [']'])) :: (between ++ entry :: after)
    ∧ [] ∉ between

/-- What a section is made of is listed in it, unless one of its entries is an empty line. -/
theorem listed_of_mem {s : Section} {text : List Char} (hs : s ∈ sections text)
    (hlines : [] ∉ s.entries) {title : String} (htitle : s.title = title.toList)
    {entry : List Char} (hentry : entry ∈ s.entries) (name : List Char) (made : Stamp) :
    Listed name made text title entry := by
  obtain ⟨earlier, later, hsections⟩ := List.append_of_mem hs
  obtain ⟨between, rest, hentries⟩ := List.append_of_mem hentry
  have hsection : s.lines
      = [] :: ('[' :: (title.toList ++ [']'])) :: (between ++ entry :: rest) := by
    simp [Section.lines, Section.titleLine, htitle, hentries]
  refine ⟨directives name made text ++ (earlier.flatMap Section.lines ++ [[]]), between,
    rest ++ later.flatMap Section.lines, ?_, ?_⟩
  · rw [documentLines, hsections, List.flatMap_append, List.flatMap_cons, hsection]
    simp
  · intro h
    exact hlines (hentries ▸ List.mem_append_left _ h)

end Intercept.Sgmodule
