import Intercept.Proofs.Hostnames
import Intercept.Sgmodule.Document

/-!
# Intercept.Proofs.Sgmodule.LineSets -- which lines there are is all that matters

Rules are collected from many sources, so the same rule may come twice, and the rules may come in
any order. Apart from the rewrites of headers, of which the first one wins, no section of a module
shows either: a section that is sorted is determined by its entries, the order of filter rules
leaves no two rules side by side that could be swapped, and hostnames are merged before they are
sorted.
-/

namespace Intercept

open Intercept.Text

/-- Two texts have the same lines, in whatever order and as often as they may come. -/
def SameLines (text text' : List Char) : Prop :=
  ∀ line, line ∈ lines text ↔ line ∈ lines text'

namespace Section

/-! ## Sections that are sorted -/

theorem mem_activeLines {line text : List Char} :
    line ∈ activeLines text ↔ line ∈ lines text ∧ (line.head? != some '#') = true :=
  List.mem_filter

/-- What is read line by line is read from the lines of a text that has the same ones. -/
theorem mem_filterMap_activeLines {α : Type} {text text' : List Char} (h : SameLines text text')
    (read : List Char → Option α) (a : α) :
    a ∈ (activeLines text).filterMap read ↔ a ∈ (activeLines text').filterMap read := by
  simp only [List.mem_filterMap, mem_activeLines, h _]

theorem urlEntries_congr {text text' : List Char} (h : SameLines text text') :
    urlEntries text = urlEntries text' := by
  refine sortedUnique_congr fun entry => ?_
  rw [List.mem_append, List.mem_append, mem_filterMap_activeLines h, mem_filterMap_activeLines h]

theorem bodyEntries_congr {text text' : List Char} (h : SameLines text text') :
    bodyEntries text = bodyEntries text' := by
  refine sortedUnique_congr fun entry => ?_
  rw [List.mem_append, List.mem_append, mem_filterMap_activeLines h, mem_filterMap_activeLines h]

theorem localEntries_congr {text text' : List Char} (h : SameLines text text') :
    localEntries text = localEntries text' :=
  sortedUnique_congr (mem_filterMap_activeLines h localEntry?)

theorem scriptEntries_congr {text text' : List Char} (h : SameLines text text') :
    scriptEntries text = scriptEntries text' :=
  sortedUnique_congr (mem_filterMap_activeLines h scriptEntry?)

/-! ## Filter rules -/

/-- The order of filter rules, as a comparison of lines. -/
def compareFilters : List Char → List Char → Ordering :=
  compareLex (compareOn fun line => (FilterKey.of line).notDirect)
    (compareLex (compareOn fun line => (FilterKey.of line).type)
      (compareLex (compareOn fun line => (FilterKey.of line).family)
        (compareLex (compareOn fun line => (FilterKey.of line).address)
          (compareLex (compareOn fun line => (FilterKey.of line).upper)
            (compareOn fun line => (FilterKey.of line).line)))))

theorem le_eq_compareFilters (a b : List Char) :
    (FilterKey.of a).le (FilterKey.of b) = (compareFilters a b).isLE := rfl

instance : Std.TransCmp compareFilters := by
  unfold compareFilters
  infer_instance

/-- The line itself is compared last, so that only equal lines compare as equal. -/
instance : Std.LawfulEqCmp compareFilters where
  eq_of_compare := by
    intro a b h
    simp only [compareFilters, compareLex_eq_eq] at h
    have hline : compare a b = .eq := h.2.2.2.2.2
    exact Std.LawfulEqCmp.eq_of_compare hline

theorem mem_filterEntries {line text : List Char} :
    line ∈ filterEntries text ↔ line ∈ filterLines text := by
  rw [filterEntries, List.mem_mergeSort, List.mem_eraseDups]

theorem nodup_filterEntries (text : List Char) : (filterEntries text).Nodup :=
  (List.mergeSort_perm _ _).nodup_iff.mpr (nodup_eraseDups _)

theorem pairwise_filterEntries (text : List Char) :
    (filterEntries text).Pairwise fun a b => (compareFilters a b).isLE := by
  simp only [filterEntries, le_eq_compareFilters]
  exact pairwise_mergeSort_isLE compareFilters _

theorem filterEntries_congr {text text' : List Char} (h : SameLines text text') :
    filterEntries text = filterEntries text' := by
  -- Two lists in order, none with a repetition, are the same once they have the same lines.
  refine eq_of_ascending (eq_of_isLE_of_isLE compareFilters)
    (pairwise_filterEntries text) (pairwise_filterEntries text')
    (nodup_filterEntries text) (nodup_filterEntries text') fun line => ?_
  simp only [mem_filterEntries, filterLines, List.mem_filter, List.mem_map, h _]

/-! ## Hostnames -/

/-- The hostnames that some values name together, added to those of a list. -/
def mergeValues (h : Hostnames) (values : List (List Char)) : Hostnames :=
  values.foldl (fun h value => h.merge (.parse (String.ofList value))) h

theorem mem_included_mergeValues {x : String} {h : Hostnames} {values : List (List Char)} :
    x ∈ (mergeValues h values).included ↔ x ∈ h.included
      ∨ ∃ value ∈ values, x ∈ (Hostnames.parse (String.ofList value)).included := by
  induction values generalizing h with
  | nil => simp [mergeValues]
  | cons value values ih =>
    show x ∈ (mergeValues (h.merge _) values).included ↔ _
    rw [ih, Hostnames.mem_included_merge, or_assoc]
    simp

theorem mem_excluded_mergeValues {x : String} {h : Hostnames} {values : List (List Char)} :
    x ∈ (mergeValues h values).excluded ↔ x ∈ h.excluded
      ∨ ∃ value ∈ values, x ∈ (Hostnames.parse (String.ofList value)).excluded := by
  induction values generalizing h with
  | nil => simp [mergeValues]
  | cons value values ih =>
    show x ∈ (mergeValues (h.merge _) values).excluded ↔ _
    rw [ih, Hostnames.mem_excluded_merge, or_assoc]
    simp

theorem distinct_mergeValues {h : Hostnames} (hd : h.Distinct) (values : List (List Char)) :
    (mergeValues h values).Distinct := by
  induction values generalizing h with
  | nil => exact hd
  | cons value values ih => exact ih (hd.merge _)

theorem hostnamesOf_eq (text : List Char) :
    hostnamesOf text = mergeValues {} ((lines text).filterMap hostnameLine?) := rfl

theorem sameEntries_hostnamesOf {text text' : List Char} (h : SameLines text text') :
    Hostnames.SameEntries (hostnamesOf text) (hostnamesOf text') := by
  constructor
  · intro x
    simp only [hostnamesOf_eq, mem_included_mergeValues, List.mem_filterMap, h _]
  · intro x
    simp only [hostnamesOf_eq, mem_excluded_mergeValues, List.mem_filterMap, h _]

theorem interceptionEntries_congr {text text' : List Char} (h : SameLines text text') :
    interceptionEntries text = interceptionEntries text' := by
  have hentries : (hostnamesOf text).entries = (hostnamesOf text').entries :=
    Hostnames.entries_congr (distinct_mergeValues Hostnames.distinct_empty _)
      (distinct_mergeValues Hostnames.distinct_empty _) (sameEntries_hostnamesOf h)
  rw [interceptionEntries, interceptionEntries, hentries]

end Section

namespace Sgmodule

/-! ## Modules -/

/-- The section for rewrites of headers, the only one in which the first of several rules wins. -/
def headerSection (text : List Char) : Section :=
  { title := "Header Rewrite".toList, entries := Section.headerEntries text }

/-- The other sections of a module, in order. -/
def orderlessSections (text : List Char) : List Section :=
  (sections text).filter fun s => s.title != "Header Rewrite".toList

theorem orderlessSections_eq (text : List Char) : orderlessSections text = [
    { title := "Rule".toList, entries := Section.filterEntries text },
    { title := "URL Rewrite".toList, entries := Section.urlEntries text },
    { title := "Body Rewrite".toList, entries := Section.bodyEntries text },
    { title := "Map Local".toList, entries := Section.localEntries text },
    { title := "Script".toList, entries := Section.scriptEntries text },
    { title := "MITM".toList, entries := Section.interceptionEntries text } ] := by
  simp [orderlessSections, sections]

theorem sections_eq (text : List Char) : sections text
    = (orderlessSections text).take 2 ++ headerSection text :: (orderlessSections text).drop 2 := by
  rw [orderlessSections_eq]
  rfl

/-- Rules that are put in another order, repeated, or no longer repeated give the same sections apart
from the rewrites of headers: the module that is made from them has those very sections around its
own directives and its own rewrites of headers. -/
theorem orderlessSections_of_sameLines {text text' : List Char} (h : SameLines text text') :
    orderlessSections text = orderlessSections text'
      ∧ ∀ name made, buildChars name made text' = writeLines (directives name made text'
        ++ ((orderlessSections text).take 2
          ++ headerSection text' :: (orderlessSections text).drop 2).flatMap Section.lines) := by
  have hsections : orderlessSections text = orderlessSections text' := by
    rw [orderlessSections_eq, orderlessSections_eq, Section.filterEntries_congr h,
      Section.urlEntries_congr h, Section.bodyEntries_congr h, Section.localEntries_congr h,
      Section.scriptEntries_congr h, Section.interceptionEntries_congr h]
  refine ⟨hsections, fun name made => ?_⟩
  rw [hsections, ← sections_eq]
  rfl

/-- A rule of each of two kinds, one of them twice, against the same rules once and the other way
round. -/
theorem orderlessSections_of_sameLines_repeated :
    let text := "^a url reject\nDOMAIN,a.com,REJECT\n^a url reject\n".toList
    let text' := "DOMAIN,a.com,REJECT\r\n^a url reject".toList
    SameLines text text' ∧ orderlessSections text = orderlessSections text' := by
  intro text text'
  have hlines : lines text = ["^a url reject".toList, "DOMAIN,a.com,REJECT".toList,
      "^a url reject".toList] := by decide
  have hlines' : lines text' = ["DOMAIN,a.com,REJECT".toList, "^a url reject".toList] := by decide
  have hsame : SameLines text text' := by
    intro line
    rw [hlines, hlines']
    simp only [List.mem_cons, List.not_mem_nil, or_false]
    constructor
    · rintro (h | h | h)
      · exact Or.inr h
      · exact Or.inl h
      · exact Or.inr h
    · rintro (h | h)
      · exact Or.inr (Or.inl h)
      · exact Or.inl h
  exact ⟨hsame, (orderlessSections_of_sameLines hsame).1⟩

end Sgmodule

end Intercept
