import Intercept.Proofs.Hostnames.Entries
import Intercept.Proofs.Text.Parts
import Intercept.Proofs.Text.Words

/-!
# Intercept.Proofs.Hostnames.Line -- a list in one line

The value of a hostname line is cut at commas, at blanks and at a number sign, so none of these is
left in an entry, and entries that are written with commas between them are cut into the very same
entries again. The marker that stands in front of them is no entry.
-/

namespace Intercept.Hostnames

open Intercept.Text
open Intercept.Unicode (isBlank)

/-! ## Entries without separators -/

/-- A text in which a hostname line is not cut. -/
structure Whole (cs : List Char) : Prop where
  noBlank : NoBlank cs
  comma : ',' ∉ cs
  sharp : '#' ∉ cs

theorem Whole.of_subset {a b : List Char} (h : a ⊆ b) (hb : Whole b) : Whole a where
  noBlank c hc := hb.noBlank c (h hc)
  comma hc := hb.comma (h hc)
  sharp hc := hb.sharp (h hc)

theorem Whole.oneLine {cs : List Char} (h : Whole cs) : '\n' ∉ cs := by
  intro hmem
  exact absurd (h.noBlank '\n' hmem) (by decide)

theorem Whole.dashed {cs : List Char} (h : Whole cs) : Whole ('-' :: cs) where
  noBlank := noBlank_cons.mpr ⟨by decide, h.noBlank⟩
  comma := List.not_mem_cons_of_ne_of_not_mem (by decide) h.comma
  sharp := List.not_mem_cons_of_ne_of_not_mem (by decide) h.sharp

/-- Making letters small makes no comma and no number sign, as it only makes letters. -/
theorem Whole.asciiLower {cs : List Char} (h : Whole cs) : Whole (asciiLower cs) where
  noBlank d hd := by
    obtain ⟨c, hc, rfl⟩ := List.mem_map.mp hd
    rw [isBlank_toLower]
    exact h.noBlank c hc
  comma hd := h.comma (mem_of_mem_asciiLower (by decide) hd)
  sharp hd := h.sharp (mem_of_mem_asciiLower (by decide) hd)

/-- No entry of a list would be cut in a line. -/
structure AllWhole (h : Hostnames) : Prop where
  included : ∀ host ∈ h.included, Whole host.toList
  excluded : ∀ host ∈ h.excluded, Whole host.toList

theorem allWhole_empty : AllWhole {} where
  included := by simp
  excluded := by simp

theorem whole_addNew {value : List Char} {list : List String} (hvalue : Whole value)
    (h : ∀ host ∈ list, Whole host.toList) :
    ∀ host ∈ addNew (String.ofList value) list, Whole host.toList := by
  intro host hhost
  rcases mem_addNew.mp hhost with rfl | hhost
  · rwa [String.toList_ofList]
  · exact h host hhost

theorem AllWhole.addNormal {h : Hostnames} (hh : h.AllWhole) {cs : List Char} (hcs : Whole cs) :
    (h.addNormal cs).AllWhole := by
  unfold Hostnames.addNormal
  split
  · exact hh
  · next host _ =>
    have hhost : Whole host := .of_subset (List.subset_cons_self '-' host) hcs
    exact ⟨hh.included, whole_addNew hhost hh.excluded⟩
  · exact ⟨whole_addNew hcs hh.included, hh.excluded⟩

theorem AllWhole.add {h : Hostnames} (hh : h.AllWhole) {entry : String}
    (hentry : Whole entry.toList) : (h.add entry).AllWhole := by
  rw [add_eq]
  split
  · exact hh
  · exact hh.addNormal (Whole.of_subset (trim_subset entry.toList) hentry).asciiLower

theorem AllWhole.foldl_add {entries : List String} (hentries : ∀ e ∈ entries, Whole e.toList)
    {h : Hostnames} (hh : h.AllWhole) : (entries.foldl Hostnames.add h).AllWhole := by
  induction entries generalizing h with
  | nil => exact hh
  | cons entry entries ih =>
    exact ih (fun e he => hentries e (List.mem_cons_of_mem entry he))
      (hh.add (hentries entry List.mem_cons_self))

theorem AllWhole.merge {h other : Hostnames} (hh : h.AllWhole) (ho : other.AllWhole) :
    (h.merge other).AllWhole where
  included host hhost := (mem_included_merge.mp hhost).elim (hh.included host) (ho.included host)
  excluded host hhost := (mem_excluded_merge.mp hhost).elim (hh.excluded host) (ho.excluded host)

theorem whole_of_mem_entriesOfLine {value : List Char} (hsharp : '#' ∉ value) {e : String}
    (he : e ∈ entriesOfLine value) : Whole e.toList := by
  obtain ⟨w, hw, rfl⟩ := List.mem_map.mp he
  obtain ⟨piece, hpiece, hword⟩ := List.mem_flatMap.mp hw
  have hsub := subset_of_mem_words hword
  rw [String.toList_ofList]
  exact ⟨noBlank_of_mem_words hword, fun hc => not_mem_of_mem_splitOn hpiece (hsub hc),
    fun hc => hsharp (subset_of_mem_splitOn hpiece (hsub hc))⟩

theorem allWhole_parse {value : List Char} (hsharp : '#' ∉ value) :
    (parse (String.ofList value)).AllWhole := by
  rw [parse, String.toList_ofList, ofEntries]
  exact AllWhole.foldl_add (fun e he => whole_of_mem_entriesOfLine hsharp he) allWhole_empty

theorem AllWhole.of_mem_entries {h : Hostnames} (hh : h.AllWhole) {e : String}
    (he : e ∈ h.entries) : Whole e.toList := by
  rcases List.mem_append.mp he with he | he
  · obtain ⟨host, hhost, rfl⟩ := List.mem_map.mp (mem_sorted.mp he)
    rw [String.toList_append]
    exact (hh.excluded host hhost).dashed
  · exact hh.included e (mem_sorted.mp he)

/-- The empty text is no entry: adding it adds nothing. -/
theorem Settled.ne_empty {h : Hostnames} (hs : h.Settled) {e : String} (he : e ∈ h.entries) :
    e.toList ≠ [] := by
  rcases List.mem_append.mp he with he | he
  · obtain ⟨host, -, rfl⟩ := List.mem_map.mp (mem_sorted.mp he)
    rw [String.toList_append]
    exact List.cons_ne_nil '-' host.toList
  · intro hnil
    have hempty : e = "" := String.toList_injective hnil
    have hadd := hs.included e (mem_sorted.mp he) {}
    rw [hempty] at hadd
    exact absurd (congrArg Hostnames.included hadd) (by decide)

/-! ## Entries of a line -/

/-- Blanks behind a value add no entry. -/
theorem entriesOfLine_append_blanks (value : List Char) {b : List Char} (hb : AllBlank b) :
    entriesOfLine (value ++ b) = entriesOfLine value := by
  have hcomma : ',' ∉ b := fun hc => absurd (hb ',' hc) (by decide)
  obtain ⟨pieces, last, hvalue, hmore⟩ := exists_splitOn_append hcomma value
  rw [entriesOfLine, entriesOfLine, hvalue, hmore]
  simp only [List.flatMap_append, List.flatMap_cons, List.flatMap_nil, List.append_nil,
    words_append_blanks last hb]

/-- The marker that asks for the entries of a line to be added to those that are there. -/
def appendMark : List Char := "%APPEND%".toList

theorem flatMap_words {parts : List (List Char)} (h : ∀ part ∈ parts, NoBlank part ∧ part ≠ []) :
    parts.flatMap words = parts := by
  induction parts with
  | nil => rfl
  | cons part parts ih =>
    obtain ⟨hblank, hne⟩ := h part List.mem_cons_self
    rw [List.flatMap_cons, words_of_noBlank hblank hne,
      ih fun p hp => h p (List.mem_cons_of_mem part hp)]
    rfl

/-- Entries that are written behind the marker, with commas between them, are read as the marker and
these entries. -/
theorem entriesOfLine_join {entries : List String} (hne : entries ≠ [])
    (h : ∀ e ∈ entries, Whole e.toList ∧ e.toList ≠ []) :
    entriesOfLine (appendMark ++ ' ' :: join [','] (entries.map String.toList))
      = "%APPEND%" :: entries := by
  have hpart : ∀ part ∈ entries.map String.toList, Whole part ∧ part ≠ [] := by
    intro part hmem
    obtain ⟨e, he, rfl⟩ := List.mem_map.mp hmem
    exact h e he
  have hsplit : splitOn ',' (join [','] (entries.map String.toList))
      = entries.map String.toList :=
    splitOn_join (by simpa using hne) fun part hmem => (hpart part hmem).1.comma
  have hwords : (entries.map String.toList).flatMap words = entries.map String.toList :=
    flatMap_words fun part hmem => ⟨(hpart part hmem).1.noBlank, (hpart part hmem).2⟩
  have hback : (entries.map String.toList).map String.ofList = entries := by simp
  -- The marker and the first entry stand in one piece, with the blank between them.
  have hmark : ',' ∉ appendMark ++ [' '] := by decide
  obtain ⟨first, later, hentries⟩ : ∃ first later, entries.map String.toList = first :: later :=
    List.exists_cons_of_ne_nil (by simpa using hne)
  rw [hentries] at hsplit hwords hback ⊢
  have hpieces := splitOn_append_of_not_mem hmark hsplit
  rw [List.append_assoc, List.singleton_append] at hpieces
  have hmarkWord : words appendMark = [appendMark] := words_of_noBlank (by decide) (by decide)
  rw [entriesOfLine, hpieces, List.flatMap_cons, List.append_assoc, List.singleton_append,
    words_append_blank (by decide), hmarkWord, List.append_assoc, ← List.flatMap_cons, hwords,
    List.map_append, hback]
  rfl

/-- The marker adds nothing to a list. -/
theorem ofEntries_append (entries : List String) :
    ofEntries ("%APPEND%" :: entries) = ofEntries entries := by
  have hmark : add {} "%APPEND%" = {} := by decide
  rw [ofEntries, List.foldl_cons, hmark, ofEntries]

end Intercept.Hostnames
