import Intercept.Proofs.Section.Entries
import Intercept.Proofs.Sgmodule.Document
import Mathlib.Data.List.Nodup

/-!
# Intercept.Proofs.Sgmodule.Framing -- a module is read back as what it was made from

A module is text, and most of it comes out of rules that anybody may have written. Still its sections
can be told apart: a reader that knows nothing but the seven titles, and cuts the lines of a module
at them, finds the directives and, under each title, exactly the entries that were collected for it.
The reason is that every directive and every entry is one line with a sign in it, and that no title
holds a sign.
-/

namespace Intercept.Sgmodule

open Intercept.Text
open Intercept.Section (Signed signs)

/-! ## Directives -/

theorem newline_not_mem_decimal (n : Nat) : '\n' ∉ decimal n := by
  intro h
  have hdigit : '\n'.isDigit = true :=
    Nat.isDigit_of_mem_toDigits (Nat.succ_pos 9) (Nat.le_refl 10) h
  exact absurd hdigit (by decide)

theorem newline_not_mem_padded (width n : Nat) : '\n' ∉ Stamp.padded width n := by
  refine List.not_mem_append (fun h => ?_) (newline_not_mem_decimal n)
  exact absurd (List.eq_of_mem_replicate h) (by decide)

theorem newline_not_mem_write (made : Stamp) : '\n' ∉ made.write := by
  have hpart : ∀ {c : Char} {width : Nat} (n : Nat), c ≠ '\n' → '\n' ∉ c :: Stamp.padded width n :=
    fun n hc => List.not_mem_cons_of_ne_of_not_mem (Ne.symm hc) (newline_not_mem_padded _ n)
  have hyear : '\n' ∉ Stamp.writeYear made.year := by
    unfold Stamp.writeYear
    split
    · exact newline_not_mem_padded _ _
    · refine hpart _ ?_
      split <;> decide
  unfold Stamp.write
  -- From the seconds to the month.
  apply List.not_mem_append ?_ (hpart made.second (by decide))
  apply List.not_mem_append ?_ (hpart made.minute (by decide))
  apply List.not_mem_append ?_ (hpart made.hour (by decide))
  apply List.not_mem_append ?_ (hpart made.day (by decide))
  exact List.not_mem_append hyear (hpart made.month (by decide))

theorem directiveValue?_subset {name : String} {line value : List Char}
    (h : directiveValue? name line = some value) : value ⊆ line := by
  simp only [directiveValue?, Option.bind_eq_bind, Option.bind_eq_some_iff] at h
  obtain ⟨r, hr, rest, hrest, hvalue⟩ := h
  have hsign : rest ⊆ trimStart r := by
    rw [after?_eq_some.mp hrest]
    exact List.subset_append_right ['='] rest
  have hsub : rest ⊆ line := calc
    rest ⊆ trimStart r := hsign
    _ ⊆ r := trimStart_subset r
    _ ⊆ trimStart line := afterStr?_subset hr
    _ ⊆ line := trimStart_subset line
  split at hvalue
  · cases hvalue
  · cases hvalue
    exact List.Subset.trans (trimStart_subset rest) hsub

theorem newline_not_mem_directiveValue {name : String} {value text : List Char}
    (h : value ∈ directiveValues name text) : '\n' ∉ value := by
  obtain ⟨line, hline, hvalue⟩ := List.mem_filterMap.mp h
  exact fun hmem => not_mem_of_mem_lines hline (directiveValue?_subset hvalue hmem)

theorem signed_of_mem_argumentsLine {line text : List Char} (h : line ∈ argumentsLine text) :
    Signed line := by
  dsimp only [argumentsLine] at h
  split at h
  · cases h
  · rw [List.mem_singleton] at h
    subst h
    refine ⟨List.not_mem_append (by decide) (Section.not_mem_join (by decide) fun part hpart => ?_),
      '#', List.mem_append_left _ (by decide), by decide⟩
    obtain ⟨value, hvalue, rfl⟩ := List.mem_map.mp hpart
    refine Section.not_mem_join (by decide) fun piece hpiece => ?_
    obtain ⟨cut, hcut, rfl⟩ := List.mem_map.mp hpiece
    exact fun hmem => newline_not_mem_directiveValue hvalue
      (subset_of_mem_splitOn hcut (trim_subset cut hmem))

theorem signed_of_mem_argumentsDescLine {line text : List Char}
    (h : line ∈ argumentsDescLine text) : Signed line := by
  dsimp only [argumentsDescLine] at h
  split at h
  · cases h
  · rw [List.mem_singleton] at h
    subst h
    refine ⟨List.not_mem_append (List.not_mem_append (by decide) ?_) (by decide), '#',
      List.mem_append_left _ (List.mem_append_left _ (by decide)), by decide⟩
    refine Section.not_mem_join (by decide) fun part hpart => ?_
    obtain ⟨value, hvalue, hpieces⟩ := List.mem_flatMap.mp hpart
    obtain ⟨cut, hcut, rfl⟩ := List.mem_map.mp (List.mem_filter.mp hpieces).1
    exact fun hmem => newline_not_mem_directiveValue hvalue
      (subset_of_mem_splitOn hcut (trim_subset cut hmem))

/-- Only the name of a module may break a line. -/
theorem cases_of_mem_directives {name text line : List Char} {made : Stamp}
    (h : line ∈ directives name made text) : line = "#!name=".toList ++ name ∨ Signed line := by
  rcases List.mem_append.mp h with h | h
  · rcases List.mem_append.mp h with h | h
    · simp only [List.mem_cons, List.not_mem_nil, or_false] at h
      rcases h with rfl | rfl
      · exact Or.inl rfl
      · exact Or.inr ⟨List.not_mem_append (by decide) (newline_not_mem_write made), '#',
          List.mem_append_left _ (by decide), by decide⟩
    · exact Or.inr (signed_of_mem_argumentsLine h)
  · exact Or.inr (signed_of_mem_argumentsDescLine h)

theorem signed_of_mem_directives {name text line : List Char} (hname : '\n' ∉ name) {made : Stamp}
    (h : line ∈ directives name made text) : Signed line := by
  rcases cases_of_mem_directives h with rfl | h
  · exact ⟨List.not_mem_append (by decide) hname, '#', List.mem_append_left name (by decide),
      by decide⟩
  · exact h

/-! ## Sections -/

theorem signed_of_mem_sections {text entry : List Char} {s : Section} (hs : s ∈ sections text)
    (h : entry ∈ s.entries) : Signed entry := by
  simp only [sections, List.mem_cons, List.not_mem_nil, or_false] at hs
  rcases hs with rfl | rfl | rfl | rfl | rfl | rfl | rfl
  · exact Section.signed_of_mem_filterEntries h
  · exact Section.signed_of_mem_urlEntries h
  · exact Section.signed_of_mem_headerEntries h
  · exact Section.signed_of_mem_bodyEntries h
  · exact Section.signed_of_mem_localEntries h
  · exact Section.signed_of_mem_scriptEntries h
  · exact Section.signed_of_mem_interceptionEntries h

/-- The titles of sections, in the order in which the sections stand in a module. -/
def titles : List (List Char) :=
  ["Rule", "URL Rewrite", "Header Rewrite", "Body Rewrite", "Map Local", "Script", "MITM"].map
    String.toList

theorem nodup_titles : titles.Nodup := by decide

theorem map_title_sections (text : List Char) : (sections text).map Section.title = titles := rfl

theorem title_mem_titles {text : List Char} {s : Section} (hs : s ∈ sections text) :
    s.title ∈ titles := by
  rw [← map_title_sections text]
  exact List.mem_map_of_mem hs

/-- The title of the section that a line opens, if it opens one. -/
def titleOf? (line : List Char) : Option (List Char) :=
  titles.find? fun title => line == '[' :: (title ++ [']'])

theorem titleOf?_titleLine {s : Section} (h : s.title ∈ titles) :
    titleOf? s.titleLine = some s.title := by
  have hall : ∀ title ∈ titles, titleOf? ('[' :: (title ++ [']'])) = some title := by decide
  exact hall s.title h

theorem titleOf?_nil : titleOf? [] = none := by decide

/-- No title holds a sign, so a line with a sign opens no section. -/
theorem titleOf?_of_sign {line : List Char} (h : ∃ c ∈ line, c ∈ signs) : titleOf? line = none := by
  have hall : ∀ title ∈ titles, signs.all fun c => c ∉ '[' :: (title ++ [']']) := by decide
  obtain ⟨c, hc, hsign⟩ := h
  rw [titleOf?, List.find?_eq_none]
  intro title htitle heq
  rw [beq_iff_eq] at heq
  have hnot := of_decide_eq_true (List.all_eq_true.mp (hall title htitle) c hsign)
  exact hnot (heq ▸ hc)

theorem filterMap_titleOf?_directives (name : List Char) (made : Stamp) (text : List Char) :
    (directives name made text).filterMap titleOf? = [] := by
  refine List.filterMap_eq_nil_iff.mpr fun line hline => titleOf?_of_sign ?_
  rcases cases_of_mem_directives hline with rfl | hsigned
  · exact ⟨'#', List.mem_append_left name (by decide), by decide⟩
  · exact hsigned.sign

theorem not_allBlank_of_signed {line : List Char} (h : Signed line) : ¬ AllBlank line := by
  have hall : signs.all fun c => !Unicode.isBlank c := by decide
  obtain ⟨c, hc, hsign⟩ := h.sign
  intro hblank
  have hnot := List.all_eq_true.mp hall c hsign
  rw [hblank c hc] at hnot
  cases hnot

theorem ne_nil_of_signed {line : List Char} (h : Signed line) : line ≠ [] := by
  rintro rfl
  exact not_allBlank_of_signed h allBlank_nil

/-! ## Reading a module -/

/-- Cuts lines at titles: the lines in front of the first title, and the sections with all lines
behind their titles. -/
def cutAtTitles : List (List Char) → List (List Char) × List Section
  | [] => ([], [])
  | line :: rest =>
    match titleOf? line with
    | some title => ([], { title, entries := (cutAtTitles rest).1 } :: (cutAtTitles rest).2)
    | none => (line :: (cutAtTitles rest).1, (cutAtTitles rest).2)

/-- Lines without the empty ones. -/
def dropEmpty (lines : List (List Char)) : List (List Char) :=
  lines.filter fun line => !line.isEmpty

/-- The directives and the sections that are found in the lines of a module. -/
def readModule (lines : List (List Char)) : List (List Char) × List Section :=
  (dropEmpty (cutAtTitles lines).1,
    (cutAtTitles lines).2.map fun s => { s with entries := dropEmpty s.entries })

theorem cutAtTitles_append {front : List (List Char)} (h : ∀ line ∈ front, titleOf? line = none)
    (rest : List (List Char)) :
    cutAtTitles (front ++ rest) = (front ++ (cutAtTitles rest).1, (cutAtTitles rest).2) := by
  induction front with
  | nil => rfl
  | cons line front ih =>
    rw [List.cons_append, cutAtTitles, h line List.mem_cons_self,
      ih fun l hl => h l (List.mem_cons_of_mem line hl)]
    rfl

theorem dropEmpty_of_signed {lines : List (List Char)} (h : ∀ line ∈ lines, Signed line) :
    dropEmpty lines = lines := by
  refine List.filter_eq_self.mpr fun line hline => ?_
  simpa using ne_nil_of_signed (h line hline)

/-- Lines that are signed belong to the part of a module in which they stand. -/
theorem readModule_append {front : List (List Char)} (h : ∀ line ∈ front, Signed line)
    (rest : List (List Char)) :
    readModule (front ++ rest) = (front ++ (readModule rest).1, (readModule rest).2) := by
  rw [readModule, cutAtTitles_append fun line hline => titleOf?_of_sign (h line hline).sign]
  simp only [readModule, dropEmpty, List.filter_append]
  rw [show front.filter (fun line => !line.isEmpty) = front from dropEmpty_of_signed h]

theorem readModule_titleLine {s : Section} (htitle : s.title ∈ titles)
    (rest : List (List Char)) : readModule (s.titleLine :: rest)
      = ([], { title := s.title, entries := (readModule rest).1 } :: (readModule rest).2) := by
  rw [readModule, cutAtTitles, titleOf?_titleLine htitle]
  rfl

theorem readModule_empty_cons (rest : List (List Char)) :
    readModule ([] :: rest) = readModule rest := by
  rw [readModule, cutAtTitles, titleOf?_nil]
  rfl

/-- Sections as they are written are read as those that have entries. The empty line that separates
two of them is read with the first one, and dropped. -/
theorem readModule_sections {ss : List Section}
    (h : ∀ s ∈ ss, s.title ∈ titles ∧ ∀ entry ∈ s.entries, Signed entry) :
    readModule (ss.flatMap Section.lines ++ [[]])
      = ([], ss.filter fun s => !s.entries.isEmpty) := by
  induction ss with
  | nil => decide
  | cons s ss ih =>
    have hrest := ih fun s' hs' => h s' (List.mem_cons_of_mem s hs')
    obtain ⟨htitle, hentries⟩ := h s List.mem_cons_self
    rw [List.flatMap_cons, List.append_assoc, List.filter_cons]
    by_cases hempty : s.entries = []
    · simpa [Section.lines, hempty] using hrest
    · have hlines : s.lines = [] :: s.titleLine :: s.entries := by simp [Section.lines, hempty]
      rw [hlines, List.cons_append, readModule_empty_cons, List.cons_append,
        readModule_titleLine htitle, readModule_append hentries, hrest, List.append_nil]
      simp [hempty]

/-! ## What was written -/

/-- A line is found again where the text is cut at line feeds; what follows the last line feed is
empty. -/
theorem splitOn_writeLines {ls : List (List Char)} (h : ∀ line ∈ ls, '\n' ∉ line) :
    splitOn '\n' (writeLines ls) = ls ++ [[]] := by
  induction ls with
  | nil => rfl
  | cons line ls ih =>
    rw [writeLines_cons, splitOn_append, splitOn_of_not_mem (h line List.mem_cons_self),
      ih fun l hl => h l (List.mem_cons_of_mem line hl)]
    rfl

theorem newline_not_mem_documentLines {name text line : List Char} (hname : '\n' ∉ name)
    {made : Stamp} (h : line ∈ documentLines name made text) : '\n' ∉ line := by
  rcases List.mem_append.mp h with h | h
  · exact (signed_of_mem_directives hname h).oneLine
  · obtain ⟨s, hs, hline⟩ := List.mem_flatMap.mp h
    unfold Section.lines at hline
    split at hline
    · cases hline
    · rcases List.mem_cons.mp hline with rfl | hline
      · exact List.not_mem_nil
      · rcases List.mem_cons.mp hline with rfl | hline
        · have hall : ∀ title ∈ titles, '\n' ∉ '[' :: (title ++ [']']) := by decide
          exact hall s.title (title_mem_titles hs)
        · exact (signed_of_mem_sections hs hline).oneLine

/-- The titles among the lines of sections are those of the sections that have entries. -/
theorem filterMap_titleOf?_sections {ss : List Section}
    (h : ∀ s ∈ ss, s.title ∈ titles ∧ ∀ entry ∈ s.entries, Signed entry) :
    (ss.flatMap Section.lines).filterMap titleOf?
      = (ss.filter fun s => !s.entries.isEmpty).map Section.title := by
  induction ss with
  | nil => rfl
  | cons s ss ih =>
    have hrest := ih fun s' hs' => h s' (List.mem_cons_of_mem s hs')
    obtain ⟨htitle, hentries⟩ := h s List.mem_cons_self
    rw [List.flatMap_cons, List.filterMap_append, hrest, List.filter_cons]
    by_cases hempty : s.entries = []
    · simp [Section.lines, hempty]
    · have hnone : s.entries.filterMap titleOf? = [] :=
        List.filterMap_eq_nil_iff.mpr fun entry he => titleOf?_of_sign (hentries entry he).sign
      simp [Section.lines, hempty, titleOf?_nil, titleOf?_titleLine htitle,
        hnone]

theorem sections_signed {text : List Char} {s : Section} (hs : s ∈ sections text) :
    s.title ∈ titles ∧ ∀ entry ∈ s.entries, Signed entry :=
  ⟨title_mem_titles hs, fun _ => signed_of_mem_sections hs⟩

/-- The title of a section does not stand in front of the section. -/
theorem titleLine_not_mem_front {text : List Char} {s : Section} {earlier later : List Section}
    (h : sections text = earlier ++ s :: later) (name : List Char) (made : Stamp) :
    s.titleLine ∉ directives name made text ++ earlier.flatMap Section.lines := by
  intro hmem
  have hs : s ∈ sections text := h ▸ List.mem_append_right earlier List.mem_cons_self
  have htitle : s.title
      ∈ (directives name made text ++ earlier.flatMap Section.lines).filterMap titleOf? :=
    List.mem_filterMap.mpr ⟨s.titleLine, hmem, titleOf?_titleLine (title_mem_titles hs)⟩
  rw [List.filterMap_append, filterMap_titleOf?_directives, List.nil_append,
    filterMap_titleOf?_sections fun s' hs' =>
      sections_signed (h ▸ List.mem_append_left (s :: later) hs')] at htitle
  obtain ⟨s', hs', heq⟩ := List.mem_map.mp htitle
  have hnodup : ((earlier ++ s :: later).map Section.title).Nodup := by
    rw [← h]
    exact nodup_titles
  rw [List.map_append, List.map_cons] at hnodup
  exact (List.nodup_append.mp hnodup).2.2 _ (List.mem_map_of_mem (List.mem_filter.mp hs').1) _
    List.mem_cons_self heq

theorem splitOn_buildChars {name : List Char} (hname : '\n' ∉ name) (made : Stamp)
    (text : List Char) : splitOn '\n' (buildChars name made text)
      = directives name made text ++ ((sections text).flatMap Section.lines ++ [[]]) := by
  rw [buildChars, splitOn_writeLines fun line => newline_not_mem_documentLines hname,
    documentLines, List.append_assoc]

theorem filterMap_titleOf?_buildChars {name : List Char} (hname : '\n' ∉ name) (made : Stamp)
    (text : List Char) : (splitOn '\n' (buildChars name made text)).filterMap titleOf?
      = ((sections text).filter fun s => !s.entries.isEmpty).map Section.title := by
  rw [splitOn_buildChars hname, List.filterMap_append, List.filterMap_append,
    filterMap_titleOf?_directives, filterMap_titleOf?_sections fun s => sections_signed]
  simp [titleOf?_nil]

/-- The title of a section stands in a module exactly if the section has entries. -/
theorem titleLine_mem_buildChars {name : List Char} (hname : '\n' ∉ name) (made : Stamp)
    {text : List Char} {s : Section} (hs : s ∈ sections text) :
    s.titleLine ∈ splitOn '\n' (buildChars name made text) ↔ s.entries ≠ [] := by
  constructor
  · intro hline hempty
    have hmem : s.title ∈ (splitOn '\n' (buildChars name made text)).filterMap titleOf? :=
      List.mem_filterMap.mpr ⟨s.titleLine, hline, titleOf?_titleLine (title_mem_titles hs)⟩
    rw [filterMap_titleOf?_buildChars hname] at hmem
    obtain ⟨s', hs', htitle⟩ := List.mem_map.mp hmem
    obtain ⟨hs', hne⟩ := List.mem_filter.mp hs'
    -- No two sections have the same title, so it is the section itself that has entries.
    have hnodup : ((sections text).map Section.title).Nodup := nodup_titles
    rw [List.inj_on_of_nodup_map hnodup hs' hs htitle, hempty] at hne
    cases hne
  · intro hne
    rw [splitOn_buildChars hname]
    refine List.mem_append_right _ (List.mem_append_left _ (List.mem_flatMap.mpr ⟨s, hs, ?_⟩))
    simp [Section.lines, hne]

/-- The lines of a module, cut at the titles, are its directives and those of its sections that have
entries. Each title comes at most once and in order, and it comes exactly if its section has entries;
no line of a directive or an entry is blank or a title. -/
theorem readModule_build {name : String} (hname : '\n' ∉ name.toList) (made : Stamp)
    (text : String) :
    let written := splitOn '\n' (build name made text).toList
    readModule written = (directives name.toList made text.toList,
        (sections text.toList).filter fun s => !s.entries.isEmpty)
      ∧ (written.filterMap titleOf?).Sublist titles ∧ (written.filterMap titleOf?).Nodup
      ∧ (∀ s ∈ sections text.toList, s.titleLine ∈ written ↔ s.entries ≠ [])
      ∧ ∀ line ∈ directives name.toList made text.toList
          ++ (sections text.toList).flatMap Section.entries,
        '\n' ∉ line ∧ ¬ AllBlank line ∧ titleOf? line = none := by
  intro written
  have hwritten : written = splitOn '\n' (buildChars name.toList made text.toList) := by
    show splitOn '\n' (String.ofList _).toList = _
    rw [String.toList_ofList]
  have hdirectives : ∀ line ∈ directives name.toList made text.toList, Signed line :=
    fun line => signed_of_mem_directives hname
  have hsublist : (written.filterMap titleOf?).Sublist titles := by
    rw [hwritten, filterMap_titleOf?_buildChars hname, ← map_title_sections text.toList]
    exact List.filter_sublist.map Section.title
  rw [hwritten] at hsublist ⊢
  refine ⟨?_, hsublist, hsublist.nodup nodup_titles,
    fun s hs => titleLine_mem_buildChars hname made hs, fun line hline => ?_⟩
  · rw [splitOn_buildChars hname, readModule_append hdirectives,
      readModule_sections fun s => sections_signed, List.append_nil]
  · have hsigned : Signed line := by
      rcases List.mem_append.mp hline with hline | hline
      · exact hdirectives line hline
      · obtain ⟨s, hs, hentry⟩ := List.mem_flatMap.mp hline
        exact signed_of_mem_sections hs hentry
    exact ⟨hsigned.oneLine, not_allBlank_of_signed hsigned, titleOf?_of_sign hsigned.sign⟩

/-- A name, a pattern and a line that are titles. -/
theorem readModule_build_titles :
    let text := "[Rule] url reject\n[MITM]"
    '\n' ∉ "[Script]".toList ∧ readModule (splitOn '\n' (build "[Script]" default text).toList)
      = (["#!name=[Script]".toList, "#!desc=0000-00-00 00:00:00".toList],
        [{ title := "URL Rewrite".toList, entries := ["[Rule] - reject".toList] }]) := by
  intro text
  have hname : '\n' ∉ "[Script]".toList := by decide
  have hread := (readModule_build hname default text).1
  have hdirectives : directives "[Script]".toList default text.toList
      = ["#!name=[Script]".toList, "#!desc=0000-00-00 00:00:00".toList] := by decide
  have hsections : ((sections text.toList).filter fun s => !s.entries.isEmpty)
      = [{ title := "URL Rewrite".toList, entries := ["[Rule] - reject".toList] }] := by
    decide +kernel
  rw [hdirectives, hsections] at hread
  exact ⟨hname, hread⟩

end Intercept.Sgmodule
