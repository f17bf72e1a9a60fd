import Intercept.Proofs.Keyed
import Intercept.Proofs.Text.Parts
import Intercept.Proofs.Text.Words
import Intercept.Sgmodule.Apps
import Mathlib.Data.List.Infix

/-!
# Intercept.Proofs.Sgmodule.Apps -- which rules belong to which app

The apps of a text are split in one pass, with a buffer for the lines of the app that is being read.
What the pass has left to do is told by the sections of the lines to come and by the section whose
front is in the buffer; a step moves a line from the one to the other, or puts a finished section
into the result. So each app ends up with the lines of its last section and with no others.
-/

namespace Intercept.Sgmodule

open Intercept.Text

/-! ## Sections -/

/-- The name of the app whose lines follow, if a line is a mark with a name. -/
def markedName? (line : List Char) : Option (List Char) :=
  (after? appMark line).bind fun rest => if (trim rest).isEmpty then none else some (trim rest)

/-- The lines up to the next mark. -/
def upToMark (ls : List (List Char)) : List (List Char) :=
  ls.takeWhile fun line => !startsWith appMark line

/-- The section that opens with the first of some lines, if that names an app: the name, and the
lines between it and the next mark. -/
def sectionAt? : List (List Char) → Option (List Char × List (List Char))
  | [] => none
  | line :: behind => (markedName? line).map fun name => (name, upToMark behind)

/-- The sections of some lines, in order. -/
def sectionsOf (ls : List (List Char)) : List (List Char × List (List Char)) :=
  ls.tails.filterMap sectionAt?

/-- Whether a section has any line. -/
def hasLines (s : List Char × List (List Char)) : Bool :=
  !s.2.isEmpty

/-- The sections of a text that have at least one line, in order. -/
def appSections (text : List Char) : List (List Char × List (List Char)) :=
  (sectionsOf (lines text)).filter hasLines

/-- The app to which the line at a place belongs: the one that the last mark in front of it names. A
mark belongs to none. -/
def ownerAt? (ls : List (List Char)) (place : Nat) : Option (List Char) :=
  if ls[place]?.any (startsWith appMark) then none
  else ((ls.take place).reverse.find? (startsWith appMark)).bind markedName?

/-- A section with its lines in one text. -/
def joined (s : List Char × List (List Char)) : List Char × List Char :=
  (s.1, join ['\n'] s.2)

theorem sectionsOf_cons (line : List Char) (ls : List (List Char)) :
    sectionsOf (line :: ls) = (sectionAt? (line :: ls)).toList ++ sectionsOf ls := by
  unfold sectionsOf
  rw [List.tails_cons, List.filterMap_cons]
  cases sectionAt? (line :: ls) <;> rfl

theorem markedName?_of_not_mark {line : List Char} (h : startsWith appMark line = false) :
    markedName? line = none := by
  have hnone : after? appMark line = none := by simpa [startsWith] using h
  rw [markedName?, hnone, Option.bind_none]

/-! ## Splitting -/

/-- No line is held back while no app is being read. -/
def Splitter.Sound (s : Splitter) : Prop :=
  s.current = none → s.buffer = []

/-- The section whose front is in the buffer, if an app is being read; `rest` is what is left of it.
-/
def Splitter.open? (s : Splitter) (rest : List (List Char)) :
    Option (List Char × List (List Char)) :=
  s.current.map fun name => (name, s.buffer.reverse ++ rest)

/-- The apps that come of putting sections into those that are there. -/
def putSections (apps : List (List Char × List Char)) (ss : List (List Char × List (List Char))) :
    List (List Char × List Char) :=
  (ss.filter hasLines).foldl (fun apps s => Keyed.put s.1 (join ['\n'] s.2) apps) apps

theorem putSections_append (apps : List (List Char × List Char))
    (ss ss' : List (List Char × List (List Char))) :
    putSections apps (ss ++ ss') = putSections (putSections apps ss) ss' := by
  unfold putSections
  rw [List.filter_append, List.foldl_append]

/-- Ending an app puts what is in the buffer into the result. -/
theorem Splitter.flush_apps (s : Splitter) :
    s.flush.apps = putSections s.apps (s.open? []).toList := by
  unfold Splitter.flush Splitter.open? putSections
  cases s.current with
  | none => rfl
  | some name =>
    cases hbuffer : s.buffer with
    | nil => rfl
    | cons line buffer =>
      have hlines : hasLines (name, (line :: buffer).reverse) = true := by simp [hasLines]
      rw [Option.map_some, Option.toList_some, List.append_nil, List.filter_cons_of_pos hlines]
      rfl

theorem Splitter.Sound.flush_buffer {s : Splitter} (h : s.Sound) : s.flush.buffer = [] := by
  unfold Splitter.flush
  cases hcurrent : s.current with
  | none => exact h hcurrent
  | some name =>
    cases hbuffer : s.buffer with
    | nil => simp [hbuffer]
    | cons line buffer => simp

/-- A mark ends the app that is being read and begins the one that it names. -/
theorem Splitter.step_mark (s : Splitter) {line : List Char} (h : startsWith appMark line = true) :
    s.step line = { s.flush with current := markedName? line } := by
  obtain ⟨rest, hrest⟩ := Option.isSome_iff_exists.mp h
  simp only [Splitter.step, markedName?, hrest, Option.bind_some]

/-- Any other line goes into the buffer of the app that is being read. -/
theorem Splitter.step_line (s : Splitter) {line : List Char} (h : startsWith appMark line = false) :
    s.step line = if s.current.isSome then { s with buffer := line :: s.buffer } else s := by
  have hnone : after? appMark line = none := by simpa [startsWith] using h
  simp only [Splitter.step, hnone]

theorem Splitter.Sound.step {s : Splitter} (h : s.Sound) (line : List Char) :
    (s.step line).Sound := by
  cases hmark : startsWith appMark line with
  | true =>
    rw [s.step_mark hmark]
    exact fun _ => h.flush_buffer
  | false =>
    rw [s.step_line hmark]
    split
    · next hcurrent =>
      intro hnone
      simp [show s.current = none from hnone] at hcurrent
    · exact h

/-- What is left to do before a line is what the line finishes and what is left to do behind it. -/
theorem putSections_step {s : Splitter} (h : s.Sound) (line : List Char) (ls : List (List Char)) :
    putSections s.apps ((s.open? (upToMark (line :: ls))).toList ++ sectionsOf (line :: ls)) =
      putSections (s.step line).apps
        (((s.step line).open? (upToMark ls)).toList ++ sectionsOf ls) := by
  cases hmark : startsWith appMark line with
  | true =>
    have hopen : (s.step line).open? (upToMark ls) = sectionAt? (line :: ls) := by
      rw [s.step_mark hmark]
      simp only [Splitter.open?, h.flush_buffer, sectionAt?, List.reverse_nil, List.nil_append]
    have hend : upToMark (line :: ls) = [] := by simp [upToMark, hmark]
    have happs : (s.step line).apps = putSections s.apps (s.open? []).toList := by
      rw [s.step_mark hmark, ← s.flush_apps]
    rw [hend, sectionsOf_cons, hopen, happs, putSections_append]
  | false =>
    have hnone : sectionAt? (line :: ls) = none := by
      rw [sectionAt?, markedName?_of_not_mark hmark, Option.map_none]
    have hmore : upToMark (line :: ls) = line :: upToMark ls := by simp [upToMark, hmark]
    rw [sectionsOf_cons, hnone, hmore, Option.toList_none, List.nil_append, s.step_line hmark]
    cases hcurrent : s.current with
    | none => simp [Splitter.open?, hcurrent]
    | some name => simp [Splitter.open?, hcurrent]

/-- The whole pass: the section that is open and those to come are put in, one after the other. -/
theorem foldl_step_flush {s : Splitter} (h : s.Sound) (ls : List (List Char)) :
    (ls.foldl Splitter.step s).flush.apps =
      putSections s.apps ((s.open? (upToMark ls)).toList ++ sectionsOf ls) := by
  induction ls generalizing s with
  | nil =>
    have hsections : sectionsOf [] = [] := rfl
    rw [List.foldl_nil, s.flush_apps, hsections, List.append_nil]
    rfl
  | cons line ls ih => rw [List.foldl_cons, ih (h.step line), putSections_step h]

theorem splitApps_eq (text : List Char) :
    splitApps text = Keyed.ofList ((appSections text).map joined) := by
  have hsound : Splitter.Sound {} := fun _ => rfl
  rw [splitApps, foldl_step_flush hsound, Keyed.ofList, List.foldl_map]
  rfl

/-- No two apps have the same name. -/
theorem nodup_splitApps (text : List Char) : ((splitApps text).map Prod.fst).Nodup := by
  rw [splitApps_eq]
  exact Keyed.nodup_ofList _

theorem names_appModules (made : Stamp) (text : List Char) :
    (appModules made text).map Prod.fst = (splitApps text).map Prod.fst := by
  rw [appModules, List.map_map]
  rfl

/-! ## Places -/

theorem mem_sectionsOf {ls : List (List Char)} {s : List Char × List (List Char)} :
    s ∈ sectionsOf ls ↔ ∃ front mark behind, ls = front ++ mark :: behind ∧
      markedName? mark = some s.1 ∧ s.2 = upToMark behind := by
  unfold sectionsOf
  rw [List.mem_filterMap]
  constructor
  · rintro ⟨tail, htail, hsection⟩
    obtain ⟨front, rfl⟩ := List.mem_tails _ _ |>.mp htail
    cases tail with
    | nil => cases hsection
    | cons mark behind =>
      obtain ⟨name, hname, rfl⟩ := Option.map_eq_some_iff.mp hsection
      exact ⟨front, mark, behind, rfl, hname, rfl⟩
  · rintro ⟨front, mark, behind, rfl, hname, hbody⟩
    refine ⟨mark :: behind, (List.mem_tails _ _).mpr ⟨front, rfl⟩, ?_⟩
    rw [sectionAt?, hname, Option.map_some, ← hbody]

theorem startsWith_of_markedName? {line name : List Char} (h : markedName? line = some name) :
    startsWith appMark line = true := by
  cases hmark : startsWith appMark line with
  | true => rfl
  | false =>
    rw [markedName?_of_not_mark hmark] at h
    cases h

/-- The lines of a section stand right behind its mark, and they belong to its app. -/
theorem owner_of_section {front behind : List (List Char)} {mark name : List Char}
    (hname : markedName? mark = some name) {k : Nat} {line : List Char}
    (hline : (upToMark behind)[k]? = some line) :
    (front ++ mark :: behind)[front.length + 1 + k]? = some line ∧
      ownerAt? (front ++ mark :: behind) (front.length + 1 + k) = some name := by
  obtain ⟨later, hlater⟩ : upToMark behind <+: behind := List.takeWhile_prefix _
  have hplain : ∀ l ∈ upToMark behind, startsWith appMark l = false := by
    intro l hl
    simpa using List.mem_takeWhile_imp hl
  obtain ⟨hk, -⟩ := List.getElem?_eq_some_iff.mp hline
  have hplace : ∀ ls : List (List Char), front ++ mark :: ls = (front ++ [mark]) ++ ls := by simp
  have hlength : (front ++ [mark]).length = front.length + 1 := by simp
  -- What stands in front of the line ends with the mark and lines that are no marks.
  have htake : (front ++ mark :: behind).take (front.length + 1 + k) =
      (front ++ [mark]) ++ (upToMark behind).take k := by
    rw [hplace, ← hlength, List.take_length_add_append, ← hlater,
      List.take_append_of_le_length (by omega), hlater]
  have hget : (front ++ mark :: behind)[front.length + 1 + k]? = some line := by
    rw [hplace, ← hlength, List.getElem?_append_right (Nat.le_add_right _ _),
      Nat.add_sub_cancel_left, ← hlater, List.getElem?_append_left hk]
    exact hline
  have hfind : ((upToMark behind).take k).reverse.find? (startsWith appMark) = none := by
    rw [List.find?_eq_none]
    intro l hl
    simp [hplain l (List.mem_of_mem_take (List.mem_reverse.mp hl))]
  refine ⟨hget, ?_⟩
  unfold ownerAt?
  rw [hget, htake, Option.any_some, hplain line (List.mem_of_getElem? hline), if_neg (by simp),
    List.reverse_append, List.find?_append, hfind, Option.none_or, List.reverse_append,
    List.reverse_singleton, List.singleton_append,
    List.find?_cons_of_pos (startsWith_of_markedName? hname), Option.bind_some, hname]

/-! ## The apps of a text -/

/-- An app has the lines of the last section that bears its name. -/
theorem mem_splitApps_iff {text name rules : List Char} : (name, rules) ∈ splitApps text ↔
    ∃ earlier body later, appSections text = earlier ++ (name, body) :: later ∧
      (∀ s ∈ later, s.1 ≠ name) ∧ rules = join ['\n'] body := by
  rw [splitApps_eq, Keyed.mem_ofList_iff]
  constructor
  · rintro ⟨earlier, later, hmap, hlater⟩
    obtain ⟨earlier, rest, hsplit, rfl, hrest⟩ := List.map_eq_append_iff.mp hmap
    obtain ⟨⟨name', body⟩, later, rfl, hpair, rfl⟩ := List.map_eq_cons_iff.mp hrest
    obtain ⟨rfl, rfl⟩ := Prod.mk.inj hpair
    exact ⟨earlier, body, later, hsplit, fun s hs => hlater (joined s) (List.mem_map_of_mem hs), rfl⟩
  · rintro ⟨earlier, body, later, hsplit, hlater, rfl⟩
    refine ⟨earlier.map joined, later.map joined, ?_, fun p hp => ?_⟩
    · rw [hsplit, List.map_append, List.map_cons]
      rfl
    · obtain ⟨s, hs, rfl⟩ := List.mem_map.mp hp
      exact hlater s hs

/-- The lines of a section are the lines of the text from some place on, all of which belong to the
app whose name the section bears. -/
theorem owner_of_mem_appSections {text name : List Char} {body : List (List Char)}
    (h : (name, body) ∈ appSections text) :
    ∃ start, ∀ k line, (splitOn '\n' (join ['\n'] body))[k]? = some line →
      (lines text)[start + k]? = some line ∧ ownerAt? (lines text) (start + k) = some name := by
  obtain ⟨hmem, hne⟩ := List.mem_filter.mp h
  obtain ⟨front, mark, behind, hlines, hname, hbody⟩ := mem_sectionsOf.mp hmem
  have hbody' : body = upToMark behind := hbody
  have hpieces : splitOn '\n' (join ['\n'] body) = body := by
    refine splitOn_join (by simpa [hasLines] using hne) fun l hl => ?_
    have hin : l ∈ lines text := by
      have hl' : l ∈ behind := (List.takeWhile_sublist _).subset (hbody' ▸ hl)
      simp [hlines, hl']
    exact not_mem_of_mem_lines hin
  refine ⟨front.length + 1, fun k line hline => ?_⟩
  rw [hpieces, hbody'] at hline
  rw [hlines]
  exact owner_of_section hname hline

/-- A text has one app for each name that has a section with a line in it, in the order of these
sections, with the lines of the last of them. Each line of an app is the line at a place of the text
that belongs to this app. -/
theorem splitApps_sections (text : List Char) :
    (splitApps text).map Prod.fst = ((appSections text).map Prod.fst).eraseDups ∧
      (∀ name rules, (name, rules) ∈ splitApps text ↔
        ∃ earlier body later, appSections text = earlier ++ (name, body) :: later ∧
          (∀ s ∈ later, s.1 ≠ name) ∧ rules = join ['\n'] body) ∧
      ∀ name rules, (name, rules) ∈ splitApps text →
        ∃ start, ∀ k line, (splitOn '\n' rules)[k]? = some line →
          (lines text)[start + k]? = some line ∧
            ownerAt? (lines text) (start + k) = some name := by
  refine ⟨?_, fun name rules => mem_splitApps_iff, fun name rules happ => ?_⟩
  · rw [splitApps_eq, Keyed.keys_ofList, List.map_map]
    rfl
  · obtain ⟨earlier, body, later, hsplit, -, rfl⟩ := mem_splitApps_iff.mp happ
    exact owner_of_mem_appSections (by simp [hsplit])

/-- A name that comes again keeps its place and gets the later lines. -/
example : splitApps "# > A\nx\n# > B\ny\n# > \nz\n# > A\nv\nw\n".toList =
    [("A".toList, "v\nw".toList), ("B".toList, "y".toList)] := by decide

end Intercept.Sgmodule
