import Intercept.Proofs.Sgmodule.Apps
import Intercept.Proofs.Sgmodule.Framing
import Intercept.Proofs.Sgmodule.Lookalikes

/-!
# Intercept.Proofs.Sgmodule.AppModules -- modules that do not say when they were made

The module of an app is the module of its rules without the line that says when it was made. That
line is left out by cutting the finished module at its line ends and passing over what begins like
the line, so the time never shows. But what else begins like it is left out as well, and where a line
ends with a carriage return, this goes with the line end.
-/

namespace Intercept.Sgmodule

open Intercept.Text Intercept.Section

variable {name rules line : List Char} {ls : List (List Char)}

/-! ## Writing lines and reading them -/

theorem lines_writeLines (h : ∀ line ∈ ls, '\n' ∉ line) :
    lines (writeLines ls) = ls.map dropReturn := by
  induction ls with
  | nil => rfl
  | cons line ls ih =>
    obtain ⟨hline, hls⟩ := List.forall_mem_cons.mp h
    rw [writeLines_cons, lines_cons_lineFeed hline, ih hls, List.map_cons]

theorem join_concat_lineFeed (hne : ls ≠ []) : join ['\n'] ls ++ ['\n'] = writeLines ls := by
  induction ls with
  | nil => exact absurd rfl hne
  | cons line ls ih =>
    cases ls with
    | nil => simp [join, writeLines]
    | cons next ls =>
      rw [join_cons_cons, List.append_assoc, List.append_assoc, ih (List.cons_ne_nil next ls),
        writeLines_cons line, List.singleton_append]

theorem writeLines_inj {ls' : List (List Char)} (h : ∀ line ∈ ls, '\n' ∉ line)
    (h' : ∀ line ∈ ls', '\n' ∉ line) : writeLines ls = writeLines ls' ↔ ls = ls' := by
  refine ⟨fun heq => ?_, congrArg writeLines⟩
  have hpieces := congrArg (splitOn '\n') heq
  rw [splitOn_writeLines h, splitOn_writeLines h'] at hpieces
  exact List.append_cancel_right hpieces

/-! ## The line with the time -/

/-- A module without its second line, whatever this says. -/
def withoutStamp (document : List Char) : List Char :=
  join ['\n'] ((splitOn '\n' document).eraseIdx 1)

/-- The lines of a module behind the one with the time. -/
def afterStamp (rules : List Char) : List (List Char) :=
  argumentsLine rules ++ argumentsDescLine rules ++ (sections rules).flatMap Section.lines

theorem documentLines_eq (name : List Char) (made : Stamp) (rules : List Char) :
    documentLines name made rules
      = ("#!name=".toList ++ name) :: (descMark ++ made.write) :: afterStamp rules := by
  simp [documentLines, directives, afterStamp]

/-- Leaving out lines and shortening others changes nothing exactly if nothing is left out and nothing
is shortened: a line that is missing is missed by the number of lines. -/
theorem map_filter_eq_self_iff {p : List Char → Bool} {f : List Char → List Char} :
    (ls.filter p).map f = ls ↔ ∀ line ∈ ls, p line = true ∧ f line = line := by
  have hmap : ls.map f = ls ↔ ∀ line ∈ ls, f line = line := by
    conv_lhs => rhs; rw [← List.map_id ls]
    exact List.map_inj_left
  constructor
  · intro h
    have hlength := congrArg List.length h
    rw [List.length_map, List.length_filter_eq_length_iff] at hlength
    rw [List.filter_eq_self.mpr hlength, hmap] at h
    exact fun line hline => ⟨hlength line hline, h line hline⟩
  · intro h
    rw [List.filter_eq_self.mpr fun line hline => (h line hline).1, hmap]
    exact fun line hline => (h line hline).2

/-- Whether a line is not taken for the one with the time. -/
def stays (line : List Char) : Bool :=
  !startsWith descMark line

theorem kept_iff_stays : Kept line ↔ stays line = true ∧ dropReturn line = line := by
  rw [stays, Bool.not_eq_true', ← Bool.not_eq_true, startsWith_iff_prefix, dropReturn_eq_self_iff]
  exact ⟨fun h => ⟨h.front, h.back⟩, fun h => ⟨h.1, h.2⟩⟩

/-- It makes no difference that the lines are shortened before the one with the time is looked for. -/
theorem withoutDesc_writeLines (h : ∀ line ∈ ls, '\n' ∉ line) (hne : ls.filter stays ≠ []) :
    withoutDesc (writeLines ls) = writeLines ((ls.filter stays).map dropReturn) := by
  have hstays : stays ∘ dropReturn = stays :=
    funext fun line => congrArg not (startsWith_dropReturn (by decide) line)
  have hleft : (lines (writeLines ls)).filter stays = (ls.filter stays).map dropReturn := by
    rw [lines_writeLines h, List.filter_map, hstays]
  rw [← join_concat_lineFeed (List.map_eq_nil_iff.not.mpr hne), ← hleft]
  rfl

theorem withoutStamp_writeLines {first second : List Char}
    (h : ∀ line ∈ first :: second :: ls, '\n' ∉ line) :
    withoutStamp (writeLines (first :: second :: ls)) = writeLines (first :: ls) := by
  rw [withoutStamp, splitOn_writeLines h]
  show join ['\n'] ((first :: ls) ++ [[]]) = _
  rw [join_append (List.cons_ne_nil first ls) (List.cons_ne_nil [] []),
    ← join_concat_lineFeed (List.cons_ne_nil first ls)]
  rfl

/-! ## Lines that are kept -/

theorem kept_of_mem_argumentsLine (h : line ∈ argumentsLine rules) : Kept line := by
  dsimp only [argumentsLine] at h
  split at h
  · cases h
  · rw [List.mem_singleton] at h
    subst h
    refine ⟨?_, ?_⟩
    · rintro ⟨rest, hrest⟩
      cases hrest
    · refine not_endsInReturn_append (by decide)
        (not_endsInReturn_join (by decide) fun part hpart => ?_)
      obtain ⟨value, -, rfl⟩ := List.mem_map.mp hpart
      refine not_endsInReturn_join (by decide) fun piece hpiece => ?_
      obtain ⟨cut, -, rfl⟩ := List.mem_map.mp hpiece
      exact not_endsInReturn_trim cut

theorem kept_of_mem_argumentsDescLine (h : line ∈ argumentsDescLine rules) : Kept line := by
  dsimp only [argumentsDescLine] at h
  split at h
  · cases h
  · rw [List.mem_singleton] at h
    subst h
    refine ⟨?_, (endsInReturn_append_of_ne_nil (by decide)).not.mpr (by decide)⟩
    rintro ⟨rest, hrest⟩
    cases hrest

/-- No line behind the one with the time is changed exactly if no entry is. -/
theorem kept_afterStamp_iff (rules : List Char) : (∀ line ∈ afterStamp rules, Kept line) ↔
    ∀ s ∈ sections rules, ∀ entry ∈ s.entries, Kept entry := by
  constructor
  · intro h s hs entry hentry
    refine h entry (List.mem_append_right _ (List.mem_flatMap.mpr ⟨s, hs, ?_⟩))
    have hne : s.entries ≠ [] := List.ne_nil_of_mem hentry
    simp [Section.lines, hne, hentry]
  · intro h line hline
    rcases List.mem_append.mp hline with hline | hline
    · rcases List.mem_append.mp hline with hline | hline
      · exact kept_of_mem_argumentsLine hline
      · exact kept_of_mem_argumentsDescLine hline
    · obtain ⟨s, hs, hline⟩ := List.mem_flatMap.mp hline
      unfold Section.lines at hline
      split at hline
      · cases hline
      · rcases List.mem_cons.mp hline with rfl | hline
        · exact ⟨by decide, by decide⟩
        · rcases List.mem_cons.mp hline with rfl | hline
          · refine ⟨not_descMark_of_head? (c := '[') rfl (by decide), ?_⟩
            rw [Section.titleLine, ← List.cons_append,
              endsInReturn_append_of_ne_nil (List.cons_ne_nil _ _)]
            decide
          · exact h s hs line hline

/-! ## The module of an app -/

/-- The name of an app is cut out of a line, without blanks around it. -/
theorem name_of_mem_splitApps {text : List Char} (h : (name, rules) ∈ splitApps text) :
    '\n' ∉ name ∧ ¬ EndsInReturn name := by
  obtain ⟨earlier, body, later, hsections, -, -⟩ := mem_splitApps_iff.mp h
  have hmem : (name, body) ∈ appSections text := by simp [hsections]
  obtain ⟨front, mark, behind, hlines, hname, -⟩ := mem_sectionsOf.mp (List.mem_filter.mp hmem).1
  have hmark : '\n' ∉ mark :=
    not_mem_of_mem_lines (hlines ▸ List.mem_append_right front List.mem_cons_self)
  obtain ⟨rest, hrest, hname⟩ := Option.bind_eq_some_iff.mp hname
  rw [after?_eq_some.mp hrest] at hmark
  split at hname
  · cases hname
  · cases hname
    exact ⟨fun hfeed => hmark (List.mem_append_right _ (trim_subset rest hfeed)),
      not_endsInReturn_trim rest⟩

/-- What is written for an app: its name, and behind it what is left of the other lines. -/
theorem withoutDesc_buildChars (hname : '\n' ∉ name) (hend : ¬ EndsInReturn name) (made : Stamp)
    (rules : List Char) : withoutDesc (buildChars name made rules)
      = writeLines (("#!name=".toList ++ name)
        :: ((afterStamp rules).filter stays).map dropReturn) := by
  have hlines : ∀ line ∈ documentLines name made rules, '\n' ∉ line :=
    fun line => newline_not_mem_documentLines hname
  have hfirst : stays ("#!name=".toList ++ name) = true := rfl
  have hstamp : ¬ stays (descMark ++ made.write) = true := by simp [stays, startsWith]
  have hfilter : (documentLines name made rules).filter stays
      = ("#!name=".toList ++ name) :: (afterStamp rules).filter stays := by
    rw [documentLines_eq, List.filter_cons_of_pos hfirst, List.filter_cons_of_neg hstamp]
  have hreturn : dropReturn ("#!name=".toList ++ name) = "#!name=".toList ++ name :=
    dropReturn_eq_self_iff.mpr (not_endsInReturn_append (by decide) hend)
  rw [buildChars, withoutDesc_writeLines hlines (hfilter ▸ List.cons_ne_nil _ _), hfilter,
    List.map_cons, hreturn]

theorem withoutDesc_eq_iff (hname : '\n' ∉ name) (hend : ¬ EndsInReturn name) (made : Stamp)
    (rules : List Char) :
    withoutDesc (buildChars name made rules) = withoutStamp (buildChars name made rules) ↔
      ∀ line ∈ activeLines rules, ¬ Lost line ∧ ¬ Cut line := by
  have hlines : ∀ line ∈ documentLines name made rules, '\n' ∉ line :=
    fun line => newline_not_mem_documentLines hname
  rw [documentLines_eq] at hlines
  obtain ⟨hfirst, hrest⟩ := List.forall_mem_cons.mp hlines
  have hafter : ∀ line ∈ afterStamp rules, '\n' ∉ line := (List.forall_mem_cons.mp hrest).2
  have hleft : ∀ line ∈ ((afterStamp rules).filter stays).map dropReturn, '\n' ∉ line := by
    intro line hline
    obtain ⟨written, hwritten, rfl⟩ := List.mem_map.mp hline
    exact not_mem_dropReturn (hafter written (List.mem_filter.mp hwritten).1)
  calc
    _ ↔ ((afterStamp rules).filter stays).map dropReturn = afterStamp rules := by
      rw [withoutDesc_buildChars hname hend, buildChars, documentLines_eq,
        withoutStamp_writeLines hlines, writeLines_inj (List.forall_mem_cons.mpr ⟨hfirst, hleft⟩)
          (List.forall_mem_cons.mpr ⟨hfirst, hafter⟩), List.cons_inj_right]
    _ ↔ ∀ line ∈ afterStamp rules, Kept line := by
      rw [map_filter_eq_self_iff]
      exact forall₂_congr fun line _ => kept_iff_stays.symm
    _ ↔ ∀ s ∈ sections rules, ∀ entry ∈ s.entries, Kept entry := kept_afterStamp_iff rules
    _ ↔ _ := kept_sections_iff rules

theorem stampLine_buildChars (hname : '\n' ∉ name) (made : Stamp) (rules : List Char) :
    (splitOn '\n' (buildChars name made rules))[1]? = some (descMark ++ made.write) := by
  rw [buildChars, splitOn_writeLines fun line => newline_not_mem_documentLines hname,
    documentLines_eq]
  rfl

/-! ## All apps -/

/-- The modules of the apps of a text, where a clock is read anew for the module of each app. -/
def appModulesAt (clock : List Char → Stamp) (text : List Char) : List (List Char × List Char) :=
  (splitApps text).map fun (name, rules) =>
    (name, withoutDesc (buildChars name (clock name) rules))

/-- Nothing of the line with the time is written for an app. -/
theorem appModulesAt_eq (clock : List Char → Stamp) (made : Stamp) (text : List Char) :
    appModulesAt clock text = appModules made text := by
  refine List.map_congr_left fun (name, rules) happ => ?_
  obtain ⟨hname, hend⟩ := name_of_mem_splitApps happ
  show (name, _) = (name, _)
  rw [withoutDesc_buildChars hname hend, withoutDesc_buildChars hname hend]

/-- The modules of the apps of a text are the same whatever the clock shows when they are made. Each
is the module of the rules of its app without the second line, which is the one with the time, exactly
if none of the rules is lost or cut. -/
theorem appModules_withoutStamp_iff (made : Stamp) (text : List Char) :
    (∀ clock, appModulesAt clock text = appModules made text) ∧
      (appModules made text).map Prod.fst = (splitApps text).map Prod.fst ∧
      ∀ name rules content, (name, rules) ∈ splitApps text →
        (name, content) ∈ appModules made text →
          (splitOn '\n' (buildChars name made rules))[1]? = some (descMark ++ made.write) ∧
            (content = withoutStamp (buildChars name made rules) ↔
              ∀ line ∈ activeLines rules, ¬ Lost line ∧ ¬ Cut line) := by
  refine ⟨fun clock => appModulesAt_eq clock made text, names_appModules made text, ?_⟩
  intro name rules content happ hmodule
  obtain ⟨hname, hend⟩ := name_of_mem_splitApps happ
  have hcontent : content = withoutDesc (buildChars name made rules) := by
    obtain ⟨⟨name', rules'⟩, happ', heq⟩ := List.mem_map.mp hmodule
    obtain ⟨rfl, rfl⟩ := Prod.mk.inj heq
    -- No two apps have the same name, so these are the rules of the app.
    rw [(Prod.mk.inj (List.inj_on_of_nodup_map (nodup_splitApps text) happ' happ rfl)).2]
  refine ⟨stampLine_buildChars hname made rules, ?_⟩
  rw [hcontent]
  exact withoutDesc_eq_iff hname hend made rules

/-- A script that is named like the line with the time does not come into the module of its app. -/
theorem appModules_script_lost :
    let rules := "^https://a.com url script-response-body https://x.com/#!desc=a.js"
    let text := "# > App\n" ++ rules ++ "\n"
    splitApps text.toList = [("App".toList, rules.toList)] ∧
      withoutStamp (buildChars "App".toList default rules.toList)
        = ("#!name=App\n\n[Script]\n#!desc=a =type=http-response, pattern=^https://a.com, "
          ++ "script-path=https://x.com/#!desc=a.js, requires-body=true, max-size=0\n").toList ∧
      appModules default text.toList = [("App".toList, "#!name=App\n\n[Script]\n".toList)] := by
  decide +kernel

/-- A status code that opens a quote and ends with a carriage return is cut at the end of its line. -/
example :
    let rules := "^a mock-response-body header=a status-code=\"4\rdata=[]".toList
    withoutDesc (buildChars "App".toList default rules)
        = "#!name=App\n\n[Map Local]\n^a data-type= data=\"[]\" status-code=\"4\n".toList ∧
      withoutStamp (buildChars "App".toList default rules)
        = "#!name=App\n\n[Map Local]\n^a data-type= data=\"[]\" status-code=\"4\r\n".toList := by
  decide +kernel

end Intercept.Sgmodule
