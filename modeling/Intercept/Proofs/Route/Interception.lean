import Intercept.Proofs.Route.Roundtrip
import Intercept.Proofs.Sgmodule.Framing

/-!
# Intercept.Proofs.Route.Interception -- hosts in a snippet and in its module

The hostname lines of a text are looked for twice: by a snippet, in lines without blanks around them,
and by a module, in lines without blanks in front. Both find the same lines, with the same values up
to blanks at the end, and collect the same list. The module writes that list as one line, and as a
snippet this line is the same list again.
-/

namespace Intercept

open Intercept.Text
open Intercept.Unicode (isBlank)

namespace SnippetLine

/-! ## Lines with hostnames -/

theorem exists_hostnameValue?_append_blanks {b : List Char} (hb : AllBlank b) (cs : List Char) :
    ∃ b', AllBlank b' ∧ hostnameValue? (cs ++ b) = (hostnameValue? cs).map (· ++ b') := by
  have hfront : NoBlank "hostname".toList := by decide
  have hname := after?_append_blanks hfront hb cs
  unfold hostnameValue? afterStr?
  simp only [Option.bind_eq_bind, hname]
  cases after? "hostname".toList cs with
  | none => exact ⟨[], by simp, rfl⟩
  | some rest =>
    have hequals : isBlank '=' = false := by decide
    obtain ⟨b₁, hb₁, hsign⟩ := exists_afterSign?_append_blanks hequals hb rest
    simp only [Option.map_some, Option.bind_some, hsign]
    cases afterSign? '=' rest with
    | none => exact ⟨[], by simp, rfl⟩
    | some value =>
      have hp : ∀ c, isBlank c = true → (c != '#') = true := by
        intro c hc
        rw [bne_iff_ne]
        rintro rfl
        exact absurd hc (by decide)
      obtain ⟨b₂, hb₂, hcut⟩ := exists_takeWhile_append_blanks hp hb₁ value
      exact ⟨b₂, hb₂, congrArg some hcut⟩

/-- The value that a module finds in a line is that of the line without blanks around it, with blanks
behind it at most. -/
theorem exists_hostnameLine? (line : List Char) :
    ∃ b, AllBlank b ∧ Section.hostnameLine? line = (hostnameValue? (trim line)).map (· ++ b) := by
  obtain ⟨b, hb, heq⟩ := exists_trimEnd (trimStart line)
  have hsame : Section.hostnameLine? line = hostnameValue? (trimStart line) := rfl
  rw [hsame, heq]
  exact exists_hostnameValue?_append_blanks hb (trim line)

/-- The value of a line that names hosts. -/
def hostnames? : SnippetLine → Option (List Char)
  | hostnames value => some value
  | route _ _ => none

theorem parse?_of_hostnameValue? {line value : List Char} (h : hostnameValue? line = some value) :
    parse? line = some (.hostnames value) := by
  have hsilent : isSilent line = false := by
    unfold hostnameValue? at h
    obtain ⟨rest, hrest, -⟩ := Option.bind_eq_some_iff.mp h
    rw [afterStr?_eq_some.mp hrest]
    rfl
  rw [parse?, hsilent, h]
  rfl

/-- Lines of the other forms name no hosts. -/
theorem hostnames?_of_route {line : List Char} {l : SnippetLine}
    (h : (((scriptRoute? line).or (namedScript? line)).or (rejectRoute? line)).or (mockRoute? line)
      = some l) : hostnames? l = none := by
  rcases Option.or_eq_some_iff.mp h with h | ⟨-, h⟩
  · rcases Option.or_eq_some_iff.mp h with h | ⟨-, h⟩
    · rcases Option.or_eq_some_iff.mp h with h | ⟨-, h⟩
      · obtain ⟨_, _, rfl⟩ := exists_script_of_scriptRoute? h
        rfl
      · obtain ⟨_, _, rfl⟩ := exists_script_of_namedScript? h
        rfl
    · obtain ⟨_, _, _, _, _, -, -, -, rfl⟩ := rejectRoute?_eq_some h
      rfl
  · obtain ⟨_, _, _, _, -, -, -, -, -, -, -, rfl⟩ := mockRoute?_eq_some h
    rfl

theorem hostnames?_parse? (line : List Char) :
    (parse? line).bind hostnames? = hostnameValue? line := by
  cases hvalue : hostnameValue? line with
  | some value =>
    rw [parse?_of_hostnameValue? hvalue]
    rfl
  | none =>
    rw [Option.bind_eq_none_iff]
    intro l hparse
    rw [parse?, hvalue] at hparse
    split at hparse
    · cases hparse
    · exact hostnames?_of_route hparse

end SnippetLine

/-! ## Values -/

namespace Section

/-- Merging values only depends on the entries of each. -/
theorem mergeValues_congr {values values' : List (List Char)}
    (h : values.map Hostnames.entriesOfLine = values'.map Hostnames.entriesOfLine)
    (hosts : Hostnames) : mergeValues hosts values = mergeValues hosts values' := by
  have hfold : ∀ values : List (List Char), mergeValues hosts values
      = (values.map Hostnames.entriesOfLine).foldl (fun h es => h.merge (.ofEntries es)) hosts := by
    intro values
    rw [List.foldl_map, mergeValues]
    simp [Hostnames.parse]
  rw [hfold, hfold, h]

/-- The hostnames of a text, from its lines as a snippet reads them. -/
theorem hostnamesOf_eq_mergeValues (text : List Char) : hostnamesOf text
    = mergeValues {} ((RoutingTable.snippetLines text).filterMap SnippetLine.hostnames?) := by
  rw [hostnamesOf_eq, RoutingTable.snippetLines, List.filterMap_filterMap]
  apply mergeValues_congr
  rw [List.map_filterMap, List.map_filterMap]
  refine List.filterMap_congr fun line _ => ?_
  obtain ⟨b, hb, hline⟩ := SnippetLine.exists_hostnameLine? line
  rw [SnippetLine.hostnames?_parse?, hline, Option.map_map]
  cases SnippetLine.hostnameValue? (trim line) with
  | none => rfl
  | some value => exact congrArg some (Hostnames.entriesOfLine_append_blanks value hb)

end Section

namespace Sgmodule

/-- The section of hosts is the last one of a module, and its title stands nowhere in front. What
stands in front is whole lines, unless the name breaks its own. -/
theorem exists_front_of_interception (name : String) (made : Stamp) (text : String) :
    ∃ front, "[MITM]".toList ∉ front ∧ ('\n' ∉ name.toList → ∀ line ∈ front, '\n' ∉ line)
      ∧ (build name made text).toList = writeLines (front
        ++ (Section.mk "MITM".toList (Section.interceptionEntries text.toList)).lines) := by
  have hsections : sections text.toList = (sections text.toList).dropLast
      ++ [Section.mk "MITM".toList (Section.interceptionEntries text.toList)] := rfl
  have hlines : documentLines name.toList made text.toList
      = directives name.toList made text.toList
        ++ (sections text.toList).dropLast.flatMap Section.lines
        ++ (Section.mk "MITM".toList (Section.interceptionEntries text.toList)).lines := by
    rw [documentLines, hsections, List.flatMap_append, List.flatMap_singleton, List.append_assoc,
      ← hsections]
  refine ⟨_, titleLine_not_mem_front hsections name.toList made, fun hname line hline => ?_, ?_⟩
  · exact newline_not_mem_documentLines hname (hlines ▸ List.mem_append_left _ hline)
  · rw [build, String.toList_ofList, buildChars, hlines]

end Sgmodule

namespace RoutingTable

/-! ## The hosts of a table -/

theorem hostnames_addLine {t u : RoutingTable} {line : SnippetLine} (h : t.addLine line = .ok u) :
    u.hostnames = Section.mergeValues t.hostnames line.hostnames?.toList := by
  cases line with
  | hostnames value =>
    cases h
    rfl
  | route pattern action =>
    obtain ⟨route, -, rfl⟩ := map_eq_ok.mp h
    rfl

theorem hostnames_foldlM {lines : List SnippetLine} {t u : RoutingTable}
    (h : lines.foldlM addLine t = .ok u) :
    u.hostnames = Section.mergeValues t.hostnames (lines.filterMap SnippetLine.hostnames?) := by
  induction lines generalizing t with
  | nil =>
    cases h
    rfl
  | cons line lines ih =>
    rw [List.foldlM_cons] at h
    obtain ⟨t', hline, h⟩ := bind_eq_ok.mp h
    rw [ih h, hostnames_addLine hline, List.filterMap_cons]
    cases line.hostnames? <;> rfl

/-- A snippet and a module collect the same hosts from a text. -/
theorem hostnames_ofSnippet {text : String} {t : RoutingTable} (h : ofSnippet text = .ok t) :
    t.hostnames = Section.hostnamesOf text.toList := by
  rw [Section.hostnamesOf_eq_mergeValues]
  exact hostnames_foldlM h

/-! ## The section of a module -/

/-- The line that names all hosts of a table. -/
def hostnameLine (t : RoutingTable) : List Char :=
  "hostname = %APPEND% ".toList ++ join [','] (t.hostnames.entries.map String.toList)

/-- The value of such a line is what stands behind the equals sign, up to a comment. -/
theorem hostnameLine?_append (list : List Char) :
    Section.hostnameLine? ("hostname = %APPEND% ".toList ++ list)
      = some ((Hostnames.appendMark ++ ' ' :: list).takeWhile (· != '#')) := by
  have htext : "hostname = %APPEND% ".toList
      = "hostname".toList ++ (' ' :: '=' :: ' ' :: (Hostnames.appendMark ++ [' '])) := by decide
  have hsign : ∀ rest, afterSign? '=' (' ' :: '=' :: ' ' :: rest) = some (trimStart rest) :=
    fun _ => rfl
  rw [htext, List.append_assoc, Section.hostnameLine?,
    trimStart_append_of_noBlank (by decide) (by decide)]
  simp only [Option.bind_eq_bind, afterStr?_append, Option.bind_some, List.cons_append, hsign,
    List.append_assoc, List.nil_append]
  rw [trimStart_append_of_noBlank (by decide) (by decide)]
  rfl

theorem interceptionEntries_of_ofSnippet {text : String} {t : RoutingTable}
    (h : ofSnippet text = .ok t) : Section.interceptionEntries text.toList
      = if t.hostnames.entries = [] then [] else [t.hostnameLine] := by
  rw [Section.interceptionEntries, ← hostnames_ofSnippet h]
  unfold hostnameLine
  cases hentries : t.hostnames.entries with
  | nil => rw [if_pos rfl]
  | cons e entries => rw [if_neg (List.cons_ne_nil e entries)]

theorem allWhole_ofSnippet {text : String} {t : RoutingTable} (h : ofSnippet text = .ok t) :
    t.hostnames.AllWhole := by
  rw [hostnames_ofSnippet h]
  exact Section.allWhole_hostnamesOf text.toList

theorem newline_not_mem_hostnameLine {t : RoutingTable} (hwhole : t.hostnames.AllWhole) :
    '\n' ∉ t.hostnameLine := by
  unfold hostnameLine
  refine List.not_mem_append (by decide) (Section.not_mem_join (by decide) fun part hpart => ?_)
  obtain ⟨e, he, rfl⟩ := List.mem_map.mp hpart
  exact (hwhole.of_mem_entries he).oneLine

theorem empty_merge {h : Hostnames} (hd : h.Distinct) : Hostnames.merge {} h = h := by
  rw [Hostnames.merge_eq]
  have hall : ∀ {list : List String}, list.Nodup → Hostnames.addAll [] list = list :=
    fun hlist => Hostnames.addAll_append_of_nodup hlist
  rw [hall hd.included, hall hd.excluded]

/-- The line is read as a snippet that says nothing else and has the entries of the table. -/
theorem ofSnippet_hostnameLine {t : RoutingTable} (hwhole : t.hostnames.AllWhole)
    (hsettled : t.hostnames.Settled) (hne : t.hostnames.entries ≠ []) :
    ofSnippet (String.ofList t.hostnameLine)
      = .ok { hostnames := .ofEntries t.hostnames.entries } := by
  have hentries : ∀ e ∈ t.hostnames.entries, Hostnames.Whole e.toList ∧ e.toList ≠ [] :=
    fun e he => ⟨hwhole.of_mem_entries he, hsettled.ne_empty he⟩
  have hline : '\n' ∉ t.hostnameLine := newline_not_mem_hostnameLine hwhole
  have hsharp : '#' ∉ join [','] (t.hostnames.entries.map String.toList) := by
    refine Section.not_mem_join (by decide) fun part hpart => ?_
    obtain ⟨e, he, rfl⟩ := List.mem_map.mp hpart
    exact (hentries e he).1.sharp
  have hjoin := Hostnames.entriesOfLine_join hne hentries
  generalize hlist : join [','] (t.hostnames.entries.map String.toList) = list at hsharp hjoin
  have hvalue : Section.hostnameLine? t.hostnameLine
      = some (Hostnames.appendMark ++ ' ' :: list) := by
    unfold hostnameLine
    rw [hlist, hostnameLine?_append, List.takeWhile_eq_self_iff.mpr]
    intro c hc
    rw [bne_iff_ne]
    rintro rfl
    rcases List.mem_append.mp hc with hc | hc
    · exact absurd hc (by decide)
    · exact hsharp (List.mem_of_ne_of_mem (by decide) hc)
  obtain ⟨b, hb, hsame⟩ := SnippetLine.exists_hostnameLine? t.hostnameLine
  rw [hvalue] at hsame
  obtain ⟨value, hread, heq⟩ := Option.map_eq_some_iff.mp hsame.symm
  rw [ofSnippet_of_line (by rwa [String.toList_ofList]), String.toList_ofList,
    SnippetLine.parse?_of_hostnameValue? hread]
  show Except.ok _ = _
  have hparse : Hostnames.parse (String.ofList value) = .ofEntries t.hostnames.entries := by
    rw [Hostnames.parse, String.toList_ofList, ← Hostnames.entriesOfLine_append_blanks value hb, heq,
      hjoin, Hostnames.ofEntries_append]
  rw [hparse, empty_merge (Hostnames.settled_ofEntries _).distinct]

/-- The module of a text has a section of hosts, as its last one, exactly if the snippet of the text
shows an entry. The one line of the section, read as a snippet, shows the same entries and covers
the same hosts. -/
theorem interception_ofSnippet {text : String} {t : RoutingTable} (h : ofSnippet text = .ok t) :
    ∃ part : List (List Char), (part = [] ↔ t.hostnames.entries = [])
      ∧ (∀ name made, ∃ front, "[MITM]".toList ∉ front
        ∧ ('\n' ∉ name.toList → ∀ line ∈ front, '\n' ∉ line)
        ∧ (Sgmodule.build name made text).toList = Sgmodule.writeLines (front ++ part))
      ∧ (part ≠ [] → ∃ line u, part = [[], "[MITM]".toList, line]
        ∧ "hostname = %APPEND% ".toList <+: line ∧ '\n' ∉ line
        ∧ ofSnippet (String.ofList line) = .ok u
        ∧ u.hostnames.entries = t.hostnames.entries
        ∧ ∀ host, u.hostnames.intercepts host = t.hostnames.intercepts host) := by
  have hentries := interceptionEntries_of_ofSnippet h
  by_cases hne : t.hostnames.entries = []
  case pos =>
    rw [if_pos hne] at hentries
    refine ⟨[], iff_of_true rfl hne, fun name made => ?_, fun hpart => absurd rfl hpart⟩
    obtain ⟨front, htitle, hwhole, hbuild⟩ :=
      Sgmodule.exists_front_of_interception name made text
    rw [hentries] at hbuild
    exact ⟨front, htitle, hwhole, hbuild⟩
  case neg =>
    rw [if_neg hne] at hentries
    have hsettled : t.hostnames.Settled := (writable_ofSnippet h).hostnames
    have hread := ofSnippet_hostnameLine (allWhole_ofSnippet h) hsettled hne
    have hprefix : "hostname = %APPEND% ".toList <+: t.hostnameLine := by
      unfold hostnameLine
      exact List.prefix_append _ _
    refine ⟨[[], "[MITM]".toList, t.hostnameLine], iff_of_false (by simp) hne,
      fun name made => ?_, fun _ => ⟨t.hostnameLine, _, rfl, hprefix,
        newline_not_mem_hostnameLine (allWhole_ofSnippet h), hread,
        Hostnames.entries_ofEntries_entries hsettled, fun host =>
          Hostnames.intercepts_congr (Hostnames.sameEntries_ofEntries_entries hsettled) host⟩⟩
    obtain ⟨front, htitle, hwhole, hbuild⟩ :=
      Sgmodule.exists_front_of_interception name made text
    rw [hentries] at hbuild
    exact ⟨front, htitle, hwhole, hbuild⟩

/-- Two lines that name the same host, one of them indented and with a comment; the other entry
begins with two dashes. -/
theorem interception_ofSnippet_dashes :
    let text := "\t hostname = *.A.com, --b # -c\nhostname=%INSERT% *.a.COM"
    ∃ t line u, ofSnippet text = .ok t ∧ t.hostnames.entries = ["--b", "*.a.com"]
      ∧ "hostname = %APPEND% ".toList <+: line ∧ ofSnippet (String.ofList line) = .ok u
      ∧ u.hostnames.entries = ["--b", "*.a.com"] := by
  intro text
  have hread : (ofSnippet text).toOption.map (fun t => t.hostnames.entries)
      = some ["--b", "*.a.com"] := by decide +kernel
  cases h : ofSnippet text with
  | error fault =>
    rw [h] at hread
    cases hread
  | ok t =>
    rw [h] at hread
    have hentries : t.hostnames.entries = ["--b", "*.a.com"] := Option.some.inj hread
    obtain ⟨part, hpart, -, hline⟩ := interception_ofSnippet h
    have hne : part ≠ [] := fun hnil => absurd (hpart.mp hnil) (by simp [hentries])
    obtain ⟨line, u, -, hprefix, -, hu, hsame, -⟩ := hline hne
    exact ⟨t, line, u, rfl, hentries, hprefix, hu, hsame.trans hentries⟩

end RoutingTable

end Intercept
