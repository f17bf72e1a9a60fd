import Intercept.Proofs.Section.Scripts

/-!
# Intercept.Proofs.Route.Scripts -- scripts that are read back from a module

A line that runs a script becomes an entry of a module, and the entry is again a line of a snippet.
It is read as a route to the same script for most patterns and paths, and exactly for those that
`SnippetLine.Survives` tells.
-/

namespace Intercept

open Intercept.Text

namespace SnippetLine

/-! ## Entries as lines -/

/-- A name with which a line may begin: what begins with it is no comment, no title and no line of
hostnames. -/
def PlainStart (label : List Char) : Prop :=
  label.head? ≠ some '#' ∧ label.head? ≠ some '['
    ∧ ∀ q, label = "hostname".toList ++ q → q ≠ [] ∧ q.head? ≠ some '='

variable {kind : String} {label pattern path tail : List Char}

theorem word?_entry (hlabel : NoBlank label) (hne : label ≠ []) :
    word? (label ++ ' ' :: entryRest kind pattern path tail) =
      some (label, ' ' :: entryRest kind pattern path tail) :=
  word?_eq_some.mpr ⟨rfl, hne, hlabel, blankFirst_cons.mpr (by decide)⟩

theorem patternUrl?_entry (hlabel : NoBlank label) (hne : label ≠ []) :
    patternUrl? (label ++ ' ' :: entryRest kind pattern path tail) = none := by
  rw [patternUrl?, word?_entry hlabel hne]
  rfl

theorem mockRoute?_entry (hlabel : NoBlank label) (hne : label ≠ []) :
    mockRoute? (label ++ ' ' :: entryRest kind pattern path tail) = none := by
  rw [mockRoute?, word?_entry hlabel hne]
  rfl

theorem isSilent_append (hne : label ≠ []) (rest : List Char) :
    isSilent (label ++ rest) = false ↔ label.head? ≠ some '#' ∧ label.head? ≠ some '[' := by
  obtain ⟨c, label', rfl⟩ := List.exists_cons_of_ne_nil hne
  simp [isSilent]

theorem hostnameValue?_entry (hlabel : NoBlank label) :
    hostnameValue? (label ++ ' ' :: entryRest kind pattern path tail) = none ↔
      ∀ q, label = "hostname".toList ++ q → q ≠ [] ∧ q.head? ≠ some '=' := by
  have hsign : afterSign? '=' (' ' :: entryRest kind pattern path tail) ≠ none := fun h => by cases h
  rw [hostnameValue?_run hlabel]
  refine forall₂_congr fun q _ => ?_
  simp only [hsign, imp_false, and_comm]

/-- An entry is read as a route to a script if its name may begin a line, and then by its name and
pattern. -/
theorem parse?_entry {name : String} {q : List Char} (hlabel : NoBlank label) (hne : label ≠ []) :
    parse? (label ++ ' ' :: entryRest kind pattern path tail) = some (.route q (.script name)) ↔
      PlainStart label ∧ ∃ n, name = String.ofList (trimEndOf ".js".toList n)
        ∧ leastWord? namedPattern? (label ++ ' ' :: entryRest kind pattern path tail)
          = some (n, q) := by
  -- Behind the name stands an equals sign, so no form fits but that of a named script.
  have hscript : scriptRoute? (label ++ ' ' :: entryRest kind pattern path tail) = none := by
    rw [scriptRoute?, patternUrl?_entry hlabel hne]
    rfl
  have hreject : rejectRoute? (label ++ ' ' :: entryRest kind pattern path tail) = none := by
    rw [rejectRoute?, patternUrl?_entry hlabel hne]
    rfl
  have hnamed : namedScript? (label ++ ' ' :: entryRest kind pattern path tail) =
      (leastWord? namedPattern? (label ++ ' ' :: entryRest kind pattern path tail)).map fun p =>
        .route p.2 (.script (String.ofList (trimEndOf ".js".toList p.1))) := by
    rw [namedScript?, trimStart_append_of_noBlank hlabel hne]
    cases leastWord? namedPattern? (label ++ ' ' :: entryRest kind pattern path tail) with
    | none => rfl
    | some p => rfl
  have hmock : mockRoute? (label ++ ' ' :: entryRest kind pattern path tail) = none :=
    mockRoute?_entry hlabel hne
  have hsilent := isSilent_append hne (' ' :: entryRest kind pattern path tail)
  have hhost : hostnameValue? (label ++ ' ' :: entryRest kind pattern path tail) = none ↔
      ∀ q, label = "hostname".toList ++ q → q ≠ [] ∧ q.head? ≠ some '=' :=
    hostnameValue?_entry hlabel
  rw [PlainStart, ← and_assoc, ← hsilent, ← hhost, parse?, hscript, hnamed, hreject, hmock]
  cases isSilent (label ++ ' ' :: entryRest kind pattern path tail) with
  | true => simp
  | false =>
    cases hostnameValue? (label ++ ' ' :: entryRest kind pattern path tail) with
    | some value => simp
    | none =>
      rw [if_neg (by simp), Option.none_or, Option.or_none, Option.or_none]
      cases leastWord? namedPattern? (label ++ ' ' :: entryRest kind pattern path tail) with
      | none => simp
      | some p =>
        obtain ⟨n, q'⟩ := p
        constructor
        · intro h
          cases h
          exact ⟨⟨rfl, rfl⟩, n, rfl, rfl⟩
        · rintro ⟨-, n', rfl, h⟩
          cases h
          rfl

/-- Blanks at the end of an entry do not matter to what stands in front of its path. -/
theorem trimEnd_entry (front : List Char) :
    trimEnd (front ++ entryRest kind pattern path tail) =
      front ++ entryRest kind pattern path (trimEnd tail) := by
  have hsplit : ∀ t, front ++ entryRest kind pattern path t =
      (front ++ '=' :: ("type".toList ++ '=' :: (kind.toList ++ ',' :: ' ' :: ("pattern".toList
        ++ '=' :: (pattern ++ ',' :: ' ' :: ("script-path".toList ++ '=' :: path)))))) ++ ',' :: t := by
    intro t
    simp only [entryRest, pathPart, List.append_assoc, List.cons_append]
  have hend : trimEnd (',' :: tail) = ',' :: trimEnd tail :=
    trimEnd_cons_of_not_blank (by decide) tail
  rw [hsplit, hsplit, trimEnd_append_of_ne_nil (by rw [hend]; simp), hend]

theorem trim_entry (hlabel : NoBlank label) (hne : label ≠ []) :
    trim (label ++ ' ' :: entryRest kind pattern path tail) =
      label ++ ' ' :: entryRest kind pattern path (trimEnd tail) := by
  have h : trimEnd (label ++ [' '] ++ entryRest kind pattern path tail) =
      label ++ [' '] ++ entryRest kind pattern path (trimEnd tail) := trimEnd_entry (label ++ [' '])
  rw [List.append_assoc, List.append_assoc] at h
  rw [trim, trimStart_append_of_noBlank hlabel hne]
  exact h

/-- An entry without a name says nothing. -/
theorem parse?_entry_nil (hkind : kind ∈ namedKinds) :
    parse? (trim (' ' :: entryRest kind pattern path tail)) = none := by
  have htrim : trim (' ' :: entryRest kind pattern path tail) =
      entryRest kind pattern path (trimEnd tail) := trimEnd_entry []
  rw [htrim]
  obtain rfl | rfl := namedKinds_cases hkind
  · rfl
  · rfl

/-! ## Lines that are read back -/

/-- A script line whose entry is read back as the same route: the entry's name may begin a line, and
either name and pattern are both read whole and the name is the script's, or the name holds a line
with the same pattern behind the script's name. -/
def Survives (pattern path : List Char) : Prop :=
  PlainStart (Section.scriptLabel (trimEndOf [','] path))
    ∧ ((¬ [','] <:+ path ∧ ¬ ['/'] <:+ path ∧ ¬ ".js.js".toList <:+ path
        ∧ path.head? ≠ some ',' ∧ ¬ HoldsPath pattern
        ∧ ∀ a q, ¬ Shadows (Section.scriptLabel path) a q)
      ∨ ∃ a, FirstShadow (Section.scriptLabel (trimEndOf [','] path)) a pattern
        ∧ trimEndOf ".js".toList a = scriptName path)

theorem not_shadows_of_not_mem {a q : List Char} (h : '=' ∉ label) : ¬ Shadows label a q := by
  rintro ⟨-, y, rfl, _, -, _, -, -, rfl⟩
  exact h (List.mem_append_right a List.mem_cons_self)

theorem not_holdsPath_of_not_mem (h : ',' ∉ pattern) : ¬ HoldsPath pattern := by
  rintro ⟨q, _, _, -, -, rfl⟩
  exact h (List.mem_append_right q List.mem_cons_self)

/-- Most lines are read back: it is enough that the name may begin a line, that the pattern holds no
comma and the name no equals sign, and that the path begins and ends as the name needs it. -/
theorem survives_of_plain (hstart : PlainStart (Section.scriptLabel path))
    (hname : '=' ∉ Section.scriptLabel path) (hpattern : ',' ∉ pattern)
    (hcomma : ¬ [','] <:+ path) (hslash : ¬ ['/'] <:+ path) (hdouble : ¬ ".js.js".toList <:+ path)
    (hhead : path.head? ≠ some ',') : Survives pattern path := by
  have hself : trimEndOf [','] path = path := (trimEndOf_eq_self (by decide)).mpr hcomma
  rw [Survives, hself]
  exact ⟨hstart, .inl ⟨hcomma, hslash, hdouble, hhead, not_holdsPath_of_not_mem hpattern,
    fun _ _ => not_shadows_of_not_mem hname⟩⟩

theorem parse?_entry_iff (hkind : kind ∈ namedKinds) (hpattern : NoBlank pattern)
    (hpne : pattern ≠ []) (hpath : NoBlank path) (hne : path ≠ []) :
    parse? (trim (Section.scriptLabel (trimEndOf [','] path)
        ++ ' ' :: entryRest kind pattern (trimEndOf [','] path) tail)) =
      some (.route pattern (.script (String.ofList (scriptName path)))) ↔ Survives pattern path := by
  have hself : trimEndOf [','] path = path ↔ ¬ [','] <:+ path := trimEndOf_eq_self (by decide)
  have hstripped : NoBlank (trimEndOf [','] path) := noBlank_trimEndOf (by decide) hpath
  -- A path of commas gives no name, and an entry without a name says nothing.
  by_cases hnil : trimEndOf [','] path = []
  · have hempty : Section.scriptLabel (trimEndOf [','] path) = [] := by rw [hnil]; rfl
    rw [Survives, hempty, List.nil_append, parse?_entry_nil hkind]
    refine iff_of_false (by simp) ?_
    rintro ⟨-, ⟨hcomma, -⟩ | ⟨a, hshadow, -⟩⟩
    · exact hne ((hself.mpr hcomma).symm.trans hnil)
    · obtain ⟨ha, y, hsplit, -⟩ := hshadow.shadows
      exact ha (List.append_eq_nil_iff.mp hsplit.symm).1
  · have hlabel := Section.noBlank_scriptLabel hstripped
    have hlne := Section.scriptLabel_ne_nil hnil
    rw [trim_entry hlabel hlne, parse?_entry hlabel hlne, Survives]
    refine and_congr_right fun _ => ?_
    constructor
    · rintro ⟨n, hname, hread⟩
      have hsame : scriptName path = trimEndOf ".js".toList n := String.ofList_injective hname
      obtain hshadow | ⟨rfl, hplain, hwhole⟩ := (leastWord?_label hkind hlabel hlne).mp hread
      · exact .inr ⟨n, hshadow, hsame.symm⟩
      · obtain ⟨hcomma, hslash, hdouble⟩ := Section.trimEndOf_scriptLabel.mp hsame.symm
        rw [hself.mpr hcomma] at hplain hwhole
        obtain ⟨⟨c, hc, hne'⟩, hfree⟩ := (namedPattern?_entry hkind hpattern hpne hpath).mp hwhole
        refine .inl ⟨hcomma, hslash, hdouble, ?_, hfree, hplain⟩
        rw [hc]
        exact fun h => hne' (Option.some.inj h)
    · rintro (⟨hcomma, hslash, hdouble, hhead, hfree, hplain⟩ | ⟨a, hshadow, hname⟩)
      · obtain ⟨c, path', hcons⟩ := List.exists_cons_of_ne_nil hne
        have hc : ∃ c, path.head? = some c ∧ c ≠ ',' :=
          ⟨c, by rw [hcons]; rfl, fun h => hhead (by rw [hcons, h]; rfl)⟩
        have hname := Section.trimEndOf_scriptLabel.mpr ⟨hcomma, hslash, hdouble⟩
        rw [hself.mpr hcomma] at hname hlabel hlne ⊢
        exact ⟨_, congrArg String.ofList hname.symm, (leastWord?_label hkind hlabel hlne).mpr
          (.inr ⟨rfl, hplain, (namedPattern?_entry hkind hpattern hpne hpath).mpr ⟨hc, hfree⟩⟩)⟩
      · exact ⟨a, congrArg String.ofList hname.symm,
          (leastWord?_label hkind hlabel hlne).mpr (.inl hshadow)⟩

end SnippetLine

namespace RoutingTable

/-! ## Scripts in a module -/

/-- A script line that is a route at all is the route to the script in its path. -/
theorem parse?_of_scriptLine {line : String} (hline : '\n' ∉ line.toList)
    {pattern path : List Char} (hform : Section.ScriptLine (trim line.toList) pattern path)
    {t : RoutingTable} (h : ofSnippet line = .ok t) (ht : t.routes ≠ []) :
    SnippetLine.parse? (trim line.toList) =
      some (.route pattern (.script (String.ofList (SnippetLine.scriptName path)))) := by
  rw [ofSnippet_of_line hline] at h
  cases hparse : SnippetLine.parse? (trim line.toList) with
  | none =>
    rw [hparse] at h
    cases h
    exact absurd rfl ht
  | some l =>
    rw [hparse] at h
    rw [SnippetLine.parse?] at hparse
    split at hparse
    · cases hparse
    · split at hparse
      · cases hparse
        cases h
        exact absurd rfl ht
      · rw [Section.scriptRoute?_of_scriptLine hform, Option.some_or, Option.some_or,
          Option.some_or] at hparse
        exact hparse.symm

theorem newline_not_mem_entry {kind : String} (hkind : kind ∈ SnippetLine.namedKinds)
    {label pattern path tail : List Char} (hlabel : NoBlank label) (hpattern : NoBlank pattern)
    (hpath : NoBlank path) (htail : '\n' ∉ tail) :
    '\n' ∉ label ++ ' ' :: SnippetLine.entryRest kind pattern path tail := by
  have hkindFree : '\n' ∉ kind.toList := by
    obtain rfl | rfl := SnippetLine.namedKinds_cases hkind
    · decide
    · decide
  simp [SnippetLine.entryRest, SnippetLine.pathPart, newline_not_mem_of_noBlank hlabel,
    newline_not_mem_of_noBlank hpattern, newline_not_mem_of_noBlank hpath, hkindFree, htail]

/-- A snippet of one line has one route with some pattern and action if that is what the line says
and the pattern can be compiled. -/
theorem single_route_iff {text : String} (htext : '\n' ∉ text.toList) {pattern : List Char}
    {action : RouteAction} {r : Route} (hr : Route.compile (String.ofList pattern) action = .ok r) :
    (∃ u r', ofSnippet text = .ok u ∧ u.routes = [r'] ∧ r'.pattern.source = r.pattern.source
        ∧ r'.action = r.action) ↔
      SnippetLine.parse? (trim text.toList) = some (.route pattern action) := by
  obtain ⟨hsource, haction⟩ := compile_eq_ok hr
  constructor
  · rintro ⟨u, r', hu, hroutes, hsame, hact⟩
    obtain ⟨line, hmem, hparse⟩ := exists_line_of_mem_routes hu (hroutes ▸ List.mem_singleton_self r')
    have hne : text.toList ≠ [] := by
      intro hnil
      rw [hnil] at hmem
      cases hmem
    rw [lines_of_not_mem htext hne, List.mem_singleton] at hmem
    rw [← hmem, hparse, hsame, hact, hsource, haction, String.toList_ofList]
  · intro hparse
    refine ⟨{ routes := [r] }, r, ?_, rfl, rfl, rfl⟩
    rw [ofSnippet_of_line htext, hparse]
    simp only [addLine]
    rw [hr]
    rfl

/-- A line that runs a script becomes one entry, and the entry is read as the same route exactly for
the patterns and paths that survive. -/
theorem script_entry_iff {line : String} (hline : '\n' ∉ line.toList) {pattern path : List Char}
    (hform : Section.ScriptLine (trim line.toList) pattern path) {t : RoutingTable}
    (h : ofSnippet line = .ok t) (ht : t.routes ≠ []) :
    ∃ r entry, t.routes = [r] ∧ r.pattern.source = String.ofList pattern
      ∧ r.action = .script (String.ofList (SnippetLine.scriptName path))
      ∧ Section.scriptEntries line.toList = [entry]
      ∧ ((∃ u r', ofSnippet (String.ofList entry) = .ok u ∧ u.routes = [r']
          ∧ r'.pattern.source = r.pattern.source ∧ r'.action = r.action)
        ↔ SnippetLine.Survives pattern path) := by
  have hparse := parse?_of_scriptLine hline hform h ht
  rw [ofSnippet_of_line hline, hparse] at h
  obtain ⟨r, hr, rfl⟩ : ∃ r, Route.compile (String.ofList pattern)
      (.script (String.ofList (SnippetLine.scriptName path))) = .ok r ∧ { routes := [r] } = t := by
    simp only [addLine] at h
    cases hr : Route.compile (String.ofList pattern)
        (.script (String.ofList (SnippetLine.scriptName path))) with
    | error fault =>
      rw [hr] at h
      cases h
    | ok r =>
      rw [hr] at h
      cases h
      exact ⟨r, rfl, rfl⟩
  obtain ⟨hsource, haction⟩ := compile_eq_ok hr
  obtain ⟨kind, hkind, tail, htail, hentry⟩ := Section.scriptEntry?_of_scriptLine hform
  obtain ⟨_, _, _, _, _, hpne, hpattern, hne, hpath, -⟩ := hform
  have hstripped : NoBlank (trimEndOf [','] path) := noBlank_trimEndOf (by decide) hpath
  refine ⟨r, Section.scriptLabel (trimEndOf [','] path) ++ ' ' :: SnippetLine.entryRest kind pattern
    (trimEndOf [','] path) tail, rfl, hsource, haction, ?_, ?_⟩
  · exact Section.scriptEntries_of_line hline hparse hentry
  · have hsingle := newline_not_mem_entry hkind (Section.noBlank_scriptLabel hstripped) hpattern
      hstripped htail
    rw [← String.toList_ofList (l := Section.scriptLabel (trimEndOf [','] path) ++ ' ' ::
      SnippetLine.entryRest kind pattern (trimEndOf [','] path) tail)] at hsingle
    rw [single_route_iff hsingle hr, String.toList_ofList]
    exact SnippetLine.parse?_entry_iff hkind hpattern hpne hpath hne

/-- A header script with a plain path. -/
theorem script_entry_iff_sign :
    ∃ t, ofSnippet "^https://api url script-request-header https://x.com/sign.js" = .ok t
      ∧ t.routes ≠ []
      ∧ Section.ScriptLine
        (trim "^https://api url script-request-header https://x.com/sign.js".toList)
        "^https://api".toList "https://x.com/sign.js".toList
      ∧ SnippetLine.Survives "^https://api".toList "https://x.com/sign.js".toList
      ∧ ∃ r entry, t.routes = [r] ∧ r.action = .script "sign"
        ∧ Section.scriptEntries
          "^https://api url script-request-header https://x.com/sign.js".toList = [entry]
        ∧ ∃ u r', ofSnippet (String.ofList entry) = .ok u ∧ u.routes = [r']
          ∧ r'.pattern.source = r.pattern.source ∧ r'.action = r.action := by
  have hform : Section.ScriptLine
      (trim "^https://api url script-request-header https://x.com/sign.js".toList)
      "^https://api".toList "https://x.com/sign.js".toList :=
    ⟨[' '], [' '], [' '], "script-request-header", [], by decide, by decide, by decide, by decide,
      by decide, by decide, by decide, by decide, by simp, by decide⟩
  have hlabel : Section.scriptLabel "https://x.com/sign.js".toList = "sign".toList := by decide
  have hstart : SnippetLine.PlainStart "sign".toList := by
    refine ⟨by decide, by decide, fun q hq => ?_⟩
    have hhead : some 's' = some 'h' := congrArg List.head? hq
    exact absurd hhead (by decide)
  have hplain : SnippetLine.Survives "^https://api".toList "https://x.com/sign.js".toList :=
    SnippetLine.survives_of_plain (hlabel ▸ hstart) (by rw [hlabel]; decide) (by decide) (by decide)
      (by decide) (by decide) (by decide)
  have hroutes :
      (ofSnippet "^https://api url script-request-header https://x.com/sign.js").toOption.map
        (fun t => t.routes.length) = some 1 := by decide +kernel
  cases ht : ofSnippet "^https://api url script-request-header https://x.com/sign.js" with
  | error fault =>
    rw [ht] at hroutes
    cases hroutes
  | ok t =>
    rw [ht] at hroutes
    have hlen : t.routes.length = 1 := Option.some.inj hroutes
    have hne : t.routes ≠ [] := by
      rintro hnil
      rw [hnil] at hlen
      cases hlen
    obtain ⟨r, entry, hr, -, haction, hentry, hiff⟩ :=
      script_entry_iff (by decide) hform ht hne
    exact ⟨t, rfl, hne, hform, hplain, r, entry, hr, haction, hentry, hiff.mpr hplain⟩

/-- A path with a comma behind it: the route runs a script with the comma in its name, and the entry
names one without it. -/
theorem script_renamed :
    (ofSnippet "^a url script-request-header https://x.com/sign.js, max-size=0").toOption.map
        (fun t => t.routes.map fun r => r.action) = some [.script "sign.js,"]
    ∧ (Section.scriptEntries
        "^a url script-request-header https://x.com/sign.js, max-size=0".toList).map (fun entry =>
          (ofSnippet (String.ofList entry)).toOption.map fun u => u.routes.map fun r => r.action) =
      [some [.script "sign"]] := by
  decide +kernel

end RoutingTable

end Intercept
