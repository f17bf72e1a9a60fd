import Intercept.Proofs.Route.Scripts
import Intercept.Proofs.Text.Payload

/-!
# Intercept.Proofs.Route.Kept -- lines that become the routes they spell

A pattern without blanks, the word `url` and a word that rejects become that route, and so do lines
that run scripts or mock. A pattern may itself look like the front of another line: of a comment or
a title, of a line of hostnames, or of one that gives a script its name. Then the line is taken for
that other one; for all other patterns it is kept.
-/

namespace Intercept

open Intercept.Text
open Intercept.Unicode (isBlank)

namespace SnippetLine

/-! ## What a pattern may look like -/

/-- A pattern with which a line may begin that has a blank behind it: it looks neither like a
comment or a title nor like a line of hostnames. -/
def MayBegin (pattern : List Char) : Prop :=
  pattern.head? ≠ some '#' ∧ pattern.head? ≠ some '[' ∧ ¬ "hostname=".toList <+: pattern

/-- A pattern that looks like a line that gives a script its name: `name=type=http-response,` or
`http-request`, `pattern=q,script-path=` and a path that begins without a comma. -/
def NamesScript (pattern : List Char) : Prop :=
  ∃ name, ∃ kind ∈ namedKinds, ∃ q path, name ≠ [] ∧ q ≠ [] ∧ path.head? ≠ some ','
    ∧ pattern = name ++ opening kind (q ++ ',' :: ("script-path".toList ++ '=' :: path))

/-- A named line holds a comma behind its kind. -/
theorem not_namesScript_of_not_mem {pattern : List Char} (h : ',' ∉ pattern) :
    ¬ NamesScript pattern := by
  rintro ⟨name, kind, -, q, path, -, -, -, rfl⟩
  exact h (by simp [opening])

variable {p back : List Char}

theorem hostnameValue?_eq_none_iff (hp : NoBlank p) (hsign : afterSign? '=' (' ' :: back) = none) :
    hostnameValue? (p ++ ' ' :: back) = none ↔ ¬ "hostname=".toList <+: p := by
  rw [hostnameValue?_run hp]
  constructor
  · rintro h ⟨q, rfl⟩
    exact (h ('=' :: q) rfl).1 rfl
  · rintro h q rfl
    refine ⟨fun hhead => h ?_, fun _ => hsign⟩
    obtain ⟨q', rfl⟩ := List.head?_eq_some_iff.mp hhead
    exact ⟨q', rfl⟩

/-- A line with a blank behind its first word is a route exactly if the word may begin it and one of
the four forms of routes fits. -/
theorem parse?_eq_route_iff (hp : NoBlank p) (hne : p ≠ [])
    (hsign : afterSign? '=' (' ' :: back) = none) {q : List Char} {action : RouteAction} :
    parse? (p ++ ' ' :: back) = some (.route q action) ↔ MayBegin p ∧
      (((scriptRoute? (p ++ ' ' :: back)).or (namedScript? (p ++ ' ' :: back))).or
        (rejectRoute? (p ++ ' ' :: back))).or (mockRoute? (p ++ ' ' :: back)) =
          some (.route q action) := by
  rw [MayBegin, ← hostnameValue?_eq_none_iff hp hsign, ← and_assoc,
    ← isSilent_append hne (' ' :: back), parse?]
  cases isSilent (p ++ ' ' :: back) with
  | true => simp
  | false => cases hostnameValue? (p ++ ' ' :: back) <;> simp

/-! ## Patterns that look like named lines -/

/-- Texts behind a pattern and a blank that are not taken for a part of a named line, so that one
can only stand in the pattern as a whole. -/
structure Unnamed (back : List Char) : Prop extends Apart back where
  sign : afterSign? '=' (' ' :: back) = none
  start : ∃ c, (trimStart (' ' :: back)).head? = some c ∧ c ≠ ',' ∧ isBlank c = false

/-- A word without commas is not taken for a part of a named line if none of the parts begins like
it, and no comma comes behind it. -/
theorem unnamed_of_word {w rest : List Char} (hw : NoBlank w) (hcomma : ',' ∉ w)
    (hstart : ∃ c w', w = c :: w' ∧ c ∉ ['=', 't', 'h', 'p', 's'])
    (hrest : afterSign? ',' (' ' :: rest) = none) : Unnamed (w ++ ' ' :: rest) := by
  obtain ⟨c, w', rfl, hc⟩ := hstart
  have hblank : isBlank c = false := hw c List.mem_cons_self
  have hc' : c ≠ ',' := fun h => hcomma (h ▸ List.mem_cons_self)
  have htrim : trimStart (' ' :: (c :: w' ++ ' ' :: rest)) = c :: (w' ++ ' ' :: rest) := by
    rw [trimStart_cons_of_blank (by decide), List.cons_append, trimStart_cons_of_not_blank hblank]
  have hread : ∀ d front, d ≠ c → after? (d :: front) (c :: (w' ++ ' ' :: rest)) = none :=
    fun d front hd => by rw [after?, if_neg hd]
  have hsign : ∀ sign, sign ≠ c → afterSign? sign (' ' :: (c :: w' ++ ' ' :: rest)) = none := by
    intro sign h
    rw [afterSign?, htrim, hread sign [] h]
    rfl
  have hequals : afterSign? '=' (' ' :: (c :: w' ++ ' ' :: rest)) = none :=
    hsign '=' fun h => hc (h ▸ List.mem_cons_self)
  refine ⟨⟨?key, hsign ',' (Ne.symm hc'), ?kind, ?word, ?pattern⟩, hequals, c, ?start, hc', hblank⟩
  case key =>
    intro front hfront
    rw [htrim]
    have hfirst : ∀ front ∈ ["type", "http-response", "http-request", "pattern", "script-path"],
        ∃ d ∈ ['=', 't', 'h', 'p', 's'], ∃ rest, front.toList = d :: rest := by
      simp only [List.forall_mem_cons]
      exact ⟨⟨'t', by simp, _, rfl⟩, ⟨'h', by simp, _, rfl⟩, ⟨'h', by simp, _, rfl⟩,
        ⟨'p', by simp, _, rfl⟩, ⟨'s', by simp, _, rfl⟩, by simp⟩
    obtain ⟨d, hd, rest', hcons⟩ := hfirst front hfront
    rw [afterStr?, hcons, hread]
    rintro rfl
    exact hc hd
  case kind =>
    intro rest' h
    rw [hequals] at h
    cases h
  case pattern =>
    intro rest' h
    rw [hequals] at h
    cases h
  case start => rw [htrim]; rfl
  case word =>
    -- A path would need a comma in the word or behind it.
    rw [htrim, Option.eq_none_iff_forall_ne_some]
    rintro ⟨q, x⟩ h
    obtain ⟨behind, hsplit, -, hq, hpath, -⟩ := leastWord?_eq_some.mp h
    obtain ⟨y, hy, rfl⟩ := exists_part_of_run hq ((List.cons_append).trans hsplit)
    rw [scriptPath?, Option.bind_eq_bind, Option.bind_eq_some_iff] at hpath
    obtain ⟨rest', hafter, -⟩ := hpath
    by_cases hne : y = []
    · rw [hne, List.nil_append, hrest] at hafter
      cases hafter
    · rw [hy] at hw hcomma
      obtain ⟨y', rfl, -⟩ := (afterSign?_run (noBlank_append.mp hw).2 hne).mp hafter
      exact hcomma (by simp)

theorem scriptPath?_isSome_iff_of_unnamed (hback : Unnamed back) {y : List Char} (hy : NoBlank y) :
    (scriptPath? (y ++ ' ' :: back)).isSome ↔
      ∃ path, path.head? ≠ some ',' ∧ y = ',' :: ("script-path".toList ++ '=' :: path) := by
  by_cases hne : y = []
  · have hnone : scriptPath? (' ' :: back) = none := by
      rw [scriptPath?, hback.comma]
      rfl
    rw [hne, List.nil_append, hnone]
    refine iff_of_false Bool.false_ne_true ?_
    rintro ⟨_, -, h⟩
    cases h
  · have hread : ∀ x, scriptPath? (y ++ ' ' :: back) = some x ↔ ∃ s,
        y = ',' :: ("script-path".toList ++ s) ∧ pathBehind? (s ++ ' ' :: back) = some x :=
      fun x => scriptPath?_run hy hne (by decide) (hback.key _ (by simp))
    simp only [Option.isSome_iff_exists, hread]
    constructor
    · rintro ⟨x, s, rfl, hx⟩
      have hs : NoBlank s := (noBlank_append.mp (noBlank_cons.mp hy).2).2
      have hsne : s ≠ [] := by
        rintro rfl
        rw [List.nil_append, pathBehind?, hback.sign] at hx
        cases hx
      obtain ⟨path, rfl, c, hc, hcomma, -⟩ := (pathBehind?_run_isSome hs hsne).mp (by rw [hx]; rfl)
      refine ⟨path, fun hhead => ?_, rfl⟩
      obtain ⟨path', rfl⟩ := List.head?_eq_some_iff.mp hhead
      exact hcomma (Option.some.inj hc).symm
    · rintro ⟨path, hhead, rfl⟩
      have hs : NoBlank ('=' :: path) := (noBlank_append.mp (noBlank_cons.mp hy).2).2
      have hsome : (pathBehind? ('=' :: path ++ ' ' :: back)).isSome := by
        refine (pathBehind?_run_isSome hs (by simp)).mpr ⟨path, rfl, ?_⟩
        -- The path is what the pattern ends with, or what stands behind it.
        cases path with
        | nil => exact hback.start
        | cons c path =>
          have hc : isBlank c = false := hs c (by simp)
          refine ⟨c, ?_, fun h => hhead (by rw [h]; rfl), hc⟩
          rw [List.cons_append, trimStart_cons_of_not_blank hc, List.head?_cons]
      obtain ⟨x, hx⟩ := Option.isSome_iff_exists.mp hsome
      exact ⟨x, _, rfl, hx⟩

theorem namedPattern?_isSome_iff_of_unnamed (hback : Unnamed back) {y : List Char}
    (hy : NoBlank y) :
    (namedPattern? (y ++ ' ' :: back)).isSome ↔ ∃ kind ∈ namedKinds, ∃ q path, q ≠ []
      ∧ path.head? ≠ some ','
      ∧ y = opening kind (q ++ ',' :: ("script-path".toList ++ '=' :: path)) := by
  by_cases hne : y = []
  · have hnone : namedPattern? (' ' :: back) = none := by
      rw [namedPattern?, hback.sign]
      rfl
    rw [hne, List.nil_append, hnone]
    refine iff_of_false Bool.false_ne_true ?_
    rintro ⟨_, -, _, _, -, -, h⟩
    cases h
  constructor
  · intro h
    obtain ⟨q, hq⟩ := Option.isSome_iff_exists.mp h
    obtain ⟨kind, hkind, z, x, rfl, hz⟩ := exists_opens_of_namedPattern? hback.toApart hy hne hq
    obtain ⟨rest, hrest, hqne, hqb, hread, -⟩ := leastWord?_eq_some.mp hz
    obtain ⟨s, rfl, rfl⟩ := exists_part_of_run hqb hrest
    have hs : NoBlank s := (noBlank_append.mp (noBlank_of_opening hy)).2
    obtain ⟨path, hpath, rfl⟩ :=
      (scriptPath?_isSome_iff_of_unnamed hback hs).mp (by rw [hread]; rfl)
    exact ⟨kind, hkind, q, path, hqne, hpath, rfl⟩
  · rintro ⟨kind, hkind, q, path, hqne, hpath, rfl⟩
    have hz := noBlank_of_opening hy
    obtain ⟨hq, hs⟩ := noBlank_append.mp hz
    obtain ⟨x, hx⟩ := Option.isSome_iff_exists.mp
      ((scriptPath?_isSome_iff_of_unnamed hback hs).mpr ⟨path, hpath, rfl⟩)
    rw [opening_append, namedPattern?_eq allBlank_nil allBlank_nil hkind,
      trimStart_append_of_noBlank hz (by simp [hqne]), List.append_assoc, Option.isSome_map]
    exact leastWord?_isSome hqne hq hx

/-- A line is read as one that gives a script its name exactly if its pattern looks like one. -/
theorem namedScript?_isSome_iff (hback : Unnamed back) (hp : NoBlank p) (hne : p ≠ []) :
    (namedScript? (p ++ ' ' :: back)).isSome ↔ NamesScript p := by
  have hread : (namedScript? (p ++ ' ' :: back)).isSome ↔
      (leastWord? namedPattern? (p ++ ' ' :: back)).isSome := by
    rw [namedScript?, trimStart_append_of_noBlank hp hne]
    cases leastWord? namedPattern? (p ++ ' ' :: back) <;> rfl
  rw [hread]
  constructor
  · intro h
    obtain ⟨⟨name, q⟩, hname⟩ := Option.isSome_iff_exists.mp h
    obtain ⟨rest, hrest, hnne, hnb, hq, -⟩ := leastWord?_eq_some.mp hname
    obtain ⟨y, rfl, rfl⟩ := exists_part_of_run hnb hrest
    have hy : NoBlank y := (noBlank_append.mp hp).2
    obtain ⟨kind, hkind, q', path, hqne, hpath, rfl⟩ :=
      (namedPattern?_isSome_iff_of_unnamed hback hy).mp (by rw [hq]; rfl)
    exact ⟨name, kind, hkind, q', path, hnne, hqne, hpath, rfl⟩
  · rintro ⟨name, kind, hkind, q, path, hnne, hqne, hpath, rfl⟩
    obtain ⟨hn, hy⟩ := noBlank_append.mp hp
    obtain ⟨q', hq'⟩ := Option.isSome_iff_exists.mp
      ((namedPattern?_isSome_iff_of_unnamed hback hy).mpr
        ⟨kind, hkind, q, path, hqne, hpath, rfl⟩)
    rw [List.append_assoc]
    exact leastWord?_isSome hnne hn hq'

/-! ## Lines of the four forms -/

theorem patternUrl?_run (hp : NoBlank p) (hne : p ≠ []) (rest : List Char) :
    patternUrl? (p ++ ' ' :: ("url ".toList ++ rest)) = some (p, trimStart rest) := by
  have hword : word? (p ++ ' ' :: ("url ".toList ++ rest)) =
      some (p, ' ' :: ("url ".toList ++ rest)) :=
    word?_eq_some.mpr ⟨rfl, hne, hp, blankFirst_cons.mpr (by decide)⟩
  rw [patternUrl?, hword]
  rfl

/-- A line that runs a script is kept if its pattern may begin a line: no other form comes before. -/
theorem parse?_script_iff (hp : NoBlank p) (hne : p ≠ []) {path : List Char} (hpath : NoBlank path)
    (hpne : path ≠ []) :
    parse? (p ++ ' ' :: ("url script-response-body ".toList ++ path)) =
      some (.route p (.script (String.ofList (scriptName path)))) ↔ MayBegin p := by
  have hform : Section.ScriptLine (p ++ ' ' :: ("url script-response-body ".toList ++ path)) p path :=
    ⟨[' '], [' '], [' '], "script-response-body", [], hne, hp, hpne, hpath, by decide, by decide,
      by decide, by decide, blankFirst_nil, by simp⟩
  rw [parse?_eq_route_iff hp hne rfl, Section.scriptRoute?_of_scriptLine hform]
  exact and_iff_left rfl

theorem scriptRoute?_reject (hp : NoBlank p) (hne : p ≠ []) {word : String}
    (hword : word ∈ Reject.words) :
    scriptRoute? (p ++ ' ' :: ("url ".toList ++ word.toList)) = none := by
  rw [scriptRoute?, patternUrl?_run hp hne]
  revert word
  simp only [Reject.words, List.forall_mem_cons]
  exact ⟨rfl, rfl, rfl, rfl, rfl, rfl, by simp⟩

theorem rejectRoute?_run (hp : NoBlank p) (hne : p ≠ []) {word : String} {kind : Reject}
    (hkind : Reject.parse? word = some kind) :
    rejectRoute? (p ++ ' ' :: ("url ".toList ++ word.toList)) = some (.route p (.reject kind)) := by
  have hwords : ∀ word ∈ Reject.words, NoBlank word.toList ∧ word.toList ≠ [] := by decide
  obtain ⟨hblank, hwne⟩ := hwords word (Reject.mem_words_of_parse? hkind)
  have hstart : trimStart word.toList = word.toList := by
    simpa using trimStart_append_of_noBlank hblank hwne []
  have hread : word? word.toList = some (word.toList, []) :=
    word?_eq_some.mpr ⟨(List.append_nil _).symm, hwne, hblank, blankFirst_nil⟩
  rw [rejectRoute?, patternUrl?_run hp hne, hstart]
  simp only [Option.bind_eq_bind, Option.bind_some]
  rw [hread, Option.bind_some, String.ofList_toList, hkind]
  rfl

theorem unnamed_reject {word : String} (hword : word ∈ Reject.words) :
    Unnamed ("url ".toList ++ word.toList) := by
  have hcomma : ∀ word ∈ Reject.words, afterSign? ',' (' ' :: word.toList) = none := by decide
  exact unnamed_of_word (w := "url".toList) (by decide) (by decide) ⟨'u', _, rfl, by decide⟩
    (hcomma word hword)

/-- A line that rejects is kept if its pattern may begin a line and gives no script a name. -/
theorem parse?_reject_iff (hp : NoBlank p) (hne : p ≠ []) {word : String} {kind : Reject}
    (hkind : Reject.parse? word = some kind) :
    parse? (p ++ ' ' :: ("url ".toList ++ word.toList)) = some (.route p (.reject kind)) ↔
      MayBegin p ∧ ¬ NamesScript p := by
  have hword := Reject.mem_words_of_parse? hkind
  rw [parse?_eq_route_iff hp hne (unnamed_reject hword).sign, scriptRoute?_reject hp hne hword,
    Option.none_or, rejectRoute?_run hp hne hkind, ← namedScript?_isSome_iff (unnamed_reject hword) hp hne]
  refine and_congr_right fun _ => ?_
  cases hnamed : namedScript? (p ++ ' ' :: ("url ".toList ++ word.toList)) with
  | none => simp
  | some l =>
    obtain ⟨q, name, rfl⟩ := exists_script_of_namedScript? hnamed
    simp

/-! ## Lines that mock -/

theorem extractData_braces {x : List Char} (hx : '\n' ∉ x) :
    Section.extractData ("data=\x7b".toList ++ (x ++ ['\x7d'])) = ('\x7b' :: (x ++ ['\x7d']), []) := by
  have hhere : Section.dataHere? ("data=\x7b".toList ++ (x ++ ['\x7d'])) =
      payload? ('\x7b' :: (x ++ ['\x7d'])) := rfl
  have hpayload : payload? ('\x7b' :: (x ++ ['\x7d'])) = some ('\x7b' :: (x ++ ['\x7d']), []) :=
    payload?_eq_some_iff.mpr
      ⟨(List.append_nil _).symm, ⟨'\x7b', x, '\x7d', rfl, by decide, hx⟩, sealed_nil _⟩
  rw [Section.extractData, readFirst?_here (hhere.trans hpayload)]
  rfl

theorem unnamed_mock (x : List Char) :
    Unnamed ("mock-response-body data=\x7b".toList ++ x) := by
  have hsplit : "mock-response-body data=\x7b".toList ++ x =
      "mock-response-body".toList ++ ' ' :: ("data=\x7b".toList ++ x) := by simp
  rw [hsplit]
  exact unnamed_of_word (by decide) (by decide) ⟨'m', _, rfl, by decide⟩ rfl

/-- A line that mocks with text between braces is kept if its pattern may begin a line and gives no
script a name. -/
theorem parse?_mock_iff (hp : NoBlank p) (hne : p ≠ []) {x : List Char} (hx : '\n' ∉ x) :
    parse? (p ++ ' ' :: ("mock-response-body data=\x7b".toList ++ (x ++ ['\x7d']))) =
        some (.route p (.mock (String.ofList ('\x7b' :: (x ++ ['\x7d']))))) ↔
      MayBegin p ∧ ¬ NamesScript p := by
  have hback := unnamed_mock (x ++ ['\x7d'])
  have hword : word? (p ++ ' ' :: ("mock-response-body data=\x7b".toList ++ (x ++ ['\x7d']))) =
      some (p, ' ' :: ("mock-response-body data=\x7b".toList ++ (x ++ ['\x7d']))) :=
    word?_eq_some.mpr ⟨rfl, hne, hp, blankFirst_cons.mpr (by decide)⟩
  have hurl : patternUrl? (p ++ ' ' :: ("mock-response-body data=\x7b".toList ++ (x ++ ['\x7d']))) =
      none := by
    rw [patternUrl?, hword]
    rfl
  have hmock : mockRoute? (p ++ ' ' :: ("mock-response-body data=\x7b".toList ++ (x ++ ['\x7d']))) =
      some (.route p (.mock (String.ofList ('\x7b' :: (x ++ ['\x7d']))))) := by
    have hparams : mockRoute? (p ++ ' ' :: ("mock-response-body data=\x7b".toList ++ (x ++ ['\x7d']))) =
        some (.route p (.mock (String.ofList
          (Section.extractData ("data=\x7b".toList ++ (x ++ ['\x7d']))).1))) := by
      rw [mockRoute?, hword]
      rfl
    rw [hparams, extractData_braces hx]
  rw [parse?_eq_route_iff hp hne hback.sign, scriptRoute?, rejectRoute?, hurl, hmock,
    ← namedScript?_isSome_iff hback hp hne]
  refine and_congr_right fun _ => ?_
  cases hnamed : namedScript? (p ++ ' ' :: ("mock-response-body data=\x7b".toList ++ (x ++ ['\x7d']))) with
  | none => simp
  | some l =>
    obtain ⟨q, name, rfl⟩ := exists_script_of_namedScript? hnamed
    simp

end SnippetLine

/-! ## Snippets of one line -/

namespace RoutingTable

open SnippetLine (MayBegin NamesScript)

/-- A snippet that is one route, with a given pattern and action. -/
def IsRoute (text pattern : String) (action : RouteAction) : Prop :=
  ∃ r, ofSnippet text = .ok { routes := [r] } ∧ r.pattern.source = pattern ∧ r.action = action

theorem isRoute_iff {text pattern : String} {action : RouteAction}
    (hpattern : (Pattern.compile? pattern).isSome) (htext : '\n' ∉ text.toList)
    (htrim : trim text.toList = text.toList) :
    IsRoute text pattern action ↔
      SnippetLine.parse? text.toList = some (.route pattern.toList action) := by
  obtain ⟨p, hp⟩ := Option.isSome_iff_exists.mp hpattern
  have hr : Route.compile (String.ofList pattern.toList) action = .ok { pattern := p, action } := by
    rw [String.ofList_toList, Route.compile, compilePattern, hp]
    rfl
  have hsource := (compile_eq_ok hr).1
  rw [String.ofList_toList] at hsource
  have hsingle := single_route_iff htext hr
  rw [htrim, hsource] at hsingle
  rw [← hsingle]
  constructor
  · rintro ⟨r, hok, hsame, haction⟩
    exact ⟨_, r, hok, rfl, hsame, haction⟩
  · intro h
    have hparse := hsingle.mp h
    refine ⟨_, ?_, hsource, rfl⟩
    rw [ofSnippet_of_line htext, htrim, hparse]
    simp only [addLine]
    rw [hr]
    rfl

/-- A line is kept as the route that it spells, for every pattern without blanks that can be
compiled, exactly if the pattern may begin a line and, unless the line runs a script, does not look
like a line that gives a script its name. -/
theorem kept_iff {p : String} (hne : p ≠ "") (hp : NoBlank p.toList)
    (hcompile : (Pattern.compile? p).isSome) :
    (∀ word kind, Reject.parse? word = some kind →
      (IsRoute (p ++ " url " ++ word) p (.reject kind) ↔
        MayBegin p.toList ∧ ¬ NamesScript p.toList))
    ∧ (∀ path : String, path ≠ "" → NoBlank path.toList →
      (IsRoute (p ++ " url script-response-body " ++ path) p
          (.script (String.ofList (SnippetLine.scriptName path.toList))) ↔ MayBegin p.toList))
    ∧ ∀ x : String, '\n' ∉ x.toList →
      (IsRoute (p ++ " mock-response-body data=\x7b" ++ x ++ "\x7d") p (.mock ("\x7b" ++ x ++ "\x7d")) ↔
        MayBegin p.toList ∧ ¬ NamesScript p.toList) := by
  have hpne : p.toList ≠ [] := fun h => hne (String.toList_eq_nil_iff.mp h)
  have hpline : '\n' ∉ p.toList := newline_not_mem_of_noBlank hp
  refine ⟨fun word kind hkind => ?reject, fun path hpathNe hpath => ?script, fun x hx => ?mock⟩
  case reject =>
    have hwords : ∀ word ∈ Reject.words, NoBlank word.toList ∧ word.toList ≠ [] := by decide
    obtain ⟨hword, hwne⟩ := hwords word (Reject.mem_words_of_parse? hkind)
    have htext : (p ++ " url " ++ word).toList = p.toList ++ ' ' :: ("url ".toList ++ word.toList) := by
      simp
    rw [isRoute_iff hcompile, htext]
    · exact SnippetLine.parse?_reject_iff hp hpne hkind
    · simp [hpline, newline_not_mem_of_noBlank hword]
    · rw [htext]
      exact trim_between hp hpne hword hwne " url ".toList
  case script =>
    have hpathNe' : path.toList ≠ [] := fun h => hpathNe (String.toList_eq_nil_iff.mp h)
    have htext : (p ++ " url script-response-body " ++ path).toList =
        p.toList ++ ' ' :: ("url script-response-body ".toList ++ path.toList) := by simp
    rw [isRoute_iff hcompile, htext]
    · exact SnippetLine.parse?_script_iff hp hpne hpath hpathNe'
    · simp [hpline, newline_not_mem_of_noBlank hpath]
    · rw [htext]
      exact trim_between hp hpne hpath hpathNe' " url script-response-body ".toList
  case mock =>
    have htext : (p ++ " mock-response-body data=\x7b" ++ x ++ "\x7d").toList =
        p.toList ++ ' ' :: ("mock-response-body data=\x7b".toList ++ (x.toList ++ ['\x7d'])) := by simp
    have hbody : "\x7b" ++ x ++ "\x7d" = String.ofList ('\x7b' :: (x.toList ++ ['\x7d'])) := by
      rw [← String.ofList_toList (s := "\x7b" ++ x ++ "\x7d")]
      simp
    rw [isRoute_iff hcompile, htext, hbody]
    · exact SnippetLine.parse?_mock_iff hp hpne hx
    · simp [hpline, hx]
    · rw [htext]
      have htrim := trim_between hp hpne (w := ['\x7d']) (by decide) (by simp)
        (" mock-response-body data=\x7b".toList ++ x.toList)
      simpa using htrim

/-- A pattern for locators: a line that rejects, one that runs a script and one that mocks. -/
theorem kept_locator :
    let p := "^https?://a\\.com/=[x]"
    IsRoute (p ++ " url " ++ "reject-dict") p (.reject .object)
      ∧ IsRoute (p ++ " url script-response-body " ++ "https://x.com/sign.js") p
        (.script (String.ofList (SnippetLine.scriptName "https://x.com/sign.js".toList)))
      ∧ IsRoute (p ++ " mock-response-body data=\x7b" ++ "\"a\": \x7b\x7d " ++ "\x7d") p
        (.mock ("\x7b" ++ "\"a\": \x7b\x7d " ++ "\x7d")) := by
  intro p
  have hcompile : (Pattern.compile? p).isSome := by decide +kernel
  have hbegin : MayBegin p.toList := ⟨by decide, by decide, by decide⟩
  have hplain : ¬ NamesScript p.toList := SnippetLine.not_namesScript_of_not_mem (by decide)
  obtain ⟨hreject, hscript, hmock⟩ := kept_iff (p := p) (by decide) (by decide) hcompile
  exact ⟨(hreject "reject-dict" .object rfl).mpr ⟨hbegin, hplain⟩,
    (hscript "https://x.com/sign.js" (by decide) (by decide)).mpr hbegin,
    (hmock "\"a\": \x7b\x7d " (by decide)).mpr ⟨hbegin, hplain⟩⟩

/-- A pattern without blanks that can be compiled and does not begin like a remark, but the line that
rejects by it does not. -/
def LosesReject (p : String) : Prop :=
  p ≠ "" ∧ NoBlank p.toList ∧ (Pattern.compile? p).isSome ∧ p.toList.head? ≠ some '#'
    ∧ ¬ IsRoute (p ++ " url reject") p (.reject .notFound)

/-- The routes of the line tell that it does not reject. -/
theorem losesReject_of_routes {p : String}
    (hpattern : p ≠ "" ∧ NoBlank p.toList ∧ (Pattern.compile? p).isSome
      ∧ p.toList.head? ≠ some '#')
    (hroutes : (ofSnippet (p ++ " url reject")).toOption.map (fun t => t.routes.map Route.action) ≠
      some [.reject .notFound]) : LosesReject p := by
  obtain ⟨hne, hblank, hcompile, hhead⟩ := hpattern
  refine ⟨hne, hblank, hcompile, hhead, ?_⟩
  rintro ⟨r, hok, -, haction⟩
  apply hroutes
  rw [hok]
  exact congrArg (fun a => some [a]) haction

/-- A pattern that begins like a title, one that begins like a line of hostnames, and one that looks
like a line that gives a script its name. -/
theorem not_kept_lookalikes : LosesReject "[a-z]" ∧ LosesReject "hostname=x"
    ∧ LosesReject "a=type=http-response,pattern=b,script-path=c" :=
  ⟨losesReject_of_routes (by decide +kernel) (by decide +kernel),
    losesReject_of_routes (by decide +kernel) (by decide +kernel),
    losesReject_of_routes (by decide +kernel) (by decide +kernel)⟩

end RoutingTable

end Intercept
