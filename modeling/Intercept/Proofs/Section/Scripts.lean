import Intercept.Proofs.Route.Entries
import Intercept.Proofs.Route.Named
import Intercept.Proofs.Text.Payload
import Intercept.Proofs.Text.Words

/-!
# Intercept.Proofs.Section.Scripts -- what a script line becomes

A line that runs a script has one form, and both a snippet and a section take the same pattern and
path from it. The entry of the line is a line that gives the script a name. A snippet and the entry
do not make the name of the path in the same way: the entry drops the commas at the end of the path
and, when it is read again, all `.js` at the end of the name. The two names are the same exactly for
paths that end in neither, nor in a slash.
-/

namespace Intercept

open Intercept.Text
open Intercept.Unicode (isBlank)

namespace Section

/-! ## The name in a path -/

theorem scriptLabel_of_not_mem {path : List Char} (h : '/' ∉ path) : scriptLabel path = path := by
  rw [scriptLabel, if_neg (by simpa using h)]

theorem scriptLabel_append_nil (a : List Char) : scriptLabel (a ++ ['/']) = a ++ ['/'] := by
  rw [scriptLabel, if_pos (by simp), afterLast_append (by simp)]

/-- The name that a file gives a script, unless nothing would be left of it. -/
def fileLabel (file : List Char) : List Char :=
  match before? ".js".toList file with
  | some (c :: name) => c :: name
  | _ => file

theorem scriptLabel_append {b : List Char} (hb : '/' ∉ b) (hne : b ≠ []) (a : List Char) :
    scriptLabel (a ++ '/' :: b) = fileLabel b := by
  obtain ⟨c, b', rfl⟩ := List.exists_cons_of_ne_nil hne
  rw [scriptLabel, if_pos (by simp), afterLast_append hb]
  rfl

theorem scriptName_append {b : List Char} (hb : '/' ∉ b) (a : List Char) :
    SnippetLine.scriptName (a ++ '/' :: b) = (before? ".js".toList b).getD b := by
  rw [SnippetLine.scriptName, afterLast_append hb]

theorem scriptName_of_not_mem {path : List Char} (h : '/' ∉ path) :
    SnippetLine.scriptName path = (before? ".js".toList path).getD path := by
  rw [SnippetLine.scriptName, afterLast_of_not_mem h]

theorem double_js (name : List Char) :
    ".js.js".toList <:+ name ++ ".js".toList ↔ ".js".toList <:+ name := by
  constructor
  · rintro ⟨t, ht⟩
    have hsame : (t ++ ".js".toList) ++ ".js".toList = name ++ ".js".toList := by
      rw [List.append_assoc]
      exact ht
    exact ⟨t, List.append_cancel_right hsame⟩
  · rintro ⟨t, rfl⟩
    exact ⟨t, by rw [List.append_assoc]; rfl⟩

theorem js_of_double {cs : List Char} (h : ".js.js".toList <:+ cs) : ".js".toList <:+ cs :=
  List.IsSuffix.trans ⟨".js".toList, rfl⟩ h

/-- Taking `.js` off once and as often as it stands there are the same unless it stands twice. -/
theorem trimEndOf_js (file : List Char) :
    trimEndOf ".js".toList file = (before? ".js".toList file).getD file ↔
      ¬ ".js.js".toList <:+ file := by
  cases h : before? ".js".toList file with
  | none =>
    rw [before?_eq_none] at h
    rw [Option.getD_none, trimEndOf_eq_self (by decide)]
    exact iff_of_true h fun hd => h (js_of_double hd)
  | some name =>
    rw [before?_eq_some] at h
    rw [Option.getD_some, h, trimEndOf_append_eq (by decide), double_js]

theorem trimEndOf_fileLabel (file : List Char) :
    trimEndOf ".js".toList (fileLabel file) = (before? ".js".toList file).getD file ↔
      ¬ ".js.js".toList <:+ file := by
  rw [fileLabel]
  split
  · next c name h =>
    rw [h, Option.getD_some, trimEndOf_eq_self (by decide), before?_eq_some.mp h, double_js]
  · exact trimEndOf_js file

theorem fileLabel_front (file : List Char) : fileLabel file <+: file := by
  rw [fileLabel]
  split
  · next h => exact ⟨_, (before?_eq_some.mp h).symm⟩
  · exact List.prefix_rfl

theorem fileLabel_ne_nil {file : List Char} (h : file ≠ []) : fileLabel file ≠ [] := by
  rw [fileLabel]
  split
  · simp
  · exact h

theorem noBlank_scriptLabel {path : List Char} (h : NoBlank path) : NoBlank (scriptLabel path) := by
  by_cases hslash : '/' ∈ path
  · obtain ⟨a, b, rfl, hb⟩ := exists_last hslash
    by_cases hnil : b = []
    · rw [hnil, scriptLabel_append_nil, ← hnil]
      exact h
    · rw [scriptLabel_append hb hnil]
      exact fun c hc => h c (List.mem_append_right a (List.mem_cons_of_mem '/'
        ((fileLabel_front b).subset hc)))
  · rwa [scriptLabel_of_not_mem hslash]

theorem scriptLabel_ne_nil {path : List Char} (h : path ≠ []) : scriptLabel path ≠ [] := by
  by_cases hslash : '/' ∈ path
  · obtain ⟨a, b, rfl, hb⟩ := exists_last hslash
    by_cases hnil : b = []
    · rw [hnil, scriptLabel_append_nil]
      simp
    · rw [scriptLabel_append hb hnil]
      exact fileLabel_ne_nil hnil
  · rwa [scriptLabel_of_not_mem hslash]

theorem trimEndOf_js_slash (a : List Char) :
    trimEndOf ".js".toList (a ++ ['/']) = a ++ ['/'] := by
  rw [trimEndOf_eq_self (by decide)]
  intro h
  exact absurd (List.suffix_nil.mp (suffix_of_not_mem (by decide) h)) (by decide)

/-- A name that is read from a path with commas at its end is longer than that of the entry. -/
theorem trimEndOf_scriptLabel_ne {path : List Char} (h : [','] <:+ path) :
    trimEndOf ".js".toList (scriptLabel (trimEndOf [','] path)) ≠ SnippetLine.scriptName path := by
  have hback : [','] ≠ [] := by decide
  obtain ⟨r, hr, hcommas⟩ := exists_trimEndOf hback path
  have hstop := not_suffix_trimEndOf hback path
  generalize trimEndOf [','] path = p at hr hstop
  subst hr
  have hrne : 0 < r.length := by
    rw [List.length_pos_iff]
    rintro rfl
    exact hstop (by simpa using h)
  have hrslash : '/' ∉ r := fun hmem => absurd (hcommas '/' hmem) (by decide)
  have hname : ∀ file, [','] <:+ file → (before? ".js".toList file).getD file = file := by
    intro file hfile
    -- Of two ends of one text the shorter ends the longer, and `.js` has no comma at its end.
    have hjs : ¬ ".js".toList <:+ file := fun hjs =>
      absurd (List.suffix_of_suffix_length_le hfile hjs (by decide)) (by decide)
    rw [before?_eq_none.mpr hjs, Option.getD_none]
  -- Commas hold no slash, so the last slash of the path stands in front of them.
  by_cases hslash : '/' ∈ p
  · obtain ⟨a, b, rfl, hb⟩ := exists_last hslash
    have hbr : '/' ∉ b ++ r := by simp [hb, hrslash]
    rw [List.append_assoc, List.cons_append] at h ⊢
    rw [scriptName_append hbr, hname _ (suffix_of_not_mem (by decide) h)]
    by_cases hnil : b = []
    · subst hnil
      rw [scriptLabel_append_nil, trimEndOf_js_slash]
      intro heq
      exact hbr (heq ▸ by simp)
    · rw [scriptLabel_append hb hnil]
      intro heq
      have hlen := congrArg List.length heq
      have htrim : (trimEndOf ".js".toList (fileLabel b)).length ≤ (fileLabel b).length :=
        length_trimEndOf_le (by decide) _
      have hfile := (fileLabel_front b).length_le
      rw [List.length_append] at hlen
      omega
  · have hpath : '/' ∉ p ++ r := by simp [hslash, hrslash]
    rw [scriptName_of_not_mem hpath, hname _ h, scriptLabel_of_not_mem hslash]
    intro heq
    have hlen := congrArg List.length heq
    have htrim : (trimEndOf ".js".toList p).length ≤ p.length := length_trimEndOf_le (by decide) p
    rw [List.length_append] at hlen
    omega

/-- The name in the entry, as it is read back, is the name of the script if the path ends neither
with a comma, nor with a slash, nor with `.js` twice. -/
theorem trimEndOf_scriptLabel {path : List Char} :
    trimEndOf ".js".toList (scriptLabel (trimEndOf [','] path)) = SnippetLine.scriptName path ↔
      ¬ [','] <:+ path ∧ ¬ ['/'] <:+ path ∧ ¬ ".js.js".toList <:+ path := by
  by_cases hcomma : [','] <:+ path
  · exact iff_of_false (trimEndOf_scriptLabel_ne hcomma) fun h => h.1 hcomma
  rw [(trimEndOf_eq_self (by simp)).mpr hcomma]
  by_cases hslash : '/' ∈ path
  · obtain ⟨a, b, rfl, hb⟩ := exists_last hslash
    have hdouble : ".js.js".toList <:+ a ++ '/' :: b ↔ ".js.js".toList <:+ b :=
      ⟨suffix_of_not_mem (by decide), fun h => h.trans ⟨a ++ ['/'], by simp⟩⟩
    rw [scriptName_append hb, hdouble]
    by_cases hnil : b = []
    · subst hnil
      rw [scriptLabel_append_nil, trimEndOf_js_slash]
      refine iff_of_false ?_ fun h => h.2.1 ⟨a, rfl⟩
      intro h
      have hlen := congrArg List.length h
      simp [before?, after?] at hlen
    · have hend : ¬ ['/'] <:+ a ++ '/' :: b := by
        intro h
        have hlast : ['/'] <:+ b := List.suffix_of_suffix_length_le h ⟨a ++ ['/'], by simp⟩
          (List.length_pos_iff.mpr hnil)
        exact hb (hlast.subset List.mem_cons_self)
      rw [scriptLabel_append hb hnil, trimEndOf_fileLabel]
      exact ⟨fun h => ⟨hcomma, hend, h⟩, fun h => h.2.2⟩
  · have hend : ¬ ['/'] <:+ path := fun h => hslash (h.subset List.mem_cons_self)
    rw [scriptLabel_of_not_mem hslash, scriptName_of_not_mem hslash, trimEndOf_js]
    exact ⟨fun h => ⟨hcomma, hend, h⟩, fun h => h.2.2⟩

/-! ## Lines that run scripts -/

/-- A line without blanks around it that runs a script: a pattern, the word `url`, a word for the
phase and part, the path of the script, and anything behind a blank. -/
def ScriptLine (line pattern path : List Char) : Prop :=
  ∃ gap gap' gap'' kind rest, pattern ≠ [] ∧ NoBlank pattern ∧ path ≠ [] ∧ NoBlank path
    ∧ (AllBlank gap ∧ gap ≠ []) ∧ (AllBlank gap' ∧ gap' ≠ []) ∧ (AllBlank gap'' ∧ gap'' ≠ [])
    ∧ kind ∈ SnippetLine.scriptKinds ∧ BlankFirst rest
    ∧ line = pattern ++ (gap ++ ("url".toList ++ (gap' ++ (kind.toList ++ (gap''
      ++ (path ++ rest))))))

/-- Each word for the phase and part of a script is read as itself, by a snippet and by a section. -/
theorem read_scriptKind {kind : String} (h : kind ∈ SnippetLine.scriptKinds) (rest : List Char) :
    trimStart (kind.toList ++ rest) = kind.toList ++ rest
      ∧ oneOf? SnippetLine.scriptKinds (kind.toList ++ rest) = some (kind, rest)
      ∧ oneOf? scriptWords (kind.toList ++ rest) = some (kind, rest) := by
  simp only [SnippetLine.scriptKinds, List.mem_cons, List.not_mem_nil, or_false] at h
  obtain rfl | rfl | rfl | rfl := h
  · exact ⟨rfl, rfl, rfl⟩
  · exact ⟨rfl, rfl, rfl⟩
  · exact ⟨rfl, rfl, rfl⟩
  · exact ⟨rfl, rfl, rfl⟩

theorem scriptCall?_append {kind : String} (hkind : kind ∈ SnippetLine.scriptKinds)
    {gap path rest : List Char} (hgap : AllBlank gap ∧ gap ≠ []) (hne : path ≠ [])
    (hpath : NoBlank path) (hrest : BlankFirst rest) :
    scriptCall? (kind.toList ++ (gap ++ (path ++ rest))) = some (kind, path) := by
  have hafter : word? (path ++ rest) = some (path, rest) :=
    word?_eq_some.mpr ⟨rfl, hne, hpath, hrest⟩
  rw [scriptCall?, (read_scriptKind hkind _).2.2]
  simp only [Option.bind_eq_bind, Option.bind_some]
  rw [afterBlanks?_append hgap.1 hgap.2, trimStart_append_of_noBlank hpath hne, Option.bind_some,
    hafter]
  rfl

theorem patternUrl?_of_scriptLine {line pattern path : List Char}
    (h : ScriptLine line pattern path) :
    ∃ gap kind rest, (AllBlank gap ∧ gap ≠ []) ∧ kind ∈ SnippetLine.scriptKinds ∧ BlankFirst rest
      ∧ SnippetLine.patternUrl? line = some (pattern, kind.toList ++ (gap ++ (path ++ rest))) := by
  obtain ⟨gap, gap', gap'', kind, rest, hpne, hp, hne, hpath, hgap, hgap', hgap'', hkind, hrest, rfl⟩ := h
  refine ⟨gap'', kind, rest, hgap'', hkind, hrest, ?_⟩
  have hword : word? (pattern ++ (gap ++ ("url".toList ++ (gap' ++ (kind.toList ++ (gap''
      ++ (path ++ rest))))))) = some (pattern, gap ++ ("url".toList ++ (gap' ++ (kind.toList ++ (gap''
      ++ (path ++ rest)))))) :=
    word?_eq_some.mpr ⟨rfl, hpne, hp, blankFirst_append_of_allBlank hgap.1 hgap.2⟩
  have hurl : ∀ r, trimStart ("url".toList ++ r) = "url".toList ++ r := fun _ => rfl
  rw [SnippetLine.patternUrl?, hword]
  simp only [Option.bind_eq_bind, Option.bind_some]
  rw [afterBlanks?_append hgap.1 hgap.2, hurl, Option.bind_some, afterStr?_append, Option.bind_some,
    afterBlanks?_append hgap'.1 hgap'.2, (read_scriptKind hkind _).1]
  rfl

/-- A line that runs a script is a route to the script that its path names. -/
theorem scriptRoute?_of_scriptLine {line pattern path : List Char}
    (h : ScriptLine line pattern path) : SnippetLine.scriptRoute? line =
      some (.route pattern (.script (String.ofList (SnippetLine.scriptName path)))) := by
  obtain ⟨gap, kind, rest, hgap, hkind, hrest, hurl⟩ := patternUrl?_of_scriptLine h
  obtain ⟨_, _, _, _, _, -, -, hne, hpath, -⟩ := h
  have hafter : word? (path ++ rest) = some (path, rest) :=
    word?_eq_some.mpr ⟨rfl, hne, hpath, hrest⟩
  rw [SnippetLine.scriptRoute?, hurl]
  simp only [Option.bind_eq_bind, Option.bind_some]
  rw [(read_scriptKind hkind _).2.1, Option.bind_some]
  simp only
  rw [afterBlanks?_append hgap.1 hgap.2, trimStart_append_of_noBlank hpath hne, Option.bind_some,
    hafter]
  rfl

/-- Only lines of that form are read so. -/
theorem exists_scriptLine {line : List Char} {l : SnippetLine}
    (h : SnippetLine.scriptRoute? line = some l) :
    ∃ pattern path, ScriptLine line pattern path
      ∧ l = .route pattern (.script (String.ofList (SnippetLine.scriptName path))) := by
  simp only [SnippetLine.scriptRoute?, Option.bind_eq_bind, Option.bind_eq_some_iff] at h
  obtain ⟨⟨pattern, body⟩, hurl, ⟨kind, behind⟩, hkind, rest, hrest, ⟨path, after⟩, hpath, hl⟩ := h
  cases hl
  obtain ⟨gap, behindUrl, hline, hpne, hpattern, hgap, hgne, hgapUrl, hbody⟩ :=
    SnippetLine.patternUrl?_eq_some hurl
  obtain ⟨lead, hlead, hgapEq⟩ := exists_trimStart gap
  obtain ⟨c, r, hc, rfl, rfl⟩ := afterBlanks?_eq_some.mp hbody
  obtain ⟨mid, hmid, hmidEq⟩ := exists_trimStart r
  obtain ⟨hmem, hword⟩ := oneOf?_eq_some hkind
  obtain ⟨d, r', hd, hbehind, rfl⟩ := afterBlanks?_eq_some.mp hrest
  obtain ⟨last, hlast, hlastEq⟩ := exists_trimStart r'
  obtain ⟨hwhole, hne, hpathBlank, hafter⟩ := word?_eq_some.mp hpath
  -- There are blanks in front of `url`, since the pattern ends with one.
  have hleadne : lead ≠ [] := by
    rintro rfl
    rw [List.nil_append, hgapUrl] at hgapEq
    exact absurd (hgap 'u' (by rw [hgapEq]; rfl)) (by decide)
  have hcons : ∀ {e : Char} {b : List Char}, isBlank e = true → AllBlank b → AllBlank (e :: b) :=
    fun he hb x hx => (List.mem_cons.mp hx).elim (fun h => h ▸ he) (hb x)
  refine ⟨pattern, path, ⟨lead, c :: mid, d :: last, kind, after, hpne, hpattern, hne, hpathBlank,
    ⟨hlead, hleadne⟩, ⟨hcons hc hmid, by simp⟩, ⟨hcons hd hlast, by simp⟩, hmem, hafter, ?_⟩, rfl⟩
  have hbehind' : behind = d :: (last ++ (path ++ after)) := by
    rw [← hwhole, ← hlastEq]
    exact hbehind
  have hr : r = mid ++ (kind.toList ++ behind) := by rw [← hword, ← hmidEq]
  rw [hline, hgapEq, hgapUrl, hr, hbehind']
  rfl

/-- The sections find the same pattern and path in the line. -/
theorem patternThen?_of_scriptLine {line pattern path : List Char}
    (h : ScriptLine (trim line) pattern path) :
    ∃ kind ∈ SnippetLine.scriptKinds,
      patternThen? scriptCall? line = some (pattern, kind, path) := by
  obtain ⟨gap, kind, rest, hgap, hkind, hrest, hurl⟩ := patternUrl?_of_scriptLine h
  obtain ⟨_, _, _, _, _, -, -, hne, hpath, -⟩ := h
  refine ⟨kind, hkind, SnippetLine.patternThen?_of_patternUrl? (fun _ => rfl) hurl (by simp [hne])
    fun b hb => ?_⟩
  simp only [List.append_assoc]
  exact scriptCall?_append hkind hgap hne hpath (blankFirst_append hrest hb)

/-! ## Entries are single lines -/

theorem isPayload_of_argument? {line a : List Char} (h : argument? line = some a) :
    IsPayload a := by
  obtain ⟨⟨front, payload⟩, hread, rfl⟩ := Option.map_eq_some_iff.mp h
  obtain ⟨back, -, hback⟩ := parts_of_readFirst? hread
  simp only [Option.bind_eq_bind, Option.bind_eq_some_iff] at hback
  obtain ⟨_, -, _, -, ⟨payload', rest⟩, hpayload, hpair⟩ := hback
  cases hpair
  exact (payload?_eq_some_iff.mp hpayload).2.1

theorem newline_not_mem_argument? {line a : List Char} (h : argument? line = some a) :
    '\n' ∉ a :=
  (isPayload_of_argument? h).newline_not_mem

theorem mem_of_binaryMode? {line : List Char} {mode : String} (h : binaryMode? line = some mode) :
    mode ∈ ["true", "false"] := by
  obtain ⟨⟨front, mode'⟩, hread, rfl⟩ := Option.map_eq_some_iff.mp h
  obtain ⟨back, -, hback⟩ := parts_of_readFirst? hread
  simp only [Option.bind_eq_bind, Option.bind_eq_some_iff] at hback
  obtain ⟨_, -, _, -, ⟨mode'', rest⟩, hmode, hpair⟩ := hback
  cases hpair
  exact (oneOf?_eq_some hmode).1

theorem newline_not_mem_binaryMode? {line : List Char} {mode : String}
    (h : binaryMode? line = some mode) : '\n' ∉ mode.toList := by
  have hmodes : ∀ mode ∈ ["true", "false"], '\n' ∉ mode.toList := by decide
  exact hmodes mode (mem_of_binaryMode? h)

theorem not_mem_join {c : Char} {sep : List Char} (hsep : c ∉ sep) {parts : List (List Char)}
    (hparts : ∀ part ∈ parts, c ∉ part) : c ∉ join sep parts := by
  induction parts with
  | nil => simp [join]
  | cons part parts ih =>
    have hpart := hparts part List.mem_cons_self
    have hrest := ih fun p hp => hparts p (List.mem_cons_of_mem part hp)
    cases parts with
    | nil => simpa [join] using hpart
    | cons next parts =>
      rw [join, List.intercalate_cons_cons, List.mem_append, List.mem_append]
      rintro ((h | h) | h)
      · exact hpart h
      · exact hsep h
      · exact hrest h

/-- What a script entry says behind the path. -/
def entryMore (line : List Char) : List (List Char) :=
  ((binaryMode? line).toList.map fun m => "binary-body-mode=".toList ++ m.toList)
    ++ (argument? line).toList.map fun a => "argument=".toList ++ a

theorem newline_not_mem_entryMore {line part : List Char} (h : part ∈ entryMore line) :
    '\n' ∉ part := by
  rw [entryMore, List.mem_append, List.mem_map, List.mem_map] at h
  obtain ⟨mode, hmode, rfl⟩ | ⟨a, ha, rfl⟩ := h
  · have hfree := newline_not_mem_binaryMode? (Option.mem_toList.mp hmode)
    rw [List.mem_append, not_or]
    exact ⟨by decide, hfree⟩
  · have hfree := newline_not_mem_argument? (Option.mem_toList.mp ha)
    rw [List.mem_append, not_or]
    exact ⟨by decide, hfree⟩

/-- The entry of a line that runs a script is one line: the name, a blank, and the kind, the pattern,
the path and more. -/
theorem scriptEntry?_of_scriptLine {line pattern path : List Char}
    (h : ScriptLine (trim line) pattern path) :
    ∃ kind ∈ SnippetLine.namedKinds, ∃ tail, '\n' ∉ tail
      ∧ scriptEntry? line = some (scriptLabel (trimEndOf [','] path)
        ++ ' ' :: SnippetLine.entryRest kind pattern (trimEndOf [','] path) tail) := by
  obtain ⟨word, hword, hthen⟩ := patternThen?_of_scriptLine h
  have hentry : ∀ phase body : String, phase ∈ ["response", "request"] → '\n' ∉ body.toList →
      ∃ kind ∈ SnippetLine.namedKinds, ∃ tail, '\n' ∉ tail ∧
        join ", ".toList ([
          scriptLabel (trimEndOf [','] path) ++ " =type=http-".toList ++ phase.toList,
          "pattern=".toList ++ pattern,
          "script-path=".toList ++ trimEndOf [','] path,
          "requires-body=".toList ++ body.toList,
          "max-size=0".toList] ++ entryMore line) =
        scriptLabel (trimEndOf [','] path)
          ++ ' ' :: SnippetLine.entryRest kind pattern (trimEndOf [','] path) tail := by
    intro phase body hphase hbody
    have htail : '\n' ∉ ' ' :: join ", ".toList (("requires-body=".toList ++ body.toList)
        :: "max-size=0".toList :: entryMore line) := by
      refine List.not_mem_cons_of_ne_of_not_mem (by decide) (not_mem_join (by decide) ?_)
      intro part hpart
      obtain rfl | hpart := List.mem_cons.mp hpart
      · rw [List.mem_append, not_or]
        exact ⟨by decide, hbody⟩
      · obtain rfl | hpart := List.mem_cons.mp hpart
        · decide
        · exact newline_not_mem_entryMore hpart
    simp only [List.mem_cons, List.not_mem_nil, or_false] at hphase
    simp only [List.cons_append, List.nil_append, join_cons_cons, List.append_assoc] at htail ⊢
    obtain rfl | rfl := hphase
    · exact ⟨"http-response", by decide, _, htail, rfl⟩
    · exact ⟨"http-request", by decide, _, htail, rfl⟩
  have hphase : ∀ b : Bool, (if b then "response" else "request") ∈ ["response", "request"] := by
    decide
  have hbody : ∀ b : Bool, '\n' ∉ (if b then "true" else "false").toList := by decide
  obtain ⟨kind, hkind, tail, htail, heq⟩ := hentry _ _ (hphase (responseWords.contains word))
    (hbody (bodyWords.contains word))
  refine ⟨kind, hkind, tail, htail, ?_⟩
  unfold scriptEntry?
  rw [hthen]
  simp only [Option.bind_eq_bind, Option.bind_some]
  rw [List.append_assoc]
  exact congrArg some heq

/-- The module of a single line has its entry and no other one. -/
theorem scriptEntries_of_line {line : List Char} (hline : '\n' ∉ line) {pattern : List Char}
    {action : RouteAction} (hparse : SnippetLine.parse? (trim line) = some (.route pattern action))
    {entry : List Char} (hentry : scriptEntry? line = some entry) :
    scriptEntries line = [entry] := by
  have hne : line ≠ [] := by
    rintro rfl
    cases hparse
  have hlines : lines line = [line] := lines_of_not_mem hline hne
  have hactive : activeLines line = [line] := by
    have hmem := SnippetLine.mem_activeLines_of_parse? (hlines ▸ List.mem_singleton_self line) hparse
    rw [activeLines, hlines] at hmem ⊢
    exact List.filter_eq_self.mpr fun l hl =>
      (List.mem_singleton.mp hl) ▸ (List.mem_filter.mp hmem).2
  rw [scriptEntries, hactive, List.filterMap_cons, hentry]
  exact sortedUnique_singleton entry

end Section

end Intercept
