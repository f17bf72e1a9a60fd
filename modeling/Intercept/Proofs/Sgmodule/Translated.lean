import Intercept.Proofs.Sgmodule.Framing

/-!
# Intercept.Proofs.Sgmodule.Translated -- rewrite lines that become entries

A line of a pattern, the word `url` and what is to be done is read with the whole pattern, whatever
the pattern is made of and whatever follows: at an earlier place the word `url` at the end of the
pattern would have the real one as its operand. Sorting the entries drops none of them, so each such
line has its entry in the module.
-/

namespace Intercept

open Intercept.Text

namespace Section

variable {p : List Char}

/-- A line with single blanks around the word `url` is read with the pattern in front of it. -/
theorem patternThen?_url {α : Type} {read : List Char → Option α}
    (hread : ∀ rest, read ("url".toList ++ rest) = none) (hp : NoBlank p) (hne : p ≠ [])
    {body : List Char} {a : α} (ha : read (trimStart body) = some a) :
    patternThen? read (p ++ (" url ".toList ++ body)) = some (p, a) := by
  have hgap : trimStart (" url ".toList ++ body) = "url".toList ++ (' ' :: body) := rfl
  exact SnippetLine.patternThen?_append hread allBlank_nil hp hne (blankFirst_cons.mpr (by decide))
    (by simp) hgap (afterBlanks?_cons (by decide) body) ha

/-! ## The four forms -/

theorem redirectEntry?_url (hp : NoBlank p) (hne : p ≠ []) {kind : String}
    (hkind : kind ∈ ["302", "307", "header"]) (target : List Char) :
    redirectEntry? (p ++ (" url ".toList ++ (kind.toList ++ ' ' :: target))) =
      some (p ++ ' ' :: (trim target ++ ' ' :: kind.toList)) := by
  have hread : wordThenRest? ["302", "307", "header"] (trimStart (kind.toList ++ ' ' :: target)) =
      some (kind, trim target) := by
    have hrest : trim (trimStart target) = trim target := trim_trimStart target
    obtain rfl | rfl | rfl : kind = "302" ∨ kind = "307" ∨ kind = "header" := by simpa using hkind
    all_goals exact congrArg (fun t => some (_, t)) hrest
  unfold redirectEntry?
  rw [patternThen?_url (fun _ => rfl) hp hne hread]
  rfl

theorem trim_quoted (e : List Char) : trim ('\'' :: (e ++ ['\''])) = '\'' :: (e ++ ['\'']) :=
  trim_between (p := ['\'']) (w := ['\'']) (by decide) (by simp) (by decide) (by simp) e

theorem isSingleQuoted_quoted (e : List Char) : isSingleQuoted ('\'' :: (e ++ ['\''])) = true := by
  simp [isSingleQuoted]

theorem expressionEntry?_url (hp : NoBlank p) (hne : p ≠ []) (e : List Char) :
    expressionEntry? (p ++ (" url ".toList ++ ("jsonjq-response-body ".toList
        ++ '\'' :: (e ++ ['\''])))) =
      some ("http-response-jq ".toList ++ p ++ ' ' :: '\'' :: (e ++ ['\''])) := by
  have hread : wordThenRest? ["jsonjq-response-body"]
      (trimStart ("jsonjq-response-body ".toList ++ '\'' :: (e ++ ['\'']))) =
        some ("jsonjq-response-body", '\'' :: (e ++ ['\''])) :=
    congrArg (fun t => some (_, t)) (trim_quoted e)
  unfold expressionEntry?
  rw [patternThen?_url (fun _ => rfl) hp hne hread]
  simp only [Option.bind_eq_bind, Option.bind_some]
  rw [isSingleQuoted_quoted]
  rfl

/-- Two halves with the same direction are read as such; the texts are single words. -/
theorem replacementHalves?_append {direction : String}
    (hdirection : direction ∈ ["response-body", "request-body"]) {old new : List Char}
    (hold : NoBlank old) (holdNe : old ≠ []) (hnew : NoBlank new) (hnewNe : new ≠ []) :
    replacementHalves? (direction.toList ++ ' ' :: (old ++ ' ' :: (direction.toList ++ ' ' :: new))) =
      some ((direction, old), (direction, new)) := by
  have hblanks : ∀ r, afterBlanks? (' ' :: r) = some (trimStart r) :=
    fun r => afterBlanks?_cons (by decide) r
  have holdRead : ∀ r, word? (trimStart (old ++ ' ' :: r)) = some (old, ' ' :: r) := by
    intro r
    rw [trimStart_append_of_noBlank hold holdNe]
    exact word?_eq_some.mpr ⟨rfl, holdNe, hold, blankFirst_cons.mpr (by decide)⟩
  have hnewRead : word? (trimStart new) = some (new, []) := by
    have hstart : trimStart new = new := by simpa using trimStart_append_of_noBlank hnew hnewNe []
    rw [hstart]
    exact word?_eq_some.mpr ⟨(List.append_nil new).symm, hnewNe, hnew, blankFirst_nil⟩
  have hword : ∀ r, oneOf? ["response-body", "request-body"] (direction.toList ++ r) =
      some (direction, r) ∧ trimStart (direction.toList ++ r) = direction.toList ++ r := by
    intro r
    obtain rfl | rfl : direction = "response-body" ∨ direction = "request-body" := by
      simpa using hdirection
    all_goals exact ⟨rfl, rfl⟩
  simp only [replacementHalves?, Option.bind_eq_bind, (hword _).1, (hword _).2, Option.bind_some,
    hblanks, holdRead, hnewRead, Option.pure_def]

theorem replacementEntry?_url (hp : NoBlank p) (hne : p ≠ []) {direction : String}
    (hdirection : direction ∈ ["response-body", "request-body"]) {old new : List Char}
    (hold : NoBlank old) (holdNe : old ≠ []) (hnew : NoBlank new) (hnewNe : new ≠ []) :
    replacementEntry? (p ++ (" url ".toList ++ (direction.toList ++ ' ' :: (old
        ++ ' ' :: (direction.toList ++ ' ' :: new))))) =
      some ((if direction == "response-body" then "http-response" else "http-request").toList
        ++ ' ' :: (p ++ ' ' :: (old ++ ' ' :: new))) := by
  have hstart : ∀ r, trimStart (direction.toList ++ r) = direction.toList ++ r := by
    intro r
    obtain rfl | rfl : direction = "response-body" ∨ direction = "request-body" := by
      simpa using hdirection
    all_goals rfl
  have hread := replacementHalves?_append hdirection hold holdNe hnew hnewNe
  rw [← hstart] at hread
  unfold replacementEntry?
  rw [patternThen?_url (fun _ => rfl) hp hne hread]
  simp

theorem infix_join (first part second req : List Char) (rest : List (List Char)) :
    ", ".toList ++ part ++ ", ".toList ++ second ++ ", ".toList <:+:
      join ", ".toList (first :: part :: second :: req :: rest) :=
  ⟨first, join ", ".toList (req :: rest), by simp only [join_cons_cons, List.append_assoc]⟩

/-- A line that runs a script has an entry with its pattern and path. -/
theorem scriptEntry?_url (hp : NoBlank p) (hne : p ≠ []) {kind : String}
    (hkind : kind ∈ SnippetLine.scriptKinds) {path : List Char} (hpath : NoBlank path)
    (hpne : path ≠ []) (hcomma : ¬ [','] <:+ path) :
    ∃ entry, scriptEntry? (p ++ (" url ".toList ++ (kind.toList ++ ' ' :: path))) = some entry
      ∧ ", pattern=".toList ++ p ++ ", script-path=".toList ++ path ++ ", ".toList <:+: entry := by
  have hform : ScriptLine (trim (p ++ (" url ".toList ++ (kind.toList ++ ' ' :: path)))) p path := by
    have htrim := trim_between hp hne hpath hpne (" url ".toList ++ (kind.toList ++ [' ']))
    simp only [List.append_assoc, List.cons_append, List.nil_append] at htrim
    rw [htrim]
    exact ⟨[' '], [' '], [' '], kind, [], hne, hp, hpne, hpath, by decide, by decide, by decide,
      hkind, blankFirst_nil, by simp⟩
  obtain ⟨word, -, hthen⟩ := patternThen?_of_scriptLine hform
  have hself : trimEndOf [','] path = path := (trimEndOf_eq_self (by decide)).mpr hcomma
  unfold scriptEntry?
  rw [hthen]
  simp only [Option.bind_eq_bind, Option.bind_some, hself]
  refine ⟨_, rfl, ?_⟩
  have hsplit : ", pattern=".toList ++ p ++ ", script-path=".toList ++ path ++ ", ".toList =
      ", ".toList ++ ("pattern=".toList ++ p) ++ ", ".toList ++ ("script-path=".toList ++ path)
        ++ ", ".toList := by simp
  rw [hsplit]
  exact infix_join _ _ _ _ _

end Section

namespace Sgmodule

/-! ## Entries in the module -/

/-- What is in a section stands in it: no entry is an empty line. -/
theorem listed_of_mem_entries {s : Section} {text : List Char} (hs : s ∈ sections text)
    {title : String} (htitle : s.title = title.toList) {entry : List Char}
    (hentry : entry ∈ s.entries) (name : List Char) (made : Stamp) :
    Listed name made text title entry :=
  listed_of_mem hs (fun h => ne_nil_of_signed (signed_of_mem_sections hs h) rfl) htitle hentry name
    made

/-- Every rewrite line with single blanks between its words has its entry in its section of the
module, whatever else is in the text: lines that redirect, that change the body by an expression or
by a replacement, and that run scripts. -/
theorem rewrites_listed {text line p : List Char} (hline : line ∈ lines text) (hp : NoBlank p)
    (hne : p ≠ []) (hhash : p.head? ≠ some '#') (name : List Char) (made : Stamp) :
    (∀ kind ∈ ["302", "307", "header"], ∀ target, target ≠ [] →
      line = p ++ (" url ".toList ++ (kind.toList ++ ' ' :: target)) →
      Listed name made text "URL Rewrite" (p ++ ' ' :: (trim target ++ ' ' :: kind.toList)))
    ∧ (∀ e, line = p ++ (" url ".toList ++ ("jsonjq-response-body ".toList ++ '\'' :: (e ++ ['\'']))) →
      Listed name made text "Body Rewrite"
        ("http-response-jq ".toList ++ p ++ ' ' :: '\'' :: (e ++ ['\''])))
    ∧ (∀ direction ∈ ["response-body", "request-body"], ∀ old new, NoBlank old → old ≠ [] →
      NoBlank new → new ≠ [] →
      line = p ++ (" url ".toList ++ (direction.toList ++ ' ' :: (old
        ++ ' ' :: (direction.toList ++ ' ' :: new)))) →
      Listed name made text "Body Rewrite"
        ((if direction == "response-body" then "http-response" else "http-request").toList
          ++ ' ' :: (p ++ ' ' :: (old ++ ' ' :: new))))
    ∧ (∀ kind ∈ SnippetLine.scriptKinds, ∀ path, NoBlank path → path ≠ [] → ¬ [','] <:+ path →
      line = p ++ (" url ".toList ++ (kind.toList ++ ' ' :: path)) →
      ∃ entry, Listed name made text "Script" entry
        ∧ ", pattern=".toList ++ p ++ ", script-path=".toList ++ path ++ ", ".toList <:+: entry) := by
  have hactive : ∀ rest, line = p ++ rest → line ∈ Section.activeLines text := by
    rintro rest rfl
    refine Section.mem_activeLines.mpr ⟨hline, ?_⟩
    obtain ⟨c, p', rfl⟩ := List.exists_cons_of_ne_nil hne
    simpa using hhash
  have hurl : ∀ entry ∈ Section.urlEntries text, Listed name made text "URL Rewrite" entry :=
    fun entry hentry => listed_of_mem_entries (s := ⟨"URL Rewrite".toList, Section.urlEntries text⟩)
      (by simp [sections]) rfl hentry name made
  have hbody : ∀ entry ∈ Section.bodyEntries text, Listed name made text "Body Rewrite" entry :=
    fun entry hentry => listed_of_mem_entries (s := ⟨"Body Rewrite".toList, Section.bodyEntries text⟩)
      (by simp [sections]) rfl hentry name made
  have hscript : ∀ entry ∈ Section.scriptEntries text, Listed name made text "Script" entry :=
    fun entry hentry => listed_of_mem_entries (s := ⟨"Script".toList, Section.scriptEntries text⟩)
      (by simp [sections]) rfl hentry name made
  refine ⟨fun kind hkind target _ heq => hurl _ ?redirect,
    fun e heq => hbody _ ?expression,
    fun direction hdirection old new hold holdNe hnew hnewNe heq =>
      hbody _ ?replacement,
    fun kind hkind path hpath hpne hcomma heq => ?script⟩
  case redirect =>
    exact mem_sortedUnique.mpr (List.mem_append_right _ (List.mem_filterMap.mpr
      ⟨line, hactive _ heq, heq ▸ Section.redirectEntry?_url hp hne hkind target⟩))
  case expression =>
    exact mem_sortedUnique.mpr (List.mem_append_left _ (List.mem_filterMap.mpr
      ⟨line, hactive _ heq, heq ▸ Section.expressionEntry?_url hp hne e⟩))
  case replacement =>
    exact mem_sortedUnique.mpr (List.mem_append_right _ (List.mem_filterMap.mpr
      ⟨line, hactive _ heq,
        heq ▸ Section.replacementEntry?_url hp hne hdirection hold holdNe hnew hnewNe⟩))
  case script =>
    obtain ⟨entry, hentry, hparts⟩ := Section.scriptEntry?_url hp hne hkind hpath hpne hcomma
    have hmem : entry ∈ Section.scriptEntries text :=
      mem_sortedUnique.mpr (List.mem_filterMap.mpr ⟨line, hactive _ heq, heq ▸ hentry⟩)
    exact ⟨entry, hscript entry hmem, hparts⟩

/-- A pattern that ends in `url`, with operands that look like the rest of a line. -/
theorem rewrites_listed_url :
    let p := "/a?url".toList
    let redirecting := p ++ (" url ".toList ++ ("302".toList ++ ' ' :: " x url 307 ".toList))
    let expressing := p ++ (" url ".toList ++ ("jsonjq-response-body ".toList
      ++ '\'' :: (" url".toList ++ ['\''])))
    let replacing := p ++ (" url ".toList ++ ("request-body".toList ++ ' ' :: ("url".toList
      ++ ' ' :: ("request-body".toList ++ ' ' :: "302".toList))))
    let running := p ++ (" url ".toList ++ ("script-request-header".toList ++ ' ' :: "url".toList))
    Listed [] default redirecting "URL Rewrite" (p ++ ' ' :: ("x url 307".toList ++ " 302".toList))
      ∧ Listed [] default expressing "Body Rewrite"
        ("http-response-jq ".toList ++ p ++ ' ' :: '\'' :: (" url".toList ++ ['\'']))
      ∧ Listed [] default replacing "Body Rewrite"
        ("http-request".toList ++ ' ' :: (p ++ ' ' :: ("url".toList ++ ' ' :: "302".toList)))
      ∧ ∃ entry, Listed [] default running "Script" entry
        ∧ ", pattern=".toList ++ p ++ ", script-path=".toList ++ "url".toList ++ ", ".toList
          <:+: entry := by
  intro p redirecting expressing replacing running
  have hp : NoBlank p := by decide
  have hself : ∀ cs : List Char, '\n' ∉ cs → cs ≠ [] → cs ∈ lines cs :=
    fun cs h hne => by rw [lines_of_not_mem h hne]; exact List.mem_singleton_self cs
  have hread : ∀ line, '\n' ∉ line → line ≠ [] → _ := fun line h hne =>
    rewrites_listed (hself line h hne) hp (by decide) (by decide) [] default
  have htarget : trim " x url 307 ".toList = "x url 307".toList := by decide
  have hredirect := (hread redirecting (by decide) (by decide)).1 "302" (by decide)
    " x url 307 ".toList (by decide) rfl
  rw [htarget] at hredirect
  exact ⟨hredirect,
    (hread expressing (by decide) (by decide)).2.1 " url".toList rfl,
    (hread replacing (by decide) (by decide)).2.2.1 "request-body" (by decide) "url".toList
      "302".toList (by decide) (by decide) (by decide) (by decide) rfl,
    (hread running (by decide) (by decide)).2.2.2 "script-request-header" (by decide) "url".toList
      (by decide) (by decide) (by decide) rfl⟩

/-- The texts of a replacement must not be empty: with nothing between the two blanks, the second
direction is read as the text to replace, and no direction follows. -/
theorem not_listed_empty :
    NoBlank [] ∧ NoBlank "b".toList ∧ "a".toList ≠ [] ∧ NoBlank "a".toList
      ∧ "a".toList.head? ≠ some '#'
      ∧ "a".toList ++ " url response-body ".toList ++ [] ++ " response-body ".toList ++ "b".toList
        ∈ lines "a url response-body  response-body b".toList
      ∧ ¬ Listed [] default "a url response-body  response-body b".toList "Body Rewrite"
        ("http-response a ".toList ++ [] ++ " b".toList) := by
  refine ⟨by decide, by decide, by decide, by decide, by decide, by decide +kernel, ?_⟩
  rintro ⟨before, between, after, hdocument, -⟩
  have htitle : '[' :: ("Body Rewrite".toList ++ [']']) ∈
      documentLines [] default "a url response-body  response-body b".toList := by
    rw [hdocument]
    exact List.mem_append_right before List.mem_cons_self
  have hfree : '[' :: ("Body Rewrite".toList ++ [']']) ∉
      documentLines [] default "a url response-body  response-body b".toList := by decide +kernel
  exact hfree htitle

end Sgmodule

end Intercept
