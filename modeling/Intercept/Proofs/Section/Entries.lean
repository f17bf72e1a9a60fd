import Intercept.Proofs.Hostnames.Line
import Intercept.Proofs.Section.Scripts
import Intercept.Proofs.Section.Tokens
import Intercept.Proofs.Sgmodule.LineSets
import Intercept.Proofs.Unicode.CaseMapping

/-!
# Intercept.Proofs.Section.Entries -- every entry shows that it is one

What stands in an entry besides fixed words is cut out of one line of the rules, so an entry is one
line. The fixed words hold a sign that no title of a section holds and that is no blank: a comma in
a rule, a dash or a letter in the rewrites, an equals sign in scripts and hostnames. So no entry can
be taken for a title, whatever the rules say, and none is blank.
-/

namespace Intercept.Section

open Intercept.Text
open Intercept.Unicode (isBlank lowercase)

/-- Characters of the fixed words in entries and directives. -/
def signs : List Char := [',', '-', '=', '#', '3', 'h']

/-- A text that is one line, and in which a sign stands. -/
structure Signed (cs : List Char) : Prop where
  oneLine : '\n' ∉ cs
  sign : ∃ c ∈ cs, c ∈ signs

variable {line entry : List Char}

/-! ## Lines that are read -/

theorem newline_not_mem_of_mem_activeLines {text : List Char} (h : line ∈ activeLines text) :
    '\n' ∉ line :=
  not_mem_of_mem_lines (mem_activeLines.mp h).1

/-- What is read line by line into entries that are signed is a list of signed entries. -/
theorem signed_of_mem_filterMap {read : List Char → Option (List Char)}
    (hread : ∀ {line entry}, '\n' ∉ line → read line = some entry → Signed entry)
    {text : List Char} (h : entry ∈ (activeLines text).filterMap read) : Signed entry := by
  obtain ⟨line, hline, hentry⟩ := List.mem_filterMap.mp h
  exact hread (newline_not_mem_of_mem_activeLines hline) hentry

theorem afterUrl?_subset {cs rest : List Char} (h : afterUrl? cs = some rest) : rest ⊆ cs := by
  obtain ⟨r, hr, hrest⟩ := Option.bind_eq_some_iff.mp h
  calc
    rest ⊆ r := afterBlanks?_subset hrest
    _ ⊆ trimStart cs := afterStr?_subset hr
    _ ⊆ cs := trimStart_subset cs

/-- The pattern of a line is part of the line, and so is what is read behind it. -/
theorem patternThen?_parts {α : Type} {read : List Char → Option α} {pattern : List Char} {a : α}
    (h : patternThen? read line = some (pattern, a)) :
    pattern ⊆ line ∧ ∃ rest, rest ⊆ line ∧ read rest = some a := by
  obtain ⟨⟨front, a'⟩, hread, hpair⟩ := Option.map_eq_some_iff.mp h
  cases hpair
  obtain ⟨back, rfl, hback⟩ := parts_of_readFirst? hread
  obtain ⟨rest, hrest, ha⟩ := Option.bind_eq_some_iff.mp hback
  exact ⟨List.subset_append_of_subset_left back (trim_subset front), rest,
    List.subset_append_of_subset_right front (afterUrl?_subset hrest), ha⟩

theorem wordThenRest?_parts {words : List String} {cs rest : List Char} {word : String}
    (h : wordThenRest? words cs = some (word, rest)) : word ∈ words ∧ rest ⊆ cs := by
  simp only [wordThenRest?, Option.bind_eq_bind, Option.bind_eq_some_iff] at h
  obtain ⟨⟨word', behind⟩, hword, r, hr, hpair⟩ := h
  cases hpair
  refine ⟨(oneOf?_eq_some hword).1, ?_⟩
  calc
    trim r ⊆ r := trim_subset r
    _ ⊆ behind := afterBlanks?_subset hr
    _ ⊆ cs := oneOf?_subset hword

/-! ## Filter rules -/

theorem signed_of_mem_filterEntries {text : List Char} (h : entry ∈ filterEntries text) :
    Signed entry := by
  obtain ⟨hmem, hrule⟩ := List.mem_filter.mp (mem_filterEntries.mp h)
  obtain ⟨line, hline, rfl⟩ := List.mem_map.mp hmem
  simp only [Bool.and_eq_true, namesFilter, List.any_eq_true] at hrule
  obtain ⟨-, type, htype, hcontains⟩ := hrule
  have hcomma : ∀ t ∈ filterTypes, ',' ∈ t.toList := by decide
  exact ⟨fun hfeed => not_mem_of_mem_lines hline (trim_subset line hfeed), ',',
    (infix_of_contains hcontains).subset (hcomma type htype), by decide⟩

/-! ## Rewrites of locators -/

theorem signed_rejectEntry? (hline : '\n' ∉ line) (h : rejectEntry? line = some entry) :
    Signed entry := by
  obtain ⟨⟨pattern, word⟩, hthen, rfl⟩ := Option.map_eq_some_iff.mp h
  obtain ⟨hpattern, rest, -, hword⟩ := patternThen?_parts hthen
  refine ⟨?_, '-', ?_, by decide⟩
  · apply List.not_mem_append
    · exact List.not_mem_append (fun hc => hline (hpattern hc)) (by decide)
    · exact newline_not_mem_rejectWord hword
  · exact List.mem_append_left _ (List.mem_append_right pattern (by decide))

theorem signed_redirectEntry? (hline : '\n' ∉ line) (h : redirectEntry? line = some entry) :
    Signed entry := by
  obtain ⟨⟨pattern, kind, target⟩, hthen, rfl⟩ := Option.map_eq_some_iff.mp h
  obtain ⟨hpattern, rest, hrest, hread⟩ := patternThen?_parts hthen
  obtain ⟨hkind, htarget⟩ := wordThenRest?_parts hread
  have hkinds : ∀ k ∈ ["302", "307", "header"],
      '\n' ∉ ' ' :: k.toList ∧ k.toList.any fun c => c ∈ signs := by decide
  obtain ⟨hfeed, hany⟩ := hkinds kind hkind
  obtain ⟨c, hc, hsign⟩ := List.any_eq_true.mp hany
  refine ⟨?_, c, by simp [hc], of_decide_eq_true hsign⟩
  apply List.not_mem_append
  · exact fun hmem => hline (hpattern hmem)
  · refine List.not_mem_cons_of_ne_of_not_mem (by decide) (List.not_mem_append ?_ hfeed)
    exact fun hmem => hline (hrest (htarget hmem))

theorem signed_of_mem_urlEntries {text : List Char} (h : entry ∈ urlEntries text) :
    Signed entry := by
  rcases List.mem_append.mp (mem_sortedUnique.mp h) with h | h
  · exact signed_of_mem_filterMap signed_rejectEntry? h
  · exact signed_of_mem_filterMap signed_redirectEntry? h

/-! ## Rewrites of headers -/

theorem newline_not_mem_deletedName {cs name : List Char} (hcs : '\n' ∉ cs)
    (h : deletedName? cs = some name) : '\n' ∉ name := by
  dsimp only [deletedName?] at h
  split at h
  · cases h
  · obtain ⟨_, -, rfl⟩ := Option.map_eq_some_iff.mp h
    exact fun hmem => hcs ((List.takeWhile_prefix _).subset hmem)

/-- A name to delete is read somewhere in what a line asks for. -/
theorem exists_of_headerChange? {body name : List Char}
    (h : headerChange? body = some (.delete name)) :
    ∃ front back, body = front ++ back ∧ deletedName? back = some name := by
  unfold headerChange? at h
  split at h
  · cases h
  · split at h
    · next front name hname =>
      cases h
      exact ⟨front, parts_of_readFirst? hname⟩
    · split at h <;> cases h

theorem newline_not_mem_headerChange {body : List Char} {change : HeaderChange}
    (hbody : '\n' ∉ body) (h : headerChange? body = some change) : '\n' ∉ change.write := by
  cases change with
  | delete name =>
    obtain ⟨front, back, rfl, hname⟩ := exists_of_headerChange? h
    have hback : '\n' ∉ back := fun hmem => hbody (List.mem_append_right front hmem)
    exact List.not_mem_append (by decide) (newline_not_mem_deletedName hback hname)
  | addTranslations => decide
  | replaceLanguage => decide

theorem signed_headerRule {r : HeaderRule} (hline : '\n' ∉ line) (h : headerRule? line = some r) :
    Signed r.write := by
  simp only [headerRule?, Option.bind_eq_bind, Option.bind_eq_some_iff] at h
  obtain ⟨⟨pattern, word, body⟩, hthen, change, hchange, hpair⟩ := h
  cases hpair
  obtain ⟨hpattern, rest, hrest, hread⟩ := patternThen?_parts hthen
  obtain ⟨-, hbody⟩ := wordThenRest?_parts hread
  have hphase : '\n' ∉ (phaseOfHeader word).toList ∧ 'h' ∈ (phaseOfHeader word).toList := by
    unfold phaseOfHeader
    split <;> decide
  refine ⟨?_, 'h', List.mem_append_left _ hphase.2, by decide⟩
  apply List.not_mem_append hphase.1
  apply List.not_mem_cons_of_ne_of_not_mem (by decide)
  apply List.not_mem_append
  · exact fun hmem => hline (hpattern hmem)
  · have hfeed : '\n' ∉ body := fun hmem => hline (hrest (hbody hmem))
    exact List.not_mem_cons_of_ne_of_not_mem (by decide)
      (newline_not_mem_headerChange hfeed hchange)

theorem mem_of_mem_firstPerKey {seen : List (List (List Char))} {entries : List (List Char)}
    (h : entry ∈ firstPerKey seen entries) : entry ∈ entries := by
  induction entries generalizing seen with
  | nil => cases h
  | cons e entries ih =>
    rw [firstPerKey] at h
    split at h
    · exact List.mem_cons_of_mem e (ih h)
    · rcases List.mem_cons.mp h with rfl | h
      · exact List.mem_cons_self
      · exact List.mem_cons_of_mem e (ih h)

theorem signed_of_mem_headerEntries {text : List Char} (h : entry ∈ headerEntries text) :
    Signed entry := by
  obtain ⟨r, hr, rfl⟩ := List.mem_map.mp (mem_of_mem_firstPerKey h)
  obtain ⟨rank, -, hrank⟩ := List.mem_flatMap.mp hr
  obtain ⟨line, hline, hrule⟩ := List.mem_filterMap.mp (List.mem_filter.mp hrank).1
  exact signed_headerRule (newline_not_mem_of_mem_activeLines hline) hrule

/-! ## Rewrites of bodies -/

/-- What is read of a line that changes a body by an expression, and what becomes of it. -/
theorem exists_of_expressionEntry? (h : expressionEntry? line = some entry) :
    ∃ pattern word expression,
      patternThen? (wordThenRest? ["jsonjq-response-body"]) line = some (pattern, word, expression)
        ∧ isSingleQuoted expression = true
        ∧ entry = "http-response-jq ".toList ++ pattern ++ ' ' :: expression := by
  unfold expressionEntry? at h
  simp only [Option.bind_eq_bind, Option.bind_eq_some_iff] at h
  obtain ⟨⟨pattern, word, expression⟩, hthen, hentry⟩ := h
  split at hentry
  · next hquoted =>
    cases hentry
    exact ⟨pattern, word, expression, hthen, hquoted, rfl⟩
  · cases hentry

theorem signed_expressionEntry? (hline : '\n' ∉ line) (h : expressionEntry? line = some entry) :
    Signed entry := by
  obtain ⟨pattern, word, expression, hthen, -, rfl⟩ := exists_of_expressionEntry? h
  obtain ⟨hpattern, rest, hrest, hread⟩ := patternThen?_parts hthen
  have hexpression := (wordThenRest?_parts hread).2
  refine ⟨?_, 'h', by simp, by decide⟩
  apply List.not_mem_append
  · exact List.not_mem_append (by decide) fun hmem => hline (hpattern hmem)
  · exact List.not_mem_cons_of_ne_of_not_mem (by decide)
      fun hmem => hline (hrest (hexpression hmem))

/-- Both texts of a replacement are words of what is read. -/
theorem replacementHalves?_parts {cs old new : List Char} {direction direction' : String}
    (h : replacementHalves? cs = some ((direction, old), (direction', new))) :
    old ⊆ cs ∧ new ⊆ cs ∧ NoBlank new := by
  simp only [replacementHalves?, Option.bind_eq_bind, Option.bind_eq_some_iff] at h
  obtain ⟨⟨_, behind⟩, ⟨⟨_, r₁⟩, hone, r₂, hblanks, ⟨_, r₃⟩, hword, hhalf⟩, r₄, hbetween,
    ⟨_, _⟩, ⟨⟨_, r₅⟩, hone', r₆, hblanks', ⟨_, r₇⟩, hword', hhalf'⟩, hpair⟩ := h
  cases hhalf
  cases hhalf'
  cases hpair
  obtain ⟨hold, hbehind⟩ := word?_subset hword
  have hfirst : r₂ ⊆ cs := List.Subset.trans (afterBlanks?_subset hblanks) (oneOf?_subset hone)
  have hsecond : r₆ ⊆ cs := calc
    r₆ ⊆ r₅ := afterBlanks?_subset hblanks'
    _ ⊆ r₄ := oneOf?_subset hone'
    _ ⊆ r₃ := afterBlanks?_subset hbetween
    _ ⊆ r₂ := hbehind
    _ ⊆ cs := hfirst
  exact ⟨List.Subset.trans hold hfirst, List.Subset.trans (word?_subset hword').1 hsecond,
    (word?_eq_some.mp hword').2.2.1⟩

/-- What is read of a line that replaces a text in a body, and what becomes of it. -/
theorem exists_of_replacementEntry? (h : replacementEntry? line = some entry) :
    ∃ pattern direction old new,
      patternThen? replacementHalves? line = some (pattern, (direction, old), (direction, new))
        ∧ entry = (if direction == "response-body" then "http-response" else "http-request").toList
          ++ ' ' :: (pattern ++ ' ' :: (old ++ ' ' :: new)) := by
  unfold replacementEntry? at h
  simp only [Option.bind_eq_bind, Option.bind_eq_some_iff] at h
  obtain ⟨⟨pattern, ⟨direction, old⟩, ⟨direction', new⟩⟩, hthen, hentry⟩ := h
  split at hentry
  · cases hentry
  · next hdirection =>
    cases hentry
    obtain rfl : direction = direction' := by simpa using hdirection
    exact ⟨pattern, direction, old, new, hthen, rfl⟩

theorem signed_replacementEntry? (hline : '\n' ∉ line) (h : replacementEntry? line = some entry) :
    Signed entry := by
  obtain ⟨pattern, direction, old, new, hthen, rfl⟩ := exists_of_replacementEntry? h
  obtain ⟨hpattern, rest, hrest, hread⟩ := patternThen?_parts hthen
  obtain ⟨hold, hnew, -⟩ := replacementHalves?_parts hread
  have hphase : ∀ b : Bool, '\n' ∉ (if b then "http-response" else "http-request").toList
      ∧ 'h' ∈ (if b then "http-response" else "http-request").toList := by decide
  obtain ⟨hfeed, hsign⟩ := hphase (direction == "response-body")
  have hblank : ∀ {cs : List Char}, '\n' ∉ cs → '\n' ∉ ' ' :: cs :=
    List.not_mem_cons_of_ne_of_not_mem (by decide)
  refine ⟨List.not_mem_append hfeed (hblank ?_), 'h', List.mem_append_left _ hsign, by decide⟩
  apply List.not_mem_append
  · exact fun hmem => hline (hpattern hmem)
  · apply hblank
    apply List.not_mem_append
    · exact fun hmem => hline (hrest (hold hmem))
    · exact hblank fun hmem => hline (hrest (hnew hmem))

theorem signed_of_mem_bodyEntries {text : List Char} (h : entry ∈ bodyEntries text) :
    Signed entry := by
  rcases List.mem_append.mp (mem_sortedUnique.mp h) with h | h
  · exact signed_of_mem_filterMap signed_expressionEntry? h
  · exact signed_of_mem_filterMap signed_replacementEntry? h

/-! ## Fixed bodies -/

theorem extractData_parts (params : List Char) :
    (extractData params).1 ⊆ params ∧ (extractData params).2 ⊆ params := by
  unfold extractData
  split
  · next front payload back hread =>
    obtain ⟨place, rfl, hplace⟩ := parts_of_readFirst? hread
    obtain ⟨rest, hrest, hpayload⟩ := Option.bind_eq_some_iff.mp hplace
    have heq := (payload?_eq_some_iff.mp hpayload).1
    have hsub : payload ++ back ⊆ front ++ place := by
      rw [← heq]
      apply List.subset_append_of_subset_right
      exact List.Subset.trans (trimStart_subset rest) (afterStr?_subset hrest)
    obtain ⟨hpayloadSub, hbackSub⟩ := List.append_subset.mp hsub
    constructor
    · exact List.Subset.trans (unquote_subset payload) hpayloadSub
    · exact List.append_subset.mpr ⟨List.subset_append_left front place, hbackSub⟩
  · exact ⟨List.nil_subset params, List.Subset.refl params⟩

theorem valueOf?_subset {key : String} {params value : List Char}
    (h : valueOf? key (tokens params) = some value) : value ⊆ params := by
  obtain ⟨t, ht, hvalue⟩ := List.exists_of_findSome?_eq_some h
  have htoken := subset_of_mem_tokens (List.mem_reverse.mp ht)
  split at hvalue
  · next k v hsplit =>
    split at hvalue
    · cases hvalue
      rw [splitOnce?_eq_some hsplit] at htoken
      exact fun c hc => htoken (List.mem_append_right k (List.mem_cons_of_mem '=' hc))
    · cases hvalue
  · cases hvalue

theorem mockLine?_parts {pattern params : List Char} (h : mockLine? line = some (pattern, params)) :
    pattern ⊆ line ∧ params ⊆ line := by
  obtain ⟨⟨front, rest⟩, hread, hpair⟩ := Option.map_eq_some_iff.mp h
  cases hpair
  obtain ⟨back, rfl, hback⟩ := parts_of_readFirst? hread
  obtain ⟨behind, hbehind, hrest⟩ := Option.bind_eq_some_iff.mp hback
  constructor
  · exact List.subset_append_of_subset_left back (trim_subset front)
  · apply List.subset_append_of_subset_right
    calc
      trim rest ⊆ rest := trim_subset rest
      _ ⊆ behind := afterBlanks?_subset hrest
      _ ⊆ trimStart back := afterStr?_subset hbehind
      _ ⊆ back := trimStart_subset back

theorem newline_not_mem_statusCode {given : Option (List Char)} {dataType : List Char}
    (hgiven : ∀ code, given = some code → '\n' ∉ code) : '\n' ∉ statusCode given dataType := by
  unfold statusCode
  split
  · next c code => exact hgiven (c :: code) rfl
  · split <;> decide

theorem newline_not_mem_contentType (dataType data : List Char) (isBase64 : Bool) :
    '\n' ∉ (contentType dataType data isBase64).toList := by
  have hall : ∀ bytes isText opens : Bool,
      '\n' ∉ (if bytes then "application/octet-stream"
        else if isText && opens then "application/json"
        else if isText then "text/plain" else "application/octet-stream").toList := by decide
  unfold contentType
  exact hall _ _ _

theorem signed_localEntry? (hline : '\n' ∉ line) (h : localEntry? line = some entry) :
    Signed entry := by
  have hentry := h
  unfold localEntry? at hentry
  simp only [Option.bind_eq_bind, Option.bind_eq_some_iff] at hentry
  obtain ⟨⟨pattern, params⟩, hmock, hentry⟩ := hentry
  obtain ⟨hpattern, hparams⟩ := mockLine?_parts hmock
  obtain ⟨hdata, hrest⟩ := extractData_parts params
  have hvalue : ∀ key code, valueOf? key (tokens (extractData params).2) = some code →
      '\n' ∉ code := fun key code hcode hmem =>
    hline (hparams (hrest (valueOf?_subset hcode hmem)))
  have htype : ∀ value : Option (List Char), (∀ code, value = some code → '\n' ∉ code) →
      '\n' ∉ lowercase (value.getD []) := by
    intro value h
    apply Unicode.newline_not_mem_lowercase
    cases value with
    | none => exact List.not_mem_nil
    | some code => exact h code rfl
  constructor
  case sign =>
    obtain ⟨type, tail, hsome⟩ := localEntry?_eq_some hmock
    rw [hsome] at h
    cases h
    exact ⟨'=', List.mem_append_right _ (List.mem_append_left _ (by decide)), by decide⟩
  case oneLine =>
    cases hentry
    -- From the end of the entry to its front.
    apply List.not_mem_append
    · apply List.not_mem_append
      · apply List.not_mem_append ?_ (by decide)
        apply List.not_mem_append ?_ fun hmem => hline (hparams (hdata hmem))
        apply List.not_mem_append ?_ (by decide)
        apply List.not_mem_append ?_ (htype _ (hvalue "data-type"))
        exact List.not_mem_append (fun hmem => hline (hpattern hmem)) (by decide)
      · split
        · exact List.not_mem_nil
        · exact List.not_mem_append (by decide)
            (newline_not_mem_statusCode (hvalue "status-code"))
    · split
      · exact List.not_mem_nil
      · apply List.not_mem_append ?_ (by decide)
        exact List.not_mem_append (by decide) (newline_not_mem_contentType _ _ _)

theorem signed_of_mem_localEntries {text : List Char} (h : entry ∈ localEntries text) :
    Signed entry :=
  signed_of_mem_filterMap signed_localEntry? (mem_sortedUnique.mp h)

/-! ## Scripts -/

theorem scriptLabel_subset (path : List Char) : scriptLabel path ⊆ path := by
  by_cases hslash : '/' ∈ path
  · obtain ⟨a, b, rfl, hb⟩ := exists_last hslash
    by_cases hnil : b = []
    · rw [hnil, scriptLabel_append_nil]
      exact List.Subset.refl _
    · rw [scriptLabel_append hb hnil]
      exact fun c hc => List.mem_append_right a
        (List.mem_cons_of_mem '/' ((fileLabel_front b).subset hc))
  · rw [scriptLabel_of_not_mem hslash]
    exact List.Subset.refl path

theorem scriptCall?_parts {cs path : List Char} {word : String}
    (h : scriptCall? cs = some (word, path)) : path ⊆ cs := by
  simp only [scriptCall?, Option.bind_eq_bind, Option.bind_eq_some_iff] at h
  obtain ⟨⟨_, behind⟩, hone, rest, hrest, ⟨_, _⟩, hpath, hpair⟩ := h
  cases hpair
  calc
    _ ⊆ rest := (word?_subset hpath).1
    _ ⊆ behind := afterBlanks?_subset hrest
    _ ⊆ cs := oneOf?_subset hone

theorem signed_scriptEntry? (hline : '\n' ∉ line) (h : scriptEntry? line = some entry) :
    Signed entry := by
  unfold scriptEntry? at h
  simp only [Option.bind_eq_bind, Option.bind_eq_some_iff] at h
  obtain ⟨⟨pattern, word, path⟩, hthen, hentry⟩ := h
  obtain ⟨hpattern, rest, hrest, hread⟩ := patternThen?_parts hthen
  have hpath : trimEndOf [','] path ⊆ line := calc
    trimEndOf [','] path ⊆ path := trimEndOf_subset (by decide) path
    _ ⊆ rest := scriptCall?_parts hread
    _ ⊆ line := hrest
  generalize trimEndOf [','] path = path at hpath hentry
  have hphase : ∀ b : Bool, '\n' ∉ (if b then "response" else "request").toList := by decide
  have hbody : ∀ b : Bool, '\n' ∉ (if b then "true" else "false").toList := by decide
  cases hentry
  rw [List.append_assoc]
  refine ⟨not_mem_join (by decide) fun part hpart => ?_, '=', ?_, by decide⟩
  · rcases List.mem_append.mp hpart with hpart | hpart
    · simp only [List.mem_cons, List.not_mem_nil, or_false] at hpart
      rcases hpart with rfl | rfl | rfl | rfl | rfl
      · apply List.not_mem_append ?_ (hphase _)
        exact List.not_mem_append (fun hmem => hline (hpath (scriptLabel_subset path hmem)))
          (by decide)
      · exact List.not_mem_append (by decide) fun hmem => hline (hpattern hmem)
      · exact List.not_mem_append (by decide) fun hmem => hline (hpath hmem)
      · exact List.not_mem_append (by decide) (hbody _)
      · decide
    · exact newline_not_mem_entryMore hpart
  · rw [List.cons_append, List.cons_append, join_cons_cons]
    exact List.mem_append_left _ (List.mem_append_left _ (List.mem_append_right _ (by decide)))

theorem signed_of_mem_scriptEntries {text : List Char} (h : entry ∈ scriptEntries text) :
    Signed entry :=
  signed_of_mem_filterMap signed_scriptEntry? (mem_sortedUnique.mp h)

/-! ## Intercepted hosts -/

theorem sharp_not_mem_hostnameLine {value : List Char} (h : hostnameLine? line = some value) :
    '#' ∉ value := by
  simp only [hostnameLine?, Option.bind_eq_bind, Option.bind_eq_some_iff] at h
  obtain ⟨_, -, rest, -, hvalue⟩ := h
  cases hvalue
  intro hmem
  exact absurd (List.mem_takeWhile_imp hmem) (by decide)

/-- No entry of the hostnames of a text would be cut in a line. -/
theorem allWhole_hostnamesOf (text : List Char) : (hostnamesOf text).AllWhole := by
  have hvalues : ∀ value ∈ (lines text).filterMap hostnameLine?, '#' ∉ value := by
    intro value hvalue
    obtain ⟨line, -, hline⟩ := List.mem_filterMap.mp hvalue
    exact sharp_not_mem_hostnameLine hline
  rw [hostnamesOf_eq]
  generalize (lines text).filterMap hostnameLine? = values at hvalues
  have hmerge : ∀ {h : Hostnames}, h.AllWhole → (mergeValues h values).AllWhole := by
    induction values with
    | nil => exact fun hh => hh
    | cons value values ih =>
      intro h hh
      have hvalue := Hostnames.allWhole_parse (hvalues value List.mem_cons_self)
      exact ih (fun v hv => hvalues v (List.mem_cons_of_mem value hv)) (hh.merge hvalue)
  exact hmerge Hostnames.allWhole_empty

theorem signed_of_mem_interceptionEntries {text : List Char}
    (h : entry ∈ interceptionEntries text) : Signed entry := by
  unfold interceptionEntries at h
  split at h
  · cases h
  · rw [List.mem_singleton] at h
    subst h
    refine ⟨List.not_mem_append (by decide) (not_mem_join (by decide) fun part hpart => ?_), '=',
      List.mem_append_left _ (by decide), by decide⟩
    obtain ⟨e, he, rfl⟩ := List.mem_map.mp hpart
    exact ((allWhole_hostnamesOf text).of_mem_entries he).oneLine

end Intercept.Section
