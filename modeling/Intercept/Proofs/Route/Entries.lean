import Intercept.Proofs.Route.Lines
import Intercept.Proofs.Route.Snippet
import Intercept.Proofs.Section.RejectWord
import Intercept.Proofs.Sgmodule.Document
import Intercept.Proofs.Text.Sorted

/-!
# Intercept.Proofs.Route.Entries -- the routes of a snippet in its module

A text can be read as a snippet and be made into a module. Whatever mocks or rejects in the one does
so in the other: the module lists, under the pattern of the route, the body that the route puts in
place or a word for its way to reject.
-/

namespace Intercept

open Intercept.Text
open Intercept.Section (activeLines localEntry? localEntries rejectEntry? rejectWord? urlEntries)
open Intercept.Sgmodule (Listed listed_of_mem)

namespace SnippetLine

/-! ## Which form a route comes from -/

theorem exists_script_of_scriptRoute? {line : List Char} {l : SnippetLine}
    (h : scriptRoute? line = some l) : ∃ pattern name, l = .route pattern (.script name) := by
  simp only [scriptRoute?, Option.bind_eq_bind, Option.bind_eq_some_iff] at h
  obtain ⟨⟨pattern, _⟩, -, ⟨_, _⟩, -, _, -, ⟨path, _⟩, -, hl⟩ := h
  cases hl
  exact ⟨pattern, _, rfl⟩

theorem exists_script_of_namedScript? {line : List Char} {l : SnippetLine}
    (h : namedScript? line = some l) : ∃ pattern name, l = .route pattern (.script name) := by
  simp only [namedScript?, Option.bind_eq_bind, Option.bind_eq_some_iff] at h
  obtain ⟨⟨name, pattern⟩, -, hl⟩ := h
  cases hl
  exact ⟨pattern, _, rfl⟩

theorem rejectRoute?_eq_some {line : List Char} {l : SnippetLine} (h : rejectRoute? line = some l) :
    ∃ pattern body word rest kind, patternUrl? line = some (pattern, body)
      ∧ word? body = some (word, rest) ∧ Reject.parse? (String.ofList word) = some kind
      ∧ l = .route pattern (.reject kind) := by
  simp only [rejectRoute?, Option.bind_eq_bind, Option.bind_eq_some_iff] at h
  obtain ⟨⟨pattern, body⟩, hpattern, ⟨word, rest⟩, hword, hl⟩ := h
  split at hl
  · cases hl
  · obtain ⟨kind, hkind, hl⟩ := Option.bind_eq_some_iff.mp hl
    cases hl
    exact ⟨pattern, body, word, rest, kind, hpattern, hword, hkind, rfl⟩

/-- A line says what the first form that fits it says. -/
theorem parse?_eq_route {line pattern : List Char} {action : RouteAction}
    (h : parse? line = some (.route pattern action)) :
    isSilent line = false ∧ (scriptRoute? line = some (.route pattern action)
      ∨ namedScript? line = some (.route pattern action)
      ∨ rejectRoute? line = some (.route pattern action)
      ∨ mockRoute? line = some (.route pattern action)) := by
  rw [parse?] at h
  split at h
  · cases h
  · next hsilent =>
    refine ⟨by simpa using hsilent, ?_⟩
    split at h
    · cases h
    · rcases Option.or_eq_some_iff.mp h with h | ⟨-, h⟩
      · rcases Option.or_eq_some_iff.mp h with h | ⟨-, h⟩
        · rcases Option.or_eq_some_iff.mp h with h | ⟨-, h⟩
          · exact Or.inl h
          · exact Or.inr (Or.inl h)
        · exact Or.inr (Or.inr (Or.inl h))
      · exact Or.inr (Or.inr (Or.inr h))

theorem mockRoute?_of_parse? {line pattern : List Char} {body : String}
    (h : parse? line = some (.route pattern (.mock body))) :
    mockRoute? line = some (.route pattern (.mock body)) := by
  rcases (parse?_eq_route h).2 with h | h | h | h
  · obtain ⟨_, _, hl⟩ := exists_script_of_scriptRoute? h
    simp at hl
  · obtain ⟨_, _, hl⟩ := exists_script_of_namedScript? h
    simp at hl
  · obtain ⟨_, _, _, _, _, -, -, -, hl⟩ := rejectRoute?_eq_some h
    simp at hl
  · exact h

theorem rejectRoute?_of_parse? {line pattern : List Char} {kind : Reject}
    (h : parse? line = some (.route pattern (.reject kind))) :
    rejectRoute? line = some (.route pattern (.reject kind)) := by
  rcases (parse?_eq_route h).2 with h | h | h | h
  · obtain ⟨_, _, hl⟩ := exists_script_of_scriptRoute? h
    simp at hl
  · obtain ⟨_, _, hl⟩ := exists_script_of_namedScript? h
    simp at hl
  · exact h
  · obtain ⟨_, _, _, _, -, -, -, -, -, -, -, hl⟩ := mockRoute?_eq_some h
    simp at hl

/-- A line that is a route is not switched off for the sections either. -/
theorem mem_activeLines_of_parse? {line pattern : List Char} {action : RouteAction}
    {text : List Char} (hline : line ∈ lines text)
    (h : parse? (trim line) = some (.route pattern action)) : line ∈ activeLines text := by
  refine List.mem_filter.mpr ⟨hline, ?_⟩
  cases line with
  | nil => simp
  | cons c line =>
    have hsilent := (parse?_eq_route h).1
    rw [bne_iff_ne]
    intro hc
    rw [List.head?_cons, Option.some.injEq] at hc
    subst hc
    -- A comment sign is no blank, so the trimmed line begins with it too.
    rw [trim, trimStart_cons_of_not_blank (by decide), trimEnd_cons_of_not_blank (by decide)]
      at hsilent
    simp [isSilent] at hsilent

end SnippetLine

theorem Reject.mem_words_of_parse? {word : String} {kind : Reject}
    (h : Reject.parse? word = some kind) : word ∈ Reject.words := by
  unfold Reject.parse? at h
  split at h <;> simp [Reject.words] at h ⊢

namespace Section

/-! ## Entries that mock -/

/-- The entry of a mock line gives, after the pattern, the type of the data and the data. -/
theorem localEntry?_eq_some {line pattern params : List Char}
    (h : mockLine? line = some (pattern, params)) :
    ∃ type tail, localEntry? line = some (pattern ++ (" data-type=".toList ++ (type
      ++ (" data=\"".toList ++ ((extractData params).1 ++ ('"' :: tail)))))) := by
  have hassoc : ∀ a b type c data status header : List Char,
      a ++ b ++ type ++ c ++ data ++ ['"'] ++ status ++ header
        = a ++ (b ++ (type ++ (c ++ (data ++ '"' :: (status ++ header))))) := by simp
  unfold localEntry?
  rw [h]
  exact ⟨_, _, congrArg some (hassoc _ _ _ _ _ _ _)⟩

theorem localEntry?_ne_nil {line entry : List Char} (h : localEntry? line = some entry) :
    entry ≠ [] := by
  cases hm : mockLine? line with
  | none =>
    unfold localEntry? at h
    rw [hm] at h
    cases h
  | some p =>
    obtain ⟨pattern, params⟩ := p
    obtain ⟨type, tail, hentry⟩ := localEntry?_eq_some hm
    rw [hentry, Option.some.injEq] at h
    rw [← h]
    simp

theorem nil_not_mem_localEntries (text : List Char) : [] ∉ localEntries text := by
  rw [localEntries, mem_sortedUnique, List.mem_filterMap]
  rintro ⟨line, -, h⟩
  exact localEntry?_ne_nil h rfl

/-! ## Entries that reject -/

/-- A word that rejects is read whole, with the part behind its dash. -/
theorem rejectWord?_of_parse? {word rest : List Char} {kind : Reject}
    (h : Reject.parse? (String.ofList word) = some kind) (hrest : BlankFirst rest) :
    rejectWord? (word ++ rest) = some (String.ofList word) := by
  have hread := longestReject_append (Reject.mem_words_of_parse? h) hrest
  rw [String.toList_ofList] at hread
  exact rejectWord?_eq_some_iff.mpr hread

theorem rejectEntry?_of_rejectRoute? {line pattern : List Char} {kind : Reject}
    (h : SnippetLine.rejectRoute? (trim line) = some (.route pattern (.reject kind))) :
    ∃ word, Reject.parse? word = some kind
      ∧ rejectEntry? line = some (pattern ++ (" - ".toList ++ word.toList)) := by
  obtain ⟨pattern', body, word, rest, kind', hpattern, hword, hkind, hl⟩ :=
    SnippetLine.rejectRoute?_eq_some h
  cases hl
  obtain ⟨hbody, hne, -, hrest⟩ := word?_eq_some.mp hword
  have hread : ∀ b, AllBlank b → rejectWord? (body ++ b) = some (String.ofList word) := by
    intro b hb
    rw [hbody, List.append_assoc, rejectWord?_of_parse? hkind (blankFirst_append hrest hb)]
  have hthen := SnippetLine.patternThen?_of_patternUrl? (fun _ => rfl) hpattern
    (by rw [hbody]; simp [hne]) hread
  refine ⟨String.ofList word, hkind, ?_⟩
  unfold rejectEntry?
  rw [hthen]
  simp

theorem nil_not_mem_urlEntries (text : List Char) : [] ∉ urlEntries text := by
  simp only [urlEntries, mem_sortedUnique, List.mem_append, List.mem_filterMap]
  rintro (⟨line, -, h⟩ | ⟨line, -, h⟩)
  · obtain ⟨p, -, hp⟩ := Option.map_eq_some_iff.mp h
    simp at hp
  · obtain ⟨p, -, hp⟩ := Option.map_eq_some_iff.mp h
    simp at hp

end Section

namespace RoutingTable

/-! ## Routes and entries -/

/-- What a snippet mocks is listed with its pattern and body in the module of the same text, and
what it rejects with its pattern and a word for the same way to reject. A pattern that holds the
word for mocking itself is left out for mocks. -/
theorem routes_listed {text : String} {t : RoutingTable} (h : ofSnippet text = .ok t) {r : Route}
    (hr : r ∈ t.routes) (name : List Char) (made : Stamp) :
    (∀ body, r.action = .mock body →
      ¬ "mock-response-body".toList <:+: r.pattern.source.toList →
      ∃ type tail, Listed name made text.toList "Map Local"
        (r.pattern.source.toList ++ (" data-type=".toList ++ (type ++ (" data=\"".toList
          ++ (body.toList ++ ('"' :: tail)))))))
    ∧ ∀ kind, r.action = .reject kind →
      ∃ word, Reject.parse? word = some kind
        ∧ Listed name made text.toList "URL Rewrite"
          (r.pattern.source.toList ++ (" - ".toList ++ word.toList)) := by
  obtain ⟨line, hline, hparse⟩ := exists_line_of_mem_routes h hr
  have hactive := SnippetLine.mem_activeLines_of_parse? hline hparse
  refine ⟨fun body hbody hfree => ?_, fun kind hkind => ?_⟩
  · rw [hbody] at hparse
    obtain ⟨pattern, gap, rest, params, htrim, hpne, hpattern, hgap, -, hword, hparams, hl⟩ :=
      SnippetLine.mockRoute?_eq_some (SnippetLine.mockRoute?_of_parse? hparse)
    simp only [SnippetLine.route.injEq, RouteAction.mock.injEq] at hl
    obtain ⟨rfl, rfl⟩ := hl
    -- The section reads the same pattern and parameters from the line before it is trimmed.
    have hmock := SnippetLine.mockLine?_of_mockRoute? htrim hpne hpattern hgap hword hparams
      fun a b hab => hfree ⟨a, b, by rw [hab, List.append_assoc]⟩
    obtain ⟨type, tail, hentry⟩ := Section.localEntry?_eq_some hmock
    have hdata : (String.ofList (Section.extractData params).1).toList
        = (Section.extractData params).1 := String.toList_ofList
    refine ⟨type, tail, ?_⟩
    rw [hdata]
    refine listed_of_mem (s := ⟨"Map Local".toList, localEntries text.toList⟩)
      (by simp [Sgmodule.sections]) (Section.nil_not_mem_localEntries _) rfl ?_ name made
    exact mem_sortedUnique.mpr (List.mem_filterMap.mpr ⟨line, hactive, hentry⟩)
  · rw [hkind] at hparse
    obtain ⟨word, hword, hentry⟩ :=
      Section.rejectEntry?_of_rejectRoute? (SnippetLine.rejectRoute?_of_parse? hparse)
    refine ⟨word, hword, ?_⟩
    refine listed_of_mem (s := ⟨"URL Rewrite".toList, urlEntries text.toList⟩)
      (by simp [Sgmodule.sections]) (Section.nil_not_mem_urlEntries _) rfl ?_ name made
    exact mem_sortedUnique.mpr
      (List.mem_append_left _ (List.mem_filterMap.mpr ⟨line, hactive, hentry⟩))

/-- An indented mock whose pattern ends in `url`, and a pattern that is the word `url`. -/
theorem routes_listed_url :
    ∃ t, ofSnippet "\t xurl  mock-response-body  data=[1] \nurl url reject-img" = .ok t
      ∧ (∃ r ∈ t.routes, r.pattern.source = "xurl" ∧ r.action = .mock "[1]"
        ∧ ¬ "mock-response-body".toList <:+: r.pattern.source.toList
        ∧ ∃ type tail, Listed [] default
          "\t xurl  mock-response-body  data=[1] \nurl url reject-img".toList "Map Local"
          (r.pattern.source.toList ++ (" data-type=".toList ++ (type ++ (" data=\"".toList
            ++ ("[1]".toList ++ ('"' :: tail)))))))
      ∧ ∃ r ∈ t.routes, r.pattern.source = "url" ∧ r.action = .reject .empty
        ∧ ∃ word, Reject.parse? word = some .empty ∧ Listed [] default
          "\t xurl  mock-response-body  data=[1] \nurl url reject-img".toList "URL Rewrite"
          (r.pattern.source.toList ++ (" - ".toList ++ word.toList)) := by
  have hroutes :
      (ofSnippet "\t xurl  mock-response-body  data=[1] \nurl url reject-img").toOption.map
          (fun t => t.routes.map fun r => (r.pattern.source, r.action))
        = some [("xurl", .mock "[1]"), ("url", .reject .empty)] := by decide +kernel
  cases ht : ofSnippet "\t xurl  mock-response-body  data=[1] \nurl url reject-img" with
  | error fault =>
    rw [ht] at hroutes
    cases hroutes
  | ok t =>
    rw [ht] at hroutes
    have hmap : t.routes.map (fun r => (r.pattern.source, r.action))
        = [("xurl", .mock "[1]"), ("url", .reject .empty)] := Option.some.inj hroutes
    have hread : ∀ p ∈ [("xurl", RouteAction.mock "[1]"), ("url", .reject .empty)],
        ∃ r ∈ t.routes, r.pattern.source = p.1 ∧ r.action = p.2 := by
      intro p hp
      rw [← hmap] at hp
      obtain ⟨r, hr, rfl⟩ := List.mem_map.mp hp
      exact ⟨r, hr, rfl, rfl⟩
    obtain ⟨mocked, hmocked, hmock⟩ := hread _ List.mem_cons_self
    obtain ⟨rejected, hrejected, hreject⟩ := hread _ (List.mem_cons_of_mem _ List.mem_cons_self)
    have hfree : ¬ "mock-response-body".toList <:+: mocked.pattern.source.toList := by
      rw [hmock.1]
      decide
    exact ⟨t, rfl,
      ⟨mocked, hmocked, hmock.1, hmock.2, hfree,
        (routes_listed ht hmocked [] default).1 "[1]" hmock.2 hfree⟩,
      rejected, hrejected, hreject.1, hreject.2,
      (routes_listed ht hrejected [] default).2 .empty hreject.2⟩

end RoutingTable

end Intercept
