import Intercept.Proofs.Section.Entries
import Intercept.Proofs.Text.Returns

/-!
# Intercept.Proofs.Sgmodule.Lookalikes -- entries that look like the time of a module

The line that says when a module was made is known by what it begins with, and an entry may begin so
too: one that opens with the pattern of an indented line, or one that opens with the name of a
script. All other entries open with a fixed word or are rules, which no number sign opens. Besides,
every entry ends with a sign or a word, save for one that ends with a status code. That may hold
blanks behind a double quote, so it may end with a carriage return, which is taken for a part of the
line end.
-/

namespace Intercept.Sgmodule

open Intercept.Text Intercept.Section

variable {line entry pattern params front back : List Char} {c : Char}

/-- A line that is found again as it is when the lines of a module are read and the one with the time
is left out. -/
structure Kept (line : List Char) : Prop where
  front : ¬ descMark <+: line
  back : ¬ EndsInReturn line

/-! ## What an entry begins with -/

theorem not_descMark_of_head? (hc : line.head? = some c) (hne : c ≠ '#') : ¬ descMark <+: line := by
  rintro ⟨rest, rfl⟩
  exact hne (Option.some.inj hc).symm

theorem descMark_prefix_append_cons (hc : c ∉ descMark) (a b : List Char) :
    descMark <+: a ++ c :: b ↔ descMark <+: a := by
  constructor
  · rintro ⟨rest, hrest⟩
    rcases List.append_eq_append_iff.mp hrest with ⟨m, ha, -⟩ | ⟨m, hmark, hcons⟩
    · exact ⟨m, ha.symm⟩
    · cases m with
      | nil => exact ⟨[], by simpa using hmark⟩
      | cons d m =>
        obtain ⟨rfl, -⟩ := List.cons.inj hcons
        exact absurd (hmark ▸ List.mem_append_right a List.mem_cons_self) hc
  · exact fun h => h.trans (List.prefix_append a _)

/-- An entry with a space in it is kept according to what stands in front of the space and behind. -/
theorem kept_append_iff (front rest : List Char) :
    Kept (front ++ ' ' :: rest) ↔ ¬ descMark <+: front ∧ ¬ EndsInReturn rest := by
  rw [← descMark_prefix_append_cons (c := ' ') (by decide) front rest,
    ← endsInReturn_append_cons (a := front) (b := rest) (c := ' ') (by decide)]
  exact ⟨fun h => ⟨h.front, h.back⟩, fun h => ⟨h.1, h.2⟩⟩

/-- The trimmed front of a line begins with the mark exactly if the line does behind its blanks,
provided that the front ends where something begins that is no part of the mark. -/
theorem descMark_prefix_trim_iff (hback : (trimStart back).head? = some c) (hc : c ∉ descMark) :
    descMark <+: trim front ↔ descMark <+: trimStart (front ++ back) := by
  have hmark : NoBlank descMark := by decide
  constructor
  · rintro ⟨rest, hrest⟩
    obtain ⟨x, y, hx, -, hfront⟩ := exists_trim front
    rw [hfront, ← hrest, List.append_assoc, trimStart_append_of_allBlank hx, List.append_assoc,
      List.append_assoc, trimStart_append_of_noBlank hmark (by decide)]
    exact List.prefix_append descMark _
  · rintro ⟨rest, hrest⟩
    obtain ⟨x, hx, hline⟩ := exists_trimStart (front ++ back)
    rw [← hrest, ← List.append_assoc] at hline
    have hread : ∀ m, front = x ++ descMark ++ m → descMark <+: trim front := by
      rintro m rfl
      rw [List.append_assoc, trim_append_of_allBlank hx, trim,
        trimStart_append_of_noBlank hmark (by decide)]
      exact prefix_trimEnd_append hmark m
    rcases List.append_eq_append_iff.mp hline with ⟨m, hfront, hrest'⟩ | ⟨m, hfront, -⟩
    · -- The front ends within the mark or in front of it, unless it ends right behind it.
      by_cases hm : m = []
      · exact hread [] (by rw [List.append_nil, hfront, hm, List.append_nil])
      · obtain ⟨w₁, w₂, hsplit, hne, htrim⟩ := exists_part_of_word hx hmark (by decide) hm hfront
        obtain ⟨d, w, rfl⟩ := List.exists_cons_of_ne_nil hne
        rw [hrest', htrim] at hback
        obtain rfl : d = c := Option.some.inj hback
        exact absurd (hsplit ▸ List.mem_append_right w₁ List.mem_cons_self) hc
    · exact hread m hfront

/-- The pattern of a line that is read behind the word `url`. -/
theorem descMark_prefix_pattern_iff {α : Type} {read : List Char → Option α} {a : α}
    (h : patternThen? read line = some (pattern, a)) :
    descMark <+: pattern ↔ descMark <+: trimStart line := by
  obtain ⟨⟨front, _⟩, hread, hpair⟩ := Option.map_eq_some_iff.mp h
  cases hpair
  obtain ⟨back, rfl, hback⟩ := parts_of_readFirst? hread
  obtain ⟨rest, hrest, -⟩ := Option.bind_eq_some_iff.mp hback
  obtain ⟨behind, hbehind, -⟩ := Option.bind_eq_some_iff.mp hrest
  refine descMark_prefix_trim_iff (c := 'u') ?_ (by decide)
  rw [afterStr?_eq_some.mp hbehind]
  rfl

theorem descMark_prefix_mockPattern_iff (h : mockLine? line = some (pattern, params)) :
    descMark <+: pattern ↔ descMark <+: trimStart line := by
  obtain ⟨⟨front, _⟩, hread, hpair⟩ := Option.map_eq_some_iff.mp h
  cases hpair
  obtain ⟨back, rfl, hback⟩ := parts_of_readFirst? hread
  obtain ⟨behind, hbehind, -⟩ := Option.bind_eq_some_iff.mp hback
  refine descMark_prefix_trim_iff (c := 'm') ?_ (by decide)
  rw [afterStr?_eq_some.mp hbehind]
  rfl

/-! ## Entries that are always kept -/

theorem kept_of_mem_filterEntries {text : List Char} (h : entry ∈ filterEntries text) :
    Kept entry := by
  obtain ⟨hmem, hrule⟩ := List.mem_filter.mp (mem_filterEntries.mp h)
  obtain ⟨line, -, rfl⟩ := List.mem_map.mp hmem
  simp only [Bool.and_eq_true, bne_iff_ne] at hrule
  refine ⟨?_, not_endsInReturn_trim line⟩
  rintro ⟨rest, hrest⟩
  exact hrule.1.2 (hrest ▸ rfl)

theorem kept_of_mem_headerEntries {text : List Char} (h : entry ∈ headerEntries text) :
    Kept entry := by
  obtain ⟨r, hr, rfl⟩ := List.mem_map.mp (mem_of_mem_firstPerKey h)
  obtain ⟨rank, -, hrank⟩ := List.mem_flatMap.mp hr
  obtain ⟨line, -, hrule⟩ := List.mem_filterMap.mp (List.mem_filter.mp hrank).1
  simp only [headerRule?, Option.bind_eq_bind, Option.bind_eq_some_iff] at hrule
  obtain ⟨⟨pattern, word, body⟩, -, change, hchange, hpair⟩ := hrule
  cases hpair
  have hphase : (phaseOfHeader word).toList.head? = some 'h' := by
    unfold phaseOfHeader
    split <;> rfl
  have hend : ¬ EndsInReturn change.write := by
    cases change with
    | addTranslations => decide
    | replaceLanguage => decide
    | delete name =>
      obtain ⟨before, behind, -, hname⟩ := exists_of_headerChange? hchange
      dsimp only [deletedName?] at hname
      split at hname
      · cases hname
      · obtain ⟨_, -, rfl⟩ := Option.map_eq_some_iff.mp hname
        refine not_endsInReturn_append (by decide) (not_endsInReturn_of_not_mem fun hmem => ?_)
        exact absurd (List.mem_takeWhile_imp hmem) (by decide)
  refine (kept_append_iff _ _).mpr ⟨not_descMark_of_head? hphase (by decide), ?_⟩
  rwa [endsInReturn_append_cons (by decide)]

theorem not_endsInReturn_of_isSingleQuoted {cs : List Char} (h : isSingleQuoted cs = true) :
    ¬ EndsInReturn cs := by
  unfold isSingleQuoted at h
  split at h
  · rw [beq_iff_eq] at h
    simp [EndsInReturn, List.getLast?_cons, h]
  · cases h

theorem kept_expressionEntry (h : expressionEntry? line = some entry) : Kept entry := by
  obtain ⟨pattern, _, expression, -, hquoted, rfl⟩ := exists_of_expressionEntry? h
  refine ⟨not_descMark_of_head? (c := 'h') rfl (by decide), ?_⟩
  rw [endsInReturn_append_cons (by decide)]
  exact not_endsInReturn_of_isSingleQuoted hquoted

theorem kept_replacementEntry (h : replacementEntry? line = some entry) : Kept entry := by
  obtain ⟨pattern, direction, old, new, hthen, rfl⟩ := exists_of_replacementEntry? h
  obtain ⟨-, rest, -, hread⟩ := patternThen?_parts hthen
  have hphase : ∀ b : Bool,
      (if b then "http-response" else "http-request").toList.head? = some 'h' := by decide
  refine (kept_append_iff _ _).mpr ⟨not_descMark_of_head? (hphase _) (by decide), ?_⟩
  rw [endsInReturn_append_cons (by decide), endsInReturn_append_cons (by decide)]
  exact not_endsInReturn_of_noBlank (replacementHalves?_parts hread).2.2

theorem kept_of_mem_bodyEntries {text : List Char} (h : entry ∈ bodyEntries text) :
    Kept entry := by
  rcases List.mem_append.mp (mem_sortedUnique.mp h) with h | h
  · obtain ⟨line, -, hentry⟩ := List.mem_filterMap.mp h
    exact kept_expressionEntry hentry
  · obtain ⟨line, -, hentry⟩ := List.mem_filterMap.mp h
    exact kept_replacementEntry hentry

theorem kept_of_mem_interceptionEntries {text : List Char}
    (h : entry ∈ interceptionEntries text) : Kept entry := by
  unfold interceptionEntries at h
  split at h
  · cases h
  · rw [List.mem_singleton] at h
    subst h
    refine ⟨not_descMark_of_head? (c := 'h') rfl (by decide), ?_⟩
    refine not_endsInReturn_append (by decide)
      (not_endsInReturn_join (by decide) fun part hpart => ?_)
    obtain ⟨e, he, rfl⟩ := List.mem_map.mp hpart
    exact not_endsInReturn_of_noBlank ((allWhole_hostnamesOf text).of_mem_entries he).noBlank

/-! ## Entries that open with a pattern -/

theorem kept_rejectEntry_iff (h : rejectEntry? line = some entry) :
    Kept entry ↔ ¬ descMark <+: trimStart line := by
  obtain ⟨⟨pattern, word⟩, hthen, rfl⟩ := Option.map_eq_some_iff.mp h
  obtain ⟨-, rest, -, hword⟩ := patternThen?_parts hthen
  have hback : ¬ EndsInReturn ("- ".toList ++ word.toList) :=
    not_endsInReturn_append (by decide)
      (not_endsInReturn_of_noBlank (noBlank_rejectWord (rejectWord?_eq_some_iff.mp hword).mem))
  rw [← descMark_prefix_pattern_iff hthen]
  show Kept (pattern ++ " - ".toList ++ word.toList) ↔ _
  rw [List.append_assoc]
  exact (kept_append_iff _ _).trans (and_iff_left hback)

theorem kept_redirectEntry_iff (h : redirectEntry? line = some entry) :
    Kept entry ↔ ¬ descMark <+: trimStart line := by
  obtain ⟨⟨pattern, kind, target⟩, hthen, rfl⟩ := Option.map_eq_some_iff.mp h
  obtain ⟨-, rest, -, hread⟩ := patternThen?_parts hthen
  have hkinds : ∀ k ∈ ["302", "307", "header"], ¬ EndsInReturn k.toList := by decide
  have hback : ¬ EndsInReturn (target ++ ' ' :: kind.toList) := by
    rw [endsInReturn_append_cons (by decide)]
    exact hkinds kind (wordThenRest?_parts hread).1
  rw [← descMark_prefix_pattern_iff hthen]
  exact (kept_append_iff _ _).trans (and_iff_left hback)

/-- A line with a fixed body that gives a header, so that its entry ends with the status code, and a
status code that ends with a carriage return. -/
def Cut (line : List Char) : Prop :=
  ∃ pattern params code, mockLine? line = some (pattern, params) ∧
    (valueOf? "header" (tokens (extractData params).2)).isSome ∧
    valueOf? "status-code" (tokens (extractData params).2) = some code ∧ EndsInReturn code

theorem endsInReturn_statusCode_iff {given : Option (List Char)} (dataType : List Char) :
    EndsInReturn (statusCode given dataType) ↔ ∃ code, given = some code ∧ EndsInReturn code := by
  unfold statusCode
  split
  · next c code => simp
  · next hnone =>
    refine iff_of_false (by split <;> decide) ?_
    rintro ⟨code, rfl, hcode⟩
    cases code with
    | nil => exact absurd hcode (by decide)
    | cons c code => exact hnone c code rfl

/-- What a mock line becomes ends with the status code and the header. -/
theorem endsInReturn_status_iff (code header : List Char) (given : Bool)
    (hheader : ¬ EndsInReturn header) (hne : header ≠ []) :
    EndsInReturn ((if code.isEmpty then [] else " status-code=".toList ++ code) ++
      if given then [] else header) ↔ given ∧ EndsInReturn code := by
  cases given with
  | false =>
    rw [if_neg Bool.false_ne_true, endsInReturn_append_of_ne_nil hne]
    exact iff_of_false hheader fun h => Bool.false_ne_true h.1
  | true =>
    rw [if_pos rfl, List.append_nil]
    cases code with
    | nil => simp [EndsInReturn]
    | cons c code =>
      rw [if_neg (by simp), endsInReturn_append_of_ne_nil (List.cons_ne_nil c code)]
      exact (and_iff_right rfl).symm

theorem kept_localEntry_iff (h : localEntry? line = some entry) :
    Kept entry ↔ ¬ descMark <+: trimStart line ∧ ¬ Cut line := by
  have hassoc : ∀ a type c data status header : List Char,
      a ++ " data-type=".toList ++ type ++ c ++ data ++ ['"'] ++ status ++ header
        = a ++ ' ' :: (("data-type=".toList ++ type ++ c ++ data) ++ '"' :: (status ++ header)) := by
    simp
  unfold localEntry? at h
  simp only [Option.bind_eq_bind, Option.bind_eq_some_iff] at h
  obtain ⟨⟨pattern, params⟩, hmock, hentry⟩ := h
  have hcut : Cut line ↔ (valueOf? "header" (tokens (extractData params).2)).isSome ∧
      ∃ code, valueOf? "status-code" (tokens (extractData params).2) = some code ∧
        EndsInReturn code := by
    unfold Cut
    rw [hmock]
    constructor
    · rintro ⟨_, _, code, hpair, hheader, hcode⟩
      cases hpair
      exact ⟨hheader, code, hcode⟩
    · rintro ⟨hheader, code, hcode⟩
      exact ⟨pattern, params, code, rfl, hheader, hcode⟩
  cases hentry
  rw [hassoc, kept_append_iff, endsInReturn_append_cons (by decide), endsInReturn_status_iff,
    endsInReturn_statusCode_iff, ← hcut, descMark_prefix_mockPattern_iff hmock]
  · rw [endsInReturn_append_of_ne_nil (List.cons_ne_nil _ _)]
    decide
  · simp

/-! ## Entries that open with the name of a script -/

theorem not_endsInReturn_payload {v : List Char} (h : IsPayload v) : ¬ EndsInReturn v := by
  obtain ⟨first, mid, last, rfl, hlast, -⟩ := h
  have hall : ∀ q ∈ closings, q.2 ≠ '\r' := by decide
  intro hreturn
  rw [← List.cons_append, EndsInReturn, List.getLast?_concat] at hreturn
  exact hall (first, last) hlast (Option.some.inj hreturn)

theorem not_endsInReturn_of_mem_entryMore {part : List Char} (h : part ∈ entryMore line) :
    ¬ EndsInReturn part := by
  have hmodes : ∀ mode ∈ ["true", "false"], ¬ EndsInReturn mode.toList := by decide
  rw [entryMore, List.mem_append, List.mem_map, List.mem_map] at h
  obtain ⟨mode, hmode, rfl⟩ | ⟨a, ha, rfl⟩ := h
  · exact not_endsInReturn_append (by decide)
      (hmodes mode (mem_of_binaryMode? (Option.mem_toList.mp hmode)))
  · exact not_endsInReturn_append (by decide)
      (not_endsInReturn_payload (isPayload_of_argument? (Option.mem_toList.mp ha)))

theorem noBlank_of_scriptCall? {cs path : List Char} {word : String}
    (h : scriptCall? cs = some (word, path)) : NoBlank path := by
  simp only [scriptCall?, Option.bind_eq_bind, Option.bind_eq_some_iff] at h
  obtain ⟨⟨_, _⟩, -, _, -, ⟨_, _⟩, hpath, hpair⟩ := h
  cases hpair
  exact (word?_eq_some.mp hpath).2.2.1

theorem not_endsInReturn_pattern {α : Type} {read : List Char → Option α} {a : α}
    (h : patternThen? read line = some (pattern, a)) : ¬ EndsInReturn pattern := by
  obtain ⟨⟨front, _⟩, -, hpair⟩ := Option.map_eq_some_iff.mp h
  cases hpair
  exact not_endsInReturn_trim front

/-- Parts with commas between them are kept if none of them ends with a carriage return, unless the
first one begins with the mark. -/
theorem kept_join_iff {first rest : List Char} {parts : List (List Char)}
    (hfirst : first = front ++ ' ' :: rest)
    (hparts : ∀ part ∈ first :: parts, ¬ EndsInReturn part) :
    Kept (join ", ".toList (first :: parts)) ↔ ¬ descMark <+: front := by
  have hback : ¬ EndsInReturn (join ", ".toList (first :: parts)) :=
    not_endsInReturn_join (by decide) hparts
  obtain ⟨more, hmore⟩ := exists_join_cons ", ".toList first parts
  rw [hmore, hfirst, List.append_assoc, List.cons_append] at hback ⊢
  rw [endsInReturn_append_cons (by decide)] at hback
  exact (kept_append_iff _ _).trans (and_iff_left hback)

theorem kept_scriptEntry_iff {word : String} {path : List Char}
    (hthen : patternThen? scriptCall? line = some (pattern, word, path))
    (h : scriptEntry? line = some entry) :
    Kept entry ↔ ¬ descMark <+: scriptLabel (trimEndOf [','] path) := by
  obtain ⟨-, rest, -, hread⟩ := patternThen?_parts hthen
  have hpath : NoBlank (trimEndOf [','] path) :=
    noBlank_trimEndOf (by decide) (noBlank_of_scriptCall? hread)
  have hphase : ∀ b : Bool, ¬ EndsInReturn (if b then "response" else "request").toList := by decide
  have hbody : ∀ b : Bool, ¬ EndsInReturn (if b then "true" else "false").toList := by decide
  have hfirst : ∀ phase : List Char, scriptLabel (trimEndOf [','] path) ++ " =type=http-".toList
      ++ phase = scriptLabel (trimEndOf [','] path) ++ ' ' :: ("=type=http-".toList ++ phase) := by
    simp
  unfold scriptEntry? at h
  rw [hthen] at h
  simp only [Option.bind_eq_bind, Option.bind_some] at h
  cases h
  rw [List.append_assoc, List.cons_append]
  refine kept_join_iff (hfirst _) fun part hpart => ?_
  rcases List.mem_cons.mp hpart with rfl | hpart
  · rw [hfirst, endsInReturn_append_cons (by decide)]
    exact not_endsInReturn_append (by decide) (hphase _)
  · rcases List.mem_append.mp hpart with hpart | hpart
    · simp only [List.mem_cons, List.not_mem_nil, or_false] at hpart
      rcases hpart with rfl | rfl | rfl | rfl
      · exact not_endsInReturn_append (by decide) (not_endsInReturn_pattern hthen)
      · exact not_endsInReturn_append (by decide) (not_endsInReturn_of_noBlank hpath)
      · exact not_endsInReturn_append (by decide) (hbody _)
      · decide
    · exact not_endsInReturn_of_mem_entryMore hpart

/-! ## Lines of rules -/

/-- The readers of lines whose entries open with something that stands in the line. -/
def openReaders : List (List Char → Option (List Char)) :=
  rejectEntry? :: redirectEntry? :: localEntry? :: scriptEntry? :: []

theorem forall_openReaders {P : (List Char → Option (List Char)) → Prop} :
    (∀ read ∈ openReaders, P read) ↔
      P rejectEntry? ∧ P redirectEntry? ∧ P localEntry? ∧ P scriptEntry? := by
  simp [openReaders]

/-- A line whose entry begins like the line with the time, because the line itself does behind its
blanks, or because the script that it runs has such a name. -/
inductive Lost (line : List Char) : Prop where
  | pattern (front : descMark <+: trimStart line) (read : ∃ entry, rejectEntry? line = some entry ∨
      redirectEntry? line = some entry ∨ localEntry? line = some entry)
  | script {pattern path : List Char} {word : String}
      (read : patternThen? scriptCall? line = some (pattern, word, path))
      (name : descMark <+: scriptLabel (trimEndOf [','] path))

theorem kept_readers_iff (line : List Char) :
    (∀ read ∈ openReaders, ∀ entry, read line = some entry → Kept entry) ↔
      ¬ Lost line ∧ ¬ Cut line := by
  constructor
  · intro h
    obtain ⟨hreject, hredirect, hlocal, hscript⟩ := forall_openReaders.mp h
    refine ⟨?_, fun hcut => ?_⟩
    · rintro (⟨hfront, entry, hentry | hentry | hentry⟩ | ⟨hthen, hname⟩)
      · exact (kept_rejectEntry_iff hentry).mp (hreject entry hentry) hfront
      · exact (kept_redirectEntry_iff hentry).mp (hredirect entry hentry) hfront
      · exact ((kept_localEntry_iff hentry).mp (hlocal entry hentry)).1 hfront
      · obtain ⟨entry, hentry⟩ : ∃ entry, scriptEntry? line = some entry := by
          unfold scriptEntry?
          rw [hthen]
          exact ⟨_, rfl⟩
        exact (kept_scriptEntry_iff hthen hentry).mp (hscript entry hentry) hname
    · obtain ⟨pattern, params, -, hmock, -⟩ := id hcut
      obtain ⟨type, tail, hentry⟩ := localEntry?_eq_some hmock
      exact ((kept_localEntry_iff hentry).mp (hlocal _ hentry)).2 hcut
  · rintro ⟨hlost, hcut⟩
    refine forall_openReaders.mpr ⟨?_, ?_, ?_, ?_⟩ <;> intro entry hentry
    · exact (kept_rejectEntry_iff hentry).mpr fun hmark =>
        hlost (.pattern hmark ⟨entry, .inl hentry⟩)
    · exact (kept_redirectEntry_iff hentry).mpr fun hmark =>
        hlost (.pattern hmark ⟨entry, .inr (.inl hentry)⟩)
    · exact (kept_localEntry_iff hentry).mpr
        ⟨fun hmark => hlost (.pattern hmark ⟨entry, .inr (.inr hentry)⟩), hcut⟩
    · obtain ⟨⟨pattern, word, path⟩, hthen, -⟩ := Option.bind_eq_some_iff.mp hentry
      exact (kept_scriptEntry_iff hthen hentry).mpr fun hname => hlost (.script hthen hname)

/-- What becomes of a line that is not switched off is an entry of some section. -/
theorem mem_sections_of_read {text : List Char} (hline : line ∈ activeLines text) :
    ∀ read ∈ openReaders, ∀ entry, read line = some entry → ∃ s ∈ sections text,
      entry ∈ s.entries := by
  have hmem : ∀ {read : List Char → Option (List Char)} {entry : List Char},
      read line = some entry → entry ∈ (activeLines text).filterMap read :=
    fun hentry => List.mem_filterMap.mpr ⟨line, hline, hentry⟩
  refine forall_openReaders.mpr ⟨?_, ?_, ?_, ?_⟩ <;> intro entry hentry
  · exact ⟨{ title := "URL Rewrite".toList, entries := urlEntries text }, by simp [sections],
      mem_sortedUnique.mpr (List.mem_append_left _ (hmem hentry))⟩
  · exact ⟨{ title := "URL Rewrite".toList, entries := urlEntries text }, by simp [sections],
      mem_sortedUnique.mpr (List.mem_append_right _ (hmem hentry))⟩
  · exact ⟨{ title := "Map Local".toList, entries := localEntries text }, by simp [sections],
      mem_sortedUnique.mpr (hmem hentry)⟩
  · exact ⟨{ title := "Script".toList, entries := scriptEntries text }, by simp [sections],
      mem_sortedUnique.mpr (hmem hentry)⟩

/-- Every entry of every section is kept exactly if no line of the rules is lost or cut. -/
theorem kept_sections_iff (text : List Char) :
    (∀ s ∈ sections text, ∀ entry ∈ s.entries, Kept entry) ↔
      ∀ line ∈ activeLines text, ¬ Lost line ∧ ¬ Cut line := by
  constructor
  · intro h line hline
    refine (kept_readers_iff line).mp fun read hread entry hentry => ?_
    obtain ⟨s, hs, hmem⟩ := mem_sections_of_read hline read hread entry hentry
    exact h s hs entry hmem
  · intro h
    have hkept : ∀ read ∈ openReaders, ∀ entry ∈ (activeLines text).filterMap read, Kept entry := by
      intro read hread entry hentry
      obtain ⟨line, hline, hline'⟩ := List.mem_filterMap.mp hentry
      exact (kept_readers_iff line).mpr (h line hline) read hread entry hline'
    obtain ⟨hreject, hredirect, hlocal, hscript⟩ := forall_openReaders.mp hkept
    intro s hs entry hentry
    simp only [sections, List.mem_cons, List.not_mem_nil, or_false] at hs
    rcases hs with rfl | rfl | rfl | rfl | rfl | rfl | rfl
    · exact kept_of_mem_filterEntries hentry
    · rcases List.mem_append.mp (mem_sortedUnique.mp hentry) with hentry | hentry
      · exact hreject entry hentry
      · exact hredirect entry hentry
    · exact kept_of_mem_headerEntries hentry
    · exact kept_of_mem_bodyEntries hentry
    · exact hlocal entry (mem_sortedUnique.mp hentry)
    · exact hscript entry (mem_sortedUnique.mp hentry)
    · exact kept_of_mem_interceptionEntries hentry

end Intercept.Sgmodule
