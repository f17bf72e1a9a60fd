import Intercept.Proofs.Route.Entries
import Intercept.Proofs.Section.Entries
import Intercept.Proofs.Text.Words

/-!
# Intercept.Proofs.Section.Rejects -- lines that reject

A line rejects when one of its words is `url` and the next one says how to reject. The reader looks
for less: the letters of both words with blanks between them, at the first place where they stand,
whatever stands in front of the one and behind the other. It reads `curl reject` and `url rejected`
as well, and lists a pattern and a word that no line has given.
-/

namespace Intercept.Section

open Intercept.Text
open Intercept.Unicode (isBlank)

variable {line front front' gap gap' back back' pattern entry cs text : List Char}
  {word word' : String}

/-! ## Places -/

/-- A place of a line where the letters of `url`, blanks and a word that rejects stand. -/
structure RejectPlace (line front gap : List Char) (word : String) (back : List Char) : Prop where
  line_eq : line = front ++ ("url".toList ++ (gap ++ (word.toList ++ back)))
  gap_blank : AllBlank gap
  gap_ne_nil : gap ≠ []
  longest : LongestReject word (word.toList ++ back)

/-- The first such place of a line. -/
structure FirstReject (line front gap : List Char) (word : String) (back : List Char) : Prop
    extends RejectPlace line front gap word back where
  first : ∀ front' gap' word' back', RejectPlace line front' gap' word' back' →
    front.length ≤ front'.length

theorem RejectPlace.trimStart_word (h : RejectPlace line front gap word back) :
    trimStart (word.toList ++ back) = word.toList ++ back := by
  obtain ⟨cs, hcs⟩ := exists_cons_rejectWord h.longest.mem
  rw [hcs, List.cons_append, trimStart_cons_of_not_blank (by decide)]

/-- There is one place of a line that is the first. -/
theorem FirstReject.unique (h : FirstReject line front gap word back)
    (h' : FirstReject line front' gap' word' back') :
    front = front' ∧ word = word' ∧ back = back' := by
  have hlength : front.length = front'.length :=
    Nat.le_antisymm (h.first _ _ _ _ h'.toRejectPlace) (h'.first _ _ _ _ h.toRejectPlace)
  obtain ⟨hfront, hrest⟩ := List.append_inj (h.line_eq.symm.trans h'.line_eq) hlength
  have hgap := List.append_cancel_left hrest
  -- Both words begin behind the same blanks.
  have hword : word.toList ++ back = word'.toList ++ back' := by
    have htrim := congrArg trimStart hgap
    rwa [trimStart_append_of_allBlank h.gap_blank, trimStart_append_of_allBlank h'.gap_blank,
      h.trimStart_word, h'.trimStart_word] at htrim
  obtain rfl := h.longest.unique (hword ▸ h'.longest)
  exact ⟨hfront, rfl, List.append_cancel_left hword⟩

/-- What is read behind the pattern of a rejecting line. -/
def afterPattern? (cs : List Char) : Option String := (afterUrl? cs).bind rejectWord?

theorem rejectEntry?_eq (line : List Char) : rejectEntry? line =
    (readFirst? afterPattern? line).map fun p => trim p.1 ++ (" - ".toList ++ p.2.toList) := by
  unfold rejectEntry?
  rw [patternThen?, Option.map_map]
  exact congrArg (Option.map · _) (funext fun p => List.append_assoc _ _ _)

/-- It is read from the blanks in front of a place. -/
theorem afterPattern?_eq_some_iff : afterPattern? cs = some word ↔
    ∃ lead gap back, AllBlank lead ∧ RejectPlace cs lead gap word back := by
  constructor
  · intro h
    obtain ⟨rest, hrest, hword⟩ := Option.bind_eq_some_iff.mp h
    obtain ⟨behind, hbehind, hgap⟩ := Option.bind_eq_some_iff.mp hrest
    obtain ⟨c, r, hc, rfl, rfl⟩ := afterBlanks?_eq_some.mp hgap
    obtain ⟨lead, hlead, hcs⟩ := exists_trimStart cs
    obtain ⟨g, hg, hr⟩ := exists_trimStart r
    have hlongest := longestReject_of_rejectWord? hword
    obtain ⟨back, hback⟩ := hlongest.front
    refine ⟨lead, c :: g, back, hlead, ?_, List.forall_mem_cons.mpr ⟨hc, hg⟩, by simp, ?_⟩
    · rw [hback, List.cons_append, ← hr, ← afterStr?_eq_some.mp hbehind, ← hcs]
    · rwa [hback]
  · rintro ⟨lead, gap, back, hlead, h⟩
    have hurl : trimStart cs = "url".toList ++ (gap ++ (word.toList ++ back)) := by
      rw [h.line_eq, trimStart_append_of_allBlank hlead]
      exact trimStart_cons_of_not_blank (by decide)
    rw [afterPattern?, afterUrl?, hurl, afterStr?_append, Option.bind_some,
      afterBlanks?_append h.gap_blank h.gap_ne_nil, h.trimStart_word, Option.bind_some,
      rejectWord?_eq_some_iff]
    exact h.longest

theorem RejectPlace.read (h : RejectPlace line front gap word back) :
    afterPattern? ("url".toList ++ (gap ++ (word.toList ++ back))) = some word :=
  afterPattern?_eq_some_iff.mpr
    ⟨[], gap, back, allBlank_nil, rfl, h.gap_blank, h.gap_ne_nil, h.longest⟩

/-- Blanks in front of the word `url` end where it begins. -/
theorem length_le_of_allBlank {a b r r' : List Char} (ha : AllBlank a)
    (h : a ++ ("url".toList ++ r) = b ++ ("url".toList ++ r')) : a.length ≤ b.length := by
  rcases List.append_eq_append_iff.mp h with ⟨m, rfl, -⟩ | ⟨m, rfl, hm⟩
  · rw [List.length_append]
    exact Nat.le_add_right _ _
  · cases m with
    | nil => rw [List.append_nil]
    | cons c m =>
      obtain ⟨rfl, -⟩ := List.cons.inj hm
      exact absurd (ha 'u' (List.mem_append_right b List.mem_cons_self)) (by decide)

theorem RejectPlace.append (h : RejectPlace line front gap word back) (x : List Char) :
    RejectPlace (x ++ line) (x ++ front) gap word back :=
  ⟨by rw [h.line_eq, List.append_assoc], h.gap_blank, h.gap_ne_nil, h.longest⟩

/-- What is read from a line is read at the first place, from the blanks in front of it. -/
theorem exists_firstReject (h : readFirst? afterPattern? line = some (front, word)) :
    ∃ lead gap back, AllBlank lead ∧ FirstReject line (front ++ lead) gap word back := by
  obtain ⟨cs, rfl, hcs⟩ := parts_of_readFirst? h
  obtain ⟨lead, gap, back, hlead, hplace⟩ := afterPattern?_eq_some_iff.mp hcs
  refine ⟨lead, gap, back, hlead, hplace.append front, ?_⟩
  intro front' gap' word' back' hplace'
  have hle : front.length ≤ front'.length := by
    rw [hplace'.line_eq] at h
    exact readFirst?_le hplace'.read h
  obtain ⟨l, rfl⟩ := List.prefix_of_prefix_length_le (List.prefix_append front cs)
    ⟨_, hplace'.line_eq.symm⟩ hle
  have hsplit := hplace'.line_eq
  rw [List.append_assoc, List.append_cancel_left_eq, hplace.line_eq] at hsplit
  rw [List.length_append, List.length_append]
  exact Nat.add_le_add_left (length_le_of_allBlank hlead hsplit) _

/-- A line makes the entry of its first place. -/
theorem rejectEntry?_eq_some_iff : rejectEntry? line = some entry ↔
    ∃ front gap word back, FirstReject line front gap word back
      ∧ trim front ++ (" - ".toList ++ word.toList) = entry := by
  rw [rejectEntry?_eq, Option.map_eq_some_iff]
  constructor
  · rintro ⟨⟨front, word⟩, hread, rfl⟩
    obtain ⟨lead, gap, back, hlead, h⟩ := exists_firstReject hread
    exact ⟨front ++ lead, gap, word, back, h, by rw [trim_append_blanks front hlead]⟩
  · rintro ⟨front, gap, word, back, h, rfl⟩
    have hsome := readFirst?_isSome h.read front
    rw [← h.line_eq] at hsome
    obtain ⟨⟨front', word'⟩, hread⟩ := Option.isSome_iff_exists.mp hsome
    obtain ⟨lead, gap', back', hlead, h'⟩ := exists_firstReject hread
    obtain ⟨rfl, rfl, -⟩ := h.unique h'
    exact ⟨(front', word), hread, by rw [trim_append_blanks front' hlead]⟩

/-! ## Entries -/

/-- The pattern and the word of an entry that rejects. -/
theorem entry_inj (hword : word ∈ Reject.words) (hword' : word' ∈ Reject.words)
    {pattern' : List Char}
    (h : pattern ++ (" - ".toList ++ word.toList) = pattern' ++ (" - ".toList ++ word'.toList)) :
    pattern = pattern' ∧ word = word' := by
  have hsplit : ∀ p w : List Char, p ++ (" - ".toList ++ w) = (p ++ [' ', '-']) ++ ' ' :: w := by
    simp
  rw [hsplit, hsplit] at h
  obtain ⟨hpattern, hwords⟩ :=
    append_cons_inj (not_mem_of_noBlank (by decide) (noBlank_rejectWord hword))
      (not_mem_of_noBlank (by decide) (noBlank_rejectWord hword')) h
  exact ⟨List.append_cancel_right hpattern, String.toList_inj.mp hwords⟩

/-- No redirection ends with a word that rejects. -/
theorem redirectEntry?_ne (hword : word ∈ Reject.words) (pattern : List Char) :
    redirectEntry? line ≠ some (pattern ++ (" - ".toList ++ word.toList)) := by
  intro h
  obtain ⟨⟨pattern', kind, target⟩, hthen, heq⟩ := Option.map_eq_some_iff.mp h
  obtain ⟨-, rest, -, hread⟩ := patternThen?_parts hthen
  have hkind := (wordThenRest?_parts hread).1
  have hkinds : ∀ kind ∈ ["302", "307", "header"],
      ' ' ∉ kind.toList ∧ ∀ word ∈ Reject.words, kind.toList ≠ word.toList := by decide
  obtain ⟨hspace, hne⟩ := hkinds kind hkind
  have hsplit : (pattern' ++ ' ' :: target) ++ ' ' :: kind.toList =
      (pattern ++ [' ', '-']) ++ ' ' :: word.toList := by
    simpa using heq
  have hword' : ' ' ∉ word.toList := not_mem_of_noBlank (by decide) (noBlank_rejectWord hword)
  exact hne word hword (append_cons_inj hspace hword' hsplit).2

/-- The entries that reject are those of the first places of the lines. -/
theorem mem_urlEntries_iff (hword : word ∈ Reject.words) :
    pattern ++ (" - ".toList ++ word.toList) ∈ urlEntries text ↔
      ∃ line ∈ activeLines text, ∃ front gap back, FirstReject line front gap word back
        ∧ trim front = pattern := by
  rw [urlEntries, mem_sortedUnique, List.mem_append, List.mem_filterMap, List.mem_filterMap]
  constructor
  · rintro (⟨line, hline, hentry⟩ | ⟨line, -, hentry⟩)
    · obtain ⟨front, gap, word', back, h, heq⟩ := rejectEntry?_eq_some_iff.mp hentry
      obtain ⟨hpattern, rfl⟩ := entry_inj h.longest.mem hword heq
      exact ⟨line, hline, front, gap, back, h, hpattern⟩
    · exact absurd hentry (redirectEntry?_ne hword pattern)
  · rintro ⟨line, hline, front, gap, back, h, rfl⟩
    exact Or.inl ⟨line, hline, rejectEntry?_eq_some_iff.mpr ⟨front, gap, word, back, h, rfl⟩⟩

/-! ## Genuine rejections -/

/-- One of the words of a line is `url`, and the next one is the given one. The pattern is what
stands in front of them. -/
def Rejects (line pattern : List Char) (word : String) : Prop :=
  ∃ front back, line = front ++ ("url".toList ++ back) ∧ BlankLast front ∧ BlankFirst back
    ∧ (words back).head? = some word.toList ∧ trim front = pattern

theorem RejectPlace.rejects (h : RejectPlace line front gap word back) (hfront : BlankLast front)
    (hback : BlankFirst back) : Rejects line (trim front) word := by
  have hgap := blankFirst_append_of_allBlank h.gap_blank h.gap_ne_nil (r := word.toList ++ back)
  refine ⟨front, _, h.line_eq, hfront, hgap, ?_, rfl⟩
  obtain ⟨cs, hcs⟩ := exists_cons_rejectWord h.longest.mem
  rw [words_append_of_allBlank h.gap_blank,
    words_append_of_blankFirst (noBlank_rejectWord h.longest.mem) (by simp [hcs]) hback]
  rfl

/-- What stands around the first word of a text that does not begin with it. -/
theorem exists_gap {w : List Char} (hback : BlankFirst back) (hw : (words back).head? = some w) :
    ∃ gap rest, back = gap ++ (w ++ rest) ∧ AllBlank gap ∧ gap ≠ [] ∧ BlankFirst rest := by
  obtain ⟨gap, hgap, heq⟩ := exists_trimStart back
  obtain ⟨hsplit, hword, hrest⟩ := firstWord_spec (trimStart back)
  rw [heq, words_append_of_allBlank hgap] at hw
  have hne : (firstWord (trimStart back)).1 ≠ [] := by
    intro hnil
    rw [hnil, List.nil_append] at hsplit
    cases htrim : trimStart back with
    | nil =>
      rw [htrim] at hw
      cases hw
    | cons c r =>
      rw [← hsplit, htrim, blankFirst_cons, not_blank_of_trimStart_eq htrim] at hrest
      cases hrest
  rw [hsplit, words_append_of_blankFirst hword hne hrest, List.head?_cons, Option.some.injEq] at hw
  rw [hw] at hsplit hword hne
  refine ⟨gap, _, by rw [← hsplit, ← heq], hgap, ?_, hrest⟩
  rintro rfl
  obtain ⟨c, w, rfl⟩ := List.exists_cons_of_ne_nil hne
  rw [heq, hsplit, List.nil_append, List.cons_append, blankFirst_cons,
    (noBlank_cons.mp hword).1] at hback
  cases hback

/-- A line that rejects has a place at which both words are words of it. -/
theorem Rejects.exists_place (h : Rejects line pattern word) (hword : word ∈ Reject.words) :
    ∃ front gap back, RejectPlace line front gap word back ∧ BlankLast front ∧ BlankFirst back
      ∧ trim front = pattern := by
  obtain ⟨front, behind, rfl, hfront, hbehind, hhead, hpattern⟩ := h
  obtain ⟨gap, back, rfl, hgap, hne, hback⟩ := exists_gap hbehind hhead
  have hplace : RejectPlace _ front gap word back :=
    ⟨rfl, hgap, hne, longestReject_append hword hback⟩
  exact ⟨front, gap, back, hplace, hfront, hback, hpattern⟩

/-- A line rejects by the pattern and the word of its first place only if these are words of it. -/
theorem FirstReject.apart (h : FirstReject line front gap word back)
    (hrejects : Rejects line (trim front) word) : BlankLast front ∧ BlankFirst back := by
  obtain ⟨front', gap', back', hplace, hfront, hback, htrim⟩ := hrejects.exists_place h.longest.mem
  obtain ⟨d, rfl⟩ := List.prefix_of_prefix_length_le ⟨_, h.line_eq.symm⟩ ⟨_, hplace.line_eq.symm⟩
    (h.first _ _ _ _ hplace)
  -- A later place would have more letters in front of it, those of `url` at the least.
  cases d with
  | nil =>
    rw [List.append_nil] at hplace hfront
    obtain ⟨-, -, rfl⟩ := h.unique ⟨hplace, fun _ _ _ _ hother => h.first _ _ _ _ hother⟩
    exact ⟨hfront, hback⟩
  | cons c d =>
    have hsplit := h.line_eq.symm.trans hplace.line_eq
    rw [List.append_assoc, List.append_cancel_left_eq] at hsplit
    obtain ⟨rfl, -⟩ := List.cons.inj hsplit
    have hfilter := congrArg (List.filter (!isBlank ·)) htrim
    rw [filter_trim, filter_trim, List.filter_append, List.append_right_eq_self,
      List.filter_cons_of_pos (by decide)] at hfilter
    cases hfilter

/-- The two words stand next to each other among the words of a line. -/
theorem Rejects.exists_words (h : Rejects line pattern word) :
    ∃ before after, words line = before ++ "url".toList :: word.toList :: after := by
  obtain ⟨front, back, rfl, hfront, hback, hhead, -⟩ := h
  obtain ⟨after, hafter⟩ := List.head?_eq_some_iff.mp hhead
  refine ⟨words front, after, ?_⟩
  rw [words_append_of_blankLast hfront,
    words_append_of_blankFirst (by decide : NoBlank "url".toList) (by decide) hback, hafter]

/-- Every entry that rejects is made of the pattern and the word of a line that rejects. -/
def GenuineRejects (text : List Char) : Prop :=
  ∀ pattern, ∀ word ∈ Reject.words, pattern ++ (" - ".toList ++ word.toList) ∈ urlEntries text →
    ∃ line ∈ activeLines text, Rejects line pattern word

/-- Only lines that reject are listed exactly when at the first place of every line both words are
words of it, or another line rejects by the same pattern and word. The entries that reject are those
of the first places, no more and no less. -/
theorem genuineRejects_iff (text : List Char) :
    (GenuineRejects text ↔ ∀ line ∈ activeLines text, ∀ front gap word back,
        FirstReject line front gap word back → (BlankLast front ∧ BlankFirst back)
          ∨ ∃ line' ∈ activeLines text, line' ≠ line ∧ Rejects line' (trim front) word)
      ∧ ∀ pattern, ∀ word ∈ Reject.words,
        (pattern ++ (" - ".toList ++ word.toList) ∈ urlEntries text ↔ ∃ line ∈ activeLines text,
          ∃ front gap back, FirstReject line front gap word back ∧ trim front = pattern) := by
  refine ⟨⟨?_, ?_⟩, fun pattern word hword => mem_urlEntries_iff hword⟩
  · intro hgenuine line hline front gap word back h
    obtain ⟨line', hline', hrejects⟩ := hgenuine _ word h.longest.mem
      ((mem_urlEntries_iff h.longest.mem).mpr ⟨line, hline, front, gap, back, h, rfl⟩)
    by_cases heq : line' = line
    · exact Or.inl (h.apart (heq ▸ hrejects))
    · exact Or.inr ⟨line', hline', heq, hrejects⟩
  · intro hplaces pattern word hword hentry
    obtain ⟨line, hline, front, gap, back, h, rfl⟩ := (mem_urlEntries_iff hword).mp hentry
    rcases hplaces line hline front gap word back h with
      ⟨hfront, hback⟩ | ⟨line', hline', -, hrejects⟩
    · exact ⟨line, hline, h.rejects hfront hback⟩
    · exact ⟨line', hline', hrejects⟩

/-- The letters behind a word that rejects, and those in front of the word `url`, go unseen. -/
theorem not_genuineRejects_rejected :
    ¬ GenuineRejects "^https://a.com url rejected".toList
      ∧ ¬ GenuineRejects "curl reject".toList := by
  constructor
  · intro h
    obtain ⟨line, hline, hrejects⟩ :=
      h "^https://a.com".toList "reject" (by decide) (by decide +kernel)
    obtain rfl : line = "^https://a.com url rejected".toList := List.mem_singleton.mp hline
    obtain ⟨before, after, hwords⟩ := hrejects.exists_words
    have hmem : "reject".toList ∈ words "^https://a.com url rejected".toList := by
      rw [hwords]
      simp
    exact absurd hmem (by decide +kernel)
  · intro h
    obtain ⟨line, hline, hrejects⟩ := h "c".toList "reject" (by decide) (by decide +kernel)
    obtain rfl : line = "curl reject".toList := List.mem_singleton.mp hline
    obtain ⟨before, after, hwords⟩ := hrejects.exists_words
    have hmem : "url".toList ∈ words "curl reject".toList := by
      rw [hwords]
      simp
    exact absurd hmem (by decide +kernel)

end Intercept.Section
