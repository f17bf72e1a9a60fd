import Intercept.Proofs.Section.Entries
import Mathlib.Data.List.Basic

/-!
# Intercept.Proofs.Section.HeaderOrder -- which header rules are listed, and in which order

Deletions are listed in front of additions, and these in front of replacements; rules of one kind
stand as in the text. Of the rules whose entries have the same first three words, the first one in
this order is listed and no other. Where every pattern is one word, these three words are the phase,
the pattern and what is done, so that for each such triple the first rule of the text is listed.
-/

namespace Intercept.Section

open Intercept.Text

variable {r a b : HeaderRule} {rules kept : List HeaderRule}

/-- The header rules of a text, in its order. -/
def headerRules (text : List Char) : List HeaderRule :=
  (activeLines text).filterMap headerRule?

/-- A rule comes before another one by its kind, and among the rules of a kind by the first place
where it stands. -/
def Precedes (rules : List HeaderRule) (a b : HeaderRule) : Prop :=
  a.change.rank < b.change.rank
    ∨ a.change.rank = b.change.rank ∧ rules.idxOf a < rules.idxOf b

/-- Which rules of a list are kept: they stand in order, no two of them have the same key, no key of
the list is lost, and of the rules with one key it is the first that is kept. -/
structure Selection (rules kept : List HeaderRule) : Prop where
  subset : kept ⊆ rules
  ordered : kept.Pairwise (Precedes rules)
  apart : kept.Pairwise fun a b => entryKey a.write ≠ entryKey b.write
  covered : ∀ r ∈ rules, ∃ a ∈ kept, entryKey a.write = entryKey r.write
  first : ∀ a ∈ kept, ∀ r ∈ rules, entryKey r.write = entryKey a.write → r = a ∨ Precedes rules a r

/-- Whether a rule does a kind of change to what a pattern is about in a phase. -/
def HeaderRule.isFor (phase : String) (pattern : List Char) (rank : Nat) (r : HeaderRule) : Bool :=
  r.phase == phase && r.pattern == pattern && r.change.rank == rank

/-! ## First places -/

theorem idxOf_le_of_find? {p : HeaderRule → Bool} (h : rules.find? p = some a) (hr : r ∈ rules)
    (hp : p r = true) : rules.idxOf a ≤ rules.idxOf r := by
  obtain ⟨ha, front, back, rfl, hfront⟩ := List.find?_eq_some_iff_append.mp h
  have hne : ∀ x, p x = true → x ∉ front := by
    intro x hx hmem
    have := hfront x hmem
    simp [hx] at this
  rw [List.idxOf_append_of_notMem (hne a ha), List.idxOf_append_of_notMem (hne r hp),
    List.idxOf_cons_self]
  exact Nat.add_le_add_left (Nat.zero_le _) _

/-- Among those of a list that have a property the order of first places is the one in the list. -/
theorem idxOf_lt_of_filter {p : HeaderRule → Bool} (hb : p b = true)
    (h : (rules.filter p).idxOf a < (rules.filter p).idxOf b) : rules.idxOf a < rules.idxOf b := by
  induction rules with
  | nil => exact absurd h (Nat.lt_irrefl _)
  | cons c rules ih =>
    by_cases hca : c = a
    · rw [hca] at h ⊢
      have hab : a ≠ b := by
        rintro rfl
        exact absurd h (Nat.lt_irrefl _)
      rw [List.idxOf_cons_self, List.idxOf_cons_ne _ hab]
      exact Nat.succ_pos _
    · by_cases hcb : c = b
      · rw [hcb, List.filter_cons_of_pos hb, List.idxOf_cons_self] at h
        exact absurd h (Nat.not_lt_zero _)
      · rw [List.idxOf_cons_ne _ hca, List.idxOf_cons_ne _ hcb]
        refine Nat.succ_lt_succ (ih ?_)
        rw [List.filter_cons] at h
        split at h
        · rw [List.idxOf_cons_ne _ hca, List.idxOf_cons_ne _ hcb] at h
          exact Nat.lt_of_succ_lt_succ h
        · exact h

/-! ## Kind by kind -/

/-- The rules of some kinds, kind by kind. -/
def ranked (rules : List HeaderRule) (ranks : List Nat) : List HeaderRule :=
  ranks.flatMap fun rank => rules.filter fun r => r.change.rank == rank

theorem headerEntries_eq (text : List Char) : headerEntries text =
    firstPerKey [] ((ranked (headerRules text) [0, 1, 2]).map HeaderRule.write) := rfl

theorem mem_ranked {ranks : List Nat} :
    r ∈ ranked rules ranks ↔ r ∈ rules ∧ r.change.rank ∈ ranks := by
  simp only [ranked, List.mem_flatMap, List.mem_filter, beq_iff_eq]
  constructor
  · rintro ⟨rank, hrank, hr, rfl⟩
    exact ⟨hr, hrank⟩
  · rintro ⟨hr, hrank⟩
    exact ⟨_, hrank, hr, rfl⟩

/-- Every kind is listed. -/
theorem mem_ranked_all : r ∈ ranked rules [0, 1, 2] ↔ r ∈ rules := by
  have hrank : r.change.rank ∈ [0, 1, 2] := by cases r.change <;> simp [HeaderChange.rank]
  rw [mem_ranked, and_iff_left hrank]

/-- What comes first, kind by kind, precedes. -/
theorem precedes_of_idxOf_lt {ranks : List Nat} (hranks : ranks.Pairwise (· < ·))
    (ha : a ∈ ranked rules ranks) (hb : b ∈ ranked rules ranks)
    (h : (ranked rules ranks).idxOf a < (ranked rules ranks).idxOf b) : Precedes rules a b := by
  induction ranks with
  | nil => cases ha
  | cons rank ranks ih =>
    obtain ⟨hlater, hrest⟩ := List.pairwise_cons.mp hranks
    have hsplit : ranked rules (rank :: ranks) =
        rules.filter (fun r => r.change.rank == rank) ++ ranked rules ranks := rfl
    have hfirst : ∀ {x}, x ∈ rules.filter (fun r => r.change.rank == rank) → x.change.rank = rank :=
      fun hx => beq_iff_eq.mp (List.mem_filter.mp hx).2
    rw [hsplit] at ha hb h
    by_cases ha' : a ∈ rules.filter fun r => r.change.rank == rank
    · rw [List.idxOf_append_of_mem ha'] at h
      by_cases hb' : b ∈ rules.filter fun r => r.change.rank == rank
      · rw [List.idxOf_append_of_mem hb'] at h
        exact .inr ⟨(hfirst ha').trans (hfirst hb').symm,
          idxOf_lt_of_filter (List.mem_filter.mp hb').2 h⟩
      · have hmem := (List.mem_append.mp hb).resolve_left hb'
        refine .inl ?_
        rw [hfirst ha']
        exact hlater _ (mem_ranked.mp hmem).2
    · rw [List.idxOf_append_of_notMem ha'] at h
      by_cases hb' : b ∈ rules.filter fun r => r.change.rank == rank
      · rw [List.idxOf_append_of_mem hb'] at h
        have hlt := List.idxOf_lt_length_of_mem hb'
        omega
      · rw [List.idxOf_append_of_notMem hb'] at h
        exact ih hrest ((List.mem_append.mp ha).resolve_left ha')
          ((List.mem_append.mp hb).resolve_left hb') (Nat.lt_of_add_lt_add_left h)

/-! ## One for each key -/

/-- The rules whose entries are kept where keys have been `seen`. -/
def firstRules (seen : List (List (List Char))) : List HeaderRule → List HeaderRule
  | [] => []
  | r :: rules =>
    if entryKey r.write ∈ seen then firstRules seen rules
    else r :: firstRules (entryKey r.write :: seen) rules

theorem firstPerKey_map (seen : List (List (List Char))) (rules : List HeaderRule) :
    firstPerKey seen (rules.map HeaderRule.write) = (firstRules seen rules).map HeaderRule.write := by
  induction rules generalizing seen with
  | nil => rfl
  | cons r rules ih =>
    rw [List.map_cons, firstPerKey, firstRules]
    simp only [List.contains_iff_mem]
    split
    · exact ih seen
    · rw [List.map_cons, ih]

/-- A rule is kept if no earlier one has its key. -/
theorem mem_firstRules {seen : List (List (List Char))} : a ∈ firstRules seen rules ↔
    entryKey a.write ∉ seen
      ∧ rules.find? (fun r => entryKey r.write == entryKey a.write) = some a := by
  induction rules generalizing seen with
  | nil => simp [firstRules]
  | cons r rules ih =>
    rw [firstRules, List.find?_cons]
    by_cases hkey : entryKey r.write = entryKey a.write
    · rw [hkey, beq_self_eq_true, Option.some.injEq]
      split
      · next hseen => simp [ih, hseen]
      · next hseen => simp [ih, hseen, eq_comm]
    · have har : a ≠ r := fun heq => hkey (by rw [heq])
      rw [beq_false_of_ne hkey]
      split
      · exact ih
      · rw [List.mem_cons, or_iff_right har, ih, List.mem_cons, not_or,
          and_iff_right (Ne.symm hkey)]

theorem firstRules_ordered (seen : List (List (List Char))) (rules : List HeaderRule) :
    (firstRules seen rules).Pairwise fun a b => rules.idxOf a < rules.idxOf b := by
  induction rules generalizing seen with
  | nil => exact .nil
  | cons r rules ih =>
    -- A rule with another key than the first one stands one place behind its place in the rest.
    have hplace : ∀ {x : HeaderRule}, entryKey x.write ≠ entryKey r.write →
        (r :: rules).idxOf x = rules.idxOf x + 1 := fun hx =>
      List.idxOf_cons_ne _ fun heq => hx (by rw [heq])
    have hlater : ∀ {seen}, (∀ x ∈ firstRules seen rules, entryKey x.write ≠ entryKey r.write) →
        (firstRules seen rules).Pairwise fun a b => (r :: rules).idxOf a < (r :: rules).idxOf b := by
      intro seen hne
      refine (ih seen).imp_of_mem fun {a b} ha hb hlt => ?_
      rw [hplace (hne a ha), hplace (hne b hb)]
      exact Nat.succ_lt_succ hlt
    rw [firstRules]
    split
    · next hseen => exact hlater fun x hx heq => (mem_firstRules.mp hx).1 (heq ▸ hseen)
    · have hne : ∀ x ∈ firstRules (entryKey r.write :: seen) rules,
          entryKey x.write ≠ entryKey r.write := fun x hx heq =>
        (mem_firstRules.mp hx).1 (heq ▸ List.mem_cons_self)
      refine List.pairwise_cons.mpr ⟨fun x hx => ?_, hlater hne⟩
      rw [List.idxOf_cons_self, hplace (hne x hx)]
      exact Nat.succ_pos _

/-- What is kept, kind by kind, is a selection. -/
theorem selection_firstRules (rules : List HeaderRule) :
    Selection rules (firstRules [] (ranked rules [0, 1, 2])) := by
  have hfirst : ∀ {a}, a ∈ firstRules [] (ranked rules [0, 1, 2]) → (ranked rules [0, 1, 2]).find?
      (fun r => entryKey r.write == entryKey a.write) = some a := fun ha => (mem_firstRules.mp ha).2
  have hranked : ∀ {a}, a ∈ firstRules [] (ranked rules [0, 1, 2]) → a ∈ ranked rules [0, 1, 2] :=
    fun ha => List.mem_of_find?_eq_some (hfirst ha)
  have hordered := firstRules_ordered [] (ranked rules [0, 1, 2])
  constructor
  case subset => exact fun a ha => mem_ranked_all.mp (hranked ha)
  case ordered =>
    exact hordered.imp_of_mem fun ha hb =>
      precedes_of_idxOf_lt (by decide) (hranked ha) (hranked hb)
  case apart =>
    refine hordered.imp_of_mem fun {a b} ha hb hlt hkey => ?_
    have hsame := hfirst ha
    rw [hkey, hfirst hb, Option.some.injEq] at hsame
    exact absurd (hsame ▸ hlt) (Nat.lt_irrefl _)
  case covered =>
    intro r hr
    have hsome : ((ranked rules [0, 1, 2]).find? fun x =>
        entryKey x.write == entryKey r.write).isSome :=
      List.find?_isSome.mpr ⟨r, mem_ranked_all.mpr hr, beq_self_eq_true (entryKey r.write)⟩
    obtain ⟨a, ha⟩ := Option.isSome_iff_exists.mp hsome
    have hkey : entryKey a.write = entryKey r.write := by simpa using List.find?_some ha
    exact ⟨a, mem_firstRules.mpr ⟨List.not_mem_nil, by rw [hkey, ha]⟩, hkey⟩
  case first =>
    intro a ha r hr hkey
    have hr' := mem_ranked_all.mpr hr
    rcases Nat.lt_or_eq_of_le (idxOf_le_of_find? (hfirst ha) hr' (beq_iff_eq.mpr hkey)) with h | h
    · exact .inr (precedes_of_idxOf_lt (by decide) (hranked ha) hr' h)
    · exact .inl ((List.idxOf_inj (hranked ha)).mp h).symm

/-! ## Keys of entries -/

/-- The word for a change. -/
def HeaderChange.verb : HeaderChange → String
  | delete _ => "header-del"
  | addTranslations => "header-add"
  | replaceLanguage => "header-replace"

theorem verb_eq_iff {c c' : HeaderChange} : c.verb = c'.verb ↔ c.rank = c'.rank := by
  cases c <;> cases c' <;> simp [HeaderChange.verb, HeaderChange.rank]

theorem write_delete (name : List Char) :
    (HeaderChange.delete name).write = "header-del".toList ++ ' ' :: name := by
  have hwrite : (HeaderChange.delete name).write = "header-del ".toList ++ name := rfl
  have hspace : "header-del ".toList = "header-del".toList ++ [' '] := by decide
  rw [hwrite, hspace, List.append_assoc, List.singleton_append]

theorem HeaderChange.exists_write (c : HeaderChange) :
    ∃ more, c.write = c.verb.toList ++ ' ' :: more := by
  cases c with
  | delete name => exact ⟨name, write_delete name⟩
  | addTranslations => exact ⟨"x-reddit-translations enabled".toList, by decide⟩
  | replaceLanguage => exact ⟨"Accept-Language en-us".toList, by decide⟩

/-- What is read from a line: one of two phases, and a name without a space to delete. -/
structure HeaderRule.IsRead (r : HeaderRule) : Prop where
  phase : r.phase ∈ ["http-request", "http-response"]
  name : ∀ name, r.change = .delete name → ' ' ∉ name

theorem space_not_mem_deletedName {cs name : List Char} (h : deletedName? cs = some name) :
    ' ' ∉ name := by
  dsimp only [deletedName?] at h
  split at h
  · cases h
  · obtain ⟨_, -, rfl⟩ := Option.map_eq_some_iff.mp h
    intro hmem
    exact absurd (List.mem_takeWhile_imp hmem) (by decide)

theorem isRead_of_mem_headerRules {text : List Char} (h : r ∈ headerRules text) : r.IsRead := by
  obtain ⟨line, -, hrule⟩ := List.mem_filterMap.mp h
  simp only [headerRule?, Option.bind_eq_bind, Option.bind_eq_some_iff] at hrule
  obtain ⟨⟨pattern, word, body⟩, -, change, hchange, hpair⟩ := hrule
  cases hpair
  constructor
  case name =>
    intro name hname
    obtain rfl : change = .delete name := hname
    obtain ⟨_, _, -, hdeleted⟩ := exists_of_headerChange? hchange
    exact space_not_mem_deletedName hdeleted
  case phase =>
    have hphases : ∀ b : Bool, (if b then "http-request" else "http-response") ∈
        ["http-request", "http-response"] := by decide
    exact hphases _

theorem entryKey_write (h : r.IsRead) (hpattern : words r.pattern = [r.pattern]) :
    entryKey r.write = [r.phase.toList, r.pattern, r.change.verb.toList] := by
  have hphases : ∀ phase ∈ ["http-request", "http-response"],
      NoBlank phase.toList ∧ phase.toList ≠ [] := by decide
  obtain ⟨hphase, hphaseNe⟩ := hphases _ h.phase
  have hverb : NoBlank r.change.verb.toList ∧ r.change.verb.toList ≠ [] := by
    cases r.change <;> simp [HeaderChange.verb] <;> decide
  have hne : r.pattern ≠ [] := by
    intro hnil
    rw [hnil] at hpattern
    cases hpattern
  have hword : NoBlank r.pattern := noBlank_of_mem_words (hpattern ▸ List.mem_singleton_self _)
  obtain ⟨more, hmore⟩ := r.change.exists_write
  have hspace : ∀ cs, BlankFirst (' ' :: cs) := fun cs => blankFirst_cons.mpr (by decide)
  rw [entryKey, HeaderRule.write, hmore,
    words_append_of_blankFirst hphase hphaseNe (hspace _), words_cons_blank (by decide),
    words_append_of_blankFirst hword hne (hspace _), words_cons_blank (by decide),
    words_append_of_blankFirst hverb.1 hverb.2 (hspace _)]
  rfl

/-- Entries of rules with one word for a pattern have the same key if they are for the same. -/
theorem entryKey_eq_iff (ha : a.IsRead) (hb : b.IsRead) (hpa : words a.pattern = [a.pattern])
    (hpb : words b.pattern = [b.pattern]) : entryKey a.write = entryKey b.write ↔
      a.isFor b.phase b.pattern b.change.rank = true := by
  rw [entryKey_write ha hpa, entryKey_write hb hpb]
  simp [HeaderRule.isFor, String.toList_inj, verb_eq_iff, and_assoc]

/-! ## Entries tell their rules -/

/-- The last word of a change. -/
def HeaderChange.last : HeaderChange → List Char
  | delete name => name
  | addTranslations => "enabled".toList
  | replaceLanguage => "en-us".toList

/-- The word in front of the last one, which tells the kind of a change. -/
def HeaderChange.mark : HeaderChange → String
  | delete _ => "header-del"
  | addTranslations => "x-reddit-translations"
  | replaceLanguage => "Accept-Language"

theorem eq_of_mark_of_last {c c' : HeaderChange} (hmark : c.mark = c'.mark)
    (hlast : c.last = c'.last) : c = c' := by
  cases c <;> cases c' <;>
    first
    | rfl
    | exact congrArg HeaderChange.delete hlast
    | exact absurd hmark (by simp [HeaderChange.mark])

theorem exists_cons_write (c : HeaderChange) :
    ∃ front, ' ' :: c.write = (front ++ ' ' :: c.mark.toList) ++ ' ' :: c.last := by
  cases c with
  | delete name => exact ⟨[], by rw [write_delete]; rfl⟩
  | addTranslations => exact ⟨" header-add".toList, by decide⟩
  | replaceLanguage => exact ⟨" header-replace".toList, by decide⟩

theorem HeaderRule.IsRead.space_not_mem_last (h : r.IsRead) : ' ' ∉ r.change.last := by
  cases hchange : r.change with
  | delete name => exact h.name name hchange
  | addTranslations => decide
  | replaceLanguage => decide

theorem space_not_mem_mark (c : HeaderChange) : ' ' ∉ c.mark.toList := by
  cases c with
  | delete name => exact (by decide : ' ' ∉ "header-del".toList)
  | addTranslations => decide
  | replaceLanguage => decide

/-- An entry tells which rule it was written for. -/
theorem HeaderRule.IsRead.write_inj (ha : a.IsRead) (hb : b.IsRead) (h : a.write = b.write) :
    a = b := by
  obtain ⟨phase, pattern, change⟩ := a
  obtain ⟨phase', pattern', change'⟩ := b
  obtain rfl : phase = phase' := by
    have hphase := ha.phase
    have hphase' := hb.phase
    simp only [List.mem_cons, List.not_mem_nil, or_false] at hphase hphase'
    rcases hphase with rfl | rfl <;> rcases hphase' with rfl | rfl <;>
      simp_all [HeaderRule.write]
  have hrest : pattern ++ ' ' :: change.write = pattern' ++ ' ' :: change'.write := by
    simpa [HeaderRule.write] using h
  obtain ⟨front, hfront⟩ := exists_cons_write change
  obtain ⟨front', hfront'⟩ := exists_cons_write change'
  have hsplit := hrest
  rw [hfront, hfront'] at hsplit
  simp only [← List.append_assoc] at hsplit
  obtain ⟨hmarks, hlast⟩ := append_cons_inj ha.space_not_mem_last hb.space_not_mem_last hsplit
  obtain ⟨-, hmark⟩ := append_cons_inj (space_not_mem_mark _) (space_not_mem_mark _) hmarks
  obtain rfl := eq_of_mark_of_last (String.toList_inj.mp hmark) hlast
  rw [List.append_cancel_right hrest]

/-! ## The entries of a text -/

/-- The keys of two rules are the same exactly if the rules are for the same. -/
def KeysTell (rules : List HeaderRule) : Prop :=
  ∀ a ∈ rules, ∀ b ∈ rules, entryKey a.write = entryKey b.write ↔
    a.isFor b.phase b.pattern b.change.rank = true

/-- Where keys tell, the first rule that is for the same as it is kept. -/
theorem Selection.mem_of_find? (h : Selection rules kept) (hkeys : KeysTell rules)
    (hfind : rules.find? (HeaderRule.isFor r.phase r.pattern r.change.rank) = some r) :
    r ∈ kept := by
  have hr := List.mem_of_find?_eq_some hfind
  obtain ⟨a, ha, hsame⟩ := h.covered r hr
  have hfor := (hkeys a (h.subset ha) r hr).mp hsame
  -- The one that is kept does not come later, and the first one does not come earlier.
  rcases h.first a ha r hr hsame.symm with rfl | hprecedes
  · exact ha
  · have hrank : a.change.rank = r.change.rank := by
      simp only [HeaderRule.isFor, Bool.and_eq_true, beq_iff_eq] at hfor
      exact hfor.2
    have hle := idxOf_le_of_find? hfind (h.subset ha) hfor
    rcases hprecedes with hlt | ⟨-, hlt⟩ <;> omega

/-- Where keys tell, no other rule that is for the same is kept. -/
theorem Selection.filter_isFor (h : Selection rules kept) (hkeys : KeysTell rules)
    (phase : String) (pattern : List Char) (rank : Nat) :
    kept.filter (HeaderRule.isFor phase pattern rank) =
      (rules.find? (HeaderRule.isFor phase pattern rank)).toList := by
  cases hfind : rules.find? (HeaderRule.isFor phase pattern rank) with
  | none =>
    refine List.filter_eq_nil_iff.mpr fun a ha => ?_
    exact List.find?_eq_none.mp hfind a (h.subset ha)
  | some r =>
    have hr := List.mem_of_find?_eq_some hfind
    obtain ⟨rfl, rfl, rfl⟩ : r.phase = phase ∧ r.pattern = pattern ∧ r.change.rank = rank := by
      simpa [HeaderRule.isFor, and_assoc] using List.find?_some hfind
    have hself : r ∈ kept.filter (HeaderRule.isFor r.phase r.pattern r.change.rank) :=
      List.mem_filter.mpr ⟨h.mem_of_find? hkeys hfind, List.find?_some hfind⟩
    have hsame : ∀ b ∈ kept.filter (HeaderRule.isFor r.phase r.pattern r.change.rank),
        entryKey b.write = entryKey r.write := by
      intro b hb
      obtain ⟨hb, hfor⟩ := List.mem_filter.mp hb
      exact (hkeys b (h.subset hb) r hr).mpr hfor
    have hapart := h.apart.filter (HeaderRule.isFor r.phase r.pattern r.change.rank)
    match kept.filter (HeaderRule.isFor r.phase r.pattern r.change.rank), hself, hsame, hapart with
    | [a], hself, _, _ => rw [List.mem_singleton.mp hself, Option.toList_some]
    | a :: b :: more, _, hsame, hapart =>
      have hab := (hsame a List.mem_cons_self).trans
        (hsame b (List.mem_cons_of_mem a List.mem_cons_self)).symm
      exact absurd hab ((List.pairwise_cons.mp hapart).1 b List.mem_cons_self)

/-- The entries for headers are those of a selection of the rules. Each of them tells its rule, and
where every pattern is one word, the first rule of the text that does a kind of change to what a
pattern is about in a phase is listed, and no other one that does. -/
theorem headerEntries_selected (text : List Char) :
    ∃ kept, headerEntries text = kept.map HeaderRule.write
      ∧ Selection (headerRules text) kept
      ∧ (∀ a ∈ headerRules text, ∀ b ∈ headerRules text, a.write = b.write → a = b)
      ∧ ((∀ r ∈ headerRules text, words r.pattern = [r.pattern]) →
        ∀ phase pattern rank, kept.filter (HeaderRule.isFor phase pattern rank) =
          ((headerRules text).find? (HeaderRule.isFor phase pattern rank)).toList) := by
  have hselection := selection_firstRules (headerRules text)
  refine ⟨_, (headerEntries_eq text).trans (firstPerKey_map [] _), hselection, ?_, ?_⟩
  · exact fun a ha b hb =>
      (isRead_of_mem_headerRules ha).write_inj (isRead_of_mem_headerRules hb)
  · intro hwords
    refine hselection.filter_isFor fun a ha b hb => ?_
    exact entryKey_eq_iff (isRead_of_mem_headerRules ha) (isRead_of_mem_headerRules hb)
      (hwords a ha) (hwords b hb)

/-- An addition, and two deletions for the same pattern. -/
def repeatedDeletion : List Char :=
  ("^a url request-header x-reddit-translations: enabled\n"
    ++ "^b url response-header X-Trace: .+\n^b url response-header X-Other: .+").toList

theorem headerEntries_selected_repeatedDeletion :
    (∀ r ∈ headerRules repeatedDeletion, words r.pattern = [r.pattern])
      ∧ ∃ kept, headerEntries repeatedDeletion = kept.map HeaderRule.write
        ∧ Selection (headerRules repeatedDeletion) kept
        ∧ kept.filter (HeaderRule.isFor "http-response" "^b".toList 0) =
          [⟨"http-response", "^b".toList, .delete "X-Trace".toList⟩] := by
  have hrules : headerRules repeatedDeletion =
      [⟨"http-request", "^a".toList, .addTranslations⟩,
        ⟨"http-response", "^b".toList, .delete "X-Trace".toList⟩,
        ⟨"http-response", "^b".toList, .delete "X-Other".toList⟩] := by
    decide +kernel
  have hwords : ∀ r ∈ headerRules repeatedDeletion, words r.pattern = [r.pattern] := by
    rw [hrules]
    decide
  obtain ⟨kept, hkept, hselection, -, hfirst⟩ := headerEntries_selected repeatedDeletion
  have hfind : (headerRules repeatedDeletion).find?
      (HeaderRule.isFor "http-response" "^b".toList 0) =
        some ⟨"http-response", "^b".toList, .delete "X-Trace".toList⟩ := by
    rw [hrules]
    decide +kernel
  refine ⟨hwords, kept, hkept, hselection, ?_⟩
  rw [hfirst hwords, hfind, Option.toList_some]

end Intercept.Section
