import Intercept.Proofs.Hostnames.Entries

/-!
# Intercept.Proofs.Hostnames.Building -- lists of hostnames that are built in steps

A list of hostnames is built entry by entry, from several entries or a line at once, and by merging
lists. However that is done, the result is the list of all entries given on the way, in their order.
What a list shows and which hosts it lets through depend on the set of these entries alone: neither
their order nor their repetition nor the grouping into lists can be told from it.
-/

namespace Intercept

namespace Hostnames

/-! ## Merging what entries make -/

/-- An entry that is added to a list before it is merged might as well be added afterwards. -/
theorem merge_add (h other : Hostnames) (entry : String) :
    h.merge (other.add entry) = (h.merge other).add entry := by
  rcases add_cases entry with hadd | ⟨host, -, hadd⟩ | ⟨host, -, hadd⟩
  · rw [hadd, hadd]
  · rw [hadd, hadd]
    simp only [merge_eq, addAll_addNew]
  · rw [hadd, hadd]
    simp only [merge_eq, addAll_addNew]

/-- Adding entries one after the other is merging the list of them. -/
theorem foldl_add (h : Hostnames) (entries : List String) :
    entries.foldl add h = h.merge (ofEntries entries) := by
  induction entries generalizing h with
  | nil => rfl
  | cons entry entries ih =>
    calc entries.foldl add (h.add entry)
        = (h.merge (add {} entry)).merge (ofEntries entries) := by
          rw [ih, merge_add, merge_empty]
      _ = h.merge (entries.foldl add (add {} entry)) := by
          rw [← merge_assoc, ← ih]

/-- The list of some entries and more is the list of the first with the list of the others merged
into it. -/
theorem ofEntries_concat (as bs : List String) :
    ofEntries (as ++ bs) = (ofEntries as).merge (ofEntries bs) := by
  rw [ofEntries, List.foldl_append]
  exact foldl_add (ofEntries as) bs

/-! ## Which entries a list has -/

theorem mem_included_ofEntries {entries : List String} {x : String} :
    x ∈ (ofEntries entries).included ↔ ∃ e ∈ entries, x ∈ (ofEntries [e]).included := by
  induction entries with
  | nil => simp [ofEntries]
  | cons e entries ih =>
    rw [← List.singleton_append, ofEntries_concat, mem_included_merge, ih]
    simp

theorem mem_excluded_ofEntries {entries : List String} {x : String} :
    x ∈ (ofEntries entries).excluded ↔ ∃ e ∈ entries, x ∈ (ofEntries [e]).excluded := by
  induction entries with
  | nil => simp [ofEntries]
  | cons e entries ih =>
    rw [← List.singleton_append, ofEntries_concat, mem_excluded_merge, ih]
    simp

/-- The same entries, however often and in whatever order, make lists with the same entries. -/
theorem sameEntries_ofEntries {as bs : List String} (h : ∀ e, e ∈ as ↔ e ∈ bs) :
    SameEntries (ofEntries as) (ofEntries bs) where
  included x := by
    rw [mem_included_ofEntries, mem_included_ofEntries]
    simp only [h]
  excluded x := by
    rw [mem_excluded_ofEntries, mem_excluded_ofEntries]
    simp only [h]

/-! ## Entries with a dash in front -/

/-- A dash is no blank, so it stays in front of its entry. -/
theorem exists_trim_dash (cs : List Char) :
    ∃ rest, Text.asciiLower (Text.trim ('-' :: cs)) = '-' :: rest := by
  have hstart : Text.trimStart ('-' :: cs) = '-' :: cs :=
    Text.trimStart_cons_of_not_blank (by decide)
  rw [Text.trim, hstart, Text.trimEnd_cons_of_not_blank (by decide)]
  exact ⟨_, rfl⟩

/-- An entry with a dash in front includes nothing. -/
theorem included_add_dash (h : Hostnames) {entry : String} {cs : List Char}
    (hentry : entry.toList = '-' :: cs) : (h.add entry).included = h.included := by
  rw [add_eq]
  split
  · rfl
  · obtain ⟨rest, hrest⟩ := exists_trim_dash cs
    rw [hentry, hrest]
    unfold addNormal
    split
    · rfl
    · rfl
    · next hne => exact absurd rfl (hne rest)

theorem excluded_subset_add (h : Hostnames) (entry : String) :
    h.excluded ⊆ (h.add entry).excluded := by
  intro x hx
  rcases add_cases entry with hadd | ⟨host, -, hadd⟩ | ⟨host, -, hadd⟩
  · rwa [hadd]
  · rwa [hadd]
  · rw [hadd]
    exact mem_addNew.mpr (.inr hx)

theorem covers_mono {list list' : List String} (h : list ⊆ list') {host : String}
    (hcovers : covers list host = true) : covers list' host = true := by
  rw [covers, List.any_eq_true] at hcovers ⊢
  obtain ⟨e, he, hmatch⟩ := hcovers
  exact ⟨e, h he, hmatch⟩

/-- An entry with a dash in front can only take hosts out. -/
theorem intercepts_of_add_dash {h : Hostnames} {entry host : String} {cs : List Char}
    (hentry : entry.toList = '-' :: cs) (hadd : (h.add entry).intercepts host = true) :
    h.intercepts host = true := by
  rw [intercepts, Bool.and_eq_true, Bool.not_eq_true', included_add_dash h hentry] at hadd
  rw [intercepts, Bool.and_eq_true, Bool.not_eq_true']
  refine ⟨Bool.eq_false_iff.mpr ?_, hadd.2⟩
  intro hcovers
  have hmore := covers_mono (excluded_subset_add h entry) hcovers
  exact Bool.eq_false_iff.mp hadd.1 hmore

/-! ## Shown entries -/

/-- What is included has no dash in front, for with one it would be excluded. -/
theorem Includes.head_ne_dash {host : String} (h : Includes host) (cs : List Char) :
    host.toList ≠ '-' :: cs := by
  intro hdash
  have hadd := congrArg Hostnames.included (h {})
  rw [included_add_dash {} hdash] at hadd
  cases hadd

theorem Settled.nodup_entries {h : Hostnames} (hs : h.Settled) : h.entries.Nodup := by
  rw [entries, List.nodup_append]
  refine ⟨?_, ?_, ?_⟩
  · exact (List.mergeSort_perm _ _).nodup_iff.mpr (nodup_dashed hs.distinct.excluded)
  · exact (List.mergeSort_perm _ _).nodup_iff.mpr hs.distinct.included
  · intro a ha b hb hab
    obtain ⟨host, -, rfl⟩ := List.mem_map.mp (mem_sorted.mp ha)
    apply (hs.included b (mem_sorted.mp hb)).head_ne_dash host.toList
    rw [← hab, String.toList_append]
    rfl

end Hostnames

/-! ## Lists that are built -/

/-- How a list of hostnames comes about. -/
inductive Building
  | empty
  | ofEntries (entries : List String)
  | parse (value : String)
  | add (before : Building) (entry : String)
  | merge (before other : Building)

namespace Building

/-- The list that is built. -/
def result : Building → Hostnames
  | empty => {}
  | ofEntries entries => .ofEntries entries
  | parse value => .parse value
  | add before entry => before.result.add entry
  | merge before other => before.result.merge other.result

/-- The entries that are given on the way. -/
def given : Building → List String
  | empty => []
  | ofEntries entries => entries
  | parse value => Hostnames.entriesOfLine value.toList
  | add before entry => before.given ++ [entry]
  | merge before other => before.given ++ other.given

/-- Building a list in whatever way is making it of the given entries at once. -/
theorem result_eq (b : Building) : b.result = .ofEntries b.given := by
  induction b with
  | empty => rfl
  | ofEntries entries => rfl
  | parse value => rfl
  | add before entry ih =>
    rw [result, given, Hostnames.ofEntries_concat, ih]
    exact Hostnames.foldl_add _ [entry]
  | merge before other ih ihOther => rw [result, given, Hostnames.ofEntries_concat, ih, ihOther]

theorem settled_result (b : Building) : b.result.Settled := by
  rw [b.result_eq]
  exact Hostnames.settled_ofEntries b.given

/-- Lists that are built of the same set of entries show the same and let the same hosts through;
entries that are given at once make the list that results from merging the lists of their parts; a
list shows no entry twice, and what it shows makes a list that lets the same hosts through; and an
entry with a dash in front never lets a host through that was not. -/
theorem determined_by_given :
    (∀ b b' : Building, (∀ e, e ∈ b.given ↔ e ∈ b'.given) →
      b.result.entries = b'.result.entries ∧
        ∀ host, b.result.intercepts host = b'.result.intercepts host) ∧
    (∀ as bs, Hostnames.ofEntries (as ++ bs) =
      (Hostnames.ofEntries as).merge (Hostnames.ofEntries bs)) ∧
    (∀ b : Building, b.result.entries.Nodup ∧
      ∀ host, (Hostnames.ofEntries b.result.entries).intercepts host = b.result.intercepts host) ∧
    ∀ (h : Hostnames) (entry : String) (cs : List Char), entry.toList = '-' :: cs →
      ∀ host, h.intercepts host = false → (h.add entry).intercepts host = false := by
  refine ⟨?_, Hostnames.ofEntries_concat, ?_, ?_⟩
  · intro b b' hgiven
    have hsame : Hostnames.SameEntries b.result b'.result := by
      rw [b.result_eq, b'.result_eq]
      exact Hostnames.sameEntries_ofEntries hgiven
    exact ⟨Hostnames.entries_congr b.settled_result.distinct b'.settled_result.distinct hsame,
      Hostnames.intercepts_congr hsame⟩
  · intro b
    exact ⟨b.settled_result.nodup_entries,
      Hostnames.intercepts_congr (Hostnames.sameEntries_ofEntries_entries b.settled_result)⟩
  · intro h entry cs hentry host hnot
    refine Bool.eq_false_iff.mpr ?_
    intro hadd
    exact Bool.eq_false_iff.mp hnot (Hostnames.intercepts_of_add_dash hentry hadd)

/-- A list that is built of a line, of entries and of one more, against the same entries at once, in
another order and with one of them repeated. -/
theorem determined_by_given_grouped :
    let b := add (merge (parse "%APPEND% A.com, -b.com") (ofEntries ["*.c.com"])) " -x.c.com "
    let b' := ofEntries ["*.c.com", " -x.c.com ", "-b.com", "*.c.com", "A.com", "%APPEND%"]
    (∀ e, e ∈ b.given ↔ e ∈ b'.given) ∧ b.result ≠ b'.result ∧
      b.result.entries = b'.result.entries ∧
      b.result.intercepts "y.c.com" = b'.result.intercepts "y.c.com" ∧
      b.result.intercepts "a.com" = true ∧ (b.result.add "-A.com").intercepts "b.com" = false := by
  intro b b'
  have hgiven : ∀ e, e ∈ b.given ↔ e ∈ b'.given := by
    have hb : b.given = ["%APPEND%", "A.com", "-b.com", "*.c.com", " -x.c.com "] := by decide
    have hb' : b'.given =
      ["*.c.com", " -x.c.com ", "-b.com", "*.c.com", "A.com", "%APPEND%"] := rfl
    intro e
    rw [hb, hb']
    simp only [List.mem_cons, List.not_mem_nil]
    grind
  obtain ⟨hsame, -, -, hdash⟩ := determined_by_given
  obtain ⟨hentries, hintercepts⟩ := hsame b b' hgiven
  refine ⟨hgiven, by decide, hentries, hintercepts _, by decide, ?_⟩
  exact hdash b.result "-A.com" "A.com".toList rfl "b.com" (by decide)

end Building

end Intercept
