import Intercept.Proofs.Host.Address
import Intercept.Proofs.Sgmodule.LineSets
import Intercept.Proofs.Text.Parts
import Intercept.Proofs.Text.Words

/-!
# Intercept.Proofs.Section.FilterOrder -- which filter rules there are, and in which order

The order of filter rules is computed from keys in which an address is a list of bytes. Addresses are
only compared with addresses of the same kind, and these have as many bytes, so it is their numbers
that are compared. No two rules share a place, and what has been put in order stays as it is when it
is read again.
-/

namespace Intercept.Section

open Host (Address)

/-! ## What is a rule -/

/-- A line of a text that is a filter rule, without blanks around it: it is not commented out, and
names a type with a comma behind it. -/
def IsRule (text line : List Char) : Prop :=
  (∃ raw ∈ Text.lines text, Text.trim raw = line) ∧ line ≠ [] ∧ line.head? ≠ some '#'
    ∧ ∃ type ∈ filterTypes, type.toList <:+: line

variable {text line a b : List Char}

theorem mem_filterEntries_iff : line ∈ filterEntries text ↔ IsRule text line := by
  rw [mem_filterEntries, filterLines, List.mem_filter, List.mem_map, IsRule]
  simp only [namesFilter, Bool.and_eq_true, Bool.not_eq_true', List.isEmpty_eq_false_iff,
    bne_iff_ne, List.any_eq_true, Text.contains_iff_infix, and_assoc]

/-! ## Places -/

/-- A rule that names the direct way, blanks within it and letter case aside. -/
def Direct (line : List Char) : Prop :=
  ",DIRECT".toList <:+: Unicode.uppercase (line.filter (· != ' '))

instance (line : List Char) : Decidable (Direct line) :=
  inferInstanceAs (Decidable (_ <:+: _))

/-- The place among the types of the one with which a rule begins; behind them all if there is none.
-/
def typeRank (line : List Char) : Nat :=
  filterTypes.findIdx fun type => type.toList <+: line

/-- Networks of four bytes come first, then those of eight groups, then everything else. -/
def family : Option Address → Nat
  | some (.v4 _) => 0
  | some (.v6 _) => 1
  | none => 2

/-- The place of a rule: whether it is direct, its type, whether it is a network and of which kind,
the number of the network, and its text in capitals and as it is. -/
def place (line : List Char) : Nat × Nat × Nat × Nat × List Char × List Char :=
  let address := networkAddress? line
  (if Direct line then 0 else 1, typeRank line, family address,
    (address.map Address.number).getD 0, Unicode.uppercase line, line)

/-- One rule comes before another by the first part of their places that is not the same. Texts come
in the order of their characters. -/
def Before (a b : List Char) : Prop :=
  Prod.Lex (· < ·) (Prod.Lex (· < ·) (Prod.Lex (· < ·) (Prod.Lex (· < ·)
    (Prod.Lex (List.Lex (· < ·)) (List.Lex (· < ·)))))) (place a) (place b)

theorem sound_of_networkAddress? {address : Address} (h : networkAddress? line = some address) :
    address.Sound := by
  rw [networkAddress?] at h
  obtain ⟨rest, -, h⟩ := Option.bind_eq_some_iff.mp h
  split at h
  · cases h
  · obtain ⟨network, -, h⟩ := Option.bind_eq_some_iff.mp h
    dsimp only at h
    split at h
    · split at h
      · exact Host.sound_of_parse? h
      · cases h
    · cases h

/-- Addresses of the same kind compare as their numbers do. -/
theorem compare_address {x y : Option Address} (hx : ∀ address ∈ x, address.Sound)
    (hy : ∀ address ∈ y, address.Sound) (h : family x = family y) :
    compare ((x.map Address.bytes).getD []) ((y.map Address.bytes).getD [])
      = compare ((x.map Address.number).getD 0) ((y.map Address.number).getD 0) := by
  match x, y with
  | none, none => rfl
  | some (.v4 bytes), some (.v4 bytes') => exact Host.compare_bytes (hx _ rfl) (hy _ rfl)
  | some (.v6 groups), some (.v6 groups') => exact Host.compare_groups (hx _ rfl) (hy _ rfl)

theorem compare_text_eq_lt : compare a b = .lt ↔ List.Lex (· < ·) a b := by
  induction a generalizing b with
  | nil =>
    cases b with
    | nil => exact iff_of_false nofun nofun
    | cons d b => exact iff_of_true rfl .nil
  | cons c a ih =>
    cases b with
    | nil => exact iff_of_false nofun nofun
    | cons d b =>
      have hstep : compare (c :: a) (d :: b) = (compare c d).then (compare a b) :=
        List.compareLex_cons_cons
      have hchar : compare c d = .lt ↔ c < d := compareOfLessAndEq_eq_lt
      rw [hstep, Ordering.then_eq_lt, List.cons_lex_cons_iff, ih, hchar, Std.compare_eq_iff_eq]

/-- The first two numbers of a place are those of the key. -/
theorem key_eq_place (line : List Char) : (FilterKey.of line).notDirect = (place line).1
    ∧ (FilterKey.of line).type = (place line).2.1 := by
  have hdirect : isDirect line = true ↔ Direct line := Text.contains_iff_infix
  constructor
  · simp only [FilterKey.of, place, hdirect]
  · have htype : ∀ type : String, Text.startsWith type.toList line
        = decide (type.toList <+: line) := by
      intro type
      rw [Bool.eq_iff_iff, decide_eq_true_iff, Text.startsWith_iff_prefix]
    exact congrArg filterTypes.findIdx (funext htype)

/-- Filter rules are compared by their places. -/
theorem compareFilters_eq_lt : compareFilters a b = .lt ↔ Before a b := by
  have haddress : (place a).2.2.1 = (place b).2.2.1 →
      compare (FilterKey.of a).address (FilterKey.of b).address
        = compare (place a).2.2.2.1 (place b).2.2.2.1 :=
    compare_address (fun _ => sound_of_networkAddress?) (fun _ => sound_of_networkAddress?)
  simp only [compareFilters, compareLex, compareOn, Ordering.then_eq_lt, Before, Prod.lex_def,
    key_eq_place, Nat.compare_eq_lt, Nat.compare_eq_eq]
  refine or_congr_right (and_congr_right fun _ => or_congr_right (and_congr_right fun _ => ?_))
  refine or_congr_right (and_congr_right fun hfamily => ?_)
  rw [haddress hfamily, Nat.compare_eq_lt, Nat.compare_eq_eq]
  refine or_congr_right (and_congr_right fun _ => ?_)
  exact or_congr compare_text_eq_lt (and_congr Std.compare_eq_iff_eq compare_text_eq_lt)

theorem pairwise_before (text : List Char) : (filterEntries text).Pairwise Before := by
  refine ((pairwise_filterEntries text).and (nodup_filterEntries text)).imp fun ⟨hle, hne⟩ => ?_
  refine compareFilters_eq_lt.mp ?_
  rcases Ordering.isLE_iff_eq_lt_or_eq_eq.mp hle with hlt | heq
  · exact hlt
  · exact absurd (Std.LawfulEqCmp.eq_of_compare heq) hne

/-! ## Reading the rules again -/

/-- For what is not empty, it does not matter whether lines or the pieces between line feeds are
looked at. -/
theorem exists_line_iff (hne : line ≠ []) : (∃ raw ∈ Text.lines text, Text.trim raw = line)
    ↔ ∃ piece ∈ Text.splitOn '\n' text, Text.trim piece = line := by
  have hread := Text.filterMap_lines_trim (f := fun cs => if cs = [] then none else some cs)
    (if_pos rfl) text
  have hmem : ∀ {pieces : List (List Char)}, (∃ piece ∈ pieces, Text.trim piece = line) ↔
      line ∈ pieces.filterMap fun piece =>
        if Text.trim piece = [] then none else some (Text.trim piece) := by
    intro pieces
    rw [List.mem_filterMap]
    refine exists_congr fun piece => and_congr_right fun _ => ?_
    constructor
    · rintro rfl
      exact if_neg hne
    · intro h
      split at h
      · cases h
      · exact Option.some.inj h
  rw [hmem, hmem, hread]

theorem filterEntries_join (text : List Char) :
    filterEntries (Text.join ['\n'] (filterEntries text)) = filterEntries text := by
  have hlines : ∀ e ∈ filterEntries text, '\n' ∉ e ∧ Text.trim e = e := by
    intro e he
    obtain ⟨⟨raw, hraw, rfl⟩, -⟩ := mem_filterEntries_iff.mp he
    exact ⟨fun hmem => Text.not_mem_of_mem_lines hraw (Text.trim_subset raw hmem),
      Text.trim_trim raw⟩
  have hmem : ∀ line, line ∈ filterEntries (Text.join ['\n'] (filterEntries text))
      ↔ line ∈ filterEntries text := by
    intro line
    rw [mem_filterEntries_iff]
    constructor
    · rintro ⟨hline, hne, -⟩
      obtain ⟨piece, hpiece, htrim⟩ := (exists_line_iff hne).mp hline
      by_cases hempty : filterEntries text = []
      · rw [hempty] at hpiece
        obtain rfl := List.mem_singleton.mp hpiece
        exact absurd htrim.symm hne
      · rw [Text.splitOn_join hempty fun e he => (hlines e he).1] at hpiece
        rw [← htrim, (hlines piece hpiece).2]
        exact hpiece
    · intro hline
      obtain ⟨-, hne, hrule⟩ := mem_filterEntries_iff.mp hline
      refine ⟨(exists_line_iff hne).mpr ⟨line, ?_, (hlines line hline).2⟩, hne, hrule⟩
      rwa [Text.splitOn_join (List.ne_nil_of_mem hline) fun e he => (hlines e he).1]
  exact Text.eq_of_ascending (Text.eq_of_isLE_of_isLE compareFilters) (pairwise_filterEntries _)
    (pairwise_filterEntries text) (nodup_filterEntries _) (nodup_filterEntries text) hmem

/-- The filter rules of a text: each once, in the order of their places, and the same when they are
collected again from their own lines. -/
theorem filterEntries_in_order (text : List Char) :
    (filterEntries text).Nodup ∧ (∀ line, line ∈ filterEntries text ↔ IsRule text line)
      ∧ (filterEntries text).Pairwise Before
      ∧ filterEntries (Text.join ['\n'] (filterEntries text)) = filterEntries text :=
  ⟨nodup_filterEntries text, fun _ => mem_filterEntries_iff, pairwise_before text,
    filterEntries_join text⟩

end Intercept.Section
