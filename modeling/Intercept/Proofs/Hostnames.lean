import Intercept.Hostnames
import Intercept.Proofs.Text.Sorted

/-!
# Intercept.Proofs.Hostnames -- merging lists of hostnames

Merging keeps the place of an entry that is there and puts new ones at the end. It is adding one
entry after the other, and since an entry that was added stays, it does not matter whether the added
entries were themselves merged before. The entries of a list without repetition are shown in
ascending order, so what is shown depends on which entries there are and on nothing else.
-/

namespace Intercept.Hostnames

/-! ## Adding entries without repetition -/

/-- Adds elements in order, each at the end unless it is there already. -/
def addAll (list values : List String) : List String :=
  values.foldl (fun acc value => addNew value acc) list

theorem mem_addNew {value x : String} {list : List String} :
    x ∈ addNew value list ↔ x = value ∨ x ∈ list := by
  rw [addNew]
  split
  · next h =>
    rw [List.contains_iff_mem] at h
    constructor
    · exact Or.inr
    · rintro (rfl | hx)
      · exact h
      · exact hx
  · rw [List.mem_append, List.mem_singleton, or_comm]

theorem addNew_of_mem {value : String} {list : List String} (h : value ∈ list) :
    addNew value list = list := by
  rw [addNew, if_pos (List.contains_iff_mem.mpr h)]

theorem addNew_of_not_mem {value : String} {list : List String} (h : value ∉ list) :
    addNew value list = list ++ [value] := by
  rw [addNew, if_neg (by simpa using h)]

theorem mem_addAll {x : String} {list values : List String} :
    x ∈ addAll list values ↔ x ∈ values ∨ x ∈ list := by
  induction values generalizing list with
  | nil => simp [addAll]
  | cons value values ih =>
    show x ∈ addAll (addNew value list) values ↔ _
    rw [ih, mem_addNew, List.mem_cons, or_left_comm, or_assoc]

theorem addAll_concat (list values : List String) (value : String) :
    addAll list (values ++ [value]) = addNew value (addAll list values) := by
  simp [addAll, List.foldl_append]

/-- Adding an element to the added ones adds it at last. -/
theorem addAll_addNew (list values : List String) (value : String) :
    addAll list (addNew value values) = addNew value (addAll list values) := by
  by_cases h : value ∈ values
  · rw [addNew_of_mem h, addNew_of_mem (mem_addAll.mpr (Or.inl h))]
  · rw [addNew_of_not_mem h, addAll_concat]

theorem addAll_addAll (list xs ys : List String) :
    addAll list (addAll xs ys) = addAll (addAll list xs) ys := by
  induction ys generalizing xs with
  | nil => rfl
  | cons y ys ih =>
    show addAll list (addAll (addNew y xs) ys) = addAll (addNew y (addAll list xs)) ys
    rw [ih, addAll_addNew]

/-! ## Merging -/

theorem merge_eq (h other : Hostnames) :
    h.merge other = { included := addAll h.included other.included
                      excluded := addAll h.excluded other.excluded } :=
  rfl

@[simp]
theorem merge_empty (h : Hostnames) : h.merge {} = h := rfl

theorem merge_assoc (a b c : Hostnames) : a.merge (b.merge c) = (a.merge b).merge c := by
  simp only [merge_eq, addAll_addAll]

theorem mem_included_merge {x : String} {h other : Hostnames} :
    x ∈ (h.merge other).included ↔ x ∈ h.included ∨ x ∈ other.included := by
  rw [merge_eq, mem_addAll, or_comm]

theorem mem_excluded_merge {x : String} {h other : Hostnames} :
    x ∈ (h.merge other).excluded ↔ x ∈ h.excluded ∨ x ∈ other.excluded := by
  rw [merge_eq, mem_addAll, or_comm]

/-! ## Lists without repetition -/

/-- No entry stands twice. -/
structure Distinct (h : Hostnames) : Prop where
  included : h.included.Nodup
  excluded : h.excluded.Nodup

theorem nodup_addNew {list : List String} (h : list.Nodup) (value : String) :
    (addNew value list).Nodup := by
  by_cases hmem : value ∈ list
  · rwa [addNew_of_mem hmem]
  · rw [addNew_of_not_mem hmem]
    exact List.nodup_append.mpr ⟨h, by simp, fun a ha b hb => by
      rw [List.mem_singleton] at hb
      exact fun hab => hmem (hb ▸ hab ▸ ha)⟩

theorem nodup_addAll {list : List String} (h : list.Nodup) (values : List String) :
    (addAll list values).Nodup := by
  induction values generalizing list with
  | nil => exact h
  | cons value values ih => exact ih (nodup_addNew h value)

theorem distinct_empty : Distinct {} := ⟨.nil, .nil⟩

theorem Distinct.merge {h : Hostnames} (hd : h.Distinct) (other : Hostnames) :
    (h.merge other).Distinct :=
  ⟨nodup_addAll hd.included other.included, nodup_addAll hd.excluded other.excluded⟩

/-! ## Entries as they are shown -/

/-- Two lists of hostnames have the same entries, in whatever order. -/
structure SameEntries (h h' : Hostnames) : Prop where
  included : ∀ x, x ∈ h.included ↔ x ∈ h'.included
  excluded : ∀ x, x ∈ h.excluded ↔ x ∈ h'.excluded

theorem pairwise_sorted (list : List String) : (sorted list).Pairwise (· ≤ ·) := by
  have htrans : ∀ a b c : String, decide (a ≤ b) = true → decide (b ≤ c) = true →
      decide (a ≤ c) = true := by
    intro a b c hab hbc
    exact decide_eq_true (String.le_trans (of_decide_eq_true hab) (of_decide_eq_true hbc))
  have htotal : ∀ a b : String, (decide (a ≤ b) || decide (b ≤ a)) = true := by
    intro a b
    simpa using String.le_total a b
  exact (List.pairwise_mergeSort htrans htotal list).imp of_decide_eq_true

theorem mem_sorted {x : String} {list : List String} : x ∈ sorted list ↔ x ∈ list :=
  List.mem_mergeSort

/-- Sorting hides in which order the entries came. -/
theorem sorted_congr {as bs : List String} (ha : as.Nodup) (hb : bs.Nodup)
    (h : ∀ x, x ∈ as ↔ x ∈ bs) : sorted as = sorted bs := by
  refine Text.eq_of_ascending (fun a b => String.le_antisymm) (pairwise_sorted as)
    (pairwise_sorted bs) ?_ ?_ fun x => ?_
  · exact (List.mergeSort_perm as _).nodup_iff.mpr ha
  · exact (List.mergeSort_perm bs _).nodup_iff.mpr hb
  · rw [mem_sorted, mem_sorted, h]

theorem dash_injective : ∀ a b : String, "-" ++ a = "-" ++ b → a = b := by
  intro a b h
  have hlist := congrArg String.toList h
  rw [String.toList_append, String.toList_append] at hlist
  exact String.toList_injective (List.append_cancel_left hlist)

theorem nodup_dashed {list : List String} (h : list.Nodup) :
    (list.map fun e => "-" ++ e).Nodup := by
  rw [List.nodup_iff_pairwise_ne, List.pairwise_map]
  exact h.imp fun hne heq => hne (dash_injective _ _ heq)

theorem entries_congr {h h' : Hostnames} (hd : h.Distinct) (hd' : h'.Distinct)
    (hsame : SameEntries h h') : h.entries = h'.entries := by
  have hexcluded : ∀ x, x ∈ (h.excluded.map fun e => "-" ++ e)
      ↔ x ∈ (h'.excluded.map fun e => "-" ++ e) := by
    intro x
    simp only [List.mem_map, hsame.excluded]
  rw [entries, entries,
    sorted_congr (nodup_dashed hd.excluded) (nodup_dashed hd'.excluded) hexcluded,
    sorted_congr hd.included hd'.included hsame.included]

end Intercept.Hostnames
