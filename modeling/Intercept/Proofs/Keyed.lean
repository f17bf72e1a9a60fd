import Intercept.Keyed
import Mathlib.Data.List.Induction

/-!
# Intercept.Proofs.Keyed -- what a small dictionary gives back

A dictionary that is a list of pairs gives back the value that was put under a key last, and a removal
that spares a key leaves what is under it. No key stands twice in what was put together from pairs:
the keys are in the order in which they first came, each with what came last for it. So the order of
the pairs does not show in what is looked up.
-/

namespace Intercept.Keyed

variable {κ α : Type} [DecidableEq κ]

/-! ## Keys -/

theorem mem_keys_put {key k : κ} {value : α} {pairs : List (κ × α)} :
    k ∈ (put key value pairs).map Prod.fst ↔ k = key ∨ k ∈ pairs.map Prod.fst := by
  induction pairs with
  | nil => simp [put]
  | cons p rest ih =>
    rw [put]
    split
    · next hkey => simp [hkey]
    · rw [List.map_cons, List.mem_cons, ih, List.map_cons, List.mem_cons, or_left_comm]

theorem nodup_put {pairs : List (κ × α)} (h : (pairs.map Prod.fst).Nodup) (key : κ) (value : α) :
    ((put key value pairs).map Prod.fst).Nodup := by
  induction pairs with
  | nil => simp [put]
  | cons p rest ih =>
    rw [List.map_cons, List.nodup_cons] at h
    rw [put]
    split
    · rw [List.map_cons, List.nodup_cons]
      exact h
    · next hkey =>
      rw [List.map_cons, List.nodup_cons, mem_keys_put, not_or]
      exact ⟨⟨hkey, h.1⟩, ih h.2⟩

theorem put_of_not_mem {key : κ} {pairs : List (κ × α)} (h : key ∉ pairs.map Prod.fst) (value : α) :
    put key value pairs = pairs ++ [(key, value)] := by
  induction pairs with
  | nil => rfl
  | cons p rest ih =>
    rw [List.map_cons, List.mem_cons, not_or] at h
    rw [put, if_neg (Ne.symm h.1), ih h.2, List.cons_append]

theorem nodup_ofList (pairs : List (κ × α)) : ((ofList pairs).map Prod.fst).Nodup := by
  have hfold : ∀ acc : List (κ × α), (acc.map Prod.fst).Nodup →
      ((pairs.foldl (fun acc p => put p.1 p.2 acc) acc).map Prod.fst).Nodup := by
    induction pairs with
    | nil => exact fun _ hacc => hacc
    | cons p rest ih => exact fun acc hacc => ih _ (nodup_put hacc p.1 p.2)
  exact hfold [] .nil

/-- Pairs whose keys differ are a dictionary as they stand. -/
theorem ofList_of_nodup {pairs : List (κ × α)} (h : (pairs.map Prod.fst).Nodup) :
    ofList pairs = pairs := by
  have hfold : ∀ acc : List (κ × α), ((acc ++ pairs).map Prod.fst).Nodup →
      pairs.foldl (fun acc p => put p.1 p.2 acc) acc = acc ++ pairs := by
    clear h
    induction pairs with
    | nil => exact fun acc _ => (List.append_nil acc).symm
    | cons p rest ih =>
      intro acc hacc
      have hp : p.1 ∉ acc.map Prod.fst := by
        rw [List.map_append, List.map_cons] at hacc
        intro hmem
        exact (List.nodup_append.mp hacc).2.2 p.1 hmem p.1 List.mem_cons_self rfl
      rw [List.append_cons] at hacc ⊢
      rw [List.foldl_cons, put_of_not_mem hp, ih _ hacc]
  exact hfold [] h

theorem ofList_concat (pairs : List (κ × α)) (p : κ × α) :
    ofList (pairs ++ [p]) = put p.1 p.2 (ofList pairs) := by
  rw [ofList, ofList, List.foldl_append, List.foldl_cons, List.foldl_nil]

theorem keys_put_of_mem {key : κ} {pairs : List (κ × α)} (h : key ∈ pairs.map Prod.fst)
    (value : α) : (put key value pairs).map Prod.fst = pairs.map Prod.fst := by
  induction pairs with
  | nil => cases h
  | cons p rest ih =>
    rw [put]
    split
    · rfl
    · next hkey =>
      rw [List.map_cons, List.mem_cons] at h
      rw [List.map_cons, List.map_cons, ih (h.resolve_left (Ne.symm hkey))]

/-! ## Looking up -/

variable [BEq κ] [LawfulBEq κ]

/-- The keys of a dictionary stand in the order in which they first came. -/
theorem keys_ofList (pairs : List (κ × α)) :
    (ofList pairs).map Prod.fst = (pairs.map Prod.fst).eraseDups := by
  -- Induction from the end, where the last pair is put into what the others made.
  induction pairs using List.reverseRecOn with
  | nil => rfl
  | append_singleton pairs p ih =>
    rw [ofList_concat, List.map_append, List.eraseDups_append, ← ih]
    by_cases hp : p.1 ∈ pairs.map Prod.fst
    · have hnone : [p.1].removeAll (pairs.map Prod.fst) = [] := by
        simp [List.removeAll, hp]
      rw [List.map_singleton, hnone, List.eraseDups_nil, List.append_nil]
      exact keys_put_of_mem (by rwa [ih, List.mem_eraseDups]) p.2
    · have hone : [p.1].removeAll (pairs.map Prod.fst) = [p.1] := by
        simp [List.removeAll, hp]
      rw [List.map_singleton, hone, put_of_not_mem (by rwa [ih, List.mem_eraseDups]),
        List.map_append]
      rfl

theorem lookup_cons_eq (p : κ × α) (rest : List (κ × α)) (k : κ) :
    (p :: rest).lookup k = if k = p.1 then some p.2 else rest.lookup k := by
  rw [List.lookup_cons]
  by_cases hk : k = p.1
  · rw [if_pos hk, beq_iff_eq.mpr hk]
  · rw [if_neg hk, beq_eq_false_iff_ne.mpr hk]

theorem lookup_put (key : κ) (value : α) (pairs : List (κ × α)) (k : κ) :
    (put key value pairs).lookup k = if k = key then some value else pairs.lookup k := by
  induction pairs with
  | nil => rw [put, lookup_cons_eq]
  | cons p rest ih =>
    rw [put]
    split
    -- The pair of the key is replaced where it stands; behind another pair the key is still to come.
    case isTrue hkey =>
      rw [lookup_cons_eq, lookup_cons_eq, hkey]
      split
      · rfl
      · rfl
    case isFalse hkey =>
      rw [lookup_cons_eq, lookup_cons_eq, ih]
      by_cases hk : k = key
      · rw [if_pos hk, if_neg (hk ▸ Ne.symm hkey), if_pos hk]
      · rw [if_neg hk, if_neg hk]

/-- What is kept under a key can be looked up after a removal as before. -/
theorem lookup_filter {keep : κ × α → Bool} {k : κ} (h : ∀ value, keep (k, value) = true)
    (pairs : List (κ × α)) : (pairs.filter keep).lookup k = pairs.lookup k := by
  induction pairs with
  | nil => rfl
  | cons p rest ih =>
    rw [lookup_cons_eq, List.filter_cons]
    by_cases hk : k = p.1
    · rw [if_pos hk, if_pos (by simpa [hk] using h p.2), lookup_cons_eq, if_pos hk]
    · rw [if_neg hk]
      split
      · rw [lookup_cons_eq, if_neg hk, ih]
      · exact ih

/-- What is looked up in a dictionary stands in it. -/
theorem mem_of_lookup {k : κ} {value : α} {pairs : List (κ × α)}
    (h : pairs.lookup k = some value) : (k, value) ∈ pairs := by
  induction pairs with
  | nil => cases h
  | cons p rest ih =>
    rw [lookup_cons_eq] at h
    split at h
    case isTrue hk =>
      cases h
      rw [hk]
      exact List.mem_cons_self
    case isFalse hk => exact List.mem_cons_of_mem p (ih h)

/-! ## Dictionaries without repeated keys -/

theorem lookup_eq_some_iff {pairs : List (κ × α)} (h : (pairs.map Prod.fst).Nodup) {k : κ}
    {value : α} : pairs.lookup k = some value ↔ (k, value) ∈ pairs := by
  refine ⟨mem_of_lookup, fun hmem => ?_⟩
  induction pairs with
  | nil => cases hmem
  | cons p rest ih =>
    rw [List.map_cons, List.nodup_cons] at h
    rw [lookup_cons_eq]
    rcases List.mem_cons.mp hmem with rfl | hmem
    · exact if_pos rfl
    · rw [if_neg, ih h.2 hmem]
      rintro rfl
      exact h.1 (List.mem_map.mpr ⟨_, hmem, rfl⟩)

theorem lookup_ofList (pairs : List (κ × α)) (k : κ) :
    (ofList pairs).lookup k = pairs.reverse.lookup k := by
  induction pairs using List.reverseRecOn with
  | nil => rfl
  | append_singleton pairs p ih =>
    rw [ofList_concat, lookup_put, ih, List.reverse_append, List.reverse_singleton,
      List.singleton_append, lookup_cons_eq]

/-- What a dictionary gives for a key is what the last pair with that key brought. -/
theorem mem_ofList_iff {pairs : List (κ × α)} {k : κ} {value : α} :
    (k, value) ∈ ofList pairs ↔ ∃ earlier later, pairs = earlier ++ (k, value) :: later ∧
      ∀ p ∈ later, p.1 ≠ k := by
  rw [← lookup_eq_some_iff (nodup_ofList pairs), lookup_ofList, List.lookup_eq_some_iff]
  constructor
  · rintro ⟨later, earlier, hpairs, hlater⟩
    refine ⟨earlier.reverse, later.reverse, ?_, fun p hp => ?_⟩
    · rw [← List.reverse_reverse pairs, hpairs]
      simp
    · exact (bne_iff_ne.mp (hlater p (List.mem_reverse.mp hp))).symm
  · rintro ⟨earlier, later, rfl, hlater⟩
    refine ⟨later.reverse, earlier.reverse, by simp, fun p hp => ?_⟩
    exact bne_iff_ne.mpr (hlater p (List.mem_reverse.mp hp)).symm

/-- In which order the pairs stand does not show. -/
theorem lookup_perm {pairs pairs' : List (κ × α)} (h : (pairs.map Prod.fst).Nodup)
    (hperm : pairs.Perm pairs') (k : κ) : pairs.lookup k = pairs'.lookup k := by
  have h' : (pairs'.map Prod.fst).Nodup := (hperm.map Prod.fst).nodup h
  ext value
  rw [lookup_eq_some_iff h, lookup_eq_some_iff h', hperm.mem_iff]

end Intercept.Keyed
