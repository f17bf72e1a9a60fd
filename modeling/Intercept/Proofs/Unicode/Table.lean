import Intercept.Unicode.Table

/-!
# Intercept.Proofs.Unicode.Table -- what a table can answer

A look-up answers something of an entry whose code point is not behind the one that is asked for.
So what holds of all entries up to a code point holds of the answer, whether the entries are sorted
or not. The kernel cannot look into a text; the entries are therefore given from its characters.
-/

namespace Intercept.Unicode

/-! ## Entries from characters -/

/-- The words of a table, from the characters of its notation. -/
def wordsOf (cs : List Char) : List (List Char) :=
  let step := fun (c : Char) (state : List Char × List (List Char)) =>
    if c = ' ' ∨ c = '\n' then
      if state.1.isEmpty then state else ([], state.1 :: state.2)
    else (c :: state.1, state.2)
  let state := cs.foldr step ([], [])
  if state.1.isEmpty then state.2 else state.1 :: state.2

/-- The runs of a table, from the characters of its notation. -/
def runsOf (cs : List Char) : List Run :=
  (wordsOf cs).map Run.ofWord

/-- The code points and labels of a table, from the characters of its notation. -/
def marksOf (cs : List Char) : List (Nat × List Char) :=
  (wordsOf cs).map (leadingHex 0)

/-- The code points and sequences of a table, from the characters of its notation. -/
def expansionsOf (cs : List Char) : List (Nat × List Nat) :=
  (wordsOf cs).map fun word =>
    let (first, rest) := leadingHex 0 word
    (first, dottedHex rest.length (rest.drop 1))

theorem tableWords_ofList (cs : List Char) : tableWords (String.ofList cs) = wordsOf cs := by
  simp only [tableWords, wordsOf, String.toList_ofList]

theorem runTable_ofList (cs : List Char) : RunTable.ofText (String.ofList cs)
    = { firsts := ((runsOf cs).map Run.first).toArray, runs := (runsOf cs).toArray } := by
  simp only [RunTable.ofText, tableWords_ofList, runsOf, List.map_toArray]

theorem runs_ofText (cs : List Char) :
    (RunTable.ofText (String.ofList cs)).runs.toList = runsOf cs := by
  rw [runTable_ofList]

theorem markTable_ofList (cs : List Char) : MarkTable.ofText (String.ofList cs)
    = { firsts := ((marksOf cs).map Prod.fst).toArray
        labels := ((marksOf cs).map fun m => String.ofList m.2).toArray } := by
  simp only [MarkTable.ofText, tableWords_ofList, marksOf]

theorem expansionTable_ofList (cs : List Char) : ExpansionTable.ofText (String.ofList cs)
    = { firsts := ((expansionsOf cs).map Prod.fst).toArray
        targets := ((expansionsOf cs).map Prod.snd).toArray } := by
  simp only [ExpansionTable.ofText, tableWords_ofList, expansionsOf]

/-! ## Looking up -/

section Search

variable {keys : Array Nat} {x i : Nat}

theorem getD_lastIndexLE_le {fuel lo hi : Nat} (h : keys.getD lo 0 ≤ x) :
    keys.getD (lastIndexLE keys x fuel lo hi) 0 ≤ x := by
  fun_induction lastIndexLE keys x fuel lo hi with
  | case1 => exact h
  | case2 => exact h
  | case3 fuel lo hi _ mid hmid ih => exact ih hmid
  | case4 fuel lo hi _ mid _ ih => exact ih h

theorem lastIndexLE_lt {fuel lo hi : Nat} (h : lo < hi) : lastIndexLE keys x fuel lo hi < hi := by
  fun_induction lastIndexLE keys x fuel lo hi with
  | case1 => exact h
  | case2 => exact h
  | case3 fuel lo hi _ mid _ ih => exact ih (by omega)
  | case4 fuel lo hi _ mid _ ih => exact Nat.lt_trans (ih (by omega)) (by omega)

/-- The key that is found is not behind the one that is looked for. -/
theorem lastIndexLE?_eq_some (h : lastIndexLE? keys x = some i) :
    ∃ k, keys[i]? = some k ∧ k ≤ x := by
  rw [lastIndexLE?] at h
  split at h
  · cases h
  · next hfirst =>
    obtain rfl := Option.some.inj h
    rw [not_or, Nat.not_lt, Bool.not_eq_true, Array.isEmpty_eq_false_iff] at hfirst
    have hlt : lastIndexLE keys x keys.size 0 keys.size < keys.size :=
      lastIndexLE_lt (Array.size_pos_iff.mpr hfirst.1)
    refine ⟨_, Array.getElem?_eq_getElem hlt, ?_⟩
    have hle : keys.getD (lastIndexLE keys x keys.size 0 keys.size) 0 ≤ x :=
      getD_lastIndexLE_le hfirst.2
    rwa [Array.getD_eq_getD_getElem?, Array.getElem?_eq_getElem hlt] at hle

theorem lastIndexLE?_eq_none (h : ∀ k ∈ keys, x < k) : lastIndexLE? keys x = none := by
  rw [Option.eq_none_iff_forall_ne_some]
  intro i hi
  obtain ⟨k, hk, hle⟩ := lastIndexLE?_eq_some hi
  exact Nat.not_lt.mpr hle (h k (Array.mem_of_getElem? hk))

variable {j k : Nat}

theorem getD_le_getD (h : keys.toList.Pairwise (· ≤ ·)) (hij : i ≤ j) (hj : j < keys.size) :
    keys.getD i 0 ≤ keys.getD j 0 := by
  have hi : i < keys.size := Nat.lt_of_le_of_lt hij hj
  rw [Array.getD_eq_getD_getElem?, Array.getD_eq_getD_getElem?, Array.getElem?_eq_getElem hi,
    Array.getElem?_eq_getElem hj, Option.getD_some, Option.getD_some]
  rcases Nat.eq_or_lt_of_le hij with rfl | hlt
  · exact Nat.le_refl _
  · exact List.pairwise_iff_getElem.mp h i j hi hj hlt

/-- With fuel for every index in between, no key behind the one that is found is small enough. -/
theorem lt_getD_of_lastIndexLE_lt (h : keys.toList.Pairwise (· ≤ ·)) {fuel lo hi : Nat}
    (hfuel : hi ≤ lo + 1 + fuel) (hbeyond : ∀ j, hi ≤ j → j < keys.size → x < keys.getD j 0) :
    ∀ j, lastIndexLE keys x fuel lo hi < j → j < keys.size → x < keys.getD j 0 := by
  fun_induction lastIndexLE keys x fuel lo hi with
  | case1 lo hi => exact fun j hj => hbeyond j (by omega)
  | case2 fuel lo hi hle => exact fun j hj => hbeyond j (by omega)
  | case3 fuel lo hi hle mid _ ih => exact ih (by omega) hbeyond
  | case4 fuel lo hi hle mid hmid ih =>
    refine ih (by omega) fun j hj hsize => ?_
    exact Nat.lt_of_lt_of_le (Nat.not_le.mp hmid) (getD_le_getD h hj hsize)

/-- Among ascending keys, none behind the one that is found would do. -/
theorem exists_lastIndexLE? (h : keys.toList.Pairwise (· ≤ ·)) (hj : keys[j]? = some k)
    (hk : k ≤ x) : ∃ i, lastIndexLE? keys x = some i ∧ j ≤ i := by
  obtain ⟨hsize, hget⟩ := Array.getElem?_eq_some_iff.mp hj
  have hkey : keys.getD j 0 = k := by
    rw [Array.getD_eq_getD_getElem?, hj, Option.getD_some]
  have hfirst : keys.getD 0 0 ≤ k := hkey ▸ getD_le_getD h (Nat.zero_le j) hsize
  have hne : ¬ (keys.isEmpty = true ∨ x < keys.getD 0 0) := by
    rw [Array.isEmpty_iff_size_eq_zero]
    omega
  refine ⟨_, if_neg hne, Nat.not_lt.mp fun hlt => ?_⟩
  have hbehind := lt_getD_of_lastIndexLE_lt (x := x) h (by omega)
    (fun j hj hsize => absurd hsize (Nat.not_lt.mpr hj)) j hlt hsize
  omega

end Search

variable {cs : List Char} {n : Nat}

/-- What a table finds is a run of its own that contains the code point. -/
theorem RunTable.of_find?_eq_some {t : RunTable} {r : Run} (h : t.find? n = some r) :
    r ∈ t.runs.toList ∧ r.contains n = true := by
  rw [find?] at h
  split at h
  · cases h
  · next i _ =>
    obtain ⟨hget, hcontains⟩ := Option.filter_eq_some_iff.mp h
    exact ⟨Array.mem_toList_iff.mpr (Array.mem_of_getElem? hget), hcontains⟩

/-- A table leaves a code point alone or moves it along with a run that contains it. -/
theorem RunTable.send_cases (t : RunTable) (n : Nat) : t.send n = n
    ∨ ∃ r ∈ t.runs.toList, r.contains n = true ∧ t.send n = r.target + (n - r.first) := by
  rw [send]
  split
  · next r hfind =>
    obtain ⟨hr, hcontains⟩ := of_find?_eq_some hfind
    exact .inr ⟨r, hr, hcontains, rfl⟩
  · exact .inl rfl

/-- In front of all its runs a table finds nothing. -/
theorem RunTable.find?_eq_none (h : ∀ r ∈ runsOf cs, n < r.first) :
    (RunTable.ofText (String.ofList cs)).find? n = none := by
  have hkeys : ∀ k ∈ ((runsOf cs).map Run.first).toArray, n < k := by
    intro k hk
    obtain ⟨r, hr, rfl⟩ := List.mem_map.mp (List.mem_toArray.mp hk)
    exact h r hr
  rw [runTable_ofList, RunTable.find?, lastIndexLE?_eq_none hkeys]

/-- In front of all its entries a table finds nothing. -/
theorem ExpansionTable.find?_eq_none (h : ∀ e ∈ expansionsOf cs, n < e.1) :
    (ExpansionTable.ofText (String.ofList cs)).find? n = none := by
  have hkeys : ∀ k ∈ ((expansionsOf cs).map Prod.fst).toArray, n < k := by
    intro k hk
    obtain ⟨e, he, rfl⟩ := List.mem_map.mp (List.mem_toArray.mp hk)
    exact h e he
  rw [expansionTable_ofList, ExpansionTable.find?, lastIndexLE?_eq_none hkeys]

/-- What a table finds stands in one of its entries. -/
theorem ExpansionTable.mem_of_find? {ns : List Nat}
    (h : (ExpansionTable.ofText (String.ofList cs)).find? n = some ns) :
    (n, ns) ∈ expansionsOf cs := by
  rw [expansionTable_ofList, ExpansionTable.find?] at h
  split at h
  · cases h
  · next i hi =>
    split at h
    · next hkey =>
      obtain ⟨e, he, rfl⟩ := Option.map_eq_some_iff.mp
        ((List.getElem?_map).symm.trans (List.getElem?_toArray.symm.trans h))
      have hfirst : e.1 = n := by
        simpa [Array.getD_eq_getD_getElem?, he] using hkey
      exact hfirst ▸ List.mem_of_getElem? he
    · cases h

/-- The label of a code point is one of those that hold from there or from somewhere in front. -/
theorem MarkTable.label_mem (h : (MarkTable.ofText (String.ofList cs)).label n ≠ "") :
    ∃ m ∈ marksOf cs,
      m.1 ≤ n ∧ (MarkTable.ofText (String.ofList cs)).label n = String.ofList m.2 := by
  rw [markTable_ofList, MarkTable.label] at h ⊢
  split
  · next hnone => simp [hnone] at h
  · next i hi =>
    obtain ⟨k, hk, hle⟩ := lastIndexLE?_eq_some hi
    rw [List.getElem?_toArray, List.getElem?_map, Option.map_eq_some_iff] at hk
    obtain ⟨m, hm, rfl⟩ := hk
    refine ⟨m, List.mem_of_getElem? hm, hle, ?_⟩
    simp [Array.getD_eq_getD_getElem?, hm]

theorem RunTable.send_of_not_contains {t : RunTable}
    (h : ∀ r ∈ t.runs.toList, r.contains n = false) : t.send n = n := by
  rcases t.send_cases n with heq | ⟨r, hr, hcontains, -⟩
  · exact heq
  · rw [h r hr] at hcontains
    cases hcontains

/-! ## Runs that stand apart -/

/-- The runs of a table, each of which ends in front of the next, beside their first code points. -/
structure RunTable.Separate (t : RunTable) : Prop where
  firsts : t.firsts = t.runs.map Run.first
  forward : ∀ r ∈ t.runs.toList, r.first ≤ r.last
  apart : t.runs.toList.Pairwise fun r r' => r.last < r'.first

theorem Run.contains_iff {r : Run} : r.contains n = true ↔
    r.first ≤ n ∧ n ≤ r.last ∧ (n - r.first) % r.step = 0 := by
  simp [Run.contains, and_assoc]

/-- The code points that a run lists, each with its target. -/
theorem Run.mem_pairs {r : Run} {m : Nat} (h : r.first ≤ r.last) :
    (n, m) ∈ (List.range ((r.last - r.first) / max r.step 1 + 1)).map (fun i =>
      (r.first + i * r.step, r.target + i * r.step))
    ↔ r.contains n = true ∧ m = r.target + (n - r.first) := by
  rw [contains_iff, List.mem_map]
  constructor
  · rintro ⟨i, hi, heq⟩
    obtain ⟨rfl, rfl⟩ := Prod.mk.inj heq
    have hstep : i * r.step ≤ r.last - r.first := by
      have hle := Nat.le_trans (Nat.mul_le_mul_left i (Nat.le_max_left r.step 1))
        ((Nat.le_div_iff_mul_le (by omega)).mp (Nat.le_of_lt_succ (List.mem_range.mp hi)))
      exact hle
    refine ⟨⟨Nat.le_add_right _ _, by omega, ?_⟩, ?_⟩
    · rw [Nat.add_sub_cancel_left, Nat.mul_mod_left]
    · rw [Nat.add_sub_cancel_left]
  · rintro ⟨⟨hfirst, hlast, hmod⟩, rfl⟩
    have heq : (n - r.first) / r.step * r.step = n - r.first := by
      rw [Nat.div_mul_cancel (Nat.dvd_of_mod_eq_zero hmod)]
    refine ⟨(n - r.first) / r.step, List.mem_range.mpr (Nat.lt_succ_of_le ?_), ?_⟩
    · rcases Nat.eq_zero_or_pos r.step with hzero | hpos
      · rw [hzero, Nat.div_zero]
        exact Nat.zero_le _
      · rw [Nat.max_eq_left hpos]
        exact Nat.div_le_div_right (by omega)
    · rw [heq, Nat.add_sub_cancel' hfirst]

namespace RunTable.Separate

variable {t : RunTable} {r : Run}

theorem pairwise_firsts (h : t.Separate) : t.firsts.toList.Pairwise (· ≤ ·) := by
  rw [h.firsts, Array.toList_map, List.pairwise_map]
  refine h.apart.imp_of_mem fun hr _ hlt => ?_
  exact Nat.le_of_lt (Nat.lt_of_le_of_lt (h.forward _ hr) hlt)

/-- A table of separate runs finds the one that contains a code point. -/
theorem find?_eq_some (h : t.Separate) :
    t.find? n = some r ↔ r ∈ t.runs.toList ∧ r.contains n = true := by
  refine ⟨RunTable.of_find?_eq_some, ?_⟩
  rintro ⟨hmem, hcontains⟩
  obtain ⟨hfirst, hlast, -⟩ := Run.contains_iff.mp hcontains
  obtain ⟨j, hj⟩ := Array.getElem?_of_mem (Array.mem_toList_iff.mp hmem)
  have hkey : t.firsts[j]? = some r.first := by simp [h.firsts, hj]
  obtain ⟨i, hi, hle⟩ := exists_lastIndexLE? h.pairwise_firsts hkey hfirst
  obtain ⟨k, hk, hkn⟩ := lastIndexLE?_eq_some hi
  rw [h.firsts, Array.getElem?_map, Option.map_eq_some_iff] at hk
  obtain ⟨r', hr', rfl⟩ := hk
  -- A later run would begin behind the code point.
  have heq : r' = r := by
    rcases Nat.eq_or_lt_of_le hle with rfl | hlt
    · exact Option.some.inj (hr'.symm.trans hj)
    · obtain ⟨hisize, higet⟩ := Array.getElem?_eq_some_iff.mp hr'
      obtain ⟨hjsize, hjget⟩ := Array.getElem?_eq_some_iff.mp hj
      have hapart : t.runs[j].last < t.runs[i].first :=
        List.pairwise_iff_getElem.mp h.apart j i hjsize hisize hlt
      rw [higet, hjget] at hapart
      omega
  rw [RunTable.find?, hi]
  simp [hr', heq, hcontains]

/-- What a table of separate runs does to the code points of a run. -/
theorem send_of_mem (h : t.Separate) (hr : r ∈ t.runs.toList) (hn : r.contains n = true) :
    t.send n = r.target + (n - r.first) := by
  rw [RunTable.send, h.find?_eq_some.mpr ⟨hr, hn⟩]

/-- The pairs that a table of separate runs lists. -/
theorem mem_toList (h : t.Separate) {m : Nat} : (n, m) ∈ t.toList ↔
    ∃ r ∈ t.runs.toList, r.contains n = true ∧ t.send n = m := by
  rw [RunTable.toList, List.mem_flatMap]
  refine exists_congr fun r => and_congr_right fun hr => ?_
  rw [Run.mem_pairs (h.forward r hr)]
  refine and_congr_right fun hn => ?_
  rw [h.send_of_mem hr hn]
  exact eq_comm

end RunTable.Separate

end Intercept.Unicode
