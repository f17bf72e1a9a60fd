import Intercept.Pattern.Expr

/-!
# Intercept.Proofs.Pattern.Meaning -- what is computed is what a pattern asks

`Expr.ends` computes the ends of stretches from ascending lists of positions. A step on such lists
computes a relation between positions if it answers the positions that are related to a given one,
in ascending order. The steps of the constructors are put together from steps of their parts, and
each of them computes the relation that `Expr.Matches` gives the constructor.
-/

namespace Intercept.Pattern

/-! ## Taking steps -/

/-- `Times R n i k` says that `n` steps of `R` lead from `i` to `k`. -/
inductive Times (R : Nat → Nat → Prop) : Nat → Nat → Nat → Prop
  | zero (i : Nat) : Times R 0 i i
  | succ {n i j k : Nat} : R i j → Times R n j k → Times R (n + 1) i k

namespace Times

variable {R : Nat → Nat → Prop} {m n i k : Nat}

theorem zero_iff : Times R 0 i k ↔ i = k := by
  constructor
  · rintro ⟨⟩
    rfl
  · rintro rfl
    exact .zero i

theorem succ_iff : Times R (n + 1) i k ↔ ∃ j, R i j ∧ Times R n j k := by
  constructor
  · rintro (_ | ⟨h, hrest⟩)
    exact ⟨_, h, hrest⟩
  · rintro ⟨j, h, hrest⟩
    exact .succ h hrest

theorem add_iff : Times R (m + n) i k ↔ ∃ j, Times R m i j ∧ Times R n j k := by
  induction m generalizing i with
  | zero => simp [zero_iff]
  | succ m ih =>
    rw [Nat.succ_add, succ_iff]
    simp only [ih, succ_iff]
    constructor
    · rintro ⟨x, hx, j, hj, hk⟩
      exact ⟨j, ⟨x, hx, hj⟩, hk⟩
    · rintro ⟨j, ⟨x, hx, hj⟩, hk⟩
      exact ⟨x, hx, j, hj, hk⟩

theorem le (hR : ∀ {i j}, R i j → i ≤ j) (h : Times R n i k) : i ≤ k := by
  induction h with
  | zero i => exact Nat.le_refl i
  | succ hstep _ ih => exact Nat.le_trans (hR hstep) ih

/-- Steps that do not lead back either stay where they are or leave the place at some time. -/
theorem stay_or_leave (hR : ∀ {i j}, R i j → i ≤ j) (h : Times R n i k) :
    k = i ∨ ∃ j, i < j ∧ R i j ∧ ∃ m, Times R m j k := by
  induction h with
  | zero i => exact .inl rfl
  | @succ n i j k hstep hrest ih =>
    obtain rfl | hlt := Nat.eq_or_lt_of_le (hR hstep)
    · exact ih
    · exact .inr ⟨j, hlt, hstep, n, hrest⟩

end Times

/-! ## Ascending positions -/

/-- Positions in ascending order, none twice, up to a last one. -/
def Ascending (last : Nat) (is : List Nat) : Prop :=
  is.Pairwise (· < ·) ∧ ∀ i ∈ is, i ≤ last

namespace Ascending

variable {last : Nat} {is js : List Nat}

theorem nil : Ascending last [] :=
  ⟨.nil, by simp⟩

theorem filter (p : Nat → Bool) (h : Ascending last is) : Ascending last (is.filter p) :=
  ⟨h.1.filter p, fun _ hi => h.2 _ (List.mem_filter.mp hi).1⟩

theorem range (last : Nat) : Ascending last (List.range (last + 1)) :=
  ⟨List.pairwise_lt_range, fun _ hi => Nat.le_of_lt_succ (List.mem_range.mp hi)⟩

end Ascending

theorem mem_mergePositions {xs ys : List Nat} {k : Nat} :
    k ∈ mergePositions xs ys ↔ k ∈ xs ∨ k ∈ ys := by
  induction xs generalizing ys with
  | nil => simp [mergePositions]
  | cons x xs ih =>
    have hgo : k ∈ mergePositions.go x xs (mergePositions xs) ys ↔ k ∈ x :: xs ∨ k ∈ ys := by
      induction ys with
      | nil => simp [mergePositions.go]
      | cons y ys ihy =>
        rw [mergePositions.go]
        split
        · rw [List.mem_cons, ih, ← or_assoc, ← List.mem_cons]
        · split
          · rw [List.mem_cons, ihy, List.mem_cons (a := k) (b := y)]
            exact or_left_comm
          · have hxy : x = y := by omega
            rw [List.mem_cons, ih, ← or_assoc, ← List.mem_cons, hxy,
              List.mem_cons (b := y) (l := ys)]
            refine ⟨Or.imp_right .inr, fun h => ?_⟩
            rcases h with h | rfl | h
            · exact .inl h
            · exact .inl List.mem_cons_self
            · exact .inr h
    exact hgo

theorem pairwise_mergePositions {xs ys : List Nat} (hxs : xs.Pairwise (· < ·))
    (hys : ys.Pairwise (· < ·)) : (mergePositions xs ys).Pairwise (· < ·) := by
  induction xs generalizing ys with
  | nil => exact hys
  | cons x xs ih =>
    have hgo : (mergePositions.go x xs (mergePositions xs) ys).Pairwise (· < ·) := by
      induction ys with
      | nil => exact hxs
      | cons y ys ihy =>
        obtain ⟨hx, hxs'⟩ := List.pairwise_cons.mp hxs
        obtain ⟨hy, hys'⟩ := List.pairwise_cons.mp hys
        rw [mergePositions.go]
        split
        case isTrue hlt =>
          refine List.pairwise_cons.mpr ⟨fun k hk => ?_, ih hxs' hys⟩
          rcases mem_mergePositions.mp hk with hk | hk
          · exact hx k hk
          · rcases List.mem_cons.mp hk with rfl | hk
            · exact hlt
            · exact Nat.lt_trans hlt (hy k hk)
        case isFalse hle =>
          split
          case isTrue hlt =>
            refine List.pairwise_cons.mpr ⟨fun k hk => ?_, ihy hys'⟩
            have hk' : k ∈ mergePositions (x :: xs) ys := hk
            rcases mem_mergePositions.mp hk' with hk | hk
            · rcases List.mem_cons.mp hk with rfl | hk
              · exact hlt
              · exact Nat.lt_trans hlt (hx k hk)
            · exact hy k hk
          case isFalse hge =>
            refine List.pairwise_cons.mpr ⟨fun k hk => ?_, ih hxs' hys'⟩
            rcases mem_mergePositions.mp hk with hk | hk
            · exact hx k hk
            · exact Nat.lt_of_le_of_lt (Nat.le_of_not_lt hge) (hy k hk)
    exact hgo

theorem Ascending.merge {last : Nat} {xs ys : List Nat} (hxs : Ascending last xs)
    (hys : Ascending last ys) : Ascending last (mergePositions xs ys) :=
  ⟨pairwise_mergePositions hxs.1 hys.1, fun k hk =>
    (mem_mergePositions.mp hk).elim (hxs.2 k) (hys.2 k)⟩

/-! ## Steps that compute a relation -/

/-- A step on lists of positions answers, in ascending order, what is related to a given one. -/
structure Computes (last : Nat) (R : Nat → Nat → Prop) (step : List Nat → List Nat) : Prop where
  ascending : ∀ {is}, Ascending last is → Ascending last (step is)
  mem : ∀ {is}, Ascending last is → ∀ {k}, k ∈ step is ↔ ∃ i ∈ is, R i k

namespace Computes

variable {last : Nat} {R S : Nat → Nat → Prop} {f g step : List Nat → List Nat}

theorem congr (h : Computes last R f) (hRS : ∀ i k, R i k ↔ S i k) : Computes last S f where
  ascending := h.ascending
  mem his _ := (h.mem his).trans (exists_congr fun i => and_congr_right fun _ => hRS i _)

theorem id : Computes last (· = ·) fun is => is where
  ascending his := his
  mem _ _ := by simp

/-- Two steps, one after the other; what is answered for no positions does not matter. -/
theorem comp (hf : Computes last R f) (hg : Computes last S g)
    (hstep : ∀ is, step is = g (f is) ∨ f is = [] ∧ step is = []) :
    Computes last (fun i k => ∃ j, R i j ∧ S j k) step := by
  have hthen : ∀ {is}, Ascending last is → Ascending last (step is)
      ∧ ∀ k, k ∈ step is ↔ ∃ j ∈ f is, S j k := by
    intro is his
    have hjs := hf.ascending his
    rcases hstep is with h | ⟨hnil, h⟩
    · exact h ▸ ⟨hg.ascending hjs, fun k => hg.mem hjs⟩
    · exact h ▸ ⟨.nil, by simp [hnil]⟩
  refine ⟨fun his => (hthen his).1, fun his k => ((hthen his).2 k).trans ?_⟩
  simp only [hf.mem his]
  constructor
  · rintro ⟨j, ⟨i, hi, hj⟩, hk⟩
    exact ⟨i, hi, j, hj, hk⟩
  · rintro ⟨i, hi, j, hj, hk⟩
    exact ⟨j, ⟨i, hi, hj⟩, hk⟩

theorem union (hf : Computes last R f) (hg : Computes last S g) :
    Computes last (fun i k => R i k ∨ S i k) (fun is => mergePositions (f is) (g is)) where
  ascending his := (hf.ascending his).merge (hg.ascending his)
  mem his k := by
    rw [mem_mergePositions, hf.mem his, hg.mem his]
    simp only [and_or_left, exists_or]

theorem times (h : Computes last R step) (n : Nat) :
    Computes last (Times R n) (stepTimes step n) := by
  induction n with
  | zero => exact id.congr fun i k => Times.zero_iff.symm
  | succ n ih =>
    have hstep : ∀ is, stepTimes step (n + 1) is =
        if is.isEmpty then [] else stepTimes step n (step is) := fun is => rfl
    refine ⟨fun {is} his => ?_, fun {is} his k => ?_⟩
    · rw [hstep]
      split
      · exact .nil
      · exact ih.ascending (h.ascending his)
    · rw [hstep]
      split
      · next hempty => simp [List.isEmpty_iff.mp hempty]
      · rw [ih.mem (h.ascending his)]
        simp only [h.mem his, Times.succ_iff]
        constructor
        · rintro ⟨j, ⟨i, hi, hj⟩, hk⟩
          exact ⟨i, hi, j, hj, hk⟩
        · rintro ⟨i, hi, j, hj, hk⟩
          exact ⟨j, ⟨i, hi, hj⟩, hk⟩

/-- All that steps can reach is reached when there is fuel for every position from the least pending
one on: each round passes one. -/
theorem reach_aux (h : Computes last R step) (hR : ∀ {i j}, R i j → i ≤ j) (fuel : Nat)
    {pending : List Nat} (hpending : Ascending last pending)
    (hfuel : ∀ i ∈ pending, last < i + fuel) :
    Ascending last (reachAll step fuel pending)
      ∧ ∀ k, k ∈ reachAll step fuel pending ↔ ∃ i ∈ pending, ∃ n, Times R n i k := by
  induction fuel generalizing pending with
  | zero =>
    have hnil : pending = [] := List.eq_nil_iff_forall_not_mem.mpr fun i hi =>
      absurd (hfuel i hi) (Nat.not_lt.mpr (hpending.2 i hi))
    subst hnil
    exact ⟨.nil, by simp [reachAll]⟩
  | succ fuel ih =>
    cases pending with
    | nil => exact ⟨.nil, by simp [reachAll]⟩
    | cons i pending =>
      obtain ⟨hi, hsorted⟩ := List.pairwise_cons.mp hpending.1
      have hrest : Ascending last pending :=
        ⟨hsorted, fun k hk => hpending.2 k (List.mem_cons_of_mem i hk)⟩
      have hsingle : Ascending last [i] :=
        ⟨List.pairwise_singleton _ i, fun k hk =>
          List.mem_singleton.mp hk ▸ hpending.2 i List.mem_cons_self⟩
      -- What is pending next is what one step reaches from `i`, and what was pending behind it.
      have hnext : ∀ x, x ∈ mergePositions ((step [i]).filter (i < ·)) pending ↔
          (i < x ∧ R i x) ∨ x ∈ pending := by
        intro x
        rw [mem_mergePositions, List.mem_filter, h.mem hsingle]
        simp [and_comm]
      have hlater : ∀ x ∈ mergePositions ((step [i]).filter (i < ·)) pending, i < x :=
        fun x hx => ((hnext x).mp hx).elim And.left (hi x)
      have hascending : Ascending last (mergePositions ((step [i]).filter (i < ·)) pending) :=
        ((h.ascending hsingle).filter _).merge hrest
      obtain ⟨hreached, hmem⟩ := ih hascending fun x hx => by
        have hfirst := hfuel i List.mem_cons_self
        have hlt := hlater x hx
        omega
      rw [reachAll]
      refine ⟨⟨List.pairwise_cons.mpr ⟨fun k hk => ?behind, hreached.1⟩, fun k hk => ?bound⟩,
        fun k => ?mem⟩
      case behind =>
        obtain ⟨x, hx, n, hk⟩ := (hmem k).mp hk
        exact Nat.lt_of_lt_of_le (hlater x hx) (hk.le hR)
      case bound =>
        rcases List.mem_cons.mp hk with rfl | hk
        · exact hpending.2 _ List.mem_cons_self
        · exact hreached.2 k hk
      case mem =>
        rw [List.mem_cons, hmem]
        constructor
        · rintro (rfl | ⟨x, hx, n, hk⟩)
          · exact ⟨k, List.mem_cons_self, 0, .zero k⟩
          · rcases (hnext x).mp hx with ⟨-, hstep⟩ | hx
            · exact ⟨i, List.mem_cons_self, n + 1, .succ hstep hk⟩
            · exact ⟨x, List.mem_cons_of_mem i hx, n, hk⟩
        · rintro ⟨x, hx, n, hk⟩
          rcases List.mem_cons.mp hx with rfl | hx
          · obtain rfl | ⟨j, hlt, hstep, m, hk⟩ := hk.stay_or_leave hR
            · exact .inl rfl
            · exact .inr ⟨j, (hnext j).mpr (.inl ⟨hlt, hstep⟩), m, hk⟩
          · exact .inr ⟨x, (hnext x).mpr (.inr hx), n, hk⟩

theorem reach (h : Computes last R step) (hR : ∀ {i j}, R i j → i ≤ j) :
    Computes last (fun i k => ∃ n, Times R n i k) (reachAll step (last + 1)) where
  ascending his := (reach_aux h hR (last + 1) his fun i _ => by omega).1
  mem his k := (reach_aux h hR (last + 1) his fun i _ => by omega).2 k

/-- Steps from what was reached last, as long as they lead to something new, reach what that many
steps can reach; of what was reached before, no step leads to something new. -/
theorem upTo_aux (h : Computes last R step) (n : Nat) {reached fresh : List Nat}
    (hreached : Ascending last reached) (hfresh : Ascending last fresh)
    (hsub : fresh ⊆ reached) (hold : ∀ x ∈ reached, x ∉ fresh → ∀ y, R x y → y ∈ reached) :
    Ascending last (stepUpTo step n reached fresh)
      ∧ ∀ k, k ∈ stepUpTo step n reached fresh ↔
        ∃ x ∈ reached, ∃ s ≤ n, Times R s x k := by
  induction n generalizing reached fresh with
  | zero =>
    refine ⟨hreached, fun k => ?_⟩
    rw [stepUpTo]
    constructor
    · exact fun hk => ⟨k, hk, 0, Nat.le_refl 0, .zero k⟩
    · rintro ⟨x, hx, s, hs, hk⟩
      rw [Nat.le_zero.mp hs, Times.zero_iff] at hk
      exact hk ▸ hx
  | succ n ih =>
    have hnext : ∀ y, y ∈ (step fresh).filter (!reached.contains ·) ↔
        (∃ x ∈ fresh, R x y) ∧ y ∉ reached := by
      intro y
      rw [List.mem_filter, h.mem hfresh]
      simp
    -- A step from what was reached leads to something new or to what was reached.
    have hleads : ∀ x ∈ reached, ∀ y, R x y →
        y ∈ (step fresh).filter (!reached.contains ·) ∨ y ∈ reached := by
      intro x hx y hxy
      by_cases hy : y ∈ reached
      · exact .inr hy
      · by_cases hxf : x ∈ fresh
        · exact .inl ((hnext y).mpr ⟨⟨x, hxf, hxy⟩, hy⟩)
        · exact .inr (hold x hx hxf y hxy)
    rw [stepUpTo]
    split
    · next hnil =>
      have hclosed : ∀ x ∈ reached, ∀ y, R x y → y ∈ reached := fun x hx y hxy =>
        (hleads x hx y hxy).resolve_left (hnil ▸ List.not_mem_nil)
      refine ⟨hreached, fun k => ⟨fun hk => ⟨k, hk, 0, Nat.zero_le _, .zero k⟩, ?_⟩⟩
      rintro ⟨x, hx, s, -, hk⟩
      induction hk with
      | zero i => exact hx
      | succ hstep _ ihs => exact ihs (hclosed _ hx _ hstep)
    · next hne =>
      have hnextAsc := (h.ascending hfresh).filter (!reached.contains ·)
      obtain ⟨hasc, hmem⟩ := ih (hnextAsc.merge hreached) hnextAsc
        (fun x hx => mem_mergePositions.mpr (.inl hx))
        (fun x hx hnot y hxy => mem_mergePositions.mpr
          (hleads x ((mem_mergePositions.mp hx).resolve_left hnot) y hxy))
      refine ⟨hasc, fun k => (hmem k).trans ?_⟩
      constructor
      · rintro ⟨x, hx, s, hs, hk⟩
        rcases mem_mergePositions.mp hx with hx | hx
        · obtain ⟨⟨f, hf, hfx⟩, -⟩ := (hnext x).mp hx
          exact ⟨f, hsub hf, s + 1, Nat.succ_le_succ hs, .succ hfx hk⟩
        · exact ⟨x, hx, s, Nat.le_succ_of_le hs, hk⟩
      · rintro ⟨x, hx, s, hs, hk⟩
        cases hk with
        | zero => exact ⟨k, mem_mergePositions.mpr (.inr hx), 0, Nat.zero_le n, .zero k⟩
        | @succ s _ y _ hxy hk =>
          exact ⟨y, mem_mergePositions.mpr (hleads x hx y hxy), s, Nat.le_of_succ_le_succ hs, hk⟩

theorem upTo (h : Computes last R step) (n : Nat) :
    Computes last (fun i k => ∃ s ≤ n, Times R s i k) (fun is => stepUpTo step n is is) where
  ascending his := (upTo_aux h n his his (fun _ hx => hx) fun _ hx hnot => absurd hx hnot).1
  mem his k := (upTo_aux h n his his (fun _ hx => hx) fun _ hx hnot => absurd hx hnot).2 k

end Computes

/-! ## What expressions hold of -/

namespace Expr

variable {text : Array Char} {a b e : Expr} {least : Nat} {most : Option Nat} {i j k : Nat}

theorem matches_empty_iff : Matches text .empty i k ↔ i = k := by
  constructor
  · rintro ⟨⟩
    rfl
  · rintro rfl
    exact .empty i

theorem matches_one_iff {s : CharSet} :
    Matches text (.one s) i k ↔ k = i + 1 ∧ ∃ c, text[i]? = some c ∧ s.contains c = true := by
  constructor
  · rintro ⟨⟩
    exact ⟨rfl, _, ‹_›, ‹_›⟩
  · rintro ⟨rfl, c, hc, hs⟩
    exact .one hc hs

theorem matches_at_iff {anchor : Anchor} : Matches text (.at anchor) i k ↔
    k = i ∧ anchor.holds (charBefore text i) text[i]? = true := by
  constructor
  · rintro ⟨⟩
    exact ⟨rfl, ‹_›⟩
  · rintro ⟨rfl, h⟩
    exact .at h

theorem matches_seq_iff :
    Matches text (.seq a b) i k ↔ ∃ j, Matches text a i j ∧ Matches text b j k := by
  constructor
  · rintro ⟨⟩
    exact ⟨_, ‹_›, ‹_›⟩
  · rintro ⟨j, ha, hb⟩
    exact .seq ha hb

theorem matches_alt_iff :
    Matches text (.alt a b) i k ↔ Matches text a i k ∨ Matches text b i k := by
  constructor
  · rintro (h | h)
    · exact .inl ‹_›
    · exact .inr ‹_›
  · rintro (h | h)
    · exact .altLeft h
    · exact .altRight h

/-- A repetition holds of what is made of a permitted number of stretches of which its expression
holds. -/
theorem matches_repeated_iff : Matches text (.repeated e least most) i k ↔
    ∃ n, least ≤ n ∧ (∀ m, most = some m → n ≤ m) ∧ Times (Matches text e) n i k := by
  constructor
  · intro h
    generalize hexpr : Expr.repeated e least most = x at h
    induction h generalizing least most with
    | stop =>
      cases hexpr
      exact ⟨0, Nat.le_refl 0, fun m _ => Nat.zero_le m, .zero _⟩
    | once hmost hfirst _ _ ih =>
      cases hexpr
      obtain ⟨n, hleast, hn, hsteps⟩ := ih rfl
      refine ⟨n + 1, by omega, fun m hm => ?_, .succ hfirst hsteps⟩
      have hle := hn (m - 1) (by rw [hm]; rfl)
      have hne : m ≠ 0 := fun h => hmost (by rw [hm, h])
      omega
    | _ => cases hexpr
  · rintro ⟨n, hleast, hmost, hsteps⟩
    induction n generalizing least most i with
    | zero =>
      rw [Nat.le_zero.mp hleast, Times.zero_iff.mp hsteps]
      exact .stop
    | succ n ih =>
      obtain ⟨j, hfirst, hrest⟩ := Times.succ_iff.mp hsteps
      refine .once (fun h => ?_) hfirst (ih (by omega) (fun m hm => ?_) hrest)
      · exact absurd (hmost 0 h) (by omega)
      · obtain ⟨m', hm', rfl⟩ := Option.map_eq_some_iff.mp hm
        exact Nat.le_sub_one_of_lt (hmost m' hm')

/-- No stretch ends in front of where it begins. -/
theorem Matches.le (h : Matches text e i k) : i ≤ k := by
  induction h with
  | one => exact Nat.le_succ _
  | seq _ _ iha ihb => exact Nat.le_trans iha ihb
  | altLeft _ ih => exact ih
  | altRight _ ih => exact ih
  | once _ _ _ ih ihs => exact Nat.le_trans ih ihs
  | _ => exact Nat.le_refl _

/-- No repetition has an upper bound that is below its lower one. -/
def boundsOrdered : Expr → Bool
  | .seq a b => a.boundsOrdered && b.boundsOrdered
  | .alt a b => a.boundsOrdered && b.boundsOrdered
  | .repeated e least most => e.boundsOrdered && most.all (least ≤ ·)
  | _ => true

/-! ## What is computed -/

theorem computes_one (text : Array Char) (s : CharSet) :
    Computes text.size (Matches text (.one s)) (ends text (.one s)) := by
  obtain ⟨step, hends, hstep⟩ : ∃ step : Nat → Option Nat,
      (∀ is, ends text (.one s) is = is.filterMap step)
        ∧ ∀ i k, step i = some k ↔ Matches text (.one s) i k := by
    refine ⟨_, fun _ => rfl, fun i k => ?_⟩
    rw [matches_one_iff]
    cases text[i]? with
    | none =>
      constructor
      · intro h
        cases h
      · rintro ⟨-, d, hd, -⟩
        cases hd
    | some c =>
      constructor
      · intro h
        dsimp only at h
        split at h
        · next hc => exact ⟨(Option.some.inj h).symm, c, rfl, hc⟩
        · cases h
      · rintro ⟨rfl, d, hd, hs⟩
        cases hd
        exact if_pos hs
  refine ⟨fun {is} his => ⟨?_, fun k hk => ?_⟩, fun {is} _ k => ?_⟩
  · rw [hends]
    refine List.Pairwise.filterMap _ (fun i j hij k hk l hl => ?_) his.1
    obtain ⟨rfl, -⟩ := matches_one_iff.mp ((hstep i k).mp hk)
    obtain ⟨rfl, -⟩ := matches_one_iff.mp ((hstep j l).mp hl)
    omega
  · obtain ⟨i, -, hi⟩ := List.mem_filterMap.mp (hends is ▸ hk)
    obtain ⟨rfl, c, hc, -⟩ := matches_one_iff.mp ((hstep i k).mp hi)
    exact (Array.getElem?_eq_some_iff.mp hc).1
  · rw [hends, List.mem_filterMap]
    exact exists_congr fun i => and_congr_right fun _ => hstep i k

theorem computes_at (text : Array Char) (anchor : Anchor) :
    Computes text.size (Matches text (.at anchor)) (ends text (.at anchor)) where
  ascending his := his.filter _
  mem _ k := by
    rw [ends, List.mem_filter]
    simp only [matches_at_iff]
    constructor
    · rintro ⟨hk, h⟩
      exact ⟨k, hk, rfl, h⟩
    · rintro ⟨i, hi, rfl, h⟩
      exact ⟨hi, h⟩

/-- The ends that are computed are those of the stretches of which an expression holds. -/
theorem computes_ends (text : Array Char) (e : Expr) (h : e.boundsOrdered = true) :
    Computes text.size (Matches text e) (ends text e) := by
  induction e with
  | empty => exact Computes.id.congr fun i k => matches_empty_iff.symm
  | one s => exact computes_one text s
  | «at» anchor => exact computes_at text anchor
  | seq a b iha ihb =>
    rw [boundsOrdered, Bool.and_eq_true] at h
    refine ((iha h.1).comp (ihb h.2) fun is => ?_).congr fun i k => matches_seq_iff.symm
    rw [ends]
    split
    · next hnil => exact .inr ⟨hnil, rfl⟩
    · exact .inl rfl
  | alt a b iha ihb =>
    rw [boundsOrdered, Bool.and_eq_true] at h
    exact ((iha h.1).union (ihb h.2)).congr fun i k => matches_alt_iff.symm
  | repeated e least most ih =>
    rw [boundsOrdered, Bool.and_eq_true] at h
    have hstep := ih h.1
    have hleast := hstep.times least
    cases most with
    | none =>
      refine (hleast.comp (hstep.reach Matches.le) fun is => .inl rfl).congr fun i k => ?_
      rw [matches_repeated_iff]
      constructor
      · rintro ⟨j, hfirst, n, hrest⟩
        exact ⟨least + n, Nat.le_add_right _ _, nofun, Times.add_iff.mpr ⟨j, hfirst, hrest⟩⟩
      · rintro ⟨n, hn, -, hsteps⟩
        obtain ⟨s, rfl⟩ := Nat.exists_eq_add_of_le hn
        obtain ⟨j, hfirst, hrest⟩ := Times.add_iff.mp hsteps
        exact ⟨j, hfirst, s, hrest⟩
    | some m =>
      have hle : least ≤ m := by simpa using h.2
      refine (hleast.comp (hstep.upTo (m - least)) fun is => .inl rfl).congr fun i k => ?_
      rw [matches_repeated_iff]
      constructor
      · rintro ⟨j, hfirst, n, hn, hrest⟩
        exact ⟨least + n, Nat.le_add_right _ _, fun m' hm => by cases hm; omega,
          Times.add_iff.mpr ⟨j, hfirst, hrest⟩⟩
      · rintro ⟨n, hn, hmost, hsteps⟩
        obtain ⟨s, rfl⟩ := Nat.exists_eq_add_of_le hn
        obtain ⟨j, hfirst, hrest⟩ := Times.add_iff.mp hsteps
        exact ⟨j, hfirst, s, by have := hmost m rfl; omega, hrest⟩

/-- A search finds a pattern exactly where its expression holds of some stretch of the text. -/
theorem search_iff (h : e.boundsOrdered = true) :
    e.search text = true ↔ ∃ i k, i ≤ text.size ∧ Matches text e i k := by
  have hends : ∀ k, k ∈ ends text e (List.range (text.size + 1)) ↔
      ∃ i ∈ List.range (text.size + 1), Matches text e i k :=
    fun _ => (computes_ends text e h).mem (Ascending.range text.size)
  rw [search, Bool.not_eq_true', List.isEmpty_eq_false_iff_exists_mem]
  constructor
  · rintro ⟨k, hk⟩
    obtain ⟨i, hi, hmatch⟩ := (hends k).mp hk
    exact ⟨i, k, Nat.le_of_lt_succ (List.mem_range.mp hi), hmatch⟩
  · rintro ⟨i, k, hi, hmatch⟩
    exact ⟨k, (hends k).mpr ⟨i, List.mem_range.mpr (Nat.lt_succ_of_le hi), hmatch⟩⟩

end Expr

end Intercept.Pattern
