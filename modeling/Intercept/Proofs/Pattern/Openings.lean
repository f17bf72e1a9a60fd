import Intercept.Pattern
import Intercept.Proofs.Pattern.Meaning

/-!
# Intercept.Proofs.Pattern.Openings -- how matched texts begin

A pattern that is tied to the beginning of a text and goes on with plain characters is found only in
texts that begin with these. `Expr.fronts` collects the texts with which the stretches of an
expression begin, as far as they can be listed, and says whether they are listed whole.
-/

namespace Intercept.Pattern

/-! ## Fronts of stretches -/

/-- Texts of which one stands at the front of a stretch; `whole` says that the stretch is no more
than that text. -/
structure Fronts where
  texts : List (List Char)
  whole : Bool
deriving DecidableEq

namespace Fronts

/-- What is known of any stretch: it begins with nothing. -/
def unknown : Fronts := { texts := [[]], whole := false }

/-- The fronts of stretches that follow stretches with the given fronts. -/
def andThen (f g : Fronts) : Fronts :=
  if f.whole then { texts := f.texts.flatMap fun x => g.texts.map (x ++ ·), whole := g.whole }
  else f

/-- Whether a stretch of a text, from one position to another, begins in one of the listed ways. -/
def Describes (f : Fronts) (text : List Char) (i k : Nat) : Prop :=
  ∃ x ∈ f.texts, x <+: text.drop i ∧ (f.whole = true → k = i + x.length)

variable {f g : Fronts} {text x y : List Char} {i j k : Nat}

theorem unknown_describes : unknown.Describes text i k :=
  ⟨[], List.mem_singleton_self _, List.nil_prefix, nofun⟩

theorem prefix_drop_append :
    x ++ y <+: text.drop i ↔ x <+: text.drop i ∧ y <+: text.drop (i + x.length) := by
  rw [← List.drop_drop]
  constructor
  · rintro ⟨rest, h⟩
    rw [← h, List.append_assoc, List.drop_left]
    exact ⟨List.prefix_append _ _, List.prefix_append _ _⟩
  · rintro ⟨⟨rest, h⟩, hy⟩
    rw [← h, List.drop_left] at hy
    rw [← h]
    exact (List.prefix_append_right_inj x).mpr hy

theorem Describes.andThen (hf : f.Describes text i j) (hg : g.Describes text j k) :
    (f.andThen g).Describes text i k := by
  obtain ⟨x, hx, hfront, hwhole⟩ := hf
  rw [Fronts.andThen]
  split
  · next h =>
    obtain rfl := hwhole h
    obtain ⟨y, hy, hnext, hend⟩ := hg
    refine ⟨x ++ y, List.mem_flatMap.mpr ⟨x, hx, List.mem_map_of_mem hy⟩,
      prefix_drop_append.mpr ⟨hfront, hnext⟩, fun h => ?_⟩
    rw [hend h, List.length_append, Nat.add_assoc]
  · next h => exact ⟨x, hx, hfront, fun h' => absurd h' h⟩

end Fronts

namespace Expr

/-- The texts with which the stretches begin of which an expression holds. -/
def fronts : Expr → Fronts
  | .empty => { texts := [[]], whole := true }
  | .one (.range c d) => if c = d then { texts := [[c]], whole := true } else .unknown
  | .seq a b => a.fronts.andThen b.fronts
  | .alt a b =>
    { texts := a.fronts.texts ++ b.fronts.texts, whole := a.fronts.whole && b.fronts.whole }
  | .repeated e 0 (some 1) => { texts := [] :: e.fronts.texts, whole := e.fronts.whole }
  | _ => .unknown

variable {text x : List Char} {e : Expr} {i k : Nat}

theorem singleton_prefix_drop {c : Char} : [c] <+: text.drop i ↔ text[i]? = some c := by
  rw [← List.head?_drop]
  cases text.drop i with
  | nil => simp
  | cons d rest => simp [eq_comm]

theorem contains_single {c d : Char} : (CharSet.single c).contains d = true ↔ d = c := by
  rw [CharSet.single, CharSet.contains, Bool.and_eq_true, decide_eq_true_iff, decide_eq_true_iff]
  exact ⟨fun h => Char.le_antisymm h.2 h.1, fun h => h ▸ ⟨Char.le_refl _, Char.le_refl _⟩⟩

/-- An optional stretch is either nothing or one stretch. -/
theorem matches_optional_iff {text : Array Char} : Matches text (.repeated e 0 (some 1)) i k ↔
    i = k ∨ Matches text e i k := by
  rw [matches_repeated_iff]
  constructor
  · rintro ⟨n, -, hmost, hsteps⟩
    match n, hmost 1 rfl with
    | 0, _ => exact .inl (Times.zero_iff.mp hsteps)
    | 1, _ =>
      obtain ⟨j, hstep, hrest⟩ := Times.succ_iff.mp hsteps
      exact .inr (Times.zero_iff.mp hrest ▸ hstep)
  · rintro (h | h)
    · exact ⟨0, Nat.le_refl 0, fun m _ => Nat.zero_le m, Times.zero_iff.mpr h⟩
    · exact ⟨1, Nat.zero_le 1, fun m hm => by cases hm; exact Nat.le_refl 1,
        .succ h (.zero k)⟩

/-- Every stretch begins with one of the fronts. -/
theorem Matches.describes (h : Matches text.toArray e i k) : e.fronts.Describes text i k := by
  fun_induction fronts e generalizing i k with
  | case1 =>
    exact ⟨[], List.mem_singleton_self _, List.nil_prefix, fun _ => (matches_empty_iff.mp h).symm⟩
  | case2 c =>
    obtain ⟨rfl, d, hd, hc⟩ := matches_one_iff.mp h
    obtain rfl := contains_single.mp hc
    exact ⟨[d], List.mem_singleton_self _, singleton_prefix_drop.mpr (by simpa using hd),
      fun _ => rfl⟩
  | case4 a b iha ihb =>
    obtain ⟨j, ha, hb⟩ := matches_seq_iff.mp h
    exact (iha ha).andThen (ihb hb)
  | case5 a b iha ihb =>
    rcases matches_alt_iff.mp h with h | h
    · obtain ⟨x, hx, hfront, hwhole⟩ := iha h
      exact ⟨x, List.mem_append_left _ hx, hfront, fun hw => hwhole (Bool.and_eq_true_iff.mp hw).1⟩
    · obtain ⟨x, hx, hfront, hwhole⟩ := ihb h
      exact ⟨x, List.mem_append_right _ hx, hfront, fun hw => hwhole (Bool.and_eq_true_iff.mp hw).2⟩
  | case6 e ih =>
    rcases matches_optional_iff.mp h with rfl | h
    · exact ⟨[], List.mem_cons_self, List.nil_prefix, fun _ => rfl⟩
    · obtain ⟨x, hx, hfront, hwhole⟩ := ih h
      exact ⟨x, List.mem_cons_of_mem _ hx, hfront, hwhole⟩
  | _ => exact Fronts.unknown_describes

/-- Where the fronts are the whole stretches, each of them is one. -/
theorem matches_of_front (hwhole : e.fronts.whole = true) (hx : x ∈ e.fronts.texts)
    (h : x <+: text.drop i) : Matches text.toArray e i (i + x.length) := by
  fun_induction fronts e generalizing i x with
  | case1 =>
    obtain rfl := List.mem_singleton.mp hx
    exact .empty i
  | case2 c =>
    obtain rfl := List.mem_singleton.mp hx
    exact .one (by simpa using singleton_prefix_drop.mp h) (contains_single.mpr rfl)
  | case4 a b iha ihb =>
    rw [Fronts.andThen] at hwhole hx
    split at hwhole
    · next ha =>
      rw [if_pos ha] at hx
      obtain ⟨y, hy, hyz⟩ := List.mem_flatMap.mp hx
      obtain ⟨z, hz, rfl⟩ := List.mem_map.mp hyz
      obtain ⟨hfirst, hnext⟩ := Fronts.prefix_drop_append.mp h
      rw [List.length_append, ← Nat.add_assoc]
      exact .seq (iha ha hy hfirst) (ihb hwhole hz hnext)
    · next ha => exact absurd hwhole ha
  | case5 a b iha ihb =>
    obtain ⟨ha, hb⟩ := Bool.and_eq_true_iff.mp hwhole
    rcases List.mem_append.mp hx with hx | hx
    · exact .altLeft (iha ha hx h)
    · exact .altRight (ihb hb hx h)
  | case6 e ih =>
    rw [matches_optional_iff]
    rcases List.mem_cons.mp hx with rfl | hx
    · exact .inl rfl
    · exact .inr (ih hwhole hx h)
  | _ => exact absurd hwhole (by decide)

end Expr

/-! ## Patterns tied to the beginning -/

section Tied

variable {p : Pattern} {e : Expr} {text : String}

theorem charBefore_eq_none {text : Array Char} {i : Nat} (hi : i ≤ text.size) :
    charBefore text i = none ↔ i = 0 := by
  rw [charBefore]
  split
  · next h => exact iff_of_true rfl h
  · next h => exact iff_of_false (by rw [Array.getElem?_eq_none_iff]; omega) h

/-- A pattern that is tied to the beginning is found where a stretch begins there. -/
theorem isMatch_tied (hexpr : p.expr = .seq (.at .textStart) e) (he : e.boundsOrdered = true) :
    p.isMatch text = true ↔ ∃ k, Expr.Matches text.toList.toArray e 0 k := by
  rw [isMatch, hexpr, Expr.search_iff (by simpa [Expr.boundsOrdered] using he)]
  simp only [Expr.matches_seq_iff, Expr.matches_at_iff, Anchor.holds, Option.isNone_iff_eq_none]
  constructor
  · rintro ⟨i, k, hi, j, ⟨rfl, hstart⟩, h⟩
    obtain rfl := (charBefore_eq_none hi).mp hstart
    exact ⟨k, h⟩
  · rintro ⟨k, h⟩
    exact ⟨0, k, Nat.zero_le _, 0, ⟨rfl, rfl⟩, h⟩

/-- Whether an expression is tied to the beginning, and whatever it is found in begins with one of
the given texts. -/
def Expr.opensWith (starts : List (List Char)) : Expr → Bool
  | .seq (.at .textStart) e =>
    e.boundsOrdered && e.fronts.texts.all fun x => starts.any (·.isPrefixOf x)
  | _ => false

/-- Whether an expression asks for one of the given texts at the beginning, and for no more. -/
def Expr.asksFor (starts : List (List Char)) : Expr → Bool
  | .seq (.at .textStart) e => e.boundsOrdered && e.fronts == { texts := starts, whole := true }
  | _ => false

/-- A text begins with one of the given ones. -/
def BeginsWith (starts : List (List Char)) (text : String) : Prop :=
  ∃ start ∈ starts, start <+: text.toList

variable {starts : List (List Char)}

theorem beginsWith_of_opensWith (hp : p.expr.opensWith starts = true)
    (h : p.isMatch text = true) : BeginsWith starts text := by
  rw [Expr.opensWith.eq_def] at hp
  split at hp
  · next e hexpr =>
    obtain ⟨hordered, hall⟩ := Bool.and_eq_true_iff.mp hp
    obtain ⟨k, hk⟩ := (isMatch_tied hexpr hordered).mp h
    obtain ⟨x, hx, hfront, -⟩ := hk.describes
    obtain ⟨start, hstart, hprefix⟩ := List.any_eq_true.mp (List.all_eq_true.mp hall x hx)
    exact ⟨start, hstart, (List.isPrefixOf_iff_prefix.mp hprefix).trans hfront⟩
  · cases hp

/-- What begins with a longer text begins with a shorter one at its front. -/
theorem Expr.opensWith_mono {longer : List (List Char)}
    (hlonger : ∀ x ∈ longer, ∃ start ∈ starts, start <+: x) (h : e.opensWith longer = true) :
    e.opensWith starts = true := by
  rw [opensWith.eq_def] at h ⊢
  split at h
  · next e =>
    obtain ⟨hordered, hall⟩ := Bool.and_eq_true_iff.mp h
    refine Bool.and_eq_true_iff.mpr ⟨hordered, List.all_eq_true.mpr fun x hx => ?_⟩
    obtain ⟨y, hy, hyx⟩ := List.any_eq_true.mp (List.all_eq_true.mp hall x hx)
    obtain ⟨start, hstart, hfront⟩ := hlonger y hy
    exact List.any_eq_true.mpr ⟨start, hstart,
      List.isPrefixOf_iff_prefix.mpr (hfront.trans (List.isPrefixOf_iff_prefix.mp hyx))⟩
  · cases h

/-- No text of either list stands at the front of one of the other list. -/
def Apart (starts others : List (List Char)) : Prop :=
  ∀ x ∈ starts, ∀ y ∈ others, ¬ x <+: y ∧ ¬ y <+: x

/-- Two texts that stand at the front of one text begin alike. -/
theorem Apart.not_beginsWith {others : List (List Char)} (h : Apart starts others)
    (htext : BeginsWith starts text) : ¬ BeginsWith others text := by
  rintro ⟨y, hy, hother⟩
  obtain ⟨x, hx, hstart⟩ := htext
  obtain ⟨hxy, hyx⟩ := h x hx y hy
  exact (List.prefix_or_prefix_of_prefix hstart hother).elim hxy hyx

theorem isMatch_iff_of_asksFor (hp : p.expr.asksFor starts = true) :
    p.isMatch text = true ↔ BeginsWith starts text := by
  rw [Expr.asksFor.eq_def] at hp
  split at hp
  · next e hexpr =>
    obtain ⟨hordered, hfronts⟩ := Bool.and_eq_true_iff.mp hp
    have hfronts : e.fronts = { texts := starts, whole := true } := eq_of_beq hfronts
    rw [isMatch_tied hexpr hordered]
    constructor
    · rintro ⟨k, hk⟩
      obtain ⟨x, hx, hfront, -⟩ := hk.describes
      rw [hfronts] at hx
      exact ⟨x, hx, hfront⟩
    · rintro ⟨start, hstart, hprefix⟩
      exact ⟨_, Expr.matches_of_front (by rw [hfronts]) (by rwa [hfronts]) hprefix⟩
  · cases hp

end Tied

/-! ## Patterns given as text -/

/-- A text can be compiled, and its expression passes a check. -/
def Compiles (check : Expr → Bool) (source : String) : Prop :=
  ∃ p, compile? source = some p ∧ check p.expr = true

theorem Compiles.mono {check check' : Expr → Bool} {source : String}
    (hcheck : ∀ e, check e = true → check' e = true) (h : Compiles check source) :
    Compiles check' source :=
  h.imp fun p hp => ⟨hp.1, hcheck p.expr hp.2⟩

/-- The check is made on characters: the kernel would be slow to take a text apart. -/
theorem Compiles.of_chars {check : Expr → Bool} {source : String} {cs : List Char}
    (hsource : source = String.ofList cs)
    (h : (parse? cs).any (fun e => e.weight ≤ maxWeight && check e) = true) :
    Compiles check source := by
  cases hparse : parse? cs with
  | none =>
    rw [hparse] at h
    cases h
  | some e =>
    rw [hparse] at h
    obtain ⟨hweight, hcheck⟩ := Bool.and_eq_true_iff.mp h
    refine ⟨{ source, expr := e }, ?_, hcheck⟩
    have hchars : source.toList = cs := by rw [hsource, String.toList_ofList]
    rw [compile?, hchars, hparse]
    exact if_pos (of_decide_eq_true hweight)

end Intercept.Pattern
