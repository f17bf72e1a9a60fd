import Intercept.Proofs.Files.Locate
import Intercept.Proofs.Text.Words

/-!
# Intercept.Proofs.Files.Passes -- the locations through which a path leads

A path leads from piece to piece. The directories in which a path lies are given by paths that stop
earlier on the same way, so to make them is to make directories on that way. Without `..` a way only
goes inwards and passes nothing but what its end lies in.
-/

namespace Intercept.Path

open Intercept.Text (splitOn splitOn_of_not_mem splitOn_ne_nil splitOn_cons_sep splitOn_cons_of_ne
  splitOn_join)

/-- A location to which the first pieces of a path lead, however many. -/
def Passes (home : Location) (p : Path) (l : Location) : Prop :=
  ∃ front, front <+: p.pieces ∧ front.foldl stepFrom (if p.isAbsolute then [] else home) = l

variable {home l : Location} {p q : Path}

theorem passes_resolve (home : Location) (p : Path) : p.Passes home (p.resolve home) :=
  ⟨p.pieces, List.prefix_rfl, rfl⟩

/-- A path begins at the root if its first piece is empty and not its only one. -/
theorem isAbsolute_iff : p.isAbsolute = true ↔ ∃ rest, rest ≠ [] ∧ p.pieces = [] :: rest := by
  rw [isAbsolute_eq, beq_iff_eq, pieces]
  cases p.text.toList with
  | nil => simp [splitOn]
  | cons c cs =>
    by_cases hc : c = '/'
    · rw [hc, splitOn_cons_sep]
      exact iff_of_true rfl ⟨_, splitOn_ne_nil '/' cs, rfl⟩
    · obtain ⟨piece, pieces, hcut⟩ := List.exists_cons_of_ne_nil (splitOn_ne_nil '/' cs)
      rw [splitOn_cons_of_ne hc hcut]
      simp [hc]

/-! ## The directories in which a path lies -/

theorem trunk_prefix_self (ps : List (List Char)) : trunk ps <+: ps := by
  cases ps with
  | nil => exact List.prefix_rfl
  | cons first rest =>
    have hrest := List.reverse_prefix.mpr (List.dropWhile_suffix isIdle (l := rest.reverse))
    rw [List.reverse_reverse] at hrest
    exact (List.prefix_cons_inj first).mpr hrest

/-- The pieces of a path that is put together from some of them. -/
theorem pieces_ofList_join {front : List (List Char)} (hne : front ≠ []) (h : front <+: p.pieces) :
    pieces { text := String.ofList (Text.join ['/'] front) } = front := by
  rw [pieces, String.toList_ofList]
  exact splitOn_join hne fun piece hpiece => Text.not_mem_of_mem_splitOn (h.subset hpiece)

/-- A path that goes on as another does begins where that one begins. -/
theorem isAbsolute_congr (hne : q.pieces ≠ [[]]) (h : q.pieces <+: p.pieces) :
    q.isAbsolute = p.isAbsolute := by
  obtain ⟨behind, hpieces⟩ := h
  obtain ⟨first, more, hcut⟩ := List.exists_cons_of_ne_nil (splitOn_ne_nil '/' q.text.toList)
  rw [← pieces] at hcut
  rw [Bool.eq_iff_iff, isAbsolute_iff, isAbsolute_iff, ← hpieces, hcut, List.cons_append]
  constructor
  · rintro ⟨rest, hrest, heq⟩
    obtain ⟨rfl, rfl⟩ := List.cons.inj heq
    exact ⟨more ++ behind, fun h => hrest (List.append_eq_nil_iff.mp h).1, rfl⟩
  · rintro ⟨rest, -, heq⟩
    obtain ⟨rfl, -⟩ := List.cons.inj heq
    exact ⟨more, fun h => hne (by rw [hcut, h]), rfl⟩

/-- The path without its last part begins where the path begins, and goes the same way or none. -/
theorem parent?_eq_some (h : p.parent? = some q) :
    (q.text = "" ∧ p.isAbsolute = false) ∨ (q.text = "/" ∧ p.isAbsolute = true) ∨
      (q.isAbsolute = p.isAbsolute ∧ q.pieces <+: p.pieces) := by
  have htrunk := trunk_prefix_self p.pieces
  rw [parent?] at h
  split at h
  · cases h
  case h_2 first hcut =>
    split at h
    · cases h
    · next hfirst =>
      cases h
      refine Or.inl ⟨rfl, Bool.eq_false_iff.mpr fun habs => hfirst ?_⟩
      obtain ⟨rest, -, hpieces⟩ := isAbsolute_iff.mp habs
      rw [hcut, hpieces] at htrunk
      obtain ⟨rfl, -⟩ := List.cons_prefix_cons.mp htrunk
      rfl
  case h_3 first rest hrest hcut =>
    have hfront : trunk (first :: rest.dropLast) <+: first :: rest :=
      (trunk_prefix_self _).trans ((List.prefix_cons_inj first).mpr (List.dropLast_prefix rest))
    rw [hcut] at htrunk
    split at h
    -- Only the root is left of the way, so it is there that the path begins.
    · next hroot =>
      cases h
      refine Or.inr (Or.inl ⟨rfl, isAbsolute_iff.mpr ?_⟩)
      rw [hroot] at hfront
      obtain ⟨rfl, -⟩ := List.cons_prefix_cons.mp hfront
      obtain ⟨behind, hpieces⟩ := htrunk
      refine ⟨rest ++ behind, fun h => ?_, hpieces.symm⟩
      exact hrest (List.append_eq_nil_iff.mp h).1
    · next hroot =>
      cases h
      have hpieces := pieces_ofList_join (by simp [trunk]) (hfront.trans htrunk)
      refine Or.inr (Or.inr ⟨isAbsolute_congr ?_ ?_, ?_⟩)
      · rwa [hpieces]
      · rw [hpieces]
        exact hfront.trans htrunk
      · rw [hpieces]
        exact hfront.trans htrunk

/-- Where nothing but pieces that say nothing lead is where they begin. -/
theorem Passes.eq_start (hidle : ∀ piece ∈ p.pieces, isIdle piece = true) (h : p.Passes home l) :
    l = if p.isAbsolute then [] else home := by
  obtain ⟨front, hfront, rfl⟩ := h
  have hall : ∀ piece ∈ front, isIdle piece = true := fun piece hpiece =>
    hidle piece (hfront.subset hpiece)
  clear hfront
  induction front with
  | nil => rfl
  | cons piece front ih =>
    rw [List.forall_mem_cons] at hall
    rw [List.foldl_cons, stepFrom, if_pos hall.1]
    exact ih hall.2

theorem Passes.of_parent? (h : p.parent? = some q) (hl : q.Passes home l) : p.Passes home l := by
  obtain ⟨htext, habs⟩ | ⟨htext, habs⟩ | ⟨habs, hpieces⟩ := parent?_eq_some h
  · obtain rfl : q = { text := "" } := congrArg Path.mk htext
    exact ⟨[], List.nil_prefix, by rw [hl.eq_start (by decide), habs]; rfl⟩
  · obtain rfl : q = { text := "/" } := congrArg Path.mk htext
    exact ⟨[], List.nil_prefix, by rw [hl.eq_start (by decide), habs]; rfl⟩
  · obtain ⟨front, hfront, rfl⟩ := hl
    exact ⟨front, hfront.trans hpieces, by rw [habs]⟩

theorem passes_of_mem_ancestorsFrom {fuel : Nat} (h : q ∈ ancestorsFrom fuel p) :
    p.Passes home (q.resolve home) := by
  induction fuel generalizing p with
  | zero => cases h
  | succ fuel ih =>
    rw [ancestorsFrom] at h
    split at h
    · cases h
    · rcases List.mem_cons.mp h with rfl | h
      · exact passes_resolve home q
      · cases hparent : p.parent? with
        | none =>
          rw [hparent] at h
          cases h
        | some r =>
          rw [hparent] at h
          exact (ih h).of_parent? hparent

/-- A path leads through the directories in which it lies. -/
theorem passes_of_mem_ancestors (h : q ∈ p.ancestors) : p.Passes home (q.resolve home) :=
  passes_of_mem_ancestorsFrom h

/-! ## Ways that are put together -/

/-- The way to a name in a directory is the one to the directory, and the name. -/
theorem pieces_div (p : Path) {name : String} (hslash : '/' ∉ name.toList) :
    ∃ front, front <+: p.pieces ∧ (p / name).pieces = front ++ [name.toList]
      ∧ (p / name).isAbsolute = p.isAbsolute := by
  have hpieces : pieces { text := name } = [name.toList] := splitOn_of_not_mem hslash
  have hrelative := isAbsolute_of_no_slash hslash
  show ∃ front, _ ∧ (p.join { text := name }).pieces = _ ∧ (p.join { text := name }).isAbsolute = _
  by_cases hp : p.text = ""
  · rw [join_of_text_eq_empty hp]
    exact ⟨[], List.nil_prefix, hpieces, by rw [hrelative, isAbsolute_eq, hp]; rfl⟩
  · obtain ⟨front, hfront, hjoin, habs⟩ := pieces_join hp hrelative
    refine ⟨front, ?_, by rw [hjoin, hpieces], habs⟩
    rcases hfront with heq | heq
    · exact heq ▸ List.prefix_rfl
    · exact heq ▸ List.prefix_append front _

/-- To a name in a directory one comes by way of the directory. -/
theorem Passes.of_div {name : String} (hslash : '/' ∉ name.toList) (h : (p / name).Passes home l) :
    p.Passes home l ∨ l = (p / name).resolve home := by
  obtain ⟨taken, htaken, rfl⟩ := h
  obtain ⟨front, hfront, hpieces, habs⟩ := pieces_div p hslash
  rw [hpieces, List.prefix_concat_iff] at htaken
  rcases htaken with rfl | htaken
  · exact Or.inr (by rw [resolve, hpieces])
  · exact Or.inl ⟨taken, htaken.trans hfront, by rw [habs]⟩

/-! ## Ways that only go inwards -/

theorem prefix_foldl_stepFrom {pieces : List (List Char)} (h : ['.', '.'] ∉ pieces) (l : Location) :
    l <+: pieces.foldl stepFrom l := by
  induction pieces generalizing l with
  | nil => exact List.prefix_rfl
  | cons piece pieces ih =>
    rw [List.mem_cons, not_or] at h
    refine List.IsPrefix.trans ?_ (ih h.2 (stepFrom l piece))
    rw [stepFrom, if_neg (Ne.symm h.1)]
    split
    · exact List.prefix_rfl
    · exact List.prefix_append l _

/-- A path that never points back leads through nothing but what its end lies in. -/
theorem Passes.prefix_resolve (hback : ['.', '.'] ∉ p.pieces) (h : p.Passes home l) :
    l <+: p.resolve home := by
  obtain ⟨front, ⟨behind, hpieces⟩, rfl⟩ := h
  rw [resolve, ← hpieces, List.foldl_append]
  refine prefix_foldl_stepFrom (fun hmem => hback ?_) _
  rw [← hpieces]
  exact List.mem_append_right front hmem

end Intercept.Path
