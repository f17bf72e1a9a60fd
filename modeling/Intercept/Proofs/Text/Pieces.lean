import Intercept.Proofs.Text.Blanks

/-!
# Intercept.Proofs.Text.Pieces -- pieces between separators, and lines

A text that is cut at every separator is the concatenation of its pieces with the separators put
back, and cutting a text that was glued together at a separator cuts both halves. Lines are the
pieces between line feeds up to a carriage return and an empty last piece, which is why whatever
reads trimmed lines and says nothing about an empty one may read pieces instead, and why deleting
lines is leaving out pieces.
-/

namespace Intercept.Text

open Intercept.Unicode (isBlank)

/-! ## Fixed texts -/

theorem after?_eq_some {front cs rest : List Char} :
    after? front cs = some rest ↔ cs = front ++ rest := by
  induction front generalizing cs with
  | nil => simp [after?]
  | cons p ps ih =>
    cases cs with
    | nil => simp [after?]
    | cons c cs =>
      by_cases hpc : p = c
      · subst hpc
        simp [after?, ih]
      · simp [after?, hpc, Ne.symm hpc]

@[simp]
theorem after?_append (front rest : List Char) : after? front (front ++ rest) = some rest :=
  after?_eq_some.mpr rfl

theorem afterStr?_eq_some {front : String} {cs rest : List Char} :
    afterStr? front cs = some rest ↔ cs = front.toList ++ rest :=
  after?_eq_some

@[simp]
theorem afterStr?_append (front : String) (rest : List Char) :
    afterStr? front (front.toList ++ rest) = some rest :=
  after?_append front.toList rest

theorem before?_eq_some {back cs front : List Char} :
    before? back cs = some front ↔ cs = front ++ back := by
  constructor
  · intro h
    obtain ⟨r, hr, rfl⟩ := Option.map_eq_some_iff.mp h
    rw [after?_eq_some] at hr
    simpa using congrArg List.reverse hr
  · rintro rfl
    simp [before?]

/-! ## Pieces -/

theorem splitOn_ne_nil (sep : Char) (cs : List Char) : splitOn sep cs ≠ [] := by
  cases cs with
  | nil => simp [splitOn]
  | cons c cs =>
    rw [splitOn]
    split
    · simp
    · split <;> simp

theorem splitOn_cons_sep (sep : Char) (cs : List Char) :
    splitOn sep (sep :: cs) = [] :: splitOn sep cs := by
  simp [splitOn]

theorem splitOn_cons_of_ne {sep c : Char} (hc : c ≠ sep) {cs piece : List Char}
    {pieces : List (List Char)} (h : splitOn sep cs = piece :: pieces) :
    splitOn sep (c :: cs) = (c :: piece) :: pieces := by
  simp [splitOn, hc, h]

/-- A text glued together at a separator has the pieces of both halves. -/
theorem splitOn_append (sep : Char) (a b : List Char) :
    splitOn sep (a ++ sep :: b) = splitOn sep a ++ splitOn sep b := by
  induction a with
  | nil => simp [splitOn]
  | cons c a ih =>
    by_cases hc : c = sep
    · subst hc
      rw [List.cons_append, splitOn_cons_sep, splitOn_cons_sep, ih, List.cons_append]
    · cases h : splitOn sep a with
      | nil => exact absurd h (splitOn_ne_nil sep a)
      | cons piece pieces =>
        rw [h, List.cons_append] at ih
        rw [List.cons_append, splitOn_cons_of_ne hc ih, splitOn_cons_of_ne hc h, List.cons_append]

theorem not_mem_of_mem_splitOn {sep : Char} {cs piece : List Char} (h : piece ∈ splitOn sep cs) :
    sep ∉ piece := by
  induction cs generalizing piece with
  | nil =>
    rw [splitOn, List.mem_singleton] at h
    simp [h]
  | cons c cs ih =>
    by_cases hc : c = sep
    · rw [hc, splitOn_cons_sep, List.mem_cons] at h
      rcases h with rfl | h
      · simp
      · exact ih h
    · obtain ⟨first, pieces, hpieces⟩ := List.exists_cons_of_ne_nil (splitOn_ne_nil sep cs)
      rw [splitOn_cons_of_ne hc hpieces, List.mem_cons] at h
      rcases h with rfl | h
      · have hfirst : sep ∉ first := ih (by simp [hpieces])
        simp [Ne.symm hc, hfirst]
      · exact ih (by simp [hpieces, h])

theorem splitOn_of_not_mem {sep : Char} {cs : List Char} (h : sep ∉ cs) : splitOn sep cs = [cs] := by
  induction cs with
  | nil => rfl
  | cons c cs ih =>
    rw [List.mem_cons, not_or] at h
    exact splitOn_cons_of_ne (Ne.symm h.1) (ih h.2)

/-! ## Lines -/

theorem trim_dropReturn (piece : List Char) : trim (dropReturn piece) = trim piece := by
  cases h : before? ['\r'] piece with
  | none => simp [dropReturn, h]
  | some front =>
    have hr : AllBlank ['\r'] := by simp [AllBlank, isBlank]
    rw [dropReturn, h, Option.getD_some, before?_eq_some.mp h, trim_append_blanks front hr]

/-- What is read from trimmed lines, and not from an empty one, may be read from the pieces between
line feeds. -/
theorem filterMap_lines_trim {α : Type} {f : List Char → Option α} (hf : f [] = none)
    (text : List Char) :
    (lines text).filterMap (fun line => f (trim line))
      = (splitOn '\n' text).filterMap fun piece => f (trim piece) := by
  rw [lines]
  -- Only the last piece may be dropped, and only when it is empty.
  generalize splitOn '\n' text = pieces
  fun_induction linesOfPieces pieces with
  | case1 => rfl
  | case2 last hlast =>
    rw [List.isEmpty_iff] at hlast
    simp [hlast, hf]
  | case3 => rfl
  | case4 piece rest _ ih =>
    rw [List.filterMap_cons, List.filterMap_cons, trim_dropReturn, ih]

/-- A text without a line feed is one line, if it is not empty. -/
theorem lines_of_not_mem {cs : List Char} (h : '\n' ∉ cs) (hne : cs ≠ []) : lines cs = [cs] := by
  simp [lines, splitOn_of_not_mem h, linesOfPieces, hne]

theorem not_mem_dropReturn {piece : List Char} (h : '\n' ∉ piece) : '\n' ∉ dropReturn piece := by
  rw [dropReturn]
  cases hfront : before? ['\r'] piece with
  | none => exact h
  | some front =>
    rw [before?_eq_some.mp hfront, List.mem_append, not_or] at h
    exact h.1

/-- No line holds a line feed. -/
theorem not_mem_of_mem_lines {line text : List Char} (h : line ∈ lines text) : '\n' ∉ line := by
  have hpieces : ∀ piece ∈ splitOn '\n' text, '\n' ∉ piece := fun _ => not_mem_of_mem_splitOn
  rw [lines] at h
  generalize splitOn '\n' text = pieces at h hpieces
  fun_induction linesOfPieces pieces with
  | case1 => cases h
  | case2 => cases h
  | case3 => exact hpieces line h
  | case4 piece rest _ ih =>
    rcases List.mem_cons.mp h with rfl | h
    · exact not_mem_dropReturn (hpieces piece List.mem_cons_self)
    · exact ih h fun p hp => hpieces p (List.mem_cons_of_mem piece hp)

/-! ## Deleting lines -/

/-- Puts pieces together again, without those that are lines to be dropped; a piece is dropped along
with the line feed that ended it. -/
def deletePieces (drop : List Char → Bool) : List (List Char) → List Char
  | [] => []
  | [last] => if drop last then [] else last
  | piece :: rest =>
    if drop (dropReturn piece) then deletePieces drop rest
    else piece ++ '\n' :: deletePieces drop rest

/-- A text without some of its lines. What is left of it stays as it is, character by character. -/
def deleteLines (drop : List Char → Bool) (text : List Char) : List Char :=
  deletePieces drop (splitOn '\n' text)

theorem lines_cons_lineFeed {piece : List Char} (h : '\n' ∉ piece) (rest : List Char) :
    lines (piece ++ '\n' :: rest) = dropReturn piece :: lines rest := by
  obtain ⟨next, later, hrest⟩ := List.exists_cons_of_ne_nil (splitOn_ne_nil '\n' rest)
  rw [lines, lines, splitOn_append, splitOn_of_not_mem h, hrest]
  rfl

theorem lines_deletePieces (drop : List Char → Bool) {pieces : List (List Char)}
    (h : ∀ piece ∈ pieces, '\n' ∉ piece) :
    lines (deletePieces drop pieces) = (linesOfPieces pieces).filter (!drop ·) := by
  fun_induction linesOfPieces pieces with
  | case1 => rfl
  | case2 last hlast =>
    rw [List.isEmpty_iff] at hlast
    simp [deletePieces, hlast, lines, splitOn, linesOfPieces]
  | case3 last hlast =>
    rw [List.isEmpty_iff] at hlast
    cases hdrop : drop last with
    | true => simp [deletePieces, hdrop, lines, splitOn, linesOfPieces]
    | false => simp [deletePieces, hdrop, lines_of_not_mem (h last (by simp)) hlast]
  | case4 piece rest hrest ih =>
    have hlater : ∀ p ∈ rest, '\n' ∉ p := fun p hp => h p (List.mem_cons_of_mem piece hp)
    have hdelete : deletePieces drop (piece :: rest)
        = if drop (dropReturn piece) then deletePieces drop rest
          else piece ++ '\n' :: deletePieces drop rest := by
      cases rest with
      | nil => exact absurd rfl hrest
      | cons next later => rfl
    rw [hdelete, List.filter_cons]
    cases hdrop : drop (dropReturn piece) with
    | true => simpa using ih hlater
    | false => simpa [lines_cons_lineFeed (h piece List.mem_cons_self)] using ih hlater

/-- The lines that are left are those that are not dropped, in order. -/
theorem lines_deleteLines (drop : List Char → Bool) (text : List Char) :
    lines (deleteLines drop text) = (lines text).filter (!drop ·) :=
  lines_deletePieces drop fun _ => not_mem_of_mem_splitOn

end Intercept.Text
