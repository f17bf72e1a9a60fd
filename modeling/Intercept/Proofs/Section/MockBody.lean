import Intercept.Proofs.Text.Payload
import Intercept.Section.MockParameters

/-!
# Intercept.Proofs.Section.MockBody -- the body among the parameters of a mock line

The body stands behind `data=` and is cut out of the parameters at the first place where a payload
follows. Nothing else is lost: what stood before it and what stood behind it is left, in this order.
A payload that ends the line is cut out whole, whatever quotes and brackets are in it.
-/

namespace Intercept.Section

open Intercept.Text

/-- What stands in front of the body. -/
def mark : List Char := ['d', 'a', 't', 'a', '=']

theorem toList_mark : "data=".toList = mark := by decide

variable {x a r blanks v b w s : List Char}

/-! ## Places of the mark -/

/-- Two marks do not overlap, since the first character of the mark does not come again in it. -/
theorem mark_append_eq {u r' : List Char} (h : mark ++ r = u ++ (mark ++ r')) :
    u = [] ∨ ∃ u', u = mark ++ u' ∧ r = u' ++ (mark ++ r') := by
  rcases List.append_eq_append_iff.mp h with ⟨u', hu, hr⟩ | ⟨m, hm, hrest⟩
  · exact Or.inr ⟨u', hu, hr⟩
  · cases m with
    | nil => exact Or.inr ⟨[], by simpa using hm.symm, by simpa using hrest.symm⟩
    | cons c m =>
      have hc : c = 'd' := (List.cons.inj hrest).1.symm
      cases u with
      | nil => exact Or.inl rfl
      | cons d u =>
        have htail : ['a', 't', 'a', '='] = u ++ c :: m := (List.cons.inj hm).2
        have hmem : 'd' ∈ ['a', 't', 'a', '='] := by
          rw [htail, hc]
          simp
        exact absurd hmem (by decide)

/-- A mark with none in front of it and none behind it is the only one. -/
theorem eq_of_mark {r' : List Char} (hs : ¬ mark <:+: s) (hr : ¬ mark <:+: r)
    (h : s ++ (mark ++ r) = a ++ (mark ++ r')) : a = s ∧ r' = r := by
  rcases List.append_eq_append_iff.mp h with ⟨u, rfl, hu⟩ | ⟨u, rfl, hu⟩
  · rcases mark_append_eq hu with rfl | ⟨u', -, hrest⟩
    · exact ⟨List.append_nil s, (List.append_cancel_left hu).symm⟩
    · exact absurd ⟨u', r', by rw [hrest, List.append_assoc]⟩ hr
  · rcases mark_append_eq hu with rfl | ⟨u', rfl, -⟩
    · exact ⟨(List.append_nil a).symm, List.append_cancel_left hu⟩
    · exact absurd ⟨a, u', by rw [List.append_assoc]⟩ hs

/-- In front of the first mark there is no place to read the body. -/
theorem dataHere?_eq_none (hs : ¬ mark <:+: s) {y : List Char} (hy : y ≠ []) (hsuffix : y <:+ s)
    (r : List Char) : dataHere? (y ++ (mark ++ r)) = none := by
  rw [dataHere?, Option.bind_eq_none_iff]
  intro rest hrest
  have hread : y ++ (mark ++ r) = mark ++ rest := by
    rw [← toList_mark]
    exact afterStr?_eq_some.mp (toList_mark ▸ hrest)
  rcases mark_append_eq hread.symm with hnil | ⟨u, rfl, -⟩
  · exact absurd hnil hy
  · exact absurd ((List.prefix_append mark u).isInfix.trans hsuffix.isInfix) hs

theorem dataHere?_mark (r : List Char) : dataHere? (mark ++ r) = payload? (trimStart r) := by
  rw [dataHere?, ← toList_mark, afterStr?_append, Option.bind_some]

theorem dataHere?_eq_some {place back : List Char} (h : dataHere? place = some (v, back)) :
    ∃ blanks, place = mark ++ (blanks ++ (v ++ back)) ∧ AllBlank blanks ∧ IsPayload v
      ∧ Sealed v back := by
  obtain ⟨rest, hrest, hpayload⟩ := Option.bind_eq_some_iff.mp h
  obtain ⟨hv, hpayload, hsealed⟩ := payload?_eq_some_iff.mp hpayload
  obtain ⟨blanks, hblanks, heq⟩ := exists_trimStart rest
  refine ⟨blanks, ?_, hblanks, hpayload, hsealed⟩
  rw [afterStr?_eq_some.mp hrest, toList_mark, ← hv, ← heq]

/-! ## What is cut out -/

/-- A payload behind the first mark is cut out up to where it is sealed. -/
theorem extractData_of_payload (hs : ¬ mark <:+: s) (hread : payload? (trimStart r) = some (v, b)) :
    extractData (s ++ (mark ++ r)) = (unquote v, s ++ b) := by
  have hplace : dataHere? (mark ++ r) = some (v, b) := (dataHere?_mark r).trans hread
  rw [extractData, readFirst?_append hplace fun x y hy hxy =>
    dataHere?_eq_none hs hy ⟨x, hxy.symm⟩ r]

/-- Without a payload behind any mark nothing is cut out. -/
theorem extractData_of_forall
    (h : ∀ a r, x = a ++ (mark ++ r) → payload? (trimStart r) = none) : extractData x = ([], x) := by
  have hnone : readFirst? dataHere? x = none := by
    cases hread : readFirst? dataHere? x with
    | none => rfl
    | some q =>
      obtain ⟨back, rfl, hback⟩ := parts_of_readFirst? hread
      obtain ⟨blanks, rfl, -⟩ := dataHere?_eq_some hback
      rw [dataHere?_mark, h _ _ rfl] at hback
      cases hback
  rw [extractData, hnone]

theorem extractData_payload (hs : ¬ mark <:+: s) (hv : IsPayload v) :
    extractData (s ++ mark ++ v) = (unquote v, s) := by
  have hread : payload? (trimStart v) = some (v, []) := by
    have htrim : trimStart v = v := by simpa using hv.trimStart_append []
    rw [htrim]
    exact payload?_eq_some_iff.mpr ⟨(List.append_nil v).symm, hv, sealed_nil v⟩
  rw [List.append_assoc, extractData_of_payload hs hread, List.append_nil]

/-- Either no payload stands behind a mark and the parameters are left as they are, or the first one
is taken out of them, with its mark and the blanks between. -/
theorem extractData_cases (x : List Char) :
    (extractData x = ([], x) ∧ ∀ a blanks v b, x = a ++ (mark ++ (blanks ++ v)) ++ b →
        AllBlank blanks → ¬ IsPayload v)
      ∨ ∃ a blanks v b data, x = a ++ (mark ++ (blanks ++ v)) ++ b ∧ AllBlank blanks ∧ IsPayload v
        ∧ Unquoted v data ∧ extractData x = (data, a ++ b) := by
  rw [extractData]
  cases hread : readFirst? dataHere? x with
  | none =>
    refine Or.inl ⟨rfl, fun a blanks v b hx hblanks hv => ?_⟩
    obtain ⟨q, hq⟩ := Option.ne_none_iff_exists'.mp (hv.payload?_ne_none b)
    have hplace : dataHere? (mark ++ (blanks ++ (v ++ b))) = some q := by
      rw [dataHere?_mark, trimStart_append_of_allBlank hblanks, hv.trimStart_append, hq]
    have hsome := readFirst?_isSome hplace a
    have hsplit : a ++ (mark ++ (blanks ++ (v ++ b))) = x := by
      rw [hx]
      simp only [List.append_assoc]
    rw [hsplit, hread] at hsome
    cases hsome
  | some q =>
    obtain ⟨a, v, b⟩ := q
    obtain ⟨back, rfl, hback⟩ := parts_of_readFirst? hread
    obtain ⟨blanks, rfl, hblanks, hv, -⟩ := dataHere?_eq_some hback
    refine Or.inr ⟨a, blanks, v, b, unquote v, ?_, hblanks, hv, unquoted_iff.mpr rfl, rfl⟩
    simp only [List.append_assoc]

theorem isPayload_between {first last : Char} (h : Closes first last) (hw : '\n' ∉ w) :
    IsPayload (first :: (w ++ [last])) :=
  ⟨first, w, last, rfl, h, hw⟩

/-- A payload at the end of the parameters, behind the only mark up to there, is cut out exactly, and
what is in front of the mark is left. In any case, either nothing is cut out, and then no payload
stands behind a mark, or what is cut out is a mark with a payload, of which the quotes are dropped. -/
theorem extractData_exact :
    (∀ s, ¬ mark <:+: s → ∀ w, '\n' ∉ w →
      extractData (s ++ mark ++ '"' :: (w ++ ['"'])) = (w, s)
      ∧ extractData (s ++ mark ++ '\x7b' :: (w ++ ['\x7d'])) = ('\x7b' :: (w ++ ['\x7d']), s)
      ∧ extractData (s ++ mark ++ '[' :: (w ++ [']'])) = ('[' :: (w ++ [']']), s))
    ∧ ∀ x, (extractData x = ([], x) ∧ ∀ a blanks v b, x = a ++ (mark ++ (blanks ++ v)) ++ b →
          AllBlank blanks → ¬ IsPayload v)
        ∨ ∃ a blanks v b data, x = a ++ (mark ++ (blanks ++ v)) ++ b ∧ AllBlank blanks
          ∧ IsPayload v ∧ Unquoted v data ∧ extractData x = (data, a ++ b) := by
  refine ⟨fun s hs w hw => ⟨?quoted, ?braces, ?brackets⟩, extractData_cases⟩
  case quoted =>
    rw [extractData_payload hs (isPayload_between (by decide) hw), unquote_quoted]
  case braces =>
    have hplain : unquote ('\x7b' :: (w ++ ['\x7d'])) = '\x7b' :: (w ++ ['\x7d']) :=
      unquote_eq_self (by simp)
    rw [extractData_payload hs (isPayload_between (by decide) hw), hplain]
  case brackets =>
    have hplain : unquote ('[' :: (w ++ [']'])) = '[' :: (w ++ [']']) := unquote_eq_self (by simp)
    rw [extractData_payload hs (isPayload_between (by decide) hw), hplain]

/-- A body in which the mark, quotes of both kinds and brackets come again. -/
theorem extractData_exact_nested :
    let s := "data-type=json status-code=200 ".toList
    let w := "\"data=\": ['x', \x7b\x7d] \"".toList
    ¬ mark <:+: s ∧ '\n' ∉ w
      ∧ extractData (s ++ mark ++ '"' :: (w ++ ['"'])) = (w, s)
      ∧ extractData (s ++ mark ++ '\x7b' :: (w ++ ['\x7d'])) = ('\x7b' :: (w ++ ['\x7d']), s)
      ∧ extractData (s ++ mark ++ '[' :: (w ++ [']'])) = ('[' :: (w ++ [']']), s) := by
  intro s w
  have hs : ¬ mark <:+: s := not_infix_of_contains (by decide)
  have hw : '\n' ∉ w := by decide
  exact ⟨hs, hw, extractData_exact.1 s hs w hw⟩

end Intercept.Section
