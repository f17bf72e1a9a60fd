import Intercept.Proofs.Text.Parts

/-!
# Intercept.Proofs.Text.Payload -- payloads, from their first character to their last

The first character of a payload tells which characters may end it, and the payload reaches to the
last of these in its line. So a text is read as a payload and what follows exactly if it is put
together from a closed text and one that, up to the end of its line, closes nothing more. A text in
double quotes is known by its two ends alone.
-/

namespace Intercept.Text

variable {p : Char → Bool} {cs front back v : List Char}

/-! ## Lines -/

/-- The front of a text up to the end of its line. -/
def restOfLine (cs : List Char) : List Char :=
  cs.takeWhile (· != '\n')

theorem restOfLine_cons {c : Char} (hc : c ≠ '\n') (cs : List Char) :
    restOfLine (c :: cs) = c :: restOfLine cs :=
  List.takeWhile_cons_of_pos (bne_iff_ne.mpr hc)

theorem restOfLine_newline (cs : List Char) : restOfLine ('\n' :: cs) = [] := rfl

theorem restOfLine_append (h : '\n' ∉ cs) (back : List Char) :
    restOfLine (cs ++ back) = cs ++ restOfLine back :=
  List.takeWhile_append_of_pos fun _ hc => bne_iff_ne.mpr fun heq => h (heq ▸ hc)

theorem mem_restOfLine_append {c : Char} {a b : List Char} (h : c ∈ restOfLine (a ++ b)) :
    c ∈ restOfLine a ∨ c ∈ restOfLine b := by
  induction a with
  | nil => exact Or.inr h
  | cons d a ih =>
    by_cases hd : d = '\n'
    · rw [hd, List.cons_append, restOfLine_newline] at h
      cases h
    · rw [List.cons_append, restOfLine_cons hd, List.mem_cons] at h
      rw [restOfLine_cons hd, List.mem_cons]
      rcases h with h | h
      · exact Or.inl (Or.inl h)
      · exact (ih h).imp_left Or.inr

/-! ## The last character of a kind -/

theorem throughLast?_eq_none : throughLast? p cs = none ↔ ∀ c ∈ restOfLine cs, p c = false := by
  induction cs with
  | nil => simp [throughLast?, restOfLine]
  | cons c cs ih =>
    rw [throughLast?]
    by_cases hc : c = '\n'
    · rw [if_pos hc, hc, restOfLine_newline]
      simp
    · rw [if_neg hc, restOfLine_cons hc, List.forall_mem_cons]
      cases hrest : throughLast? p cs with
      | some q =>
        refine iff_of_false (by simp) fun hnone => ?_
        rw [ih.mpr hnone.2] at hrest
        cases hrest
      | none =>
        have hlater := ih.mp hrest
        cases hp : p c with
        | true => simp
        | false => simpa using hlater

/-- A text is cut behind a character of the kind, and none follows in the line. -/
theorem throughLast?_spec (h : throughLast? p cs = some (front, back)) :
    cs = front ++ back ∧ (∃ mid c, front = mid ++ [c] ∧ p c = true ∧ '\n' ∉ mid ∧ c ≠ '\n')
      ∧ ∀ c ∈ restOfLine back, p c = false := by
  induction cs generalizing front back with
  | nil => cases h
  | cons c cs ih =>
    rw [throughLast?] at h
    split at h
    · cases h
    · next hc =>
      split at h
      · next front' back' hrest =>
        cases h
        obtain ⟨rfl, ⟨mid, d, rfl, hd, hmid, hdn⟩, hback⟩ := ih hrest
        exact ⟨rfl, ⟨c :: mid, d, rfl, hd, by simpa [Ne.symm hc] using hmid, hdn⟩, hback⟩
      · next hrest =>
        split at h
        · next hp =>
          cases h
          exact ⟨rfl, ⟨[], c, rfl, hp, List.not_mem_nil, hc⟩, throughLast?_eq_none.mp hrest⟩
        · cases h

theorem throughLast?_append {mid : List Char} {c : Char} (hmid : '\n' ∉ mid) (hc : c ≠ '\n')
    (hp : p c = true) (hback : ∀ d ∈ restOfLine back, p d = false) :
    throughLast? p (mid ++ c :: back) = some (mid ++ [c], back) := by
  induction mid with
  | nil =>
    rw [List.nil_append, throughLast?, if_neg hc, throughLast?_eq_none.mpr hback]
    simp [hp]
  | cons d mid ih =>
    rw [List.mem_cons, not_or] at hmid
    rw [List.cons_append, throughLast?, if_neg (Ne.symm hmid.1), ih hmid.2]
    rfl

/-! ## Payloads -/

/-- The pairs of a first and a last character of a payload. -/
def closings : List (Char × Char) :=
  [('"', '"'), ('"', '\''), ('\'', '"'), ('\'', '\''), ('\x7b', '\x7d'), ('[', ']')]

/-- A character ends a payload with a given first character. -/
def Closes (first c : Char) : Prop := (first, c) ∈ closings

instance (first c : Char) : Decidable (Closes first c) :=
  inferInstanceAs (Decidable (_ ∈ closings))

/-- A text in one line from a character that opens a payload to one that closes it. -/
def IsPayload (v : List Char) : Prop :=
  ∃ first mid last, v = first :: (mid ++ [last]) ∧ Closes first last ∧ '\n' ∉ mid

/-- No character of the line behind a payload would close it as well. -/
def Sealed (v back : List Char) : Prop :=
  ∀ first, v.head? = some first → ∀ c ∈ restOfLine back, ¬ Closes first c

theorem Closes.last_ne_newline {first c : Char} (h : Closes first c) : c ≠ '\n' := by
  have hall : ∀ q ∈ closings, q.2 ≠ '\n' := by decide
  exact hall (first, c) h

theorem Closes.first_not_blank {first c : Char} (h : Closes first c) :
    Unicode.isBlank first = false := by
  have hall : ∀ q ∈ closings, Unicode.isBlank q.1 = false := by decide
  exact hall (first, c) h

theorem closes_quote {c : Char} : Closes '"' c ↔ c = '"' ∨ c = '\'' := by
  simp [Closes, closings]

theorem sealed_nil (v : List Char) : Sealed v [] := by
  simp [Sealed, restOfLine]

/-- A text in double quotes is closed once more only by a quote. -/
theorem sealed_of_noQuote (v : List Char) (hdouble : '"' ∉ back) (hsingle : '\'' ∉ back) :
    Sealed ('"' :: v) back := by
  intro first hfirst c hc hcloses
  cases hfirst
  have hmem : c ∈ back := (List.takeWhile_prefix _).subset hc
  rcases closes_quote.mp hcloses with rfl | rfl
  · exact hdouble hmem
  · exact hsingle hmem

/-- What follows the opening character is read up to the last character that closes it. -/
theorem payload?_cons (first : Char) (rest : List Char) :
    payload? (first :: rest) =
      (throughLast? (fun c => decide (Closes first c)) rest).map fun q => (first :: q.1, q.2) := by
  have hdouble : ∀ c, decide (Closes '"' c) = (c == '"' || c == '\'') := by
    intro c
    rw [Bool.eq_iff_iff]
    simp [Closes, closings]
  have hsingle : ∀ c, decide (Closes '\'' c) = (c == '"' || c == '\'') := by
    intro c
    rw [Bool.eq_iff_iff]
    simp [Closes, closings]
  have hbrace : ∀ c, decide (Closes '\x7b' c) = (c == '\x7d') := by
    intro c
    rw [Bool.eq_iff_iff]
    simp [Closes, closings]
  have hbracket : ∀ c, decide (Closes '[' c) = (c == ']') := by
    intro c
    rw [Bool.eq_iff_iff]
    simp [Closes, closings]
  rw [payload?.eq_def]
  split
  · next heq =>
    cases heq
    simp only [hdouble]
    rfl
  · next heq =>
    cases heq
    simp only [hsingle]
    rfl
  · next heq =>
    cases heq
    simp only [hbrace]
    rfl
  · next heq =>
    cases heq
    simp only [hbracket]
    rfl
  · next h₁ h₂ h₃ h₄ =>
    -- No other character opens a payload, so none closes it.
    have hfirst : first ≠ '"' ∧ first ≠ '\'' ∧ first ≠ '\x7b' ∧ first ≠ '[' :=
      ⟨fun h => h₁ rest (h ▸ rfl), fun h => h₂ rest (h ▸ rfl), fun h => h₃ rest (h ▸ rfl),
        fun h => h₄ rest (h ▸ rfl)⟩
    have hnone : ∀ c ∈ restOfLine rest, decide (Closes first c) = false := by
      intro c _
      simp [Closes, closings, hfirst]
    rw [throughLast?_eq_none.mpr hnone]
    rfl

/-- A text is read as a payload and what follows it exactly if it is put together from the two, and
nothing that follows in the line closes the payload as well. -/
theorem payload?_eq_some_iff :
    payload? cs = some (v, back) ↔ cs = v ++ back ∧ IsPayload v ∧ Sealed v back := by
  constructor
  · intro h
    cases cs with
    | nil => cases h
    | cons first rest =>
      rw [payload?_cons] at h
      obtain ⟨⟨front, back'⟩, hread, hpair⟩ := Option.map_eq_some_iff.mp h
      cases hpair
      obtain ⟨rfl, ⟨mid, last, rfl, hlast, hmid, -⟩, hback⟩ := throughLast?_spec hread
      refine ⟨rfl, ⟨first, mid, last, rfl, of_decide_eq_true hlast, hmid⟩, ?_⟩
      intro first' hfirst c hc
      cases hfirst
      exact of_decide_eq_false (hback c hc)
  · rintro ⟨rfl, ⟨first, mid, last, rfl, hlast, hmid⟩, hsealed⟩
    have hread := throughLast?_append (p := fun c => decide (Closes first c)) hmid
      hlast.last_ne_newline (decide_eq_true hlast)
      fun d hd => decide_eq_false (hsealed first rfl d hd)
    have hsplit : first :: (mid ++ [last]) ++ back = first :: (mid ++ last :: back) := by simp
    rw [hsplit, payload?_cons, hread]
    rfl

/-- Where a payload stands, one is read, though it may reach further. -/
theorem IsPayload.payload?_ne_none (h : IsPayload v) (back : List Char) :
    payload? (v ++ back) ≠ none := by
  obtain ⟨first, mid, last, rfl, hlast, hmid⟩ := h
  have hsplit : first :: (mid ++ [last]) ++ back = first :: (mid ++ last :: back) := by simp
  rw [hsplit, payload?_cons, ne_eq, Option.map_eq_none_iff, throughLast?_eq_none]
  intro hnone
  have hmem : last ∈ restOfLine (mid ++ last :: back) := by
    rw [restOfLine_append hmid, restOfLine_cons hlast.last_ne_newline]
    simp
  exact of_decide_eq_false (hnone last hmem) hlast

theorem IsPayload.newline_not_mem (h : IsPayload v) : '\n' ∉ v := by
  obtain ⟨first, mid, last, rfl, hlast, hmid⟩ := h
  have hfirst : '\n' ≠ first := by
    rintro rfl
    exact absurd hlast.first_not_blank (by decide)
  simp [hmid, hfirst, hlast.last_ne_newline.symm]

theorem IsPayload.trimStart_append (h : IsPayload v) (back : List Char) :
    trimStart (v ++ back) = v ++ back := by
  obtain ⟨first, mid, last, rfl, hlast, -⟩ := h
  exact trimStart_cons_of_not_blank hlast.first_not_blank

/-! ## Quotes around a text -/

/-- A text without the double quotes around it, if it has both. -/
inductive Unquoted : List Char → List Char → Prop
  | quoted (w : List Char) : Unquoted ('"' :: (w ++ ['"'])) w
  | plain {v : List Char} (h : ∀ w, v ≠ '"' :: (w ++ ['"'])) : Unquoted v v

theorem unquote_quoted (w : List Char) : unquote ('"' :: (w ++ ['"'])) = w := by
  have hback : before? ['"'] (w ++ ['"']) = some w := before?_eq_some.mpr rfl
  rw [unquote, hback, Option.getD_some]

theorem unquote_eq_self (h : ∀ w, v ≠ '"' :: (w ++ ['"'])) : unquote v = v := by
  unfold unquote
  split
  · next rest =>
    cases hback : before? ['"'] rest with
    | none => rfl
    | some w => exact absurd (congrArg ('"' :: ·) (before?_eq_some.mp hback)) (h w)
  · rfl

theorem unquoted_iff {data : List Char} : Unquoted v data ↔ unquote v = data := by
  constructor
  · intro h
    cases h with
    | quoted => exact unquote_quoted data
    | plain h => exact unquote_eq_self h
  · rintro rfl
    by_cases h : ∃ w : List Char, v = '"' :: (w ++ ['"'])
    · obtain ⟨w, rfl⟩ := h
      rw [unquote_quoted]
      exact .quoted w
    · rw [not_exists] at h
      rw [unquote_eq_self h]
      exact .plain h

end Intercept.Text
