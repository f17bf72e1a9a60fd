import Intercept.Proofs.Text.Words
import Intercept.Section.MockParameters

/-!
# Intercept.Proofs.Section.Tokens -- tokens, and the quotes in them

Blanks separate tokens unless they stand between double quotes. Whether they do is a matter of
counting: a quote is open wherever an odd number of them stands in front. Since a token only ends
where none is open, the quotes may be counted from the front of the token just as well, and the flag
that the reader carries along is the parity of the token that is being read.

So a text is gaps and tokens in turn (`Spaced`) in exactly one way, and the reader finds it. Only the
last token may leave a quote open, and with it keep blanks up to the end of the text; as nothing comes
behind the last token, tokens that are glued together by single blanks are told apart again.
-/

namespace Intercept.Section

open Intercept.Text
open Intercept.Unicode (isBlank)

variable {front t cs rest : List Char} {ts : List (List Char)} {c : Char}

/-! ## Open quotes -/

/-- Whether a double quote is open behind a text: an odd number of them stands in it. -/
def leavesOpen (front : List Char) : Bool :=
  front.count '"' % 2 == 1

/-- Whether a character that stands behind a text is a blank outside of double quotes. -/
def isBare (front : List Char) (c : Char) : Bool :=
  isBlank c && !leavesOpen front

@[simp]
theorem leavesOpen_nil : leavesOpen [] = false := rfl

theorem leavesOpen_concat_quote (front : List Char) :
    leavesOpen (front ++ ['"']) = !leavesOpen front := by
  have hcount : (front ++ ['"']).count '"' = front.count '"' + 1 := by simp
  unfold leavesOpen
  rw [hcount, Bool.eq_iff_iff, Bool.not_eq_true', beq_iff_eq, beq_eq_false_iff_ne]
  omega

theorem leavesOpen_concat (hc : c ≠ '"') (front : List Char) :
    leavesOpen (front ++ [c]) = leavesOpen front := by
  have hcount : (front ++ [c]).count '"' = front.count '"' := by simp [hc]
  unfold leavesOpen
  rw [hcount]

/-- What is open behind one more character is told by what is open in front of it. -/
theorem leavesOpen_concat_congr {front' : List Char} (h : leavesOpen front = leavesOpen front')
    (c : Char) : leavesOpen (front ++ [c]) = leavesOpen (front' ++ [c]) := by
  by_cases hc : c = '"'
  · rw [hc, leavesOpen_concat_quote, leavesOpen_concat_quote, h]
  · rw [leavesOpen_concat hc, leavesOpen_concat hc, h]

theorem isBare_eq_true : isBare front c = true ↔ isBlank c = true ∧ leavesOpen front = false := by
  simp [isBare]

theorem ne_quote_of_blank (hc : isBlank c = true) : c ≠ '"' := by
  rintro rfl
  exact absurd hc (by decide)

/-- Behind a blank outside of quotes no quote is open, just as at the front of the text. -/
theorem leavesOpen_concat_bare (hc : isBare front c = true) :
    leavesOpen (front ++ [c]) = leavesOpen [] := by
  obtain ⟨hblank, hclosed⟩ := isBare_eq_true.mp hc
  rw [leavesOpen_concat (ne_quote_of_blank hblank), hclosed, leavesOpen_nil]

/-! ## Gaps and tokens -/

/-- No blank of a text stands outside of double quotes. -/
def Solid (cs : List Char) : Prop :=
  ∀ a c b, cs = a ++ c :: b → isBare a c = false

/-- A text that is not empty and in which no blank stands outside of double quotes. -/
structure IsToken (t : List Char) : Prop where
  ne_nil : t ≠ []
  solid : Solid t

/-- A text consists of gaps and of tokens. There may be a gap at either end; between two tokens there
is one, and the first of the two leaves no quote open. -/
inductive Spaced : List Char → List (List Char) → Prop
  | gap {g} (hg : AllBlank g) : Spaced g []
  | last {g t} (hg : AllBlank g) (ht : IsToken t) : Spaced (g ++ t) [t]
  | more {g t c rest ts} (hg : AllBlank g) (ht : IsToken t) (hclosed : leavesOpen t = false)
      (hc : isBlank c = true) (hrest : Spaced rest ts) : Spaced (g ++ (t ++ c :: rest)) (t :: ts)

/-- A text without the blanks that stand outside of double quotes; `front` is what stands in front of
it. -/
def withoutGapsFrom (front : List Char) : List Char → List Char
  | [] => []
  | c :: rest =>
    if isBare front c then withoutGapsFrom (front ++ [c]) rest
    else c :: withoutGapsFrom (front ++ [c]) rest

/-- A text without the blanks that stand outside of double quotes. -/
def withoutGaps (cs : List Char) : List Char :=
  withoutGapsFrom [] cs

theorem solid_nil : Solid [] := by
  intro a c b heq
  simp at heq

theorem solid_concat (h : Solid front) (hc : isBare front c = false) : Solid (front ++ [c]) := by
  intro a d b heq
  rcases List.eq_nil_or_concat b with rfl | ⟨b, e, rfl⟩
  · obtain ⟨rfl, hlast⟩ := List.append_inj' heq rfl
    obtain rfl : c = d := by simpa using hlast
    exact hc
  · have hsplit : front ++ [c] = (a ++ d :: b) ++ [e] := by simpa using heq
    exact h a d b (List.append_inj' hsplit rfl).1

theorem leavesOpen_append (hquote : '"' ∉ t) (front : List Char) :
    leavesOpen (front ++ t) = leavesOpen front := by
  rw [leavesOpen, leavesOpen, List.count_append, List.count_eq_zero.mpr hquote, Nat.add_zero]

theorem Solid.append_of_noBlank (h : Solid front) (ht : NoBlank t) : Solid (front ++ t) := by
  induction t generalizing front with
  | nil => rwa [List.append_nil]
  | cons c t ih =>
    obtain ⟨hc, ht⟩ := noBlank_cons.mp ht
    rw [List.append_cons]
    exact ih (solid_concat h (by rw [isBare, hc, Bool.false_and])) ht

/-- Behind an open quote blanks may stand up to the next quote. -/
theorem Solid.append_of_open (h : Solid front) (hopen : leavesOpen front = true)
    (ht : '"' ∉ t) : Solid (front ++ t) := by
  induction t generalizing front with
  | nil => rwa [List.append_nil]
  | cons c t ih =>
    rw [List.mem_cons, not_or] at ht
    have hc : isBare front c = false := by rw [isBare, hopen, Bool.not_true, Bool.and_false]
    rw [List.append_cons]
    exact ih (solid_concat h hc) (by rw [leavesOpen_concat (Ne.symm ht.1), hopen]) ht.2

/-- A blank in front of a text makes the gap there wider. -/
theorem Spaced.cons_blank (hc : isBlank c = true) (h : Spaced cs ts) : Spaced (c :: cs) ts := by
  have hwider : ∀ {g : List Char}, AllBlank g → AllBlank (c :: g) := fun hg =>
    List.forall_mem_cons.mpr ⟨hc, hg⟩
  cases h with
  | gap hg => exact .gap (hwider hg)
  | last hg ht => exact .last (hwider hg) ht
  | more hg ht hclosed hd hrest => exact .more (hwider hg) ht hclosed hd hrest

theorem Spaced.isToken (h : Spaced cs ts) : ∀ t ∈ ts, IsToken t := by
  induction h with
  | gap hg => simp
  | last hg ht => simpa using ht
  | more hg ht hclosed hc hrest ih => exact List.forall_mem_cons.mpr ⟨ht, ih⟩

theorem Spaced.subset (h : Spaced cs ts) : ∀ t ∈ ts, t ⊆ cs := by
  induction h with
  | gap hg => simp
  | @last g t hg ht => simp
  | @more g t c rest ts hg ht hclosed hc hrest ih =>
    refine List.forall_mem_cons.mpr ⟨?_, fun later hlater => ?_⟩
    · exact List.subset_append_of_subset_right g (List.subset_append_left t _)
    · refine List.subset_append_of_subset_right g (List.subset_append_of_subset_right t ?_)
      exact List.subset_cons_of_subset c (ih later hlater)

/-- Tokens with single blanks between them, of which only the last may leave a quote open, are gaps
and tokens again. -/
theorem Spaced.join (h : Spaced cs ts) : Spaced (join [' '] ts) ts := by
  induction h with
  | gap hg => exact .gap allBlank_nil
  | last hg ht =>
    rw [Text.join, List.intercalate_singleton]
    exact .last allBlank_nil ht
  | @more g t c rest ts hg ht hclosed hc hrest ih =>
    cases ts with
    | nil =>
      rw [Text.join, List.intercalate_singleton]
      exact .last allBlank_nil ht
    | cons next ts =>
      rw [join_cons_cons, List.singleton_append]
      exact .more allBlank_nil ht hclosed (by decide) ih

/-- Which blanks are left out depends on what stands in front only through the quote that is open. -/
theorem withoutGapsFrom_congr {front' : List Char} (h : leavesOpen front = leavesOpen front')
    (cs : List Char) : withoutGapsFrom front cs = withoutGapsFrom front' cs := by
  induction cs generalizing front front' with
  | nil => rfl
  | cons c cs ih =>
    have hbare : isBare front c = isBare front' c := by rw [isBare, isBare, h]
    rw [withoutGapsFrom, withoutGapsFrom, hbare, ih (leavesOpen_concat_congr h c)]

/-! ## Steps of the reader -/

/-- The tokens of a text behind `front`, with which its first token began already. -/
def tokensBehind (front cs : List Char) : List (List Char) :=
  tokensFrom front.reverse (leavesOpen front) cs

theorem tokens_eq_tokensBehind (cs : List Char) : tokens cs = tokensBehind [] cs := rfl

/-- The end of the text ends the token that is being read. -/
theorem tokensBehind_nil (hne : front ≠ []) : tokensBehind front [] = [front] := by
  simp [tokensBehind, tokensFrom, hne]

/-- A character that is no blank outside of quotes belongs to the token. -/
theorem tokensBehind_cons (hc : isBare front c = false) (rest : List Char) :
    tokensBehind front (c :: rest) = tokensBehind (front ++ [c]) rest := by
  unfold tokensBehind
  rw [tokensFrom, List.reverse_concat]
  by_cases hquote : c = '"'
  · rw [if_pos hquote, hquote, leavesOpen_concat_quote]
  · have hinside : (isBlank c && !leavesOpen front) = false := hc
    rw [if_neg hquote, hinside, if_neg Bool.false_ne_true, leavesOpen_concat hquote]

/-- A blank in a gap is passed over. -/
theorem tokensBehind_gap (hc : isBlank c = true) (rest : List Char) :
    tokensBehind [] (c :: rest) = tokensBehind [] rest := by
  simp [tokensBehind, tokensFrom, hc, ne_quote_of_blank hc]

/-- A blank outside of quotes ends the token. -/
theorem tokensBehind_bare (hne : front ≠ []) (hc : isBare front c = true) (rest : List Char) :
    tokensBehind front (c :: rest) = front :: tokensBehind [] rest := by
  obtain ⟨hblank, hclosed⟩ := isBare_eq_true.mp hc
  simp [tokensBehind, tokensFrom, hblank, hclosed, ne_quote_of_blank hblank, hne]

/-! ## Runs of the reader -/

theorem tokensBehind_append_of_allBlank {g : List Char} (hg : AllBlank g) (rest : List Char) :
    tokensBehind [] (g ++ rest) = tokensBehind [] rest := by
  induction g with
  | nil => rfl
  | cons c g ih =>
    rw [List.cons_append, tokensBehind_gap (hg c List.mem_cons_self)]
    exact ih fun d hd => hg d (List.mem_cons_of_mem c hd)

theorem tokensBehind_append (h : Solid (front ++ t)) (rest : List Char) :
    tokensBehind front (t ++ rest) = tokensBehind (front ++ t) rest := by
  induction t generalizing front with
  | nil => rw [List.nil_append, List.append_nil]
  | cons c t ih =>
    have hassoc : front ++ c :: t = (front ++ [c]) ++ t := by simp
    rw [List.cons_append, tokensBehind_cons (h front c t rfl), ih (hassoc ▸ h), hassoc]

/-- Behind a gap a token is read whole. -/
theorem tokens_append {g : List Char} (hg : AllBlank g) (ht : IsToken t) (rest : List Char) :
    tokens (g ++ (t ++ rest)) = tokensBehind t rest := by
  have hsolid : Solid ([] ++ t) := ht.solid
  rw [tokens_eq_tokensBehind, tokensBehind_append_of_allBlank hg, tokensBehind_append hsolid,
    List.nil_append]

/-- The reader finds gaps and tokens. The induction is on what is left of the text; what has been read
of a token is solid. -/
theorem spaced_tokensBehind (h : Solid front) (cs : List Char) :
    Spaced (front ++ cs) (tokensBehind front cs) := by
  induction cs generalizing front with
  | nil =>
    by_cases hne : front = []
    · subst hne
      exact .gap allBlank_nil
    · rw [tokensBehind_nil hne, List.append_nil]
      exact .last allBlank_nil ⟨hne, h⟩
  | cons c rest ih =>
    cases hc : isBare front c with
    | false =>
      have hmore := ih (solid_concat h hc)
      rwa [tokensBehind_cons hc, List.append_cons]
    | true =>
      obtain ⟨hblank, hclosed⟩ := isBare_eq_true.mp hc
      have hlater : Spaced rest (tokensBehind [] rest) := ih solid_nil
      by_cases hne : front = []
      · subst hne
        rw [tokensBehind_gap hblank]
        exact hlater.cons_blank hblank
      · rw [tokensBehind_bare hne hc]
        exact .more allBlank_nil ⟨hne, h⟩ hclosed hblank hlater

/-- The characters of the tokens are those that are no blanks outside of quotes. -/
theorem flatten_tokensBehind (front cs : List Char) :
    (tokensBehind front cs).flatten = front ++ withoutGapsFrom front cs := by
  induction cs generalizing front with
  | nil =>
    by_cases hne : front = []
    · subst hne
      rfl
    · rw [tokensBehind_nil hne]
      rfl
  | cons c rest ih =>
    rw [withoutGapsFrom]
    cases hc : isBare front c with
    | false =>
      rw [tokensBehind_cons hc, ih]
      simp
    | true =>
      have hblank := (isBare_eq_true.mp hc).1
      have hlater : (tokensBehind [] rest).flatten = withoutGapsFrom (front ++ [c]) rest := by
        rw [ih [], List.nil_append, withoutGapsFrom_congr (leavesOpen_concat_bare hc)]
      by_cases hne : front = []
      · subst hne
        rw [tokensBehind_gap hblank, hlater]
        rfl
      · rw [tokensBehind_bare hne hc, List.flatten_cons, hlater]
        rfl

/-! ## Tokens -/

theorem Spaced.tokens_eq (h : Spaced cs ts) : tokens cs = ts := by
  induction h with
  | @gap g hg =>
    have hread := tokensBehind_append_of_allBlank hg []
    rwa [List.append_nil] at hread
  | @last g t hg ht =>
    have hread := tokens_append hg ht []
    rwa [List.append_nil, tokensBehind_nil ht.ne_nil] at hread
  | more hg ht hclosed hc hrest ih =>
    rw [tokens_append hg ht, tokensBehind_bare ht.ne_nil (isBare_eq_true.mpr ⟨hc, hclosed⟩),
      ← tokens_eq_tokensBehind, ih]

/-- The tokens of a text are the only way to take it for gaps and tokens. -/
theorem tokens_eq_iff : tokens cs = ts ↔ Spaced cs ts := by
  constructor
  · rintro rfl
    exact spaced_tokensBehind solid_nil cs
  · exact Spaced.tokens_eq

theorem subset_of_mem_tokens (h : t ∈ tokens cs) : t ⊆ cs :=
  (tokens_eq_iff.mp rfl : Spaced cs (tokens cs)).subset t h

/-- No token is empty, together they are the text without the blanks outside of double quotes, and
with single blanks between them they are read again as the same tokens, also if the last one leaves a
quote open. There is no other way to take the text for gaps and tokens. -/
theorem tokens_join_tokens (cs : List Char) :
    (∀ t ∈ tokens cs, t ≠ []) ∧ (tokens cs).flatten = withoutGaps cs
      ∧ tokens (join [' '] (tokens cs)) = tokens cs
      ∧ ∀ ts, Spaced cs ts ↔ ts = tokens cs := by
  have hspaced : Spaced cs (tokens cs) := tokens_eq_iff.mp rfl
  refine ⟨fun t ht => (hspaced.isToken t ht).ne_nil, flatten_tokensBehind [] cs,
    hspaced.join.tokens_eq, fun ts => ?_⟩
  rw [← tokens_eq_iff]
  exact eq_comm

/-- A quote that is not closed keeps the blanks up to the end of the text in its token. -/
example : tokens " a=1  b=\"x y\"z  c=\"u  v ".toList =
    ["a=1".toList, "b=\"x y\"z".toList, "c=\"u  v ".toList] := by decide

end Intercept.Section
