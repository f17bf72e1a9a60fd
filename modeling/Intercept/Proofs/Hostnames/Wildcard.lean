import Intercept.Hostnames

/-!
# Intercept.Proofs.Hostnames.Wildcard -- what an entry stands for

In an entry of a list of hostnames `*` stands for any text and `?` for any one character. Whether an
entry fits a host is computed for all places of the host at once, from the end of the entry to its
front; the row of answers for the rest of the entry gives the row with one more character of it.
Each row tells the truth about every place, and so an entry fits exactly the hosts that it stands
for.
-/

namespace Intercept

/-! ## Meaning -/

/-- A pattern with wildcards stands for a text. -/
inductive StandsFor : List Char → List Char → Prop
  | nil : StandsFor [] []
  | star {ps back : List Char} (front : List Char) :
      StandsFor ps back → StandsFor ('*' :: ps) (front ++ back)
  | any {ps cs : List Char} (c : Char) : StandsFor ps cs → StandsFor ('?' :: ps) (c :: cs)
  | same {ps cs : List Char} (c : Char) : StandsFor ps cs → StandsFor (c :: ps) (c :: cs)

namespace StandsFor

variable {p : Char} {ps cs : List Char}

theorem nil_iff : StandsFor [] cs ↔ cs = [] := by
  constructor
  · rintro ⟨⟩
    rfl
  · rintro rfl
    exact nil

theorem star_iff : StandsFor ('*' :: ps) cs ↔ ∃ back, back <:+ cs ∧ StandsFor ps back := by
  constructor
  · intro h
    cases h with
    | star front h => exact ⟨_, ⟨front, rfl⟩, h⟩
    -- A star that stands for itself stands for a text of one character.
    | same _ h => exact ⟨_, List.suffix_cons '*' _, h⟩
  · rintro ⟨back, ⟨front, rfl⟩, h⟩
    exact star front h

/-- One character of a pattern that is no star. -/
theorem cons_iff (hp : p ≠ '*') : StandsFor (p :: ps) cs ↔
    ∃ c rest, cs = c :: rest ∧ (p = '?' ∨ p = c) ∧ StandsFor ps rest := by
  constructor
  · intro h
    cases h with
    | star => exact absurd rfl hp
    | any c h => exact ⟨c, _, rfl, .inl rfl, h⟩
    | same _ h => exact ⟨p, _, rfl, .inr rfl, h⟩
  · rintro ⟨c, rest, rfl, rfl | rfl, h⟩
    · exact any c h
    · exact same p h

/-- Without wildcards a pattern stands for itself and nothing else. -/
theorem plain_iff (hstar : '*' ∉ ps) (hany : '?' ∉ ps) : StandsFor ps cs ↔ cs = ps := by
  induction ps generalizing cs with
  | nil => exact nil_iff
  | cons p ps ih =>
    rw [List.mem_cons, not_or] at hstar hany
    rw [cons_iff (Ne.symm hstar.1)]
    constructor
    · rintro ⟨c, rest, rfl, hc | rfl, h⟩
      · exact absurd hc.symm hany.1
      · rw [(ih hstar.2 hany.2).mp h]
    · rintro rfl
      exact ⟨p, ps, rfl, .inr rfl, (ih hstar.2 hany.2).mpr rfl⟩

end StandsFor

/-! ## Rows of answers -/

/-- A row says of each place of a text, its end included, whether a property holds of the rest of the
text from there on. -/
def Tells (P : List Char → Prop) : List Char → List Bool → Prop
  | [], row => ∃ b, row = [b] ∧ (b = true ↔ P [])
  | c :: cs, row => ∃ b rest, row = b :: rest ∧ (b = true ↔ P (c :: cs)) ∧ Tells P cs rest

namespace Tells

variable {P Q : List Char → Prop} {text : List Char} {row : List Bool}

theorem headD (h : Tells P text row) : row.headD false = true ↔ P text := by
  cases text with
  | nil =>
    obtain ⟨b, rfl, hb⟩ := h
    exact hb
  | cons c cs =>
    obtain ⟨b, rest, rfl, hb, -⟩ := h
    exact hb

theorem congr (hPQ : ∀ cs, P cs ↔ Q cs) (h : Tells P text row) : Tells Q text row := by
  induction text generalizing row with
  | nil =>
    obtain ⟨b, hrow, hb⟩ := h
    exact ⟨b, hrow, hb.trans (hPQ [])⟩
  | cons c cs ih =>
    obtain ⟨b, rest, hrow, hb, hrest⟩ := h
    exact ⟨b, rest, hrow, hb.trans (hPQ (c :: cs)), ih hrest⟩

/-- Only at the end of a text is the rest of it empty. -/
theorem atEnd (text : List Char) :
    Tells (· = []) text (text.map (fun _ => false) ++ [true]) := by
  induction text with
  | nil => exact ⟨true, rfl, iff_of_true rfl rfl⟩
  | cons c cs ih => exact ⟨false, _, rfl, iff_of_false Bool.false_ne_true (List.cons_ne_nil c cs), ih⟩

theorem later (h : Tells P text row) :
    Tells (fun cs => ∃ back, back <:+ cs ∧ P back) text (laterOr row) := by
  induction text generalizing row with
  | nil =>
    obtain ⟨b, rfl, hb⟩ := h
    refine ⟨b, by simp [laterOr], hb.trans ⟨fun hP => ⟨[], List.suffix_rfl, hP⟩, ?_⟩⟩
    rintro ⟨back, hback, hP⟩
    rwa [List.suffix_nil.mp hback] at hP
  | cons c cs ih =>
    obtain ⟨b, rest, rfl, hb, hrest⟩ := h
    have htail := ih hrest
    refine ⟨_, _, rfl, ?_, htail⟩
    -- What holds at this place or at a later one holds of a suffix.
    rw [Bool.or_eq_true, hb, htail.headD]
    constructor
    · rintro (hP | ⟨back, hback, hP⟩)
      · exact ⟨c :: cs, List.suffix_rfl, hP⟩
      · exact ⟨back, hback.trans (List.suffix_cons c cs), hP⟩
    · rintro ⟨back, hback, hP⟩
      obtain rfl | hback := List.suffix_cons_iff.mp hback
      · exact .inl hP
      · exact .inr ⟨back, hback, hP⟩

theorem fit (p : Char) (h : Tells P text row) :
    Tells (fun cs => ∃ c rest, cs = c :: rest ∧ (p = '?' ∨ p = c) ∧ P rest) text
      (fitChar p text row) := by
  induction text generalizing row with
  | nil =>
    refine ⟨false, by simp [fitChar], iff_of_false Bool.false_ne_true ?_⟩
    rintro ⟨c, rest, h, -⟩
    cases h
  | cons c cs ih =>
    obtain ⟨b, rest, rfl, -, hrest⟩ := h
    refine ⟨_, _, rfl, ?_, ih hrest⟩
    rw [Bool.and_eq_true, hrest.headD, Bool.or_eq_true, beq_iff_eq, beq_iff_eq]
    constructor
    · rintro ⟨hp, hP⟩
      exact ⟨c, cs, rfl, hp, hP⟩
    · rintro ⟨_, _, heq, hp, hP⟩
      cases heq
      exact ⟨hp, hP⟩

end Tells

theorem tells_wildcardRow (text pattern : List Char) :
    Tells (StandsFor pattern) text (wildcardRow text pattern) := by
  induction pattern with
  | nil => exact (Tells.atEnd text).congr fun _ => StandsFor.nil_iff.symm
  | cons p ps ih =>
    rw [wildcardRow]
    split
    · next hp =>
      rw [hp]
      exact ih.later.congr fun _ => StandsFor.star_iff.symm
    · next hp => exact (ih.fit p).congr fun _ => (StandsFor.cons_iff hp).symm

/-- What is computed is what a pattern means. -/
theorem wildcardMatches_iff {pattern text : List Char} :
    wildcardMatches pattern text = true ↔ StandsFor pattern text :=
  (tells_wildcardRow text pattern).headD

/-! ## Entries and hosts -/

namespace Hostnames

/-- Some entry of a list stands for a host, the letter case of the host aside. -/
def Names (entries : List String) (host : String) : Prop :=
  ∃ e ∈ entries, StandsFor e.toList (lower host).toList

theorem covers_lower_iff {entries : List String} {host : String} :
    covers entries (lower host) = true ↔ Names entries host := by
  rw [covers, List.any_eq_true]
  exact exists_congr fun e => and_congr_right fun _ => wildcardMatches_iff

/-- A host is intercepted if some entry includes it and none excludes it. -/
theorem intercepts_iff {h : Hostnames} {host : String} :
    h.intercepts host = true ↔ Names h.included host ∧ ¬ Names h.excluded host := by
  rw [intercepts, Bool.and_eq_true, Bool.not_eq_true', ← Bool.not_eq_true, covers_lower_iff,
    covers_lower_iff, and_comm]

end Hostnames

end Intercept
