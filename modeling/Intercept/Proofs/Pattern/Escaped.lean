import Intercept.Proofs.Pattern.Openings
import Intercept.Proofs.Text.Words
import Intercept.Proofs.Unicode.CaseFolding

/-!
# Intercept.Proofs.Pattern.Escaped -- patterns that ask for one of some texts

A text in which every character with a meaning of its own stands behind a backslash is read as it
is, whatever characters it has, and a bar or parenthesis can only be one that was put around it. So
a choice of such texts is read as the expressions of these texts, and a search finds it exactly
where one of them stands, up to folding where letter case is ignored.
-/

namespace Intercept.Pattern

open Intercept.Unicode (fold)

/-! ## Single characters -/

section Steps

variable {f : Flags} {names : List (List Char)} {fuel : Nat} {rows parts : List Part}
  {rest : List Char} {c : Char}

theorem isMeta_iff : isMeta c = true ↔ c ∈ ['\\', '.', '+', '*', '?', '(', ')', '|', '[', ']',
    '\x7b', '\x7d', '^', '$', '#', '&', '-', '~'] := by
  rw [isMeta, List.contains_iff_mem]
  rfl

theorem ne_of_isMeta (h : isMeta c = false) {d : Char} (hd : isMeta d = true) : c ≠ d := by
  rintro rfl
  rw [hd] at h
  cases h

/-- None of the letters that mean something behind a backslash has a meaning without one. -/
theorem escape?_of_isMeta (h : isMeta c = true) :
    escape? f (c :: rest) = some (.char c false, rest) := by
  rw [isMeta_iff] at h
  simp only [List.mem_cons, List.not_mem_nil, or_false] at h
  rcases h with rfl | rfl | rfl | rfl | rfl | rfl | rfl | rfl | rfl | rfl | rfl | rfl | rfl | rfl
    | rfl | rfl | rfl | rfl <;> rfl

theorem simpleItem?_plain (h : isMeta c = false) :
    simpleItem? f (c :: rest) = some ({ expr := charExpr f c }, rest) := by
  rw [simpleItem?]
  all_goals exact ne_of_isMeta h rfl

theorem simpleItem?_escaped (h : isMeta c = true) :
    simpleItem? f ('\\' :: c :: rest) = some ({ expr := charExpr f c }, rest) := by
  simp [simpleItem?, escape?_of_isMeta h, itemChar?]

variable (hf : f.extended = false)

include hf

theorem skip_eq (cs : List Char) : f.skip cs = cs := by
  simp [Flags.skip, hf]

theorem choiceRest?_plain (h : isMeta c = false) :
    choiceRest? (fuel + 1) rows parts { flags := f, names, rest := c :: rest }
      = choiceRest? fuel rows ({ expr := charExpr f c } :: parts)
        { flags := f, names, rest } := by
  rw [choiceRest?, skip_eq hf]
  split
  case h_1 heq => cases heq
  case h_10 =>
    rw [simpleItem?_plain h]
    rfl
  all_goals
    next heq => exact absurd (List.cons.inj heq).1 (ne_of_isMeta h rfl)

theorem choiceRest?_escaped (h : isMeta c = true) :
    choiceRest? (fuel + 1) rows parts { flags := f, names, rest := '\\' :: c :: rest }
      = choiceRest? fuel rows ({ expr := charExpr f c } :: parts)
        { flags := f, names, rest } := by
  rw [choiceRest?, skip_eq hf]
  show (simpleItem? f ('\\' :: c :: rest) >>= fun p => choiceRest? fuel rows (p.1 :: parts)
    { flags := f, names, rest := p.2 }) = _
  rw [simpleItem?_escaped h]
  rfl

theorem choiceRest?_bar :
    choiceRest? (fuel + 1) rows parts { flags := f, names, rest := '|' :: rest }
      = choiceRest? fuel (row parts :: rows) [] { flags := f, names, rest } := by
  rw [choiceRest?, skip_eq hf]
  rfl

theorem choiceRest?_close :
    choiceRest? (fuel + 1) rows parts { flags := f, names, rest := ')' :: rest }
      = some (choice (row parts :: rows), { flags := f, names, rest := ')' :: rest }) := by
  rw [choiceRest?, skip_eq hf]
  rfl

end Steps

/-! ## Texts -/

/-- The expression that asks for a text. -/
def Expr.literal (f : Flags) (cs : List Char) : Expr :=
  .seqs (cs.map (charExpr f))

/-- What is read where a text stands behind backslashes. -/
def literalPart (f : Flags) (cs : List Char) : Part :=
  row (cs.map fun c => { expr := charExpr f c : Part }).reverse

theorem literalPart_expr (f : Flags) (cs : List Char) :
    (literalPart f cs).expr = .literal f cs := by
  rw [literalPart, row.eq_def]
  split
  · next h =>
    rw [List.reverse_eq_nil_iff, List.map_eq_nil_iff] at h
    rw [h]
    rfl
  · next p h =>
    rw [List.reverse_eq_iff, List.reverse_singleton] at h
    obtain ⟨c, rest, rfl, rfl, hrest⟩ := List.map_eq_cons_iff.mp h
    rw [List.map_eq_nil_iff.mp hrest]
    rfl
  · rw [List.reverse_reverse, List.map_map]
    rfl

theorem heightAbove_le {heights : List Nat} {n : Nat} (h : ∀ k ∈ heights, k ≤ n) :
    heightAbove heights ≤ n + 1 := by
  have hfold : ∀ start ≤ n, heights.foldl max start ≤ n := by
    induction heights with
    | nil => exact fun start hstart => hstart
    | cons k heights ih =>
      intro start hstart
      refine ih (fun k' hk' => h k' (List.mem_cons_of_mem k hk')) (max start k) ?_
      exact Nat.max_le.mpr ⟨hstart, h k List.mem_cons_self⟩
  exact Nat.succ_le_succ (hfold 0 (Nat.zero_le n))

theorem row_height_le {parts : List Part} {n : Nat} (h : ∀ p ∈ parts, p.height ≤ n) :
    (row parts).height ≤ n + 1 := by
  rw [row.eq_def]
  split
  · exact Nat.zero_le _
  · next p => exact Nat.le_succ_of_le (h p (List.mem_singleton_self p))
  · refine heightAbove_le fun k hk => ?_
    obtain ⟨p, hp, rfl⟩ := List.mem_map.mp hk
    exact h p hp

theorem choice_height_le {rows : List Part} {n : Nat} (h : ∀ p ∈ rows, p.height ≤ n) :
    (choice rows).height ≤ n + 1 := by
  rw [choice.eq_def]
  split
  · next p => exact Nat.le_succ_of_le (h p (List.mem_singleton_self p))
  · refine heightAbove_le fun k hk => ?_
    obtain ⟨p, hp, rfl⟩ := List.mem_map.mp hk
    exact h p hp

theorem choice_expr (rows : List Part) :
    (choice rows).expr = .alts (rows.reverse.map Part.expr) := by
  rw [choice.eq_def]
  split <;> rfl

theorem length_le_escape (cs : List Char) : cs.length ≤ (escape cs).length := by
  rw [escape, List.length_flatMap]
  induction cs with
  | nil => exact Nat.zero_le _
  | cons c cs ih =>
    have hpos : 1 ≤ (if isMeta c then ['\\', c] else [c]).length := by
      split
      · exact Nat.le_succ 1
      · exact Nat.le_refl 1
    rw [List.map_cons, List.sum_cons, List.length_cons, Nat.add_comm]
    exact Nat.add_le_add hpos ih

/-- Fuel for all that is written is fuel for the characters of a text, and for what follows it. -/
theorem exists_fuel {t : List Char} {n fuel : Nat} (h : (escape t).length + n < fuel) :
    ∃ k, n ≤ k ∧ fuel = k + 1 + t.length := by
  have hle := length_le_escape t
  exact ⟨fuel - t.length - 1, by omega, by omega⟩

section Texts

variable {f : Flags} (hf : f.extended = false) {names : List (List Char)} {fuel : Nat}
  {rows parts : List Part} {rest : List Char}

include hf

/-- A text behind backslashes is read one character at a time. -/
theorem choiceRest?_escape (cs : List Char) (parts : List Part) :
    choiceRest? (fuel + cs.length) rows parts { flags := f, names, rest := escape cs ++ rest }
      = choiceRest? fuel rows ((cs.map fun c => { expr := charExpr f c : Part }).reverse ++ parts)
        { flags := f, names, rest } := by
  induction cs generalizing parts with
  | nil => rfl
  | cons c cs ih =>
    have hstep : choiceRest? (fuel + cs.length + 1) rows parts
          { flags := f, names, rest := escape (c :: cs) ++ rest }
        = choiceRest? (fuel + cs.length) rows ({ expr := charExpr f c } :: parts)
          { flags := f, names, rest := escape cs ++ rest } := by
      cases hmeta : isMeta c with
      | true =>
        simp only [escape, List.flatMap_cons, hmeta, if_true]
        exact choiceRest?_escaped hf hmeta
      | false =>
        simp only [escape, List.flatMap_cons, hmeta, if_false, Bool.false_eq_true]
        exact choiceRest?_plain hf hmeta
    rw [List.length_cons, ← Nat.add_assoc, hstep, ih, List.map_cons, List.reverse_cons,
      List.append_assoc]
    rfl

/-- What is read of texts behind backslashes with bars between them. -/
theorem choiceRest?_join {texts : List (List Char)} (hne : texts ≠ [])
    (hfuel : (Text.join ['|'] (texts.map escape)).length < fuel) :
    choiceRest? fuel rows []
        { flags := f, names, rest := Text.join ['|'] (texts.map escape) ++ ')' :: rest }
      = some (choice ((texts.map (literalPart f)).reverse ++ rows),
        { flags := f, names, rest := ')' :: rest }) := by
  induction texts generalizing fuel rows with
  | nil => exact absurd rfl hne
  | cons t texts ih =>
    cases texts with
    | nil =>
      have hjoin : Text.join ['|'] ([t].map escape) = escape t := List.intercalate_singleton
      rw [hjoin] at hfuel ⊢
      obtain ⟨k, -, rfl⟩ := exists_fuel (n := 0) hfuel
      rw [choiceRest?_escape hf, List.append_nil, choiceRest?_close hf]
      rfl
    | cons u texts =>
      have hjoin : Text.join ['|'] ((t :: u :: texts).map escape)
          = escape t ++ '|' :: Text.join ['|'] ((u :: texts).map escape) :=
        Text.join_cons_cons ['|'] _ _ _
      rw [hjoin, List.length_append, List.length_cons] at hfuel
      obtain ⟨k, hk, rfl⟩ := exists_fuel hfuel
      rw [hjoin, List.append_assoc, choiceRest?_escape hf, List.append_nil, List.cons_append,
        choiceRest?_bar hf, ih (List.cons_ne_nil u texts) hk, List.map_cons (l := u :: texts),
        List.reverse_cons, List.append_assoc]
      rfl

omit hf in
theorem choiceRest?_end : choiceRest? (fuel + 1) rows parts { flags := f, names, rest := [] }
    = some (choice (row parts :: rows), { flags := f, names, rest := [] }) := by
  have hskip : f.skip [] = [] := by simp [Flags.skip, skipBlanks]
  rw [choiceRest?, hskip]

theorem choiceRest?_group {part : Part} {inner : List Char}
    (h : choiceRest? fuel [] [] { flags := f, names, rest := inner }
      = some (part, { flags := f, names, rest := ')' :: rest })) :
    choiceRest? (fuel + 1) rows parts { flags := f, names, rest := '(' :: '?' :: ':' :: inner }
      = choiceRest? fuel rows ({ expr := part.expr, height := part.height + 1 } :: parts)
        { flags := f, names, rest } := by
  have hopening : opening? { flags := f, names, rest := '(' :: '?' :: ':' :: inner }
      ('?' :: ':' :: inner) = some (.group f names inner) := by
    rw [opening?]
    simp only [skip_eq hf]
    rfl
  rw [choiceRest?, skip_eq hf]
  simp only [hopening, h, Option.bind_eq_bind, Option.bind_some]
  rfl

/-- The flag for letter case, in parentheses of its own. -/
theorem choiceRest?_caseless : choiceRest? (fuel + 1) rows parts
      { flags := f, names, rest := '(' :: '?' :: 'i' :: ')' :: rest }
    = choiceRest? fuel rows ({ expr := .empty, repeatable := false } :: parts)
      { flags := { f with ignoreCase := true }, names, rest } := by
  have hopening : opening? { flags := f, names, rest := '(' :: '?' :: 'i' :: ')' :: rest }
      ('?' :: 'i' :: ')' :: rest) = some (.flags { f with ignoreCase := true } rest) := by
    rw [opening?]
    simp only [skip_eq hf]
    rfl
  rw [choiceRest?, skip_eq hf]
  simp only [hopening, Option.bind_eq_bind, Option.bind_some]

/-- What is read of a group of texts. -/
def groupPart (f : Flags) (texts : List (List Char)) : Part :=
  let inner := choice (texts.map (literalPart f)).reverse
  { expr := inner.expr, height := inner.height + 1 }

omit hf in
theorem groupPart_expr (texts : List (List Char)) :
    (groupPart f texts).expr = .alts (texts.map (.literal f)) := by
  rw [groupPart, choice_expr, List.reverse_reverse, List.map_map]
  exact congrArg _ (List.map_congr_left fun t _ => literalPart_expr f t)

omit hf in
theorem groupPart_height_le (texts : List (List Char)) : (groupPart f texts).height ≤ 3 := by
  refine Nat.succ_le_succ (choice_height_le fun p hp => ?_)
  obtain ⟨t, -, rfl⟩ := List.mem_map.mp (List.mem_reverse.mp hp)
  refine row_height_le fun p hp => ?_
  obtain ⟨c, -, rfl⟩ := List.mem_map.mp (List.mem_reverse.mp hp)
  exact Nat.le_refl 0

/-- How a group of texts is written. -/
def group (texts : List (List Char)) : List Char :=
  '(' :: '?' :: ':' :: (Text.join ['|'] (texts.map escape) ++ [')'])

theorem choiceRest?_texts {texts : List (List Char)} (hne : texts ≠ [])
    (hfuel : (group texts).length ≤ fuel) :
    choiceRest? fuel [] parts { flags := f, names, rest := group texts }
      = some (row (groupPart f texts :: parts), { flags := f, names, rest := [] }) := by
  have hlength : (group texts).length = (Text.join ['|'] (texts.map escape)).length + 4 := by
    rw [group, List.length_cons, List.length_cons, List.length_cons, List.length_append]
    rfl
  obtain ⟨k, rfl⟩ : ∃ k, fuel = k + 1 + 1 := ⟨fuel - 2, by omega⟩
  rw [group, choiceRest?_group hf (choiceRest?_join hf hne (by omega)), choiceRest?_end,
    List.append_nil]
  rfl

end Texts

/-! ## Whole patterns -/

section Whole

variable {texts : List (List Char)} {cs : List Char} {part : Part} {st : State}

theorem parse?_of_choiceRest? (h : choiceRest? (2 * cs.length + 2) [] []
      { flags := {}, names := [], rest := cs } = some (part, st))
    (hrest : st.rest = []) (hheight : part.height ≤ maxNesting) : parse? cs = some part.expr := by
  rw [parse?, h, Option.bind_eq_bind, Option.bind_some]
  simp [hrest, hheight]

theorem parse?_group (hne : texts ≠ []) :
    parse? (group texts) = some (.alts (texts.map (.literal {}))) := by
  have hread : choiceRest? (2 * (group texts).length + 2) [] []
      { flags := {}, names := [], rest := group texts } = _ :=
    choiceRest?_texts rfl hne (by omega)
  rw [parse?_of_choiceRest? hread rfl, ← groupPart_expr]
  · rfl
  · exact Nat.le_trans (row_height_le fun p hp => List.mem_singleton.mp hp ▸ groupPart_height_le _)
      (by decide)

/-- Behind the flag for letter case, the texts of a group are read without regard to it. -/
theorem parse?_caseless (hne : texts ≠ []) :
    parse? ('(' :: '?' :: 'i' :: ')' :: group texts)
      = some (.seq .empty (.alts (texts.map (.literal { ignoreCase := true })))) := by
  have hread : choiceRest? (2 * ('(' :: '?' :: 'i' :: ')' :: group texts).length + 2) [] []
      { flags := {}, names := [], rest := '(' :: '?' :: 'i' :: ')' :: group texts } = _ :=
    (choiceRest?_caseless rfl).trans
      (choiceRest?_texts rfl hne (by simp only [List.length_cons]; omega))
  rw [parse?_of_choiceRest? hread rfl, ← groupPart_expr]
  · rfl
  · refine Nat.le_trans (row_height_le (n := 3) fun p hp => ?_) (by decide)
    rcases List.mem_cons.mp hp with rfl | hp
    · exact groupPart_height_le _
    · exact List.mem_singleton.mp hp ▸ Nat.zero_le 3

end Whole

/-! ## Where the texts stand -/

/-- What decides whether two characters are the same for a pattern. -/
def Flags.key (f : Flags) : Char → Char :=
  if f.ignoreCase then fold else id

namespace Expr

variable {f : Flags} {text cs : List Char} {texts : List (List Char)} {i k : Nat} {e : Expr}
  {es : List Expr}

theorem contains_closeCase (hf : f.unicode = true) {c d : Char} :
    (closeCase f (.single c)).contains d = true ↔ f.key d = f.key c := by
  rw [closeCase, Flags.key]
  cases f.ignoreCase with
  | false => exact contains_single
  | true =>
    simp only [Bool.not_true, Bool.false_eq_true, if_false, hf, if_true, CharSet.contains,
      List.any_eq_true, contains_single, exists_eq_right, Unicode.mem_caseVariants]
    exact eq_comm

theorem matches_seqs_cons {text : Array Char} :
    Matches text (seqs (e :: es)) i k ↔ ∃ j, Matches text e i j ∧ Matches text (seqs es) j k := by
  cases es with
  | nil => simp [seqs, matches_empty_iff]
  | cons e' es => exact matches_seq_iff

theorem matches_alts {text : Array Char} (hne : es ≠ []) :
    Matches text (alts es) i k ↔ ∃ e ∈ es, Matches text e i k := by
  induction es with
  | nil => exact absurd rfl hne
  | cons e es ih =>
    cases es with
    | nil => simp [alts]
    | cons e' es =>
      have hfirst : Matches text (alts (e :: e' :: es)) i k
          ↔ Matches text e i k ∨ Matches text (alts (e' :: es)) i k := matches_alt_iff
      rw [hfirst, ih (List.cons_ne_nil e' es)]
      simp only [List.mem_cons (a := _) (b := e), or_and_right, exists_or, exists_eq_left]

/-- A text is asked for one character after the other. -/
theorem matches_literal (hf : f.unicode = true) : Matches text.toArray (literal f cs) i k ↔
    cs.map f.key <+: (text.map f.key).drop i ∧ k = i + cs.length := by
  induction cs generalizing i with
  | nil =>
    rw [literal, List.map_nil, seqs, matches_empty_iff]
    exact ⟨fun h => ⟨List.nil_prefix, h.symm⟩, fun h => h.2.symm⟩
  | cons c cs ih =>
    have hhere : ∀ j, Matches text.toArray (charExpr f c) i j ↔
        [f.key c] <+: (text.map f.key).drop i ∧ j = i + 1 := by
      intro j
      rw [charExpr, matches_one_iff, singleton_prefix_drop, List.getElem?_map,
        Option.map_eq_some_iff, and_comm, List.getElem?_toArray]
      simp only [contains_closeCase hf]
    rw [literal, List.map_cons, matches_seqs_cons]
    change (∃ j, _ ∧ Matches text.toArray (literal f cs) j k) ↔ _
    have hsplit : (c :: cs).map f.key <+: (text.map f.key).drop i ↔
        [f.key c] <+: (text.map f.key).drop i ∧ cs.map f.key <+: (text.map f.key).drop (i + 1) :=
      Fronts.prefix_drop_append (x := [f.key c])
    simp only [hhere, ih, hsplit, List.length_cons]
    constructor
    · rintro ⟨j, ⟨hfirst, rfl⟩, hrest, rfl⟩
      exact ⟨⟨hfirst, hrest⟩, by omega⟩
    · rintro ⟨⟨hfirst, hrest⟩, rfl⟩
      exact ⟨i + 1, ⟨hfirst, rfl⟩, hrest, by omega⟩

theorem infix_iff_exists_drop {xs ys : List Char} :
    xs <:+: ys ↔ ∃ i ≤ ys.length, xs <+: ys.drop i := by
  constructor
  · rintro ⟨front, back, rfl⟩
    refine ⟨front.length, by simp, back, ?_⟩
    rw [List.append_assoc, List.drop_left]
  · rintro ⟨i, -, hprefix⟩
    exact hprefix.isInfix.trans (List.drop_suffix i ys).isInfix

theorem boundsOrdered_literal (f : Flags) (cs : List Char) :
    (literal f cs).boundsOrdered = true := by
  induction cs with
  | nil => rfl
  | cons c cs ih =>
    cases cs with
    | nil => rfl
    | cons d cs => exact ih

theorem boundsOrdered_alts (h : ∀ e ∈ es, e.boundsOrdered = true) :
    (alts es).boundsOrdered = true := by
  induction es with
  | nil => rfl
  | cons e es ih =>
    cases es with
    | nil => exact h e List.mem_cons_self
    | cons e' es =>
      exact Bool.and_eq_true_iff.mpr
        ⟨h e List.mem_cons_self, ih fun e hmem => h e (List.mem_cons_of_mem _ hmem)⟩

/-- A search for one of some texts finds them where they stand, up to the key. -/
theorem search_iff_of_texts (hf : f.unicode = true) (hne : texts ≠ [])
    (he : e = .alts (texts.map (literal f)) ∨ e = .seq .empty (.alts (texts.map (literal f)))) :
    e.search text.toArray = true ↔ ∃ t ∈ texts, t.map f.key <:+: text.map f.key := by
  have hordered : (alts (texts.map (literal f))).boundsOrdered = true := by
    refine boundsOrdered_alts fun e he => ?_
    obtain ⟨t, -, rfl⟩ := List.mem_map.mp he
    exact boundsOrdered_literal f t
  have hmatches : ∀ {i k}, Matches text.toArray (alts (texts.map (literal f))) i k ↔
      ∃ t ∈ texts, t.map f.key <+: (text.map f.key).drop i ∧ k = i + t.length := by
    intro i k
    rw [matches_alts (by simpa using hne)]
    constructor
    · rintro ⟨e, he, hmatch⟩
      obtain ⟨t, ht, rfl⟩ := List.mem_map.mp he
      exact ⟨t, ht, (matches_literal hf).mp hmatch⟩
    · rintro ⟨t, ht, hmatch⟩
      exact ⟨literal f t, List.mem_map_of_mem ht, (matches_literal hf).mpr hmatch⟩
  have hsearch : e.search text.toArray = true ↔
      ∃ i k, i ≤ text.toArray.size ∧ Matches text.toArray (alts (texts.map (literal f))) i k := by
    rcases he with rfl | rfl
    · exact search_iff hordered
    · rw [search_iff (by simpa [boundsOrdered] using hordered)]
      simp only [matches_seq_iff, matches_empty_iff, exists_eq_left']
  simp only [hsearch, hmatches, infix_iff_exists_drop, List.size_toArray, List.length_map]
  constructor
  · rintro ⟨i, k, hi, t, ht, hprefix, -⟩
    exact ⟨t, ht, i, hi, hprefix⟩
  · rintro ⟨t, ht, i, hi, hprefix⟩
    exact ⟨i, i + t.length, hi, t, ht, hprefix, rfl⟩

end Expr

end Intercept.Pattern
