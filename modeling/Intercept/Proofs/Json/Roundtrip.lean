import Intercept.Json.Decode
import Intercept.Proofs.Fault
import Intercept.Proofs.Keyed

/-!
# Intercept.Proofs.Json.Roundtrip -- what is written can be read

A value that is written is read back as it is. Characters are undone one by one: each is written as
one part of a string token, whatever comes behind it. Values are read from the front, so the proof
follows how they are nested, with anything at all behind them. Numbers are left out: how they are
read depends on what follows them.
-/

namespace Intercept.Json

/-! ## String tokens -/

/-- A character is written as one part of a string token, and that part spells the character. -/
structure WrittenAs (c : Char) (part : Piece) : Prop where
  pieces : ∀ rest, pieces ((escapeChar c).map some ++ rest)
    = (pieces rest).map fun p => (part :: p.1, p.2)
  assemble : ∀ parts, assemble (part :: parts) = (assemble parts).map (c :: ·)

/-- A character with a letter of its own is written as that letter behind a backslash. -/
theorem writtenAs_short {c e : Char} (hwrite : escapeChar c = ['\\', e]) (he : e ≠ 'u')
    (hread : shortEscape? e = some c) : WrittenAs c (.char c) where
  pieces rest := by
    rw [hwrite]
    simp [pieces, he, hread]
    cases pieces rest <;> rfl
  assemble _ := rfl

/-- The digits of a control character. -/
theorem hexUnit?_control : ∀ n < 0x20,
    hexUnit? (some '0') (some '0') (some (Nat.digitChar (n / 16))) (some (Nat.digitChar (n % 16)))
      = some n := by
  decide

theorem writtenAs_unit {c : Char} (hc : c.toNat < 0x20)
    (hwrite : escapeChar c
      = ['\\', 'u', '0', '0', Nat.digitChar (c.toNat / 16), Nat.digitChar (c.toNat % 16)]) :
    WrittenAs c (.unit c.toNat) where
  pieces rest := by
    rw [hwrite]
    simp only [List.map_cons, List.map_nil, List.cons_append, List.nil_append, pieces,
      hexUnit?_control _ hc]
    cases pieces rest <;> rfl
  assemble parts := by
    have hunit : c.toNat < 0xd800 ∨ 0xe000 ≤ c.toNat := Or.inl (by omega)
    rw [assemble.eq_def]
    simp [hunit]

theorem writtenAs_self {c : Char} (hquote : c ≠ '"') (hslash : c ≠ '\\') (hc : ¬ c.toNat < 0x20)
    (hwrite : escapeChar c = [c]) : WrittenAs c (.char c) where
  pieces rest := by
    rw [hwrite]
    simp [pieces, hslash, hc]
  assemble _ := rfl

theorem exists_writtenAs (c : Char) : ∃ part, WrittenAs c part := by
  fun_cases escapeChar c with
  | case8 c hquote hslash _ _ _ _ _ hc =>
    exact ⟨.unit c.toNat, writtenAs_unit hc (by simp [escapeChar, hc])⟩
  | case9 c hquote hslash _ _ _ _ _ hc =>
    exact ⟨.char c, writtenAs_self hquote hslash hc (by simp [escapeChar, hc])⟩
  | _ => exact ⟨.char _, writtenAs_short rfl (by decide) rfl⟩

theorem exists_pieces (cs : List Char) : ∃ parts, assemble parts = some cs
    ∧ ∀ rest, pieces ((cs.flatMap escapeChar ++ ['"']).map some ++ rest) = some (parts, rest) := by
  induction cs with
  | nil => exact ⟨[], rfl, fun rest => rfl⟩
  | cons c cs ih =>
    obtain ⟨parts, hspell, hread⟩ := ih
    obtain ⟨part, hpart⟩ := exists_writtenAs c
    refine ⟨part :: parts, ?_, fun rest => ?_⟩
    · rw [hpart.assemble, hspell]
      rfl
    · rw [List.flatMap_cons, List.append_assoc, List.map_append, List.append_assoc, hpart.pieces,
        hread]
      rfl

theorem stringToken_renderString (s : String) : ∃ cs, renderString (some s) = '"' :: cs
    ∧ ∀ rest, stringToken (cs.map some ++ rest) = some (some s, rest) := by
  obtain ⟨parts, hspell, hread⟩ := exists_pieces s.toList
  refine ⟨_, rfl, fun rest => ?_⟩
  rw [stringToken, hread, Option.map_some, hspell, Option.map_some, String.ofList_toList]

/-! ## Arrays and objects -/

theorem skipSpace_cons {c : Char} (hc : isSpace (some c) = false) (rest : Input) :
    skipSpace (some c :: rest) = some c :: rest := by
  simp [skipSpace, hc]

section Nested

variable {fuel : Nat} {input more rest : Input} {v : Json} {vs : List Json}
  {ms : List (Option String × Json)} {k : Option String}

theorem value_array {c : Char} (hinput : input.head? = some (some c))
    (hspace : isSpace (some c) = false) (hc : c ≠ ']') (h : items fuel input = some (vs, rest)) :
    value (fuel + 1) (some '[' :: input) = some (.arr vs, rest) := by
  obtain ⟨tail, rfl⟩ := List.head?_eq_some_iff.mp hinput
  rw [value, skipSpace_cons (by decide)]
  simp [skipSpace_cons hspace, hc, h]

theorem items_last (h : value fuel input = some (v, some ']' :: rest)) :
    items (fuel + 1) input = some ([v], rest) := by
  rw [items, h]
  simp [skipSpace_cons, isSpace]

theorem items_more (h : value fuel input = some (v, some ',' :: more))
    (hmore : items fuel more = some (vs, rest)) :
    items (fuel + 1) input = some (v :: vs, rest) := by
  rw [items, h]
  simp [skipSpace_cons, isSpace, hmore]

theorem value_object (h : members fuel (some '"' :: input) = some (ms, rest)) :
    value (fuel + 1) (some '\x7b' :: some '"' :: input) = some (.obj ms, rest) := by
  rw [value, skipSpace_cons (by decide)]
  simp [skipSpace_cons, isSpace, h]

theorem members_last (hname : stringToken input = some (k, some ':' :: more))
    (h : value fuel more = some (v, some '\x7d' :: rest)) :
    members (fuel + 1) (some '"' :: input) = some ([(k, v)], rest) := by
  rw [members, skipSpace_cons (by decide)]
  simp [hname, skipSpace_cons, isSpace, h]

theorem members_more {later : Input} (hname : stringToken input = some (k, some ':' :: more))
    (h : value fuel more = some (v, some ',' :: later))
    (hlater : members fuel later = some (ms, rest)) :
    members (fuel + 1) (some '"' :: input) = some ((k, v) :: ms, rest) := by
  rw [members, skipSpace_cons (by decide)]
  simp [hname, skipSpace_cons, isSpace, h, hlater]

end Nested

/-! ## Values -/

mutual

/-- Whether a value holds no number and every string token in it spells a text. -/
def isPlain : Json → Bool
  | .null => true
  | .bool _ => true
  | .num _ => false
  | .str s => s.isSome
  | .arr items => plainItems items
  | .obj members => plainMembers members

def plainItems : List Json → Bool
  | [] => true
  | v :: vs => isPlain v && plainItems vs

def plainMembers : List (Option String × Json) → Bool
  | [] => true
  | (k, v) :: ms => k.isSome && isPlain v && plainMembers ms

end

theorem plainItems_eq_all (vs : List Json) : plainItems vs = vs.all isPlain := by
  induction vs with
  | nil => rfl
  | cons v vs ih => rw [plainItems, ih, List.all_cons]

@[simp]
theorem isPlain_text (s : String) : isPlain (text s) = true := rfl

@[simp]
theorem isPlain_arr (vs : List Json) : isPlain (.arr vs) = vs.all isPlain :=
  plainItems_eq_all vs

@[simp]
theorem isPlain_object (members : List (String × Json)) :
    isPlain (object members) = members.all fun m => isPlain m.2 := by
  have hmembers : ∀ ms : List (String × Json),
      plainMembers (ms.map fun m => (some m.1, m.2)) = ms.all fun m => isPlain m.2 := by
    intro ms
    induction ms with
    | nil => rfl
    | cons m ms ih => simp [plainMembers, ih]
  exact hmembers members

/-- What is written of a value begins with no blank and with no closing bracket. -/
theorem exists_head_renderChars {v : Json} (h : isPlain v = true) : ∃ c cs,
    renderChars v = c :: cs ∧ isSpace (some c) = false ∧ c ≠ ']' := by
  match v with
  | .null => exact ⟨_, _, rfl, by decide, by decide⟩
  | .bool true => exact ⟨_, _, rfl, by decide, by decide⟩
  | .bool false => exact ⟨_, _, rfl, by decide, by decide⟩
  | .str (some s) => exact ⟨_, _, rfl, by decide, by decide⟩
  | .arr [] => exact ⟨_, _, rfl, by decide, by decide⟩
  | .arr (v :: vs) => exact ⟨_, _, rfl, by decide, by decide⟩
  | .obj [] => exact ⟨_, _, rfl, by decide, by decide⟩
  | .obj ((k, v) :: ms) => exact ⟨_, _, rfl, by decide, by decide⟩

mutual

-- The three theorems go down the value together. A call spends a unit of fuel, and reads a character
-- at least that none of the calls inside it reads, so the length of what is written is fuel enough.

theorem value_renderChars : ∀ (v : Json) (fuel : Nat) (rest : Input), isPlain v = true →
    (renderChars v).length < fuel → value fuel ((renderChars v).map some ++ rest) = some (v, rest)
  | .null, fuel + 1, rest, _, _ => by
    simp [renderChars, value, skipSpace_cons, isSpace, afterWord?, afterWord?.go]
  | .bool true, fuel + 1, rest, _, _ => by
    simp [renderChars, value, skipSpace_cons, isSpace, afterWord?, afterWord?.go]
  | .bool false, fuel + 1, rest, _, _ => by
    simp [renderChars, value, skipSpace_cons, isSpace, afterWord?, afterWord?.go]
  | .str (some s), fuel + 1, rest, _, _ => by
    obtain ⟨cs, hwrite, hread⟩ := stringToken_renderString s
    simp [renderChars, hwrite, value, skipSpace_cons, isSpace, hread]
  | .arr [], fuel + 1, rest, _, _ => by
    simp [renderChars, value, skipSpace_cons, isSpace]
  | .arr (v :: vs), fuel + 1, rest, h, hfuel => by
    simp only [isPlain, plainItems, Bool.and_eq_true] at h
    simp only [renderChars, List.length_cons] at hfuel
    obtain ⟨c, cs, hhead, hspace, hc⟩ := exists_head_renderChars h.1
    have hitems := items_renderItems v vs fuel rest h.1 h.2 (Nat.lt_of_succ_lt_succ hfuel)
    exact value_array (by simp [hhead]) hspace hc hitems
  | .obj [], fuel + 1, rest, _, _ => by
    simp [renderChars, value, skipSpace_cons, isSpace]
  | .obj ((some k, v) :: ms), fuel + 1, rest, h, hfuel => by
    simp only [isPlain, plainMembers, Bool.and_eq_true] at h
    simp only [renderChars, List.length_cons] at hfuel
    have hmembers := members_renderMembers k v ms fuel rest h.1.2 h.2 (Nat.lt_of_succ_lt_succ hfuel)
    exact value_object hmembers

theorem items_renderItems : ∀ (v : Json) (vs : List Json) (fuel : Nat) (rest : Input),
    isPlain v = true → plainItems vs = true →
    (renderChars v ++ renderItems vs).length < fuel →
    items fuel ((renderChars v ++ renderItems vs).map some ++ rest) = some (v :: vs, rest)
  | v, [], fuel + 1, rest, h, _, hfuel => by
    simp only [List.length_append, renderItems, List.length_cons] at hfuel
    have hvalue := value_renderChars v fuel (some ']' :: rest) h (by omega)
    simpa [renderItems] using items_last hvalue
  | v, v' :: vs, fuel + 1, rest, h, hvs, hfuel => by
    simp only [plainItems, Bool.and_eq_true] at hvs
    simp only [List.length_append, renderItems, List.length_cons] at hfuel
    have hitems := items_renderItems v' vs fuel rest hvs.1 hvs.2
      (by rw [List.length_append]; omega)
    have hvalue := value_renderChars v fuel
      (some ',' :: ((renderChars v' ++ renderItems vs).map some ++ rest)) h (by omega)
    simpa [renderItems] using items_more hvalue hitems

theorem members_renderMembers : ∀ (k : String) (v : Json) (ms : List (Option String × Json))
    (fuel : Nat) (rest : Input), isPlain v = true → plainMembers ms = true →
    (renderString (some k) ++ ':' :: (renderChars v ++ renderMembers ms)).length < fuel →
    members fuel ((renderString (some k) ++ ':' :: (renderChars v ++ renderMembers ms)).map some
      ++ rest) = some ((some k, v) :: ms, rest)
  | k, v, [], fuel + 1, rest, h, _, hfuel => by
    obtain ⟨cs, hwrite, hname⟩ := stringToken_renderString k
    simp only [List.length_append, renderMembers, List.length_cons] at hfuel
    have hvalue := value_renderChars v fuel (some '\x7d' :: rest) h (by omega)
    simpa [renderMembers, hwrite] using members_last (hname _) hvalue
  | k, v, (some k', v') :: ms, fuel + 1, rest, h, hms, hfuel => by
    obtain ⟨cs, hwrite, hname⟩ := stringToken_renderString k
    simp only [plainMembers, Bool.and_eq_true] at hms
    simp only [List.length_append, renderMembers, List.length_cons] at hfuel
    have hmembers := members_renderMembers k' v' ms fuel rest hms.1.2 hms.2
      (by simp only [List.length_append, List.length_cons]; omega)
    have hvalue := value_renderChars v fuel
      (some ',' :: ((renderString (some k') ++ ':' :: (renderChars v' ++ renderMembers ms)).map some
        ++ rest)) h (by omega)
    simpa [renderMembers, hwrite] using members_more (hname _) hvalue hmembers

end

/-- A value that holds no number is read as it was written. -/
theorem read_render {v : Json} (h : isPlain v = true) : read (render v) = some v := by
  have hvalue := value_renderChars v (2 * ((renderChars v).map some).length + 2) [] h
    (by rw [List.length_map]; omega)
  rw [List.append_nil] at hvalue
  rw [read, render, String.toList_ofList, readInput, hvalue]
  rfl

/-! ## Lists of records -/

/-- What is described by values of its own is read from each of them, whether reading may fail with
a fault or without. -/
theorem mapM_map_of_pure {m : Type → Type} [Monad m] [LawfulMonad m] {α β : Type} {describe : α → β}
    {read : β → m α} {as : List α} (h : ∀ a ∈ as, read (describe a) = pure a) :
    (as.map describe).mapM read = pure as := by
  rw [List.mapM_map]
  exact (mapM_of_pure (g := id) h).trans (congrArg pure (List.map_id as))

theorem list?_map {α : Type} {describe : α → Json} {read : Json → Option α}
    (h : ∀ a, read (describe a) = some a) (as : List α) :
    list? read (.arr (as.map describe)) = some as :=
  mapM_map_of_pure fun a _ => h a

/-- A dictionary is read from the object that has its pairs as members. -/
theorem dictionary?_object {α : Type} {describe : α → Json} {read : Json → Option α}
    (h : ∀ a, read (describe a) = some a) {pairs : List (String × α)}
    (hkeys : (pairs.map Prod.fst).Nodup) :
    dictionary? read (object (pairs.map fun p => (p.1, describe p.2))) = some pairs := by
  have hmember : ∀ p ∈ pairs, (some p.1).bind (fun k => (read (describe p.2)).bind fun v =>
      some (k, v)) = some p := by
    intro p _
    rw [h, Option.bind_some, Option.bind_some]
  rw [object, List.map_map]
  show Option.bind (List.mapM _ _) _ = _
  rw [mapM_map_of_pure (m := Option) hmember]
  exact congrArg some (Keyed.ofList_of_nodup hkeys)

end Intercept.Json
