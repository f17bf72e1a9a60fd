import Intercept.Proofs.Route.Entries
import Intercept.Proofs.Section.MockBody
import Intercept.Proofs.Section.Tokens
import Mathlib.Data.List.Nodup

/-!
# Intercept.Proofs.Section.MockParameters -- mock parameters in any order

The parameters of a mock line are `key=value` texts with blanks between them, where a value may stand
in double quotes. The body is cut out of them before they are told apart, and it reaches to the last
character of the line that closes it. So the parameters may come in any order, as long as none that
comes behind the body closes it once more. Of all such orders the body and the line are the same.
-/

namespace Intercept.Section

open Intercept.Text
open Intercept.Unicode (isBlank)

/-! ## Parameters -/

/-- The value of a parameter, with double quotes around it or without. -/
inductive ParameterValue
  | bare (text : List Char)
  | quoted (text : List Char)
deriving DecidableEq

namespace ParameterValue

/-- A value without the quotes. -/
def text : ParameterValue → List Char
  | bare t => t
  | quoted t => t

/-- A value as it is written. -/
def write : ParameterValue → List Char
  | bare t => t
  | quoted t => '"' :: (t ++ ['"'])

/-- No double quote stands in a value, and no blank in one that is not quoted. -/
def Plain : ParameterValue → Prop
  | bare t => NoBlank t ∧ '"' ∉ t
  | quoted t => '"' ∉ t

instance : (v : ParameterValue) → Decidable v.Plain
  | bare t => inferInstanceAs (Decidable (NoBlank t ∧ '"' ∉ t))
  | quoted t => inferInstanceAs (Decidable ('"' ∉ t))

end ParameterValue

/-- A parameter of a mock line. -/
structure Parameter where
  key : List Char
  value : ParameterValue
  key_noBlank : NoBlank key
  key_noQuote : '"' ∉ key
  key_noEquals : '=' ∉ key
  value_plain : value.Plain

namespace Parameter

/-- A parameter as it is written. -/
def write (p : Parameter) : List Char := p.key ++ '=' :: p.value.write

/-- The key of the body. -/
def bodyKey : List Char := ['d', 'a', 't', 'a']

/-- Parameters as they are written, with single blanks between them. -/
def writeAll (ps : List Parameter) : List Char := join [' '] (ps.map write)

/-- A mock line with a pattern and parameters. -/
def mockText (pattern : List Char) (ps : List Parameter) : List Char :=
  pattern ++ (" mock-response-body ".toList ++ writeAll ps)

variable {p d : Parameter} {ps before after : List Parameter}

theorem write_ne_nil (p : Parameter) : p.write ≠ [] := by simp [write]

theorem write_of_key (h : d.key = bodyKey) : d.write = mark ++ d.value.write := by
  rw [write, h]
  rfl

/-- The key and the value of a parameter are told apart again. -/
theorem splitOnce?_write (p : Parameter) :
    splitOnce? '=' p.write = some (p.key, p.value.write) := by
  have hkey : ∀ c ∈ p.key, (c != '=') = true := fun c hc =>
    bne_iff_ne.mpr fun heq => p.key_noEquals (heq ▸ hc)
  rw [splitOnce?_eq_some_iff, write, List.takeWhile_append_of_pos hkey,
    List.dropWhile_append_of_pos hkey]
  simp

/-! ## Tokens -/

theorem solid_value {v : ParameterValue} (hv : v.Plain) {front : List Char} (h : Solid front)
    (hclosed : leavesOpen front = false) :
    Solid (front ++ v.write) ∧ leavesOpen (front ++ v.write) = false := by
  cases v with
  | bare t => exact ⟨h.append_of_noBlank hv.1, (leavesOpen_append hv.2 front).trans hclosed⟩
  | quoted t =>
    have hopen : leavesOpen (front ++ ['"']) = true := by
      rw [leavesOpen_concat_quote, hclosed, Bool.not_false]
    have hsplit : front ++ (ParameterValue.quoted t).write = ((front ++ ['"']) ++ t) ++ ['"'] := by
      simp [ParameterValue.write]
    rw [hsplit]
    constructor
    · have hquote : NoBlank ['"'] := by decide
      exact ((h.append_of_noBlank hquote).append_of_open hopen hv).append_of_noBlank hquote
    · rw [leavesOpen_concat_quote, leavesOpen_append hv, hopen, Bool.not_true]

/-- A parameter is one token and leaves no quote open. -/
theorem isToken_write (p : Parameter) : IsToken p.write ∧ leavesOpen p.write = false := by
  have hname : NoBlank (p.key ++ ['=']) := noBlank_append.mpr ⟨p.key_noBlank, by decide⟩
  have hquote : '"' ∉ p.key ++ ['='] := List.not_mem_append p.key_noQuote (by decide)
  have hsolid : Solid (p.key ++ ['=']) := solid_nil.append_of_noBlank hname
  have hclosed : leavesOpen (p.key ++ ['=']) = false := leavesOpen_append hquote []
  have hsplit : p.write = (p.key ++ ['=']) ++ p.value.write := by simp [write]
  obtain ⟨hwrite, hend⟩ := solid_value p.value_plain hsolid hclosed
  rw [hsplit]
  exact ⟨⟨by simp, hwrite⟩, hend⟩

/-- Parameters with a blank behind each are tokens of their own. -/
theorem tokens_before (ps : List Parameter) (rest : List Char) :
    tokens ((ps.map write).flatMap (· ++ [' ']) ++ rest) = ps.map write ++ tokens rest := by
  induction ps with
  | nil => rfl
  | cons p ps ih =>
    obtain ⟨htoken, hclosed⟩ := isToken_write p
    have hbare : isBare p.write ' ' = true := isBare_eq_true.mpr ⟨by decide, hclosed⟩
    rw [List.map_cons, List.flatMap_cons, List.append_assoc, List.append_assoc,
      List.singleton_append]
    calc
      _ = tokensBehind p.write (' ' :: _) := tokens_append allBlank_nil htoken _
      _ = p.write :: tokens _ := tokensBehind_bare htoken.ne_nil hbare _
      _ = _ := by rw [ih, List.cons_append]

/-- Parameters with a blank in front of each follow the token that is being read. -/
theorem tokensBehind_after (ps : List Parameter) {t : List Char} (ht : IsToken t)
    (hclosed : leavesOpen t = false) :
    tokensBehind t ((ps.map write).flatMap (' ' :: ·)) = t :: ps.map write := by
  induction ps generalizing t with
  | nil => exact tokensBehind_nil ht.ne_nil
  | cons p ps ih =>
    obtain ⟨htoken, hclosed'⟩ := isToken_write p
    have hbare : isBare t ' ' = true := isBare_eq_true.mpr ⟨by decide, hclosed⟩
    rw [List.map_cons, List.flatMap_cons, List.cons_append, tokensBehind_bare ht.ne_nil hbare]
    exact congrArg (t :: ·) ((tokens_append allBlank_nil htoken _).trans (ih htoken hclosed'))

theorem tokens_after (ps : List Parameter) :
    tokens ((ps.map write).flatMap (' ' :: ·)) = ps.map write := by
  cases ps with
  | nil => rfl
  | cons p ps =>
    obtain ⟨htoken, hclosed⟩ := isToken_write p
    have hgap : AllBlank [' '] := by decide
    exact (tokens_append hgap htoken _).trans (tokensBehind_after ps htoken hclosed)

/-- What is left of parameters of which one has been cut out are the others. -/
theorem tokens_around (before after : List Parameter) :
    tokens ((before.map write).flatMap (· ++ [' ']) ++ (after.map write).flatMap (' ' :: ·)) =
      (before ++ after).map write := by
  rw [tokens_before, tokens_after, List.map_append]

theorem exists_of_valueOf?_write {key : String} {value : List Char}
    (h : valueOf? key (ps.map write) = some value) :
    ∃ p ∈ ps, p.key = key.toList ∧ p.value.write = value := by
  obtain ⟨t, ht, hvalue⟩ := List.exists_of_findSome?_eq_some h
  obtain ⟨p, hp, rfl⟩ := List.mem_map.mp (List.mem_reverse.mp ht)
  rw [splitOnce?_write] at hvalue
  split at hvalue
  · next k v hpair =>
    cases hpair
    split at hvalue
    · next hkey => exact ⟨p, hp, hkey, Option.some.inj hvalue⟩
    · cases hvalue
  · cases hvalue

/-- Where keys differ, a key has the value of the one parameter with that key. -/
theorem valueOf?_write (h : (ps.map Parameter.key).Nodup) {key : String} {value : List Char} :
    valueOf? key (ps.map write) = some value ↔
      ∃ p ∈ ps, p.key = key.toList ∧ p.value.write = value := by
  refine ⟨exists_of_valueOf?_write, ?_⟩
  rintro ⟨p, hp, hkey, rfl⟩
  cases hread : valueOf? key (ps.map write) with
  | none =>
    have hnone := List.findSome?_eq_none_iff.mp hread p.write
      (List.mem_reverse.mpr (List.mem_map_of_mem hp))
    rw [splitOnce?_write] at hnone
    simp [hkey] at hnone
  | some value =>
    obtain ⟨p', hp', hkey', rfl⟩ := exists_of_valueOf?_write hread
    rw [List.inj_on_of_nodup_map h hp' hp (hkey'.trans hkey.symm)]

theorem valueOf?_perm {ps' : List Parameter} (h : (ps.map Parameter.key).Nodup) (hperm : ps'.Perm ps)
    (key : String) : valueOf? key (ps'.map write) = valueOf? key (ps.map write) := by
  have h' : (ps'.map Parameter.key).Nodup := (hperm.map Parameter.key).nodup_iff.mpr h
  ext value
  rw [valueOf?_write h, valueOf?_write h']
  simp only [hperm.mem_iff]

/-! ## The body -/

/-- No parameter but the body has the mark of the body in it. -/
theorem not_infix_before (h : ∀ p ∈ ps, ¬ mark <:+: p.write) :
    ¬ mark <:+: (ps.map write).flatMap (· ++ [' ']) := by
  induction ps with
  | nil => simp [mark]
  | cons p ps ih =>
    rw [List.map_cons, List.flatMap_cons, List.append_assoc, List.singleton_append]
    intro hinfix
    rcases infix_append_cons (by decide) hinfix with hp | hps
    · exact h p List.mem_cons_self hp
    · exact ih (fun q hq => h q (List.mem_cons_of_mem p hq)) hps

theorem not_infix_after {v : List Char} (hv : ¬ mark <:+: v) (h : ∀ p ∈ ps, ¬ mark <:+: p.write) :
    ¬ mark <:+: v ++ (ps.map write).flatMap (' ' :: ·) := by
  induction ps generalizing v with
  | nil => simpa using hv
  | cons p ps ih =>
    rw [List.map_cons, List.flatMap_cons, List.cons_append]
    intro hinfix
    rcases infix_append_cons (by decide) hinfix with hv' | hps
    · exact hv hv'
    · exact ih (h p List.mem_cons_self) (fun q hq => h q (List.mem_cons_of_mem p hq)) hps

/-- Parameters whose keys differ, of which one, and only that one, is the body. -/
structure WithBody (ps : List Parameter) (d : Parameter) : Prop where
  keys_nodup : (ps.map Parameter.key).Nodup
  mem : d ∈ ps
  key_eq : d.key = bodyKey
  value_ne_nil : d.value.write ≠ []
  value_free : ¬ mark <:+: d.value.write
  others_free : ∀ p ∈ ps, p.key ≠ bodyKey → ¬ mark <:+: p.write

/-- The body is a payload, and none of the parameters behind it closes it once more. -/
def BodyReadable (ps : List Parameter) (d : Parameter) : Prop :=
  ∃ before after, ps = before ++ d :: after ∧ IsPayload d.value.write
    ∧ Sealed d.value.write (writeAll after)

theorem WithBody.perm {ps' : List Parameter} (h : WithBody ps d) (hperm : ps'.Perm ps) :
    WithBody ps' d where
  keys_nodup := (hperm.map Parameter.key).nodup_iff.mpr h.keys_nodup
  mem := hperm.mem_iff.mpr h.mem
  key_eq := h.key_eq
  value_ne_nil := h.value_ne_nil
  value_free := h.value_free
  others_free p hp := h.others_free p (hperm.mem_iff.mp hp)

theorem WithBody.others_nodup (h : WithBody (before ++ d :: after) d) :
    ((before ++ after).map Parameter.key).Nodup ∧ ∀ p ∈ before ++ after, p.key ≠ bodyKey := by
  have hkeys := ((List.perm_middle (a := d)).map Parameter.key).nodup_iff.mp h.keys_nodup
  rw [List.map_cons, List.nodup_cons] at hkeys
  refine ⟨hkeys.2, fun p hp hkey => hkeys.1 ?_⟩
  rw [h.key_eq, ← hkey]
  exact List.mem_map_of_mem hp

theorem WithBody.free (h : WithBody (before ++ d :: after) d) {p : Parameter}
    (hp : p ∈ before ++ after) : ¬ mark <:+: p.write :=
  h.others_free p (List.perm_middle.mem_iff.mpr (List.mem_cons_of_mem d hp)) (h.others_nodup.2 p hp)

theorem writeAll_around (before after : List Parameter) (d : Parameter) :
    writeAll (before ++ d :: after) = (before.map write).flatMap (· ++ [' '])
      ++ (d.write ++ (after.map write).flatMap (' ' :: ·)) := by
  rw [writeAll, List.map_append, List.map_cons, join_around]

theorem not_closes_blank (first : Char) : ¬ Closes first ' ' := by simp [Closes, closings]

theorem sealed_after {v : List Char} (ps : List Parameter) :
    Sealed v ((ps.map write).flatMap (' ' :: ·)) ↔ Sealed v (writeAll ps) := by
  cases ps with
  | nil => exact Iff.rfl
  | cons p ps =>
    have hjoin := writeAll_around [] ps p
    rw [List.nil_append, List.map_nil, List.flatMap_nil, List.nil_append] at hjoin
    rw [hjoin, List.map_cons, List.flatMap_cons, List.cons_append, Sealed, Sealed,
      restOfLine_cons (by decide)]
    simp only [List.forall_mem_cons, not_closes_blank, not_false_eq_true, true_and]

theorem unquote_write {v : ParameterValue} (hv : v.Plain) : unquote v.write = v.text := by
  cases v with
  | quoted t => exact unquote_quoted t
  | bare t =>
    refine unquote_eq_self fun w heq => hv.2 ?_
    rw [show t = '"' :: (w ++ ['"']) from heq]
    exact List.mem_cons_self

/-- A payload at the front of a value and what follows it that gives the text of the value is the
whole value. -/
theorem eq_write_of_unquote {v : ParameterValue} (hv : v.Plain) (hne : v.write ≠ [])
    {w back rest : List Char} (hw : IsPayload w) (hfront : v.write ++ rest = w ++ back)
    (htext : unquote w = v.text) : w = v.write := by
  obtain ⟨first, mid, last, rfl, hlast, -⟩ := hw
  cases v with
  | bare t =>
    -- The value does not open with a quote, so there was none to drop.
    obtain ⟨c, t', rfl⟩ := List.exists_cons_of_ne_nil (show t ≠ [] from hne)
    obtain ⟨rfl, -⟩ := List.cons.inj hfront
    have hplain : unquote (c :: (mid ++ [last])) = c :: (mid ++ [last]) := by
      refine unquote_eq_self fun w heq => hv.2 ?_
      rw [(List.cons.inj heq).1]
      exact List.mem_cons_self
    exact hplain.symm.trans htext
  | quoted t =>
    obtain ⟨rfl, -⟩ := List.cons.inj hfront
    rcases closes_quote.mp hlast with rfl | rfl
    · rw [unquote_quoted] at htext
      rw [htext]
      rfl
    · -- With a single quote at its end it would keep the double quote at its front.
      have hplain : unquote ('"' :: (mid ++ ['\''])) = '"' :: (mid ++ ['\'']) :=
        unquote_eq_self (by simp)
      have ht : '"' :: (mid ++ ['\'']) = t := hplain.symm.trans htext
      exact absurd (ht ▸ List.mem_cons_self) hv

/-- What is cut out of parameters whose body can be read, and what is left. -/
theorem extractData_writeAll (h : WithBody (before ++ d :: after) d)
    (hpayload : IsPayload d.value.write) (hsealed : Sealed d.value.write (writeAll after)) :
    extractData (writeAll (before ++ d :: after)) =
      (d.value.text, (before.map write).flatMap (· ++ [' ']) ++ (after.map write).flatMap (' ' :: ·))
    := by
  have hbefore : ∀ p ∈ before, ¬ mark <:+: p.write := fun p hp =>
    h.free (List.mem_append_left after hp)
  have hread : payload? (trimStart (d.value.write ++ (after.map write).flatMap (' ' :: ·))) =
      some (d.value.write, (after.map write).flatMap (' ' :: ·)) := by
    rw [hpayload.trimStart_append]
    exact payload?_eq_some_iff.mpr ⟨rfl, hpayload, (sealed_after after).mpr hsealed⟩
  rw [writeAll_around, write_of_key h.key_eq, List.append_assoc,
    extractData_of_payload (not_infix_before hbefore) hread, unquote_write d.value_plain]

theorem trimStart_value {v : ParameterValue} (hv : v.Plain) (hne : v.write ≠ []) (rest : List Char) :
    trimStart (v.write ++ rest) = v.write ++ rest := by
  cases v with
  | bare t => exact trimStart_append_of_noBlank hv.1 hne rest
  | quoted t => exact trimStart_cons_of_not_blank (by decide)

/-- Of the values that are something, only that of two quotes has nothing as its text. -/
theorem isPayload_of_text_eq_nil {v : ParameterValue} (hne : v.write ≠ []) (htext : v.text = []) :
    IsPayload v.write := by
  cases v with
  | bare t => exact absurd htext hne
  | quoted t =>
    obtain rfl : t = [] := htext
    exact ⟨'"', [], '"', rfl, by decide, List.not_mem_nil⟩

/-- The body is cut out right exactly if it can be read. -/
theorem WithBody.text_eq_iff (h : WithBody ps d) :
    (extractData (writeAll ps)).1 = d.value.text ↔ BodyReadable ps d := by
  constructor
  · intro htext
    obtain ⟨before, after, rfl⟩ := List.append_of_mem h.mem
    have hbefore : ∀ p ∈ before, ¬ mark <:+: p.write := fun p hp =>
      h.free (List.mem_append_left after hp)
    have hafter : ∀ p ∈ after, ¬ mark <:+: p.write := fun p hp =>
      h.free (List.mem_append_right before hp)
    refine ⟨before, after, rfl, ?_⟩
    rw [writeAll_around, write_of_key h.key_eq, List.append_assoc] at htext
    have htrim := trimStart_value d.value_plain h.value_ne_nil ((after.map write).flatMap (' ' :: ·))
    cases hread : payload? (trimStart (d.value.write ++ (after.map write).flatMap (' ' :: ·))) with
    | some q =>
      obtain ⟨w, back⟩ := q
      rw [extractData_of_payload (not_infix_before hbefore) hread] at htext
      rw [htrim] at hread
      obtain ⟨hfront, hw, hsealed⟩ := payload?_eq_some_iff.mp hread
      obtain rfl := eq_write_of_unquote d.value_plain h.value_ne_nil hw hfront htext
      rw [← List.append_cancel_left hfront, sealed_after] at hsealed
      exact ⟨hw, hsealed⟩
    | none =>
      -- Then nothing is cut out, and the only value whose text is nothing is a payload.
      have hnothing := extractData_of_forall fun a r hsplit => by
        obtain ⟨-, rfl⟩ :=
          eq_of_mark (not_infix_before hbefore) (not_infix_after h.value_free hafter) hsplit
        exact hread
      rw [hnothing] at htext
      rw [htrim] at hread
      exact absurd hread ((isPayload_of_text_eq_nil h.value_ne_nil htext.symm).payload?_ne_none _)
  · rintro ⟨before, after, rfl, hpayload, hsealed⟩
    rw [extractData_writeAll h hpayload hsealed]

end Parameter

open Parameter

variable {pattern : List Char} {d : Parameter} {ps qs : List Parameter}

/-! ## The line -/

/-- What is read behind the pattern of a mock line. -/
def afterMock? (cs : List Char) : Option (List Char) :=
  (afterStr? "mock-response-body" (trimStart cs)).bind afterBlanks?

theorem mockLine?_eq (line : List Char) :
    mockLine? line = (readFirst? afterMock? line).map fun p => (trim p.1, trim p.2) := rfl

theorem afterMock?_word {b : List Char} (hb : AllBlank b) {c : Char} (hc : isBlank c = true)
    (back : List Char) :
    afterMock? (b ++ ("mock-response-body".toList ++ c :: back)) = some (trimStart back) := by
  have hword : trimStart ("mock-response-body".toList ++ c :: back) =
      "mock-response-body".toList ++ c :: back := trimStart_cons_of_not_blank (by decide)
  rw [afterMock?, trimStart_append_of_allBlank hb, hword, afterStr?_append, Option.bind_some,
    afterBlanks?_cons hc]

theorem exists_of_afterMock? {cs rest : List Char} (h : afterMock? cs = some rest) :
    ∃ lead c back, cs = lead ++ ("mock-response-body".toList ++ c :: back) ∧ isBlank c = true := by
  obtain ⟨behind, hbehind, hrest⟩ := Option.bind_eq_some_iff.mp h
  obtain ⟨c, back, hc, rfl, -⟩ := afterBlanks?_eq_some.mp hrest
  obtain ⟨lead, -, hcs⟩ := exists_trimStart cs
  exact ⟨lead, c, back, by rw [← afterStr?_eq_some.mp hbehind, ← hcs], hc⟩

/-- A text that is read as the pattern of a mock line, because it is not itself the front of one: the
word for mocking does not stand in it with a blank behind it, nor at its end. -/
def IsPattern (pattern : List Char) : Prop :=
  ∀ front c back, isBlank c = true →
    pattern ++ [' '] ≠ front ++ ("mock-response-body".toList ++ c :: back)

theorem isPattern_iff : IsPattern pattern ↔ mockLine? (pattern ++ [' ']) = none := by
  rw [mockLine?_eq, Option.map_eq_none_iff]
  constructor
  · intro h
    rw [Option.eq_none_iff_forall_ne_some]
    rintro ⟨front, rest⟩ hread
    obtain ⟨cs, hsplit, hcs⟩ := parts_of_readFirst? hread
    obtain ⟨lead, c, back, rfl, hc⟩ := exists_of_afterMock? hcs
    exact h (front ++ lead) c back hc (by rw [hsplit, List.append_assoc])
  · intro hnone front c back hc hsplit
    have hsome := readFirst?_isSome (afterMock?_word allBlank_nil hc back) front
    rw [List.nil_append, ← hsplit, hnone] at hsome
    cases hsome

instance (pattern : List Char) : Decidable (IsPattern pattern) :=
  decidable_of_iff _ isPattern_iff.symm

theorem IsPattern.afterMock?_eq_none {x y : List Char} (h : IsPattern pattern)
    (hsplit : pattern = x ++ y) : afterMock? (y ++ [' ']) = none := by
  rw [Option.eq_none_iff_forall_ne_some]
  intro rest hread
  obtain ⟨lead, c, back, hy, hc⟩ := exists_of_afterMock? hread
  exact h (x ++ lead) c back hc (by rw [hsplit, List.append_assoc, hy, List.append_assoc])

/-- At an earlier place than behind the pattern a mock line is not read. -/
theorem IsPattern.afterMock?_append {x y b : List Char} (h : IsPattern pattern)
    (hb : AllBlank b) (hsplit : pattern = x ++ (y ++ b)) (hy : trimStart y ≠ []) (r : List Char) :
    afterMock? (y ++ (b ++ ' ' :: r)) = none := by
  have hnone := h.afterMock?_eq_none hsplit
  rw [List.append_assoc, afterMock?, trimStart_append_of_ne_nil hy] at hnone
  rw [afterMock?, trimStart_append_of_ne_nil hy, Option.bind_eq_none_iff]
  intro behind hbehind
  have hgap : BlankFirst (b ++ ' ' :: r) := by
    cases b with
    | nil => exact blankFirst_cons.mpr (by decide)
    | cons c b => exact blankFirst_cons.mpr (hb c List.mem_cons_self)
  obtain ⟨q, hq, rfl⟩ := after?_word (by decide) hgap hbehind
  rw [hq, List.append_assoc, afterStr?_append, Option.bind_some] at hnone
  -- What follows the word begins with a blank, or else nothing is read in either text.
  cases q with
  | nil =>
    have hblank : AllBlank (b ++ [' ']) := allBlank_append.mpr ⟨hb, by decide⟩
    have hread := afterBlanks?_append hblank (by simp) []
    rw [List.append_nil] at hread
    rw [List.nil_append, hread] at hnone
    cases hnone
  | cons c q =>
    rw [List.cons_append, afterBlanks?] at hnone ⊢
    split at hnone
    · cases hnone
    · next hc => exact if_neg hc

theorem trimStart_ne_nil_of_trimEnd {x y : List Char} (h : trimEnd (x ++ y) = x ++ y) (hy : y ≠ []) :
    trimStart y ≠ [] := by
  intro hnil
  obtain ⟨a, ha, heq⟩ := exists_trimStart y
  rw [hnil, List.append_nil] at heq
  obtain ⟨b, -, hx⟩ := exists_trimEnd x
  rw [trimEnd_append_of_allBlank x (heq ▸ ha)] at h
  have hlength := congrArg List.length hx
  rw [h] at hlength
  simp only [List.length_append] at hlength
  exact hy (List.eq_nil_of_length_eq_zero (by omega))

/-- A mock line is taken apart where it was put together. -/
theorem mockLine?_append (h : IsPattern pattern) (rest : List Char) :
    mockLine? (pattern ++ (" mock-response-body ".toList ++ rest)) =
      some (trim pattern, trim rest) := by
  obtain ⟨b, hb, hpattern⟩ := exists_trimEnd pattern
  have hgap : " mock-response-body ".toList ++ rest =
      ' ' :: ("mock-response-body".toList ++ ' ' :: rest) := rfl
  have hblank : AllBlank (b ++ [' ']) := allBlank_append.mpr ⟨hb, by decide⟩
  have hback := afterMock?_word hblank (by decide : isBlank ' ' = true) rest
  rw [List.append_assoc, List.singleton_append] at hback
  have hfront : ∀ x y, y ≠ [] → trimEnd pattern = x ++ y →
      afterMock? (y ++ (b ++ ' ' :: ("mock-response-body".toList ++ ' ' :: rest))) = none := by
    intro x y hy hxy
    refine h.afterMock?_append (x := x) hb ?_ (trimStart_ne_nil_of_trimEnd (x := x) ?_ hy) _
    · rw [← List.append_assoc, ← hxy, ← hpattern]
    · rw [← hxy, trimEnd_trimEnd]
  have htrim : trim (trimEnd pattern) = trim pattern := by
    conv_rhs => rw [hpattern, trim_append_blanks _ hb]
  have hsplit : pattern ++ (" mock-response-body ".toList ++ rest) =
      trimEnd pattern ++ (b ++ ' ' :: ("mock-response-body".toList ++ ' ' :: rest)) := by
    rw [hgap, ← List.append_assoc, ← hpattern]
  rw [hsplit, mockLine?_eq, readFirst?_append hback hfront, Option.map_some, htrim, trim_trimStart]

theorem trimEnd_write (p : Parameter) : trimEnd p.write = p.write := by
  have hequals : isBlank '=' = false := by decide
  cases hv : p.value with
  | bare t =>
    have hplain := p.value_plain
    rw [hv] at hplain
    rw [write, hv]
    exact trimEnd_of_noBlank
      (noBlank_append.mpr ⟨p.key_noBlank, noBlank_cons.mpr ⟨hequals, hplain.1⟩⟩)
  | quoted t =>
    have hsplit : p.write = (p.key ++ '=' :: '"' :: t) ++ ['"'] := by
      rw [write, hv]
      simp [ParameterValue.write]
    have hquote : trimEnd ['"'] = ['"'] := by decide
    rw [hsplit, trimEnd_append_of_ne_nil (by rw [hquote]; simp), hquote]

theorem trim_writeAll (ps : List Parameter) : trim (writeAll ps) = writeAll ps := by
  have hstart : trimStart (writeAll ps) = writeAll ps := by
    cases ps with
    | nil => rfl
    | cons p ps =>
      obtain ⟨more, hmore⟩ := exists_join_cons [' '] p.write (ps.map write)
      have hhead : NoBlank (p.key ++ ['=']) :=
        noBlank_append.mpr ⟨p.key_noBlank, noBlank_cons.mpr ⟨by decide, noBlank_nil⟩⟩
      have hsplit : writeAll (p :: ps) = (p.key ++ ['=']) ++ (p.value.write ++ more) := by
        rw [writeAll, List.map_cons, hmore, write]
        simp
      rw [hsplit, trimStart_append_of_noBlank hhead (by simp)]
  have hend : trimEnd (writeAll ps) = writeAll ps := by
    rcases List.eq_nil_or_concat ps with rfl | ⟨ps, p, rfl⟩
    · rfl
    · obtain ⟨more, hmore⟩ := exists_join_concat ' ' (ps.map write) p.write
      have hsplit : writeAll (ps.concat p) = more ++ p.write := by
        rw [writeAll, List.concat_eq_append, List.map_append, List.map_singleton, hmore]
      rw [hsplit, trimEnd_append_of_ne_nil (by rw [trimEnd_write]; exact write_ne_nil p),
        trimEnd_write]
  rw [trim, hstart, hend]

theorem mockLine?_mockText (h : IsPattern pattern) (ps : List Parameter) :
    mockLine? (mockText pattern ps) = some (trim pattern, writeAll ps) := by
  rw [mockText, mockLine?_append h, trim_writeAll]

/-- The entry of a mock line depends on its pattern, its body and the values of the keys. -/
theorem localEntry?_congr {line line' params params' : List Char}
    (hline : mockLine? line = some (pattern, params))
    (hline' : mockLine? line' = some (pattern, params'))
    (hdata : (extractData params).1 = (extractData params').1)
    (hvalue : ∀ key, valueOf? key (tokens (extractData params).2)
      = valueOf? key (tokens (extractData params').2)) : localEntry? line = localEntry? line' := by
  unfold localEntry?
  simp only [hline, hline', Option.bind_eq_bind, Option.bind_some, hdata, hvalue]

/-- Two orders in which the body can be read make the same entry. -/
theorem localEntry?_mockText_eq (h : WithBody ps d) (hpattern : IsPattern pattern)
    (hps : BodyReadable ps d) (hperm : qs.Perm ps) (hqs : BodyReadable qs d) :
    localEntry? (mockText pattern qs) = localEntry? (mockText pattern ps) := by
  have hq := h.perm hperm
  obtain ⟨before, after, rfl, hpayload, hsealed⟩ := hps
  obtain ⟨before', after', rfl, -, hsealed'⟩ := hqs
  have hothers : (before' ++ after').Perm (before ++ after) :=
    (List.perm_middle.symm.trans (hperm.trans List.perm_middle)).cons_inv
  refine localEntry?_congr (mockLine?_mockText hpattern _) (mockLine?_mockText hpattern _) ?_
    fun key => ?_
  · rw [extractData_writeAll hq hpayload hsealed', extractData_writeAll h hpayload hsealed]
  · rw [extractData_writeAll hq hpayload hsealed', extractData_writeAll h hpayload hsealed,
      tokens_around, tokens_around, valueOf?_perm h.others_nodup.1 hothers]

theorem exists_entry (h : WithBody ps d) (hpattern : IsPattern pattern) :
    ∃ entry, ∀ qs, qs.Perm ps → BodyReadable qs d →
      localEntry? (mockText pattern qs) = some entry := by
  by_cases hsome : ∃ qs, qs.Perm ps ∧ BodyReadable qs d
  · obtain ⟨qs₀, hperm₀, hqs₀⟩ := hsome
    obtain ⟨entry, hentry⟩ : ∃ entry, localEntry? (mockText pattern qs₀) = some entry := by
      obtain ⟨type, tail, hentry⟩ := localEntry?_eq_some (mockLine?_mockText hpattern qs₀)
      exact ⟨_, hentry⟩
    refine ⟨entry, fun qs hperm hqs => ?_⟩
    rw [localEntry?_mockText_eq (h.perm hperm₀) hpattern hqs₀ (hperm.trans hperm₀.symm) hqs, hentry]
  · exact ⟨[], fun qs hperm hqs => absurd ⟨qs, hperm, hqs⟩ hsome⟩

/-! ## Any order -/

theorem sealed_writeAll {v : List Char} (h : ∀ p ∈ ps, Sealed v p.write) :
    Sealed v (writeAll ps) := by
  rw [← sealed_after]
  induction ps with
  | nil => exact sealed_nil v
  | cons p ps ih =>
    intro first hfirst c hc
    rw [List.map_cons, List.flatMap_cons, List.cons_append, restOfLine_cons (by decide),
      List.mem_cons] at hc
    rcases hc with rfl | hc
    · exact not_closes_blank first
    · rcases mem_restOfLine_append hc with hc | hc
      · exact h p List.mem_cons_self first hfirst c hc
      · exact ih (fun q hq => h q (List.mem_cons_of_mem p hq)) first hfirst c hc

/-- A body that no other parameter closes can be read in every order. -/
theorem bodyReadable_of_sealed (h : WithBody ps d) (hpayload : IsPayload d.value.write)
    (hsealed : ∀ p ∈ ps, p.key ≠ bodyKey → Sealed d.value.write p.write) : BodyReadable ps d := by
  obtain ⟨before, after, rfl⟩ := List.append_of_mem h.mem
  refine ⟨before, after, rfl, hpayload, sealed_writeAll fun p hp => ?_⟩
  have hothers : p ∈ before ++ after := List.mem_append_right before hp
  exact hsealed p (List.perm_middle.mem_iff.mpr (List.mem_cons_of_mem d hothers))
    (h.others_nodup.2 p hothers)

/-- In every order of its parameters the body is cut out right exactly if it is a payload that no
parameter behind it closes once more, and of all such orders the entry of the line is the same. So a
payload that no other parameter closes may stand anywhere, and the others in any order. -/
theorem orderless_of_withBody (h : WithBody ps d) :
    (∀ qs, qs.Perm ps → ((extractData (writeAll qs)).1 = d.value.text ↔ BodyReadable qs d))
      ∧ (∀ pattern, IsPattern pattern → ∃ entry, ∀ qs, qs.Perm ps → BodyReadable qs d →
        localEntry? (mockText pattern qs) = some entry)
      ∧ (IsPayload d.value.write →
        (∀ p ∈ ps, p.key ≠ bodyKey → Sealed d.value.write p.write) →
          ∀ qs, qs.Perm ps → BodyReadable qs d) := by
  refine ⟨fun qs hperm => (h.perm hperm).text_eq_iff,
    fun pattern hpattern => exists_entry h hpattern, fun hpayload hsealed qs hperm => ?_⟩
  exact bodyReadable_of_sealed (h.perm hperm) hpayload fun p hp =>
    hsealed p (hperm.mem_iff.mp hp)

/-- A body with brackets and a single quote in it, moved in front of a parameter without quotes. The
pattern holds the word for mocking, but not as a word. -/
theorem orderless_of_withBody_moved :
    let header : Parameter := ⟨"header".toList, .quoted "content-type: image/png".toList, by decide,
      by decide, by decide, by decide⟩
    let body : Parameter := ⟨"data".toList, .quoted "it's [1] \x7b2\x7d".toList, by decide, by decide,
      by decide, by decide⟩
    let code : Parameter := ⟨"status-code".toList, .bare "404".toList, by decide, by decide,
      by decide, by decide⟩
    let pattern := "^a/mock-response-body? ".toList
    WithBody [header, code, body] body ∧ IsPattern pattern
      ∧ [code, header, body].Perm [header, code, body]
      ∧ [header, body, code].Perm [header, code, body]
      ∧ (extractData (writeAll [header, body, code])).1 = "it's [1] \x7b2\x7d".toList
      ∧ ∃ entry, localEntry? (mockText pattern [code, header, body]) = some entry
        ∧ localEntry? (mockText pattern [header, body, code]) = some entry := by
  intro header body code pattern
  have hwith : WithBody [header, code, body] body := by
    refine ⟨by decide, by simp, by decide, by decide, not_infix_of_contains (by decide), ?_⟩
    intro p hp hkey
    simp only [List.mem_cons, List.not_mem_nil, or_false] at hp
    rcases hp with rfl | rfl | rfl
    · exact not_infix_of_contains (by decide)
    · exact not_infix_of_contains (by decide)
    · exact absurd (by decide) hkey
  have hpattern : IsPattern pattern := by decide
  have hlast : [code, header, body].Perm [header, code, body] := .swap header code [body]
  have hinner : [header, body, code].Perm [header, code, body] := .cons header (.swap code body [])
  have hpayload : IsPayload body.value.write :=
    ⟨'"', "it's [1] \x7b2\x7d".toList, '"', rfl, by decide, by decide⟩
  have hreadLast : BodyReadable [code, header, body] body :=
    ⟨[code, header], [], rfl, hpayload, sealed_nil _⟩
  have hreadInner : BodyReadable [header, body, code] body :=
    ⟨[header], [code], rfl, hpayload, sealed_of_noQuote _ (by decide) (by decide)⟩
  obtain ⟨entry, hentry⟩ := (orderless_of_withBody hwith).2.1 _ hpattern
  exact ⟨hwith, hpattern, hlast, hinner,
    ((orderless_of_withBody hwith).1 _ hinner).mpr hreadInner,
    entry, hentry _ hlast hreadLast, hentry _ hinner hreadInner⟩

/-- A quoted header behind a quoted body is taken for a part of it, and without brackets or quotes no
body is found. A pattern that holds a mock line of its own takes the parameters for a part of its
body, in the order they have. -/
theorem not_orderless_header :
    let body : Parameter := ⟨"data".toList, .quoted "AAAA".toList, by decide, by decide, by decide,
      by decide⟩
    let header : Parameter := ⟨"header".toList, .quoted "content-type: image/png".toList, by decide,
      by decide, by decide, by decide⟩
    let code : Parameter := ⟨"status-code".toList, .bare "404".toList, by decide, by decide,
      by decide, by decide⟩
    let word : Parameter := ⟨"data".toList, .bare "AAAA".toList, by decide, by decide, by decide,
      by decide⟩
    let front := "^https://a.com mock-response-body data=\"x\"".toList
    WithBody [body, header] body ∧ IsPattern "^https://a.com".toList
      ∧ (extractData (writeAll [body, header])).1 ≠ body.value.text
      ∧ localEntry? (mockText "^https://a.com".toList [body, header])
        ≠ localEntry? (mockText "^https://a.com".toList [header, body])
      ∧ WithBody [word] word ∧ (extractData (writeAll [word])).1 ≠ word.value.text
      ∧ BodyReadable [code, body] body ∧ BodyReadable [body, code] body
      ∧ localEntry? (mockText front [code, body]) ≠ localEntry? (mockText front [body, code]) := by
  intro body header code word front
  have hwith : WithBody [body, header] body := by
    refine ⟨by decide, by simp, by decide, by decide, not_infix_of_contains (by decide), ?_⟩
    intro p hp hkey
    simp only [List.mem_cons, List.not_mem_nil, or_false] at hp
    rcases hp with rfl | rfl
    · exact absurd (by decide) hkey
    · exact not_infix_of_contains (by decide)
  have hword : WithBody [word] word := by
    refine ⟨by decide, by simp, by decide, by decide, not_infix_of_contains (by decide), ?_⟩
    intro p hp hkey
    obtain rfl := List.mem_singleton.mp hp
    exact absurd (by decide) hkey
  have hpayload : IsPayload body.value.write := ⟨'"', "AAAA".toList, '"', rfl, by decide, by decide⟩
  have hlast : BodyReadable [code, body] body := ⟨[code], [], rfl, hpayload, sealed_nil _⟩
  have hfirst : BodyReadable [body, code] body :=
    ⟨[], [code], rfl, hpayload, sealed_of_noQuote _ (by decide) (by decide)⟩
  exact ⟨hwith, by decide, by decide +kernel, by decide +kernel, hword, by decide +kernel, hlast,
    hfirst, by decide +kernel⟩

end Intercept.Section
