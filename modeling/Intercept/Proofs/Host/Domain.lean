import Intercept.Host.Domain
import Intercept.Proofs.Fault
import Intercept.Proofs.Text.Case
import Intercept.Proofs.Text.Parts
import Intercept.Proofs.Text.Words
import Intercept.Proofs.Unicode.Normal

/-!
# Intercept.Proofs.Host.Domain -- domains that are their own form

A domain in small letters of ASCII, none of whose labels stands for another one, is compared as it
is written. And whatever follows, a domain that begins with a small letter is compared in a form
that begins with this letter, or with the mark of a label that is not in ASCII.
-/

namespace Intercept.Host

open Intercept.Unicode

variable {c d : Char} {cs domain : List Char}

/-! ## Characters of ASCII -/

theorem toNat_toLower_lt_iff : c.toLower.toNat < 0x80 ↔ c.toNat < 0x80 := by
  have hall : ∀ n ≤ 90, 65 ≤ n →
      ((Char.ofNat n).toLower.toNat < 0x80 ↔ (Char.ofNat n).toNat < 0x80) := by decide
  rcases Text.toLower_eq_or_capital c with heq | ⟨n, hhigh, hlow, rfl⟩
  · rw [heq]
  · exact hall n hhigh hlow

theorem mapHostChar?_ascii (h : c.toNat < 0x80) : mapHostChar? c = some [c.toLower] := by
  rw [mapHostChar?, if_pos h]

/-- The classes of what is written from right to left, from their characters. -/
def rightToLeftCodes : List (List Char) :=
  ["R", "AL", "AN"].map String.toList

set_option maxRecDepth 100000 in
theorem exists_directionTable : ∃ cs, directionTable = MarkTable.ofText (String.ofList cs)
    ∧ (marksOf cs).all (fun m => 0x80 ≤ m.1 || !rightToLeftCodes.contains m.2) = true := by
  refine Exists.intro ?cs (And.intro ?table ?marks)
  case table =>
    unfold directionTable
    with_reducible rfl
  case marks => decide +kernel

/-- No character of ASCII is written from right to left. -/
theorem isRightToLeft_ascii (h : ∀ c ∈ cs, c.toNat < 0x80) : isRightToLeft cs = false := by
  rw [isRightToLeft, List.any_eq_false]
  intro c hc hmem
  rw [List.contains_iff_mem] at hmem
  obtain ⟨table, htable, hmarks⟩ := exists_directionTable
  have hcode : (direction c).toList ∈ rightToLeftCodes := List.mem_map_of_mem hmem
  have hne : (MarkTable.ofText (String.ofList table)).label c.toNat ≠ "" := by
    intro hempty
    rw [direction, htable, hempty] at hcode
    revert hcode
    decide
  obtain ⟨m, hm, hle, heq⟩ := MarkTable.label_mem hne
  rw [direction, htable, heq, String.toList_ofList] at hcode
  rcases Bool.or_eq_true_iff.mp (List.all_eq_true.mp hmarks m hm) with hlow | hother
  · exact Nat.not_le.mpr (Nat.lt_of_le_of_lt hle (h c hc)) (of_decide_eq_true hlow)
  · rw [List.contains_iff_mem.mpr hcode] at hother
    cases hother

/-! ## Labels -/

theorem isAsciiText_iff : isAsciiText cs = true ↔ ∀ c ∈ cs, c.toNat < 0x80 := by
  simp [isAsciiText]

/-- A label in ASCII that does not stand for another one is both forms of itself. -/
theorem ofMapped?_ascii (hascii : ∀ c ∈ cs, c.toNat < 0x80)
    (hmark : Text.after? asciiMark cs = none) :
    Label.ofMapped? cs = some { unicode := cs, ascii := cs } := by
  rw [Label.ofMapped?, hmark]
  exact if_pos (isAsciiText_iff.mpr hascii)

/-- The form in ASCII of a label begins as the label does, or with the mark. -/
theorem head_ascii_of_ofMapped? {l : Label} (h : Label.ofMapped? (c :: cs) = some l) :
    ∃ rest, l.ascii = c :: rest ∨ l.ascii = 'x' :: rest := by
  rw [Label.ofMapped?] at h
  split at h
  · split at h
    · cases h
    · split at h
      · cases h
      · split at h
        · cases h
        · cases h
          exact ⟨cs, .inl rfl⟩
  · split at h
    · cases h
      exact ⟨cs, .inl rfl⟩
    · split at h
      · cases h
        exact ⟨_, .inr rfl⟩
      · cases h

/-! ## Domains -/

/-- A domain name that is compared as it is written: small letters of ASCII and what else may stand
in a domain, and no label that stands for another one. -/
structure PlainDomain (cs : List Char) : Prop where
  ascii : ∀ c ∈ cs, c.toNat < 0x80
  small : ∀ c ∈ cs, c.toLower = c
  allowed : ∀ c ∈ cs, isForbiddenInDomain c = false
  unmarked : ∀ label ∈ Text.splitOn '.' cs, Text.after? asciiMark label = none

instance (cs : List Char) : Decidable (PlainDomain cs) :=
  decidable_of_iff
    (cs.all (fun c => c.toNat < 0x80 && c.toLower == c && !isForbiddenInDomain c) = true
      ∧ (Text.splitOn '.' cs).all (fun label => (Text.after? asciiMark label).isNone) = true)
    ⟨fun ⟨hchars, hlabels⟩ => by
      simp only [List.all_eq_true, Bool.and_eq_true, decide_eq_true_eq, beq_iff_eq,
        Bool.not_eq_true'] at hchars
      exact ⟨fun c hc => (hchars c hc).1.1, fun c hc => (hchars c hc).1.2,
        fun c hc => (hchars c hc).2, by simpa using hlabels⟩,
    fun h => by
      simp only [List.all_eq_true, Bool.and_eq_true, decide_eq_true_eq, beq_iff_eq,
        Bool.not_eq_true']
      exact ⟨fun c hc => ⟨⟨h.ascii c hc, h.small c hc⟩, h.allowed c hc⟩,
        by simpa using h.unmarked⟩⟩

theorem PlainDomain.toAscii (h : PlainDomain cs) : domainToAscii? cs = some cs := by
  have hmapped : cs.mapM mapHostChar? = some (cs.map ([·])) := by
    refine mapM_of_pure fun c hc => ?_
    rw [mapHostChar?_ascii (h.ascii c hc), h.small c hc]
    rfl
  have hflat : (cs.map ([·])).flatten = cs := by
    rw [← List.flatMap_def, List.flatMap_singleton']
  have hpiece : ∀ label ∈ Text.splitOn '.' cs, ∀ c ∈ label, c.toNat < 0x80 :=
    fun label hlabel c hc => h.ascii c (Text.subset_of_mem_splitOn hlabel hc)
  have hlabels : (Text.splitOn '.' cs).mapM Label.ofMapped?
      = some ((Text.splitOn '.' cs).map fun l => { unicode := l, ascii := l }) :=
    mapM_of_pure fun label hlabel => ofMapped?_ascii (hpiece label hlabel) (h.unmarked label hlabel)
  have hdirection : ((Text.splitOn '.' cs).map fun l => ({ unicode := l, ascii := l } : Label)).any
      (fun l => isRightToLeft l.unicode) = false := by
    rw [List.any_map, List.any_eq_false]
    exact fun label hlabel => by simpa using isRightToLeft_ascii (hpiece label hlabel)
  have hjoin : Text.join ['.'] (((Text.splitOn '.' cs).map fun l =>
      ({ unicode := l, ascii := l } : Label)).map Label.ascii) = cs := by
    rw [List.map_map]
    exact (congrArg _ (List.map_id _)).trans (Text.join_splitOn '.' cs)
  have hallowed : cs.any isForbiddenInDomain = false := by
    rw [List.any_eq_false]
    exact fun c hc => by simp [h.allowed c hc]
  simp only [domainToAscii?, hmapped, hflat, normalize_ascii h.ascii, hlabels, hdirection, hjoin,
    hallowed, Option.bind_eq_bind, Option.bind_some, Bool.false_and, Bool.false_eq_true, if_false,
    Option.pure_def]

theorem domainToAscii?_eq_some (h : domainToAscii? cs = some domain) : ∃ mapped labels,
    cs.mapM mapHostChar? = some mapped
      ∧ (Text.splitOn '.' (normalize mapped.flatten)).mapM Label.ofMapped? = some labels
      ∧ domain = Text.join ['.'] (labels.map Label.ascii)
      ∧ ∀ c ∈ domain, isForbiddenInDomain c = false := by
  rw [domainToAscii?, Option.bind_eq_bind, Option.bind_eq_some_iff] at h
  obtain ⟨mapped, hmapped, h⟩ := h
  obtain ⟨labels, hlabels, h⟩ := Option.bind_eq_some_iff.mp h
  dsimp only at h
  split at h
  · cases h
  · split at h
    · cases h
    · next hallowed =>
      obtain rfl := Option.some.inj h
      rw [Bool.not_eq_true, List.any_eq_false] at hallowed
      exact ⟨mapped, labels, hmapped, hlabels, rfl, fun c hc => by simpa using hallowed c hc⟩

theorem exists_of_mapM_cons {α β : Type} {f : α → Option β} {a : α} {as : List α} {bs : List β}
    (h : (a :: as).mapM f = some bs) : ∃ b rest, f a = some b ∧ as.mapM f = some rest
      ∧ bs = b :: rest := by
  rw [List.mapM_cons, Option.bind_eq_bind, Option.bind_eq_some_iff] at h
  obtain ⟨b, hb, h⟩ := h
  obtain ⟨rest, hrest, h⟩ := Option.bind_eq_some_iff.mp h
  exact ⟨b, rest, hb, hrest, (Option.some.inj h).symm⟩

theorem mem_mapM {α β : Type} {f : α → Option β} {as : List α} {bs : List β}
    (h : as.mapM f = some bs) {b : β} (hb : b ∈ bs) : ∃ a ∈ as, f a = some b := by
  induction as generalizing bs with
  | nil =>
    cases h
    cases hb
  | cons a as ih =>
    obtain ⟨first, rest, hfirst, hrest, rfl⟩ := exists_of_mapM_cons h
    rcases List.mem_cons.mp hb with rfl | hb
    · exact ⟨a, List.mem_cons_self, hfirst⟩
    · obtain ⟨a', ha', hmade⟩ := ih hrest hb
      exact ⟨a', List.mem_cons_of_mem a ha', hmade⟩

theorem map_eq_of_mapM {α β γ : Type} {f : α → Option β} {g : β → γ} {k : α → γ} {as : List α}
    {bs : List β} (h : as.mapM f = some bs) (hmade : ∀ a ∈ as, ∀ b, f a = some b → g b = k a) :
    bs.map g = as.map k := by
  induction as generalizing bs with
  | nil =>
    cases h
    rfl
  | cons a as ih =>
    obtain ⟨first, rest, hfirst, hrest, rfl⟩ := exists_of_mapM_cons h
    rw [List.map_cons, List.map_cons, hmade a List.mem_cons_self first hfirst,
      ih hrest fun b hb => hmade b (List.mem_cons_of_mem a hb)]
/-- A domain whose text begins with two characters of ASCII, the first of which is no point, begins
with the first one in small, or with the mark of a label that is not in ASCII. -/
theorem head_domainToAscii? (hc : c.toNat < 0x80) (hdot : c.toLower ≠ '.') (hd : d.toNat < 0x80)
    (h : domainToAscii? (c :: d :: cs) = some domain) :
    ∃ rest, domain = c.toLower :: rest ∨ domain = 'x' :: rest := by
  obtain ⟨mapped, labels, hmapped, hlabels, rfl, -⟩ := domainToAscii?_eq_some h
  obtain ⟨first, following, hfirst, hfollowing, rfl⟩ := exists_of_mapM_cons hmapped
  obtain ⟨second, others, hsecond, -, rfl⟩ := exists_of_mapM_cons hfollowing
  rw [mapHostChar?_ascii hc] at hfirst
  rw [mapHostChar?_ascii hd] at hsecond
  cases hfirst
  cases hsecond
  -- The first character is not put together with the second one, so the first label begins with it.
  rw [List.flatten_cons, List.flatten_cons, List.singleton_append, List.singleton_append,
    normalize_cons_ascii (toNat_toLower_lt_iff.mpr hc) (toNat_toLower_lt_iff.mpr hd)] at hlabels
  obtain ⟨piece, pieces, hpieces⟩ := List.exists_cons_of_ne_nil
    (Text.splitOn_ne_nil '.' (normalize (d.toLower :: others.flatten)))
  rw [Text.splitOn_cons_of_ne hdot hpieces] at hlabels
  obtain ⟨l, labels, hl, -, rfl⟩ := exists_of_mapM_cons hlabels
  obtain ⟨rest, hrest⟩ := head_ascii_of_ofMapped? hl
  obtain ⟨more, hjoin⟩ := Text.exists_join_cons ['.'] l.ascii (labels.map Label.ascii)
  rcases hrest with hrest | hrest
  · exact ⟨rest ++ more, .inl (by rw [List.map_cons, hjoin, hrest, List.cons_append])⟩
  · exact ⟨rest ++ more, .inr (by rw [List.map_cons, hjoin, hrest, List.cons_append])⟩

end Intercept.Host
