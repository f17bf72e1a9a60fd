import Intercept.Proofs.Text.Readers
import Intercept.Section.Lines

/-!
# Intercept.Proofs.Section.RejectWord -- the words that reject

A way to reject is named by the word `reject`, which some parts behind a dash make longer. The reader
tries these parts one by one; what it answers is the longest word that stands at the front of a text.
-/

namespace Intercept.Section

open Intercept.Text

variable {cs back : List Char} {word word' : String}

/-- The longest word that rejects at the front of a text. -/
structure LongestReject (word : String) (cs : List Char) : Prop where
  mem : word ∈ Reject.words
  front : word.toList <+: cs
  longest : ∀ other ∈ Reject.words, other.toList <+: cs → other.toList <+: word.toList

theorem noBlank_rejectWord (h : word ∈ Reject.words) : NoBlank word.toList := by
  have hall : ∀ word ∈ Reject.words, NoBlank word.toList := by decide
  exact hall word h

theorem exists_cons_rejectWord (h : word ∈ Reject.words) : ∃ cs, word.toList = 'r' :: cs := by
  have hall : ∀ word ∈ Reject.words, word.toList = 'r' :: word.toList.tail := by decide
  exact ⟨_, hall word h⟩

theorem LongestReject.unique (h : LongestReject word cs) (h' : LongestReject word' cs) :
    word = word' := by
  have hle := h'.longest word h.mem h.front
  have hge := h.longest word' h'.mem h'.front
  exact String.toList_inj.mp (hle.eq_of_length (Nat.le_antisymm hle.length_le hge.length_le))

/-- A word that rejects and has nothing or a blank behind it is the longest. -/
theorem longestReject_append (h : word ∈ Reject.words) (hback : BlankFirst back) :
    LongestReject word (word.toList ++ back) := by
  refine ⟨h, List.prefix_append _ _, ?_⟩
  rintro other hother ⟨rest, hrest⟩
  obtain ⟨q, hq, -⟩ :=
    after?_word (noBlank_rejectWord hother) hback (after?_eq_some.mpr hrest.symm)
  exact ⟨q, hq.symm⟩

/-- What may follow the bare word to tell how to reject. -/
def rejectKinds : List String := ["-200", "-array", "-dict", "-img", "-tinygif"]

theorem mem_words_of_mem_rejectKinds : ∀ kind ∈ rejectKinds, "reject" ++ kind ∈ Reject.words := by
  decide

theorem eq_or_exists_rejectKind : ∀ other ∈ Reject.words,
    other = "reject" ∨ ∃ kind ∈ rejectKinds, other.toList = "reject".toList ++ kind.toList := by
  decide

theorem prefix_of_rejectKind_prefix : ∀ kind ∈ rejectKinds, ∀ other ∈ Reject.words,
    ("reject" ++ kind).toList <+: other.toList → other.toList <+: ("reject" ++ kind).toList := by
  decide

theorem longestReject_of_rejectWord? (h : rejectWord? cs = some word) : LongestReject word cs := by
  rw [rejectWord?, Option.bind_eq_bind, Option.bind_eq_some_iff] at h
  obtain ⟨rest, hrest, hword⟩ := h
  obtain rfl := afterStr?_eq_some.mp hrest
  split at hword
  · next kind behind hkind =>
    obtain rfl := Option.some.inj hword
    obtain ⟨hmem, rfl⟩ := oneOf?_eq_some hkind
    have hfront : ("reject" ++ kind).toList <+: "reject".toList ++ (kind.toList ++ behind) :=
      ⟨behind, by simp⟩
    refine ⟨mem_words_of_mem_rejectKinds kind hmem, hfront, fun other hother hprefix => ?_⟩
    rcases List.prefix_or_prefix_of_prefix hprefix hfront with hle | hge
    · exact hle
    · exact prefix_of_rejectKind_prefix kind hmem other hother hge
  · next hnone =>
    obtain rfl := Option.some.inj hword
    refine ⟨by decide, List.prefix_append _ _, fun other hother hprefix => ?_⟩
    rcases eq_or_exists_rejectKind other hother with rfl | ⟨kind, hkind, heq⟩
    · exact List.prefix_rfl
    · rw [heq, List.prefix_append_right_inj] at hprefix
      exact absurd hnone (oneOf?_ne_none hkind hprefix)

/-- The word that is read is the longest. -/
theorem rejectWord?_eq_some_iff : rejectWord? cs = some word ↔ LongestReject word cs := by
  refine ⟨longestReject_of_rejectWord?, fun h => ?_⟩
  have hreject : ∀ word ∈ Reject.words, "reject".toList <+: word.toList := by decide
  obtain ⟨rest, hrest⟩ := (hreject word h.mem).trans h.front
  obtain ⟨word', hword'⟩ : ∃ word', rejectWord? cs = some word' := by
    rw [← hrest, rejectWord?, afterStr?_append, Option.bind_eq_bind, Option.bind_some]
    split
    · exact ⟨_, rfl⟩
    · exact ⟨_, rfl⟩
  rw [hword', (longestReject_of_rejectWord? hword').unique h]

theorem newline_not_mem_rejectWord (h : rejectWord? cs = some word) : '\n' ∉ word.toList :=
  newline_not_mem_of_noBlank (noBlank_rejectWord (rejectWord?_eq_some_iff.mp h).mem)

end Intercept.Section
