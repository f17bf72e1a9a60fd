import Intercept.Proofs.Preset

/-!
# Intercept.Proofs.Preset.Unlisted -- what the built-in blockers let pass

The tokens of the built-in blockers have no letter that making a text small takes apart, and none of
them ends in an `i`, so they can be looked for in the user agent as it came. A key is only looked for
within the digits of the locator, and more digits may stand around it.
-/

namespace Intercept.Preset

open Unicode (StandsFolded)
open Blocker (Denied KeyIn statusLine body)

/-- A request that shows nothing of what is listed: no token stands in the user agent in any letter
case, and no listed key stands in the key of the locator. -/
def Unlisted (tokens : List String) (r : Request) : Prop :=
  (∀ t ∈ tokens, ¬ StandsFolded t.toList r.userAgent.toList)
    ∧ ∀ digits, KeyIn r.url.toList digits → ∀ k ∈ blockedKeys, ¬ k.toList <:+: digits

/-- Whether a token is of ASCII and does not end in an `i`. -/
def isPlain (t : String) : Bool :=
  t.toList.all (·.toNat < 0x80) && t.toList.getLast?.all (·.toLower != 'i')

/-- A plain token stands in a text in small letters exactly where it stands in the text. -/
theorem standsFolded_lowercase_iff {t : String} (h : isPlain t = true) (cs : List Char) :
    StandsFolded t.toList (Unicode.lowercase cs) ↔ StandsFolded t.toList cs := by
  obtain ⟨hascii, hend⟩ := Bool.and_eq_true_iff.mp h
  have hbelow : ∀ c ∈ t.toList, c.toNat < 0x80 :=
    fun c hc => of_decide_eq_true (List.all_eq_true.mp hascii c hc)
  have hcapital : 'İ' ∉ t.toList := fun hmem => absurd (hbelow _ hmem) (by decide)
  have hdot : '\u0307' ∉ t.toList := fun hmem => absurd (hbelow _ hmem) (by decide)
  have hlast : ∀ c, t.toList.getLast? = some c → Unicode.fold c ≠ 'i' := by
    intro c hc
    rw [hc] at hend
    rw [Unicode.fold, if_pos (hbelow c (List.mem_of_getLast? hc))]
    exact bne_iff_ne.mp hend
  exact ⟨Unicode.standsFolded_of_lowercase hdot hlast, Unicode.standsFolded_lowercase hcapital⟩

theorem isPlain_tokens : (amdcTokens ++ aliTokens).all isPlain = true := by
  decide +kernel

section Made

variable {tokens : List String} (hplain : tokens.all isPlain = true)

include hplain

theorem unlisted_iff (r : Request) : Unlisted tokens r ↔ ¬ Denied tokens blockedKeys r := by
  rw [Unlisted, Denied, not_or, not_exists, not_exists]
  refine and_congr (forall_congr' fun t => ?_) (forall_congr' fun digits => ?_)
  · rw [not_and]
    refine forall_congr' fun ht => not_congr (standsFolded_lowercase_iff ?_ _).symm
    exact List.all_eq_true.mp hplain t ht
  · simp only [not_and, not_exists]

theorem classify_eq_untouched_iff {b : Blocker} (h : Blocker.ofTokens tokens blockedKeys = .ok b)
    (r : Request) : b.classify r = .untouched ↔ Unlisted tokens r := by
  rw [unlisted_iff hplain, Blocker.classify_eq_untouched_iff h]

end Made

/-- The built-in blockers let a request go on as it is exactly if it shows nothing of what they
list. -/
theorem untouched_iff_unlisted (r : Request) : ∃ b ali, amdc = .ok b ∧ aliAmdc = .ok ali
    ∧ (b.classify r = .untouched ↔ Unlisted amdcTokens r)
    ∧ (ali.classify r = .untouched ↔ Unlisted aliTokens r) := by
  obtain ⟨ali, b, hali, hamdc⟩ := exists_blockers
  have hplain := isPlain_tokens
  rw [List.all_append, Bool.and_eq_true] at hplain
  exact ⟨b, ali, hamdc, hali, classify_eq_untouched_iff hplain.1 hamdc r,
    classify_eq_untouched_iff hplain.2 hali r⟩

/-- A key that is not listed is denied all the same where a listed one stands within its digits. -/
theorem denied_within_digits : let r : Request :=
      { url := "https://amdc.m.taobao.com/?appkey=123782110"
        headers := .ofList [("User-Agent", "Mozilla/5.0")] }
    (∀ t ∈ amdcTokens, ¬ StandsFolded t.toList r.userAgent.toList)
      ∧ KeyIn r.url.toList "123782110".toList ∧ "123782110" ∉ blockedKeys
      ∧ ∃ b, amdc = .ok b ∧ b.classify r = .block statusLine body := by
  intro r
  obtain ⟨-, b, -, hamdc⟩ := exists_blockers
  have hdenied : Denied amdcTokens blockedKeys r := by decide +kernel
  refine ⟨fun t ht => ?_, Blocker.keyIn_iff.mpr ⟨by decide +kernel, by decide⟩, by decide, b, hamdc,
    (Blocker.classify_eq_block_iff hamdc r).mpr hdenied⟩
  have hnone : ∀ t ∈ amdcTokens,
      ¬ t.toList.map Unicode.fold <:+: r.userAgent.toList.map Unicode.fold := by decide +kernel
  rw [Unicode.standsFolded_iff]
  exact hnone t ht

end Intercept.Preset
