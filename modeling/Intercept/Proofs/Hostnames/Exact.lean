import Intercept.Proofs.Host.Written
import Intercept.Proofs.Hostnames.Building
import Intercept.Proofs.Hostnames.Wildcard
import Intercept.Request
import Intercept.Route.Table

/-!
# Intercept.Proofs.Hostnames.Exact -- entries that name one host

An entry without wildcards stands for one text, itself in small letters. The host of a request is
not a text that somebody wrote but what the locator was read as, so the two meet only where the
entry is written as hosts are: an entry with letters outside ASCII, with percent signs or with an
address in another spelling takes its place in the list and never stands for the host that it
spells in a locator.
-/

namespace Intercept

open Host (AsWritten webPrefix hostOf? webHost?)
open Hostnames (lower Names)
open Text (asciiLower)

/-! ## Exact entries -/

/-- The text of a host without wildcards and blanks, without what ends a host in a locator and
without what separates or marks entries in a list. -/
structure ExactEntry (h : String) : Prop where
  noBlank : Text.NoBlank h.toList
  plain : ∀ c ∈ "*?/\\#@:,".toList, c ∉ h.toList
  dash : h.toList.head? ≠ some '-'
  percent : h.toList.head? ≠ some '%'

instance (h : String) : Decidable (ExactEntry h) :=
  have : Decidable (∀ c ∈ "*?/\\#@:,".toList, c ∉ h.toList) :=
    List.decidableBAll (fun c => c ∉ h.toList) _
  decidable_of_iff
    (Text.NoBlank h.toList ∧ (∀ c ∈ "*?/\\#@:,".toList, c ∉ h.toList)
      ∧ h.toList.head? ≠ some '-' ∧ h.toList.head? ≠ some '%')
    ⟨fun ⟨hblank, hplain, hdash, hpercent⟩ => ⟨hblank, hplain, hdash, hpercent⟩,
      fun he => ⟨he.noBlank, he.plain, he.dash, he.percent⟩⟩

theorem toList_lower (s : String) : (lower s).toList = asciiLower s.toList := by
  rw [lower, String.toList_ofList]

namespace ExactEntry

variable {h : String} {host : List Char}

/-- The locator whose authority is the entry alone has the host that the entry spells. -/
theorem hostOf?_locator (he : ExactEntry h) :
    hostOf? ("https://" ++ h ++ "/").toList = webHost? h.toList := by
  have hlocator : ("https://" ++ h ++ "/").toList = webPrefix "https" ++ (h.toList ++ ['/']) := by
    simp [webPrefix]
  rw [hlocator]
  refine Host.hostOf?_locator (by decide) fun c hc => ?_
  have hends : Host.hostEnds.all (fun c =>
      "*?/\\#@:,".toList.contains c || Unicode.isBlank c) = true := by rfl
  rcases Bool.or_eq_true_iff.mp (List.all_eq_true.mp hends c hc) with hplain | hblank
  · exact he.plain c (List.contains_iff_mem.mp hplain)
  · exact fun hmem => Bool.false_ne_true ((he.noBlank c hmem).symm.trans hblank)

theorem ne_nil (hspelled : webHost? h.toList = some host) : h.toList ≠ [] := by
  intro hnil
  have hnone : webHost? [] = none := by decide +kernel
  rw [hnil, hnone] at hspelled
  cases hspelled

/-- An exact entry takes its place in every list that is built of it. -/
theorem mem_included (he : ExactEntry h) (hne : h.toList ≠ []) {b : Building}
    (hb : h ∈ b.given) : lower h ∈ b.result.included := by
  rw [b.result_eq, Hostnames.mem_included_ofEntries]
  refine ⟨h, hb, ?_⟩
  have htrim : Text.trim h.toList = h.toList := Text.trim_of_noBlank he.noBlank
  have hmarker : h ∉ Hostnames.markers := by
    intro hmem
    have hall : ∀ marker ∈ Hostnames.markers, marker.toList.head? = some '%' := by decide
    exact he.percent (hall h hmem)
  have hdash : ∀ rest, asciiLower h.toList ≠ '-' :: rest := by
    intro rest heq
    obtain ⟨c, cs, hcs⟩ := List.exists_cons_of_ne_nil hne
    rw [hcs] at heq
    have hc : c = '-' := Text.eq_of_toLower_eq (by decide) (List.cons.inj heq).1
    exact he.dash (by rw [hcs, hc]; rfl)
  rw [Hostnames.ofEntries, List.foldl_cons, List.foldl_nil, Hostnames.add_eq, htrim,
    String.ofList_toList, if_neg (not_or.mpr ⟨hne, hmarker⟩), Hostnames.addNormal_host _ hdash]
  show lower h ∈ Hostnames.addNew (lower h) []
  exact Hostnames.mem_addNew.mpr (.inl rfl)

/-- The entry in small letters stands for the host that it spells just where it is written as hosts
are. -/
theorem standsFor_host_iff (he : ExactEntry h) (hspelled : webHost? h.toList = some host) :
    StandsFor (lower h).toList (asciiLower host) ↔ AsWritten h.toList := by
  have hwild : ∀ c ∈ ['*', '?'], c ∉ asciiLower h.toList := by
    intro c hc hmem
    have hsmall : ∀ d ∈ ['*', '?'], d.isLower = false ∧ d ∈ "*?/\\#@:,".toList := by simp
    obtain ⟨hlower, hplain⟩ := hsmall c hc
    exact he.plain c hplain (Text.mem_of_mem_asciiLower hlower hmem)
  rw [toList_lower, StandsFor.plain_iff (hwild '*' (by decide)) (hwild '?' (by decide))]
  exact Host.asciiLower_webHost?_iff (he.plain ':' (by decide)) hspelled

end ExactEntry

/-! ## Hosts of requests -/

namespace RoutingTable

theorem toList_host {r : Request} {host : List Char} (h : hostOf? r.url.toList = some host) :
    r.host.toList = asciiLower host := by
  rw [Request.host, h, Option.getD_some, String.toList_ofList]

/-- An exact entry and the locator that it spells. The entry takes its place in every list that is
built of it. A table with the entry in its list intercepts the host of the locator just where no
entry excludes the host and the entry is written as hosts are, or another entry stands for it. -/
theorem intercepts_exact_iff {h : String} (he : ExactEntry h) {host : List Char}
    (hparse : hostOf? ("https://" ++ h ++ "/").toList = some host) :
    (∀ b : Building, h ∈ b.given → lower h ∈ b.result.included)
      ∧ ∀ (t : RoutingTable) (r : Request), lower h ∈ t.hostnames.included →
        r.url = "https://" ++ h ++ "/" → (t.hostnames.intercepts r.host = true ↔
          (AsWritten h.toList ∨ ∃ e ∈ t.hostnames.included, e ≠ lower h
              ∧ StandsFor e.toList r.host.toList)
            ∧ ∀ e ∈ t.hostnames.excluded, ¬ StandsFor e.toList r.host.toList) := by
  have hspelled := he.hostOf?_locator.symm.trans hparse
  refine ⟨fun b hb => he.mem_included (ExactEntry.ne_nil hspelled) hb, fun t r hentry hurl => ?_⟩
  have hhost : r.host.toList = asciiLower host := toList_host (hurl ▸ hparse)
  have hsmall : (lower r.host).toList = r.host.toList := by
    rw [toList_lower, hhost, Text.asciiLower_asciiLower]
  have hstands := he.standsFor_host_iff hspelled
  rw [← hhost] at hstands
  rw [Hostnames.intercepts_iff, Names, Names, hsmall]
  refine and_congr ?_ (by simp)
  constructor
  · rintro ⟨e, hmem, hmatch⟩
    by_cases heq : e = lower h
    · exact .inl (hstands.mp (heq ▸ hmatch))
    · exact .inr ⟨e, hmem, heq, hmatch⟩
  · rintro (hwritten | ⟨e, hmem, -, hmatch⟩)
    · exact ⟨lower h, hentry, hstands.mpr hwritten⟩
    · exact ⟨e, hmem, hmatch⟩

/-- An address in its shortest spelling is intercepted. -/
theorem intercepts_exact_iff_address :
    let b : Building := .add (.parse "%APPEND% *.b.com, 127.0.0.1") "-127.0.0.2"
    let t : RoutingTable := { hostnames := b.result }
    let r : Request := { url := "https://127.0.0.1/" }
    ExactEntry "127.0.0.1" ∧ hostOf? r.url.toList = some "127.0.0.1".toList
      ∧ t.hostnames.intercepts r.host = true := by
  intro b t r
  have he : ExactEntry "127.0.0.1" := by decide +kernel
  have hparse : hostOf? r.url.toList = some "127.0.0.1".toList := by
    have hplain : Host.PlainDomain "127.0.0.1".toList := by decide
    have hlocator : hostOf? r.url.toList = webHost? "127.0.0.1".toList := he.hostOf?_locator
    rw [hlocator, hplain.webHost?_eq (by decide)]
    decide +kernel
  obtain ⟨htaken, hiff⟩ := intercepts_exact_iff he hparse
  have hwritten : AsWritten "127.0.0.1".toList :=
    ⟨Host.isAsciiText_iff.mp (by rfl), by simp,
      fun _ => ⟨[127, 0, 0, 1], ⟨rfl, by decide⟩, by decide⟩⟩
  have hexcluded : t.hostnames.excluded = ["127.0.0.2"] := by decide
  refine ⟨he, hparse, (hiff t r (htaken b (by decide)) rfl).mpr ⟨.inl hwritten, ?_⟩⟩
  rw [hexcluded, toList_host hparse]
  intro e hmem hmatch
  rw [List.mem_singleton.mp hmem, StandsFor.plain_iff (by decide) (by decide)] at hmatch
  exact absurd hmatch (by decide)

/-- An address in another spelling is not: the list has the entry, the locator spells it, and the
host that is read is another text. -/
theorem not_intercepts_spelled :
    let t : RoutingTable := { hostnames := .ofEntries ["0x7f.1"] }
    let r : Request := { url := "https://0x7f.1/" }
    ExactEntry "0x7f.1" ∧ t.hostnames.included = ["0x7f.1"]
      ∧ hostOf? r.url.toList = some "127.0.0.1".toList
      ∧ t.hostnames.intercepts r.host = false := by
  intro t r
  have he : ExactEntry "0x7f.1" := by decide +kernel
  have hparse : hostOf? r.url.toList = some "127.0.0.1".toList := by
    have hplain : Host.PlainDomain "0x7f.1".toList := by decide
    have hlocator : hostOf? r.url.toList = webHost? "0x7f.1".toList := he.hostOf?_locator
    rw [hlocator, hplain.webHost?_eq (by decide)]
    decide +kernel
  have hhost : r.host = "127.0.0.1" := by
    rw [← String.toList_inj, toList_host hparse]
    decide
  refine ⟨he, by decide, hparse, ?_⟩
  rw [hhost]
  decide

end RoutingTable

end Intercept
