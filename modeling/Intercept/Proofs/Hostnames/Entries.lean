import Intercept.Proofs.Hostnames
import Intercept.Proofs.Text.Case

/-!
# Intercept.Proofs.Hostnames.Entries -- entries that are read again

An entry is kept without blanks around it and in small letters. What is kept is an entry again: read
once more, it adds the very same text to the same half of the list. So a list that was made by adding
entries and merging lists is determined, up to the order within its halves, by the entries that it
shows.
-/

namespace Intercept.Hostnames

open Intercept.Text

/-! ## What an entry adds -/

/-- A text that is an entry as it is kept, the dash included. -/
structure Normal (cs : List Char) : Prop where
  ne_nil : cs ≠ []
  trimmed : trim cs = cs
  small : asciiLower cs = cs

theorem normal_asciiLower_trim {cs : List Char} (h : trim cs ≠ []) :
    Normal (asciiLower (trim cs)) where
  ne_nil := by simpa [asciiLower] using h
  trimmed := by rw [trim_asciiLower, trim_trim]
  small := asciiLower_asciiLower _

/-- The markers are written in capitals, so none of them is kept. -/
theorem Normal.not_mem_markers {cs : List Char} (h : Normal cs) : String.ofList cs ∉ markers := by
  have hall : ∀ marker ∈ markers, asciiLower marker.toList ≠ marker.toList := by decide
  intro hmem
  have hsmall := hall _ hmem
  rw [String.toList_ofList] at hsmall
  exact hsmall h.small

/-- Adds an entry that is written as it is kept. -/
def addNormal (h : Hostnames) : List Char → Hostnames
  | ['-'] => h
  | '-' :: host => { h with excluded := addNew (String.ofList host) h.excluded }
  | host => { h with included := addNew (String.ofList host) h.included }

theorem addNormal_dash (h : Hostnames) {host : List Char} (hne : host ≠ []) :
    h.addNormal ('-' :: host) = { h with excluded := addNew (String.ofList host) h.excluded } := by
  cases host with
  | nil => exact absurd rfl hne
  | cons c host => rfl

theorem addNormal_host (h : Hostnames) {host : List Char} (hne : ∀ rest, host ≠ '-' :: rest) :
    h.addNormal host = { h with included := addNew (String.ofList host) h.included } := by
  rw [addNormal.eq_3 _ _ (hne []) hne]

theorem add_eq (h : Hostnames) (entry : String) : h.add entry
    = if trim entry.toList = [] ∨ String.ofList (trim entry.toList) ∈ markers then h
      else h.addNormal (asciiLower (trim entry.toList)) := by
  have hskip : ((String.ofList (trim entry.toList)).isEmpty
        || markers.contains (String.ofList (trim entry.toList))) = true
      ↔ trim entry.toList = [] ∨ String.ofList (trim entry.toList) ∈ markers := by
    simp
  simp only [add, hskip, String.toList_ofList]
  rfl

theorem add_of_normal (h : Hostnames) {cs : List Char} (hcs : Normal cs) :
    h.add (String.ofList cs) = h.addNormal cs := by
  rw [add_eq, String.toList_ofList, hcs.trimmed, hcs.small]
  exact if_neg fun hskip => hskip.elim hcs.ne_nil hcs.not_mem_markers

/-- An entry that includes the text that it is. -/
def Includes (host : String) : Prop :=
  ∀ h : Hostnames, h.add host = { h with included := addNew host h.included }

/-- A text that is excluded by the entry with a dash in front of it. -/
def Excludes (host : String) : Prop :=
  ∀ h : Hostnames, h.add ("-" ++ host) = { h with excluded := addNew host h.excluded }

theorem includes_of_normal {cs : List Char} (hcs : Normal cs) (hne : ∀ rest, cs ≠ '-' :: rest) :
    Includes (String.ofList cs) := by
  intro h
  rw [h.add_of_normal hcs, h.addNormal_host hne]

theorem excludes_of_normal {host : List Char} (hcs : Normal ('-' :: host)) (hne : host ≠ []) :
    Excludes (String.ofList host) := by
  intro h
  have hdash : "-" ++ String.ofList host = String.ofList ('-' :: host) := by
    rw [← String.toList_inj]
    simp
  rw [hdash, h.add_of_normal hcs, h.addNormal_dash hne]

/-- An entry adds nothing, or it includes or excludes a text that is an entry again. -/
theorem add_cases (entry : String) : (∀ h : Hostnames, h.add entry = h)
    ∨ (∃ host, Includes host
        ∧ ∀ h : Hostnames, h.add entry = { h with included := addNew host h.included })
    ∨ (∃ host, Excludes host
        ∧ ∀ h : Hostnames, h.add entry = { h with excluded := addNew host h.excluded }) := by
  by_cases hskip : trim entry.toList = [] ∨ String.ofList (trim entry.toList) ∈ markers
  · exact Or.inl fun h => by rw [add_eq, if_pos hskip]
  have hadd : ∀ h : Hostnames, h.add entry = h.addNormal (asciiLower (trim entry.toList)) :=
    fun h => by rw [add_eq, if_neg hskip]
  have hnormal := normal_asciiLower_trim fun hempty => hskip (Or.inl hempty)
  -- From here on the entry is known only as it is kept.
  generalize asciiLower (trim entry.toList) = cs at hadd hnormal
  by_cases hdash : ∃ host, cs = '-' :: host
  · obtain ⟨host, rfl⟩ := hdash
    by_cases hne : host = []
    · exact Or.inl fun h => by rw [hadd, hne]; rfl
    · refine Or.inr (Or.inr ⟨String.ofList host, excludes_of_normal hnormal hne, fun h => ?_⟩)
      rw [hadd, h.addNormal_dash hne]
  · have hhost : ∀ rest, cs ≠ '-' :: rest := fun rest heq => hdash ⟨rest, heq⟩
    refine Or.inr (Or.inl ⟨String.ofList cs, includes_of_normal hnormal hhost, fun h => ?_⟩)
    rw [hadd, h.addNormal_host hhost]

/-! ## Lists that entries have made -/

/-- No entry of a list stands twice, and each is read again as what it is. -/
structure Settled (h : Hostnames) : Prop where
  distinct : h.Distinct
  included : ∀ host ∈ h.included, Includes host
  excluded : ∀ host ∈ h.excluded, Excludes host

theorem settled_empty : Settled {} where
  distinct := distinct_empty
  included := by simp
  excluded := by simp

theorem Settled.add {h : Hostnames} (hs : h.Settled) (entry : String) : (h.add entry).Settled := by
  rcases add_cases entry with hadd | ⟨host, hhost, hadd⟩ | ⟨host, hhost, hadd⟩
  · rwa [hadd]
  · rw [hadd]
    refine ⟨⟨nodup_addNew hs.distinct.included host, hs.distinct.excluded⟩, ?_, hs.excluded⟩
    intro x hx
    rcases mem_addNew.mp hx with rfl | hx
    · exact hhost
    · exact hs.included x hx
  · rw [hadd]
    refine ⟨⟨hs.distinct.included, nodup_addNew hs.distinct.excluded host⟩, hs.included, ?_⟩
    intro x hx
    rcases mem_addNew.mp hx with rfl | hx
    · exact hhost
    · exact hs.excluded x hx

theorem settled_ofEntries (entries : List String) : (ofEntries entries).Settled := by
  have hfold : ∀ {h : Hostnames}, h.Settled → (entries.foldl Hostnames.add h).Settled := by
    induction entries with
    | nil => exact fun hs => hs
    | cons entry entries ih => exact fun hs => ih (hs.add entry)
  exact hfold settled_empty

theorem settled_parse (value : String) : (parse value).Settled :=
  settled_ofEntries _

theorem Settled.merge {h other : Hostnames} (hs : h.Settled) (ho : other.Settled) :
    (h.merge other).Settled where
  distinct := hs.distinct.merge other
  included host hhost := (mem_included_merge.mp hhost).elim (hs.included host) (ho.included host)
  excluded host hhost := (mem_excluded_merge.mp hhost).elim (hs.excluded host) (ho.excluded host)

/-! ## Reading the entries of a list -/

theorem foldl_add_includes {hosts : List String} (hhosts : ∀ host ∈ hosts, Includes host)
    (h : Hostnames) :
    hosts.foldl Hostnames.add h = { h with included := addAll h.included hosts } := by
  induction hosts generalizing h with
  | nil => rfl
  | cons host hosts ih =>
    rw [List.foldl_cons, hhosts host List.mem_cons_self h,
      ih fun x hx => hhosts x (List.mem_cons_of_mem host hx)]
    rfl

theorem foldl_add_excludes {hosts : List String} (hhosts : ∀ host ∈ hosts, Excludes host)
    (h : Hostnames) : (hosts.map fun host => "-" ++ host).foldl Hostnames.add h
      = { h with excluded := addAll h.excluded hosts } := by
  induction hosts generalizing h with
  | nil => rfl
  | cons host hosts ih =>
    rw [List.map_cons, List.foldl_cons, hhosts host List.mem_cons_self h,
      ih fun x hx => hhosts x (List.mem_cons_of_mem host hx)]
    rfl

theorem addAll_append_of_nodup {list values : List String} (h : (list ++ values).Nodup) :
    addAll list values = list ++ values := by
  induction values generalizing list with
  | nil => rw [List.append_nil]; rfl
  | cons value values ih =>
    have hvalue : value ∉ list := fun hmem =>
      (List.nodup_append.mp h).2.2 value hmem value List.mem_cons_self rfl
    rw [List.append_cons] at h ⊢
    show addAll (addNew value list) values = _
    rw [addNew_of_not_mem hvalue, ih h]

/-- Texts with a dash in front are in the order of the texts. -/
theorem sorted_dashed (list : List String) :
    sorted (list.map fun e => "-" ++ e) = (sorted list).map fun e => "-" ++ e := by
  refine (List.map_mergeSort fun a _ b _ => ?_).symm
  have hle : "-" ++ a ≤ "-" ++ b ↔ a ≤ b := by
    show ¬ ("-" ++ b).toList < ("-" ++ a).toList ↔ ¬ b.toList < a.toList
    rw [String.toList_append, String.toList_append]
    exact not_congr List.cons_lt_cons_self
  simp [hle]

/-- The entries that a list shows make the same list, with both halves in order. -/
theorem ofEntries_entries {h : Hostnames} (hs : h.Settled) :
    ofEntries h.entries = { included := sorted h.included, excluded := sorted h.excluded } := by
  have hnodup : ∀ {list : List String}, list.Nodup → addAll [] (sorted list) = sorted list := by
    intro list hlist
    exact addAll_append_of_nodup ((List.mergeSort_perm list _).nodup_iff.mpr hlist)
  -- Those that exclude come first; adding them leaves the other half empty.
  rw [ofEntries, entries, sorted_dashed, List.foldl_append,
    foldl_add_excludes fun host hhost => hs.excluded host (mem_sorted.mp hhost),
    foldl_add_includes fun host hhost => hs.included host (mem_sorted.mp hhost),
    hnodup hs.distinct.included, hnodup hs.distinct.excluded]

theorem sameEntries_ofEntries_entries {h : Hostnames} (hs : h.Settled) :
    SameEntries (ofEntries h.entries) h := by
  rw [ofEntries_entries hs]
  exact ⟨fun _ => mem_sorted, fun _ => mem_sorted⟩

theorem entries_ofEntries_entries {h : Hostnames} (hs : h.Settled) :
    (ofEntries h.entries).entries = h.entries :=
  entries_congr (settled_ofEntries _).distinct hs.distinct (sameEntries_ofEntries_entries hs)

/-! ## What is intercepted -/

/-- Which hosts are intercepted depends on which entries there are, and not on their order. -/
theorem intercepts_congr {h h' : Hostnames} (hsame : SameEntries h h') (host : String) :
    h.intercepts host = h'.intercepts host := by
  have hcovers : ∀ {list list' : List String}, (∀ x, x ∈ list ↔ x ∈ list') → ∀ host,
      covers list host = covers list' host := by
    intro list list' hmem host
    rw [Bool.eq_iff_iff, covers, covers, List.any_eq_true, List.any_eq_true]
    simp only [hmem]
  rw [intercepts, intercepts, hcovers hsame.included, hcovers hsame.excluded]

end Intercept.Hostnames
