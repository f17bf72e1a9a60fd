import Intercept.Proofs.Section.FilterOrder
import Intercept.Proofs.Sgmodule.Disabled

/-!
# Intercept.Proofs.Sgmodule.OnlyRules -- lines of other sections among the filter rules

A filter rule begins with the name of its type and a comma, but the name is looked for anywhere in a
line. The fields of a line tell what comes of it: a line is listed when one of its fields ends with
the name of a type and another field follows, even if it is a pattern or an address to which the
name belongs and the line is meant for another section.
-/

namespace Intercept.Sgmodule

open Intercept.Text Intercept.Section

/-! ## Types -/

/-- The names of the types of filter rules. -/
def typeNames : List String :=
  ["DOMAIN", "DOMAIN-SUFFIX", "DOMAIN-KEYWORD", "IP-CIDR", "AND", "URL-REGEX"]

/-- A line that begins with the name of a type and a comma. -/
def BeginsWithType (line : List Char) : Prop :=
  ∃ name ∈ typeNames, name.toList ++ [','] <+: line

instance (line : List Char) : Decidable (BeginsWithType line) :=
  inferInstanceAs (Decidable (∃ name ∈ _, _))

/-- A line one of whose fields, other than the last, ends with the name of a type. -/
def NamesType (line : List Char) : Prop :=
  ∃ field ∈ (splitOn ',' line).dropLast, ∃ name ∈ typeNames, name.toList <:+ field

instance (line : List Char) : Decidable (NamesType line) :=
  inferInstanceAs (Decidable (∃ field ∈ _, _))

/-- A line from which a section other than that of the filter rules takes something. -/
def ReadElsewhere (raw : List Char) : Prop :=
  ¬ Harmless raw ∨ hostnameLine? raw ≠ none

variable {text line : List Char}

theorem filterTypes_eq :
    filterTypes.map String.toList = typeNames.map fun name => name.toList ++ [','] := by
  decide

theorem comma_not_mem_of_mem_typeNames {name : String} (h : name ∈ typeNames) :
    ',' ∉ name.toList := by
  have hall : ∀ name ∈ typeNames, ',' ∉ name.toList := by decide
  exact hall name h

/-- What holds of some type with its comma, holds of some name with a comma behind it. -/
theorem exists_filterType_iff (P : List Char → Prop) :
    (∃ type ∈ filterTypes, P type.toList) ↔ ∃ name ∈ typeNames, P (name.toList ++ [',']) := by
  have h := congrArg (fun types => ∃ type ∈ types, P type) filterTypes_eq
  simpa only [List.mem_map, exists_exists_and_eq_and] using iff_of_eq h

theorem namesType_iff : NamesType line ↔ ∃ type ∈ filterTypes, type.toList <:+: line := by
  rw [exists_filterType_iff (· <:+: line)]
  constructor
  · rintro ⟨field, hfield, name, hname, hsuffix⟩
    exact ⟨name, hname,
      (concat_infix_iff (comma_not_mem_of_mem_typeNames hname)).mpr ⟨field, hfield, hsuffix⟩⟩
  · rintro ⟨name, hname, hinfix⟩
    obtain ⟨field, hfield, hsuffix⟩ :=
      (concat_infix_iff (comma_not_mem_of_mem_typeNames hname)).mp hinfix
    exact ⟨field, hfield, name, hname, hsuffix⟩

theorem BeginsWithType.namesType (h : BeginsWithType line) : NamesType line := by
  obtain ⟨name, hname, hprefix⟩ := h
  exact namesType_iff.mpr
    ((exists_filterType_iff (· <:+: line)).mpr ⟨name, hname, hprefix.isInfix⟩)

theorem BeginsWithType.head?_ne (h : BeginsWithType line) : line.head? ≠ some '#' := by
  obtain ⟨name, hname, rest, rfl⟩ := h
  have hall : ∀ name ∈ typeNames, ∀ rest : List Char,
      ((name.toList ++ [',']) ++ rest).head? ≠ some '#' := by
    simp [typeNames]
  exact hall name hname rest

/-! ## Listed lines -/

/-- The filter rules of a text are its lines that name a type and are not commented out. -/
theorem mem_filterEntries_iff_namesType : line ∈ filterEntries text ↔
    (∃ raw ∈ lines text, trim raw = line) ∧ line.head? ≠ some '#' ∧ NamesType line := by
  rw [mem_filterEntries_iff, IsRule, ← namesType_iff]
  refine and_congr_right fun _ => and_iff_right_of_imp ?_
  rintro ⟨-, hnames⟩ rfl
  exact absurd hnames (by simp [NamesType, splitOn])

/-- No rule is lost: a line that begins with a type is listed. -/
theorem BeginsWithType.mem_filterEntries {raw : List Char} (hraw : raw ∈ lines text)
    (h : BeginsWithType (trim raw)) : trim raw ∈ filterEntries text :=
  mem_filterEntries_iff_namesType.mpr ⟨⟨raw, hraw, rfl⟩, h.head?_ne, h.namesType⟩

/-! ## Rules only -/

/-- Only rules are listed: each line begins with a type, and none is a line of another section. -/
def OnlyRules (text : List Char) : Prop :=
  (∀ line ∈ filterEntries text, BeginsWithType line)
    ∧ ∀ raw ∈ lines text, ReadElsewhere raw → trim raw ∉ filterEntries text

theorem onlyRules_of_lines (h : ∀ raw ∈ lines text, (trim raw).head? ≠ some '#' →
    NamesType (trim raw) → BeginsWithType (trim raw) ∧ ¬ ReadElsewhere raw) : OnlyRules text := by
  constructor
  · intro line hline
    obtain ⟨⟨raw, hraw, rfl⟩, hhead, hnames⟩ := mem_filterEntries_iff_namesType.mp hline
    exact (h raw hraw hhead hnames).1
  · intro raw hraw hread hline
    obtain ⟨-, hhead, hnames⟩ := mem_filterEntries_iff_namesType.mp hline
    exact (h raw hraw hhead hnames).2 hread

/-- Only rules are listed exactly when every line that names a type and is not commented out begins
with one and says nothing to another section. Every line that begins with a type is listed. -/
theorem onlyRules_iff (text : List Char) :
    (OnlyRules text ↔ ∀ raw ∈ lines text, (trim raw).head? ≠ some '#' → NamesType (trim raw) →
        BeginsWithType (trim raw) ∧ ¬ ReadElsewhere raw) ∧
      ∀ raw ∈ lines text, BeginsWithType (trim raw) → trim raw ∈ filterEntries text := by
  refine ⟨⟨?_, onlyRules_of_lines⟩, fun raw hraw => BeginsWithType.mem_filterEntries hraw⟩
  rintro ⟨hbegins, helsewhere⟩ raw hraw hhead hnames
  have hlisted : trim raw ∈ filterEntries text :=
    mem_filterEntries_iff_namesType.mpr ⟨⟨raw, hraw, rfl⟩, hhead, hnames⟩
  exact ⟨hbegins _ hlisted, fun hread => helsewhere raw hraw hread hlisted⟩

/-- A rejected address with the name of a type in it makes a filter rule as well. -/
theorem not_onlyRules_brand : ¬ OnlyRules "^https://ads.com/BRAND,x url reject".toList := by
  rintro ⟨hbegins, -⟩
  have hlisted : "^https://ads.com/BRAND,x url reject".toList
      ∈ filterEntries "^https://ads.com/BRAND,x url reject".toList :=
    mem_filterEntries_iff_namesType.mpr ⟨by decide, by decide, by decide +kernel⟩
  have hbegins' : ¬ BeginsWithType "^https://ads.com/BRAND,x url reject".toList := by decide
  exact hbegins' (hbegins _ hlisted)

end Intercept.Sgmodule
