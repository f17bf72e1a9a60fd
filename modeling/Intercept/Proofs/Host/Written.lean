import Intercept.Proofs.Host.Address
import Intercept.Proofs.Host.Locator

/-!
# Intercept.Proofs.Host.Written -- hosts that are written as they are read

The host of a web locator is brought into one form: it is in ASCII and in small letters, percent
signs have been resolved, and a host that ends in a number is four bytes in decimal. Whether the
text of a host is that form already, up to the case of its letters, can be told from the text alone.
-/

namespace Intercept.Host

open Intercept.Unicode (mapHostChar? normalize normalize_ascii)
open Text (asciiLower)

variable {c : Char} {cs host domain : List Char}

/-! ## Labels in ASCII -/

namespace Punycode

theorem threshold_le (k bias : Nat) : threshold k bias ≤ 26 := by
  unfold threshold tmin tmax
  split
  · omega
  · split
    · omega
    · omega

theorem digitChar_ascii {d : Nat} (h : d < base) : (digitChar d).toNat < 0x80 := by
  have hall : ∀ e < base, (digitChar e).toNat < 0x80 := by decide
  exact hall d h

theorem writeNumber_ascii (bias fuel k q : Nat) :
    ∀ c ∈ writeNumber bias fuel k q, c.toNat < 0x80 := by
  induction fuel generalizing k q with
  | zero => exact fun _ hc => absurd hc List.not_mem_nil
  | succ fuel ih =>
    have hrange := threshold_le k bias
    have hbase : base = 36 := rfl
    rw [writeNumber]
    split
    · intro c hc
      rw [List.mem_singleton.mp hc]
      exact digitChar_ascii (by omega)
    · rw [List.forall_mem_cons]
      refine ⟨digitChar_ascii ?_, ih _ _⟩
      have hrest := Nat.mod_lt (q - threshold k bias)
        (show 0 < base - threshold k bias by omega)
      omega

theorem writeCode_ascii (basic n : Nat) (ms : List Nat) {w : Writer}
    (h : ∀ c ∈ w.out, c.toNat < 0x80) : ∀ c ∈ (writeCode basic n w ms).out, c.toNat < 0x80 := by
  induction ms generalizing w with
  | nil => exact h
  | cons m ms ih =>
    rw [writeCode]
    refine ih ?_
    split
    · exact h
    · split
      · intro c hc
        rcases List.mem_append.mp hc with hc | hc
        · exact writeNumber_ascii _ _ _ _ c (List.mem_reverse.mp hc)
        · exact h c hc
      · exact h

theorem writeCodes_ascii (basic : Nat) (ms : List Nat) (code : Nat) (ns : List Nat) {w : Writer}
    (h : ∀ c ∈ w.out, c.toNat < 0x80) :
    ∀ c ∈ (writeCodes basic ms code w ns).out, c.toNat < 0x80 := by
  induction ns generalizing code w with
  | nil => exact h
  | cons n ns ih =>
    rw [writeCodes]
    exact ih _ (writeCode_ascii basic n ms h)

/-- A label is written in ASCII. -/
theorem encode_ascii (cs : List Char) : ∀ c ∈ encode cs, c.toNat < 0x80 := by
  have hbasic : ∀ c ∈ cs.filter (·.toNat < 0x80), c.toNat < 0x80 :=
    fun c hc => by simpa using (List.mem_filter.mp hc).2
  intro c hc
  refine writeCodes_ascii _ _ _ _ ?_ c (List.mem_reverse.mp hc)
  dsimp only
  split
  · exact fun _ hd => absurd hd List.not_mem_nil
  · rw [List.forall_mem_cons]
    exact ⟨by decide, fun d hd => hbasic d (List.mem_reverse.mp hd)⟩

end Punycode

theorem ascii_of_ofMapped? {l : Label} (h : Label.ofMapped? cs = some l) :
    ∀ c ∈ l.ascii, c.toNat < 0x80 := by
  rw [Label.ofMapped?] at h
  split at h
  · split at h
    · cases h
    · next hascii =>
      have hcs : isAsciiText cs = true := by simpa using hascii
      split at h
      · cases h
      · split at h
        · cases h
        · cases h
          exact isAsciiText_iff.mp hcs
  · split at h
    · next hascii =>
      cases h
      exact isAsciiText_iff.mp hascii
    · split at h
      · cases h
        intro c hc
        rcases List.mem_append.mp hc with hc | hc
        · have hmark : isAsciiText asciiMark = true := by rfl
          exact isAsciiText_iff.mp hmark c hc
        · exact Punycode.encode_ascii cs c hc
      · cases h

/-- A label that is in ASCII is written as it is. -/
theorem ascii_eq_of_ofMapped? {l : Label} (hascii : ∀ c ∈ cs, c.toNat < 0x80)
    (h : Label.ofMapped? cs = some l) : l.ascii = cs := by
  have hcs : isAsciiText cs = true := isAsciiText_iff.mpr hascii
  rw [Label.ofMapped?] at h
  split at h
  · split at h
    · cases h
    · split at h
      · cases h
      · split at h
        · cases h
        · cases h
          rfl
  · rw [if_pos hcs] at h
    cases h
    rfl

/-! ## Domains in ASCII -/

/-- A domain is in ASCII, and no percent sign is left in it. -/
theorem ascii_of_domainToAscii? (h : domainToAscii? cs = some domain) :
    ∀ c ∈ domain, c.toNat < 0x80 ∧ c ≠ '%' := by
  obtain ⟨mapped, labels, -, hlabels, rfl, hallowed⟩ := domainToAscii?_eq_some h
  intro c hc
  constructor
  · rcases Text.of_mem_join hc with hdot | ⟨part, hpart, hc⟩
    · rw [List.mem_singleton.mp hdot]
      decide
    · obtain ⟨l, hl, rfl⟩ := List.mem_map.mp hpart
      obtain ⟨piece, -, hpiece⟩ := mem_mapM hlabels hl
      exact ascii_of_ofMapped? hpiece c hc
  · rintro rfl
    exact absurd (hallowed '%' hc) (by decide)

theorem ascii_asciiLower (hascii : ∀ c ∈ cs, c.toNat < 0x80) :
    ∀ c ∈ asciiLower cs, c.toNat < 0x80 := by
  intro c hc
  obtain ⟨d, hd, rfl⟩ := List.mem_map.mp hc
  exact toNat_toLower_lt_iff.mpr (hascii d hd)

/-- A domain in ASCII is compared as it is, but in small letters. -/
theorem eq_asciiLower_of_domainToAscii? (hascii : ∀ c ∈ cs, c.toNat < 0x80)
    (h : domainToAscii? cs = some domain) : domain = asciiLower cs := by
  obtain ⟨mapped, labels, hmapped, hlabels, rfl, -⟩ := domainToAscii?_eq_some h
  have hlower := ascii_asciiLower hascii
  have hmapped' : cs.mapM mapHostChar? = some (cs.map fun c => [c.toLower]) :=
    mapM_of_pure fun c hc => mapHostChar?_ascii (hascii c hc)
  have hflat : mapped.flatten = asciiLower cs := by
    rw [← Option.some.inj (hmapped'.symm.trans hmapped), ← List.flatMap_def]
    exact List.map_eq_flatMap.symm
  rw [hflat, normalize_ascii hlower] at hlabels
  have hwritten : labels.map Label.ascii = (Text.splitOn '.' (asciiLower cs)).map id :=
    map_eq_of_mapM hlabels fun piece hpiece l hl =>
      ascii_eq_of_ofMapped? (fun c hc => hlower c (Text.subset_of_mem_splitOn hpiece hc)) hl
  rw [hwritten, List.map_id, Text.join_splitOn]

/-! ## Hosts -/

/-- A host without a colon is a domain, or four bytes where the domain ends in a number. -/
theorem webHost?_eq_some (hcolon : ':' ∉ cs) (h : webHost? cs = some host) : ∃ text domain,
    Text.Utf8.text? (percentDecode cs) = some text ∧ domainToAscii? text = some domain
      ∧ (endsInNumber domain = false ∧ host = domain
        ∨ endsInNumber domain = true
          ∧ ∃ bytes, lenientV4? domain = some bytes ∧ host = (Address.v4 bytes).write) := by
  rw [webHost?.eq_def] at h
  split at h
  · next rest =>
    obtain ⟨inner, hinner, h⟩ := Option.bind_eq_some_iff.mp h
    obtain ⟨groups, hgroups, -⟩ := Option.bind_eq_some_iff.mp h
    have hrest : rest = inner ++ [']'] := Text.before?_eq_some.mp hinner
    have hnone : ':' ∉ inner := fun hmem =>
      hcolon (List.mem_cons_of_mem '[' (hrest ▸ List.mem_append_left _ hmem))
    cases (lenientV6?_eq_none hnone).symm.trans hgroups
  · obtain ⟨text, htext, h⟩ := Option.bind_eq_some_iff.mp h
    obtain ⟨domain, hdomain, h⟩ := Option.bind_eq_some_iff.mp h
    refine ⟨text, domain, htext, hdomain, ?_⟩
    dsimp only at h
    split at h
    · cases h
    · split at h
      · next hnumber =>
        obtain ⟨bytes, hbytes, h⟩ := Option.bind_eq_some_iff.mp h
        exact .inr ⟨hnumber, bytes, hbytes, (Option.some.inj h).symm⟩
      · next hnumber => exact .inl ⟨by simpa using hnumber, (Option.some.inj h).symm⟩

theorem ascii_of_webHost? (hcolon : ':' ∉ cs) (h : webHost? cs = some host) :
    ∀ c ∈ host, c.toNat < 0x80 ∧ c ≠ '%' := by
  obtain ⟨text, domain, -, hdomain, ⟨-, rfl⟩ | ⟨-, bytes, -, rfl⟩⟩ := webHost?_eq_some hcolon h
  · exact ascii_of_domainToAscii? hdomain
  · intro c hc
    rcases mem_write_v4 hc with rfl | hdigit
    · decide
    · refine ⟨Nat.lt_of_le_of_lt (Char.isDigit_iff_toNat.mp hdigit).2 (by decide), ?_⟩
      rintro rfl
      exact absurd hdigit (by decide)

/-- A text in ASCII without percent signs is read as a domain as it is, but in small letters. -/
theorem webHost?_of_ascii (hcolon : ':' ∉ cs) (hascii : ∀ c ∈ cs, c.toNat < 0x80)
    (hpercent : '%' ∉ cs) (h : webHost? cs = some host) :
    endsInNumber (asciiLower cs) = false ∧ host = asciiLower cs
      ∨ endsInNumber (asciiLower cs) = true
        ∧ ∃ bytes, lenientV4? (asciiLower cs) = some bytes ∧ host = (Address.v4 bytes).write := by
  obtain ⟨text, domain, htext, hdomain, hhost⟩ := webHost?_eq_some hcolon h
  rw [percentDecode_of_not_mem hpercent, text?_encode] at htext
  obtain rfl := Option.some.inj htext
  rwa [eq_asciiLower_of_domainToAscii? hascii hdomain] at hhost

theorem asciiLower_write_v4 (bytes : List Nat) :
    asciiLower (Address.v4 bytes).write = (Address.v4 bytes).write := by
  refine (List.map_congr_left fun c hc => ?_).trans (List.map_id _)
  rcases mem_write_v4 hc with rfl | hdigit
  · rfl
  · exact Text.toLower_of_isDigit hdigit

/-- A text that is the form of the host that it spells, up to the case of its letters: it is in
ASCII, there is no percent sign in it, and if it ends in a number it is four bytes in decimal. -/
structure AsWritten (cs : List Char) : Prop where
  ascii : ∀ c ∈ cs, c.toNat < 0x80
  percent : '%' ∉ cs
  number : endsInNumber (asciiLower cs) = true →
    ∃ bytes, (Address.v4 bytes).Sound ∧ asciiLower cs = (Address.v4 bytes).write

/-- The host that a text spells is the text itself, up to the case of letters, just where the text
is written as hosts are. -/
theorem asciiLower_webHost?_iff (hcolon : ':' ∉ cs) (h : webHost? cs = some host) :
    asciiLower host = asciiLower cs ↔ AsWritten cs := by
  constructor
  · intro hsame
    have hchars : ∀ c ∈ cs, c.toNat < 0x80 ∧ c ≠ '%' := by
      intro c hc
      have hlower : c.toLower ∈ asciiLower host := hsame ▸ List.mem_map_of_mem hc
      obtain ⟨d, hd, hdc⟩ := List.mem_map.mp hlower
      obtain ⟨hascii, hpercent⟩ := ascii_of_webHost? hcolon h d hd
      refine ⟨toNat_toLower_lt_iff.mp (hdc ▸ toNat_toLower_lt_iff.mpr hascii), ?_⟩
      rintro rfl
      exact hpercent (Text.eq_of_toLower_eq (by decide) hdc)
    have hascii : ∀ c ∈ cs, c.toNat < 0x80 := fun c hc => (hchars c hc).1
    have hpercent : '%' ∉ cs := fun hmem => (hchars '%' hmem).2 rfl
    refine ⟨hascii, hpercent, fun hnumber => ?_⟩
    obtain ⟨hname, -⟩ | ⟨-, bytes, hbytes, rfl⟩ := webHost?_of_ascii hcolon hascii hpercent h
    · cases hname.symm.trans hnumber
    · rw [asciiLower_write_v4] at hsame
      exact ⟨bytes, lenientV4?_sound hbytes, hsame.symm⟩
  · rintro ⟨hascii, hpercent, hwritten⟩
    obtain ⟨-, rfl⟩ | ⟨hnumber, bytes, hbytes, rfl⟩ :=
      webHost?_of_ascii hcolon hascii hpercent h
    · exact Text.asciiLower_asciiLower cs
    · obtain ⟨bytes', hsound, hcs⟩ := hwritten hnumber
      rw [hcs, lenientV4?_write hsound] at hbytes
      rw [asciiLower_write_v4, ← Option.some.inj hbytes, hcs]

/-! ## Locators -/

section Locators

variable {k : SchemeKind} {rest : List Char}

theorem splitHost_of_not_ends (h : ∀ c ∈ cs, c ≠ ':' ∧ endsAuthority k c = false)
    (hslash : endsAuthority k '/' = true) (bracketed : Bool) :
    splitHost k bracketed (cs ++ '/' :: rest) = (cs, '/' :: rest) := by
  induction cs generalizing bracketed with
  | nil => rw [List.nil_append, splitHost, if_pos (by simp [hslash])]
  | cons c cs ih =>
    obtain ⟨hcolon, hends⟩ := h c List.mem_cons_self
    rw [List.cons_append, splitHost, if_neg (by simp [hcolon, hends])]
    dsimp only
    rw [ih fun d hd => h d (List.mem_cons_of_mem c hd)]

/-- A text without blanks that stay in a locator is not touched in front of a slash. -/
theorem cleanEnd_slash (h : ∀ c ∈ cs, c ≠ '\t' ∧ c ≠ '\n' ∧ c ≠ '\r') :
    cleanEnd (cs ++ ['/']) = cs ++ ['/'] := by
  have hkept : cs.filter (fun c => c != '\t' && c != '\n' && c != '\r') = cs := by
    rw [List.filter_eq_self]
    intro c hc
    obtain ⟨htab, hline, hreturn⟩ := h c hc
    simp [htab, hline, hreturn]
  have hend : (cs ++ ['/']).reverse.dropWhile isControlOrSpace = (cs ++ ['/']).reverse := by
    rw [List.reverse_append, List.reverse_singleton, List.singleton_append,
      List.dropWhile_cons_of_neg (by decide)]
  rw [cleanEnd, hend, List.reverse_reverse, List.filter_append, hkept]
  rfl

/-- The characters that are no part of the text of a host: those that end it and those that are
dropped. -/
def hostEnds : List Char := "/\\?#:@\t\n\r".toList

/-- The host of a web locator that is a text up to a slash is the one that the text spells. -/
theorem hostOf?_locator {scheme : String} (hscheme : scheme ∈ ["http", "https"])
    (hcs : ∀ c ∈ hostEnds, c ∉ cs) : hostOf? (webPrefix scheme ++ (cs ++ ['/'])) = webHost? cs := by
  have hne : ∀ c ∈ cs, ∀ d ∈ hostEnds, c ≠ d := fun c hc d hd heq => hcs d hd (heq ▸ hc)
  have hends : ∀ c ∈ cs, endsAuthority .web c = false := by
    intro c hc
    simp [endsAuthority, hne c hc '/' (by decide), hne c hc '?' (by decide),
      hne c hc '#' (by decide), hne c hc '\\' (by decide)]
  have hclean : cleanLocator (webPrefix scheme ++ (cs ++ ['/']))
      = webPrefix scheme ++ (cs ++ ['/']) := by
    rw [cleanLocator_append (visible_webPrefix hscheme) (by simp [webPrefix]),
      cleanEnd_slash fun c hc => ⟨hne c hc _ (by decide), hne c hc _ (by decide),
        hne c hc _ (by decide)⟩]
  have hat : '@' ∉ (cs ++ ['/']).takeWhile (!endsAuthority .web ·) := by
    intro hmem
    rcases List.mem_append.mp ((List.takeWhile_prefix _).subset hmem) with hmem | hmem
    · exact hcs '@' (by decide) hmem
    · exact absurd hmem (by decide)
  have hsplit : splitHost .web false (cs ++ ['/']) = (cs, ['/']) :=
    splitHost_of_not_ends (fun c hc => ⟨hne c hc ':' (by decide), hends c hc⟩) (by decide) false
  cases cs with
  | nil =>
    obtain rfl | rfl : scheme = "http" ∨ scheme = "https" := by simpa using hscheme
    all_goals decide +kernel
  | cons c cs =>
    rw [hostOf?_of_clean hscheme hclean (by
      rintro d ⟨⟩
      exact hends c List.mem_cons_self), authorityHost?, splitCredentials_of_not_mem hat]
    simp only [hsplit]
    have hspecial : SchemeKind.web.isSpecial = true := rfl
    rw [if_pos hspecial]
    -- Without credentials and with a slash behind it, every host is accepted.
    cases webHost? (c :: cs) with
    | none => rfl
    | some written =>
      cases written with
      | nil => rfl
      | cons d written => rfl

end Locators

end Intercept.Host
