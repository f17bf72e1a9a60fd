import Intercept.Host.Locator
import Intercept.Proofs.Host.Domain
import Intercept.Proofs.Text.Ends
import Intercept.Proofs.Text.Utf8

/-!
# Intercept.Proofs.Host.Locator -- which host a locator has

A web locator that spells a plain domain between two slashes and the next one has that host, and so
has one with credentials in front of it. A locator without an at sign in its authority has a host
that begins as the authority does.
-/

namespace Intercept.Host

open Intercept.Text.Utf8

variable {k : SchemeKind} {c d : Char} {cs front rest host : List Char}

/-! ## Hosts as they are spelled -/

theorem percentDecode_cons (hc : c ≠ '%') (cs : List Char) :
    percentDecode (c :: cs) = String.utf8EncodeChar c ++ percentDecode cs := by
  rw [percentDecode]
  rintro - - - rfl
  exact absurd rfl hc

theorem percentDecode_of_not_mem (h : '%' ∉ cs) : percentDecode cs = encode cs := by
  induction cs with
  | nil => rfl
  | cons c cs ih =>
    rw [List.mem_cons, not_or] at h
    rw [percentDecode_cons (Ne.symm h.1), ih h.2]
    rfl

theorem text?_encode (cs : List Char) : text? (encode cs) = some cs := by
  rw [text?, decode_encode, List.mapM_map]
  exact (mapM_of_pure fun c _ => rfl).trans (congrArg some (List.map_id cs))

/-- A character of ASCII in front of other bytes is the first one that they spell. -/
theorem text?_cons_ascii (hc : c.toNat < 0x80) {bytes : List UInt8}
    (h : text? (String.utf8EncodeChar c ++ bytes) = some cs) :
    ∃ rest, text? bytes = some rest ∧ cs = c :: rest := by
  have hsize : (String.utf8EncodeChar c).length = 1 := by
    rw [String.length_utf8EncodeChar]
    exact Char.utf8Size_eq_one_iff.mpr (UInt32.le_iff_toNat_le.mpr (Nat.le_of_lt_succ hc))
  have hdecode : decode (String.utf8EncodeChar c ++ bytes) = some c :: decode bytes := by
    rw [decode, List.length_append, hsize, Nat.add_comm, decodeFrom_utf8EncodeChar]
    rfl
  rw [text?, hdecode] at h
  obtain ⟨first, rest, hfirst, hrest, rfl⟩ := exists_of_mapM_cons h
  cases hfirst
  exact ⟨rest, hrest, rfl⟩

namespace PlainDomain

theorem not_mem (h : PlainDomain cs) (hc : isForbiddenInDomain c = true) : c ∉ cs :=
  fun hmem => Bool.false_ne_true ((h.allowed c hmem).symm.trans hc)

/-- A plain domain is the host that it spells, unless it ends in a number. -/
theorem webHost?_eq (h : PlainDomain cs) (hne : cs ≠ []) : webHost? cs =
    if endsInNumber cs then (lenientV4? cs).map fun bytes => (Address.v4 bytes).write
    else some cs := by
  rw [Host.webHost?]
  · have hempty : cs.isEmpty = false := by simpa using hne
    simp only [percentDecode_of_not_mem (h.not_mem (c := '%') (by decide)), text?_encode,
      h.toAscii, hempty, Option.bind_eq_bind, Option.bind_some, Bool.false_eq_true, if_false,
      Option.pure_def]
    rw [Option.map_eq_bind]
    rfl
  · rintro rest rfl
    exact h.not_mem (c := '[') (by decide) List.mem_cons_self

theorem webHost? (h : PlainDomain cs) (hne : cs ≠ []) (hname : endsInNumber cs = false) :
    webHost? cs = some cs := by
  rw [h.webHost?_eq hne, hname]
  rfl

end PlainDomain

/-- A four-byte address begins with a digit. -/
theorem head_write_v4 (byte : Nat) (bytes : List Nat) :
    ∃ f rest, (Address.v4 (byte :: bytes)).write = f :: rest ∧ f.isDigit = true := by
  obtain ⟨f, digits, hdigits⟩ :=
    List.exists_cons_of_ne_nil (Nat.toDigits_ne_nil (n := byte) (b := 10))
  have hf : f.isDigit = true := Nat.isDigit_of_mem_toDigits (b := 10) (n := byte) (by decide)
    (by decide) (hdigits ▸ List.mem_cons_self)
  obtain ⟨more, hjoin⟩ := Text.exists_join_cons ['.'] (Text.decimal byte) (bytes.map Text.decimal)
  exact ⟨f, digits ++ more, hjoin.trans (congrArg (· ++ more) hdigits), hf⟩

theorem lenientV4?_eq_some {bytes : List Nat} (h : lenientV4? cs = some bytes) :
    ∃ byte more, bytes = byte :: more := by
  rw [lenientV4?] at h
  dsimp only at h
  split at h
  · cases h
  · obtain ⟨numbers, -, h⟩ := Option.bind_eq_some_iff.mp h
    obtain ⟨last, -, h⟩ := Option.bind_eq_some_iff.mp h
    split at h
    · cases h
    · cases h
      exact ⟨_, _, rfl⟩

/-- The host that a text in ASCII, of which only the first two characters are known, spells: it
begins with the first one in small, with the mark of a label that is not in ASCII, or with a digit. -/
theorem head_webHost? (hc : c.toNat < 0x80) (hopen : c ≠ '[') (hdot : c.toLower ≠ '.')
    (hd : d.toNat < 0x80) (hpercent : c ≠ '%' ∧ d ≠ '%') (h : webHost? (c :: d :: cs) = some host) :
    ∃ f rest, host = f :: rest ∧ (f = c.toLower ∨ f = 'x' ∨ f.isDigit = true) := by
  rw [webHost?] at h
  · rw [percentDecode_cons hpercent.1, percentDecode_cons hpercent.2, Option.bind_eq_bind,
      Option.bind_eq_some_iff] at h
    obtain ⟨text, htext, h⟩ := h
    obtain ⟨_, hfollowing, rfl⟩ := text?_cons_ascii hc htext
    obtain ⟨_, -, rfl⟩ := text?_cons_ascii hd hfollowing
    obtain ⟨domain, hdomain, h⟩ := Option.bind_eq_some_iff.mp h
    obtain ⟨rest, hrest⟩ := head_domainToAscii? hc hdot hd hdomain
    dsimp only at h
    split at h
    · cases h
    · split at h
      · obtain ⟨bytes, hbytes, h⟩ := Option.bind_eq_some_iff.mp h
        cases h
        obtain ⟨byte, more, rfl⟩ := lenientV4?_eq_some hbytes
        obtain ⟨f, rest, heq, hf⟩ := head_write_v4 byte more
        exact ⟨f, rest, heq, .inr (.inr hf)⟩
      · cases h
        rcases hrest with rfl | rfl
        · exact ⟨_, rest, rfl, .inl rfl⟩
        · exact ⟨_, rest, rfl, .inr (.inl rfl)⟩
  · rintro rest heq
    exact hopen (List.cons.inj heq).1

/-! ## Locators as they are cleaned -/

/-- What is left of the end of a locator when it is cleaned. -/
def cleanEnd (cs : List Char) : List Char :=
  (cs.reverse.dropWhile isControlOrSpace).reverse.filter fun c => c != '\t' && c != '\n' && c != '\r'

/-- A text without controls and spaces; such a text is not touched when a locator is cleaned. -/
def Visible (cs : List Char) : Prop := ∀ c ∈ cs, isControlOrSpace c = false

instance (cs : List Char) : Decidable (Visible cs) :=
  List.decidableBAll (fun c => isControlOrSpace c = false) cs

theorem Visible.dropWhile (h : Visible cs) : cs.dropWhile isControlOrSpace = cs := by
  cases cs with
  | nil => rfl
  | cons c cs => rw [List.dropWhile_cons_of_neg (by simp [h c List.mem_cons_self])]

theorem cleanEnd_append (h : Visible front) (rest : List Char) :
    cleanEnd (front ++ rest) = front ++ cleanEnd rest := by
  have hkept : front.filter (fun c => c != '\t' && c != '\n' && c != '\r') = front := by
    rw [List.filter_eq_self]
    intro c hc
    have hvisible := h c hc
    simp only [Bool.and_eq_true, bne_iff_ne]
    refine ⟨⟨?_, ?_⟩, ?_⟩
    all_goals
      rintro rfl
      exact absurd hvisible (by decide)
  have hend : (front ++ rest).reverse.dropWhile isControlOrSpace
      = rest.reverse.dropWhile isControlOrSpace ++ front.reverse := by
    rw [List.reverse_append, List.dropWhile_append]
    split
    · next hempty =>
      rw [List.isEmpty_iff.mp hempty, List.nil_append]
      exact Visible.dropWhile fun c hc => h c (List.mem_reverse.mp hc)
    · rfl
  rw [cleanEnd, hend, List.reverse_append, List.reverse_reverse, List.filter_append, hkept, cleanEnd]

theorem cleanLocator_append (h : Visible front) (hne : front ≠ []) (rest : List Char) :
    cleanLocator (front ++ rest) = front ++ cleanEnd rest := by
  obtain ⟨c, front, rfl⟩ := List.exists_cons_of_ne_nil hne
  have hstart : (c :: front ++ rest).dropWhile isControlOrSpace = c :: front ++ rest :=
    List.dropWhile_cons_of_neg (by simp [h c List.mem_cons_self])
  rw [cleanLocator, hstart]
  exact cleanEnd_append h rest

theorem exists_cleanEnd (cs : List Char) : ∃ kept dropped, cs = kept ++ dropped
    ∧ cleanEnd cs = kept.filter fun c => c != '\t' && c != '\n' && c != '\r' := by
  refine ⟨_, (cs.reverse.takeWhile isControlOrSpace).reverse, ?_, rfl⟩
  rw [← List.reverse_append, List.takeWhile_append_dropWhile, List.reverse_reverse]

/-- Cleaning puts nothing into the authority. -/
theorem mem_authority_of_cleanEnd (h : c ∈ (cleanEnd cs).takeWhile (!endsAuthority k ·)) :
    c ∈ cs.takeWhile (!endsAuthority k ·) := by
  obtain ⟨kept, dropped, heq, hclean⟩ := exists_cleanEnd cs
  -- What is dropped from within a locator does not end an authority.
  have hwhile : (fun c => !(c != '\t' && c != '\n' && c != '\r') || !endsAuthority k c)
      = fun c => !endsAuthority k c := by
    funext c
    by_cases hc : c = '\t' ∨ c = '\n' ∨ c = '\r'
    · rcases hc with rfl | rfl | rfl <;> rfl
    · simp only [not_or] at hc
      simp [hc]
  rw [hclean, List.takeWhile_filter, hwhile] at h
  have hkept := (List.mem_filter.mp h).1
  rw [heq, List.takeWhile_append]
  split
  · exact List.mem_append_left _ ((List.takeWhile_prefix _).subset hkept)
  · exact hkept

/-! ## Authorities -/

theorem splitCredentials_of_not_mem (h : '@' ∉ cs.takeWhile (!endsAuthority k ·)) :
    splitCredentials k cs = (none, cs) := by
  rw [splitCredentials]
  exact if_neg (by simpa using h)

/-- What stands in front of the last at sign of an authority are credentials. -/
theorem splitCredentials_append {user : List Char} (huser : ∀ c ∈ user, endsAuthority k c = false)
    (hhost : ∀ c ∈ host, endsAuthority k c = false) (hat : '@' ∉ host)
    (hend : ∀ c, rest.head? = some c → endsAuthority k c = true) :
    splitCredentials k (user ++ '@' :: (host ++ rest)) = (some user, host ++ rest) := by
  have hrest : rest.takeWhile (!endsAuthority k ·) = [] := by
    cases rest with
    | nil => rfl
    | cons c rest => rw [List.takeWhile_cons_of_neg (by simp [hend c rfl])]
  have hfront : ∀ c ∈ user ++ '@' :: host, (!endsAuthority k c) = true := by
    intro c hc
    rw [Bool.not_eq_true']
    rcases List.mem_append.mp hc with hc | hc
    · exact huser c hc
    · rcases List.mem_cons.mp hc with rfl | hc
      · cases k <;> rfl
      · exact hhost c hc
  have hsplit : user ++ '@' :: (host ++ rest) = user ++ '@' :: host ++ rest := by simp
  have hauthority : (user ++ '@' :: (host ++ rest)).takeWhile (!endsAuthority k ·)
      = user ++ '@' :: host := by
    rw [hsplit, List.takeWhile_append_of_pos hfront, hrest, List.append_nil]
  have hlength : (user ++ '@' :: host).length - host.length = user.length + 1 := by
    rw [List.length_append, List.length_cons]
    omega
  rw [splitCredentials]
  simp only [hauthority, Text.afterLast_append hat, hlength]
  rw [if_pos (by simp)]
  simp

theorem splitHost_append (h : ∀ c ∈ front, c ≠ ':' ∧ c ≠ '[' ∧ endsAuthority k c = false)
    (rest : List Char) : splitHost k false (front ++ rest)
      = (front ++ (splitHost k false rest).1, (splitHost k false rest).2) := by
  induction front with
  | nil => rfl
  | cons c front ih =>
    obtain ⟨hcolon, hopen, hends⟩ := h c List.mem_cons_self
    rw [List.cons_append, splitHost]
    have hinside : (if c == '[' then true else if c == ']' then false else false) = false := by
      simp [hopen]
    rw [if_neg (by simp [hcolon, hends])]
    dsimp only
    rw [hinside, ih fun d hd => h d (List.mem_cons_of_mem c hd)]
    rfl

namespace PlainDomain

theorem ne_of_mem (h : PlainDomain cs) (hc : c ∈ cs) (hd : isForbiddenInDomain d = true) : c ≠ d :=
  fun heq => h.not_mem hd (heq ▸ hc)

theorem visible (h : PlainDomain cs) : Visible cs := by
  intro c hc
  have hallowed := h.allowed c hc
  rw [isForbiddenInDomain, Bool.or_eq_false_iff, Bool.or_eq_false_iff] at hallowed
  exact hallowed.1.1

theorem endsAuthority_eq_false (h : PlainDomain cs) (hc : c ∈ cs) : endsAuthority k c = false := by
  simp [endsAuthority, h.ne_of_mem hc (d := '/') (by decide), h.ne_of_mem hc (d := '?') (by decide),
    h.ne_of_mem hc (d := '#') (by decide), h.ne_of_mem hc (d := '\\') (by decide)]

theorem splitHost_append (h : PlainDomain front) (rest : List Char) :
    splitHost k false (front ++ rest)
      = (front ++ (splitHost k false rest).1, (splitHost k false rest).2) :=
  Host.splitHost_append (fun _ hc => ⟨h.ne_of_mem hc (by decide), h.ne_of_mem hc (by decide),
    h.endsAuthority_eq_false hc⟩) rest

/-- The host of an authority that names a plain domain, with credentials in front of it or not. -/
theorem authorityHost? (h : PlainDomain host) (hne : host ≠ [])
    (hname : endsInNumber host = false) {credentials : Option (List Char)}
    (hsplit : splitCredentials .web cs = (credentials, host ++ '/' :: rest)) :
    authorityHost? .web cs = some host := by
  have hafter : splitHost .web false ('/' :: rest) = ([], '/' :: rest) := rfl
  have hhost : splitHost .web false (host ++ '/' :: rest) = (host, '/' :: rest) := by
    rw [h.splitHost_append, hafter, List.append_nil]
  obtain ⟨c, cs', rfl⟩ := List.exists_cons_of_ne_nil hne
  have hfirst : endsAuthority .web c = false := h.endsAuthority_eq_false List.mem_cons_self
  rw [Host.authorityHost?]
  simp only [hsplit, hhost, h.webHost? hne hname]
  simp [hfirst, SchemeKind.isSpecial, portAllowed]

end PlainDomain

theorem authorityHost?_eq_some (h : authorityHost? .web cs = some host) :
    webHost? (splitHost .web false (splitCredentials .web cs).2).1 = some host := by
  rw [authorityHost?] at h
  dsimp only at h
  replace h := (Option.ite_none_left_eq_some.mp h).2
  rw [if_pos (by decide)] at h
  split at h
  · cases h
  · next hempty =>
    cases (Option.ite_none_left_eq_some.mp h).2
    exact hempty
  · next hsome =>
    cases (Option.ite_none_right_eq_some.mp h).2
    exact hsome

/-! ## Web locators -/

/-- A web locator in front of its authority. -/
def webPrefix (scheme : String) : List Char := scheme.toList ++ "://".toList

section Web

variable {scheme : String} (hscheme : scheme ∈ ["http", "https"])

include hscheme

theorem visible_webPrefix : Visible (webPrefix scheme) := by
  obtain rfl | rfl : scheme = "http" ∨ scheme = "https" := by simpa using hscheme
  all_goals decide

/-- The authority of a web locator is what follows the slashes of its beginning. -/
theorem hostOf?_of_clean (hclean : cleanLocator cs = webPrefix scheme ++ rest)
    (hends : ∀ c, rest.head? = some c → endsAuthority .web c = false) :
    hostOf? cs = authorityHost? .web rest := by
  have hsplit : splitScheme? (webPrefix scheme ++ rest) = some (scheme.toList, '/' :: '/' :: rest)
      ∧ SchemeKind.of scheme.toList = .web := by
    obtain rfl | rfl : scheme = "http" ∨ scheme = "https" := by simpa using hscheme
    all_goals exact ⟨rfl, rfl⟩
  have hslashes : ('/' :: '/' :: rest).dropWhile (fun c => c == '/' || c == '\\') = rest := by
    cases rest with
    | nil => rfl
    | cons c rest =>
      have hc := hends c rfl
      have hslash : (c == '/' || c == '\\') = false := by
        simp only [endsAuthority, SchemeKind.isSpecial, Bool.or_eq_false_iff] at hc ⊢
        exact ⟨hc.1.1.1, by simpa using hc.2⟩
      simp [hslash]
  rw [hostOf?, hclean, hsplit.1]
  dsimp only
  rw [hsplit.2]
  dsimp only
  rw [hslashes]

theorem hostOf?_web (hfront : Visible front) (hne : front ≠ [])
    (hends : ∀ c, front.head? = some c → endsAuthority .web c = false) (rest : List Char) :
    hostOf? (webPrefix scheme ++ (front ++ rest)) = authorityHost? .web (front ++ cleanEnd rest) := by
  have hclean : cleanLocator (webPrefix scheme ++ (front ++ rest))
      = webPrefix scheme ++ (front ++ cleanEnd rest) := by
    rw [← List.append_assoc, cleanLocator_append (fun c hc => (List.mem_append.mp hc).elim
      (visible_webPrefix hscheme c) (hfront c)) (by simp [hne]), List.append_assoc]
  refine hostOf?_of_clean hscheme hclean ?_
  obtain ⟨c, front, rfl⟩ := List.exists_cons_of_ne_nil hne
  exact hends

namespace PlainDomain

/-- A web locator that spells a plain domain up to a slash has it for its host. -/
theorem hostOf? (h : PlainDomain host) (hne : host ≠ []) (hname : endsInNumber host = false)
    (rest : List Char) : hostOf? (webPrefix scheme ++ (host ++ '/' :: rest)) = some host := by
  have hvisible : Visible ['/'] := by decide
  have hclean : cleanEnd ('/' :: rest) = '/' :: cleanEnd rest := cleanEnd_append hvisible rest
  rw [hostOf?_web hscheme h.visible hne
    (fun c hc => h.endsAuthority_eq_false (List.mem_of_mem_head? hc)), hclean]
  refine h.authorityHost? hne hname (splitCredentials_of_not_mem ?_)
  rw [List.takeWhile_append_of_pos fun c hc => by simp [h.endsAuthority_eq_false hc]]
  simpa [endsAuthority] using h.not_mem (c := '@') (by decide)

/-- Credentials in front of a plain domain do not change that. -/
theorem hostOf?_credentials (h : PlainDomain host) (hne : host ≠ [])
    (hname : endsInNumber host = false) {user : List Char} (huser : PlainDomain user)
    (huserNe : user ≠ []) (rest : List Char) :
    Host.hostOf? (webPrefix scheme ++ (user ++ '@' :: (host ++ '/' :: rest))) = some host := by
  have hvisible : Visible ('@' :: (host ++ ['/'])) := by
    intro c hc
    rcases List.mem_cons.mp hc with rfl | hc
    · decide
    · rcases List.mem_append.mp hc with hc | hc
      · exact h.visible c hc
      · rw [List.mem_singleton.mp hc]
        decide
  have hclean : cleanEnd ('@' :: (host ++ '/' :: rest)) = '@' :: (host ++ '/' :: cleanEnd rest) := by
    simpa using cleanEnd_append hvisible rest
  rw [hostOf?_web hscheme huser.visible huserNe
    (fun c hc => huser.endsAuthority_eq_false (List.mem_of_mem_head? hc)), hclean]
  refine h.authorityHost? hne hname (splitCredentials_append
    (fun c hc => huser.endsAuthority_eq_false hc) (fun c hc => h.endsAuthority_eq_false hc)
    (h.not_mem (by decide)) ?_)
  rintro c ⟨⟩
  rfl

/-- Without an at sign in its authority, a web locator whose authority begins with a plain domain
has a host that begins as this does, with the mark of a label that is not in ASCII, or with a digit.
-/
theorem head_hostOf? (h : PlainDomain (c :: d :: front)) (hdot : c ≠ '.')
    (hat : '@' ∉ rest.takeWhile (!endsAuthority .web ·))
    (hhost : Host.hostOf? (webPrefix scheme ++ (c :: d :: front ++ rest)) = some host) :
    ∃ f more, host = f :: more ∧ (f = c ∨ f = 'x' ∨ f.isDigit = true) := by
  have hnone : '@' ∉ (c :: d :: front ++ cleanEnd rest).takeWhile (!endsAuthority .web ·) := by
    rw [List.takeWhile_append_of_pos fun x hx => by simp [h.endsAuthority_eq_false hx],
      List.mem_append, not_or]
    exact ⟨h.not_mem (by decide), fun hmem => hat (mem_authority_of_cleanEnd hmem)⟩
  rw [hostOf?_web hscheme h.visible (List.cons_ne_nil _ _)
    (fun x hx => h.endsAuthority_eq_false (List.mem_of_mem_head? hx))] at hhost
  have hweb := authorityHost?_eq_some hhost
  rw [splitCredentials_of_not_mem hnone, h.splitHost_append, List.cons_append,
    List.cons_append] at hweb
  have hc : c ∈ c :: d :: front := List.mem_cons_self
  have hd : d ∈ c :: d :: front := List.mem_cons_of_mem c List.mem_cons_self
  have hsmall := h.small c hc
  obtain ⟨f, more, heq, hf⟩ := head_webHost? (h.ascii c hc) (h.ne_of_mem hc (by decide))
    (hsmall.symm ▸ hdot) (h.ascii d hd) ⟨h.ne_of_mem hc (by decide), h.ne_of_mem hd (by decide)⟩ hweb
  exact ⟨f, more, heq, hsmall ▸ hf⟩

end PlainDomain

end Web

end Intercept.Host
