import Intercept.Text.Utf8

/-!
# Intercept.Proofs.Text.Utf8 -- bytes of a text are its characters

A character is written as one to four bytes, and these are read as the character, whatever bytes
follow. The first byte tells how many there are; where it could also begin a longer spelling of a
lesser number, or half of a surrogate pair, the second byte rules that out.
-/

namespace Intercept.Text.Utf8

/-! ## First bytes -/

theorem shape?_one : ∀ n < 128, shape? (.ofNat n) = some (1, 0, 0) ∧ leadBits (.ofNat n) = n := by
  decide

theorem shape?_two : ∀ n < 32, 2 ≤ n →
    shape? (.ofNat (n + 192)) = some (2, 0x80, 0xbf) ∧ leadBits (.ofNat (n + 192)) = n := by
  decide

theorem shape?_three : ∀ n < 16, shape? (.ofNat (n + 224))
      = some (3, if n = 0 then 0xa0 else 0x80, if n = 13 then 0x9f else 0xbf)
    ∧ leadBits (.ofNat (n + 224)) = n := by
  decide

theorem shape?_four : ∀ n < 5, shape? (.ofNat (n + 240))
      = some (4, if n = 0 then 0x90 else 0x80, if n = 4 then 0x8f else 0xbf)
    ∧ leadBits (.ofNat (n + 240)) = n := by
  decide

/-! ## Bytes that continue -/

/-- A byte in the range that is asked for adds its six bits. -/
theorem continueWith_cons {n : Nat} (hn : n < 64) {low high : UInt8} (hlow : low.toNat ≤ n + 128)
    (hhigh : n + 128 ≤ high.toNat) (acc more : Nat) (bs : List UInt8) :
    continueWith acc low high (more + 1) (.ofNat (n + 128) :: bs)
      = continueWith (acc * 64 + n) 0x80 0xbf more bs := by
  have hbyte : (UInt8.ofNat (n + 128)).toNat = n + 128 := by
    apply UInt8.toNat_ofNat_of_lt'
    show n + 128 < 256
    omega
  have hrange : (low ≤ .ofNat (n + 128) && .ofNat (n + 128) ≤ high) = true := by
    rw [Bool.and_eq_true, decide_eq_true_eq, decide_eq_true_eq, UInt8.le_iff_toNat_le,
      UInt8.le_iff_toNat_le, hbyte]
    exact ⟨hlow, hhigh⟩
  have hbits : (n + 128) % 64 = n := by omega
  rw [continueWith, if_pos hrange, hbyte, hbits]

theorem continueWith_any {n : Nat} (hn : n < 64) (acc more : Nat) (bs : List UInt8) :
    continueWith acc 0x80 0xbf (more + 1) (.ofNat (n + 128) :: bs)
      = continueWith (acc * 64 + n) 0x80 0xbf more bs := by
  apply continueWith_cons hn
  · show 128 ≤ n + 128
    omega
  · show n + 128 ≤ 191
    omega

/-! ## Characters -/

/-- A first byte and the bytes that continue it are read as one character. -/
theorem decodeFrom_cons {b low high : UInt8} {size n : Nat} {bs rest : List UInt8}
    (hshape : shape? b = some (size, low, high))
    (hmore : continueWith (leadBits b) low high (size - 1) bs = (n, 0, rest)) (fuel : Nat) :
    decodeFrom (fuel + 1) (b :: bs) = some (Char.ofNat n) :: decodeFrom fuel rest := by
  rw [decodeFrom, hshape]
  simp only [hmore]

variable {v : Nat} (fuel : Nat) (rest : List UInt8)

theorem decodeFrom_one (h : v ≤ 127) : decodeFrom (fuel + 1) (.ofNat v :: rest)
    = some (Char.ofNat v) :: decodeFrom fuel rest := by
  obtain ⟨hshape, hlead⟩ := shape?_one v (by omega)
  apply decodeFrom_cons hshape
  rw [hlead, continueWith]

theorem decodeFrom_two (hlow : 128 ≤ v) (hhigh : v ≤ 2047) :
    decodeFrom (fuel + 1) (.ofNat (v / 64 % 32 + 192) :: .ofNat (v % 64 + 128) :: rest)
      = some (Char.ofNat v) :: decodeFrom fuel rest := by
  have hlast : v % 64 < 64 := Nat.mod_lt v (by decide)
  have hvalue : v / 64 % 32 * 64 + v % 64 = v := by omega
  obtain ⟨hshape, hlead⟩ := shape?_two (v / 64 % 32) (by omega) (by omega)
  apply decodeFrom_cons hshape
  rw [hlead, continueWith_any hlast, hvalue, continueWith]

/-- The second byte tells numbers of three bytes from shorter ones and from surrogates. -/
theorem decodeFrom_three (hlow : 2048 ≤ v) (hhigh : v ≤ 65535) (hvalid : v < 0xd800 ∨ 0xdfff < v) :
    decodeFrom (fuel + 1) (.ofNat (v / 4096 % 16 + 224) :: .ofNat (v / 64 % 64 + 128)
        :: .ofNat (v % 64 + 128) :: rest)
      = some (Char.ofNat v) :: decodeFrom fuel rest := by
  have hlast : v % 64 < 64 := Nat.mod_lt v (by decide)
  have hsecond : v / 64 % 64 < 64 := Nat.mod_lt _ (by decide)
  have hvalue : (v / 4096 % 16 * 64 + v / 64 % 64) * 64 + v % 64 = v := by omega
  obtain ⟨hshape, hlead⟩ := shape?_three (v / 4096 % 16) (by omega)
  apply decodeFrom_cons hshape
  rw [hlead, continueWith_cons hsecond, continueWith_any hlast, hvalue, continueWith]
  case hlow =>
    split
    · show 160 ≤ v / 64 % 64 + 128
      omega
    · show 128 ≤ v / 64 % 64 + 128
      omega
  case hhigh =>
    split
    · show v / 64 % 64 + 128 ≤ 159
      omega
    · show v / 64 % 64 + 128 ≤ 191
      omega

/-- The second byte tells numbers of four bytes from shorter ones and from those that are too large
for a character. -/
theorem decodeFrom_four (hlow : 65536 ≤ v) (hhigh : v < 0x110000) :
    decodeFrom (fuel + 1) (.ofNat (v / 262144 % 8 + 240) :: .ofNat (v / 4096 % 64 + 128)
        :: .ofNat (v / 64 % 64 + 128) :: .ofNat (v % 64 + 128) :: rest)
      = some (Char.ofNat v) :: decodeFrom fuel rest := by
  have hlast : v % 64 < 64 := Nat.mod_lt v (by decide)
  have hthird : v / 64 % 64 < 64 := Nat.mod_lt _ (by decide)
  have hsecond : v / 4096 % 64 < 64 := Nat.mod_lt _ (by decide)
  have hvalue : ((v / 262144 % 8 * 64 + v / 4096 % 64) * 64 + v / 64 % 64) * 64 + v % 64 = v := by
    omega
  obtain ⟨hshape, hlead⟩ := shape?_four (v / 262144 % 8) (by omega)
  apply decodeFrom_cons hshape
  rw [hlead, continueWith_cons hsecond, continueWith_any hthird, continueWith_any hlast, hvalue,
    continueWith]
  case hlow =>
    split
    · show 144 ≤ v / 4096 % 64 + 128
      omega
    · show 128 ≤ v / 4096 % 64 + 128
      omega
  case hhigh =>
    split
    · show v / 4096 % 64 + 128 ≤ 143
      omega
    · show v / 4096 % 64 + 128 ≤ 191
      omega

/-- The bytes of a character are read as the character. -/
theorem decodeFrom_utf8EncodeChar (c : Char) :
    decodeFrom (fuel + 1) (String.utf8EncodeChar c ++ rest) = some c :: decodeFrom fuel rest := by
  have hvalid : c.toNat < 0xd800 ∨ 0xdfff < c.toNat ∧ c.toNat < 0x110000 := c.valid
  have hchar : Char.ofNat c.toNat = c := c.ofNat_toNat
  have hvalue : c.val.toNat = c.toNat := rfl
  rw [String.utf8EncodeChar, hvalue]
  generalize c.toNat = v at hvalid hchar
  subst hchar
  split
  · next hone => exact decodeFrom_one fuel rest hone
  · split
    · next htwo => exact decodeFrom_two fuel rest (by omega) htwo
    · split
      · next hthree => exact decodeFrom_three fuel rest (by omega) hthree (by omega)
      · next hfour => exact decodeFrom_four fuel rest (by omega) (by omega)

/-! ## Texts -/

theorem length_le_encode (cs : List Char) : cs.length ≤ (encode cs).length := by
  induction cs with
  | nil => exact Nat.le_refl 0
  | cons c cs ih =>
    have hpos : 0 < (String.utf8EncodeChar c).length := by
      rw [String.length_utf8EncodeChar]
      exact c.utf8Size_pos
    have hcons : encode (c :: cs) = String.utf8EncodeChar c ++ encode cs := rfl
    rw [hcons, List.length_append, List.length_cons]
    omega

/-- The bytes of a text spell the text. -/
theorem decode_encode (cs : List Char) : decode (encode cs) = cs.map some := by
  have hfrom : ∀ fuel, cs.length ≤ fuel → decodeFrom fuel (encode cs) = cs.map some := by
    induction cs with
    | nil =>
      intro fuel _
      cases fuel <;> rfl
    | cons c cs ih =>
      intro fuel hfuel
      cases fuel with
      | zero => simp at hfuel
      | succ fuel =>
        rw [List.length_cons] at hfuel
        have hcons : encode (c :: cs) = String.utf8EncodeChar c ++ encode cs := rfl
        rw [hcons, decodeFrom_utf8EncodeChar, ih fuel (by omega), List.map_cons]
  exact hfrom _ (length_le_encode cs)

end Intercept.Text.Utf8
