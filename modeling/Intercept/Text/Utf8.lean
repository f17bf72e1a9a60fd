/-!
# Intercept.Text.Utf8 -- bytes as characters

Bytes that arrive from outside need not be text. `decode` reads as many characters as there are and
marks each stretch of bytes that belongs to none.
-/

namespace Intercept.Text.Utf8

/-- The number of bytes of the character that a byte begins, and the range in which the second byte
must lie; nothing if the byte begins no character. -/
def shape? (b : UInt8) : Option (Nat × UInt8 × UInt8) :=
  if b < 0x80 then some (1, 0, 0)
  else if b < 0xc2 then none
  else if b < 0xe0 then some (2, 0x80, 0xbf)
  else if b == 0xe0 then some (3, 0xa0, 0xbf)
  else if b == 0xed then some (3, 0x80, 0x9f)
  else if b < 0xf0 then some (3, 0x80, 0xbf)
  else if b == 0xf0 then some (4, 0x90, 0xbf)
  else if b < 0xf4 then some (4, 0x80, 0xbf)
  else if b == 0xf4 then some (4, 0x80, 0x8f)
  else none

/-- The value of a first byte without the bits that give the length. -/
def leadBits (b : UInt8) : Nat :=
  if b < 0x80 then b.toNat
  else if b < 0xe0 then b.toNat % 0x20
  else if b < 0xf0 then b.toNat % 0x10
  else b.toNat % 0x08

/-- Reads up to `more` continuation bytes, the first of them within the given range: the value, how
many were missing, and the rest. -/
def continueWith (acc : Nat) (low high : UInt8) : Nat → List UInt8 → Nat × Nat × List UInt8
  | 0, bs => (acc, 0, bs)
  | more + 1, [] => (acc, more + 1, [])
  | more + 1, b :: bs =>
    if low ≤ b && b ≤ high then continueWith (acc * 64 + b.toNat % 64) 0x80 0xbf more bs
    else (acc, more + 1, b :: bs)

/-- The characters of a sequence of bytes, with `none` for each longest stretch that cannot begin
or continue one. The fuel bounds the number of characters. -/
def decodeFrom : Nat → List UInt8 → List (Option Char)
  | 0, _ => []
  | _ + 1, [] => []
  | fuel + 1, b :: bs =>
    match shape? b with
    | none => none :: decodeFrom fuel bs
    | some (size, low, high) =>
      match continueWith (leadBits b) low high (size - 1) bs with
      | (n, 0, rest) => some (Char.ofNat n) :: decodeFrom fuel rest
      | (_, _, rest) => none :: decodeFrom fuel rest

/-- The characters of a sequence of bytes, with `none` where there is none. -/
def decode (bytes : List UInt8) : List (Option Char) :=
  decodeFrom bytes.length bytes

/-- The text that bytes spell, if they spell one. -/
def text? (bytes : List UInt8) : Option (List Char) :=
  (decode bytes).mapM id

/-- The text that bytes spell, with U+FFFD where they spell none. -/
def textLossy (bytes : List UInt8) : List Char :=
  (decode bytes).map (Option.getD · (Char.ofNat 0xfffd))

/-- The bytes of a text. -/
def encode (cs : List Char) : List UInt8 :=
  cs.flatMap String.utf8EncodeChar

end Intercept.Text.Utf8
