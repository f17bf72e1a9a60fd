import Intercept.Text.Basic

/-!
# Intercept.Host.Punycode -- labels in ASCII

A label with characters outside ASCII is written in ASCII by putting its ASCII characters first and
then, for each other character in ascending order, how far to go from the last insertion to the
next. The distances are numbers of variable length whose digits are letters and digits.
-/

namespace Intercept.Host.Punycode

def base : Nat := 36
def tmin : Nat := 1
def tmax : Nat := 26
def skew : Nat := 38
def damp : Nat := 700
def initialBias : Nat := 72
def initialCode : Nat := 128

/-- Numbers that reach this bound are refused. -/
def overflow : Nat := 0x100000000

/-- The bias after a distance, from the distance, the number of characters and whether it was the
first one. The fuel bounds the number of divisions. -/
def adapt (delta count : Nat) (first : Bool) : Nat :=
  let rec shrink (fuel k delta : Nat) : Nat × Nat :=
    match fuel with
    | 0 => (k, delta)
    | fuel + 1 =>
      if delta > (base - tmin) * tmax / 2 then shrink fuel (k + base) (delta / (base - tmin))
      else (k, delta)
  let delta := if first then delta / damp else delta / 2
  let (k, delta) := shrink 32 0 (delta + delta / count)
  k + (base - tmin + 1) * delta / (delta + skew)

/-- How large the digit at a place may be before the number goes on. -/
def threshold (k bias : Nat) : Nat :=
  if k ≤ bias then tmin else if bias + tmax ≤ k then tmax else k - bias

/-- The digit of a value below 36. -/
def digitChar (d : Nat) : Char :=
  if d < 26 then Char.ofNat ('a'.toNat + d) else Char.ofNat ('0'.toNat + (d - 26))

/-- The value of a digit. -/
def digitValue? (c : Char) : Option Nat :=
  if c.isLower then some (c.toNat - 'a'.toNat)
  else if c.isUpper then some (c.toNat - 'A'.toNat)
  else if c.isDigit then some (c.toNat - '0'.toNat + 26)
  else none

/-! ## Writing -/

/-- A distance as digits. The fuel bounds their number. -/
def writeNumber (bias : Nat) : Nat → Nat → Nat → List Char
  | 0, _, _ => []
  | fuel + 1, k, q =>
    let t := threshold k bias
    if q < t then [digitChar q]
    else
      digitChar (t + (q - t) % (base - t))
        :: writeNumber bias fuel (k + base) ((q - t) / (base - t))

/-- The state of writing: the distance so far, the bias, how many characters are written, and what
has been written, reversed. -/
structure Writer where
  delta : Nat
  bias : Nat
  done : Nat
  out : List Char

/-- Writes all occurrences of the character with code `n`. -/
def writeCode (basic n : Nat) (w : Writer) : List Nat → Writer
  | [] => w
  | m :: rest =>
    let w :=
      if m < n then { w with delta := w.delta + 1 }
      else if m = n then
        { delta := 0
          bias := adapt w.delta (w.done + 1) (w.done == basic)
          done := w.done + 1
          out := (writeNumber w.bias 64 base w.delta).reverse ++ w.out }
      else w
    writeCode basic n w rest

/-- Writes the characters outside ASCII, whose codes are given ascending and without repetition;
`code` is the next code to come. -/
def writeCodes (basic : Nat) (ms : List Nat) (code : Nat) (w : Writer) : List Nat → Writer
  | [] => w
  | n :: ns =>
    let w := { w with delta := w.delta + (n - code) * (w.done + 1) }
    let w := writeCode basic n w ms
    writeCodes basic ms (n + 1) { w with delta := w.delta + 1 } ns

/-- The ASCII form of a label, without the mark in front of it. -/
def encode (cs : List Char) : List Char :=
  let basic := cs.filter (·.toNat < 0x80)
  let ms := cs.map Char.toNat
  let codes := ((ms.filter (0x80 ≤ ·)).mergeSort (· ≤ ·)).eraseDups
  let start : Writer :=
    { delta := 0, bias := initialBias, done := basic.length
      out := if basic.isEmpty then [] else '-' :: basic.reverse }
  (writeCodes basic.length ms initialCode start codes).out.reverse

/-! ## Reading -/

/-- A distance: what is added to `i`, and the rest. The fuel bounds the number of digits. -/
def readNumber? (bias : Nat) : Nat → Nat → Nat → Nat → List Char → Option (Nat × List Char)
  | 0, _, _, _, _ => none
  | _ + 1, _, _, _, [] => none
  | fuel + 1, k, w, i, c :: rest => do
    let d ← digitValue? c
    let i := i + d * w
    if overflow ≤ i then none
    let t := threshold k bias
    if d < t then return (i, rest)
    let w := w * (base - t)
    if overflow ≤ w then none
    readNumber? bias fuel (k + base) w i rest

/-- Reads distances and inserts the characters that they stand for. The fuel bounds their number. -/
def readCodes? : Nat → Nat → Nat → Nat → List Char → List Char → Option (List Char)
  | 0, _, _, _, _, _ => none
  | _ + 1, _, _, _, out, [] => some out
  | fuel + 1, n, i, bias, out, cs => do
    let (j, rest) ← readNumber? bias (cs.length + 1) base 1 i cs
    let count := out.length + 1
    let n := n + j / count
    if 0x110000 ≤ n ∨ (0xd800 ≤ n ∧ n < 0xe000) then none
    let at_ := j % count
    let out := out.take at_ ++ Char.ofNat n :: out.drop at_
    readCodes? fuel n (at_ + 1) (adapt (j - i) count (i == 0)) out rest

/-- The label that an ASCII form stands for. What stands before the last dash is copied. -/
def decode? (cs : List Char) : Option (List Char) :=
  let parts := Text.splitOn '-' cs
  let basic := Text.join ['-'] parts.dropLast
  let rest := parts.getLastD []
  if basic.any (0x80 ≤ ·.toNat) then none
  else if basic.isEmpty && 1 < parts.length then none
  else readCodes? (rest.length + 1) initialCode 0 initialBias basic rest

end Intercept.Host.Punycode
