import Intercept.Text.Basic

/-!
# Intercept.Host.Address -- network addresses

An address is four bytes or eight groups of sixteen bits. Two kinds of spelling are read: the strict
one of configuration files, where a number has no needless zero, and the lenient one of locators,
where the parts of a four-byte address may be hexadecimal or octal and may be left out.
-/

namespace Intercept.Host

/-- A network address, by the numbers of its parts. -/
inductive Address
  | v4 (bytes : List Nat)
  | v6 (groups : List Nat)
deriving Repr, DecidableEq

/-! ## Numbers -/

/-- The value of a digit of either case, if it is below the radix. -/
def digitBelow? (radix : Nat) (c : Char) : Option Nat :=
  (Text.hexDigit? c).filter (· < radix)

/-- A number in front of other text: how many digits it has, its value, and the rest. -/
def leadingNumber (radix count acc : Nat) : List Char → Nat × Nat × List Char
  | [] => (count, acc, [])
  | c :: rest =>
    match digitBelow? radix c with
    | some d => leadingNumber radix (count + 1) (acc * radix + d) rest
    | none => (count, acc, c :: rest)

/-! ## Strict spelling -/

/-- A byte in decimal digits without a needless zero. -/
def strictByte? (cs : List Char) : Option (Nat × List Char) :=
  match leadingNumber 10 0 0 cs with
  | (count, n, rest) =>
    if count = 0 ∨ 3 < count ∨ 255 < n ∨ (1 < count ∧ cs.head? = some '0') then none
    else some (n, rest)

/-- Four bytes with points between them. -/
def strictV4? (cs : List Char) : Option (List Nat × List Char) := do
  let (a, cs) ← strictByte? cs
  let (b, cs) ← strictByte? (← Text.after? ['.'] cs)
  let (c, cs) ← strictByte? (← Text.after? ['.'] cs)
  let (d, cs) ← strictByte? (← Text.after? ['.'] cs)
  return ([a, b, c, d], cs)

/-- A group of up to four hexadecimal digits. -/
def strictGroup? (cs : List Char) : Option (Nat × List Char) :=
  match leadingNumber 16 0 0 cs with
  | (count, n, rest) => if count = 0 ∨ 4 < count then none else some (n, rest)

/-- What `read` reads, behind a colon unless it is the first one. -/
def afterColon? {α : Type} (first : Bool) (read : List Char → Option α) (cs : List Char) :
    Option α :=
  if first then read cs else (Text.after? [':'] cs).bind read

/-- Up to `room` groups with colons between them, the last two of which may be spelt as four bytes:
the groups, whether they ended in four bytes, and the rest. -/
def strictGroups (first : Bool) : Nat → List Char → List Nat × Bool × List Char
  | 0, cs => ([], false, cs)
  | room + 1, cs =>
    let v4 := if room = 0 then none else afterColon? first strictV4? cs
    match v4 with
    | some ([a, b, c, d], rest) => ([a * 256 + b, c * 256 + d], true, rest)
    | _ =>
      match afterColon? first strictGroup? cs with
      | some (g, rest) =>
        let (gs, v4, rest) := strictGroups false room rest
        (g :: gs, v4, rest)
      | none => ([], false, cs)

/-- Eight groups, or fewer with one pair of colons for the zeros left out. -/
def strictV6? (cs : List Char) : Option (List Nat × List Char) :=
  let (front, v4, rest) := strictGroups true 8 cs
  if front.length = 8 then some (front, rest)
  else if v4 then none
  else
    match Text.after? [':', ':'] rest with
    | none => none
    | some rest =>
      let (back, _, rest) := strictGroups true (7 - front.length) rest
      some (front ++ List.replicate (8 - front.length - back.length) 0 ++ back, rest)

/-- The address that a text spells strictly. -/
def Address.parse? (cs : List Char) : Option Address :=
  match strictV4? cs with
  | some (bytes, rest) => if rest.isEmpty then some (.v4 bytes) else none
  | none =>
    match strictV6? cs with
    | some (groups, rest) => if rest.isEmpty then some (.v6 groups) else none
    | none => none

/-- The bytes of an address. -/
def Address.bytes : Address → List Nat
  | .v4 bytes => bytes
  | .v6 groups => groups.flatMap fun g => [g / 256, g % 256]

/-- The largest port. -/
def lastPort : Nat := 65535

/-- A port number: decimal digits, zeros allowed in front. -/
def port? (cs : List Char) : Option (Nat × List Char) :=
  match leadingNumber 10 0 0 cs with
  | (count, n, rest) => if count = 0 ∨ lastPort < n then none else some (n, rest)

/-- A scope number behind a percent sign, if there is one. -/
def dropScope? (cs : List Char) : Option (List Char) :=
  match cs with
  | '%' :: rest =>
    match leadingNumber 10 0 0 rest with
    | (count, n, rest) => if count = 0 ∨ 0x100000000 ≤ n then none else some rest
  | cs => some cs

/-- Whether a text spells an address with a port: four bytes or eight groups in brackets, a colon
and a port. -/
def isSocketAddress (cs : List Char) : Bool :=
  let v4 := do
    let (_, rest) ← strictV4? cs
    let (_, rest) ← port? (← Text.after? [':'] rest)
    return rest.isEmpty
  let v6 := do
    let (_, rest) ← strictV6? (← Text.after? ['['] cs)
    let rest ← dropScope? rest
    let (_, rest) ← port? (← Text.after? [']', ':'] rest)
    return rest.isEmpty
  v4.getD (v6.getD false)

/-! ## Lenient spelling -/

/-- The value of one part of a lenient address: hexadecimal behind `0x`, octal behind `0`, otherwise
decimal. The outer option says whether it is a number, the inner one whether it is below 2^32. -/
def lenientPart? (cs : List Char) : Option (Option Nat) :=
  let number := fun (radix : Nat) (digits : List Char) =>
    match leadingNumber radix 0 0 digits with
    | (_, n, []) => some (if n < 0x100000000 then some n else none)
    | _ => none
  match cs with
  | [] => none
  | '0' :: 'x' :: rest => number 16 rest
  | '0' :: 'X' :: rest => number 16 rest
  | '0' :: c :: rest => number 8 (c :: rest)
  | cs => number 10 cs

/-- The parts between the points of a host, without an empty last one. -/
def hostParts (cs : List Char) : List (List Char) :=
  let parts := Text.splitOn '.' cs
  if parts.getLast? = some [] ∧ parts.length ≠ 1 then parts.dropLast else parts

/-- Whether a host must be a four-byte address, because its last part is a number. -/
def endsInNumber (cs : List Char) : Bool :=
  match (hostParts cs).getLast? with
  | none => false
  | some last =>
    (!last.isEmpty && last.all Char.isDigit) || (lenientPart? last).isSome

/-- The four bytes of a number below 2^32. -/
def bytesOfNumber (n : Nat) : List Nat :=
  [n / 0x1000000 % 256, n / 0x10000 % 256, n / 0x100 % 256, n % 256]

/-- The four bytes that a host spells leniently. All parts but the last are bytes; the last one
fills the bytes that are left. -/
def lenientV4? (cs : List Char) : Option (List Nat) := do
  let parts := hostParts cs
  if 4 < parts.length then none
  let numbers ← parts.mapM fun p => (lenientPart? p).join
  let last ← numbers.getLast?
  let front := numbers.dropLast
  if Nat.pow 256 (4 - front.length) ≤ last ∨ front.any (255 < ·) then none
  let high := front.foldl (fun acc b => acc * 256 + b) 0
  return bytesOfNumber (high * Nat.pow 256 (4 - front.length) + last)

/-- Four bytes at the end of the groups of a lenient address. -/
def trailingV4? (cs : List Char) : Option (List Nat) :=
  match strictV4? cs with
  | some ([a, b, c, d], []) => some [a * 256 + b, c * 256 + d]
  | _ => none

/-- The groups of a lenient address: those `seen` so far, where the zeros were left out, and the
rest of the text. The fuel bounds the number of steps. -/
def lenientGroups? : Nat → List Nat → Option Nat → List Char → Option (List Nat)
  | 0, _, _, _ => none
  | _ + 1, seen, gap, [] =>
    match gap with
    | none => if seen.length = 8 then some seen else none
    | some at_ => some (seen.take at_ ++ List.replicate (8 - seen.length) 0 ++ seen.drop at_)
  | fuel + 1, seen, gap, c :: rest =>
    let used := seen.length + (if gap.isSome then 1 else 0)
    if used = 8 then none
    else if c = ':' then
      if gap.isSome then none else lenientGroups? fuel seen (some seen.length) rest
    else
      let digits := ((c :: rest).takeWhile fun d => (digitBelow? 16 d).isSome).take 4
      let (_, value, _) := leadingNumber 16 0 0 digits
      match (c :: rest).drop digits.length with
      | [] => lenientGroups? fuel (seen ++ [value]) gap []
      | '.' :: _ =>
        if digits.isEmpty ∨ 6 < used then none
        else
          match trailingV4? (c :: rest) with
          | some two => lenientGroups? fuel (seen ++ two) gap []
          | none => none
      | ':' :: more =>
        if more.isEmpty then none else lenientGroups? fuel (seen ++ [value]) gap more
      | _ => none

/-- The eight groups that stand between the brackets of a host. -/
def lenientV6? (cs : List Char) : Option (List Nat) :=
  match cs with
  | [] => none
  | [_] => none
  | ':' :: ':' :: rest => lenientGroups? (rest.length + 2) [] (some 0) rest
  | ':' :: _ => none
  | cs => lenientGroups? (cs.length + 2) [] none cs

/-! ## Writing -/

/-- The longest run of at least two zeros, the first of several: where it begins and its length. -/
def longestZeros (groups : List Nat) : Option (Nat × Nat) :=
  let runAt := fun (i : Nat) => ((groups.drop i).takeWhile (· == 0)).length
  (List.range groups.length).foldl (fun best i =>
    let n := runAt i
    match best with
    | none => if 2 ≤ n then some (i, n) else none
    | some (j, m) => if m < n then some (i, n) else some (j, m)) none

/-- Groups in hexadecimal with colons between them. -/
def writeGroups (groups : List Nat) : List Char :=
  Text.join [':'] (groups.map Text.hex)

/-- An address in its shortest spelling; groups stand between brackets. -/
def Address.write : Address → List Char
  | .v4 bytes => Text.join ['.'] (bytes.map Text.decimal)
  | .v6 groups =>
    match longestZeros groups with
    | none => '[' :: (writeGroups groups ++ [']'])
    | some (i, n) =>
      '[' :: (writeGroups (groups.take i) ++ [':', ':']
        ++ writeGroups (groups.drop (i + n)) ++ [']'])

end Intercept.Host
