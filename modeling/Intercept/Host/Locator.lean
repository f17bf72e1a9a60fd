import Intercept.Host.Address
import Intercept.Host.Domain
import Intercept.Text.Utf8

/-!
# Intercept.Host.Locator -- the host of a locator

A locator names a scheme, and behind two slashes an authority: perhaps a user with a password, a
host, perhaps a port. Browsers are lenient about all of it, and so is this reading: blanks around
the locator and line breaks within it are dropped, and for the well-known schemes any number of
slashes of either kind will do. `hostOf?` answers what the host is, empty if there is none, and
nothing where the text is no locator at all.
-/

namespace Intercept.Host

/-! ## Schemes -/

/-- How a scheme treats what follows it. -/
inductive SchemeKind
  | web
  | file
  | other
deriving Repr, DecidableEq

def SchemeKind.of (scheme : List Char) : SchemeKind :=
  match String.ofList scheme with
  | "http" | "https" | "ws" | "wss" | "ftp" => .web
  | "file" => .file
  | _ => .other

/-- Whether a backslash counts as a slash. -/
def SchemeKind.isSpecial (k : SchemeKind) : Bool :=
  k != .other

/-- The scheme up to the first colon, in small letters, and what follows. -/
def splitScheme? (cs : List Char) : Option (List Char × List Char) :=
  match Text.splitOnce? ':' cs with
  | none => none
  | some (scheme, rest) =>
    match scheme with
    | [] => none
    | c :: _ =>
      if c.isAlpha && scheme.all (fun d => d.isAlphanum || d == '+' || d == '-' || d == '.') then
        some (Text.asciiLower scheme, rest)
      else none

/-! ## Hosts -/

/-- The bytes of a text in which `%41` stands for the byte 0x41. -/
def percentDecode : List Char → List UInt8
  | '%' :: a :: b :: rest =>
    match Text.hexDigit? a, Text.hexDigit? b with
    | some x, some y => (x * 16 + y).toUInt8 :: percentDecode rest
    | _, _ => '%'.toUInt8 :: percentDecode (a :: b :: rest)
  | c :: rest => String.utf8EncodeChar c ++ percentDecode rest
  | [] => []

/-- A byte as `%` and two hexadecimal digits. -/
def percentByte (b : UInt8) : List Char :=
  ['%', (Nat.digitChar (b.toNat / 16)).toUpper, (Nat.digitChar (b.toNat % 16)).toUpper]

/-- Characters that may not stand in the host of a scheme that is not well known. -/
def isForbiddenInHost (c : Char) : Bool :=
  c == '\x00' || "\t\n\r #/:<>?@[\\]^|".toList.contains c

/-- The host of a scheme that is not well known: an address in brackets, or any text, in which
controls and everything outside ASCII are written as bytes. -/
def opaqueHost? (cs : List Char) : Option (List Char) :=
  match cs with
  | '[' :: rest => do
    let inner ← Text.before? [']'] rest
    return (Address.v6 (← lenientV6? inner)).write
  | cs =>
    if cs.any isForbiddenInHost then none
    else some (cs.flatMap fun c =>
      if c.toNat < 0x20 || 0x7f ≤ c.toNat then (String.utf8EncodeChar c).flatMap percentByte
      else [c])

/-- The host of a well-known scheme: an address in brackets, a four-byte address, or a domain. -/
def webHost? (cs : List Char) : Option (List Char) :=
  match cs with
  | '[' :: rest => do
    let inner ← Text.before? [']'] rest
    return (Address.v6 (← lenientV6? inner)).write
  | cs => do
    let domain ← domainToAscii? (← Text.Utf8.text? (percentDecode cs))
    if domain.isEmpty then none
    if endsInNumber domain then return (Address.v4 (← lenientV4? domain)).write
    return domain

/-! ## Authorities -/

/-- Whether a character ends the authority. -/
def endsAuthority (k : SchemeKind) (c : Char) : Bool :=
  c == '/' || c == '?' || c == '#' || (c == '\\' && k.isSpecial)

/-- Splits an authority at its last at sign: the credentials, if there are any, and the rest. -/
def splitCredentials (k : SchemeKind) (cs : List Char) : Option (List Char) × List Char :=
  let authority := cs.takeWhile (!endsAuthority k ·)
  if authority.contains '@' then
    let host := Text.afterLast '@' authority
    let count := authority.length - host.length
    (some (authority.take (count - 1)), cs.drop count)
  else (none, cs)

/-- Whether credentials name a user or a password. -/
def namesSomebody (credentials : List Char) : Bool :=
  !(credentials.isEmpty || credentials == [':'])

/-- Splits a host, in which colons may stand between brackets, from what follows it. -/
def splitHost (k : SchemeKind) (bracketed : Bool) : List Char → List Char × List Char
  | [] => ([], [])
  | c :: rest =>
    if (c == ':' && !bracketed) || endsAuthority k c then ([], c :: rest)
    else
      let inside := if c == '[' then true else if c == ']' then false else bracketed
      let (host, after) := splitHost k inside rest
      (c :: host, after)

/-- Whether what follows a host is a port, possibly an empty one, or no port at all. -/
def portAllowed (cs : List Char) : Bool :=
  match cs with
  | ':' :: rest =>
    let (_, n, rest) := leadingNumber 10 0 0 rest
    n ≤ lastPort &&
      (match rest with
        | [] => true
        | c :: _ => c == '/' || c == '\\' || c == '?' || c == '#')
  | _ => true

/-- The host of what follows two slashes. -/
def authorityHost? (k : SchemeKind) (cs : List Char) : Option (List Char) :=
  let (credentials, rest) := splitCredentials k cs
  let emptyBehindAt := credentials == some [] &&
    (match rest with
      | c :: _ => endsAuthority k c
      | [] => false)
  if emptyBehindAt then none
  else
    let (text, after) := splitHost k false rest
    let host := if k.isSpecial then webHost? text else opaqueHost? text
    match host with
    | none => none
    | some [] =>
      if after.head? == some ':' || (credentials.map namesSomebody).getD false then none
      else some []
    | some host => if portAllowed after then some host else none

/-! ## Files -/

/-- Whether a text is a drive letter: a letter and a colon or a bar. -/
def isDriveLetter : List Char → Bool
  | [a, b] => a.isAlpha && (b == ':' || b == '|')
  | _ => false

/-- Whether a segment of a path is the one for the same place or the one for the place above. -/
def dotSegment? (segment : List Char) : Option Nat :=
  match String.ofList (Text.asciiLower segment) with
  | "." | "%2e" => some 1
  | ".." | ".%2e" | "%2e." | "%2e%2e" => some 2
  | _ => none

/-- Whether the first segment of a path is a drive letter at any time while the segments are walked;
`depth` counts the segments that have been kept. -/
def reachesDrive (depth : Nat) : List (List Char) → Bool
  | [] => false
  | segment :: rest =>
    match dotSegment? segment with
    | some 1 => reachesDrive depth rest
    | some _ => reachesDrive (depth - 1) rest
    | none => (depth == 0 && isDriveLetter segment) || reachesDrive (depth + 1) rest

/-- The segments of the path that follows a host. -/
def pathSegments (cs : List Char) : List (List Char) :=
  let path := cs.takeWhile fun c => c != '?' && c != '#'
  let slashed := path.map fun c => if c == '\\' then '/' else c
  match slashed with
  | '/' :: rest => Text.splitOn '/' rest
  | path => Text.splitOn '/' path

/-- The host of a file locator, behind its colon. A path that begins with a drive letter has no
host, and neither has the local one. -/
def fileHost? (cs : List Char) : Option (List Char) :=
  match cs with
  | a :: b :: rest =>
    if (a == '/' || a == '\\') && (b == '/' || b == '\\') then
      let text := rest.takeWhile (!endsAuthority .file ·)
      if isDriveLetter text || text.isEmpty then some []
      else
        match webHost? text with
        | none => none
        | some host =>
          if host == "localhost".toList || reachesDrive 0 (pathSegments (rest.drop text.length))
          then
            some []
          else some host
    else some []
  | _ => some []

/-! ## Locators -/

/-- Whether a character is dropped around a locator. -/
def isControlOrSpace (c : Char) : Bool :=
  c.toNat ≤ 0x20

/-- A locator without controls and spaces around it, and without tabs and line breaks in it. -/
def cleanLocator (cs : List Char) : List Char :=
  let trimmed := ((cs.dropWhile isControlOrSpace).reverse.dropWhile isControlOrSpace).reverse
  trimmed.filter fun c => c != '\t' && c != '\n' && c != '\r'

/-- The host of a locator, empty if it has none; nothing if the text is no locator. -/
def hostOf? (cs : List Char) : Option (List Char) :=
  match splitScheme? (cleanLocator cs) with
  | none => none
  | some (scheme, rest) =>
    match SchemeKind.of scheme with
    | .web => authorityHost? .web (rest.dropWhile fun c => c == '/' || c == '\\')
    | .file => fileHost? rest
    | .other =>
      match Text.after? ['/', '/'] rest with
      | some rest => authorityHost? .other rest
      | none => some []

end Intercept.Host
