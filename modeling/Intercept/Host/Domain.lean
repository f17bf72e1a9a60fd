import Intercept.Host.Punycode
import Intercept.Unicode.Category
import Intercept.Unicode.Direction
import Intercept.Unicode.HostMapping
import Intercept.Unicode.Normal

/-!
# Intercept.Host.Domain -- domain names

A domain name is brought into the one form in which it is compared: characters are mapped and
composed, labels are checked, and a label that is not in ASCII is written in ASCII behind `xn--`. A
label that already begins so must stand for a label that would be written in just that way.
-/

namespace Intercept.Host

open Intercept.Unicode

/-! ## Single labels -/

/-- Characters of ASCII that no domain may contain. -/
def isForbiddenInDomain (c : Char) : Bool :=
  c.toNat ≤ 0x20 || c.toNat == 0x7f || "#/:<>?@[\\]^|%".toList.contains c

/-- Whether a text is in ASCII. -/
def isAsciiText (cs : List Char) : Bool :=
  cs.all (·.toNat < 0x80)

/-- Whether the joiner between the reversed `before` and `after` may stand there: behind a virama,
or, if it is the one that keeps apart, between two letters that would join. -/
def joinerAllowed (c : Char) (before after : List Char) : Bool :=
  match before with
  | [] => false
  | p :: _ =>
    combiningClass p.toNat == 9
      || (c.toNat == 0x200c
        && (match before.dropWhile (joining · == "T") with
          | b :: _ => joining b == "L" || joining b == "D"
          | [] => false)
        && (match after.dropWhile (joining · == "T") with
          | a :: _ => joining a == "R" || joining a == "D"
          | [] => false))

/-- Whether every joiner of a label may stand where it stands; `before` is what was passed,
reversed. -/
def joinersAllowed (before : List Char) : List Char → Bool
  | [] => true
  | c :: rest =>
    (!(c.toNat == 0x200c || c.toNat == 0x200d) || joinerAllowed c before rest)
      && joinersAllowed (c :: before) rest

/-- Whether a mapped label is well formed: composed, not beginning with a mark, made of characters
that are mapped to themselves, and with joiners only where they belong. -/
def isValidLabel (cs : List Char) : Bool :=
  (match cs with
    | c :: _ => !(category c).isMark
    | [] => true)
    && cs.all (fun c => mapHostChar? c == some [c])
    && normalize cs == cs
    && joinersAllowed [] cs

/-! ## Writing direction -/

/-- Whether a label contains a character that is written from right to left. -/
def isRightToLeft (cs : List Char) : Bool :=
  cs.any fun c => ["R", "AL", "AN"].contains (direction c)

/-- The rule for labels of a domain in which some label is written from right to left. -/
def obeysDirectionRule (cs : List Char) : Bool :=
  match cs with
  | [] => true
  | c :: _ =>
    let classes := cs.map direction
    let ends := (cs.reverse.dropWhile (direction · == "NSM")).head?.map direction
    match direction c with
    | "L" =>
      classes.all ["L", "EN", "ES", "CS", "ET", "ON", "BN", "NSM"].contains
        && (ends == some "L" || ends == some "EN")
    | "R" | "AL" =>
      classes.all ["R", "AL", "AN", "EN", "ES", "CS", "ET", "ON", "BN", "NSM"].contains
        && (ends == some "R" || ends == some "AL" || ends == some "EN" || ends == some "AN")
        && !(classes.contains "EN" && classes.contains "AN")
    | _ => false

/-! ## Domains -/

/-- A label in two forms: as it is read and as it is written in ASCII. -/
structure Label where
  unicode : List Char
  ascii : List Char

/-- The mark in front of the ASCII form of a label. -/
def asciiMark : List Char := ['x', 'n', '-', '-']

/-- A mapped label in both forms, if it is well formed. -/
def Label.ofMapped? (cs : List Char) : Option Label :=
  match Text.after? asciiMark cs with
  | some code =>
    if !isAsciiText cs then none
    else
      match Punycode.decode? code with
      | none => none
      | some decoded =>
        if isAsciiText decoded || !isValidLabel decoded then none
        else some { unicode := decoded, ascii := cs }
  | none =>
    if isAsciiText cs then some { unicode := cs, ascii := cs }
    else if isValidLabel cs then some { unicode := cs, ascii := asciiMark ++ Punycode.encode cs }
    else none

/-- The form in which a domain name is compared, if it is well formed. -/
def domainToAscii? (cs : List Char) : Option (List Char) := do
  let mapped := normalize (← cs.mapM mapHostChar?).flatten
  let labels ← (Text.splitOn '.' mapped).mapM Label.ofMapped?
  if labels.any (fun l => isRightToLeft l.unicode)
      && !labels.all (fun l => obeysDirectionRule l.unicode) then none
  let ascii := Text.join ['.'] (labels.map Label.ascii)
  if ascii.any isForbiddenInDomain then none
  return ascii

end Intercept.Host
