import Intercept.Host.Address
import Intercept.Text.Scan
import Intercept.Unicode.CaseMapping

/-!
# Intercept.Section.Filter -- rules by domain and address: `[Rule]`

Rules are tried in order, so they are put in an order in which the first that fits is the right one:
those that let traffic through directly come first, then each by its type, networks by their
numbers, and the rest by their text.
-/

namespace Intercept.Section

/-! ## What is a rule -/

/-- The types of rules, in the order in which they are tried. -/
def filterTypes : List String :=
  ["DOMAIN,", "DOMAIN-SUFFIX,", "DOMAIN-KEYWORD,", "IP-CIDR,", "AND,", "URL-REGEX,"]

/-- Whether the name of a type, with its comma, stands anywhere in a line. -/
def namesFilter (line : List Char) : Bool :=
  filterTypes.any fun t => Text.contains t.toList line

/-- The lines that are rules, without blanks around them. -/
def filterLines (text : List Char) : List (List Char) :=
  ((Text.lines text).map Text.trim).filter fun line =>
    !line.isEmpty && line.head? != some '#' && namesFilter line

/-! ## The order of rules -/

/-- The address of the network in a rule of the type for networks. Only what begins with a digit
counts. -/
def networkAddress? (line : List Char) : Option Host.Address := do
  let _ ← Text.afterStr? "IP-CIDR," line
  if !line.contains '/' then none
  let network ← (Text.splitOn ',' line)[1]?
  let address := Text.trim ((Text.splitOn '/' network).headD [])
  match address with
  | c :: _ => if c.isDigit then Host.Address.parse? address else none
  | [] => none

/-- What decides about the place of a rule, the most important first. -/
structure FilterKey where
  notDirect : Nat
  type : Nat
  family : Nat
  address : List Nat
  upper : List Char
  line : List Char
deriving Repr, DecidableEq

/-- Whether a rule names the direct way, blanks within it and letter case aside. -/
def isDirect (line : List Char) : Bool :=
  Text.contains ",DIRECT".toList (Unicode.uppercase (line.filter (· != ' ')))

/-- The key of a rule. -/
def FilterKey.of (line : List Char) : FilterKey :=
  let address := networkAddress? line
  { notDirect := if isDirect line then 0 else 1
    type := filterTypes.findIdx fun t => Text.startsWith t.toList line
    family := match address with
      | some (.v4 _) => 0
      | some (.v6 _) => 1
      | none => 2
    address := (address.map Host.Address.bytes).getD []
    upper := Unicode.uppercase line
    line }

/-- Whether one key stands before another, or they are the same. -/
def FilterKey.le (a b : FilterKey) : Bool :=
  ((compare a.notDirect b.notDirect).then
    ((compare a.type b.type).then
      ((compare a.family b.family).then
        ((compare a.address b.address).then
          ((compare a.upper b.upper).then (compare a.line b.line)))))).isLE

/-- The rules of a text in order, each once. -/
def filterEntries (text : List Char) : List (List Char) :=
  ((filterLines text).eraseDups.mergeSort fun a b => (FilterKey.of a).le (FilterKey.of b))

end Intercept.Section
