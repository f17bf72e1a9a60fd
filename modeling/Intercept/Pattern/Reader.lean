import Intercept.Pattern.Expr

/-!
# Intercept.Pattern.Reader -- reading a pattern

A pattern is read from left to right into an expression. Flags that change how the rest of a group
is read are kept in a `State`, so that letter case, line mode and the like are already settled in
the expression. Whatever cannot be read makes the whole pattern invalid.

Nesting is limited: each group, repetition, bracket, row of items and choice that encloses another
counts one level, and there may be `maxNesting` of them.
-/

namespace Intercept.Pattern

open Intercept.Unicode (isBlank isAlphabetic category)

/-! ## State -/

/-- The flags in force: `i`, `m`, `s`, `R`, `u` and `x`. -/
structure Flags where
  ignoreCase : Bool := false
  multiLine : Bool := false
  dotAll : Bool := false
  crlf : Bool := false
  unicode : Bool := true
  extended : Bool := false
deriving Repr, DecidableEq

/-- What has been seen so far, and what is left to read. -/
structure State where
  flags : Flags
  names : List (List Char)
  rest : List Char

/-- The number of levels that may enclose one another. -/
def maxNesting : Nat := 250

/-- A part of a pattern that has been read: its expression, how many levels it encloses, and whether
it can be repeated. -/
structure Part where
  expr : Expr
  height : Nat := 0
  repeatable : Bool := true

/-- A set that has been read, and how many levels it encloses. -/
structure SetPart where
  set : CharSet
  height : Nat := 0

/-- One level above the highest of some parts. -/
def heightAbove (heights : List Nat) : Nat :=
  heights.foldl max 0 + 1

/-! ## Blanks and comments -/

/-- What follows blanks and comments; a comment runs from a number sign to the end of the line. The
flag tells whether a comment is being read. -/
def skipBlanks (inComment : Bool) : List Char → List Char
  | [] => []
  | c :: rest =>
    if inComment then skipBlanks (c != '\n') rest
    else if isBlank c then skipBlanks false rest
    else if c = '#' then skipBlanks true rest
    else c :: rest

/-- What follows blanks and comments where those are ignored. -/
def Flags.skip (f : Flags) (cs : List Char) : List Char :=
  if f.extended then skipBlanks false cs else cs

/-- The character behind the first one, when blanks and comments between them are ignored. A comment
is looked into, except for its number sign. -/
def peekBehind (f : Flags) : List Char → Option Char
  | [] => none
  | _ :: rest =>
    if !f.extended then rest.head?
    else
      let rec go (inComment : Bool) : List Char → Option Char
        | [] => none
        | c :: cs =>
          if isBlank c && !(inComment && c == '\n') then go inComment cs
          else if !inComment && c == '#' then go true cs
          else if inComment && c == '\n' then go false cs
          else some c
      go false rest

/-! ## Numbers -/

/-- A decimal number with blanks on both sides; its digits may be missing. -/
def decimal (f : Flags) (cs : List Char) : Option Nat × List Char :=
  let rec digits (fuel : Nat) (acc : List Char) (cs : List Char) : List Char × List Char :=
    match fuel, cs with
    | fuel + 1, c :: rest =>
      if c.isDigit then digits fuel (acc ++ [c]) (f.skip rest) else (acc, c :: rest)
    | _, cs => (acc, cs)
  let (ds, rest) := digits cs.length [] (cs.dropWhile isBlank)
  ((Text.decimalValue? ds).filter (· < 0x100000000), f.skip (rest.dropWhile isBlank))

/-- The character of a hexadecimal number. -/
def charOfHex? (ds : List Char) : Option Char := do
  let n ← ds.foldlM (fun acc c => (Text.hexDigit? c).map (acc * 16 + ·)) 0
  if n < 0xd800 ∨ (0xe000 ≤ n ∧ n < 0x110000) then some (Char.ofNat n) else none

/-- Exactly `n` hexadecimal digits. -/
def hexDigits? (f : Flags) : Nat → List Char → Option (List Char × List Char)
  | 0, cs => some ([], cs)
  | n + 1, c :: rest => do
    let _ ← Text.hexDigit? c
    let (ds, rest) ← hexDigits? f n (f.skip rest)
    return (c :: ds, rest)
  | _ + 1, [] => none

/-- Hexadecimal digits up to a closing brace. The fuel bounds their number. -/
def hexBraced? (f : Flags) : Nat → List Char → Option (List Char × List Char)
  | 0, _ => none
  | fuel + 1, cs =>
    match cs with
    | '\x7d' :: rest => some ([], f.skip rest)
    | c :: rest => do
      let _ ← Text.hexDigit? c
      let (ds, rest) ← hexBraced? f fuel (f.skip rest)
      return (c :: ds, rest)
    | [] => none

/-- A character given by its number, behind the letter that announces it. -/
def hexChar? (f : Flags) (count : Nat) (cs : List Char) : Option (Char × Bool × List Char) :=
  match f.skip cs with
  | '\x7b' :: rest => do
    let (ds, rest) ← hexBraced? f (rest.length + 1) (f.skip rest)
    if ds.isEmpty then none
    return (← charOfHex? ds, false, rest)
  | cs => do
    let (ds, rest) ← hexDigits? f count cs
    return (← charOfHex? ds, count == 2, rest)

/-! ## Escapes -/

/-- Characters with a meaning of their own somewhere in a pattern. -/
def isMeta (c : Char) : Bool :=
  "\\.+*?()|[]\x7b\x7d^$#&-~".toList.contains c

/-- Whether a backslash before a character is superfluous and yet allowed. -/
def isEscapable (c : Char) : Bool :=
  isMeta c || (c.toNat < 0x80 && !c.isAlphanum && c != '<' && c != '>')

/-- What a single item of a pattern is. A character knows whether it was given as one byte. -/
inductive Item
  | char (c : Char) (byte : Bool)
  | set (s : CharSet)
  | anchor (a : Anchor)

/-- Whether characters may stand in the name of a word boundary. -/
def isBoundaryName (c : Char) : Bool := c.isAlpha || c == '-'

/-- What stands at the front up to the first character that cannot be in the name of a boundary. The
fuel bounds its length. -/
def boundaryName (f : Flags) : Nat → List Char → List Char × List Char
  | 0, cs => ([], cs)
  | _ + 1, [] => ([], [])
  | fuel + 1, c :: rest =>
    if isBoundaryName c then
      let (name, rest) := boundaryName f fuel (f.skip rest)
      (c :: name, rest)
    else ([], c :: rest)

/-- The word boundary behind `\b`: one with a name in braces, or the plain one. A brace that opens
no name belongs to a repetition. -/
def wordBoundary? (f : Flags) (cs : List Char) : Option (Anchor × List Char) :=
  let ascii := !f.unicode
  match cs with
  | '\x7b' :: rest =>
    match f.skip rest with
    | [] => none
    | c :: _ =>
      if !isBoundaryName c then some (.wordBoundary ascii, cs)
      else
        match boundaryName f rest.length (f.skip rest) with
        | (name, '\x7d' :: rest) =>
          match String.ofList name with
          | "start" => some (.wordStart ascii, rest)
          | "end" => some (.wordEnd ascii, rest)
          | "start-half" => some (.wordStartHalf ascii, rest)
          | "end-half" => some (.wordEndHalf ascii, rest)
          | _ => none
        | _ => none
  | _ => some (.wordBoundary ascii, cs)

/-- The complement of a set. Where characters are bytes, it would hold halves of characters, which
is refused. -/
def complement? (f : Flags) (negated : Bool) (s : CharSet) : Option CharSet :=
  if !negated then some s
  else if f.unicode then some (.compl s)
  else none

/-- A set closed under letter case where that is ignored. -/
def closeCase (f : Flags) (s : CharSet) : CharSet :=
  if !f.ignoreCase then s
  else if f.unicode then .ignoreCase s
  else .ignoreAsciiCase s

/-- The property that is written between braces, a name or a name with a value, and whether it is
the opposite that is meant. -/
def bracedProperty (cs : List Char) : Option Property × Bool :=
  match Text.readFirst? (Text.after? ['!', '=']) cs with
  | some (name, value) => (Property.ofNameValue? name value, true)
  | none =>
    match (Text.splitOnce? ':' cs).or (Text.splitOnce? '=' cs) with
    | some (name, value) => (Property.ofNameValue? name value, false)
    | none => (Property.ofName? cs, false)

/-- What stands up to a closing brace. The fuel bounds its length. -/
def braced? (f : Flags) : Nat → List Char → Option (List Char × List Char)
  | _, '\x7d' :: rest => some ([], rest)
  | fuel + 1, c :: rest => (braced? f fuel (f.skip rest)).map fun p => (c :: p.1, p.2)
  | _, _ => none

/-- The named class behind `\p` or `\P`. -/
def namedClass? (f : Flags) (negated : Bool) (cs : List Char) : Option (CharSet × List Char) := do
  let ((property, opposite), rest) ← match f.skip cs with
    | [] => none
    | '\\' :: _ => none
    | '\x7b' :: rest => (braced? f rest.length (f.skip rest)).map fun p => (bracedProperty p.1, p.2)
    | c :: rest => some ((Property.ofName? [c], false), f.skip rest)
  if !f.unicode then none
  let set := closeCase f (.property (← property))
  return (if negated != opposite then .compl set else set, rest)

/-- The class of digits, blanks or word characters that a letter stands for. -/
def letterClass? (f : Flags) (c : Char) : Option CharSet :=
  match c with
  | 'd' => some (if f.unicode then .digit else .asciiDigit)
  | 's' => some (if f.unicode then .blank else .asciiBlank)
  | 'w' => some (if f.unicode then .word else .asciiWord)
  | _ => none

/-- The item behind a backslash. -/
def escape? (f : Flags) : List Char → Option (Item × List Char)
  | [] => none
  | c :: rest =>
    match c with
    | 'x' => (hexChar? f 2 rest).map fun p => (.char p.1 p.2.1, p.2.2)
    | 'u' => (hexChar? f 4 rest).map fun p => (.char p.1 p.2.1, p.2.2)
    | 'U' => (hexChar? f 8 rest).map fun p => (.char p.1 p.2.1, p.2.2)
    | 'p' => (namedClass? f false rest).map fun p => (.set p.1, p.2)
    | 'P' => (namedClass? f true rest).map fun p => (.set p.1, p.2)
    | 'a' => some (.char '\x07' false, rest)
    | 'f' => some (.char '\x0c' false, rest)
    | 't' => some (.char '\t' false, rest)
    | 'n' => some (.char '\n' false, rest)
    | 'r' => some (.char '\r' false, rest)
    | 'v' => some (.char '\x0b' false, rest)
    | 'A' => some (.anchor .textStart, rest)
    | 'z' => some (.anchor .textEnd, rest)
    | 'b' => (wordBoundary? f rest).map fun p => (.anchor p.1, p.2)
    | 'B' => some (.anchor (.noWordBoundary (!f.unicode)), rest)
    | '<' => some (.anchor (.wordStart (!f.unicode)), rest)
    | '>' => some (.anchor (.wordEnd (!f.unicode)), rest)
    | _ =>
      match letterClass? f c with
      | some s => some (.set s, rest)
      | none =>
        match letterClass? f c.toLower with
        | some s => (complement? f true s).map fun s => (.set s, rest)
        | none => if isEscapable c then some (.char c false, rest) else none

/-- The character of an item where it stands for itself. A byte that is no ASCII character is half
of a character where characters are bytes, which is refused. -/
def itemChar? (f : Flags) : Item → Option Char
  | .char c byte => if !f.unicode && byte && 0x80 ≤ c.toNat then none else some c
  | _ => none

/-! ## Brackets -/

/-- The set of a character or range between brackets. -/
def rangeSet? (f : Flags) (first last : Char) : Option CharSet :=
  if last < first then none
  else if !f.unicode && 0x80 ≤ last.toNat then none
  else some (.range first last)

/-- An ASCII class such as `[:alpha:]` or `[:^alpha:]`, behind its opening bracket. -/
def asciiClass? (cs : List Char) : Option (String × Bool × List Char) := do
  let rest ← Text.after? [':'] cs
  let (negated, rest) := match rest with
    | '^' :: r => (true, r)
    | r => (false, r)
  let name := rest.takeWhile (· != ':')
  let rest ← Text.after? [':', ']'] (rest.dropWhile (· != ':'))
  return (String.ofList name, negated, rest)

/-- The operators between sets. -/
inductive SetOp
  | inter
  | diff
  | symm

/-- Two sets joined by an operator; letter case is ignored on both sides first. -/
def SetOp.join (f : Flags) (op : SetOp) (a b : SetPart) : SetPart :=
  let x := closeCase f a.set
  let y := closeCase f b.set
  let set := match op with
    | .inter => .inter x y
    | .diff => .diff x y
    | .symm => .symmDiff x y
  { set, height := heightAbove [a.height, b.height] }

/-- The items of a set, in the reverse order of their reading, as one set. -/
def unite (items : List SetPart) : SetPart :=
  match items with
  | [] => { set := .empty }
  | [a] => a
  | _ =>
    { set := .unions (items.reverse.map SetPart.set)
      height := heightAbove (items.map SetPart.height) }

/-- A set and the operator that joins it to what follows. -/
abbrev Pending := Option (SetPart × SetOp)

/-- Joins what was read to what an operator was waiting with. -/
def settle (f : Flags) (pending : Pending) (items : List SetPart) : SetPart :=
  match pending with
  | none => unite items
  | some (left, op) => op.join f left (unite items)

/-- Dashes at the front of a bracket stand for themselves. The fuel bounds their number. -/
def leadingDashes (f : Flags) : Nat → List SetPart → List Char → List SetPart × List Char
  | fuel + 1, items, '-' :: rest =>
    leadingDashes f fuel ({ set := .single '-' } :: items) (f.skip rest)
  | _, items, cs => (items, cs)

/-- The front of a bracket: whether it is negated, and what stands for itself there. -/
def bracketFront? (f : Flags) (cs : List Char) : Option (Bool × List SetPart × List Char) :=
  let cs := f.skip cs
  let (negated, cs) := match cs with
    | '^' :: rest => (true, f.skip rest)
    | cs => (false, cs)
  let (items, cs) := leadingDashes f cs.length [] cs
  match items, cs with
  | [], ']' :: rest => some (negated, [{ set := .single ']' }], f.skip rest)
  | _, [] => none
  | items, cs => some (negated, items, cs)

/-- One item between brackets that is no bracket: a character, a class or a range. -/
def bracketItem? (f : Flags) (cs : List Char) : Option (SetPart × List Char) := do
  let item := fun (cs : List Char) =>
    match cs with
    | '\\' :: rest => escape? f rest
    | c :: rest => some (Item.char c false, rest)
    | [] => none
  let (first, rest) ← item cs
  let rest := f.skip rest
  let isRange := match rest with
    | '-' :: _ => peekBehind f rest != some ']' && peekBehind f rest != some '-'
    | _ => false
  if rest.isEmpty then none
  if isRange then
    let (last, rest) ← item (f.skip (rest.drop 1))
    let set ← rangeSet? f (← itemChar? f first) (← itemChar? f last)
    return ({ set }, rest)
  else
    match first with
    | .set set => return ({ set }, rest)
    | .anchor _ => none
    | .char _ _ =>
      let c ← itemChar? f first
      return ({ set := ← rangeSet? f c c }, rest)

/-- The rest of a bracket up to the one that closes it. The fuel bounds the number of items. -/
def bracketRest? (f : Flags) (inner : List Char → Option (SetPart × List Char)) :
    Nat → Pending → List SetPart → List Char → Option (SetPart × List Char)
  | 0, _, _, _ => none
  | fuel + 1, pending, items, cs =>
    match f.skip cs with
    | [] => none
    | ']' :: rest => some (settle f pending items, rest)
    | '&' :: '&' :: rest =>
      bracketRest? f inner fuel (some (settle f pending items, .inter)) [] rest
    | '-' :: '-' :: rest =>
      bracketRest? f inner fuel (some (settle f pending items, .diff)) [] rest
    | '~' :: '~' :: rest =>
      bracketRest? f inner fuel (some (settle f pending items, .symm)) [] rest
    | '[' :: rest =>
      let named := do
        let (name, negated, after) ← asciiClass? rest
        return (← CharSet.ofAsciiName? name, negated, after)
      match named with
      | some (set, negated, after) => do
        let set ← complement? f negated (closeCase f set)
        bracketRest? f inner fuel pending ({ set } :: items) after
      | none => do
        let (part, after) ← inner rest
        bracketRest? f inner fuel pending (part :: items) after
    | cs => do
      let (part, after) ← bracketItem? f cs
      bracketRest? f inner fuel pending (part :: items) after

/-- A set between brackets, behind the opening one. The fuel bounds how deeply brackets nest. -/
def bracket? (f : Flags) : Nat → List Char → Option (SetPart × List Char)
  | 0, _ => none
  | fuel + 1, cs => do
    let (negated, items, rest) ← bracketFront? f cs
    let (part, rest) ← bracketRest? f (bracket? f fuel) (rest.length + 1) none items rest
    let set ← complement? f negated (closeCase f part.set)
    return ({ set, height := part.height + 1 }, rest)

/-! ## Flags and names -/

/-- The flags after one letter, set or cleared. The letter `U` only changes preferences. -/
def Flags.change? (f : Flags) (on : Bool) : Char → Option Flags
  | 'i' => some { f with ignoreCase := on }
  | 'm' => some { f with multiLine := on }
  | 's' => some { f with dotAll := on }
  | 'U' => some f
  | 'u' => some { f with unicode := on }
  | 'R' => some { f with crlf := on }
  | 'x' => some { f with extended := on }
  | _ => none

/-- Flag letters up to a colon or closing parenthesis. No letter may stand twice, and a dash must be
followed by a letter. What is answered is the flags, whether any letter was read, and the rest,
which begins with the character that ended the flags. -/
def flagLetters? (f : Flags) (seen : List Char) : List Char → Option (Flags × Bool × List Char)
  | [] => none
  | c :: rest =>
    if c = ':' ∨ c = ')' then
      if seen.head? = some '-' then none else some (f, !seen.isEmpty, c :: rest)
    else if seen.contains c then none
    else if c = '-' then flagLetters? f ('-' :: seen) rest
    else
      match f.change? (!seen.contains '-') c with
      | some g => flagLetters? g (c :: seen) rest
      | none => none

/-- Whether a character may stand in the name of a group. -/
def isNameChar (first : Bool) (c : Char) : Bool :=
  c == '_' || isAlphabetic c
    || (!first && (c == '.' || c == '[' || c == ']' || (category c).isNumber))

/-- The name of a group up to the closing angle. -/
def groupName? (cs : List Char) : Option (List Char × List Char) :=
  let name := cs.takeWhile (· != '>')
  match cs.dropWhile (· != '>') with
  | '>' :: rest =>
    match name with
    | [] => none
    | c :: more =>
      if isNameChar true c && more.all (isNameChar false) then some (name, rest) else none
  | _ => none

/-! ## Items, rows and choices -/

/-- The expression of a character that stands for itself. -/
def charExpr (f : Flags) (c : Char) : Expr :=
  .one (closeCase f (.single c))

/-- What a dot holds of. -/
def dotSet (f : Flags) : CharSet :=
  if f.dotAll then .compl .empty
  else if f.crlf then .compl (.union (.single '\r') (.single '\n'))
  else .compl (.single '\n')

/-- The anchor of a caret. -/
def caret (f : Flags) : Anchor :=
  if !f.multiLine then .textStart else if f.crlf then .lineStartCrlf else .lineStart

/-- The anchor of a dollar sign. -/
def dollar (f : Flags) : Anchor :=
  if !f.multiLine then .textEnd else if f.crlf then .lineEndCrlf else .lineEnd

/-- An item that is neither group, bracket nor repetition. -/
def simpleItem? (f : Flags) : List Char → Option (Part × List Char)
  | [] => none
  | '\\' :: rest => do
    let (item, rest) ← escape? f rest
    match item with
    | .set s => return ({ expr := .one s }, rest)
    | .anchor a => return ({ expr := .at a }, rest)
    | .char _ _ => return ({ expr := charExpr f (← itemChar? f item) }, rest)
  | '.' :: rest => if f.unicode then some ({ expr := .one (dotSet f) }, rest) else none
  | '^' :: rest => some ({ expr := .at (caret f) }, rest)
  | '$' :: rest => some ({ expr := .at (dollar f) }, rest)
  | c :: rest => some ({ expr := charExpr f c }, rest)

/-- What follows a repetition, without the question mark that changes its preference. -/
def dropPreference : List Char → List Char
  | '?' :: rest => rest
  | cs => cs

/-- The bounds of a repetition in braces, behind the opening one. -/
def bounds? (f : Flags) (cs : List Char) : Option (Nat × Option Nat × List Char) := do
  let cs := f.skip cs
  if cs.isEmpty then none
  let (least, rest) := decimal f cs
  match rest with
  | '\x7d' :: rest => return (← least, ← least, dropPreference (f.skip rest))
  | ',' :: rest =>
    match f.skip rest with
    | '\x7d' :: rest => return (← least, none, dropPreference (f.skip rest))
    | [] => none
    | rest =>
      let least ← least
      match decimal f rest with
      | (some most, '\x7d' :: rest) =>
        if least ≤ most then return (least, some most, dropPreference (f.skip rest)) else none
      | _ => none
  | _ => none

/-- Repeats the newest of the items read so far. -/
def repeatLast? (least : Nat) (most : Option Nat) : List Part → Option (List Part)
  | [] => none
  | part :: parts =>
    if part.repeatable then
      some ({ expr := .repeated part.expr least most, height := part.height + 1 } :: parts)
    else none

/-- The items of a row, in the reverse order of their reading, as one part. -/
def row (parts : List Part) : Part :=
  match parts with
  | [] => { expr := .empty }
  | [p] => p
  | _ =>
    { expr := .seqs (parts.reverse.map Part.expr)
      height := heightAbove (parts.map Part.height) }

/-- The rows of a choice, in the reverse order of their reading, as one part. -/
def choice (rows : List Part) : Part :=
  match rows with
  | [p] => p
  | _ =>
    { expr := .alts (rows.reverse.map Part.expr)
      height := heightAbove (rows.map Part.height) }

/-- What a parenthesis opens. -/
inductive Opening
  | flags (f : Flags) (rest : List Char)
  | group (f : Flags) (names : List (List Char)) (rest : List Char)

/-- Reads what stands behind an opening parenthesis: a look to the side, which is refused, a named
group, flags for what follows, a group with flags, or a plain group. -/
def opening? (st : State) (cs : List Char) : Option Opening :=
  let f := st.flags
  let cs := f.skip cs
  let looks := [['?', '='], ['?', '!'], ['?', '<', '='], ['?', '<', '!']]
  if looks.any (Text.startsWith · cs) then none
  else
    match (Text.after? ['?', 'P', '<'] cs).or (Text.after? ['?', '<'] cs) with
    | some rest => do
      let (name, rest) ← groupName? rest
      if st.names.contains name then none
      return .group f (name :: st.names) rest
    | none =>
      match cs with
      | '?' :: rest => do
        let (g, any, rest) ← flagLetters? f [] rest
        match rest with
        | ')' :: rest => if any then return .flags g rest else none
        | ':' :: rest => return .group g st.names rest
        | _ => none
      | _ => some (.group f st.names cs)

/-- A choice up to the end of the pattern or to a closing parenthesis, which stays. `rows` are the
rows that are complete, `parts` the items of the current one, both reversed. The fuel bounds the
number of steps, of which each takes at least one character. -/
def choiceRest? : Nat → List Part → List Part → State → Option (Part × State)
  | 0, _, _, _ => none
  | fuel + 1, rows, parts, st =>
    let f := st.flags
    match f.skip st.rest with
    | [] => some (choice (row parts :: rows), { st with rest := [] })
    | ')' :: rest => some (choice (row parts :: rows), { st with rest := ')' :: rest })
    | '|' :: rest => choiceRest? fuel (row parts :: rows) [] { st with rest }
    | '(' :: rest => do
      match ← opening? st rest with
      | .flags g rest =>
        choiceRest? fuel rows ({ expr := .empty, repeatable := false } :: parts)
          { st with flags := g, rest }
      | .group g names rest =>
        let (part, inner) ← choiceRest? fuel [] [] { flags := g, names, rest }
        let rest ← Text.after? [')'] inner.rest
        choiceRest? fuel rows ({ expr := part.expr, height := part.height + 1 } :: parts)
          { flags := f, names := inner.names, rest }
    | '[' :: rest => do
      let (part, rest) ← bracket? f (rest.length + 1) rest
      choiceRest? fuel rows ({ expr := .one part.set, height := part.height } :: parts)
        { st with rest }
    | '?' :: rest => do
      choiceRest? fuel rows (← repeatLast? 0 (some 1) parts) { st with rest := dropPreference rest }
    | '*' :: rest => do
      choiceRest? fuel rows (← repeatLast? 0 none parts) { st with rest := dropPreference rest }
    | '+' :: rest => do
      choiceRest? fuel rows (← repeatLast? 1 none parts) { st with rest := dropPreference rest }
    | '\x7b' :: rest => do
      let (least, most, rest) ← bounds? f rest
      choiceRest? fuel rows (← repeatLast? least most parts) { st with rest }
    | cs => do
      let (part, rest) ← simpleItem? f cs
      choiceRest? fuel rows (part :: parts) { st with rest }

/-- The expression that a pattern spells, if it is a valid one. -/
def parse? (cs : List Char) : Option Expr := do
  let (part, st) ← choiceRest? (2 * cs.length + 2) [] [] { flags := {}, names := [], rest := cs }
  if st.rest.isEmpty && part.height ≤ maxNesting then some part.expr else none

end Intercept.Pattern
