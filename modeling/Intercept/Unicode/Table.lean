/-!
# Intercept.Unicode.Table -- character data written as text

The character properties that the library needs are long lists of code points, all as they are in
Unicode 16.0. They are kept as text, in hexadecimal and sorted, and read once into arrays. Three
shapes suffice:

* a **run** `first-last/step:target` stands for the code points `first`, `first + step`, ...,
  `last`; where a target is given, the code point `first + i` is sent to `target + i`;
* a **mark** `41Lu` says that the label `Lu` holds from that code point up to the next mark;
* an **expansion** `df:53.53` sends one code point to several.

All look-ups are binary searches over the sorted array.
-/

namespace Intercept.Unicode

/-! ## Reading the notation -/

/-- The value of a hexadecimal digit written in lower case. -/
def hexValue? (c : Char) : Option Nat :=
  if '0' ≤ c ∧ c ≤ '9' then some (c.toNat - '0'.toNat)
  else if 'a' ≤ c ∧ c ≤ 'f' then some (c.toNat - 'a'.toNat + 10)
  else none

/-- The number at the front of a word, and what follows it. -/
def leadingHex (acc : Nat) : List Char → Nat × List Char
  | [] => (acc, [])
  | c :: rest =>
    match hexValue? c with
    | some d => leadingHex (acc * 16 + d) rest
    | none => (acc, c :: rest)

/-- The words of a table, which stand between blanks and line feeds. -/
def tableWords (text : String) : List (List Char) :=
  let step := fun (c : Char) (state : List Char × List (List Char)) =>
    if c = ' ' ∨ c = '\n' then
      if state.1.isEmpty then state else ([], state.1 :: state.2)
    else (c :: state.1, state.2)
  let state := text.toList.foldr step ([], [])
  if state.1.isEmpty then state.2 else state.1 :: state.2

/-- The numbers of a word such as `53.73`. The fuel bounds how many are read. -/
def dottedHex : Nat → List Char → List Nat
  | 0, _ => []
  | fuel + 1, cs =>
    match leadingHex 0 cs with
    | (n, '.' :: rest) => n :: dottedHex fuel rest
    | (n, _) => [n]

/-! ## Binary search -/

/-- The index of the last of the ascending `keys` below `hi` that is at most `x`, given that the one
at `lo` is. The fuel bounds the number of halvings. -/
def lastIndexLE (keys : Array Nat) (x : Nat) : Nat → Nat → Nat → Nat
  | 0, lo, _ => lo
  | fuel + 1, lo, hi =>
    if hi ≤ lo + 1 then lo
    else
      let mid := (lo + hi) / 2
      if keys.getD mid 0 ≤ x then lastIndexLE keys x fuel mid hi
      else lastIndexLE keys x fuel lo mid

/-- The index of the last of the ascending `keys` that is at most `x`. -/
def lastIndexLE? (keys : Array Nat) (x : Nat) : Option Nat :=
  if keys.isEmpty ∨ x < keys.getD 0 0 then none
  else some (lastIndexLE keys x keys.size 0 keys.size)

/-! ## Runs -/

/-- The code points `first`, `first + step`, ..., `last`, sent to `target` and onwards. -/
structure Run where
  first : Nat
  last : Nat
  step : Nat
  target : Nat
deriving Repr, DecidableEq, Inhabited

/-- Reads `first-last/step:target`, of which all but `first` may be missing. -/
def Run.ofWord (word : List Char) : Run :=
  let (first, rest) := leadingHex 0 word
  let (last, rest) := match rest with
    | '-' :: r => leadingHex 0 r
    | r => (first, r)
  let (step, rest) := match rest with
    | '/' :: r => leadingHex 0 r
    | r => (1, r)
  let target := match rest with
    | ':' :: r => (leadingHex 0 r).1
    | '=' :: r => (leadingHex 0 r).1
    | _ => first
  { first, last, step, target }

/-- Whether a run contains a code point. -/
def Run.contains (r : Run) (n : Nat) : Bool :=
  r.first ≤ n && n ≤ r.last && (n - r.first) % r.step == 0

/-- Runs in ascending order, beside the array of their first code points. -/
structure RunTable where
  firsts : Array Nat
  runs : Array Run
deriving Inhabited

def RunTable.ofText (text : String) : RunTable :=
  let runs := ((tableWords text).map Run.ofWord).toArray
  { firsts := runs.map Run.first, runs }

/-- The run that contains a code point. -/
def RunTable.find? (t : RunTable) (n : Nat) : Option Run :=
  match lastIndexLE? t.firsts n with
  | none => none
  | some i => (t.runs[i]?).filter (Run.contains · n)

def RunTable.contains (t : RunTable) (n : Nat) : Bool :=
  (t.find? n).isSome

/-- Where a table sends a code point; one that it does not list stays. -/
def RunTable.send (t : RunTable) (n : Nat) : Nat :=
  match t.find? n with
  | some r => r.target + (n - r.first)
  | none => n

/-- The pairs of a code point and its target that a table lists. -/
def RunTable.toList (t : RunTable) : List (Nat × Nat) :=
  t.runs.toList.flatMap fun r =>
    (List.range ((r.last - r.first) / max r.step 1 + 1)).map fun i =>
      (r.first + i * r.step, r.target + i * r.step)

/-! ## Marks -/

/-- Labels in ascending order of the code point from which they hold. -/
structure MarkTable where
  firsts : Array Nat
  labels : Array String
deriving Inhabited

def MarkTable.ofText (text : String) : MarkTable :=
  let marks := (tableWords text).map (leadingHex 0)
  { firsts := (marks.map Prod.fst).toArray
    labels := (marks.map fun m => String.ofList m.2).toArray }

/-- The label that holds at a code point, empty before the first mark. -/
def MarkTable.label (t : MarkTable) (n : Nat) : String :=
  match lastIndexLE? t.firsts n with
  | none => ""
  | some i => t.labels.getD i ""

/-- How many stretches of code points have a label that passes a test. -/
def MarkTable.stretches (t : MarkTable) (passes : String → Bool) : Nat :=
  let labels := t.labels.toList
  ((false :: labels.map passes).zip (labels.map passes)).countP fun p => !p.1 && p.2

/-! ## Expansions -/

/-- Code points in ascending order, each with the sequence that it is sent to. -/
structure ExpansionTable where
  firsts : Array Nat
  targets : Array (List Nat)
deriving Inhabited

def ExpansionTable.ofText (text : String) : ExpansionTable :=
  let entries := (tableWords text).map fun word =>
    let (first, rest) := leadingHex 0 word
    (first, dottedHex rest.length (rest.drop 1))
  { firsts := (entries.map Prod.fst).toArray
    targets := (entries.map Prod.snd).toArray }

/-- The sequence that a code point is sent to, if it is listed. -/
def ExpansionTable.find? (t : ExpansionTable) (n : Nat) : Option (List Nat) :=
  match lastIndexLE? t.firsts n with
  | none => none
  | some i => if t.firsts.getD i 0 = n then t.targets[i]? else none

end Intercept.Unicode
