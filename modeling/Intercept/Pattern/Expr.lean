import Intercept.Pattern.CharSet

/-!
# Intercept.Pattern.Expr -- what a pattern asks of a text

An expression holds of a stretch of a text, from one position to another. `Expr.Matches` says when;
`Expr.ends` computes, for a list of positions, all positions at which a stretch that begins at one
of them can end. Since a pattern is only ever asked whether it matches somewhere, which of several
stretches is preferred does not matter.
-/

namespace Intercept.Pattern

open Intercept.Unicode (isWord)

/-! ## Expressions -/

/-- A condition on a position; `ascii` restricts word characters to ASCII. -/
inductive Anchor
  | textStart
  | textEnd
  | lineStart
  | lineEnd
  | lineStartCrlf
  | lineEndCrlf
  | wordBoundary (ascii : Bool)
  | noWordBoundary (ascii : Bool)
  | wordStart (ascii : Bool)
  | wordEnd (ascii : Bool)
  | wordStartHalf (ascii : Bool)
  | wordEndHalf (ascii : Bool)
deriving Repr, DecidableEq

/-- What a pattern asks of a stretch of text. A repetition without an upper bound has `none` for
it. -/
inductive Expr
  | empty
  | one (s : CharSet)
  | at (a : Anchor)
  | seq (a b : Expr)
  | alt (a b : Expr)
  | repeated (e : Expr) (least : Nat) (most : Option Nat)
deriving Repr, DecidableEq

/-! ## Positions -/

/-- Whether a character that may be missing is a word character. -/
def isWordAt (ascii : Bool) : Option Char → Bool
  | none => false
  | some c => if ascii then CharSet.asciiWord.contains c else isWord c

/-- Whether an anchor holds between two neighbours; a neighbour is missing at the ends of the text.
-/
def Anchor.holds (before after : Option Char) : Anchor → Bool
  | textStart => before.isNone
  | textEnd => after.isNone
  | lineStart => before.isNone || before == some '\n'
  | lineEnd => after.isNone || after == some '\n'
  | lineStartCrlf =>
    before.isNone || before == some '\n' || (before == some '\r' && after != some '\n')
  | lineEndCrlf =>
    after.isNone || after == some '\r' || (after == some '\n' && before != some '\r')
  | wordBoundary ascii => isWordAt ascii before != isWordAt ascii after
  | noWordBoundary ascii => isWordAt ascii before == isWordAt ascii after
  | wordStart ascii => !isWordAt ascii before && isWordAt ascii after
  | wordEnd ascii => isWordAt ascii before && !isWordAt ascii after
  | wordStartHalf ascii => !isWordAt ascii before
  | wordEndHalf ascii => !isWordAt ascii after

/-- The character in front of a position. -/
def charBefore (text : Array Char) (i : Nat) : Option Char :=
  if i = 0 then none else text[i - 1]?

/-! ## Meaning -/

/-- `e.Matches text i j` says that `e` holds of the stretch of `text` from `i` to `j`. -/
inductive Expr.Matches (text : Array Char) : Expr → Nat → Nat → Prop
  | empty (i : Nat) : Matches text .empty i i
  | one {s : CharSet} {i : Nat} {c : Char} :
      text[i]? = some c → s.contains c = true → Matches text (.one s) i (i + 1)
  | at {a : Anchor} {i : Nat} :
      a.holds (charBefore text i) text[i]? = true → Matches text (.at a) i i
  | seq {a b : Expr} {i j k : Nat} :
      Matches text a i j → Matches text b j k → Matches text (.seq a b) i k
  | altLeft {a b : Expr} {i j : Nat} : Matches text a i j → Matches text (.alt a b) i j
  | altRight {a b : Expr} {i j : Nat} : Matches text b i j → Matches text (.alt a b) i j
  | stop {e : Expr} {most : Option Nat} {i : Nat} : Matches text (.repeated e 0 most) i i
  | once {e : Expr} {least : Nat} {most : Option Nat} {i j k : Nat} :
      most ≠ some 0 → Matches text e i j →
      Matches text (.repeated e (least - 1) (most.map (· - 1))) j k →
      Matches text (.repeated e least most) i k

/-! ## Computing -/

/-- The union of two ascending lists of positions. -/
def mergePositions : List Nat → List Nat → List Nat
  | [], ys => ys
  | x :: xs, ys => go x xs (mergePositions xs) ys
where
  /-- Merges `x :: xs`, where `rest` merges `xs`. -/
  go (x : Nat) (xs : List Nat) (rest : List Nat → List Nat) : List Nat → List Nat
    | [] => x :: xs
    | y :: ys =>
      if x < y then x :: rest (y :: ys)
      else if y < x then y :: go x xs rest ys
      else x :: rest ys

/-- Everything that can be reached by taking steps any number of times. Steps never lead back, so
the least pending position is never reached again once it is passed. The fuel bounds the number of
positions that are passed. -/
def reachAll (step : List Nat → List Nat) : Nat → List Nat → List Nat
  | 0, pending => pending
  | _ + 1, [] => []
  | fuel + 1, i :: pending =>
    i :: reachAll step fuel (mergePositions ((step [i]).filter (i < ·)) pending)

/-- Takes exactly `n` steps. -/
def stepTimes (step : List Nat → List Nat) : Nat → List Nat → List Nat
  | 0, is => is
  | n + 1, is => if is.isEmpty then [] else stepTimes step n (step is)

/-- Takes up to `n` steps: `reached` is all that was reached before, `fresh` what was reached last
and not before. -/
def stepUpTo (step : List Nat → List Nat) : Nat → List Nat → List Nat → List Nat
  | 0, reached, _ => reached
  | n + 1, reached, fresh =>
    match (step fresh).filter (!reached.contains ·) with
    | [] => reached
    | next => stepUpTo step n (mergePositions next reached) next

namespace Expr

/-- All ends of stretches that begin at one of the given positions. -/
def ends (text : Array Char) : Expr → List Nat → List Nat
  | .empty, is => is
  | .one s, is =>
    is.filterMap fun i =>
      match text[i]? with
      | some c => if s.contains c then some (i + 1) else none
      | none => none
  | .at a, is => is.filter fun i => a.holds (charBefore text i) text[i]?
  | .seq a b, is =>
    match ends text a is with
    | [] => []
    | js => ends text b js
  | .alt a b, is => mergePositions (ends text a is) (ends text b is)
  | .repeated e least most, is =>
    let js := stepTimes (ends text e) least is
    match most with
    | none => reachAll (ends text e) (text.size + 1) js
    | some m => stepUpTo (ends text e) (m - least) js js

/-- Whether an expression holds of some stretch of a text. -/
def search (e : Expr) (text : Array Char) : Bool :=
  !(ends text e (List.range (text.size + 1))).isEmpty

/-- The expression that asks for the given ones, one after the other. -/
def seqs : List Expr → Expr
  | [] => .empty
  | [e] => e
  | e :: rest => .seq e (seqs rest)

/-- The expression that asks for one of the given ones; of none, it asks for nothing. -/
def alts : List Expr → Expr
  | [] => .empty
  | [e] => e
  | e :: rest => .alt e (alts rest)

/-- About how many bytes an expression takes when it is compiled. A bounded repetition is written out
as often as it may be taken, and each choice needs a state and the places where it goes on. -/
def weight : Expr → Nat
  | .empty => 0
  | .one s => s.weight
  | .at _ => stateSize
  | .seq a b => a.weight + b.weight
  | .alt a b => a.weight + b.weight + (stateSize + 8)
  | .repeated e least most =>
    match most with
    | none => e.weight * max least 1 + (stateSize + 8)
    | some m => e.weight * m + (m - least) * (stateSize + 8)

end Expr

end Intercept.Pattern
