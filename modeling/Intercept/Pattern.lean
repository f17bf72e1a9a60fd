import Intercept.Fault
import Intercept.Pattern.Reader

/-!
# Intercept.Pattern -- compiled patterns

A pattern is the text that somebody wrote together with the expression that it spells. A text that
spells none, or one that would take too much room, cannot be compiled.
-/

namespace Intercept

/-- A pattern and the expression that it spells. -/
structure Pattern where
  source : String
  expr : Pattern.Expr
deriving Repr, DecidableEq

namespace Pattern

/-- The room that a compiled pattern may take, in bytes. The limit guards against patterns that blow
up when their repetitions are written out; how much a pattern takes is only estimated. -/
def maxWeight : Nat := 10 * 1024 * 1024

/-- The pattern that a text spells. -/
def compile? (source : String) : Option Pattern :=
  match parse? source.toList with
  | some expr => if expr.weight ≤ maxWeight then some { source, expr } else none
  | none => none

/-- Whether a pattern matches somewhere in a text. -/
def isMatch (p : Pattern) (text : String) : Bool :=
  p.expr.search text.toList.toArray

/-- The pattern that asks for a text: what has a meaning of its own stands behind a backslash. -/
def escape (cs : List Char) : List Char :=
  cs.flatMap fun c => if isMeta c then ['\\', c] else [c]

end Pattern

/-- Compiles a pattern, or names the one that cannot be compiled. -/
def compilePattern (source : String) : Except Fault Pattern :=
  match Pattern.compile? source with
  | some p => .ok p
  | none => .error (.invalidPattern source)

end Intercept
