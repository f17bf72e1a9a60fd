import Intercept.Pattern
import Intercept.Request
import Intercept.Verdict

/-!
# Intercept.Mocker -- bodies made up for certain endpoints

A mock rule pairs a pattern with a body. Of the rules of a mocker the first that matches the locator
gives the body that takes the place of the response's.
-/

namespace Intercept

/-- A pattern of locators and the body for them. -/
structure MockRule where
  pattern : Pattern
  body : String
deriving Repr, DecidableEq

namespace MockRule

/-- The rule of a pattern given as text. -/
def compile (pattern body : String) : Except Fault MockRule :=
  (compilePattern pattern).map fun p => { pattern := p, body }

/-- Whether a rule is about a locator. -/
def isMatch (rule : MockRule) (url : String) : Bool :=
  rule.pattern.isMatch url

end MockRule

/-- Mock rules, in the order in which they are tried. -/
structure Mocker where
  rules : List MockRule := []
deriving Repr, DecidableEq

namespace Mocker

/-- Adds a rule behind the others. -/
def push (m : Mocker) (rule : MockRule) : Mocker :=
  { rules := m.rules ++ [rule] }

/-- The mocker of patterns with their bodies; the first pattern that cannot be compiled is the
fault. -/
def compile (rules : List (String × String)) : Except Fault Mocker :=
  (rules.mapM fun p => MockRule.compile p.1 p.2).map fun rules => { rules }

/-- The first rule that is about a locator. -/
def find? (m : Mocker) (url : String) : Option MockRule :=
  m.rules.find? (·.isMatch url)

/-- Gives the body of the first rule that is about the request. -/
def classify (m : Mocker) (r : Request) : Verdict :=
  match m.find? r.url with
  | some rule => .replace rule.body
  | none => .untouched

end Mocker

end Intercept
