import Intercept.Fault
import Intercept.Text.Basic

/-!
# Intercept.Log.Directive -- what is logged of a module

A directive is a target, perhaps with spans and fields in brackets, and behind `=` a level. Places
in a directive are counted without the blanks in front of it, but its parts are cut from the whole
of it, so that blanks at its ends are not harmless.
-/

namespace Intercept.Log

/-- The words for levels. -/
def levelWords : List String := ["trace", "debug", "info", "warn", "error"]

/-- Whether a text spells a level or says that nothing is logged, by a word or by a number. -/
def isDirectiveLevel (cs : List Char) : Bool :=
  cs.isEmpty
    || ("off" :: levelWords).any (fun w => Text.sameAsciiLower w.toList cs)
    || ((Text.decimalValue? ((Text.after? ['+'] cs).getD cs)).any (· ≤ 5))

/-- Where the reader of a directive is. A number tells where a level or a field began. -/
inductive Place
  | front
  | target
  | span
  | field (start : Nat)
  | fields
  | behindSpan
  | level (start : Nat)
  | done
deriving Repr, DecidableEq

/-- Goes on if a part spells a level. -/
def checkLevel (part : List Char) (next : Place) : Except DirectiveFault Place :=
  if isDirectiveLevel part then .ok next else .error .unknownLevel

/-- Takes in the character at a place of a text. -/
def step (text : List Char) (place : Place) (at_ : Char × Nat) : Except DirectiveFault Place :=
  let (c, i) := at_
  match place, c with
  | .front, '[' => .ok .span
  | .front, c =>
    if c == '-' || c == ':' || c == '_' || Unicode.isAlphabetic c || (Unicode.category c).isNumber
    then .ok .target else .error .malformed
  | .target, '=' => .ok (.level (i + 1))
  | .target, '[' => .ok .span
  | .target, ',' => .ok .done
  | .target, _ => .ok .target
  | .behindSpan, '=' => .ok (.level (i + 1))
  | .span, ']' => .ok .behindSpan
  | .span, '\x7b' => .ok (.field (i + 1))
  | .span, _ => .ok .span
  | .field start, '\x7d' => if start < i then .ok .fields else .error .malformed
  | .field start, ',' => if start < i then .ok (.field (i + 1)) else .error .malformed
  | .field start, _ => .ok (.field start)
  | .fields, ']' => .ok .behindSpan
  | .level start, ',' => checkLevel ((text.take i).drop start) .done
  | .level start, _ => .ok (.level start)
  | _, _ => .error .malformed

/-- Whether a text is a directive, and why not. -/
def checkDirective (text : List Char) : Except DirectiveFault Unit := do
  match ← (Text.trim text).zipIdx.foldlM (step text) .front with
  | .level start => let _ ← checkLevel (text.drop start) .done
  | .target => return
  | .behindSpan => return
  | .done => return
  | _ => throw .malformed

end Intercept.Log
