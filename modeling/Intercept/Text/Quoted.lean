import Intercept.Text.Basic

/-!
# Intercept.Text.Quoted -- text shown between quotes

A name is shown between double quotes, so that nothing in it can be taken for anything else: quotes
and backslashes get a backslash, the common controls their letters, and every character that does
not show, or that would merge with its neighbour, its code point.
-/

namespace Intercept.Text

open Intercept.Unicode (isPrintable isGraphemeExtend)

/-- How one character is shown between quotes. -/
def quotedChar (c : Char) : List Char :=
  match c with
  | '\x00' => ['\\', '0']
  | '\t' => ['\\', 't']
  | '\r' => ['\\', 'r']
  | '\n' => ['\\', 'n']
  | '"' => ['\\', '"']
  | '\\' => ['\\', '\\']
  | c =>
    if isGraphemeExtend c || !isPrintable c then
      ['\\', 'u', '\x7b'] ++ hex c.toNat ++ ['\x7d']
    else [c]

/-- A text shown between quotes. -/
def quoted (cs : List Char) : List Char :=
  '"' :: (cs.flatMap quotedChar ++ ['"'])

end Intercept.Text
