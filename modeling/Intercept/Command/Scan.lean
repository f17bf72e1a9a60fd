import Intercept.Command.Option

/-!
# Intercept.Command.Scan -- the words of a command line

The words are read from left to right. An option that takes a value waits for the next word, and a
word that begins with a dash is no value. What a value is worth is only looked at when the next
option comes or the words end, so that an unknown option is noticed first. Behind `--` no word is an
option or a command.
-/

namespace Intercept.Command

/-! ## What is wrong -/

/-- Why a command line is refused, or what it asks for instead of a command. -/
inductive Usage
  | helpWanted
  | versionWanted
  | nothingGiven
  | commandMissing
  | commandUnknown (word : String)
  | argumentUnknown (word : String)
  | argumentMissing (option : OptionName)
  | valueMissing (option : OptionName)
  | valueInvalid (option : OptionName) (value : String)
  | valueUnexpected (option : OptionName)
  | optionRepeated (option : OptionName)
deriving Repr, DecidableEq

/-! ## Options with their values -/

/-- Options with their values, in the order in which they came. -/
abbrev Given := List (OptionName × String)

namespace Given

/-- The first value of an option. -/
def value? (g : Given) (o : OptionName) : Option String :=
  g.lookup o

/-- All values of an option. -/
def values (g : Given) (o : OptionName) : List String :=
  (g.filter fun p => p.1 = o).map Prod.snd

/-- Takes in an option with its value, if it may stand there with this value. -/
def take (g : Given) (o : OptionName) (value : String) : Except Usage Given :=
  if o.form ≠ .repeatable ∧ (g.value? o).isSome then .error (.optionRepeated o)
  else if o.form = .single .path ∧ value.isEmpty then .error (.valueMissing o)
  else if o.form = .single .port ∧ (portOf? value.toList).isNone then
    .error (.valueInvalid o value)
  else .ok (g ++ [(o, value)])

end Given

/-! ## Reading words -/

/-- What was read: options with their values, and one whose value was not looked at yet or is still
to come. -/
structure Scan where
  given : Given := []
  last : Option (OptionName × Option String) := none
deriving Repr

namespace Scan

/-- Whether the last option still has no value. -/
def isWaiting (s : Scan) : Bool :=
  match s.last with
  | some (_, none) => true
  | _ => false

/-- Looks at the value of the last option. -/
def settle (s : Scan) : Except Usage Scan :=
  match s.last with
  | none => .ok s
  | some (o, none) => .error (.valueMissing o)
  | some (o, some value) => (s.given.take o value).map fun given => { given }

/-- An option that is given with its value in one word, or needs none. -/
def attach (s : Scan) (o : OptionName) (value : String) : Except Usage Scan := do
  let s ← s.settle
  return { given := ← s.given.take o value }

/-- An option whose value is still to come. -/
def await (s : Scan) (o : OptionName) : Except Usage Scan := do
  return { ← s.settle with last := some (o, none) }

/-- A value for the option that waits for one. -/
def fill (s : Scan) (value : String) : Scan :=
  match s.last with
  | some (o, _) => { s with last := some (o, some value) }
  | none => s

/-- An option, with the value that was written behind it in the same word, if any. -/
def option (s : Scan) (o : OptionName) (value : Option (List Char)) : Except Usage Scan :=
  match o.form, value with
  | .single _, some v => s.attach o (String.ofList v)
  | .repeatable, some v => s.attach o (String.ofList v)
  | .single _, none => s.await o
  | .repeatable, none => s.await o
  | _, some _ => .error (.valueUnexpected o)
  | .flag, none => s.attach o ""
  | .help, none => do let _ ← s.settle; throw .helpWanted
  | .version, none => do let _ ← s.settle; throw .versionWanted

/-- A word behind two dashes: the name of an option, and perhaps `=` and its value. -/
def longWord (place : Option CommandName) (s : Scan) (body : List Char) : Except Usage Scan :=
  let (name, value) :=
    match Text.splitOnce? '=' body with
    | some (name, value) => (name, some value)
    | none => (body, none)
  match OptionName.ofLong? place name with
  | some o => s.option o value
  | none => .error (.argumentUnknown (String.ofList ('-' :: '-' :: name)))

/-- A word behind one dash: letters of options; the first that takes a value has it from the rest of
the word, from which a `=` in front is taken off. -/
def shortWord (place : Option CommandName) : Scan → List Char → Except Usage Scan
  | s, [] => .ok s
  | s, letter :: rest =>
    match OptionName.ofShort? place letter with
    | none => .error (.argumentUnknown (String.ofList ['-', letter]))
    | some o =>
      match o.form, rest with
      | .single _, [] => s.await o
      | .repeatable, [] => s.await o
      | .single _, '=' :: value => s.attach o (String.ofList value)
      | .repeatable, '=' :: value => s.attach o (String.ofList value)
      | .single _, value => s.attach o (String.ofList value)
      | .repeatable, value => s.attach o (String.ofList value)
      | _, _ => do shortWord place (← s.option o none) rest

/-- What a word is that is neither an option nor a value: nothing that may stand there. -/
def strayWord (place : Option CommandName) (word : String) : Usage :=
  if place.isSome then .argumentUnknown word else .commandUnknown word

/-- What is made of words behind `--`: none may stand there, not even the name of a command. -/
def behindDashes (place : Option CommandName) (s : Scan) : List String →
    Except Usage (Scan × Option (CommandName × List String))
  | [] => .ok (s, none)
  | word :: _ =>
    if (CommandName.ofWord? word).isSome || word == helpWord then .error (.argumentUnknown word)
    else .error (strayWord place word)

/-- What is made of the word for help and the words behind it, which may name a command. -/
def helpFor : List String → Usage
  | [] => .helpWanted
  | word :: rest =>
    if (CommandName.ofWord? word).isSome || word == helpWord then
      match rest with
      | [] => .helpWanted
      | next :: _ => .commandUnknown next
    else .commandUnknown word

/-- Reads words up to a command or the end. Commands are looked for only in front, where `place` is
`none`. -/
def words (place : Option CommandName) (s : Scan) : List String →
    Except Usage (Scan × Option (CommandName × List String))
  | [] => .ok (s, none)
  | word :: rest =>
    match if place.isNone && !s.isWaiting then CommandName.ofWord? word else none with
    | some command => .ok (s, some (command, rest))
    | none =>
      if place.isNone && !s.isWaiting && word == helpWord then .error (helpFor rest)
      else
        match word.toList with
        | ['-', '-'] => behindDashes place s rest
        | '-' :: '-' :: body => do words place (← longWord place s body) rest
        | '-' :: letter :: body => do words place (← shortWord place s (letter :: body)) rest
        | _ =>
          if s.isWaiting then words place (s.fill word) rest
          else .error (strayWord place word)

end Scan

end Intercept.Command
