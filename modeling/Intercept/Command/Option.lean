import Intercept.Host.Address

/-!
# Intercept.Command.Option -- commands and their options

The program has three commands. An option is called by a long name behind two dashes, and some by
one letter behind one dash. Some options belong to every command and may stand in front of it as
well.
-/

namespace Intercept.Command

/-! ## Commands -/

/-- What the program can be told to do. -/
inductive CommandName
  | serve
  | classify
  | generate
deriving Repr, DecidableEq

namespace CommandName

/-- The word that stands for a command. -/
def word : CommandName → String
  | serve => "serve"
  | classify => "classify"
  | generate => "generate"

/-- The command that a word names. -/
def ofWord? (w : String) : Option CommandName :=
  [serve, classify, generate].find? fun c => c.word == w

end CommandName

/-- The word that asks for help in the place of a command. -/
def helpWord : String := "help"

/-! ## Options -/

/-- What may stand as the value of an option. -/
inductive ValueKind
  | text
  | path
  | port
deriving Repr, DecidableEq

/-- How an option is used. -/
inductive OptionForm
  /-- Alone, and once. -/
  | flag
  /-- With a value, and once. -/
  | single (kind : ValueKind)
  /-- With a value, and as often as wanted. -/
  | repeatable
  /-- To ask for help. -/
  | help
  /-- To ask for the version. -/
  | version
deriving Repr, DecidableEq

/-- The options of all commands. -/
inductive OptionName
  | config
  | logLevel
  | logFile
  | listenAddr
  | port
  | routes
  | url
  | userAgent
  | header
  | direct
  | sources
  | output
  | name
  | help
  | version
deriving Repr, DecidableEq

namespace OptionName

/-- The name behind two dashes. -/
def long : OptionName → String
  | config => "config"
  | logLevel => "log-level"
  | logFile => "log-file"
  | listenAddr => "listen-addr"
  | port => "port"
  | routes => "routes"
  | url => "url"
  | userAgent => "user-agent"
  | header => "header"
  | direct => "direct"
  | sources => "sources"
  | output => "output"
  | name => "name"
  | help => "help"
  | version => "version"

/-- The letter behind one dash. -/
def short? : OptionName → Option Char
  | header => some 'H'
  | help => some 'h'
  | version => some 'V'
  | _ => none

/-- How an option is used. -/
def form : OptionName → OptionForm
  | config => .single .path
  | logLevel => .single .text
  | logFile => .single .text
  | listenAddr => .single .text
  | port => .single .port
  | routes => .single .path
  | url => .single .text
  | userAgent => .single .text
  | header => .repeatable
  | direct => .flag
  | sources => .single .path
  | output => .single .path
  | name => .single .text
  | help => .help
  | version => .version

/-- The options that belong to every command. -/
def shared : List OptionName := [config, logLevel, logFile]

/-- The options that may stand behind a command, or in front of it. -/
def available : Option CommandName → List OptionName
  | none => shared ++ [help, version]
  | some .serve => shared ++ [listenAddr, port, routes, help]
  | some .classify => shared ++ [url, userAgent, header, routes, direct, help]
  | some .generate => shared ++ [sources, output, name, help]

/-- The available option with a long name. -/
def ofLong? (place : Option CommandName) (name : List Char) : Option OptionName :=
  (available place).find? fun o => o.long.toList == name

/-- The available option with a letter. -/
def ofShort? (place : Option CommandName) (letter : Char) : Option OptionName :=
  (available place).find? fun o => o.short? == some letter

end OptionName

/-! ## Values -/

/-- The port that a text spells. A sign may stand in front, but only zero is not made wrong by a
minus. -/
def portOf? (cs : List Char) : Option Nat :=
  match cs with
  | '-' :: digits => (Text.decimalValue? digits).bind fun n => if n = 0 then some 0 else none
  | '+' :: digits => inRange digits
  | digits => inRange digits
where
  /-- A number up to the largest port. -/
  inRange (digits : List Char) : Option Nat :=
    (Text.decimalValue? digits).bind fun n => if n ≤ Host.lastPort then some n else none

end Intercept.Command
