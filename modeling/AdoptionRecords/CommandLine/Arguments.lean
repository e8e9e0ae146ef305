import AdoptionRecords.Role
import AdoptionRecords.Text.Decimal

/-! Command-line arguments: a command with positional arguments and named options. Arguments are
taken from left to right, and the first that is not understood decides that the line is refused,
as the first wish for help or for the version is granted.
-/

namespace AdoptionRecords.CommandLine

open Text

/-- What an argument can be. -/
inductive ArgumentType
  | kind
  | role
  | key
  | long
  | text
  deriving DecidableEq, Repr

namespace ArgumentType

/-- Reads the key of a record. -/
def readKey? (s : String) : Option Int :=
  Decimal.readSigned? Decimal.min32 Decimal.max32 s.toList

/-- Reads a number of 64 bits. -/
def readLong? (s : String) : Option Int :=
  Decimal.readSigned? Decimal.min64 Decimal.max64 s.toList

/-- Whether a text is an argument of a type. -/
def accepts (type : ArgumentType) (s : String) : Bool :=
  match type with
  | kind => (Kind.read? s).isSome
  | role => (Role.read? s).isSome
  | key => (readKey? s).isSome
  | long => (readLong? s).isSome
  | text => true

end ArgumentType

/-- What a command takes: positional arguments, all of them needed, and named options. -/
structure Signature where
  positional : List ArgumentType
  options : List (String × ArgumentType)
  deriving DecidableEq, Repr

/-- The option for the address of the store, which stands before or after the command. -/
def addressOption : String :=
  "database-url"

/-- The flag for JSON output, which stands before or after the command. -/
def jsonFlag : String :=
  "json"

/-- What was given: positional arguments in order, options with their values, and the flag. -/
structure Given where
  positional : List String
  options : List (String × String)
  json : Bool
  deriving DecidableEq, Repr

namespace Given

/-- Nothing given. -/
def none : Given :=
  ⟨[], [], false⟩

/-- The value of an option. -/
def option? (g : Given) (name : String) : Option String :=
  g.options.lookup name

end Given

/-- What an argument looks like. -/
inductive Token
  | positional (value : String)
  | named (name : String) (value : Option String)
  | short (letter : Char)
  | separator
  deriving DecidableEq, Repr

namespace Token

/-- Splits the name of an option from a value after an equals sign. -/
def ofNamed (cs : List Char) : Token :=
  let name := cs.takeWhile (· ≠ '=')
  match cs.drop name.length with
  | _ :: value => named (String.ofList name) (some (String.ofList value))
  | [] => named (String.ofList name) none

/-- What an argument looks like. A single hyphen is a value. -/
def ofArgument (s : String) : Token :=
  match s.toList with
  | ['-', '-'] => separator
  | '-' :: '-' :: rest => ofNamed rest
  | '-' :: letter :: _ => short letter
  | _ => positional s

end Token

/-- Whether an argument can be the value of the option before it. -/
def isValue (s : String) : Bool :=
  match Token.ofArgument s with
  | .positional _ => true
  | _ => false

/-- Why arguments are not carried out as a command. -/
inductive Stop
  | help
  | version
  | refused
  deriving DecidableEq, Repr

namespace Signature

/-- The signature of what stands before the command. -/
def global : Signature :=
  ⟨[], []⟩

/-- The type of an option, if the command has it. -/
def optionType? (s : Signature) (name : String) : Option ArgumentType :=
  if name = addressOption then some .text else s.options.lookup name

/-- Adds a positional argument, if one more is wanted and this is of its type. -/
def addPositional (s : Signature) (g : Given) (value : String) : Except Stop Given :=
  match s.positional[g.positional.length]? with
  | some type =>
      if type.accepts value then .ok { g with positional := g.positional ++ [value] }
      else .error .refused
  | none => .error .refused

/-- Adds positional arguments one after another. -/
def addPositionals (s : Signature) (g : Given) : List String → Except Stop Given
  | [] => .ok g
  | value :: rest =>
      match s.addPositional g value with
      | .ok g => s.addPositionals g rest
      | .error stop => .error stop

/-- Adds the value of an option, if the option was not given before and this is of its type. -/
def addOption (s : Signature) (g : Given) (name value : String) : Except Stop Given :=
  match s.optionType? name with
  | some type =>
      if (g.option? name).isNone && type.accepts value then
        .ok { g with options := g.options ++ [(name, value)] }
      else .error .refused
  | none => .error .refused

/-- Adds what stands alone after two hyphens: the flag, or a wish. -/
def addFlag (g : Given) (name : String) : Except Stop Given :=
  if name = jsonFlag then
    if g.json then .error .refused else .ok { g with json := true }
  else if name = "help" then .error .help
  else if name = "version" then .error .version
  else .error .refused

/-- What a single letter after a hyphen asks for. -/
def stopOfLetter (letter : Char) : Stop :=
  if letter = 'h' then .help
  else if letter = 'V' then .version
  else .refused

/-- Takes arguments until a positional one that is not wanted here, if such may follow; then the
rest is left over.
-/
def scan (s : Signature) (commandFollows : Bool) (g : Given)
    : List String → Except Stop (Given × List String)
  | [] => .ok (g, [])
  | argument :: rest =>
      match Token.ofArgument argument with
      | .separator =>
          -- After two hyphens alone, everything is positional, and no command is looked for.
          match s.addPositionals g rest with
          | .ok g => .ok (g, [])
          | .error stop => .error stop
      | .short letter => .error (stopOfLetter letter)
      | .positional value =>
          if commandFollows then .ok (g, value :: rest)
          else
            match s.addPositional g value with
            | .ok g => s.scan commandFollows g rest
            | .error stop => .error stop
      | .named name (some value) =>
          match s.addOption g name value with
          | .ok g => s.scan commandFollows g rest
          | .error stop => .error stop
      | .named name none =>
          if (s.optionType? name).isSome then
            -- A value that starts with a hyphen must be given with an equals sign.
            match rest with
            | value :: rest =>
                if isValue value then
                  match s.addOption g name value with
                  | .ok g => s.scan commandFollows g rest
                  | .error stop => .error stop
                else .error .refused
            | [] => .error .refused
          else
            match addFlag g name with
            | .ok g => s.scan commandFollows g rest
            | .error stop => .error stop

end Signature

end AdoptionRecords.CommandLine
