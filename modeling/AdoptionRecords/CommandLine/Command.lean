import AdoptionRecords.CommandLine.Arguments
import AdoptionRecords.Listing
import AdoptionRecords.Log
import AdoptionRecords.Retention.Policy
import AdoptionRecords.UserUpdate

/-! The commands of the command line: their names, what arguments they take, and how they are made
of these.
-/

namespace AdoptionRecords.CommandLine

/-- What can be asked for. -/
inductive Command
  | transition (verb : String) (transition : Transition)
  | statistics
  | summary
  | recent (limit : Int) (kind : Option Kind)
  | list (kind : Kind) (limit : Int)
  | integrity
  | autoArchive (actor : Option Int)
  | cleanUpLog (days : Int)
  | flagPet (pet : Int)
  | unflagPet (pet : Int)
  | updateUser (update : UserUpdate)
  | deleteUser (user : Int)
  | worker
  | migrate
  deriving DecidableEq, Repr

/-- A command, with how and where it is carried out. -/
structure Invocation where
  json : Bool
  address : Option String
  command : Command
  deriving DecidableEq, Repr

namespace Command

/-- What a transition takes. -/
def transitionSignature : Signature :=
  ⟨[.kind, .key], [("actor", .key), ("reason", .text)]⟩

/-- Commands that take nothing. -/
def bareSignature : Signature :=
  ⟨[], []⟩

/-- Commands that take a key. -/
def keySignature : Signature :=
  ⟨[.key], []⟩

/-- The commands by name, with what they take. -/
def signatures : List (String × Signature) :=
  [("archive", transitionSignature), ("restore", transitionSignature),
    ("purge", transitionSignature), ("stats", bareSignature), ("summary", bareSignature),
    ("recent", ⟨[], [("limit", .long), ("entity", .kind)]⟩),
    ("list", ⟨[.kind], [("limit", .long)]⟩), ("integrity", bareSignature),
    ("auto-archive", ⟨[], [("actor", .key)]⟩), ("cleanup-log", ⟨[], [("days", .long)]⟩),
    ("flag-pet", keySignature), ("unflag-pet", keySignature),
    ("update-user", ⟨[.key], [("username", .text), ("email", .text), ("password", .text),
      ("role", .role)]⟩),
    ("delete-user", keySignature), ("worker", bareSignature), ("migrate", bareSignature)]

/-- The operations by the names of their commands. -/
def operation? : String → Option Operation
  | "archive" => some .archive
  | "restore" => some .restore
  | "purge" => some .permanentDelete
  | _ => none

/-- The value of an option as a key. -/
def keyOption (g : Given) (name : String) : Option Int :=
  (g.option? name).bind ArgumentType.readKey?

/-- The value of an option as a number, or the standard one. -/
def longOption (g : Given) (name : String) (standard : Int) : Int :=
  ((g.option? name).bind ArgumentType.readLong?).getD standard

/-- The update of a user that options describe; username, password and role are needed. -/
def update? (g : Given) (key : Int) : Option UserUpdate := do
  return {
    key
    username := ← g.option? "username"
    email := g.option? "email"
    password := ← g.option? "password"
    role := ← (← g.option? "role") |> Role.read? }

/-- The command with a name and arguments, if none that is needed is missing. -/
def ofGiven? (name : String) (g : Given) : Option Command :=
  match name, g.positional with
  | "stats", [] => some statistics
  | "summary", [] => some summary
  | "recent", [] =>
      some (recent (longOption g "limit" Log.standardLimit)
        ((g.option? "entity").bind Kind.read?))
  | "list", [kind] => do
      return list (← Kind.read? kind) (longOption g "limit" Listing.standardLimit)
  | "integrity", [] => some integrity
  | "auto-archive", [] => some (autoArchive (keyOption g "actor"))
  | "cleanup-log", [] =>
      some (cleanUpLog (longOption g "days" Retention.Policy.standard.logKeepDays))
  | "flag-pet", [pet] => do return flagPet (← ArgumentType.readKey? pet)
  | "unflag-pet", [pet] => do return unflagPet (← ArgumentType.readKey? pet)
  | "update-user", [user] => do return updateUser (← update? g (← ArgumentType.readKey? user))
  | "delete-user", [user] => do return deleteUser (← ArgumentType.readKey? user)
  | "worker", [] => some worker
  | "migrate", [] => some migrate
  | verb, [kind, key] => do
      return transition verb {
        operation := ← operation? verb
        kind := ← Kind.read? kind
        key := ← ArgumentType.readKey? key
        actor := keyOption g "actor"
        reason := (g.option? "reason").getD "" }
  | _, _ => none

end Command

/-- What a command line comes to: something to carry out, or a text about the program, or nothing
that is understood.
-/
inductive Reading
  | run (invocation : Invocation)
  | version (command : Option String)
  | help
  | refused
  deriving DecidableEq, Repr

namespace Reading

/-- What a stop comes to, before a command or after its name. -/
def ofStop (command : Option String) : Stop → Reading
  | .help => help
  | .version => version command
  | .refused => refused

/-- Reads the arguments after the name of a command. An address after the name goes before one
that stands in front of it.
-/
def ofCommand (before : Given) (name : String) (rest : List String) : Reading :=
  match Command.signatures.lookup name with
  | none => refused
  | some signature =>
      match signature.scan false .none rest with
      | .error stop => ofStop (some name) stop
      | .ok (after, _) =>
          match Command.ofGiven? name after with
          | none => refused
          | some command =>
              run {
                json := before.json || after.json
                address := (after.option? addressOption).or (before.option? addressOption)
                command }

/-- Reads a wish for help about the program or about a command. -/
def ofHelp : List String → Reading
  | [] => help
  | [name] => if (Command.signatures.lookup name).isSome || name = "help" then help else refused
  | _ => refused

/-- Reads the arguments of a command line. -/
def ofArguments (arguments : List String) : Reading :=
  match Signature.global.scan true .none arguments with
  | .error stop => ofStop none stop
  | .ok (_, []) => refused
  | .ok (before, name :: rest) => if name = "help" then ofHelp rest else ofCommand before name rest

end Reading

end AdoptionRecords.CommandLine
