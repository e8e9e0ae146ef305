import AdoptionRecords.Proofs.CommandLine.Lines
import AdoptionRecords.Proofs.Reading.Numerals
import Mathlib.Data.List.TakeWhile

/-! What a command line asks for. The name of a command stands behind options of the program, and behind
the name stand the values of the command, as positional arguments and as options. The name decides which
call of the library is asked for, and the values are those of the call. Whatever command arguments come
to, it is the one that they ask for.
-/

namespace AdoptionRecords.CommandLine

open Text

-----------------------------------------------------------------------------------------
-- Arguments
-----------------------------------------------------------------------------------------

/-- An argument that is a value by itself: a single hyphen, or one that starts with no hyphen. -/
def IsBare (argument : String) : Prop :=
  argument = "-" ∨ argument.toList.head? ≠ some '-'

/-- How arguments look that are taken for a token. -/
inductive Token.Looks : String → Token → Prop
  | separator : Looks "--" separator
  | assigned {name value : String} (plain : '=' ∉ name.toList)
    : Looks (assignment (name, value)) (named name (some value))
  | option {name : String} (plain : '=' ∉ name.toList) : Looks ("--" ++ name) (named name none)
  | short {argument : String} {letter : Char} : Looks argument (short letter)
  | bare {argument : String} (bare : IsBare argument) : Looks argument (positional argument)

/-- (Spells arguments positional options) holds if the arguments give the positional arguments and the
options, each of these with its value: behind an equals sign, or as the next argument. The flag for JSON
output gives neither, and behind two hyphens alone everything is positional.
-/
inductive Spells : List String → List String → List (String × String) → Prop
  | nil : Spells [] [] []
  | positional {value : String} {rest positional : List String} {options : List (String × String)}
    (bare : IsBare value) (more : Spells rest positional options)
    : Spells (value :: rest) (value :: positional) options
  | assigned {name value : String} {rest positional : List String}
    {options : List (String × String)} (plain : '=' ∉ name.toList) (other : name ≠ jsonFlag)
    (more : Spells rest positional options)
    : Spells (assignment (name, value) :: rest) positional ((name, value) :: options)
  | option {name value : String} {rest positional : List String} {options : List (String × String)}
    (plain : '=' ∉ name.toList) (other : name ≠ jsonFlag) (bare : IsBare value)
    (more : Spells rest positional options)
    : Spells (("--" ++ name) :: value :: rest) positional ((name, value) :: options)
  | flag {rest positional : List String} {options : List (String × String)}
    (more : Spells rest positional options)
    : Spells (flagArgument :: rest) positional options
  | separated {values : List String} : Spells ("--" :: values) values []

/-- What stands behind two hyphens is split at its first equals sign. -/
theorem Token.looks_ofNamed (cs : List Char)
    : Looks ("--" ++ String.ofList cs) (ofNamed cs) := by
  have split := List.takeWhile_append_dropWhile (p := (· ≠ '=')) (l := cs)
  have plain : '=' ∉ cs.takeWhile (· ≠ '=') := fun member => by
    simpa using List.mem_takeWhile_imp member
  have behind : cs.drop (cs.takeWhile (· ≠ '=')).length = cs.dropWhile (· ≠ '=') := by
    have dropped : (cs.takeWhile (· ≠ '=') ++ cs.dropWhile (· ≠ '=')).drop
        (cs.takeWhile (· ≠ '=')).length = cs.dropWhile (· ≠ '=') := List.drop_left
    rwa [split] at dropped
  rw [ofNamed, behind]
  generalize cs.takeWhile (· ≠ '=') = name at plain split ⊢
  cases rest : cs.dropWhile (· ≠ '=') with
  | nil =>
      rw [rest, List.append_nil] at split
      rw [split] at plain ⊢
      exact .option (by rwa [String.toList_ofList])
  | cons c value =>
      have equals : c = '=' := by
        have first := List.head?_dropWhile_not (· ≠ '=') cs
        rw [rest] at first
        simpa using first
      rw [rest, equals] at split
      have spelled : "--" ++ String.ofList cs
          = assignment (String.ofList name, String.ofList value) := by
        apply String.toList_inj.mp
        simp [assignment, ← split]
      rw [spelled]
      exact .assigned (by rwa [String.toList_ofList])

/-- Every argument looks like the token for which it is taken, by cases on its first characters. -/
theorem Token.looks_ofArgument (argument : String) : Looks argument (ofArgument argument) := by
  obtain ⟨cs, rfl⟩ : ∃ cs, argument = String.ofList cs := ⟨_, (String.ofList_toList ..).symm⟩
  rw [ofArgument, String.toList_ofList]
  split
  · exact .separator
  · next rest _ =>
      have spelled : String.ofList ('-' :: '-' :: rest) = "--" ++ String.ofList rest := by
        apply String.toList_inj.mp
        rw [String.toList_append, String.toList_ofList, String.toList_ofList, String.toList_ofList]
        rfl
      rw [spelled]
      exact looks_ofNamed rest
  · exact .short
  · next _ _ single =>
      refine .bare ?_
      rw [IsBare, String.toList_ofList]
      cases cs with
      | nil => exact .inr (Option.some_ne_none _).symm
      | cons c rest =>
          by_cases hyphen : c = '-'
          · subst hyphen
            cases rest with
            | nil => exact .inl rfl
            | cons letter rest => exact (single letter rest rfl).elim
          · exact .inr fun first => hyphen (Option.some.inj first)

/-- What an argument is taken for is what it looks like. -/
theorem Token.looks_of_eq {argument : String} {token : Token} (h : ofArgument argument = token)
    : Looks argument token :=
  h ▸ looks_ofArgument argument

/-- What can be the value of an option stands for itself. -/
theorem isBare_of_isValue {argument : String} (h : isValue argument = true) : IsBare argument := by
  unfold isValue at h
  split at h
  · next value token =>
      cases Token.looks_of_eq token with
      | bare bare => exact bare
  · cases h

namespace Signature

variable {s : Signature} {follows : Bool} {g g' h : Given} {args left : List String}

theorem eq_of_addPositional {value : String} (added : s.addPositional g value = .ok g')
    : g' = { g with positional := g.positional ++ [value] } := by
  unfold addPositional at added
  split at added
  · split at added <;> cases added
    rfl
  · cases added

/-- Positional arguments are added behind those that were given, by induction on them. -/
theorem eq_of_addPositionals {values : List String} (added : s.addPositionals g values = .ok g')
    : g' = { g with positional := g.positional ++ values } := by
  induction values generalizing g with
  | nil =>
      cases added
      rw [List.append_nil]
  | cons value rest ih =>
      rw [addPositionals] at added
      split at added
      · next first =>
          rw [ih added, eq_of_addPositional first, List.append_assoc, List.singleton_append]
      · cases added

/-- An option is added behind those that were given, if its value is of its type. -/
theorem eq_of_addOption {name value : String} (added : s.addOption g name value = .ok g')
    : g' = { g with options := g.options ++ [(name, value)] }
      ∧ ∃ type, s.optionType? name = some type ∧ type.accepts value = true := by
  unfold addOption at added
  split at added
  · next type typed =>
      split at added
      · next fits =>
          cases added
          exact ⟨rfl, type, typed, (Bool.and_eq_true_iff.mp fits).2⟩
      · cases added
  · cases added

/-- The flag for JSON output is not added as an option. -/
theorem PassesFlag.ne_of_added (passes : s.PassesFlag) {name value : String}
    (added : s.addOption g name value = .ok g')
    : name ≠ jsonFlag := by
  rintro rfl
  obtain ⟨-, type, typed, -⟩ := eq_of_addOption added
  have unwanted := passes.unwanted
  rw [typed] at unwanted
  cases unwanted

/-- What arguments are scanned as is what they spell, behind what was given before; by induction on the
scan.
-/
theorem Scans.spells (passes : s.PassesFlag) (scans : s.Scans follows g args h left)
    : ∃ taken positional options, args = taken ++ left ∧ Spells taken positional options
      ∧ h.positional = g.positional ++ positional ∧ h.options = g.options ++ options := by
  induction scans with
  | done => exact ⟨[], [], [], rfl, .nil, (List.append_nil _).symm, (List.append_nil _).symm⟩
  | @separated g h argument rest token added =>
      cases Token.looks_of_eq token
      rw [eq_of_addPositionals added]
      exact ⟨_, rest, [], (List.append_nil _).symm, .separated, rfl, (List.append_nil _).symm⟩
  | @command g argument value rest token =>
      cases Token.looks_of_eq token
      exact ⟨[], [], [], rfl, .nil, (List.append_nil _).symm, (List.append_nil _).symm⟩
  | @positional g g' h argument value rest left token _ added _ ih =>
      obtain ⟨taken, positional, options, rfl, spells, values, named⟩ := ih
      cases Token.looks_of_eq token with
      | bare bare =>
          refine ⟨_, _, options, rfl, .positional bare spells, ?_, ?_⟩
          · rw [values, eq_of_addPositional added, List.append_assoc, List.singleton_append]
          · rw [named, eq_of_addPositional added]
  | @assigned g g' h argument name value rest left token added _ ih =>
      obtain ⟨taken, positional, options, rfl, spells, values, named⟩ := ih
      cases Token.looks_of_eq token with
      | assigned plain =>
          refine ⟨_, positional, _, rfl, .assigned plain (passes.ne_of_added added) spells, ?_, ?_⟩
          · rw [values, (eq_of_addOption added).1]
          · rw [named, (eq_of_addOption added).1, List.append_assoc, List.singleton_append]
  | @option g g' h argument name value rest left token _ isValue added _ ih =>
      obtain ⟨taken, positional, options, rfl, spells, values, named⟩ := ih
      cases Token.looks_of_eq token with
      | option plain =>
          refine ⟨_, positional, _, rfl, .option plain (passes.ne_of_added added)
            (isBare_of_isValue isValue) spells, ?_, ?_⟩
          · rw [values, (eq_of_addOption added).1]
          · rw [named, (eq_of_addOption added).1, List.append_assoc, List.singleton_append]
  | @flag g h argument rest left token _ _ _ ih =>
      obtain ⟨taken, positional, options, rfl, spells, values, named⟩ := ih
      cases Token.looks_of_eq token with
      | option =>
          have same : "--" ++ jsonFlag = flagArgument := by decide
          rw [same]
          exact ⟨_, positional, options, rfl, .flag spells, values, named⟩

/-- Nothing positional stands in front of the name of a command, by induction on the scan. -/
theorem Scans.positional_eq (scans : s.Scans follows g args h left) (wanted : follows = true)
    (more : left ≠ [])
    : h.positional = g.positional := by
  induction scans with
  | done => rfl
  | separated => exact (more rfl).elim
  | command => rfl
  | positional _ unwanted => cases wanted.symm.trans unwanted
  | assigned _ added _ ih => rw [ih more, (eq_of_addOption added).1]
  | option _ _ _ added _ ih => rw [ih more, (eq_of_addOption added).1]
  | flag _ _ _ _ ih => exact ih more

/-- Where no command follows, no argument is left over; by induction on the scan. -/
theorem Scans.left_eq_nil (scans : s.Scans follows g args h left) (last : follows = false)
    : left = [] := by
  induction scans with
  | done | separated => rfl
  | command _ wanted => cases last.symm.trans wanted
  | positional _ _ _ _ ih | assigned _ _ _ ih | option _ _ _ _ _ ih | flag _ _ _ _ ih => exact ih

/-- The options that were given have values of their types. -/
def Admits (s : Signature) (g : Given) : Prop :=
  ∀ option ∈ g.options, ∃ type, s.optionType? option.1 = some type ∧ type.accepts option.2 = true

/-- The options that are scanned have values of their types, by induction on the scan. -/
theorem Scans.admits (scans : s.Scans follows g args h left) (before : s.Admits g)
    : s.Admits h := by
  induction scans with
  | done | command => exact before
  | separated _ added => rwa [eq_of_addPositionals added]
  | positional _ _ added _ ih =>
      refine ih ?_
      rwa [eq_of_addPositional added]
  | assigned _ added _ ih | option _ _ _ added _ ih =>
      refine ih ?_
      obtain ⟨rfl, typed⟩ := eq_of_addOption added
      exact List.forall_mem_append.mpr ⟨before, List.forall_mem_singleton.mpr typed⟩
  | flag _ _ _ _ ih => exact ih before

/-- The value of an option is of the type that the option has. -/
theorem Admits.accepts (admits : s.Admits g) {name value : String} {type : ArgumentType}
    (given : g.option? name = some value) (typed : s.optionType? name = some type)
    : type.accepts value = true := by
  obtain ⟨front, back, split, -⟩ := List.lookup_eq_some_iff.mp given
  have member : (name, value) ∈ g.options := by
    rw [split]
    exact List.mem_append_right front List.mem_cons_self
  obtain ⟨type', typed', accepts⟩ := admits _ member
  cases typed.symm.trans typed'
  exact accepts

end Signature

-----------------------------------------------------------------------------------------
-- Names and values
-----------------------------------------------------------------------------------------

/-- A text stands for a key, a number of 32 bits. -/
def StandsForKey (text : String) (key : Int) : Prop :=
  Decimal.Numeral true text.toList key ∧ -2147483648 ≤ key ∧ key ≤ 2147483647

/-- A text stands for a number of 64 bits. -/
def StandsForLong (text : String) (n : Int) : Prop :=
  Decimal.Numeral true text.toList n ∧ -9223372036854775808 ≤ n ∧ n ≤ 9223372036854775807

/-- A text stands for a kind. -/
def StandsForKind (text : String) (kind : Kind) : Prop :=
  Kind.read? text = some kind

/-- The values that are given for a transition: the kind and the key of the record, and perhaps an actor
and a reason, which is empty otherwise.
-/
structure GivesTransition (positional : List String) (options : List (String × String))
    (t : Transition) : Prop where
  record : ∃ kind key, positional = [kind, key] ∧ StandsForKind kind t.kind ∧ StandsForKey key t.key
  actor : Option.Rel StandsForKey (options.lookup "actor") t.actor
  reason : t.reason = (options.lookup "reason").getD ""

/-- The values that are given for the update of a user: the key, and what the user is to be. -/
structure GivesUpdate (positional : List String) (options : List (String × String)) (u : UserUpdate)
    : Prop where
  user : ∃ key, positional = [key] ∧ StandsForKey key u.key
  username : options.lookup "username" = some u.username
  email : options.lookup "email" = u.email
  password : options.lookup "password" = some u.password
  role : options.lookup "role" = some u.role.name

/-- A number is given by an option, or it is the standard one. -/
def GivesLong (options : List (String × String)) (name : String) (standard n : Int) : Prop :=
  ∃ given, Option.Rel StandsForLong (options.lookup name) given ∧ n = given.getD standard

/-- (Asks positional options name c) holds if the name of a command asks for c with the values that
positional arguments and options give.
-/
inductive Asks (positional : List String) (options : List (String × String))
    : String → Command → Prop
  | archive {t : Transition} (operation : t.operation = .archive)
    (values : GivesTransition positional options t)
    : Asks positional options "archive" (.transition "archive" t)
  | restore {t : Transition} (operation : t.operation = .restore)
    (values : GivesTransition positional options t)
    : Asks positional options "restore" (.transition "restore" t)
  | purge {t : Transition} (operation : t.operation = .permanentDelete)
    (values : GivesTransition positional options t)
    : Asks positional options "purge" (.transition "purge" t)
  | stats (none : positional = []) : Asks positional options "stats" .statistics
  | summary (none : positional = []) : Asks positional options "summary" .summary
  | recent {limit : Int} {kind : Option Kind} (none : positional = [])
    (limited : GivesLong options "limit" 20 limit)
    (only : Option.Rel StandsForKind (options.lookup "entity") kind)
    : Asks positional options "recent" (.recent limit kind)
  | list {text : String} {kind : Kind} {limit : Int} (one : positional = [text])
    (stands : StandsForKind text kind) (limited : GivesLong options "limit" 100 limit)
    : Asks positional options "list" (.list kind limit)
  | integrity (none : positional = []) : Asks positional options "integrity" .integrity
  | autoArchive {actor : Option Int} (none : positional = [])
    (acts : Option.Rel StandsForKey (options.lookup "actor") actor)
    : Asks positional options "auto-archive" (.autoArchive actor)
  | cleanUpLog {days : Int} (none : positional = []) (keeps : GivesLong options "days" 365 days)
    : Asks positional options "cleanup-log" (.cleanUpLog days)
  | flagPet {text : String} {pet : Int} (one : positional = [text]) (stands : StandsForKey text pet)
    : Asks positional options "flag-pet" (.flagPet pet)
  | unflagPet {text : String} {pet : Int} (one : positional = [text])
    (stands : StandsForKey text pet)
    : Asks positional options "unflag-pet" (.unflagPet pet)
  | updateUser {u : UserUpdate} (values : GivesUpdate positional options u)
    : Asks positional options "update-user" (.updateUser u)
  | deleteUser {text : String} {user : Int} (one : positional = [text])
    (stands : StandsForKey text user)
    : Asks positional options "delete-user" (.deleteUser user)
  | worker (none : positional = []) : Asks positional options "worker" .worker
  | migrate (none : positional = []) : Asks positional options "migrate" .migrate

/-- Arguments ask for a command: options of the program, the name of the command, and its values. -/
def Command.IsAskedBy (c : Command) (arguments : List String) : Prop :=
  ∃ before name rest front positional options, arguments = before ++ name :: rest
    ∧ Spells before [] front ∧ Spells rest positional options ∧ Asks positional options name c

section Values

variable {s : Signature} {g : Given} {name text : String}

theorem standsForKey_iff {key : Int} : StandsForKey text key ↔ ArgumentType.readKey? text = some key :=
  Decimal.readSigned?_eq_some_iff.symm

theorem standsForLong_iff {n : Int} : StandsForLong text n ↔ ArgumentType.readLong? text = some n :=
  Decimal.readSigned?_eq_some_iff.symm

/-- What is read from an option is what its value stands for, if only such values are accepted. -/
theorem rel_bind_of_accepted {α : Type} {Stands : String → α → Prop} {read : String → Option α}
    {given : Option String} (stands : ∀ {value a}, Stands value a ↔ read value = some a)
    (accepted : ∀ value, given = some value → (read value).isSome = true)
    : Option.Rel Stands given (given.bind read) := by
  cases given with
  | none => exact .none
  | some value =>
      obtain ⟨a, found⟩ := Option.isSome_iff_exists.mp (accepted value rfl)
      rw [Option.bind_some, found]
      exact .some (stands.mpr found)

theorem rel_keyOption (admits : s.Admits g) (typed : s.optionType? name = some .key)
    : Option.Rel StandsForKey (g.options.lookup name) (Command.keyOption g name) :=
  rel_bind_of_accepted standsForKey_iff fun _ given => admits.accepts given typed

theorem givesLong_longOption (admits : s.Admits g) (typed : s.optionType? name = some .long)
    (standard : Int)
    : GivesLong g.options name standard (Command.longOption g name standard) :=
  ⟨_, rel_bind_of_accepted standsForLong_iff fun _ given => admits.accepts given typed, rfl⟩

theorem rel_kindOption (admits : s.Admits g) (typed : s.optionType? name = some .kind)
    : Option.Rel StandsForKind (g.options.lookup name) ((g.option? name).bind Kind.read?) := by
  refine rel_bind_of_accepted Iff.rfl ?_
  intro value given
  have accepted := admits.accepts given typed
  rwa [ArgumentType.accepts] at accepted

theorem givesUpdate_of_update? {key : Int} {u : UserUpdate} (one : g.positional = [text])
    (stands : StandsForKey text key) (read : Command.update? g key = some u)
    : GivesUpdate g.positional g.options u := by
  simp only [Command.update?, Option.bind_eq_bind, Option.pure_def, Option.bind_eq_some_iff] at read
  obtain ⟨username, named, password, secret, role, given, r, found, ⟨⟩⟩ := read
  have same : r.name = role := by
    simpa using List.find?_some found
  refine ⟨⟨text, one, stands⟩, named, rfl, secret, ?_⟩
  rw [← same] at given
  exact given

/-- The name of an operation asks for it, with the values that are given for a transition. -/
theorem asks_of_operation? {operation : Operation} {kind key : String} {k : Kind} {n : Int}
    (found : Command.signatures.lookup name = some s) (admits : s.Admits g)
    (named : Command.operation? name = some operation) (two : g.positional = [kind, key])
    (standsForKind : StandsForKind kind k) (standsForKey : StandsForKey key n)
    : Asks g.positional g.options name
        (.transition name
          ⟨operation, k, n, Command.keyOption g "actor", (g.option? "reason").getD ""⟩) := by
  have values (takes : s = Command.transitionSignature)
      : GivesTransition g.positional g.options
        ⟨operation, k, n, Command.keyOption g "actor", (g.option? "reason").getD ""⟩ := by
    subst takes
    exact ⟨⟨kind, key, two, standsForKind, standsForKey⟩, rel_keyOption admits rfl, rfl⟩
  rcases Command.operation?_cases named with ⟨rfl, rfl⟩ | ⟨rfl, rfl⟩ | ⟨rfl, rfl⟩
  · exact .archive rfl (values (Option.some.inj found).symm)
  · exact .restore rfl (values (Option.some.inj found).symm)
  · exact .purge rfl (values (Option.some.inj found).symm)

/-- A command that is made of a name and of what was given is asked for by them, by cases on the name. -/
theorem asks_of_ofGiven? {c : Command} (found : Command.signatures.lookup name = some s)
    (admits : s.Admits g) (read : Command.ofGiven? name g = some c)
    : Asks g.positional g.options name c := by
  unfold Command.ofGiven? at read
  simp only [Option.bind_eq_bind, Option.pure_def] at read
  split at read
  case h_1 none =>
    cases read
    exact .stats none
  case h_2 none =>
    cases read
    exact .summary none
  case h_3 none =>
    cases found
    cases read
    exact .recent none (givesLong_longOption admits rfl 20) (rel_kindOption admits rfl)
  case h_4 text one =>
    cases found
    obtain ⟨kind, stands, ⟨⟩⟩ := Option.bind_eq_some_iff.mp read
    exact .list one stands (givesLong_longOption admits rfl 100)
  case h_5 none =>
    cases read
    exact .integrity none
  case h_6 none =>
    cases found
    cases read
    exact .autoArchive none (rel_keyOption admits rfl)
  case h_7 none =>
    cases found
    cases read
    exact .cleanUpLog none (givesLong_longOption admits rfl 365)
  case h_8 text one =>
    obtain ⟨pet, stands, ⟨⟩⟩ := Option.bind_eq_some_iff.mp read
    exact .flagPet one (standsForKey_iff.mpr stands)
  case h_9 text one =>
    obtain ⟨pet, stands, ⟨⟩⟩ := Option.bind_eq_some_iff.mp read
    exact .unflagPet one (standsForKey_iff.mpr stands)
  case h_10 text one =>
    obtain ⟨key, stands, read⟩ := Option.bind_eq_some_iff.mp read
    obtain ⟨u, update, ⟨⟩⟩ := Option.bind_eq_some_iff.mp read
    exact .updateUser (givesUpdate_of_update? one (standsForKey_iff.mpr stands) update)
  case h_11 text one =>
    obtain ⟨user, stands, ⟨⟩⟩ := Option.bind_eq_some_iff.mp read
    exact .deleteUser one (standsForKey_iff.mpr stands)
  case h_12 none =>
    cases read
    exact .worker none
  case h_13 none =>
    cases read
    exact .migrate none
  case h_14 verb _ _ kind key two =>
    obtain ⟨operation, named, read⟩ := Option.bind_eq_some_iff.mp read
    obtain ⟨k, standsForKind, read⟩ := Option.bind_eq_some_iff.mp read
    obtain ⟨n, standsForKey, ⟨⟩⟩ := Option.bind_eq_some_iff.mp read
    exact asks_of_operation? found admits named two standsForKind (standsForKey_iff.mpr standsForKey)
  case h_15 => cases read

end Values

/-- Whatever command arguments come to, they ask for it. -/
theorem Command.isAskedBy_of_parsed {arguments : List String} {i : Invocation}
    (parsed : Reading.ofArguments arguments = .run i)
    : i.command.IsAskedBy arguments := by
  obtain ⟨given, name, rest, front, -, read⟩ := Reading.ofArguments_eq_run_iff.mp parsed
  obtain ⟨signature, after, left, c, found, scans, made, rfl⟩ := Reading.ofCommand_eq_run_iff.mp read
  have bare := front.positional_eq rfl (List.cons_ne_nil name rest)
  have all := scans.left_eq_nil rfl
  have admits := scans.admits (List.forall_mem_nil _)
  obtain ⟨before, extra, options, rfl, spells, values, -⟩ := front.spells Reading.passesFlag_global
  obtain ⟨taken, positional, named, rfl, spells', values', named'⟩ :=
    scans.spells (Command.passesFlag_of_lookup found)
  rw [bare] at values
  cases values
  subst all
  have asks := asks_of_ofGiven? found admits made
  rw [values', named'] at asks
  exact ⟨before, name, taken ++ [], options, positional, named, rfl, spells,
    (List.append_nil taken).symm ▸ spells', asks⟩

end AdoptionRecords.CommandLine
