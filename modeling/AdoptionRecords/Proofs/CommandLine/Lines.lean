import Mathlib.Data.List.Forall2
import AdoptionRecords.Proofs.CommandLine.JsonFlag
import AdoptionRecords.Proofs.Reading.Digits
import AdoptionRecords.Proofs.Reading.Forms

/-! Commands spelled out. Every command that the arguments of some command line come to can be written
with all its values: options with an equals sign, and positional arguments behind two hyphens. It is
read back with the same values.
-/

namespace AdoptionRecords.CommandLine

open Text

-----------------------------------------------------------------------------------------
-- The spelling
-----------------------------------------------------------------------------------------

/-- A number as an argument. -/
def numberText (n : Int) : String :=
  String.ofList (Decimal.ofInt n)

/-- An option with its value. -/
def assignment (option : String × String) : String :=
  "--" ++ option.1 ++ "=" ++ option.2

/-- A number that a key can be. -/
def IsKey (n : Int) : Prop :=
  Decimal.min32 ≤ n ∧ n ≤ Decimal.max32

/-- A number of 64 bits. -/
def IsLong (n : Int) : Prop :=
  Decimal.min64 ≤ n ∧ n ≤ Decimal.max64

instance (n : Int) : Decidable (IsLong n) :=
  inferInstanceAs (Decidable (_ ∧ _))

namespace Command

/-- The name of a command. -/
def name : Command → String
  | transition verb _ => verb
  | statistics => "stats"
  | summary => "summary"
  | recent .. => "recent"
  | list .. => "list"
  | integrity => "integrity"
  | autoArchive _ => "auto-archive"
  | cleanUpLog _ => "cleanup-log"
  | flagPet _ => "flag-pet"
  | unflagPet _ => "unflag-pet"
  | updateUser _ => "update-user"
  | deleteUser _ => "delete-user"
  | worker => "worker"
  | migrate => "migrate"

/-- The options that give the values of a command. -/
def options : Command → List (String × String)
  | transition _ t => actorOption t.actor ++ [("reason", t.reason)]
  | recent limit kind =>
      ("limit", numberText limit) :: (kind.map fun k => ("entity", k.name)).toList
  | list _ limit => [("limit", numberText limit)]
  | autoArchive actor => actorOption actor
  | cleanUpLog days => [("days", numberText days)]
  | updateUser u =>
      ("username", u.username) :: (u.email.map fun email => ("email", email)).toList
        ++ [("password", u.password), ("role", u.role.name)]
  | _ => []
where
  actorOption (actor : Option Int) : List (String × String) :=
    (actor.map fun key => ("actor", numberText key)).toList

/-- The positional arguments that give the values of a command. -/
def positional : Command → List String
  | transition _ t => [t.kind.name, numberText t.key]
  | list kind _ => [kind.name]
  | flagPet key | unflagPet key | deleteUser key => [numberText key]
  | updateUser u => [numberText u.key]
  | _ => []

/-- A command as it is spelled out. -/
def line (c : Command) : List String :=
  c.name :: c.options.map assignment ++ "--" :: c.positional

/-- The values that arguments can give to a command. -/
def IsSpellable : Command → Prop
  | transition verb t =>
      operation? verb = some t.operation ∧ IsKey t.key ∧ ∀ actor ∈ t.actor, IsKey actor
  | recent limit _ => IsLong limit
  | list _ limit => IsLong limit
  | autoArchive actor => ∀ key ∈ actor, IsKey key
  | cleanUpLog days => IsLong days
  | flagPet key | unflagPet key | deleteUser key => IsKey key
  | updateUser u => IsKey u.key
  | statistics | summary | integrity | worker | migrate => True

end Command

-----------------------------------------------------------------------------------------
-- Arguments that are read back
-----------------------------------------------------------------------------------------

variable {n : Int} {s : Signature} {g : Given}

theorem readKey?_numberText (key : IsKey n) : ArgumentType.readKey? (numberText n) = some n := by
  rw [ArgumentType.readKey?, numberText, String.toList_ofList]
  exact Decimal.readSigned?_ofInt key

theorem readLong?_numberText (long : IsLong n)
    : ArgumentType.readLong? (numberText n) = some n := by
  rw [ArgumentType.readLong?, numberText, String.toList_ofList]
  exact Decimal.readSigned?_ofInt long

theorem read?_kindName (k : Kind) : Kind.read? k.name = some k := by
  cases k <;> decide

theorem accepts_key (key : IsKey n) : ArgumentType.key.accepts (numberText n) = true := by
  rw [ArgumentType.accepts, readKey?_numberText key]
  rfl

theorem accepts_long (long : IsLong n) : ArgumentType.long.accepts (numberText n) = true := by
  rw [ArgumentType.accepts, readLong?_numberText long]
  rfl

theorem accepts_text (value : String) : ArgumentType.text.accepts value = true :=
  (rfl)

theorem accepts_kind (k : Kind) : ArgumentType.kind.accepts k.name = true := by
  rw [ArgumentType.accepts, read?_kindName]
  rfl

theorem accepts_role (r : Role) : ArgumentType.role.accepts r.name = true := by
  rw [ArgumentType.accepts, Role.read?_name]
  rfl

/-- The name of an option ends at the equals sign, whatever its value is. -/
theorem ofArgument_assignment {option : String × String} (plain : '=' ∉ option.1.toList)
    : Token.ofArgument (assignment option) = .named option.1 (some option.2) := by
  obtain ⟨name, value⟩ := option
  have spelled : (assignment (name, value)).toList
      = '-' :: '-' :: (name.toList ++ '=' :: value.toList) := by
    simp [assignment]
  have letters : ∀ c ∈ name.toList, decide (c ≠ '=') = true := by
    intro c member
    refine decide_eq_true ?_
    rintro rfl
    exact plain member
  have named : (name.toList ++ '=' :: value.toList).takeWhile (· ≠ '=') = name.toList := by
    rw [List.takeWhile_append_of_pos letters, List.takeWhile_cons_of_neg (by simp),
      List.append_nil]
  have token : Token.ofNamed (name.toList ++ '=' :: value.toList) = .named name (some value) := by
    simp only [Token.ofNamed, named, List.drop_left, String.ofList_toList]
  rw [Token.ofArgument, spelled]
  cases after : name.toList ++ '=' :: value.toList with
  | nil => simp at after
  | cons c rest =>
      rw [after] at token
      exact token

namespace Signature

/-- An option of a signature, with a value of its type. -/
def Takes (s : Signature) (option : String × String) : Prop :=
  '=' ∉ option.1.toList
    ∧ ∃ type, s.optionType? option.1 = some type ∧ type.accepts option.2 = true

theorem takes {name value : String} {type : ArgumentType} (typed : s.optionType? name = some type)
    (plain : '=' ∉ name.toList) (accepts : type.accepts value = true)
    : s.Takes (name, value) :=
  ⟨plain, type, typed, accepts⟩

/-- Options and positional arguments that fit a signature. -/
structure Fits (s : Signature) (options : List (String × String)) (positional : List String)
    : Prop where
  taken : ∀ option ∈ options, s.Takes option
  distinct : (options.map Prod.fst).Nodup
  accepted : List.Forall₂ (fun type value => type.accepts value = true) s.positional positional

/-- Positional arguments of the types that are still wanted are added, by induction on them. -/
theorem addPositionals_of_accepted {types : List ArgumentType} {values : List String}
    (wanted : s.positional.drop g.positional.length = types)
    (accepted : List.Forall₂ (fun type value => type.accepts value = true) types values)
    : s.addPositionals g values = .ok { g with positional := g.positional ++ values } := by
  induction accepted generalizing g with
  | nil => rw [addPositionals, List.append_nil]
  | @cons type value types values fits _ ih =>
      have next : s.positional[g.positional.length]? = some type := by
        rw [← List.head?_drop, wanted, List.head?_cons]
      have added : s.addPositional g value
          = .ok { g with positional := g.positional ++ [value] } := by
        simp only [addPositional, next, if_pos fits]
      rw [addPositionals, added]
      dsimp only
      rw [ih]
      · simp only [List.append_assoc, List.singleton_append]
      · rw [List.length_append, List.length_singleton, ← List.tail_drop, wanted, List.tail_cons]

/-- What fits is scanned, by induction on the options. -/
theorem scans_of_fits {options : List (String × String)} {values : List String}
    (fits : s.Fits options values)
    : s.Scans false .none (options.map assignment ++ "--" :: values) ⟨values, options, false⟩ [] := by
  suffices scans : ∀ given rest : List (String × String), options = given ++ rest →
      s.Scans false ⟨[], given, false⟩ (rest.map assignment ++ "--" :: values)
        ⟨values, options, false⟩ [] from
    scans [] options rfl
  intro given rest all
  induction rest generalizing given with
  | nil =>
      rw [List.append_nil] at all
      subst all
      exact .separated (by decide) (addPositionals_of_accepted rfl fits.accepted)
  | cons option rest ih =>
      have member : option ∈ options := by
        rw [all]
        exact List.mem_append_right given List.mem_cons_self
      obtain ⟨plain, type, typed, accepts⟩ := fits.taken option member
      have new : given.lookup option.1 = none := by
        have distinct := fits.distinct
        rw [all, List.map_append, List.map_cons, List.nodup_append] at distinct
        rw [List.lookup_eq_none_iff]
        intro earlier before
        rw [bne_iff_ne]
        exact (distinct.2.2 _ (List.mem_map_of_mem before) _ List.mem_cons_self).symm
      refine .assigned (ofArgument_assignment plain) ?_
        (ih (given ++ [option]) ?_)
      · simp only [addOption, typed, Given.option?, new, accepts]
        rfl
      · rw [all, List.append_assoc, List.singleton_append]

end Signature

-----------------------------------------------------------------------------------------
-- Commands that are read back
-----------------------------------------------------------------------------------------

namespace Command

variable {c : Command}

/-- Only the commands of transitions stand for operations. -/
theorem operation?_cases {verb : String} {operation : Operation}
    (found : operation? verb = some operation)
    : verb = "archive" ∧ operation = .archive ∨ verb = "restore" ∧ operation = .restore
      ∨ verb = "purge" ∧ operation = .permanentDelete := by
  unfold operation? at found
  split at found
  · cases found
    exact .inl ⟨rfl, rfl⟩
  · cases found
    exact .inr (.inl ⟨rfl, rfl⟩)
  · cases found
    exact .inr (.inr ⟨rfl, rfl⟩)
  · cases found

/-- What is given to a command that is spelled out. -/
def given (c : Command) : Given :=
  ⟨c.positional, c.options, false⟩

/-- The actor is read from what is given, or there is none. -/
theorem keyOption_given (values : List String) (json : Bool) {more : List (String × String)}
    {actor : Option Int} (keys : ∀ key ∈ actor, IsKey key) (other : more.lookup "actor" = none)
    : keyOption ⟨values, options.actorOption actor ++ more, json⟩ "actor" = actor := by
  cases actor with
  | none => simp [keyOption, Given.option?, options.actorOption, other]
  | some key =>
      simp [keyOption, Given.option?, options.actorOption, readKey?_numberText (keys key rfl)]

/-- The values of a command are read from what is given to it. -/
theorem ofGiven?_given (spellable : c.IsSpellable) : ofGiven? c.name c.given = some c := by
  cases c with
  | transition verb t =>
      obtain ⟨operation, kind, key, actor, reason⟩ := t
      obtain ⟨named, isKey, actors⟩ := spellable
      have other : List.lookup "actor" [("reason", reason)] = none := rfl
      have read := keyOption_given [kind.name, numberText key] false actors other
      have told : (Given.mk [kind.name, numberText key]
          (options.actorOption actor ++ [("reason", reason)]) false).option? "reason"
          = some reason := by
        cases actor <;> rfl
      rcases operation?_cases named with ⟨rfl, rfl⟩ | ⟨rfl, rfl⟩ | ⟨rfl, rfl⟩ <;>
        simp [ofGiven?, name, given, positional, options, operation?, read, told,
          readKey?_numberText isKey, read?_kindName]
  | recent limit kind =>
      cases kind <;>
        simp [ofGiven?, name, given, positional, options, longOption, Given.option?, List.lookup_cons,
          readLong?_numberText spellable, read?_kindName]
  | list kind limit =>
      simp [ofGiven?, name, given, positional, options, longOption, Given.option?,
        readLong?_numberText spellable, read?_kindName]
  | autoArchive actor =>
      have read := keyOption_given [] false spellable List.lookup_nil
      rw [List.append_nil] at read
      exact congrArg (fun actor => some (autoArchive actor)) read
  | cleanUpLog days =>
      simp [ofGiven?, name, given, positional, options, longOption, Given.option?,
        readLong?_numberText spellable]
  | flagPet key | unflagPet key | deleteUser key =>
      simp [ofGiven?, name, given, positional, readKey?_numberText spellable]
  | updateUser u =>
      obtain ⟨key, username, email, password, role⟩ := u
      cases email <;>
        simp [ofGiven?, name, given, positional, options, update?, Given.option?, List.lookup_cons,
          readKey?_numberText spellable]
  | _ => rfl

theorem takes_actor {actor : Option Int} (keys : ∀ key ∈ actor, IsKey key)
    (typed : s.optionType? "actor" = some .key)
    : ∀ option ∈ options.actorOption actor, s.Takes option := by
  cases actor with
  | none => nofun
  | some key =>
      refine List.forall_mem_singleton.mpr ?_
      exact Signature.takes typed (by decide) (accepts_key (keys key rfl))

/-- What is given to a command that is spelled out fits the signature of the command. -/
theorem fits_given (spellable : c.IsSpellable)
    : ∃ signature, signatures.lookup c.name = some signature
      ∧ signature.Fits c.options c.positional := by
  cases c with
  | transition verb t =>
      obtain ⟨operation, kind, key, actor, reason⟩ := t
      obtain ⟨named, isKey, actors⟩ := spellable
      refine ⟨transitionSignature, ?_, ?_, ?_, ?_⟩
      · rcases operation?_cases named with ⟨rfl, -⟩ | ⟨rfl, -⟩ | ⟨rfl, -⟩ <;> rfl
      · refine List.forall_mem_append.mpr
          ⟨takes_actor actors rfl, List.forall_mem_singleton.mpr ?_⟩
        exact Signature.takes rfl (by decide) (accepts_text reason)
      · cases actor <;> simp [options, options.actorOption]
      · exact .cons (accepts_kind kind) (.cons (accepts_key isKey) .nil)
  | recent limit kind =>
      refine ⟨_, rfl, List.forall_mem_cons.mpr ⟨?_, ?_⟩, ?_, .nil⟩
      · exact Signature.takes rfl (by decide) (accepts_long spellable)
      · cases kind with
        | none => nofun
        | some kind =>
            refine List.forall_mem_singleton.mpr ?_
            exact Signature.takes rfl (by decide) (accepts_kind kind)
      · cases kind <;> simp [options]
  | list kind limit =>
      refine ⟨_, rfl, List.forall_mem_singleton.mpr ?_, ?_, .cons (accepts_kind kind) .nil⟩
      · exact Signature.takes rfl (by decide) (accepts_long spellable)
      · simp [options]
  | autoArchive actor =>
      refine ⟨_, rfl, takes_actor spellable rfl, ?_, .nil⟩
      cases actor <;> simp [options, options.actorOption]
  | cleanUpLog days =>
      refine ⟨_, rfl, List.forall_mem_singleton.mpr ?_, ?_, .nil⟩
      · exact Signature.takes rfl (by decide) (accepts_long spellable)
      · simp [options]
  | flagPet key | unflagPet key | deleteUser key =>
      exact ⟨keySignature, rfl, nofun, .nil, .cons (accepts_key spellable) .nil⟩
  | updateUser u =>
      obtain ⟨key, username, email, password, role⟩ := u
      refine ⟨_, rfl, ?_, ?_, .cons (accepts_key spellable) .nil⟩
      · refine List.forall_mem_append.mpr ⟨List.forall_mem_cons.mpr ⟨?_, ?_⟩,
          List.forall_mem_cons.mpr ⟨?_, List.forall_mem_singleton.mpr ?_⟩⟩
        · exact Signature.takes rfl (by decide) (accepts_text username)
        · cases email with
          | none => nofun
          | some email =>
              refine List.forall_mem_singleton.mpr ?_
              exact Signature.takes rfl (by decide) (accepts_text email)
        · exact Signature.takes rfl (by decide) (accepts_text password)
        · exact Signature.takes rfl (by decide) (accepts_role role)
      · cases email <;> simp [options]
  | _ => exact ⟨bareSignature, rfl, nofun, .nil, .nil⟩

/-- A command that is spelled out does not give an address. -/
theorem address_given (c : Command) : c.given.option? addressOption = none := by
  unfold given Given.option? addressOption
  cases c with
  | transition verb t => cases actor : t.actor <;> simp [options, options.actorOption, actor]
  | autoArchive actor => cases actor <;> simp [options, options.actorOption]
  | recent limit kind => cases kind <;> simp [options, List.lookup_cons]
  | updateUser u => cases email : u.email <;> simp [options, List.lookup_cons, email]
  | _ => rfl

/-- A command that is spelled out is read back. -/
theorem ofArguments_line (spellable : c.IsSpellable)
    : Reading.ofArguments c.line = .run ⟨false, none, c⟩ := by
  have names : ∀ entry ∈ signatures,
      Token.ofArgument entry.1 = .positional entry.1 ∧ entry.1 ≠ "help" := by
    decide
  obtain ⟨signature, found, fits⟩ := fits_given spellable
  obtain ⟨token, command⟩ := names _ (mem_of_lookup found)
  rw [Reading.ofArguments_eq_run_iff]
  refine ⟨.none, c.name, c.options.map assignment ++ "--" :: c.positional,
    .command token rfl, command, ?_⟩
  rw [Reading.ofCommand_eq_run_iff]
  refine ⟨signature, c.given, [], c, found, Signature.scans_of_fits fits,
    ofGiven?_given spellable, ?_⟩
  rw [address_given]
  rfl

theorem isKey_of_keyOption {g : Given} {name : String} : ∀ key ∈ keyOption g name, IsKey key := by
  intro key read
  obtain ⟨text, -, read⟩ := Option.bind_eq_some_iff.mp read
  exact Decimal.within_of_readSigned? read

theorem isLong_longOption {g : Given} {name : String} {standard : Int} (long : IsLong standard)
    : IsLong (longOption g name standard) := by
  unfold longOption
  cases read : (g.option? name).bind ArgumentType.readLong? with
  | none => exact long
  | some n =>
      obtain ⟨text, -, read⟩ := Option.bind_eq_some_iff.mp read
      exact Decimal.within_of_readSigned? read

theorem key_of_update? {g : Given} {key : Int} {u : UserUpdate} (read : update? g key = some u)
    : u.key = key := by
  simp only [update?, Option.bind_eq_bind, Option.pure_def, Option.bind_eq_some_iff] at read
  obtain ⟨_, -, _, -, _, -, _, -, ⟨⟩⟩ := read
  rfl

/-- The values that arguments give to a command can be spelled out. -/
theorem isSpellable_of_ofGiven? {name : String} {g : Given} (read : ofGiven? name g = some c)
    : c.IsSpellable := by
  have limit : IsLong Log.standardLimit := by decide
  have listLimit : IsLong Listing.standardLimit := by decide
  have keepDays : IsLong Retention.Policy.standard.logKeepDays := by decide
  unfold ofGiven? at read
  simp only [Option.bind_eq_bind, Option.pure_def] at read
  split at read
  case h_3 =>
    cases read
    exact isLong_longOption limit
  case h_4 =>
    obtain ⟨kind, -, ⟨⟩⟩ := Option.bind_eq_some_iff.mp read
    exact isLong_longOption listLimit
  case h_6 =>
    cases read
    exact isKey_of_keyOption
  case h_7 =>
    cases read
    exact isLong_longOption keepDays
  case h_8 | h_9 | h_11 =>
    obtain ⟨key, found, ⟨⟩⟩ := Option.bind_eq_some_iff.mp read
    exact Decimal.within_of_readSigned? found
  case h_10 =>
    obtain ⟨key, found, read⟩ := Option.bind_eq_some_iff.mp read
    obtain ⟨u, update, ⟨⟩⟩ := Option.bind_eq_some_iff.mp read
    rw [IsSpellable, key_of_update? update]
    exact Decimal.within_of_readSigned? found
  case h_14 =>
    obtain ⟨operation, named, read⟩ := Option.bind_eq_some_iff.mp read
    obtain ⟨kind, -, read⟩ := Option.bind_eq_some_iff.mp read
    obtain ⟨key, found, ⟨⟩⟩ := Option.bind_eq_some_iff.mp read
    exact ⟨named, Decimal.within_of_readSigned? found, isKey_of_keyOption⟩
  case h_15 => cases read
  all_goals
    cases read
    trivial

/-- Whatever command arguments come to, they come to the same as the command spelled out. -/
theorem ofArguments_line_of_parsed {arguments : List String} {i : Invocation}
    (parsed : Reading.ofArguments arguments = .run i)
    : Reading.ofArguments i.command.line = .run ⟨false, none, i.command⟩ := by
  obtain ⟨before, name, rest, -, -, read⟩ := Reading.ofArguments_eq_run_iff.mp parsed
  obtain ⟨signature, after, left, c, -, -, made, rfl⟩ := Reading.ofCommand_eq_run_iff.mp read
  exact ofArguments_line (isSpellable_of_ofGiven? made)

end Command

end AdoptionRecords.CommandLine
