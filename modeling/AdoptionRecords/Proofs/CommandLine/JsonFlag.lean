import AdoptionRecords.CommandLine.Run

/-! The flag for JSON output among the arguments. It may stand in front of the other arguments or between
them, once before the command and once after it. What the other arguments come to is the same with the
flag and without.
-/

namespace AdoptionRecords.CommandLine

/-- What was given, but with the flag or without it. -/
def Given.flagged (g : Given) (json : Bool) : Given :=
  { g with json }

/-- The argument that gives the flag. -/
def flagArgument : String :=
  "--json"

theorem ofArgument_flagArgument : Token.ofArgument flagArgument = .named jsonFlag none := by
  decide

namespace Signature

-----------------------------------------------------------------------------------------
-- Scans that succeed
-----------------------------------------------------------------------------------------

/-- How arguments are taken one after another, if none is refused: what was given before them and after,
and which are left over.
-/
inductive Scans (s : Signature) (follows : Bool)
    : Given → List String → Given → List String → Prop where
  | done {g} : Scans s follows g [] g []
  | separated {g h argument rest} (token : Token.ofArgument argument = .separator)
    (added : s.addPositionals g rest = .ok h)
    : Scans s follows g (argument :: rest) h []
  | command {g argument value rest} (token : Token.ofArgument argument = .positional value)
    (wanted : follows = true)
    : Scans s follows g (argument :: rest) g (value :: rest)
  | positional {g g' h argument value rest left}
    (token : Token.ofArgument argument = .positional value) (unwanted : follows = false)
    (added : s.addPositional g value = .ok g') (more : Scans s follows g' rest h left)
    : Scans s follows g (argument :: rest) h left
  | assigned {g g' h argument name value rest left}
    (token : Token.ofArgument argument = .named name (some value))
    (added : s.addOption g name value = .ok g') (more : Scans s follows g' rest h left)
    : Scans s follows g (argument :: rest) h left
  | option {g g' h argument name value rest left}
    (token : Token.ofArgument argument = .named name none)
    (wanted : (s.optionType? name).isSome = true) (isValue : isValue value = true)
    (added : s.addOption g name value = .ok g') (more : Scans s follows g' rest h left)
    : Scans s follows g (argument :: value :: rest) h left
  | flag {g h argument rest left} (token : Token.ofArgument argument = .named jsonFlag none)
    (unwanted : (s.optionType? jsonFlag).isSome = false) (first : g.json = false)
    (more : Scans s follows (g.flagged true) rest h left)
    : Scans s follows g (argument :: rest) h left

variable {s : Signature} {follows : Bool} {g g' h : Given} {args left before after : List String}

/-- Of what stands alone after two hyphens only the flag is taken, and only once. -/
theorem addFlag_eq_ok_iff {name : String}
    : addFlag g name = .ok h ↔ name = jsonFlag ∧ g.json = false ∧ h = g.flagged true := by
  unfold addFlag
  constructor
  · intro added
    split at added
    · next same =>
        split at added
        · cases added
        · next first =>
            cases added
            exact ⟨same, Bool.eq_false_iff.mpr first, rfl⟩
    · split at added
      · cases added
      · split at added <;> cases added
  · rintro ⟨rfl, first, rfl⟩
    rw [if_pos rfl, first]
    rfl

/-- Scans that succeed take arguments so. -/
theorem scan_eq_ok_iff : s.scan follows g args = .ok (h, left) ↔ s.Scans follows g args h left := by
  constructor
  · intro scanned
    -- The cases that are left out are those in which an argument is refused.
    fun_induction scan s follows g args with
    | case1 =>
        cases scanned
        exact .done
    | case2 g argument rest token h added =>
        cases scanned
        exact .separated token added
    | case5 g argument rest value token wanted =>
        cases scanned
        exact .command token wanted
    | case6 g argument rest value token unwanted g' added ih =>
        exact .positional token (Bool.eq_false_iff.mpr unwanted) added (ih scanned)
    | case8 g argument rest name value token g' added ih =>
        exact .assigned token added (ih scanned)
    | case10 g argument name token wanted value rest isValue g' added ih =>
        exact .option token wanted isValue added (ih scanned)
    | case14 g argument rest name token unwanted g' added ih =>
        obtain ⟨rfl, first, rfl⟩ := addFlag_eq_ok_iff.mp added
        exact .flag token (Bool.eq_false_iff.mpr unwanted) first (ih scanned)
    | _ => cases scanned
  · intro scans
    induction scans with
    | done => rfl
    | separated token added => rw [scan, token]; simp only [added]
    | command token wanted => rw [scan, token]; simp only [if_pos wanted]
    | positional token unwanted added more ih =>
        rw [scan, token]
        simp only [if_neg (Bool.eq_false_iff.mp unwanted), added]
        exact ih
    | assigned token added more ih =>
        rw [scan, token]
        simp only [added]
        exact ih
    | option token wanted isValue added more ih =>
        rw [scan, token]
        simp only [if_pos wanted, if_pos isValue, added]
        exact ih
    | flag token unwanted first more ih =>
        rw [scan, token]
        simp only [unwanted, Bool.false_eq_true, if_false, addFlag_eq_ok_iff.mpr ⟨rfl, first, rfl⟩]
        exact ih

-----------------------------------------------------------------------------------------
-- Arguments other than the flag
-----------------------------------------------------------------------------------------

/-- What is added without the flag is added with it, and the other way round. -/
structure AddsBesideFlag (add : Given → Except Stop Given) (g g' : Given) : Prop where
  json : g'.json = g.json
  flagged : ∀ json, add (g.flagged json) = .ok (g'.flagged json)

theorem addPositional_flagged {value : String} (added : s.addPositional g value = .ok g')
    : AddsBesideFlag (s.addPositional · value) g g' := by
  unfold addPositional at added
  split at added
  · next type wanted =>
      split at added
      · next accepted =>
          cases added
          refine ⟨rfl, fun json => ?_⟩
          simp only [addPositional, Given.flagged, wanted, if_pos accepted]
      · cases added
  · cases added

theorem addPositionals_flagged {values : List String} (added : s.addPositionals g values = .ok g')
    : AddsBesideFlag (s.addPositionals · values) g g' := by
  induction values generalizing g with
  | nil =>
      cases added
      exact ⟨rfl, fun _ => rfl⟩
  | cons value values ih =>
      unfold addPositionals at added
      split at added
      · next first one =>
          obtain ⟨same, flagged⟩ := addPositional_flagged one
          obtain ⟨stays, rest⟩ := ih added
          refine ⟨stays.trans same, fun json => ?_⟩
          simp only [addPositionals, flagged json, rest json]
      · cases added

theorem addOption_flagged {name value : String} (added : s.addOption g name value = .ok g')
    : AddsBesideFlag (s.addOption · name value) g g' := by
  unfold addOption at added
  split at added
  · next type wanted =>
      split at added
      · next accepted =>
          cases added
          refine ⟨rfl, fun json => ?_⟩
          simp only [addOption, wanted]
          exact if_pos accepted
      · cases added
  · cases added

-----------------------------------------------------------------------------------------
-- Scans with the flag and without
-----------------------------------------------------------------------------------------

namespace Scans

/-- Where the flag was given before, it stays given, and the scan succeeds without it as well; by
induction on the scan.
-/
theorem without_flag (scans : s.Scans follows g args h left) (on : g.json = true)
    : h.json = true ∧ s.Scans follows (g.flagged false) args (h.flagged false) left := by
  induction scans with
  | done => exact ⟨on, .done⟩
  | separated token added =>
      obtain ⟨same, flagged⟩ := addPositionals_flagged added
      exact ⟨same.trans on, .separated token (flagged false)⟩
  | command token wanted => exact ⟨on, .command token wanted⟩
  | positional token unwanted added _ ih =>
      obtain ⟨same, flagged⟩ := addPositional_flagged added
      obtain ⟨stays, scans⟩ := ih (same.trans on)
      exact ⟨stays, .positional token unwanted (flagged false) scans⟩
  | assigned token added _ ih =>
      obtain ⟨same, flagged⟩ := addOption_flagged added
      obtain ⟨stays, scans⟩ := ih (same.trans on)
      exact ⟨stays, .assigned token (flagged false) scans⟩
  | option token wanted isValue added _ ih =>
      obtain ⟨same, flagged⟩ := addOption_flagged added
      obtain ⟨stays, scans⟩ := ih (same.trans on)
      exact ⟨stays, .option token wanted isValue (flagged false) scans⟩
  | flag token unwanted first =>
      rw [on] at first
      cases first

/-- A scan that is not given the flag succeeds with it as well. -/
theorem with_flag (scans : s.Scans follows g args h left) (off : h.json = false)
    : s.Scans follows (g.flagged true) args (h.flagged true) left := by
  induction scans with
  | done => exact .done
  | separated token added => exact .separated token ((addPositionals_flagged added).flagged true)
  | command token wanted => exact .command token wanted
  | positional token unwanted added _ ih =>
      exact .positional token unwanted ((addPositional_flagged added).flagged true) (ih off)
  | assigned token added _ ih =>
      exact .assigned token ((addOption_flagged added).flagged true) (ih off)
  | option token wanted isValue added _ ih =>
      exact .option token wanted isValue ((addOption_flagged added).flagged true) (ih off)
  | flag token unwanted first more =>
      rw [(more.without_flag rfl).1] at off
      cases off

end Scans

/-- The flag is no positional argument of a signature, and not the name of one of its options. -/
structure PassesFlag (s : Signature) : Prop where
  unwanted : (s.optionType? jsonFlag).isSome = false
  refused : ∀ type ∈ s.positional, type.accepts flagArgument = false

/-- So it is not taken among arguments that are all positional. -/
theorem PassesFlag.not_addPositionals (passes : s.PassesFlag) (g : Given)
    (before after : List String)
    : s.addPositionals g (before ++ flagArgument :: after) ≠ .ok h := by
  induction before generalizing g with
  | nil =>
      intro added
      rw [List.nil_append, addPositionals, addPositional] at added
      cases wanted : s.positional[g.positional.length]? with
      | none =>
          rw [wanted] at added
          cases added
      | some type =>
          have refused := passes.refused type (List.mem_of_getElem? wanted)
          simp only [wanted, refused] at added
          cases added
  | cons value before ih =>
      rw [List.cons_append, addPositionals]
      cases s.addPositional g value with
      | error stop => nofun
      | ok added => exact ih added

/-- An argument that does not give the flag stands before the place where the flag was put. -/
theorem cons_of_insert {argument : String} {rest : List String}
    (other : Token.ofArgument argument ≠ .named jsonFlag none)
    (inserted : argument :: rest = before ++ flagArgument :: after)
    : ∃ between, before = argument :: between ∧ rest = between ++ flagArgument :: after := by
  cases before with
  | nil =>
      cases inserted
      exact (other ofArgument_flagArgument).elim
  | cons first between =>
      cases inserted
      exact ⟨between, rfl, rfl⟩

/-- Where the flag is put between arguments, it is left over behind the name of a command, or it is
taken; the other arguments are taken as they are without it. By induction on the scan.
-/
theorem Scans.of_insert (passes : s.PassesFlag) {all : List String}
    (scans : s.Scans follows g all h left) (inserted : all = before ++ flagArgument :: after)
    : (follows = true
        ∧ ∃ name rest, left = name :: rest ++ flagArgument :: after
          ∧ s.Scans follows g (before ++ after) h (name :: rest ++ after))
      ∨ h.json = true ∧ s.Scans follows g (before ++ after) (h.flagged false) left := by
  induction scans generalizing before with
  | done => cases before <;> cases inserted
  | separated token added =>
      obtain ⟨between, rfl, rfl⟩ := cons_of_insert (by rw [token]; nofun) inserted
      exact (passes.not_addPositionals _ between after added).elim
  | command token wanted =>
      obtain ⟨between, rfl, rfl⟩ := cons_of_insert (by rw [token]; nofun) inserted
      exact .inl ⟨wanted, _, between, rfl, .command token wanted⟩
  | positional token unwanted added _ ih =>
      obtain ⟨between, rfl, rfl⟩ := cons_of_insert (by rw [token]; nofun) inserted
      rcases ih rfl with ⟨wanted, name, rest, rfl, scans⟩ | ⟨on, scans⟩
      · exact .inl ⟨wanted, name, rest, rfl, .positional token unwanted added scans⟩
      · exact .inr ⟨on, .positional token unwanted added scans⟩
  | assigned token added _ ih =>
      obtain ⟨between, rfl, rfl⟩ := cons_of_insert (by rw [token]; nofun) inserted
      rcases ih rfl with ⟨wanted, name, rest, rfl, scans⟩ | ⟨on, scans⟩
      · exact .inl ⟨wanted, name, rest, rfl, .assigned token added scans⟩
      · exact .inr ⟨on, .assigned token added scans⟩
  | @option _ _ _ argument _ value _ _ token wanted isValue added _ ih =>
      have other : Token.ofArgument argument ≠ .named jsonFlag none := by
        rw [token]
        rintro ⟨⟩
        rw [passes.unwanted] at wanted
        cases wanted
      -- The value of an option is no argument that starts with a hyphen.
      have plain : Token.ofArgument value ≠ .named jsonFlag none := by
        intro same
        rw [CommandLine.isValue, same] at isValue
        cases isValue
      obtain ⟨between, rfl, follow⟩ := cons_of_insert other inserted
      obtain ⟨between, rfl, rfl⟩ := cons_of_insert plain follow
      rcases ih rfl with ⟨follows, name, rest, rfl, scans⟩ | ⟨on, scans⟩
      · exact .inl ⟨follows, name, rest, rfl, .option token wanted isValue added scans⟩
      · exact .inr ⟨on, .option token wanted isValue added scans⟩
  | @flag g h argument rest left token unwanted first more ih =>
      cases before with
      | nil =>
          cases inserted
          obtain ⟨stays, scans⟩ := more.without_flag rfl
          have same : (g.flagged true).flagged false = g := by
            rw [← first]
            rfl
          rw [same] at scans
          exact .inr ⟨stays, scans⟩
      | cons other between =>
          cases inserted
          rcases ih rfl with ⟨wanted, name, rest, rfl, scans⟩ | ⟨-, scans⟩
          · exact .inl ⟨wanted, name, rest, rfl, .flag token unwanted first scans⟩
          · -- The flag was taken already, so it cannot be taken where it was put.
            cases (scans.without_flag rfl).1

end Signature

-----------------------------------------------------------------------------------------
-- Command lines with the flag and without
-----------------------------------------------------------------------------------------

namespace Command

/-- The flag is no text of a kind, of a role or of a number. -/
theorem not_accepts_flagArgument {type : ArgumentType} (other : type ≠ .text)
    : type.accepts flagArgument = false := by
  cases type with
  | text => exact (other rfl).elim
  | _ => decide

theorem mem_of_lookup {name : String} (found : signatures.lookup name = some s)
    : (name, s) ∈ signatures := by
  obtain ⟨front, back, split, -⟩ := List.lookup_eq_some_iff.mp found
  rw [split]
  exact List.mem_append_right front List.mem_cons_self

theorem passesFlag_of_lookup {name : String} (found : signatures.lookup name = some s)
    : s.PassesFlag := by
  have options : ∀ entry ∈ signatures, (entry.2.optionType? jsonFlag).isSome = false := by decide
  have positional : ∀ entry ∈ signatures, ∀ type ∈ entry.2.positional, type ≠ .text := by decide
  have member := mem_of_lookup found
  refine ⟨options _ member, ?_⟩
  intro type taken
  exact not_accepts_flagArgument (positional _ member type taken)

end Command

namespace Reading

variable {i j : Invocation} {name : String} {rest : List String}

/-- What is given after the name of a command is carried out if it fits the command. -/
theorem ofCommand_eq_run_iff
    : ofCommand g name rest = .run i
      ↔ ∃ signature h left command, Command.signatures.lookup name = some signature
        ∧ signature.Scans false .none rest h left ∧ Command.ofGiven? name h = some command
        ∧ i = {
            json := g.json || h.json
            address := (h.option? addressOption).or (g.option? addressOption)
            command } := by
  simp only [← Signature.scan_eq_ok_iff]
  unfold ofCommand
  constructor
  · intro read
    split at read
    · cases read
    · next signature found =>
        split at read
        · next stop _ => cases stop <;> cases read
        · next h left scanned =>
            split at read
            · cases read
            · next command given =>
                cases read
                exact ⟨signature, h, left, command, found, scanned, given, rfl⟩
  · rintro ⟨signature, h, left, command, found, scanned, given, rfl⟩
    simp only [found, scanned, given]

theorem ofHelp_ne_run (rest : List String) : ofHelp rest ≠ .run i := by
  unfold ofHelp
  split
  · nofun
  · split <;> nofun
  · nofun

/-- Arguments are carried out if the name of a command follows what may stand in front of it. -/
theorem ofArguments_eq_run_iff
    : ofArguments args = .run i
      ↔ ∃ h name rest, Signature.global.Scans true .none args h (name :: rest)
        ∧ name ≠ "help" ∧ ofCommand h name rest = .run i := by
  simp only [← Signature.scan_eq_ok_iff]
  unfold ofArguments
  constructor
  · intro read
    split at read
    · next stop _ => cases stop <;> cases read
    · cases read
    · next h name rest scanned =>
        split at read
        · exact (ofHelp_ne_run rest read).elim
        · next command => exact ⟨h, name, rest, scanned, command, read⟩
  · rintro ⟨h, name, rest, scanned, command, read⟩
    simp only [scanned, if_neg command]
    exact read

theorem passesFlag_global : Signature.global.PassesFlag where
  unwanted := by decide
  refused := nofun

/-- The same arguments with the flag put between them come to the same command at the same address. -/
theorem ofArguments_insert (read : ofArguments (before ++ flagArgument :: after) = .run j)
    : j.json = true ∧ ∃ json, ofArguments (before ++ after) = .run { j with json } := by
  obtain ⟨g, name, rest, front, command, read⟩ := ofArguments_eq_run_iff.mp read
  obtain ⟨signature, h, left, c, found, scans, given, rfl⟩ := ofCommand_eq_run_iff.mp read
  rcases front.of_insert passesFlag_global rfl with ⟨-, first, between, split, kept⟩ | ⟨on, kept⟩
  · -- The flag stands behind the name of the command.
    cases split
    rcases scans.of_insert (Command.passesFlag_of_lookup found) rfl with ⟨⟨⟩, -⟩ | ⟨on, scans⟩
    refine ⟨by rw [on, Bool.or_true], g.json || false, ?_⟩
    rw [ofArguments_eq_run_iff]
    refine ⟨g, name, between ++ after, kept, command, ?_⟩
    rw [ofCommand_eq_run_iff]
    exact ⟨signature, h.flagged false, left, c, found, scans, given, rfl⟩
  · -- The flag stands in front of it.
    refine ⟨by rw [on, Bool.true_or], false || h.json, ?_⟩
    rw [ofArguments_eq_run_iff]
    refine ⟨g.flagged false, name, rest, kept, command, ?_⟩
    rw [ofCommand_eq_run_iff]
    exact ⟨signature, h, left, c, found, scans, given, rfl⟩

/-- The flag may be put in front of arguments that do not give it. -/
theorem ofArguments_flag_cons (read : ofArguments args = .run i) (off : i.json = false)
    : ofArguments (flagArgument :: args) = .run { i with json := true } := by
  obtain ⟨g, name, rest, front, command, read⟩ := ofArguments_eq_run_iff.mp read
  obtain ⟨signature, h, left, c, found, scans, given, rfl⟩ := ofCommand_eq_run_iff.mp read
  have off : g.json = false := (Bool.or_eq_false_iff.mp off).1
  rw [ofArguments_eq_run_iff]
  refine ⟨g.flagged true, name, rest, ?_, command, ?_⟩
  · exact .flag ofArgument_flagArgument passesFlag_global.unwanted rfl (front.with_flag off)
  · rw [ofCommand_eq_run_iff]
    exact ⟨signature, h, left, c, found, scans, given, rfl⟩

end Reading

end AdoptionRecords.CommandLine
