import AdoptionRecords.Database
import AdoptionRecords.Proofs.Store.Amending

/-! Every unit of work of the library is a run of changes. Each says which changes it can cause and
which deeds it does; where a unit stops, it causes nothing.
-/

namespace AdoptionRecords

open Calendar Work

/-- The kinds of people: users, and those whose records are profiles of users. -/
def Kind.IsOfPeople : Kind → Prop
  | user | adopter | petOwner => True
  | pet | adoptionRequest | adoption => False

/-- A profile is that of a person. -/
theorem Profile.kind_isOfPeople (profile : Profile) : profile.kind.IsOfPeople := by
  cases profile <;> trivial

/-- The profile of a kind is of that kind. -/
theorem Profile.kind_of_ofKind {kind : Kind} {profile : Profile} (h : ofKind? kind = some profile)
    : profile.kind = kind := by
  cases kind <;> cases h <;> rfl

/-- The username by which a record is found as the profile of a user, if it is a profile. -/
def Content.profileName? : (kind : Kind) → Content kind → Option String
  | .adopter, c => AdopterContent.username c
  | .petOwner, c => PetOwnerContent.username c
  | .user, _ | .pet, _ | .adoptionRequest, _ | .adoption, _ => none

/-- A row that carries a username is found by it. -/
theorem Flag.profileName_of_carries {profile : Profile} {username : String}
    {row : LiveRow profile.kind} (h : carries profile username row = true)
    : Content.profileName? profile.kind row.content = some username := by
  cases profile <;> exact eq_of_beq h

/-- A change that an update of a user can cause: profiles flagged or created, and users and
profiles revised.
-/
def Change.IsOfUpdate : Change → Prop
  | create kind .. => kind.IsOfPeople
  | amend kind (.flag _) => kind.IsOfPeople
  | amend kind (.revise _) => kind.IsOfPeople
  | _ => False

/-- A change that one of the calls of a transaction can cause. -/
def Change.IsOfCalls (calls : List Call) : Change → Prop
  | transition t _ => .transition t ∈ calls
  | note t _ => .record t ∈ calls
  | amend kind (.flag test) =>
      kind.IsOfPeople ∧ ∃ username, .flagProfiles kind username ∈ calls
        ∧ ∀ key row, test key row = true → Content.profileName? kind row.content = some username
  | _ => False

/-- A change that archives a record. -/
def Change.Archives : Change → Prop
  | transition t _ => t.operation = .archive
  | _ => False

/-- The deed of an answered call of a transaction, if it is one. -/
def Call.deeds : Call → Except Fault Call.Answer → List Deed
  | transition t, .ok (.entry entry) => [.transition t entry]
  | record t, .ok (.entry entry) => [.note t entry]
  | _, _ => []

@[simp]
theorem Call.deeds_error (call : Call) (fault : Fault) : call.deeds (.error fault) = [] := by
  cases call <;> rfl

/-- Flagging the row under one key changes that row. -/
theorem Amendment.apply_flag_key {kind : Kind} (now : Instant) (changed : Int)
    : Amendment.apply now (.flag fun key (_ : LiveRow kind) => key == changed)
      = fun key row => if key = changed then row.flag now else row := by
  funext key row
  simp [Amendment.apply]

theorem Amendment.apply_unflag_key {kind : Kind} (now : Instant) (changed : Int)
    : Amendment.apply now (.unflag fun key (_ : LiveRow kind) => key == changed)
      = fun key row => if key = changed then row.unflag else row := by
  funext key row
  simp [Amendment.apply]

/-- Revising the rows that pass a test changes the content of those. -/
theorem Amendment.apply_revise_test {kind : Kind} (now : Instant)
    (test : Int → LiveRow kind → Prop) [∀ key row, Decidable (test key row)]
    (content : LiveRow kind → Content kind)
    : Amendment.apply now
        (.revise fun key row => if test key row then content row else row.content)
      = fun key row => if test key row then { row with content := content row } else row := by
  funext key row
  simp only [Amendment.apply]
  split <;> rfl

namespace Store

variable {now : Instant} {s after : Store} {fault : Fault} {kind : Kind}

/-- A creation is a run of one change: the row is created under the key that it yields. -/
theorem Yields.runs_createLive {content : Content kind} {key : Int}
    (h : s.Yields (createLive kind content) key after)
    : Runs now (fun t c => t = s ∧ ∃ key, c = .create kind content key) s [.creation kind key]
        after := by
  obtain ⟨rows, present, -, -, -, -, free, rfl, rfl⟩ := yields_createLive_iff.mp h
  exact .change ⟨rfl, _, rfl⟩ (.create present free)

/-- A transition carried out is a run of one change. -/
theorem Yields.runs_carryOut {t : Transition} {entry : LogEntry}
    (h : s.Yields (t.carryOut now) entry after)
    : Runs now (fun _ c => ∃ entry, c = .transition t entry) s [.transition t entry] after := by
  obtain ⟨tables, moves, recorded⟩ := yields_carryOut_iff.mp h
  obtain ⟨rows, present, -, -, free, rfl, rfl⟩ := yields_record_iff.mp recorded
  exact .change ⟨_, rfl⟩ (.transition moves present free)

/-- A log entry written by itself is a run of one change. -/
theorem Yields.runs_record {t : Transition} {entry : LogEntry}
    (h : s.Yields (Log.record t now) entry after)
    : Runs now (fun _ c => ∃ entry, c = .note t entry) s [.note t entry] after := by
  obtain ⟨rows, present, -, -, free, rfl, rfl⟩ := yields_record_iff.mp h
  exact .change ⟨_, rfl⟩ (.note present free)

/-- Rows flagged by a test are a run of one change. -/
theorem Yields.runs_flag {test : LiveRow kind → Bool} {flagged : Nat}
    (h : s.Yields (updateLive kind test (·.flag now)) flagged after)
    : Runs now (fun _ c => c = .amend kind (.flag fun _ => test)) s [] after := by
  obtain ⟨rows, present, -, -, rfl⟩ := yields_updateLive_iff.mp h
  exact .change (c := .amend kind (.flag fun _ => test)) rfl (.amend present)

/-- Profile rows that take over the values of an update are a run of one change. -/
theorem Yields.runs_sync {u : UserUpdate} {profile : Profile} {oldName : String} {value : Unit}
    (h : s.Yields (u.sync profile oldName) value after)
    : Runs now (fun _ c => c.IsOfUpdate) s [] after := by
  obtain ⟨-, changed, h⟩ := yields_sync_iff.mp h
  obtain ⟨rows, present, -, -, rfl⟩ := yields_updateLive_iff.mp h
  have revised := Amendment.apply_revise_test now
    (fun _ row => UserUpdate.keeps profile oldName row = true)
    (fun row => u.synced profile row.content)
  simp only [UserUpdate.syncedRow, ← revised]
  exact .change (c := .amend profile.kind (.revise _)) profile.kind_isOfPeople (.amend present)

/-- A user's row that is replaced is a run of one change. -/
theorem Yields.runs_replace {u : UserUpdate} {name : String} {role : Role}
    (h : s.Yields u.replace (name, role) after)
    : Runs now (fun _ c => c.IsOfUpdate) s [] after := by
  obtain ⟨users, row, present, found, -, -, -, -, -, rfl⟩ := yields_replace_iff.mp h
  have revised := Amendment.apply_revise_test now
    (fun key (_ : LiveRow .user) => key = u.key) (fun row => u.content row.content)
  rw [Table.insert_eq_map u.row found]
  simp only [UserUpdate.row, ← revised]
  exact .change (c := .amend .user (.revise _)) (show Kind.user.IsOfPeople from trivial)
    (.amend present)

/-- Replacing a user's row draws no key. -/
theorem Yields.sequences_replace {u : UserUpdate} {found : String × Role}
    (h : s.Yields u.replace found after)
    : after.sequences = s.sequences := by
  obtain ⟨_, _, -, -, -, -, -, -, -, rfl⟩ := yields_replace_iff.mp h
  rfl

/-- A pet's flag that is set is a run of at most one change. -/
theorem Yields.runs_setPet {pet : Int} {flagged : Bool}
    (h : s.Yields (Flag.setPet pet now) flagged after)
    : Runs now (fun _ c => c = .amend .pet (.flag fun key _ => key == pet)) s [] after := by
  rw [Flag.setPet_eq_turn, yields_turn_iff] at h
  obtain ⟨pets, present, ⟨row, found, -, -, -, rfl⟩ | ⟨-, -, rfl⟩⟩ := h
  · rw [Table.insert_eq_map (·.flag now) found, ← Amendment.apply_flag_key now pet]
    exact .change (c := .amend .pet (.flag _)) rfl (.amend present)
  · exact .refl _

/-- A pet's flag that is cleared is a run of at most one change. -/
theorem Yields.runs_clearPet {pet : Int} {unflagged : Bool}
    (h : s.Yields (Flag.clearPet pet) unflagged after)
    : Runs now (fun _ c => c = .amend .pet (.unflag fun key _ => key == pet)) s [] after := by
  rw [Flag.clearPet_eq_turn, yields_turn_iff] at h
  obtain ⟨pets, present, ⟨row, found, -, -, -, rfl⟩ | ⟨-, -, rfl⟩⟩ := h
  · rw [Table.insert_eq_map (·.unflag) found, ← Amendment.apply_unflag_key now pet]
    exact .change (c := .amend .pet (.unflag _)) rfl (.amend present)
  · exact .refl _

/-- An old profile that is flagged, if there is one, is a run of one change; no key is drawn. -/
theorem Yields.runs_flagOld {found : Option Profile} {oldName : String} {value : PUnit}
    (h : s.Yields (found.forM fun profile => do let _ ← Flag.setProfiles profile oldName now)
      value after)
    : Runs now (fun _ c => c.IsOfUpdate) s [] after ∧ after.sequences = s.sequences := by
  simp only [yields_forM_option_iff, yields_bind_iff, yields_pure_iff] at h
  rcases h with ⟨profile, -, _, _, h, -, rfl⟩ | ⟨-, rfl⟩
  · have flagged := (yields_setProfiles_iff.mp h).2
    constructor
    · refine flagged.runs_flag.mono ?_
      rintro _ _ rfl
      exact profile.kind_isOfPeople
    · obtain ⟨_, -, -, -, rfl⟩ := yields_updateLive_iff.mp flagged
      rfl
  · exact ⟨.refl _, rfl⟩

/-- A new profile that is created, if there is one, is a run of one change: the key of the profile
is the next one of its table.
-/
theorem Yields.runs_createNew {u : UserUpdate} {found : Option Profile} {value : PUnit}
    (h : s.Yields
      (found.forM fun profile => do let _ ← createLive profile.kind (u.newProfile profile))
      value after)
    (now : Instant)
    : Runs now (fun _ c => c.IsOfUpdate) s
        (found.toList.map fun profile => .creation profile.kind (s.sequences.live profile.kind))
        after := by
  simp only [yields_forM_option_iff, yields_bind_iff, yields_pure_iff] at h
  rcases h with ⟨profile, rfl, key, _, h, -, rfl⟩ | ⟨rfl, rfl⟩
  · obtain ⟨-, -, -, -, -, -, -, rfl, -⟩ := yields_createLive_iff.mp h
    refine h.runs_createLive.mono ?_
    intro _ _ caused
    obtain ⟨-, _, rfl⟩ := caused
    exact profile.kind_isOfPeople
  · exact .refl _

/-- An update of a user is a run: it replaces the user, may flag the old profile, and may create a
profile under the next key of its table or let one take over the new values.
-/
theorem Yields.runs_update {u : UserUpdate} {oldName : String} {role : Role} {plan : ProfilePlan}
    (h : s.Yields (u.carryOut now) (oldName, role, plan) after)
    : plan = .ofRoles role u.role
      ∧ Runs now (fun _ c => c.IsOfUpdate) s
          (plan.createNew.toList.map fun profile =>
            .creation profile.kind (s.sequences.live profile.kind))
          after := by
  rw [UserUpdate.carryOut_eq] at h
  simp only [yields_bind_iff, yields_pure_iff] at h
  obtain ⟨⟨name, role⟩, replaced, hr, _, flagged, hf, _, created, hc, _, synced, hs, same, rfl⟩ := h
  cases same
  refine ⟨rfl, ?_⟩
  obtain ⟨flagging, undrawn⟩ := hf.runs_flagOld
  have creating := hc.runs_createNew now
  have syncing : Runs now (fun _ c => c.IsOfUpdate) created [] after := by
    rcases yields_forM_option_iff.mp hs with ⟨profile, -, hs⟩ | ⟨-, rfl⟩
    · exact hs.runs_sync
    · exact .refl _
  -- Only the creation draws a key, so the key is the one that was next when the update began.
  rw [undrawn, hr.sequences_replace] at creating
  exact hr.runs_replace.silent_trans (flagging.silent_trans (creating.trans_silent syncing))

/-- An update of a user that stops may have drawn a key, and gives none back. -/
theorem Stops.sequences_of_update {u : UserUpdate} (h : s.Stops (u.carryOut now) fault after)
    : s.sequences ≤ after.sequences := by
  rw [UserUpdate.carryOut_eq] at h
  simp only [stops_bind_iff, stops_forM_option_iff, not_stops_pure, and_false, exists_false,
    or_false] at h
  rcases h with h | ⟨⟨oldName, role⟩, replaced, hr, h⟩
  · exact ((writesLast_replace u).stops h).sequences
  refine le_trans (le_of_eq hr.sequences_replace.symm) ?_
  rcases h with ⟨profile, -, h⟩ | ⟨_, flagged, hf, h⟩
  · exact ((writesLast_setProfiles ..).stops h).sequences
  refine le_trans (le_of_eq hf.runs_flagOld.2.symm) ?_
  rcases h with ⟨profile, -, h⟩ | ⟨_, created, hc, h⟩
  · exact ((writesLast_createLive ..).stops h).sequences
  refine le_trans (hc.runs_createNew now).sequences_le ?_
  obtain ⟨profile, -, h⟩ := h
  exact ((writesLast_sync ..).stops h).sequences

/-- Log entries that are removed are a run of one change. -/
theorem Yields.runs_prune {cutoff : Instant} {removed : Nat}
    (h : s.Yields (Log.prune cutoff) removed after)
    : Runs now (fun _ c => ∃ keep, c = .prune keep) s [] after := by
  simp only [Log.prune, yields_bind_iff, yields_logTable_iff, yields_ite_iff, not_yields_refuse,
    yields_putLog_iff, yields_pure_iff] at h
  obtain ⟨rows, _, ⟨present, rfl⟩, ⟨-, _, _, ⟨⟩, -⟩ | ⟨-, _, _, rfl, -, rfl⟩⟩ := h
  exact .change (c := .prune _) ⟨_, rfl⟩ (.prune present)

/-- The schema that is applied is a run of at most one change. -/
theorem Yields.runs_schema {value : Unit} (h : s.Yields (Schema.apply now) value after)
    : Runs now (fun _ c => ∃ ledger, c = .complete ledger) s [] after := by
  simp only [Schema.apply, yields_bind_iff, yields_get_iff] at h
  obtain ⟨_, _, ⟨rfl, rfl⟩, h⟩ := h
  split at h
  · simp only [yields_bind_iff, not_yields_throw] at h
    grind
  · simp only [yields_bind_iff, yields_ite_iff, not_yields_refuse, yields_pure_iff,
      yields_set_iff] at h
    rcases h with ⟨-, _, _, ⟨⟩, -⟩ | ⟨-, ⟨-, -, rfl⟩ | ⟨-, rfl⟩⟩
    · exact .refl _
    · exact .change (c := .complete _) ⟨_, rfl⟩ .complete

end Store

namespace Work

/-- Log entries are removed last of all. -/
theorem writesLast_prune (cutoff : Instant) : WritesLast (Log.prune cutoff) := by
  refine .bind writesNothing_logTable fun rows => ?_
  refine .ite ?_ ?_
  · exact .throw_bind ..
  · exact .of_not_stops (by simp [-bind_pure_comp])

/-- The schema is applied last of all. -/
theorem writesLast_schema (now : Instant) : WritesLast (Schema.apply now) := by
  refine .bind .get fun s => ?_
  dsimp only
  split
  · exact .throw_bind ..
  · refine .ite (.throw_bind ..) ?_
    exact .ite (WritesNothing.pure _).toWritesLast (.of_not_stops Store.not_stops_set)

end Work

end AdoptionRecords
