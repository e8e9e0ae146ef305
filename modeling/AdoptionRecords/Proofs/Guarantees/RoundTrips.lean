import AdoptionRecords.Json.Encode
import AdoptionRecords.Proofs.Reading.Forms

/-! What is stored comes back from its JSON text. A value is read from each text of the object by
which it is written, and of each object that says the same. What two shapes share is kept before it
is looked at, as is a change of role, so that members that name no field must not be nested too
deeply there.
-/

namespace AdoptionRecords

open Calendar Json

/-- Whether a reader finds a value in every text of a JSON value. -/
def ReadsBack {α : Type} (read : String → Except Flaw α) (j : Json) (value : α) : Prop :=
  ∀ s, Spelled j s → read s = .ok value

theorem Kind.readsBack (kind : Kind) : ReadsBack Kind.readJson kind.json kind := by
  intro s spelled
  rw [readJson, readWhole_of_spelled _ spelled, json,
    readChoice_text (RoleChange.name_mem_kinds kind)]
  simp only [bind, Except.bind, Form.kindNamed?_name, wanted]

theorem Operation.readsBack (operation : Operation)
    : ReadsBack Operation.readJson (.text operation.name) operation := by
  intro s spelled
  have named : operation.name ∈ all.map name := by cases operation <;> decide
  rw [readJson, readWhole_of_spelled _ spelled, readChoice_text named]
  simp only [bind, Except.bind, read?_name, wanted]

theorem Role.readsBack (role : Role) : ReadsBack Role.readJson (.text role.name) role := by
  intro s spelled
  rw [readJson, readWhole_of_spelled _ spelled, readChoice_text (RoleChange.name_mem_roles role)]
  simp only [bind, Except.bind, read?_name, wanted]

-----------------------------------------------------------------------------------------
-- Objects that say the same
-----------------------------------------------------------------------------------------

/-- Members without the empty ones. -/
def filled (ms : List (String × Json)) : List (String × Json) :=
  ms.filter fun m => match m.2 with
    | .null => false
    | _ => true

section Filled

variable {shape : Shape} {ms before after : List (String × Json)}

theorem filled_append (ms ms' : List (String × Json))
    : filled (ms ++ ms') = filled ms ++ filled ms' :=
  List.filter_append ms ms'

theorem restates_filled (other : ∀ m ∈ before ++ after, fieldNamed? shape m.1 = none)
    : Restates shape (.object ms) (.object (before ++ (filled ms ++ after))) := by
  have less : (filled ms).Sublist ms := List.filter_sublist
  refine .intro less (fun m member => ?_) other ?_
  · cases value : m.2 with
    | null => exact .inl rfl
    | bool | int | real | text | array | object =>
        exact .inr (List.mem_filter.mpr ⟨member, by simp only [value]⟩)
  · calc before ++ (filled ms ++ after)
        = before ++ filled ms ++ after := (List.append_assoc _ _ _).symm
      List.Perm _ (filled ms ++ before ++ after) := List.perm_append_comm.append_right after
      _ = filled ms ++ (before ++ after) := List.append_assoc _ _ _

/-- An object says the same without its empty members and behind one that names no field. -/
theorem restates_behind {name : String} (value : Json) (other : fieldNamed? shape name = none)
    : Restates shape (.object ms) (.object ((name, value) :: filled ms)) := by
  rw [← List.append_nil (filled ms), ← List.singleton_append]
  refine restates_filled fun m only => ?_
  rw [List.append_nil] at only
  rw [List.mem_singleton.mp only]
  exact other

end Filled

/-- Arrays in one another. -/
def nested : Nat → Json
  | 0 => .array []
  | levels + 1 => .array [nested levels]

theorem within_nested (levels : Nat) : Within (levels + 1) (nested levels) := by
  induction levels with
  | zero => exact .array fun item none => absurd none List.not_mem_nil
  | succ levels ih => exact .array fun item only => List.mem_singleton.mp only ▸ ih

/-- Arrays that are nested deeper than may be are not kept, by induction on their number. -/
theorem keep_nested {depth levels : Nat} (deep : depth ≤ levels)
    : (nested levels).node.keep depth = .error .malformed := by
  induction levels generalizing depth with
  | zero =>
      obtain rfl : depth = 0 := by omega
      rfl
  | succ levels ih =>
      by_cases bottom : depth = 0
      · subst bottom
        rfl
      · rw [nested, node, nodes, nodes, Node.keep, if_neg bottom, Node.keepItems,
          ih (show depth - 1 ≤ levels by omega)]
        rfl

-----------------------------------------------------------------------------------------
-- Odd values
-----------------------------------------------------------------------------------------

/-- A record whose texts need escapes, and whose instants are among the first and the last that are
written.
-/
def oddUser : ArchivedRow .user where
  content :=
    { username := some "Zoë \"\\\u0001\n😀", email := none, password := some "",
      roleName := some "adopter",
      created := some ⟨-210866803200, 5000, by decide, by decide⟩ }
  archived := some true
  archivedAt := some ⟨8210266876799, 999999000, by decide, by decide⟩
  archivedBy := some (-1)
  reason := none

/-- The object by which the odd user is written, without its empty members and behind one that names
no field.
-/
def oddUserBehind (value : Json) : Json :=
  .object ([("x", value)] ++ (filled ((Form.record .user).members (7, oddUser.shown))
    ++ filled (Form.metadata.members oddUser.toMetadata)))

theorem oddUser_fits
    : (Form.record .user).Fits (7, oddUser.shown) ∧ Form.metadata.Fits oddUser.toMetadata := by
  decide

/-- What is left out and added does not change what the odd user's object says. -/
theorem restates_oddUserBehind (value : Json)
    : Restates ((Form.record .user).shape ++ Form.metadata.shape) (oddUser.json .user 7)
        (oddUserBehind value) := by
  have sound : Shape.Sound ((Form.record .user).shape ++ Form.metadata.shape) :=
    Form.record_metadata_sound nofun
  have fits := oddUser_fits
  rw [ArchivedRow.json, Form.pairJson_eq sound fits.1 fits.2,
    Shape.members_append fits.1.length_eq, ← Form.members_eq, ← Form.members_eq, oddUserBehind,
    ← filled_append]
  exact restates_behind value rfl

/-- The odd user's object is not nested too deeply if the member that was added is not. -/
theorem within_oddUserBehind {value : Json} (within : Within 126 value)
    : Within greatestDepth (oddUserBehind value) := by
  obtain ⟨fits, fits'⟩ := oddUser_fits
  refine .object (List.forall_mem_append.mpr ⟨fun m only => ?_, List.forall_mem_append.mpr
    ⟨fun m member => ?_, fun m member => ?_⟩⟩)
  · rw [List.mem_singleton.mp only]
    exact within
  · exact within_members (Form.record_lawful .user).sound fits 126 m
      (Form.members_eq _ _ ▸ List.mem_of_mem_filter member)
  · exact within_members Form.metadata_lawful.sound fits' 126 m
      (Form.members_eq _ _ ▸ List.mem_of_mem_filter member)

/-- A log entry with the greatest number and the least key, written in a leap second. -/
def oddEntry : LogEntry :=
  ⟨9223372036854775807, "tbl_pet", -2147483648, .permanentDelete, none,
    ⟨253402300799, 1999999999, by decide, by decide⟩, some "\t"⟩

/-- Two values that share one object are refused behind a member that cannot be kept. -/
theorem readPair_oddUserBehind {value : Json} {flaw : Flaw}
    (refused : value.node.keep 126 = .error flaw)
    : (Form.record .user).readPair Form.metadata (oddUserBehind value).line = .error flaw := by
  have whole : (oddUserBehind value).node.keep greatestDepth = .error flaw := by
    rw [oddUserBehind, node, List.singleton_append, memberNodes, Node.keep,
      if_neg (by decide), Node.keepMembers, show greatestDepth - 1 = 126 from rfl, refused]
    rfl
  rw [Form.readPair, readWhole_of_spelled _ (spelled_line _)]
  rw [oddUserBehind, node] at whole ⊢
  simp only [readBoth, whole, bind, Except.bind]

/-- A change of role is refused behind a member that cannot be kept. -/
theorem readJson_behind {value : Json} {flaw : Flaw} {ms : List (String × Json)}
    (refused : value.node.keep 126 = .error flaw)
    : RoleChange.readJson (Json.object (("x", value) :: ms)).line = .error flaw := by
  rw [RoleChange.readJson, readWhole_of_spelled _ (spelled_line _), node, memberNodes,
    RoleChange.readNode, RoleChange.readMembers]
  simp only [Node.nameOf, bind, Except.bind, show "x" ≠ RoleChange.tag by decide, if_false,
    show greatestDepth - 1 = 126 from rfl, refused]

/-- The object of a change of role that did nothing, without its empty member and behind one that
names no field.
-/
def idleBehind (value : Json) : Json :=
  .object [("x", value), ("transition", .text "unchanged")]

/-- Whether the odd user and the change of role that did nothing are refused behind a member, though
the objects say the same.
-/
structure RefusedBehind (value : Json) : Prop where
  sameUser : Restates ((Form.record .user).shape ++ Form.metadata.shape) (oddUser.json .user 7)
    (oddUserBehind value)
  user : (Form.record .user).readPair Form.metadata (oddUserBehind value).line = .error .malformed
  sameChange : Restates (RoleChange.unchanged none).fields (RoleChange.unchanged none).json
    (idleBehind value)
  change : RoleChange.readJson (idleBehind value).line = .error .malformed

theorem refusedBehind_of_keep {value : Json} (refused : value.node.keep 126 = .error .malformed)
    : RefusedBehind value :=
  ⟨restates_oddUserBehind value, readPair_oddUserBehind refused, restates_behind value rfl,
    readJson_behind refused⟩

-----------------------------------------------------------------------------------------
-- All that is stored
-----------------------------------------------------------------------------------------

/-- Each stored value whose cells fit its fields is read back from the texts of all objects that say
the same as the one by which it is written, its line among them. An archived record and a change of
role are read back as long as these objects are not nested too deeply.
-/
theorem stored_values_return
    : (∀ j : Json, Spelled j j.line ∧ Spelled j j.pretty)
      ∧ (∀ kind : Kind, ReadsBack Kind.readJson kind.json kind)
      ∧ (∀ operation : Operation,
          ReadsBack Operation.readJson (.text operation.name) operation)
      ∧ (∀ role : Role, ReadsBack Role.readJson (.text role.name) role)
      ∧ (∀ (kind : Kind) (r : Int × Shown kind), (Form.record kind).Fits r →
          ∀ j, Restates (Form.record kind).shape ((Form.record kind).json r) j →
            ReadsBack (Form.record kind).read j r)
      ∧ (∀ m : Metadata, Form.metadata.Fits m →
          ∀ j, Restates Form.metadata.shape (Form.metadata.json m) j →
            ReadsBack Form.metadata.read j m)
      ∧ (∀ e : LogEntry, Form.logEntry.Fits e →
          ∀ j, Restates Form.logEntry.shape (Form.logEntry.json e) j →
            ReadsBack Form.logEntry.read j e)
      ∧ (∀ r : Retention.Report, Form.report.Fits r →
          ∀ j, Restates Form.report.shape (Form.report.json r) j →
            ReadsBack Form.report.read j r)
      ∧ (∀ (c : RoleChange) (j : Json), Restates c.fields c.json j → Within greatestDepth j →
          ReadsBack RoleChange.readJson j c)
      ∧ (∀ kind ≠ .pet, ∀ (key : Int) (row : ArchivedRow kind),
          (Form.record kind).Fits (key, row.shown) → Form.metadata.Fits row.toMetadata →
          ∀ j, Restates ((Form.record kind).shape ++ Form.metadata.shape) (row.json kind key) j →
            Within greatestDepth j →
            ReadsBack ((Form.record kind).readPair Form.metadata) j
              ((key, row.shown), row.toMetadata)) := by
  refine ⟨fun j => ⟨spelled_line j, spelled_pretty j⟩, Kind.readsBack, Operation.readsBack,
    Role.readsBack, ?_, ?_, ?_, ?_, ?_, ?_⟩
  · intro kind r fits j same s spelled
    exact Form.read_of_restates (Form.record_lawful kind) fits same spelled
  · intro m fits j same s spelled
    exact Form.read_of_restates Form.metadata_lawful fits same spelled
  · intro e fits j same s spelled
    exact Form.read_of_restates Form.logEntry_lawful fits same spelled
  · intro r fits j same s spelled
    exact Form.read_of_restates Form.report_lawful fits same spelled
  · intro c j same within s spelled
    exact RoleChange.readJson_of_restates same within spelled
  · intro kind other key row fits fits' j same within s spelled
    exact Form.readPair_of_restates (Form.record_metadata_sound other) (Form.record_lawful kind)
      Form.metadata_lawful fits fits' same within spelled

/-- The odd user is read back behind a member of 126 levels. Apart from one another, the user and
how it was archived are read back behind one that is nested deeper. Numbers are read back at the ends
of their ranges.
-/
theorem stored_values_return_of_odd_values
    : let both := (Form.record .user).shape ++ Form.metadata.shape
      let report : Retention.Report := ⟨18446744073709551615, 0, 1⟩
      let change : RoleChange := .changed .adopter .petOwner none (some .petOwner)
      ((Form.record .user).Fits (7, oddUser.shown) ∧ Form.metadata.Fits oddUser.toMetadata)
      ∧ (Restates both (oddUser.json .user 7) (oddUserBehind (nested 125))
        ∧ Within greatestDepth (oddUserBehind (nested 125))
        ∧ (Form.record .user).readPair Form.metadata (oddUserBehind (nested 125)).line
          = .ok ((7, oddUser.shown), oddUser.toMetadata))
      ∧ (Form.record .user).read (oddUserBehind (nested 126)).pretty = .ok (7, oddUser.shown)
      ∧ Form.metadata.read (oddUserBehind (nested 126)).pretty = .ok oddUser.toMetadata
      ∧ (Form.logEntry.Fits oddEntry
        ∧ Form.logEntry.read (Form.logEntry.json oddEntry).line = .ok oddEntry)
      ∧ (Form.report.Fits report ∧ Form.report.read (Form.report.json report).line = .ok report)
      ∧ (Within greatestDepth change.json ∧ RoleChange.readJson change.json.line = .ok change) := by
  intro both report change
  obtain ⟨fits, fits'⟩ := oddUser_fits
  have same := restates_oddUserBehind (nested 125)
  have within := within_oddUserBehind (within_nested 125)
  have sameUser : Restates (Form.record .user).shape ((Form.record .user).json (7, oddUser.shown))
      (oddUserBehind (nested 126)) := restates_filled (by decide)
  have sameMetadata : Restates Form.metadata.shape (Form.metadata.json oddUser.toMetadata)
      (oddUserBehind (nested 126)) := by
    rw [oddUserBehind, ← List.append_assoc, ← List.append_nil (filled (Form.metadata.members _))]
    exact restates_filled (by decide)
  have entryFits : Form.logEntry.Fits oddEntry := by decide
  have reportFits : Form.report.Fits report := by decide
  have changeWithin : Within greatestDepth change.json := by
    rw [change.json_eq]
    exact .object (within_members change.fields_sound change.fields_admit 126)
  obtain ⟨spelled, -, -, -, record, metadata, logEntry, reports, changes, archived⟩ :=
    stored_values_return
  refine ⟨⟨fits, fits'⟩, ⟨same, within, ?_⟩, ?_, ?_, ⟨entryFits, ?_⟩, ⟨reportFits, ?_⟩,
    ⟨changeWithin, ?_⟩⟩
  · exact archived .user nofun 7 oddUser fits fits' _ same within _ (spelled _).1
  · exact record .user _ fits _ sameUser _ (spelled _).2
  · exact metadata _ fits' _ sameMetadata _ (spelled _).2
  · exact logEntry oddEntry entryFits _ (.refl _ _) _ (spelled _).1
  · exact reports report reportFits _ (.refl _ _) _ (spelled _).1
  · exact changes change _ (.refl _ _) changeWithin _ (spelled _).1

/-- Neither an archived user nor a change of role is read back behind a member that names no field
if that member has 127 levels, or is a number too great for its floating-point form.
-/
theorem addition_refused
    : (Form.record .user).Fits (7, oddUser.shown) ∧ Form.metadata.Fits oddUser.toMetadata
      ∧ RefusedBehind (nested 126) ∧ RefusedBehind (.real 1 400) :=
  ⟨oddUser_fits.1, oddUser_fits.2, refusedBehind_of_keep (keep_nested (Nat.le_refl 126)),
    refusedBehind_of_keep rfl⟩

end AdoptionRecords
