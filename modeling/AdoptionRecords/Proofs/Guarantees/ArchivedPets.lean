import AdoptionRecords.Json.Encode
import AdoptionRecords.Proofs.Reading.Forms

/-! Archived pets as JSON. A pet has a flag of its own, so the object of an archived pet has two owners
for the same fields. Either part is read back from it alone; together they are not, since the pet takes
the flag that how it was archived needs as well.
-/

namespace AdoptionRecords

open Json

-----------------------------------------------------------------------------------------
-- Fields that are missing
-----------------------------------------------------------------------------------------

namespace Json

variable {kept : Bool} {shape first second : Shape} {field : Field} {name : String}
  {found found' : List (String × Cell)} {nodes : List (Node × Node)}

/-- Cells are not collected while one is missing that must not be empty, by induction on the fields. -/
theorem collect_of_missing (member : field ∈ shape) (filled : field.optional = false)
    (missing : found.lookup field.name = none)
    : collect shape found = .error .mismatched := by
  unfold collect
  induction shape with
  | nil => cases member
  | cons other shape ih =>
      rw [List.mapM_cons]
      rcases List.mem_cons.mp member with rfl | member
      · rw [missing, filled]
        rfl
      · rw [ih member]
        cases found.lookup other.name with
        | some cell => rfl
        | none => cases other.optional <;> rfl

/-- A name that no member has is not found, by induction on the members. -/
theorem lookup_of_readMembers (read : readMembers kept shape found nodes = .ok found')
    (absent : ∀ m ∈ nodes, Node.nameOf m.1 ≠ .ok name) (missing : found.lookup name = none)
    : found'.lookup name = none := by
  induction nodes generalizing found with
  | nil =>
      cases read
      exact missing
  | cons member rest ih =>
      obtain ⟨key, value⟩ := member
      obtain ⟨other, absent⟩ := List.forall_mem_cons.mp absent
      rw [readMembers] at read
      cases named : Node.nameOf key with
      | error flaw =>
          rw [named] at read
          cases read
      | ok name' =>
          have ne : name ≠ name' := fun same => other (same ▸ named)
          simp only [named, bind, Except.bind] at read
          split at read
          · split at read
            · cases read
            · split at read
              · cases read
              · next cell _ =>
                  refine ih read absent ?_
                  rw [List.lookup_append, missing, List.lookup_cons, beq_false_of_ne ne]
                  rfl
          · split at read
            · cases read
            · exact ih read absent missing

/-- What the first of two shapes leaves over has no name that is one of the first. -/
theorem nameOf_remaining (taken : (fieldNamed? first name).isSome = true)
    : ∀ m ∈ remaining first nodes, Node.nameOf m.1 ≠ .ok name := by
  intro m member named
  have left := (List.mem_filter.mp member).2
  simp only [named, Option.isNone_iff_eq_none] at left
  rw [left] at taken
  cases taken

/-- Of two shapes that both need a field the second is refused, once the first is read. -/
theorem collect_remaining (member : field ∈ second) (filled : field.optional = false)
    (taken : (fieldNamed? first field.name).isSome = true)
    (read : readMembers true second [] (remaining first nodes) = .ok found)
    : collect second found = .error .mismatched :=
  collect_of_missing member filled (lookup_of_readMembers read (nameOf_remaining taken) rfl)

/-- What comes of two steps comes of the second, from what comes of the first. -/
theorem exists_of_bind_eq_ok {α β : Type} {step : Except Flaw α} {next : α → Except Flaw β} {b : β}
    (h : step >>= next = .ok b)
    : ∃ a, step = .ok a ∧ next a = .ok b := by
  cases step with
  | error flaw => cases h
  | ok a => exact ⟨a, rfl, h⟩

/-- Nothing is read as two shapes that both need a field. -/
theorem readBoth_ne_ok (field : Field) (member : field ∈ second) (filled : field.optional = false)
    (taken : (fieldNamed? first field.name).isSome = true) (node : Node)
    (cells : List Cell × List Cell)
    : readBoth first second node ≠ .ok cells := by
  intro read
  cases node with
  | object members close =>
      obtain ⟨_, -, read⟩ := exists_of_bind_eq_ok read
      obtain ⟨_, -, read⟩ := exists_of_bind_eq_ok read
      obtain ⟨_, -, read⟩ := exists_of_bind_eq_ok read
      obtain ⟨found, left, read⟩ := exists_of_bind_eq_ok read
      obtain ⟨right, collected, -⟩ := exists_of_bind_eq_ok read
      rw [collect_remaining member filled taken left] at collected
      cases collected
  | null | bool | int | real | text | array | broken => cases read

/-- Members are read that say what cells are, though some cells may have none. -/
theorem exists_readMembers_beside {cells : List Cell} {ms : List (String × Json)} (first : Shape)
    (sound : second.Sound) (admits : second.Admits cells) (h : Holds second cells ms)
    : ∃ found, readMembers true second [] (remaining first (memberNodes ms)) = .ok found := by
  rw [remaining_memberNodes]
  have told : ∀ m ∈ beside first ms, ∀ cell,
      (second.entries cells).lookup m.1 = some cell → m.2 = cell.json :=
    fun m member => h.told m (List.mem_of_mem_filter member)
  exact ⟨_, readMembers_of_told sound admits told (h.once.filter _) fun _ _ => .inr rfl⟩

/-- An object that holds the cells of two shapes that both need a field is refused for its form. -/
theorem readBoth_of_shared {left right : List Cell} {ms : List (String × Json)} (field : Field)
    (sound : first.Sound) (admits : first.Admits left) (holds : Holds first left ms)
    (sound' : second.Sound) (admits' : second.Admits right) (holds' : Holds second right ms)
    (member : field ∈ second) (filled : field.optional = false)
    (taken : (fieldNamed? first field.name).isSome = true)
    (within : Within greatestDepth (.object ms))
    : readBoth first second (.object (memberNodes ms) none) = .error .mismatched := by
  have kept := Node.keep_node within
  rw [node] at kept
  obtain ⟨found, read⟩ := exists_readMembers_beside first sound' admits' holds'
  rw [readBoth, kept, readMembers_of_holds sound admits holds, read]
  simp only [bind, Except.bind, collect_of_holds sound admits holds,
    collect_remaining member filled taken read]

end Json

/-- No text is read as two forms that both need a field. -/
theorem Form.readPair_ne_ok {α β : Type} {f : Form α} {g : Form β} (field : Field)
    (member : field ∈ g.shape) (filled : field.optional = false)
    (taken : (fieldNamed? f.shape field.name).isSome = true) (s : String) (values : α × β)
    : f.readPair g s ≠ .ok values := by
  intro whole
  unfold readPair readWhole at whole
  dsimp only at whole
  split at whole
  · cases whole
  · next read =>
      obtain ⟨cells, both, -⟩ := exists_of_bind_eq_ok read
      exact readBoth_ne_ok field member filled taken _ cells both

-----------------------------------------------------------------------------------------
-- The object of an archived pet
-----------------------------------------------------------------------------------------

namespace ArchivedRow

variable {key : Int} {row : ArchivedRow .pet}

/-- What stands in the object of an archived pet before the pet's flag: the key and the content. -/
def petMembers (key : Int) (row : ArchivedRow .pet) : List (String × Json) :=
  Shape.members (.required Kind.pet.keyColumn .key :: Kind.pet.columns)
    (.int key :: Content.cells .pet row.content)

/-- What stands in the object of an archived pet behind the pet's flag: by whom and why it was
archived.
-/
def addedMembers (row : ArchivedRow .pet) : List (String × Json) :=
  (Form.metadata.members row.toMetadata).drop 2

/-- The object of an archived pet holds what the pet is written as, and what was added to it. -/
theorem json_pet (key : Int) (row : ArchivedRow .pet)
    : row.json .pet key
      = .object ((Form.record .pet).members (key, row.shown) ++ row.addedMembers) := by
  rfl

/-- The object of an archived pet holds the content of the pet, and how it was archived. -/
theorem json_pet_eq (key : Int) (row : ArchivedRow .pet)
    : row.json .pet key = .object (row.petMembers key ++ Form.metadata.members row.toMetadata) := by
  rfl

/-- The object of an archived pet says the same as that of the pet, with two more members. -/
theorem restates_record (key : Int) (row : ArchivedRow .pet)
    : Restates (Form.record .pet).shape ((Form.record .pet).json (key, row.shown))
        (row.json .pet key) := by
  have names : row.addedMembers.map Prod.fst = ["archived_by_user_id", "archive_reason"] := rfl
  have other : ∀ name ∈ row.addedMembers.map Prod.fst,
      fieldNamed? (Form.record .pet).shape name = none := by
    rw [names]
    decide
  rw [json_pet]
  exact .intro (List.Sublist.refl _) (fun m member => .inr member) (List.forall_mem_map.mp other)
    (.refl _)

/-- The object of an archived pet says how it was archived, with the members of the pet. -/
theorem restates_metadata (key : Int) (row : ArchivedRow .pet)
    : Restates Form.metadata.shape (Form.metadata.json row.toMetadata) (row.json .pet key) := by
  have names : (row.petMembers key).map Prod.fst
      = Kind.pet.keyColumn :: Kind.pet.columns.map Field.name := rfl
  have other : ∀ name ∈ (row.petMembers key).map Prod.fst,
      fieldNamed? Form.metadata.shape name = none := by
    rw [names]
    decide
  rw [json_pet_eq]
  exact .intro (List.Sublist.refl _) (fun m member => .inr member) (List.forall_mem_map.mp other)
    List.perm_append_comm

/-- The object of an archived pet is refused for its form, whatever it holds. -/
theorem readBoth_json_pet (fits : (Form.record .pet).Fits (key, row.shown))
    (fits' : Form.metadata.Fits row.toMetadata)
    : readBoth (Form.record .pet).shape Form.metadata.shape (row.json .pet key).node
        = .error .mismatched := by
  have record := Form.record_lawful .pet
  have metadata := Form.metadata_lawful
  have same := row.restates_record key
  rw [Form.json, Form.members_eq] at same
  obtain ⟨ms, object, holds⟩ := exists_holds_of_restates record.sound fits same
  have same' := row.restates_metadata key
  rw [Form.json, Form.members_eq] at same'
  obtain ⟨ms', object', holds'⟩ := exists_holds_of_restates metadata.sound fits' same'
  cases object.symm.trans object'
  have within : Within greatestDepth (row.json .pet key) := by
    rw [json_pet, Form.members_eq]
    refine .object (List.forall_mem_append.mpr ⟨within_members record.sound fits 126, ?_⟩)
    intro m member
    have member' := List.mem_of_mem_drop member
    rw [Form.members_eq] at member'
    exact within_members metadata.sound fits' 126 m member'
  rw [object] at within ⊢
  exact readBoth_of_shared (.required "archived" .bool) record.sound fits holds metadata.sound fits'
    holds' List.mem_cons_self rfl rfl within

end ArchivedRow

-----------------------------------------------------------------------------------------
-- Archived pets
-----------------------------------------------------------------------------------------

/-- The texts of an archived pet's object are refused for its form, whatever the pet and however it was
archived. Yet the pet with its flag is read back from each of them, and so is how it was archived. No
text at all is read as a pet and how it was archived, of whatever values.
-/
theorem archived_pet_read_in_parts (key : Int) (row : ArchivedRow .pet)
    (fits : (Form.record .pet).Fits (key, row.shown)) (fits' : Form.metadata.Fits row.toMetadata)
    : (∀ s, Spelled (row.json .pet key) s →
        (Form.record .pet).readPair Form.metadata s = .error .mismatched
        ∧ (Form.record .pet).read s = .ok (key, row.shown)
        ∧ Form.metadata.read s = .ok row.toMetadata)
      ∧ ∀ s values, (Form.record .pet).readPair Form.metadata s ≠ .ok values := by
  constructor
  · intro s spelled
    refine ⟨?_, ?_, ?_⟩
    · rw [Form.readPair, readWhole_of_spelled _ spelled, ArchivedRow.readBoth_json_pet fits fits']
      rfl
    · exact Form.read_of_restates (Form.record_lawful .pet) fits (row.restates_record key) spelled
    · exact Form.read_of_restates Form.metadata_lawful fits' (row.restates_metadata key) spelled
  · exact Form.readPair_ne_ok (.required "archived" .bool) List.mem_cons_self rfl rfl

/-- A pet that was archived with all that a pet must have. -/
def rex : ArchivedRow .pet where
  content :=
    { owner := some 1, name := some "Rex", petType := none, description := none, age := some 3,
      gender := none, healthStatus := none, healthHistory := none, vaccinationStatus := none,
      vaccinationProof := none, adoptionStatus := some "Available", registered := none }
  archived := some true
  archivedAt := some ⟨1774958400, 0, by decide, by decide⟩
  archivedBy := none
  reason := some "moved away"

/-- A pet and how it was archived are read back from the line of their object, but not both at once. -/
theorem archived_pet_read_in_parts_of_rex
    : ((Form.record .pet).Fits (1, rex.shown) ∧ Form.metadata.Fits rex.toMetadata)
      ∧ (Form.record .pet).readPair Form.metadata (rex.json .pet 1).line = .error .mismatched
      ∧ (Form.record .pet).read (rex.json .pet 1).line = .ok (1, rex.shown)
      ∧ Form.metadata.read (rex.json .pet 1).line = .ok rex.toMetadata := by
  have fits : (Form.record .pet).Fits (1, rex.shown) := by decide
  have fits' : Form.metadata.Fits rex.toMetadata := by decide
  exact ⟨⟨fits, fits'⟩, (archived_pet_read_in_parts 1 rex fits fits').1 _ (spelled_line _)⟩

/-- The object of an archived pet is not read back as the pet and how it was archived. -/
theorem archived_pet_not_returned
    : (Form.record .pet).Fits (1, rex.shown) ∧ Form.metadata.Fits rex.toMetadata
      ∧ (Form.record .pet).readPair Form.metadata (rex.json .pet 1).line
          ≠ .ok ((1, rex.shown), rex.toMetadata) := by
  refine ⟨by decide, by decide, ?_⟩
  exact Form.readPair_ne_ok (.required "archived" .bool) List.mem_cons_self rfl rfl _ _

end AdoptionRecords
