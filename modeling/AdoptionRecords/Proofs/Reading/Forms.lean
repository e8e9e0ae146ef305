import AdoptionRecords.Json.Forms
import AdoptionRecords.Proofs.Reading.Fields
import AdoptionRecords.Proofs.Store.Logging

/-! Values are read back from the objects that say what they are written as: values in one form, two
values that share one object, and changes of role, whose fields depend on a tag.
-/

namespace AdoptionRecords

open Json

variable {α β : Type} {kept : Bool} {ms : List (String × Json)}

-----------------------------------------------------------------------------------------
-- Shapes that share one object
-----------------------------------------------------------------------------------------

section Both

variable {first second : Shape} {left right : List Cell}

theorem Shape.Sound.of_append_left (h : Shape.Sound (first ++ second)) : first.Sound where
  distinct := (List.nodup_append.mp (List.map_append ▸ h.distinct)).1
  narrow field member := h.narrow field (List.mem_append_left second member)

theorem Shape.Sound.of_append_right (h : Shape.Sound (first ++ second)) : second.Sound where
  distinct := (List.nodup_append.mp (List.map_append ▸ h.distinct)).2.1
  narrow field member := h.narrow field (List.mem_append_right first member)

theorem Shape.entries_append (length : first.length = left.length)
    : Shape.entries (first ++ second) (left ++ right)
      = first.entries left ++ second.entries right := by
  rw [Shape.entries, List.zip_append length, List.map_append]
  rfl

theorem Shape.members_append (length : first.length = left.length)
    : Shape.members (first ++ second) (left ++ right)
      = first.members left ++ second.members right := by
  rw [Shape.members, Shape.entries_append length, List.map_append]
  rfl

theorem fieldNamed?_append (name : String)
    : fieldNamed? (first ++ second) name = (fieldNamed? first name).or (fieldNamed? second name) :=
  List.find?_append

/-- The members that name none of the fields of a shape. -/
def beside (shape : Shape) (ms : List (String × Json)) : List (String × Json) :=
  ms.filter fun m => (fieldNamed? shape m.1).isNone

theorem remaining_memberNodes (shape : Shape) (ms : List (String × Json))
    : remaining shape (memberNodes ms) = memberNodes (beside shape ms) := by
  rw [memberNodes_eq_map, memberNodes_eq_map, beside, remaining, List.filter_map]
  rfl

/-- Members that hold the cells of two shapes hold those of the first. -/
theorem Json.Holds.of_append_left (length : first.length = left.length)
    (h : Holds (first ++ second) (left ++ right) ms)
    : Holds first left ms where
  told m member cell looked := h.told m member cell (by
    rw [Shape.entries_append length, List.lookup_append, looked]
    rfl)
  once := h.once.imp fun same equal => by
    have none := same equal
    rw [fieldNamed?_append, Option.or_eq_none_iff] at none
    exact none.1
  present entry member := h.present entry (by
    rw [Shape.entries_append length]
    exact List.mem_append_left _ member)

/-- What the first of two shapes leaves over holds the cells of the second. -/
theorem Json.Holds.of_append_right (sound : Shape.Sound (first ++ second))
    (admits : first.Admits left) (h : Holds (first ++ second) (left ++ right) ms)
    : Holds second right (beside first ms) := by
  have entries : Shape.entries (first ++ second) (left ++ right)
      = first.entries left ++ second.entries right := Shape.entries_append admits.length_eq
  constructor
  case told =>
    intro m member cell looked
    obtain ⟨member, unnamed⟩ := List.mem_filter.mp member
    refine h.told m member cell ?_
    obtain ⟨-, none⟩ | ⟨field, _, named, -⟩ := lookup_entries admits m.1
    · rw [entries, List.lookup_append, none, looked]
      rfl
    · rw [named] at unnamed
      cases unnamed
  case once =>
    refine List.Pairwise.filter _ (h.once.imp fun same equal => ?_)
    have none := same equal
    rw [fieldNamed?_append, Option.or_eq_none_iff] at none
    exact none.2
  case present =>
    intro entry member
    have apart : entry.1 ∉ first.map Field.name := fun shared => by
      obtain ⟨⟨field, cell⟩, paired, rfl⟩ := List.mem_map.mp member
      have named := List.mem_map_of_mem (f := Field.name) (List.of_mem_zip paired).1
      have disjoint := (List.nodup_append.mp (List.map_append ▸ sound.distinct)).2.2
      exact disjoint _ shared _ named rfl
    refine (h.present entry (entries ▸ List.mem_append_right _ member)).imp_right fun held => ?_
    obtain ⟨m, member, same⟩ := List.mem_map.mp held
    refine List.mem_map.mpr ⟨m, List.mem_filter.mpr ⟨member, ?_⟩, same⟩
    rw [same, fieldNamed?_eq_none_iff.mpr apart]
    rfl

/-- The cells of two shapes are read back from one object that holds both. -/
theorem readBoth_of_holds (sound : Shape.Sound (first ++ second)) (admits : first.Admits left)
    (admits' : second.Admits right) (h : Holds (first ++ second) (left ++ right) ms)
    (within : Within greatestDepth (.object ms))
    : readBoth first second (.object (memberNodes ms) none) = .ok (left, right) := by
  have kept := Node.keep_node within
  rw [node] at kept
  have ofFirst := h.of_append_left admits.length_eq
  have ofSecond := h.of_append_right sound admits
  rw [readBoth, kept, remaining_memberNodes,
    readMembers_of_holds sound.of_append_left admits ofFirst,
    readMembers_of_holds sound.of_append_right admits' ofSecond]
  simp only [bind, Except.bind, collect_of_holds sound.of_append_left admits ofFirst,
    collect_of_holds sound.of_append_right admits' ofSecond]
  rfl

end Both

-----------------------------------------------------------------------------------------
-- Values in forms
-----------------------------------------------------------------------------------------

/-- A text that spells a value is read as that value is. -/
theorem readWhole_of_spelled {j : Json} {s : String} (read : Node → Except Flaw α)
    (spelled : Spelled j s)
    : readWhole read s = read j.node := by
  obtain ⟨before, cs, after, blank, spelled, blank', rfl⟩ := spelled
  have none : Node.skipSpace after = [] := by
    rw [← List.append_nil after, Node.skipSpace_append blank']
    rfl
  rw [readWhole, String.toList_ofList, Node.ofText_of_spells blank spelled blank']
  cases found : read j.node with
  | error flaw => simp only [found]
  | ok value => simp only [found, none, if_true]

namespace Form

/-- Whether a value can stand in the fields of its form. -/
def Fits (f : Form α) (value : α) : Prop :=
  f.shape.Admits (f.cells value)

instance (f : Form α) (value : α) : Decidable (f.Fits value) :=
  inferInstanceAs (Decidable (f.shape.Admits _))

/-- Whether the fields of a form are told apart, and its values are made of their cells again. -/
structure Lawful (f : Form α) : Prop where
  sound : f.shape.Sound
  made : ∀ value, f.ofCells? (f.cells value) = some value

variable {f : Form α} {g : Form β} {value : α} {j : Json} {s : String}

theorem members_eq (f : Form α) (value : α)
    : f.members value = f.shape.members (f.cells value) := by
  rw [members, Shape.members, Shape.entries, List.map_map]
  rfl

/-- A value is read back from each object that says the same as the one it is written as. -/
theorem read_of_restates (lawful : f.Lawful) (fits : f.Fits value)
    (same : Restates f.shape (f.json value) j) (spelled : Spelled j s)
    : f.read s = .ok value := by
  rw [json, members_eq] at same
  obtain ⟨ms, rfl, holds⟩ := exists_holds_of_restates lawful.sound fits same
  rw [read, readWhole_of_spelled _ spelled, node, readNode,
    readCells_of_holds lawful.sound fits holds]
  simp only [bind, Except.bind, lawful.made]
  rfl

/-- Two values whose fields are told apart are written as one object with the members of both. -/
theorem pairJson_eq {other : β} (sound : Shape.Sound (f.shape ++ g.shape)) (fits : f.Fits value)
    (fits' : g.Fits other)
    : f.pairJson g value other
      = .object (Shape.members (f.shape ++ g.shape) (f.cells value ++ g.cells other)) := by
  have disjoint := (List.nodup_append.mp (List.map_append ▸ sound.distinct)).2.2
  have apart {m m' : String × Json} (member : m ∈ f.shape.members (f.cells value))
      (member' : m' ∈ g.shape.members (g.cells other)) : m.1 ≠ m'.1 :=
    disjoint _ (map_fst_members fits.length_eq ▸ List.mem_map_of_mem member)
      _ (map_fst_members fits'.length_eq ▸ List.mem_map_of_mem member')
  rw [Shape.members_append fits.length_eq, pairJson, members_eq, members_eq]
  generalize f.shape.members (f.cells value) = left at apart ⊢
  generalize g.shape.members (g.cells other) = right at apart ⊢
  have shared : (left.map fun m => (m.1, (right.lookup m.1).getD m.2)) = left := by
    refine (List.map_congr_left fun m member => ?_).trans (List.map_id _)
    have none := List.lookup_eq_none_iff.mpr fun m' member' => bne_iff_ne.mpr (apart member member')
    rw [none, Option.getD_none, id]
  have added : (right.filter fun m => (left.lookup m.1).isNone) = right := by
    refine List.filter_eq_self.mpr fun m' member' => ?_
    have none := List.lookup_eq_none_iff.mpr fun m member =>
      bne_iff_ne.mpr (apart member member').symm
    rw [none, Option.isNone_none]
  show Json.object ((left.map fun m => (m.1, (right.lookup m.1).getD m.2)) ++ right.filter fun m =>
    ((left.map fun m => (m.1, (right.lookup m.1).getD m.2)).lookup m.1).isNone) = _
  rw [shared, added]

/-- Two values are read back from each object that says the same as theirs, unless it is nested too
deeply.
-/
theorem readPair_of_restates {other : β} (sound : Shape.Sound (f.shape ++ g.shape))
    (lawful : f.Lawful) (lawful' : g.Lawful) (fits : f.Fits value) (fits' : g.Fits other)
    (same : Restates (f.shape ++ g.shape) (f.pairJson g value other) j)
    (within : Within greatestDepth j) (spelled : Spelled j s)
    : f.readPair g s = .ok (value, other) := by
  rw [pairJson_eq sound fits fits'] at same
  obtain ⟨ms, rfl, holds⟩ := exists_holds_of_restates sound (List.rel_append fits fits') same
  rw [readPair, readWhole_of_spelled _ spelled, node,
    readBoth_of_holds sound fits fits' holds within]
  simp only [bind, Except.bind, lawful.made, lawful'.made]
  rfl

end Form

-----------------------------------------------------------------------------------------
-- What is stored and shown
-----------------------------------------------------------------------------------------

/-- A live row is made of its own cells. -/
theorem LiveRow.ofCells?_cells {kind : Kind} (row : LiveRow kind)
    : ofCells? kind row.cells = some row := by
  have length : (Content.cells kind row.content).length = kind.columns.length := by
    cases kind <;> rfl
  unfold ofCells? cells
  simp only [← length, List.drop_left, List.take_left, Content.ofCells?_cells, flagCells,
    Cell.bool?_ofOption, Cell.instant?_ofOption]
  rfl

/-- What is shown of a record is made of its own cells. -/
theorem Shown.ofCells?_cells : (kind : Kind) → (shown : Shown kind)
    → ofCells? kind (cells kind shown) = some shown
  | .pet, row => LiveRow.ofCells?_cells row
  | .user, c => Content.ofCells?_cells .user c
  | .adopter, c => Content.ofCells?_cells .adopter c
  | .petOwner, c => Content.ofCells?_cells .petOwner c
  | .adoptionRequest, c => Content.ofCells?_cells .adoptionRequest c
  | .adoption, c => Content.ofCells?_cells .adoption c

namespace Form

theorem record_lawful (kind : Kind) : (record kind).Lawful where
  sound := by cases kind <;> exact ⟨by decide, by decide⟩
  made value := by
    simp only [record, Shown.ofCells?_cells]
    rfl

theorem metadata_lawful : metadata.Lawful where
  sound := ⟨by decide, by decide⟩
  made value := by
    simp [metadata, Metadata.cells, Metadata.ofCells?]

theorem logEntry_lawful : logEntry.Lawful where
  sound := ⟨by decide, by decide⟩
  made value := by
    simp [logEntry]

theorem report_lawful : report.Lawful where
  sound := ⟨by decide, by decide⟩
  made value := by
    simp [report]

/-- The fields of a record and of how it was archived are told apart, but for those of a pet. -/
theorem record_metadata_sound {kind : Kind} (other : kind ≠ .pet)
    : Shape.Sound ((record kind).shape ++ metadata.shape) := by
  cases kind with
  | pet => exact absurd rfl other
  | user | adopter | petOwner | adoptionRequest | adoption => exact ⟨by decide, by decide⟩

end Form

-----------------------------------------------------------------------------------------
-- Choices
-----------------------------------------------------------------------------------------

@[simp]
theorem Form.kindNamed?_name (kind : Kind) : kindNamed? kind.name = some kind := by
  cases kind <;> decide

@[simp]
theorem Role.read?_name (role : Role) : Role.read? role.name = some role := by
  cases role <;> decide

theorem Json.readChoice_text {names : List String} {name : String} (member : name ∈ names)
    : readChoice kept names (node (.text name)) = .ok name := by
  have named : names.contains name = true := List.contains_iff_mem.mpr member
  simp only [node, readChoice, bind, Except.bind, named, if_true]
  rfl

-----------------------------------------------------------------------------------------
-- Changes of role
-----------------------------------------------------------------------------------------

namespace RoleChange

/-- The fields that follow the tag of a change of role. -/
def shape (c : RoleChange) : Shape :=
  (shapes.lookup c.tagged.1).getD []

/-- The fields of a change of role. -/
def fields (c : RoleChange) : Shape :=
  .required tag .text :: c.shape

/-- The cells of a change of role. -/
def cells (c : RoleChange) : List Cell :=
  .text c.tagged.1 :: c.tagged.2

theorem json_eq (c : RoleChange) : c.json = .object (Shape.members c.fields c.cells) := by
  cases c <;> rfl

theorem lookup_shapes (c : RoleChange) : shapes.lookup c.tagged.1 = some c.shape := by
  cases c <;> rfl

theorem fields_sound (c : RoleChange) : c.fields.Sound := by
  have unchanged : Shape.Sound (.required tag .text :: unchangedShape) := ⟨by decide, by decide⟩
  have changed : Shape.Sound (.required tag .text :: changedShape) := ⟨by decide, by decide⟩
  cases c with
  | unchanged => exact unchanged
  | changed => exact changed

theorem name_mem_kinds (kind : Kind) : kind.name ∈ Kind.declared.map Kind.name := by
  cases kind <;> decide

theorem name_mem_roles (role : Role) : role.name ∈ Role.all.map Role.name := by
  cases role <;> decide

theorem shape_admits (c : RoleChange) : c.shape.Admits c.tagged.2 := by
  have named (kind : Option Kind) (name : String)
      : (Field.nullable name Form.kindType).admits (.ofOption .text (kind.map Kind.name))
        = true := by
    cases kind with
    | none => rfl
    | some kind => exact List.contains_iff_mem.mpr (name_mem_kinds kind)
  cases c with
  | unchanged synced => exact .cons (named synced _) .nil
  | changed before after flagged created =>
      have held (role : Role) (name : String)
          : (Field.required name Form.roleType).admits (.text role.name) = true :=
        List.contains_iff_mem.mpr (name_mem_roles role)
      exact .cons (held before _) (.cons (held after _) (.cons (named flagged _)
        (.cons (named created _) .nil)))

theorem fields_admit (c : RoleChange) : c.fields.Admits c.cells :=
  .cons rfl c.shape_admits

/-- A change of role is made of its own tag and cells. -/
theorem ofCells?_tagged (c : RoleChange) : ofCells? c.tagged.1 c.tagged.2 = some c := by
  have named (kind : Option Kind)
      : kindOfCell? (.ofOption .text (kind.map Kind.name)) = some kind := by
    cases kind with
    | none => rfl
    | some kind => simp [Cell.ofOption, kindOfCell?]
  cases c <;> simp [tagged, ofCells?, named]

theorem readTag_text {name : String} (known : (shapes.lookup name).isSome = true)
    : readTag (node (.text name)) = .ok name := by
  simp only [node, readTag, bind, Except.bind, known, if_true]
  rfl

/-- The tag is found among members, the others of which are not nested too deeply. -/
theorem readMembers_of_told {name : String} {found : Option String}
    (known : (shapes.lookup name).isSome = true)
    (told : ∀ m ∈ ms, m.1 = tag → m.2 = .text name)
    (once : ms.Pairwise fun a b => a.1 = b.1 → a.1 ≠ tag)
    (fresh : found = none ∨ tag ∉ ms.map Prod.fst)
    (within : ∀ m ∈ ms, Within (greatestDepth - 1) m.2)
    : readMembers found (memberNodes ms)
      = .ok (if tag ∈ ms.map Prod.fst then some name else found) := by
  induction ms generalizing found with
  | nil => rfl
  | cons first rest ih =>
      obtain ⟨apart, once⟩ := List.pairwise_cons.mp once
      have told' := fun m (member : m ∈ rest) => told m (List.mem_cons_of_mem _ member)
      have within' := fun m (member : m ∈ rest) => within m (List.mem_cons_of_mem _ member)
      rw [memberNodes, readMembers]
      simp only [Node.nameOf, bind, Except.bind]
      by_cases tagged : first.1 = tag
      · have last : tag ∉ rest.map Prod.fst := fun again => by
          obtain ⟨m, member, same⟩ := List.mem_map.mp again
          exact apart m member (tagged.trans same.symm) tagged
        obtain rfl | missing := fresh
        · have held : tag ∈ (first :: rest).map Prod.fst :=
            List.mem_map.mpr ⟨first, List.mem_cons_self, tagged⟩
          rw [if_pos tagged, told first List.mem_cons_self tagged, if_pos held]
          simp only [Option.isSome_none, Bool.false_eq_true, if_false, readTag_text known,
            ih told' once (.inr last) within', if_neg last]
        · exact absurd (List.mem_map.mpr ⟨first, List.mem_cons_self, tagged⟩) missing
      · rw [if_neg tagged, Node.keep_node (within first List.mem_cons_self)]
        have fresh' := fresh.imp_right fun missing again =>
          missing (List.mem_cons_of_mem first.1 again)
        simp only [ih told' once fresh' within', List.map_cons, List.mem_cons, Ne.symm tagged,
          false_or]

theorem fieldNamed?_fields_tag (c : RoleChange) : (fieldNamed? c.fields tag).isSome = true := rfl

/-- The members that are kept until the tag is known are those beside it. -/
theorem filter_isTag_memberNodes (ms : List (String × Json))
    : (memberNodes ms).filter (fun (name, _) => !isTag name)
      = memberNodes (beside [.required tag .text] ms) := by
  rw [memberNodes_eq_map, memberNodes_eq_map, beside, List.filter_map]
  congr 1
  refine List.filter_congr fun m _ => ?_
  show (!(m.1 == tag)) = (List.find? _ [Field.required tag .text]).isNone
  rw [List.find?_cons, Field.required, Bool.beq_comm]
  cases tag == m.1 <;> rfl

/-- A change of role is read back from each object that says the same, unless it is nested too
deeply.
-/
theorem readJson_of_restates {c : RoleChange} {j : Json} {s : String}
    (same : Restates c.fields c.json j) (within : Within greatestDepth j) (spelled : Spelled j s)
    : readJson s = .ok c := by
  rw [json_eq] at same
  have tagged : Shape.Admits [.required tag .text] [.text c.tagged.1] := .cons rfl .nil
  obtain ⟨ms, rfl, holds⟩ := exists_holds_of_restates c.fields_sound c.fields_admit same
  have known : (shapes.lookup c.tagged.1).isSome = true := by rw [lookup_shapes, Option.isSome_some]
  have once : ms.Pairwise fun a b => a.1 = b.1 → a.1 ≠ tag :=
    holds.once.imp fun none equal isTag => by
      have some := fieldNamed?_fields_tag c
      rw [← isTag, none equal] at some
      cases some
  have found := readMembers_of_told known
    (fun m member isTag => holds.told m member (.text c.tagged.1) (isTag ▸ rfl)) once (.inl rfl)
    within.members
  have held : tag ∈ ms.map Prod.fst :=
    (holds.present (tag, .text c.tagged.1) List.mem_cons_self).resolve_left nofun
  have sound : Shape.Sound ([.required tag .text] ++ c.shape) := c.fields_sound
  have rest : readCells true c.shape (.object (memberNodes (beside [.required tag .text] ms)) none)
      = .ok c.tagged.2 :=
    readCells_of_holds sound.of_append_right c.shape_admits (holds.of_append_right sound tagged)
  rw [readJson, readWhole_of_spelled _ spelled, node, readNode, found, if_pos held,
    filter_isTag_memberNodes]
  simp only [bind, Except.bind, Node.checkClose, wanted, lookup_shapes, Option.getD_some, rest,
    ofCells?_tagged]

end RoleChange

end AdoptionRecords
