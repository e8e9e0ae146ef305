import AdoptionRecords.Json.Form
import AdoptionRecords.Proofs.Reading.Dates
import AdoptionRecords.Proofs.Reading.Spelling
import Mathlib.Data.List.Forall2

/-! The cells of fields are read back from the members of an object, wherever these stand in it. An
empty cell may lack its member, and members that name no field do not count.
-/

namespace AdoptionRecords

open Text Calendar

-----------------------------------------------------------------------------------------
-- Cells that fit their fields
-----------------------------------------------------------------------------------------

namespace CellType

/-- Whether a cell that is not empty has a type. -/
def admits : CellType → Cell → Bool
  | bool, .bool _ | text, .text _ | date, .date _ | instant, .instant _ => true
  | int least greatest, .int n => least ≤ n && n ≤ greatest
  | choice names, .text name => names.contains name
  | _, _ => false

/-- Whether the numbers of a type have at most 64 bits. -/
def isNarrow : CellType → Bool
  | int least greatest => Decimal.min64 ≤ least && greatest ≤ Decimal.maxUnsigned64
  | _ => true

end CellType

namespace Field

/-- Whether a cell can stand in a field. -/
def admits (field : Field) : Cell → Bool
  | .null => field.optional
  | cell => field.type.admits cell

theorem null_or_admits {field : Field} {cell : Cell} (h : field.admits cell = true)
    : cell = .null ∧ field.optional = true ∨ field.type.admits cell = true := by
  cases cell with
  | null => exact .inl ⟨rfl, h⟩
  | bool | int | text | date | instant => exact .inr h

end Field

namespace Shape

/-- Whether fields are told apart by their names and hold numbers of at most 64 bits. -/
structure Sound (shape : Shape) : Prop where
  distinct : (shape.map Field.name).Nodup
  narrow : ∀ field ∈ shape, field.type.isNarrow = true

/-- Whether cells can stand in fields, one in each. -/
def Admits (shape : Shape) (cells : List Cell) : Prop :=
  List.Forall₂ (fun field cell => field.admits cell = true) shape cells

instance (shape : Shape) (cells : List Cell) : Decidable (shape.Admits cells) :=
  inferInstanceAs (Decidable (List.Forall₂ _ shape cells))

/-- Cells under the names of their fields. -/
def entries (shape : Shape) (cells : List Cell) : List (String × Cell) :=
  (shape.zip cells).map fun (field, cell) => (field.name, cell)

/-- The members by which cells are written. -/
def members (shape : Shape) (cells : List Cell) : List (String × Json) :=
  (shape.entries cells).map fun (name, cell) => (name, cell.json)

end Shape

namespace Json

-----------------------------------------------------------------------------------------
-- Single cells
-----------------------------------------------------------------------------------------

theorem node_int {n : Int} (least : Decimal.min64 ≤ n) (greatest : n ≤ Decimal.maxUnsigned64)
    : (int n).node = .int n := by
  have whole : Node.isWhole (n < 0) n.natAbs = true := by
    unfold Node.isWhole
    by_cases negative : n < 0
    · simp only [negative, decide_true, if_true, Bool.and_eq_true, decide_eq_true_eq]
      omega
    · simp only [negative, decide_false, Bool.false_eq_true, if_false, decide_eq_true_eq]
      omega
  rw [node, Node.ofSize, if_pos whole]
  by_cases negative : n < 0
  · simp only [negative, decide_true, if_true, Node.int.injEq]
    omega
  · simp only [negative, decide_false, Bool.false_eq_true, if_false, Node.int.injEq]
    omega

variable {kept : Bool} {type : CellType} {field : Field} {cell : Cell}

/-- A cell is read back as one of its type. -/
theorem readCell_node (kept : Bool) (narrow : type.isNarrow = true)
    (admits : type.admits cell = true)
    : readCell kept type cell.json.node = .ok cell := by
  cases type <;> cases cell <;> try cases admits
  case int.int least greatest n =>
    simp only [CellType.isNarrow, CellType.admits, Bool.and_eq_true, decide_eq_true_eq]
      at narrow admits
    rw [Cell.json, node_int (by omega) (by omega), readCell, if_pos admits]
    rfl
  case choice.text names name =>
    have named : names.contains name = true := admits
    simp only [Cell.json, node, readCell, readChoice, bind, Except.bind, named, if_true]
    rfl
  case date.date d =>
    simp only [Cell.json, node, readCell, bind, Except.bind, Date.read?_text, wanted]
    rfl
  case instant.instant i =>
    simp only [Cell.json, node, readCell, bind, Except.bind, Instant.read?_text, wanted]
    rfl
  all_goals rfl

/-- A cell is read back from its field. -/
theorem readField_node (kept : Bool) (narrow : field.type.isNarrow = true)
    (admits : field.admits cell = true)
    : readField kept field cell.json.node = .ok cell := by
  obtain ⟨rfl, optional⟩ | admits := Field.null_or_admits admits
  · unfold readField
    rw [optional]
    rfl
  · have read := readCell_node kept narrow admits
    unfold readField
    split
    · next null =>
        -- No type has a cell that is written as null.
        rw [null] at read
        cases type : field.type <;> rw [type] at read <;> cases kept <;> cases read
    · exact read

-----------------------------------------------------------------------------------------
-- Values that are passed over or kept for later
-----------------------------------------------------------------------------------------

namespace Node

mutual

/-- Any value can be passed over, by induction on it. -/
theorem pass_node : (j : Json) → pass j.node = .ok ()
  | .null | .bool _ | .real _ _ | .text _ => rfl
  | .int n => by
      rw [node, ofSize]
      split <;> rfl
  | .array items => by
      rw [node, pass, passItems_nodes items]
      rfl
  | .object members => by
      rw [node, pass, passMembers_memberNodes members]
      rfl

theorem passItems_nodes : (items : List Json) → passItems (nodes items) = .ok ()
  | [] => rfl
  | item :: rest => by
      rw [nodes, passItems, pass_node item, passItems_nodes rest]
      rfl

theorem passMembers_memberNodes : (members : List (String × Json))
    → passMembers (memberNodes members) = .ok ()
  | [] => rfl
  | (name, value) :: rest => by
      rw [memberNodes, passMembers, pass_node value, passMembers_memberNodes rest]
      rfl

end

end Node

/-- Whether a value is nested to at most the given depth, and none of its numbers is infinite. -/
inductive Within : Nat → Json → Prop
  | plain {depth : Nat} {j : Json} (plain : j.isPlain = true)
      (finite : ∀ significand exponent, j.node = .real significand exponent →
        Number.overflows significand exponent = false)
      : Within depth j
  | array {depth : Nat} {items : List Json} (within : ∀ item ∈ items, Within depth item)
      : Within (depth + 1) (.array items)
  | object {depth : Nat} {members : List (String × Json)}
      (within : ∀ m ∈ members, Within depth m.2)
      : Within (depth + 1) (.object members)

theorem Within.members {depth : Nat} {members : List (String × Json)}
    (h : Within (depth + 1) (Json.object members))
    : ∀ m ∈ members, Within depth m.2 := by
  cases h with
  | plain plain => cases plain
  | object within => exact within

namespace Node

theorem keepItems_nodes {depth : Nat} {items : List Json}
    (each : ∀ item ∈ items, keep depth item.node = .ok ())
    : keepItems depth (nodes items) = .ok () := by
  induction items with
  | nil => rfl
  | cons item rest ih =>
      rw [nodes, keepItems, each item List.mem_cons_self,
        ih fun later member => each later (List.mem_cons_of_mem item member)]
      rfl

theorem keepMembers_memberNodes {depth : Nat} {members : List (String × Json)}
    (each : ∀ m ∈ members, keep depth m.2.node = .ok ())
    : keepMembers depth (memberNodes members) = .ok () := by
  induction members with
  | nil => rfl
  | cons first rest ih =>
      rw [memberNodes, keepMembers, each first List.mem_cons_self,
        ih fun later member => each later (List.mem_cons_of_mem first member)]
      rfl

/-- A value that is not nested too deeply can be kept for later. -/
theorem keep_node {depth : Nat} {j : Json} (within : Within depth j)
    : keep depth j.node = .ok () := by
  induction within with
  | @plain depth j plain finite =>
      cases j with
      | array | object => cases plain
      | null | bool | text => rfl
      | int n =>
          rw [node, ofSize] at finite ⊢
          split
          · rfl
          · next whole =>
              rw [if_neg whole] at finite
              rw [keep, finite _ _ rfl]
              rfl
      | real m e =>
          rw [node] at finite ⊢
          rw [keep, finite _ _ rfl]
          rfl
  | array _ ih =>
      rw [node, keep, Nat.add_sub_cancel, keepItems_nodes ih, if_neg (Nat.succ_ne_zero _)]
      rfl
  | object _ ih =>
      rw [node, keep, Nat.add_sub_cancel, keepMembers_memberNodes ih, if_neg (Nat.succ_ne_zero _)]
      rfl

end Node

/-- The value of a cell is not nested. -/
theorem within_cell (narrow : field.type.isNarrow = true) (admits : field.admits cell = true)
    (depth : Nat)
    : Within depth cell.json := by
  cases cell with
  | int n =>
      refine .plain rfl fun significand exponent real => ?_
      have admits : field.type.admits (.int n) = true := admits
      cases type : field.type with
      | int least greatest =>
          rw [type] at narrow admits
          simp only [CellType.isNarrow, CellType.admits, Bool.and_eq_true, decide_eq_true_eq]
            at narrow admits
          rw [Cell.json, node_int (by omega) (by omega)] at real
          cases real
      | bool | text | date | instant | choice =>
          rw [type] at admits
          cases admits
  | null | bool | text | date | instant => exact .plain rfl nofun

-----------------------------------------------------------------------------------------
-- Members that hold the cells of fields
-----------------------------------------------------------------------------------------

theorem memberNodes_eq_map (ms : List (String × Json))
    : memberNodes ms = ms.map fun m => (.text (.ok m.1), m.2.node) := by
  induction ms with
  | nil => rfl
  | cons first rest ih => rw [memberNodes, ih, List.map_cons]

section Members

variable {shape : Shape} {cells : List Cell} {ms : List (String × Json)} {name : String}

theorem fieldNamed?_eq_none_iff
    : fieldNamed? shape name = none ↔ name ∉ shape.map Field.name := by
  simp only [fieldNamed?, List.find?_eq_none, beq_iff_eq, List.mem_map, not_exists, not_and]

/-- A name is that of no field, or of one with its cell. -/
theorem lookup_entries (admits : shape.Admits cells) (name : String)
    : fieldNamed? shape name = none ∧ (shape.entries cells).lookup name = none
      ∨ ∃ field cell, fieldNamed? shape name = some field
        ∧ (shape.entries cells).lookup name = some cell
        ∧ field ∈ shape ∧ field.admits cell = true := by
  induction admits with
  | nil => exact .inl ⟨rfl, rfl⟩
  | @cons field cell shape cells fits _ ih =>
      rw [fieldNamed?, List.find?_cons, Shape.entries, List.zip_cons_cons, List.map_cons,
        List.lookup_cons]
      by_cases same : name = field.name
      · subst same
        rw [beq_self_eq_true]
        exact .inr ⟨field, cell, rfl, rfl, List.mem_cons_self, fits⟩
      · rw [beq_false_of_ne same, beq_false_of_ne (Ne.symm same)]
        obtain none | ⟨found, held, named, looked, member, fits⟩ := ih
        · exact .inl none
        · exact .inr ⟨found, held, named, looked, List.mem_cons_of_mem field member, fits⟩

/-- Whether members hold cells: each that names a field has its cell, no field is named twice, and
no cell but an empty one lacks its member.
-/
structure Holds (shape : Shape) (cells : List Cell) (ms : List (String × Json)) : Prop where
  told : ∀ m ∈ ms, ∀ cell, (shape.entries cells).lookup m.1 = some cell → m.2 = cell.json
  once : ms.Pairwise fun a b => a.1 = b.1 → fieldNamed? shape a.1 = none
  present : ∀ entry ∈ shape.entries cells, entry.2 = .null ∨ entry.1 ∈ ms.map Prod.fst

/-- The cells that are found in members, under their names. -/
def foundIn (shape : Shape) (cells : List Cell) (ms : List (String × Json))
    : List (String × Cell) :=
  ms.filterMap fun m => ((shape.entries cells).lookup m.1).map (m.1, ·)

theorem foundIn_cons_none {first : String × Json}
    (held : (shape.entries cells).lookup first.1 = none)
    : foundIn shape cells (first :: ms) = foundIn shape cells ms :=
  List.filterMap_cons_none (by rw [held]; rfl)

theorem foundIn_cons_some {first : String × Json}
    (held : (shape.entries cells).lookup first.1 = some cell)
    : foundIn shape cells (first :: ms) = (first.1, cell) :: foundIn shape cells ms :=
  List.filterMap_cons_some (by rw [held]; rfl)

theorem lookup_foundIn (name : String)
    : (foundIn shape cells ms).lookup name
      = if name ∈ ms.map Prod.fst then (shape.entries cells).lookup name else none := by
  induction ms with
  | nil => rfl
  | cons first rest ih =>
      rw [List.map_cons]
      by_cases same : name = first.1
      · subst same
        rw [if_pos List.mem_cons_self]
        cases held : (shape.entries cells).lookup first.1 with
        | none => rw [foundIn_cons_none held, ih, held, ite_self]
        | some cell => rw [foundIn_cons_some held, List.lookup_cons, beq_self_eq_true]
      · simp only [List.mem_cons, same, false_or, ← ih]
        cases held : (shape.entries cells).lookup first.1 with
        | none => rw [foundIn_cons_none held]
        | some cell => rw [foundIn_cons_some held, List.lookup_cons, beq_false_of_ne same]

/-- The members of an object are read into the cells that they hold, by induction on them: no field
that is still to come has been found.
-/
theorem readMembers_of_told (sound : shape.Sound) (admits : shape.Admits cells)
    {found : List (String × Cell)}
    (told : ∀ m ∈ ms, ∀ cell, (shape.entries cells).lookup m.1 = some cell → m.2 = cell.json)
    (once : ms.Pairwise fun a b => a.1 = b.1 → fieldNamed? shape a.1 = none)
    (fresh : ∀ m ∈ ms, fieldNamed? shape m.1 = none ∨ found.lookup m.1 = none)
    : readMembers kept shape found (memberNodes ms) = .ok (found ++ foundIn shape cells ms) := by
  induction ms generalizing found with
  | nil => rw [memberNodes, readMembers, foundIn, List.filterMap_nil, List.append_nil]; rfl
  | cons first rest ih =>
      obtain ⟨name, value⟩ := first
      obtain ⟨apart, once⟩ := List.pairwise_cons.mp once
      have told' := fun m (member : m ∈ rest) => told m (List.mem_cons_of_mem _ member)
      have fresh' := fun m (member : m ∈ rest) => fresh m (List.mem_cons_of_mem _ member)
      rw [memberNodes, readMembers]
      simp only [Node.nameOf, bind, Except.bind]
      obtain ⟨unknown, looked⟩ | ⟨field, cell, known, looked, member, fits⟩ :=
        lookup_entries admits name
      · rw [unknown, foundIn_cons_none looked]
        simp only [Node.pass_node]
        exact ih told' once fresh'
      · obtain unnamed | new := fresh _ List.mem_cons_self
        · rw [known] at unnamed
          cases unnamed
        have written : value = cell.json := told _ List.mem_cons_self cell looked
        have read := readField_node kept (sound.narrow field member) fits
        rw [known, foundIn_cons_some looked, written]
        simp only [new, Option.isSome_none, Bool.false_eq_true, if_false, read]
        rw [ih told' once, List.append_assoc, List.singleton_append]
        -- The name just found does not come again, for it names a field.
        intro m later
        by_cases same : name = m.1
        · rw [apart m later same] at known
          cases known
        · refine (fresh' m later).imp_right fun none => ?_
          rw [List.lookup_append, none, List.lookup_cons, beq_false_of_ne (Ne.symm same)]
          rfl

/-- Cells are collected where they are found, or are empty and may be. -/
theorem collect_of_lookup {found : List (String × Cell)}
    (each : List.Forall₂ (fun field cell => found.lookup field.name = some cell
      ∨ found.lookup field.name = none ∧ cell = .null ∧ field.optional = true) shape cells)
    : collect shape found = .ok cells := by
  unfold collect
  induction each with
  | nil => rfl
  | cons first _ ih =>
      rw [List.mapM_cons, ih]
      obtain looked | ⟨looked, rfl, optional⟩ := first
      · rw [looked]
        rfl
      · rw [looked]
        simp only [optional, if_true]
        rfl

theorem lookup_entries_of_mem (distinct : (shape.map Field.name).Nodup)
    (member : (field, cell) ∈ shape.zip cells)
    : (shape.entries cells).lookup field.name = some cell := by
  induction shape generalizing cells with
  | nil => cases member
  | cons first shape ih =>
      cases cells with
      | nil => cases member
      | cons cell' cells =>
          obtain ⟨new, distinct⟩ := List.nodup_cons.mp distinct
          rw [Shape.entries, List.zip_cons_cons, List.map_cons, List.lookup_cons]
          obtain same | member := List.mem_cons.mp member
          · cases same
            rw [beq_self_eq_true]
          · have ne : field.name ≠ first.name := fun same =>
              new (same ▸ List.mem_map_of_mem (List.of_mem_zip member).1)
            rw [beq_false_of_ne ne]
            exact ih distinct member

/-- Members that hold cells are read into those that are not missing. -/
theorem readMembers_of_holds (sound : shape.Sound) (admits : shape.Admits cells)
    (h : Holds shape cells ms)
    : readMembers kept shape [] (memberNodes ms) = .ok (foundIn shape cells ms) :=
  readMembers_of_told sound admits h.told h.once fun _ _ => .inr rfl

/-- Cells are collected from members that hold them. -/
theorem collect_of_holds (sound : shape.Sound) (admits : shape.Admits cells)
    (h : Holds shape cells ms)
    : collect shape (foundIn shape cells ms) = .ok cells := by
  refine collect_of_lookup
    (List.forall₂_iff_zip.mpr ⟨admits.length_eq, fun {field cell} member => ?_⟩)
  have held := lookup_entries_of_mem sound.distinct member
  rw [lookup_foundIn, held]
  by_cases named : field.name ∈ ms.map Prod.fst
  · exact .inl (if_pos named)
  · obtain rfl | named' := h.present _ (List.mem_map_of_mem member)
    · exact .inr ⟨if_neg named, rfl, (List.forall₂_iff_zip.mp admits).2 member⟩
    · exact absurd named' named

/-- Cells are read back from an object that holds them. -/
theorem readCells_of_holds (sound : shape.Sound) (admits : shape.Admits cells)
    (h : Holds shape cells ms)
    : readCells kept shape (.object (memberNodes ms) none) = .ok cells := by
  rw [readCells, readMembers_of_holds sound admits h]
  exact collect_of_holds sound admits h

-----------------------------------------------------------------------------------------
-- Objects that say the same
-----------------------------------------------------------------------------------------

/-- Whether an object says the same as another to one who reads some fields: of its members the
empty ones may be left out, members that name no field may be added, and all may stand in any order.
-/
inductive Restates (shape : Shape) : Json → Json → Prop
  | intro {written kept added ms : List (String × Json)}
      (less : kept.Sublist written)
      (empty : ∀ m ∈ written, m.2 = .null ∨ m ∈ kept)
      (other : ∀ m ∈ added, fieldNamed? shape m.1 = none)
      (order : ms.Perm (kept ++ added))
      : Restates shape (.object written) (.object ms)

/-- An object says the same as itself. -/
theorem Restates.refl (shape : Shape) (ms : List (String × Json))
    : Restates shape (.object ms) (.object ms) :=
  .intro (List.Sublist.refl ms) (fun _ member => .inr member)
    (fun _ none => absurd none List.not_mem_nil) (by rw [List.append_nil])

theorem mem_members {m : String × Json} (h : m ∈ shape.members cells)
    : ∃ field cell, (field, cell) ∈ shape.zip cells ∧ m = (field.name, cell.json) := by
  obtain ⟨entry, member, rfl⟩ := List.mem_map.mp h
  obtain ⟨⟨field, cell⟩, paired, rfl⟩ := List.mem_map.mp member
  exact ⟨field, cell, paired, rfl⟩

/-- The members by which cells are written are not nested. -/
theorem within_members (sound : shape.Sound) (admits : shape.Admits cells) (depth : Nat)
    : ∀ m ∈ shape.members cells, Within depth m.2 := by
  intro m member
  obtain ⟨field, cell, paired, rfl⟩ := mem_members member
  exact within_cell (sound.narrow field (List.of_mem_zip paired).1)
    ((List.forall₂_iff_zip.mp admits).2 paired) depth

theorem map_fst_members (length : shape.length = cells.length)
    : (shape.members cells).map Prod.fst = shape.map Field.name := by
  rw [Shape.members, Shape.entries, List.map_map, List.map_map]
  calc (shape.zip cells).map _
      = ((shape.zip cells).map Prod.fst).map Field.name := List.map_map.symm
    _ = shape.map Field.name := by rw [List.map_fst_zip (Nat.le_of_eq length)]

/-- An object that says the same as the one by which cells are written holds them. -/
theorem exists_holds_of_restates {j : Json} (sound : shape.Sound) (admits : shape.Admits cells)
    (same : Restates shape (.object (shape.members cells)) j)
    : ∃ ms, j = .object ms ∧ Holds shape cells ms := by
  obtain @⟨_, kept, added, ms, less, empty, other, order⟩ := same
  refine ⟨ms, rfl, ?_⟩
  have unlooked {m : String × Json} (member : m ∈ added)
      : (shape.entries cells).lookup m.1 = none := by
    obtain ⟨-, looked⟩ | ⟨field, cell, named, -⟩ := lookup_entries admits m.1
    · exact looked
    · rw [other m member] at named
      cases named
  constructor
  case told =>
    intro m member cell looked
    obtain member | member := List.mem_append.mp (order.mem_iff.mp member)
    · obtain ⟨field, cell', paired, rfl⟩ := mem_members (less.subset member)
      rw [lookup_entries_of_mem sound.distinct paired] at looked
      cases looked
      rfl
    · rw [unlooked member] at looked
      cases looked
  case once =>
    have distinct : ((shape.members cells).map Prod.fst).Nodup :=
      map_fst_members admits.length_eq ▸ sound.distinct
    refine (order.pairwise_iff fun same equal => ?_).mpr (List.pairwise_append.mpr ⟨?_, ?_, ?_⟩)
    · rw [equal]
      exact same equal.symm
    · exact (List.pairwise_map.mp distinct).sublist less |>.imp fun ne equal => absurd equal ne
    · exact List.pairwise_of_forall_mem_list fun a member _ _ _ => other a member
    -- What was added names no field, so it shares no name with what was kept.
    · exact fun a _ b member equal => equal ▸ other b member
  case present =>
    intro entry member
    obtain null | kept := empty _ (List.mem_map_of_mem member)
    · refine .inl ?_
      obtain ⟨name, cell⟩ := entry
      cases cell <;> first | rfl | cases null
    · exact .inr (List.mem_map_of_mem (order.mem_iff.mpr (List.mem_append_left added kept)))

end Members

end Json

end AdoptionRecords
