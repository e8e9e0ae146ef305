import AdoptionRecords.Cell
import AdoptionRecords.Calendar.Text
import AdoptionRecords.Json.Node

/-! Forms: how values are laid out in the fields of a JSON object. A value is written as an object
with all its fields in order. It is read from an object, whose unknown members are passed over and
whose empty fields may be left out, or from an array of its fields in order. The first flaw in the
order of the text decides why a text is refused.
-/

namespace AdoptionRecords

namespace Cell

/-- The JSON value of a cell. -/
def json : Cell → Json
  | null => .null
  | bool value => .bool value
  | int value => .int value
  | text value => .text value
  | date value => .text value.text
  | instant value => .text value.text

end Cell

namespace Json

/-- A cell, if there is one; otherwise the value has another shape. -/
def wanted {α : Type} : Option α → Except Flaw α
  | some value => .ok value
  | none => .error .mismatched

/-- Reads a member whose name is a choice. Its value is null, and may be an empty object in a
value that was kept for later.
-/
def readNamedChoice (kept : Bool) (names : List String) (name value : Node)
    : Except Flaw String := do
  let name ← Node.nameOf name
  if !names.contains name then
    throw .mismatched
  match value with
  | .null => return name
  | .object [] none => if kept then return name else throw .mismatched
  | other => throw other.unwanted

/-- Reads one of several names, which may also be the only member of an object. -/
def readChoice (kept : Bool) (names : List String) : Node → Except Flaw String
  | .text content => do
      let name ← content
      if names.contains name then return name else throw .mismatched
  | .object [(name, value)] close => do
      let name ← readNamedChoice kept names name value
      Node.checkClose close
      return name
  | .object ((name, value) :: _) _ => do
      if kept then
        throw .mismatched
      let _ ← readNamedChoice kept names name value
      throw .malformed
  | .object [] close =>
      match close with
      | some flaw => throw flaw
      | none => throw (if kept then .mismatched else .malformed)
  | .broken _ _ choosing => throw choosing
  | _ => throw (if kept then .mismatched else .malformed)

/-- Reads a cell of a type that is not empty. -/
def readCell (kept : Bool) : CellType → Node → Except Flaw Cell
  | .bool, .bool value => return .bool value
  | .int least greatest, .int value =>
      if least ≤ value ∧ value ≤ greatest then return .int value else throw .mismatched
  | .text, .text content => return .text (← content)
  | .date, .text content => return .date (← wanted (Calendar.Date.read? (← content)))
  | .instant, .text content => return .instant (← wanted (Calendar.Instant.read? (← content)))
  | .choice names, node => return .text (← readChoice kept names node)
  | _, node => throw node.unwanted

/-- Reads the cell of a field; an empty one is null. -/
def readField (kept : Bool) (field : Field) (node : Node) : Except Flaw Cell :=
  match field.optional, node with
  | true, .null => return .null
  | _, _ => readCell kept field.type node

/-- The field with a name. -/
def fieldNamed? (shape : Shape) (name : String) : Option Field :=
  shape.find? fun field => field.name == name

/-- Reads members into the cells of the fields that they name. A field may be named only once,
and members that name no field are passed over.
-/
def readMembers (kept : Bool) (shape : Shape) (found : List (String × Cell))
    : List (Node × Node) → Except Flaw (List (String × Cell))
  | [] => return found
  | (name, value) :: rest => do
      let name ← Node.nameOf name
      match fieldNamed? shape name with
      | some field =>
          -- A name that comes again is refused before its value is looked at.
          if (found.lookup name).isSome then
            throw .mismatched
          let cell ← readField kept field value
          readMembers kept shape (found ++ [(name, cell)]) rest
      | none =>
          value.pass
          readMembers kept shape found rest

/-- The cells of a shape that were found. A field that was not found must be one that may be
empty.
-/
def collect (shape : Shape) (found : List (String × Cell)) : Except Flaw (List Cell) :=
  shape.mapM fun field =>
    match found.lookup field.name with
    | some cell => return cell
    | none => if field.optional then return .null else throw .mismatched

/-- Reads items into the cells of a shape in order, and yields the items that are left. -/
def readItems (kept : Bool) (close : Option Flaw)
    : Shape → List Node → Except Flaw (List Cell × List Node)
  | [], items => return ([], items)
  | _ :: _, [] => do
      Node.checkClose close
      throw .mismatched
  | field :: shape, item :: rest => do
      let cell ← readField kept field item
      let (cells, rest) ← readItems kept close shape rest
      return (cell :: cells, rest)

/-- Reads the cells of a shape from an object or an array. -/
def readCells (kept : Bool) (shape : Shape) : Node → Except Flaw (List Cell)
  | .object members close => do
      let found ← readMembers kept shape [] members
      Node.checkClose close
      collect shape found
  | .array items close => do
      match ← readItems kept close shape items with
      | (cells, []) =>
          Node.checkClose close
          return cells
      | (_, _ :: _) => throw (if kept then .mismatched else .malformed)
  | node => throw node.unwanted

/-- The nesting to which values that are kept for later are read. -/
def greatestDepth : Nat :=
  127

/-- The members whose names are not those of fields. -/
def remaining (shape : Shape) (members : List (Node × Node)) : List (Node × Node) :=
  members.filter fun (name, _) =>
    match Node.nameOf name with
    | .ok name => (fieldNamed? shape name).isNone
    | .error _ => true

/-- Reads the cells of two shapes that share one object. Its members are kept for later; the
first shape takes those that it names and leaves the others to the second.
-/
def readBoth (first second : Shape) : Node → Except Flaw (List Cell × List Cell)
  | .object members close => do
      -- The whole object is read before either shape looks at it.
      (Node.object members close).keep greatestDepth
      let left ← collect first (← readMembers true first [] members)
      let right ← collect second (← readMembers true second [] (remaining first members))
      return (left, right)
  | .array _ _ => throw .mismatched
  | node => throw node.unwanted

/-- Reads a whole text, which nothing but blanks may follow. -/
def readWhole {α : Type} (read : Node → Except Flaw α) (s : String) : Except Flaw α :=
  let (node, rest) := Node.ofText s.toList
  match read node with
  | .error flaw => .error flaw
  | .ok value => if Node.skipSpace rest = [] then .ok value else .error .malformed

end Json

/-- How the values of a type are laid out in fields. -/
structure Form (α : Type) where
  shape : Shape
  cells : α → List Cell
  ofCells? : List Cell → Option α

namespace Form

variable {α β : Type}

/-- The members of the object by which a value is written. -/
def members (f : Form α) (value : α) : List (String × Json) :=
  (f.shape.zip (f.cells value)).map fun (field, cell) => (field.name, cell.json)

/-- The object by which a value is written. -/
def json (f : Form α) (value : α) : Json :=
  .object (f.members value)

/-- Reads a value. -/
def readNode (f : Form α) (kept : Bool) (node : Json.Node) : Except Json.Flaw α := do
  Json.wanted (f.ofCells? (← Json.readCells kept f.shape node))

/-- Reads a value from a text. -/
def read (f : Form α) (s : String) : Except Json.Flaw α :=
  Json.readWhole (f.readNode false) s

/-- Reads two values that share one object from a text. -/
def readPair (f : Form α) (g : Form β) (s : String) : Except Json.Flaw (α × β) :=
  Json.readWhole (fun node => do
    let (left, right) ← Json.readBoth f.shape g.shape node
    return (← Json.wanted (f.ofCells? left), ← Json.wanted (g.ofCells? right))) s

/-- The object by which two values are written together. A field of both has the value that the
second gives it, in the place where the first has it.
-/
def pairJson (f : Form α) (g : Form β) (left : α) (right : β) : Json :=
  let second := g.members right
  let shared := (f.members left).map fun (name, json) =>
    (name, (second.lookup name).getD json)
  .object (shared ++ second.filter fun (name, _) => (shared.lookup name).isNone)

end Form

end AdoptionRecords
