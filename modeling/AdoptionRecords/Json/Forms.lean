import AdoptionRecords.Columns
import AdoptionRecords.Json.Form
import AdoptionRecords.Retention.Policy
import AdoptionRecords.UserUpdate

/-! The forms of what the library stores and shows: records of every kind, how they were archived,
log entries, listings and reports; and changes of role, whose form depends on a tag.
-/

namespace AdoptionRecords

open Cell AdoptionRecords.Field

namespace Form

/-- A record of a kind under its key. -/
def record (kind : Kind) : Form (Int × Shown kind) where
  shape := required kind.keyColumn .key :: Shown.columns kind
  cells r := int r.1 :: Shown.cells kind r.2
  ofCells?
    | int key :: cells => do return (key, ← Shown.ofCells? kind cells)
    | _ => none

/-- How a record was archived. -/
def metadata : Form Metadata where
  shape := Metadata.columns
  cells := Metadata.cells
  ofCells? := Metadata.ofCells?

/-- A field for the name of a kind. -/
def kindType : CellType :=
  .choice (Kind.declared.map Kind.name)

/-- A field for the name of an operation. -/
def operationType : CellType :=
  .choice (Operation.all.map Operation.name)

/-- A field for the name of a role. -/
def roleType : CellType :=
  .choice (Role.all.map Role.name)

/-- The kind with exactly the given name. -/
def kindNamed? (name : String) : Option Kind :=
  Kind.declared.find? fun kind => kind.name == name

/-- A log entry under its number. -/
def logEntry : Form LogEntry where
  shape :=
    [required "log_id" .long, required "table_name" .text, required "record_id" .key,
      required "operation" operationType, nullable "performed_by_user_id" .key,
      required "operation_date" .instant, nullable "reason" .text]
  cells e :=
    [int e.number, text e.table, int e.record, text e.operation.name, ofOption int e.performedBy,
      instant e.performedAt, ofOption text e.reason]
  ofCells?
    | [int number, text table, int record, text operation, performedBy, instant performedAt,
        reason] => do
        return { number, table, record, operation := ← Operation.read? operation,
                 performedBy := ← performedBy.int?, performedAt, reason := ← reason.text? }
    | _ => none

/-- An archived record as listings show it. -/
def archivedRecord : Form ArchivedRecord where
  shape :=
    [required "kind" kindType, required "record_id" .key, nullable "label" .text,
      nullable "archived_date" .instant, nullable "archived_by_user_id" .key,
      nullable "archive_reason" .text]
  cells r :=
    [text r.kind.name, int r.key, ofOption text r.label, ofOption instant r.archivedAt,
      ofOption int r.archivedBy, ofOption text r.reason]
  ofCells?
    | [text kind, int key, label, archivedAt, archivedBy, reason] => do
        return { kind := ← kindNamed? kind, key, label := ← label.text?,
                 archivedAt := ← archivedAt.instant?, archivedBy := ← archivedBy.int?,
                 reason := ← reason.text? }
    | _ => none

/-- The report of a retention run. -/
def report : Form Retention.Report where
  shape :=
    [required "requests_archived" .count, required "pets_archived" .count,
      required "log_entries_pruned" .count]
  cells r := [int r.requestsArchived, int r.petsArchived, int r.logEntriesPruned]
  ofCells?
    | [int requests, int pets, int entries] =>
        some ⟨requests.toNat, pets.toNat, entries.toNat⟩
    | _ => none

end Form

/-- The object by which an archived row is written: the record, and how it was archived. -/
def ArchivedRow.json (kind : Kind) (key : Int) (row : ArchivedRow kind) : Json :=
  (Form.record kind).pairJson Form.metadata (key, row.shown) row.toMetadata

/-- The object by which a live row is written. -/
def LiveRow.json (kind : Kind) (key : Int) (row : LiveRow kind) : Json :=
  (Form.record kind).json (key, row.shown)

namespace RoleChange

/-- The member that tells the two forms of a change of role apart. -/
def tag : String :=
  "transition"

/-- The fields of a change that keeps the role. -/
def unchangedShape : Shape :=
  [nullable "synced_profile" Form.kindType]

/-- The fields of a change from one role to another. -/
def changedShape : Shape :=
  [required "from" Form.roleType, required "to" Form.roleType,
    nullable "flagged_old_profile" Form.kindType, nullable "created_profile" Form.kindType]

/-- The two tags, with the fields that follow them. -/
def shapes : List (String × Shape) :=
  [("unchanged", unchangedShape), ("changed", changedShape)]

/-- The kind that a cell names, if it is not empty. -/
def kindOfCell? : Cell → Option (Option Kind)
  | text name => (Form.kindNamed? name).map some
  | null => some none
  | _ => none

/-- The change of role that has a tag and cells. -/
def ofCells? (tag : String) (cells : List Cell) : Option RoleChange :=
  match tag, cells with
  | "unchanged", [synced] => do return unchanged (← kindOfCell? synced)
  | "changed", [text before, text after, flagged, created] => do
      return changed (← Role.read? before) (← Role.read? after) (← kindOfCell? flagged)
        (← kindOfCell? created)
  | _, _ => none

/-- The tag of a change of role, and its cells. -/
def tagged : RoleChange → String × List Cell
  | unchanged synced => ("unchanged", [ofOption text (synced.map Kind.name)])
  | changed before after flagged created =>
      ("changed", [text before.name, text after.name, ofOption text (flagged.map Kind.name),
        ofOption text (created.map Kind.name)])

/-- The object by which a change of role is written: its tag, then its fields. -/
def json (c : RoleChange) : Json :=
  let (name, cells) := c.tagged
  let shape := (shapes.lookup name).getD []
  .object ((tag, .text name) ::
    (shape.zip cells).map fun (field, cell) => (field.name, cell.json))

/-- Reads a tag. -/
def readTag : Json.Node → Except Json.Flaw String
  | .text content => do
      let name ← content
      if (shapes.lookup name).isSome then return name else throw .mismatched
  | node => throw node.unwanted

/-- Whether a member's name is that of the tag. -/
def isTag : Json.Node → Bool
  | .text (.ok name) => name == tag
  | _ => false

/-- Reads the members of a change of role. The tag may stand anywhere among them; the others are
kept until it is known.
-/
def readMembers (found : Option String)
    : List (Json.Node × Json.Node) → Except Json.Flaw (Option String)
  | [] => return found
  | (name, value) :: rest => do
      if (← Json.Node.nameOf name) = tag then
        if found.isSome then
          throw .mismatched
        readMembers (some (← readTag value)) rest
      else
        value.keep (Json.greatestDepth - 1)
        readMembers found rest

/-- Reads a change of role from an object, or from an array that starts with the tag. -/
def readNode : Json.Node → Except Json.Flaw RoleChange
  | .object members close => do
      -- What the members hold is looked at only when the object is closed and the tag known.
      let found ← readMembers none members
      Json.Node.checkClose close
      let name ← Json.wanted found
      let fields := members.filter fun (name, _) => !isTag name
      let cells ← Json.readCells true ((shapes.lookup name).getD []) (.object fields none)
      Json.wanted (ofCells? name cells)
  | .array [] close => do
      Json.Node.checkClose close
      throw .mismatched
  | .array (first :: rest) close => do
      let name ← readTag first
      Json.Node.keepItems (Json.greatestDepth - 1) rest
      Json.Node.checkClose close
      let cells ← Json.readCells true ((shapes.lookup name).getD []) (.array rest none)
      Json.wanted (ofCells? name cells)
  | node => throw node.unwanted

/-- Reads a change of role from a text. -/
def readJson (s : String) : Except Json.Flaw RoleChange :=
  Json.readWhole readNode s

end RoleChange

/-- Reads the name of a kind from a JSON text. -/
def Kind.readJson (s : String) : Except Json.Flaw Kind :=
  Json.readWhole (fun node => do
    Json.wanted (Form.kindNamed? (← Json.readChoice false (declared.map name) node))) s

/-- Reads the name of an operation from a JSON text. -/
def Operation.readJson (s : String) : Except Json.Flaw Operation :=
  Json.readWhole (fun node => do
    Json.wanted (Operation.read? (← Json.readChoice false (all.map name) node))) s

/-- Reads the name of a role from a JSON text. -/
def Role.readJson (s : String) : Except Json.Flaw Role :=
  Json.readWhole (fun node => do
    Json.wanted (Role.read? (← Json.readChoice false (all.map name) node))) s

end AdoptionRecords
