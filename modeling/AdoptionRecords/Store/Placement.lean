import AdoptionRecords.Store.Work

/-! Rows as cells: reading out a whole table, and placing a row in a table as it is, without the
checks that statements make. A column that is not given takes its default, and a key that is not
given is drawn.
-/

namespace AdoptionRecords

open Calendar Cell AdoptionRecords.Field

namespace TableId

/-- The column of a table's key. A row is placed under a key in any case. -/
def keyColumn : TableId → Field
  | live kind | archive kind => required kind.keyColumn .key
  | log => required "log_id" .long
  | ledger => required "version" .long

/-- The columns of a table after its key. -/
def columns : TableId → Shape
  | live kind => LiveRow.columns kind
  | archive kind => ArchivedRow.columns kind
  | log => LogRow.columns
  | ledger =>
      [required "description" .text, required "installed_on" .instant, required "success" .bool]

/-- The columns in which cells are placed: the key, and columns that may all be left empty. -/
def placedColumns (id : TableId) : Shape :=
  id.keyColumn :: id.columns.map ({ · with optional := true })

/-- The cell that a column of a table takes by default. -/
def defaultCell (now : Instant) : TableId → String → Cell
  | live _, "archived" => bool false
  | archive _, "archived" => bool true
  | live .user, "created_at" => instant now
  | live .pet, "adoption_status" => text "Available"
  | live .adoptionRequest, "status" => text "Pending"
  | log, "operation_date" => instant now
  | ledger, "installed_on" => instant now
  | _, _ => null

end TableId

/-- The cells of a row of the ledger. -/
def LedgerRow.cells (row : LedgerRow) : List Cell :=
  [ofOption text row.description, ofOption instant row.installed, ofOption bool row.success]

/-- The row of the ledger that is made of given cells, without a checksum. -/
def LedgerRow.ofCells? : List Cell → Option LedgerRow
  | [description, installed, success] => do
      return { description := ← description.text?, installed := ← installed.instant?,
               success := ← success.bool?, hasChecksum := false }
  | _ => none

namespace Store

/-- All rows of a table as cells, key first; nothing if there is no such table. -/
def dump (s : Store) : TableId → Option (List (List Cell))
  | .live kind => (s.tables.live kind).map fun rows =>
      rows.entries.map fun (key, row) => int key :: row.cells
  | .archive kind => (s.tables.archive kind).map fun rows =>
      rows.entries.map fun (key, row) => int key :: row.cells
  | .log => s.tables.log.map fun rows =>
      rows.entries.map fun (key, row) => int key :: row.cells
  | .ledger => s.tables.ledger.map fun rows =>
      rows.entries.map fun (key, row) => int key :: row.cells

/-- The store with a row of given cells under a key of a table. -/
def placeAt (s : Store) (id : TableId) (key : Int) (cells : List Cell) : Option Store := do
  match id with
  | .live kind =>
      let rows ← s.tables.live kind
      let row ← LiveRow.ofCells? kind cells
      return { s with tables := s.tables.setLive kind (rows.insert key row) }
  | .archive kind =>
      let rows ← s.tables.archive kind
      let row ← ArchivedRow.ofCells? kind cells
      return { s with tables := s.tables.setArchive kind (rows.insert key row) }
  | .log =>
      let rows ← s.tables.log
      let row ← LogRow.ofCells? cells
      return { s with tables := s.tables.setLog (rows.insert key row) }
  | .ledger =>
      let rows ← s.tables.ledger
      let row ← LedgerRow.ofCells? cells
      return { s with tables := s.tables.setLedger (rows.insert key row) }

/-- The next key of a table's sequence, and the store after it was drawn. -/
def nextKey (s : Store) : TableId → Option (Int × Store)
  | .live kind =>
      let key := s.sequences.live kind
      some (key, s.setSequence (.live kind) (key + 1))
  | .log => some (s.sequences.log, s.setSequence .log (s.sequences.log + 1))
  | .archive _ | .ledger => none

/-- Places a row in a table, unchecked, and yields its key. -/
def place (s : Store) (id : TableId) (given : List (String × Cell)) (now : Instant)
    : Option (Int × Store) := do
  let (key, s) ←
    match given.lookup id.keyColumn.name with
    | some (int key) => some (key, s)
    | some _ => none
    | none => s.nextKey id
  let cells := id.columns.map fun column =>
    (given.lookup column.name).getD (id.defaultCell now column.name)
  return (key, ← s.placeAt id key cells)

end Store

end AdoptionRecords
