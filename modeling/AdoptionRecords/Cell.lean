import AdoptionRecords.Calendar.Instant
import AdoptionRecords.Text.Decimal

/-! Cells: the values that stand in the columns of tables and in the fields of JSON objects. A
field has a name, the type of its cells, and may or may not be left empty.
-/

namespace AdoptionRecords

open Calendar Text

/-- A single value, or none. -/
inductive Cell
  | null
  | bool (value : Bool)
  | int (value : Int)
  | text (value : String)
  | date (value : Date)
  | instant (value : Instant)
  deriving DecidableEq, Repr

namespace Cell

/-- The cell of a value that may be missing. -/
def ofOption {α : Type} (cell : α → Cell) : Option α → Cell
  | some value => cell value
  | none => null

/-- A truth value that may be missing. -/
def bool? : Cell → Option (Option Bool)
  | bool value => some (some value)
  | null => some none
  | _ => none

/-- A text that may be missing. -/
def text? : Cell → Option (Option String)
  | text value => some (some value)
  | null => some none
  | _ => none

/-- A number that may be missing. -/
def int? : Cell → Option (Option Int)
  | int value => some (some value)
  | null => some none
  | _ => none

/-- A date that may be missing. -/
def date? : Cell → Option (Option Date)
  | date value => some (some value)
  | null => some none
  | _ => none

/-- An instant that may be missing. -/
def instant? : Cell → Option (Option Instant)
  | instant value => some (some value)
  | null => some none
  | _ => none

/-- A truth value that may be missing is read back from its cell. -/
@[simp]
theorem bool?_ofOption (value : Option Bool) : (ofOption bool value).bool? = some value := by
  cases value <;> rfl

/-- A text that may be missing is read back from its cell. -/
@[simp]
theorem text?_ofOption (value : Option String) : (ofOption text value).text? = some value := by
  cases value <;> rfl

/-- A number that may be missing is read back from its cell. -/
@[simp]
theorem int?_ofOption (value : Option Int) : (ofOption int value).int? = some value := by
  cases value <;> rfl

/-- A date that may be missing is read back from its cell. -/
@[simp]
theorem date?_ofOption (value : Option Date) : (ofOption date value).date? = some value := by
  cases value <;> rfl

/-- An instant that may be missing is read back from its cell. -/
@[simp]
theorem instant?_ofOption (value : Option Instant)
    : (ofOption instant value).instant? = some value := by
  cases value <;> rfl

end Cell

/-- What can stand in a field. A choice is a text that is one of the given names. -/
inductive CellType
  | bool
  | int (least greatest : Int)
  | text
  | date
  | instant
  | choice (names : List String)
  deriving DecidableEq, Repr

namespace CellType

/-- Keys of records and other signed numbers of 32 bits. -/
def key : CellType :=
  int Decimal.min32 Decimal.max32

/-- Numbers of log entries, which are signed and have 64 bits. -/
def long : CellType :=
  int Decimal.min64 Decimal.max64

/-- Counts, which are not negative and have 64 bits. -/
def count : CellType :=
  int 0 Decimal.maxUnsigned64

end CellType

/-- A named place for cells of one type. -/
structure Field where
  name : String
  type : CellType
  optional : Bool
  deriving DecidableEq, Repr

namespace Field

/-- A field that is never empty. -/
def required (name : String) (type : CellType) : Field :=
  ⟨name, type, false⟩

/-- A field that may be empty. -/
def nullable (name : String) (type : CellType) : Field :=
  ⟨name, type, true⟩

end Field

/-- The fields of an object or the columns of a table, in order. -/
abbrev Shape := List Field

/-- The name of the first field of a shape that must not be empty but is. -/
def Shape.gap? (shape : Shape) (cells : List Cell) : Option String :=
  (shape.zip cells).findSome? fun (field, cell) =>
    if !field.optional && cell = .null then some field.name else none

end AdoptionRecords
