import AdoptionRecords.Kind

/-! Why a call can fail. A statement fails for one of the causes of `StoreError`: the store refuses
it, or a value that must be there is missing in its answer. A call fails for one of the causes of
`Fault`. The wording of each stands here once.
-/

namespace AdoptionRecords

/-- A column of an answer, by its name or by its place. -/
inductive AnswerColumn
  | named (name : String)
  | place (index : Nat)
  deriving DecidableEq, Repr

/-- How a column of an answer is told of. -/
def AnswerColumn.text : AnswerColumn → String
  | named name => s!"\"{name}\""
  | place index => toString index

/-- Why a statement fails. -/
inductive StoreError
  | unreachable
  | missingTable (table : String)
  | textWithNul
  | dateOutOfRange
  | instantOutOfRange
  | sequenceExhausted (sequence : String) (greatest : Int)
  | emptyColumn (table column : String)
  | checkViolated (table check : String)
  | duplicateKey (index : String)
  | transactionAborted
  | missingValue (column : AnswerColumn)
  deriving DecidableEq, Repr

namespace StoreError

/-- What is wrong with a statement that fails: what the store itself answers, if it refuses it. -/
def answer : StoreError → String
  | unreachable => "No such file or directory (os error 2)"
  | missingTable table => s!"relation \"{table}\" does not exist"
  | textWithNul => "invalid byte sequence for encoding \"UTF8\": 0x00"
  | dateOutOfRange => "date out of range"
  | instantOutOfRange => "timestamp out of range"
  | sequenceExhausted sequence greatest =>
      s!"nextval: reached maximum value of sequence \"{sequence}\" ({greatest})"
  | emptyColumn table column =>
      s!"null value in column \"{column}\" of relation \"{table}\" violates not-null constraint"
  | checkViolated table check =>
      s!"new row for relation \"{table}\" violates check constraint \"{check}\""
  | duplicateKey index => s!"duplicate key value violates unique constraint \"{index}\""
  | transactionAborted =>
      "current transaction is aborted, commands ignored until end of transaction block"
  | missingValue _ => "unexpected null; try decoding as an `Option`"

/-- How a statement that fails is reported: where it went wrong, then what is wrong with it. -/
def message (e : StoreError) : String :=
  match e with
  | unreachable => "error communicating with database: " ++ e.answer
  | missingValue column => s!"error occurred while decoding column {column.text}: {e.answer}"
  | _ => "error returned from database: " ++ e.answer

/-- Whether the store itself refused the statement. -/
def isRefusal : StoreError → Bool
  | missingValue _ => false
  | _ => true

end StoreError

/-- The classes of failure that callers tell apart. -/
inductive FaultClass
  | database
  | notFound
  | precondition
  | invalidInput
  | config
  | serialization
  | internal
  deriving DecidableEq, Repr

/-- Every class of failure. -/
def FaultClass.all : List FaultClass :=
  [database, notFound, precondition, invalidInput, config, serialization, internal]

/-- The name of a class. -/
def FaultClass.name : FaultClass → String
  | database => "Database"
  | notFound => "NotFound"
  | precondition => "Precondition"
  | invalidInput => "InvalidInput"
  | config => "Config"
  | serialization => "Serialization"
  | internal => "Internal"

/-- The words that open the message of a class. -/
def FaultClass.heading : FaultClass → String
  | database => "Database error"
  | notFound => "Not found"
  | precondition => "Precondition failed"
  | invalidInput => "Invalid input"
  | config => "Configuration error"
  | serialization => "Serialization error"
  | internal => "Internal error"

/-- The message of a failure of a class, with its details. -/
def FaultClass.message (c : FaultClass) (detail : String) : String :=
  c.heading ++ ": " ++ detail

/-- Why a call fails. -/
inductive Fault
  | database (cause : StoreError)
  | schema (cause : StoreError)
  | halfApplied (version : Int)
  | notLive (kind : Kind) (key : Int)
  | notArchived (kind : Kind) (key : Int)
  | noUser (key : Int)
  | ownerHasPets (owner : Int) (pets : Nat)
  | ownerNotLive (owner pet : Int)
  | unknownKind (text : String)
  | unknownOperation (text : String)
  | unknownRole (text : String)
  | noProfile (kind : Kind)
  | workerEnded
  deriving DecidableEq, Repr

namespace Fault

/-- The class of a failure. -/
def category : Fault → FaultClass
  | database _ | schema _ | halfApplied _ => .database
  | notLive .. | notArchived .. | noUser _ => .notFound
  | ownerHasPets .. | ownerNotLive .. => .precondition
  | unknownKind _ | unknownOperation _ | unknownRole _ | noProfile _ => .invalidInput
  | workerEnded => .internal

/-- What went wrong, without the class. -/
def detail : Fault → String
  | database cause => cause.message
  | schema cause => "while executing migrations: " ++ cause.message
  | halfApplied version =>
      s!"migration {version} is partially applied; fix and remove row from `_sqlx_migrations` table"
  | notLive kind key => s!"{kind.name} {key} is not live"
  | notArchived kind key => s!"{kind.name} {key} is not archived"
  | noUser key => s!"user {key}"
  | ownerHasPets owner pets => s!"pet owner {owner} has {pets} active pet(s)"
  | ownerNotLive owner pet => s!"pet owner {owner} of pet {pet} is not live"
  | unknownKind text => s!"unknown entity type '{text}'"
  | unknownOperation text => s!"unknown archive operation '{text}'"
  | unknownRole text => s!"unknown role '{text}'"
  | noProfile kind => s!"{kind.name} has no username-linked profile"
  | workerEnded => "Failed to send shutdown signal"

/-- The whole message of a failure. -/
def message (f : Fault) : String :=
  f.category.message f.detail

/-- A failure and what lies behind it, each in its own words, the innermost last. -/
def chain (f : Fault) : List String :=
  match f with
  | database cause => [f.message, cause.message, cause.answer]
  | schema cause => [f.message, f.detail, f.detail, cause.message, cause.answer]
  | halfApplied _ => [f.message, f.detail, f.detail]
  | _ => [f.message]

/-- Whether a failure leaves a transaction that the store goes on with no more. -/
def spoils : Fault → Bool
  | database cause => cause.isRefusal
  | _ => false

end Fault

/-- A value in a column of an answer, which must be there. -/
def answered {α : Type} (column : String) : Option α → Except Fault α
  | some value => .ok value
  | none => .error (.database (.missingValue (.named column)))

/-- The kind that a text names. A text that names none is told of as it was given. -/
def Kind.read (s : String) : Except Fault Kind :=
  match Kind.read? s with
  | some kind => .ok kind
  | none => .error (.unknownKind s)

end AdoptionRecords
