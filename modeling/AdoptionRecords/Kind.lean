import AdoptionRecords.Text.Blank

/-! The six kinds of record that can be archived, their names and their tables. A kind is read
from its name, its live table, its archive table or an alias, in any case and spelling of the
underscore.
-/

namespace AdoptionRecords

/-- The kinds of record that can be archived. -/
inductive Kind
  | user
  | adopter
  | petOwner
  | pet
  | adoptionRequest
  | adoption
  deriving DecidableEq, Repr

namespace Kind

/-- Every kind, in the order of their declaration. -/
def declared : List Kind :=
  [user, adopter, petOwner, pet, adoptionRequest, adoption]

/-- Every kind, in the order in which statistics list them. -/
def all : List Kind :=
  [adopter, petOwner, pet, adoptionRequest, adoption, user]

/-- Every kind, in the order in which summaries list them. -/
def summaryOrder : List Kind :=
  [pet, adoptionRequest, adopter, petOwner, adoption, user]

/-- The name of a kind. -/
def name : Kind → String
  | user => "user"
  | adopter => "adopter"
  | petOwner => "pet_owner"
  | pet => "pet"
  | adoptionRequest => "adoption_request"
  | adoption => "adoption"

/-- The table that holds the live rows of a kind; its name also stands in log entries. -/
def liveTable : Kind → String
  | user => "users"
  | adopter => "tbl_adopter"
  | petOwner => "tbl_pet_owner"
  | pet => "tbl_pet"
  | adoptionRequest => "tbl_adoption_request"
  | adoption => "tbl_adoption"

/-- The table that holds the archived rows of a kind. -/
def archiveTable (k : Kind) : String :=
  k.liveTable ++ "_archive"

/-- The plural by which people call a kind. -/
def label : Kind → String
  | user => "Users"
  | adopter => "Adopters"
  | petOwner => "Pet Owners"
  | pet => "Pets"
  | adoptionRequest => "Adoption Requests"
  | adoption => "Adoptions"

/-- The column that holds the key of a row. -/
def keyColumn : Kind → String
  | user => "id"
  | adopter => "adopter_id"
  | petOwner => "pet_owner_id"
  | pet => "pet_id"
  | adoptionRequest => "adoption_request_id"
  | adoption => "adoption_id"

/-- The kind whose live table has a given name. -/
def ofTable? (table : String) : Option Kind :=
  all.find? fun k => k.liveTable == table

/-- Further names by which a kind is known. -/
def aliases : Kind → List String
  | user => ["users"]
  | adopter => ["adopters"]
  | petOwner => ["owner", "pet_owners"]
  | pet => ["pets"]
  | adoptionRequest => ["request", "requests"]
  | adoption => ["adoptions"]

/-- All names of a kind. -/
def names (k : Kind) : List String :=
  k.name :: k.liveTable :: k.aliases

/-- The plain spelling of a name: no blanks around it, lower case, underscores for hyphens. -/
def plainSpelling (cs : List Char) : List Char :=
  (Text.trim cs).map fun c => if c = '-' then '_' else c.toLower

/-- Takes every mark of an archive table off the front of a name that is spelled backwards. -/
def dropArchiveMarks : List Char → List Char
  | 'e' :: 'v' :: 'i' :: 'h' :: 'c' :: 'r' :: 'a' :: '_' :: rest => dropArchiveMarks rest
  | cs => cs

/-- A plainly spelled name without the marks of an archive table at its end. -/
def withoutArchiveMarks (cs : List Char) : List Char :=
  (dropArchiveMarks cs.reverse).reverse

/-- The kind that a text names, if it names one. -/
def read? (s : String) : Option Kind :=
  let plain := String.ofList (withoutArchiveMarks (plainSpelling s.toList))
  all.find? fun k => k.names.contains plain

end Kind

end AdoptionRecords
