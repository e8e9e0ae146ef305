import AdoptionRecords.Kind

/-! The roles of users. An adopter and a pet owner have a profile row that carries their
username; an administrator has none.
-/

namespace AdoptionRecords

/-- The roles that a user can have. -/
inductive Role
  | admin
  | adopter
  | petOwner
  deriving DecidableEq, Repr

/-- The kinds of record that serve as the profile of a user. -/
inductive Profile
  | adopter
  | petOwner
  deriving DecidableEq, Repr

namespace Profile

/-- The kind of a profile's record. -/
def kind : Profile → Kind
  | adopter => .adopter
  | petOwner => .petOwner

/-- The profile whose record has a given kind. -/
def ofKind? : Kind → Option Profile
  | .adopter => some adopter
  | .petOwner => some petOwner
  | _ => none

end Profile

namespace Role

/-- Every role. -/
def all : List Role :=
  [admin, adopter, petOwner]

/-- The name of a role. -/
def name : Role → String
  | admin => "admin"
  | adopter => "adopter"
  | petOwner => "pet_owner"

/-- The role with exactly the given name. -/
def read? (s : String) : Option Role :=
  all.find? fun r => r.name == s

/-- The profile that belongs to a role. -/
def profile? : Role → Option Profile
  | admin => none
  | adopter => some .adopter
  | petOwner => some .petOwner

end Role

end AdoptionRecords
