import AdoptionRecords.Store.Work

/-! Sample records for trying the library out. Names and usernames end in a suffix that is made of
the clock and a running number, so that no two are equal.
-/

namespace AdoptionRecords.Sample

open Calendar Work

/-- A suffix that no other sample has: the milliseconds of the clock and a running number. -/
def suffix (clock : Instant) (number : Nat) : String :=
  s!"{clock.milliseconds}_{number}"

/-- Creates a user and yields the key and the username. -/
def user (role : Role) (suffix : String) (now : Instant) : Work (Int × String) := do
  let username := "user_" ++ suffix
  let content : UserContent :=
    { username := some username
      email := some (username ++ "@example.com")
      password := some "secret"
      roleName := some role.name
      created := some now }
  return (← createLive .user content, username)

/-- Creates an adopter, linked to a user or not. -/
def adopter (username : Option String) (suffix : String) : Work Int :=
  let content : AdopterContent :=
    { username
      name := some ("Adopter " ++ suffix)
      contact := none
      email := some "adopter@example.com"
      address := none
      profile := none
      login := none
      password := none }
  createLive .adopter content

/-- Creates a pet owner, linked to a user or not. -/
def petOwner (username : Option String) (suffix : String) : Work Int :=
  let content : PetOwnerContent :=
    { name := some ("Owner " ++ suffix)
      contact := none
      email := some "owner@example.com"
      address := none
      profile := none
      login := none
      password := none
      username }
  createLive .petOwner content

/-- Creates a pet of an owner. -/
def pet (owner : Int) (status suffix : String) (now : Instant) : Work Int :=
  let content : PetContent :=
    { owner := some owner
      name := some ("Pet " ++ suffix)
      petType := none
      description := none
      age := some 3
      gender := some "Female"
      healthStatus := none
      healthHistory := none
      vaccinationStatus := none
      vaccinationProof := none
      adoptionStatus := some status
      registered := some now.date }
  createLive .pet content

/-- How many days ago the request of a sample was made. -/
def requestAge : Int :=
  90

/-- Creates a request to adopt a pet. -/
def adoptionRequest (pet adopter : Int) (status : String) (approved : Option Date)
    (now : Instant) : Work Int :=
  let content : AdoptionRequestContent :=
    { pet := some pet
      adopter := some adopter
      status := some status
      requested := now.date.daysBefore? requestAge
      approved
      remarks := none }
  createLive .adoptionRequest content

/-- Creates an adoption. -/
def adoption (pet adopter : Int) (adopted : Date) : Work Int :=
  let content : AdoptionContent :=
    { pet := some pet, adopter := some adopter, adopted := some adopted, remarks := none }
  createLive .adoption content

/-- The number of log entries about a key of a table. -/
def logCount (table : String) (key : Int) : Work Nat := do
  let rows ← logTable
  checkTexts [table]
  return rows.count fun _ row => row.table == some table && row.record == some key

end AdoptionRecords.Sample
