import AdoptionRecords.Flag
import AdoptionRecords.Listing

/-! Replacing what is known of a user, and keeping the profile of the user's role in step. When
the role stays, the profile takes over the new email and username; when it changes, the old
profile is flagged and a new one is created.
-/

namespace AdoptionRecords

open Calendar Work

/-- The role of a user, which must be a known one. -/
def UserContent.role (c : UserContent) : Except Fault Role := do
  let name ← answered "role" c.roleName
  match Role.read? name with
  | some role => return role
  | none => throw (.unknownRole name)

/-- New values for a user. -/
structure UserUpdate where
  key : Int
  username : String
  email : Option String
  password : String
  role : Role
  deriving DecidableEq, Repr

/-- What a change of role asks of the profiles. -/
structure ProfilePlan where
  flagOld : Option Profile
  createNew : Option Profile
  sync : Option Profile
  deriving DecidableEq, Repr

namespace ProfilePlan

/-- The plan for a user who has one role and gets another, or keeps the same. -/
def ofRoles (before after : Role) : ProfilePlan :=
  if before = after then { flagOld := none, createNew := none, sync := after.profile? }
  else { flagOld := before.profile?, createNew := after.profile?, sync := none }

/-- Whether nothing is to be done. -/
def isEmpty (p : ProfilePlan) : Bool :=
  p.flagOld.isNone && p.createNew.isNone && p.sync.isNone

end ProfilePlan

/-- What an update did to the profiles of a user. -/
inductive RoleChange
  | unchanged (synced : Option Kind)
  | changed (before after : Role) (flagged created : Option Kind)
  deriving DecidableEq, Repr

namespace RoleChange

/-- The report of a plan that was carried out. -/
def ofPlan (before after : Role) (plan : ProfilePlan) : RoleChange :=
  if before = after then unchanged (plan.sync.map Profile.kind)
  else changed before after (plan.flagOld.map Profile.kind) (plan.createNew.map Profile.kind)

end RoleChange

namespace UserUpdate

/-- The contact that a new profile starts with. -/
def defaultContact : String :=
  "09000000000"

/-- The address that a new profile starts with. -/
def defaultAddress : String :=
  "Address not provided"

/-- A user's content after an update. -/
def content (u : UserUpdate) (old : UserContent) : UserContent :=
  { old with
    username := some u.username
    email := u.email
    password := some u.password
    roleName := some u.role.name }

/-- The content of the profile that an update creates. -/
def newProfile (u : UserUpdate) : (profile : Profile) → Content profile.kind
  | .adopter =>
      { username := some u.username
        name := some u.username
        contact := some defaultContact
        email := u.email
        address := some defaultAddress
        profile := none
        login := some u.username
        password := some u.password : AdopterContent }
  | .petOwner =>
      { name := some u.username
        contact := some defaultContact
        email := u.email
        address := some defaultAddress
        profile := none
        login := some u.username
        password := some u.password
        username := some u.username : PetOwnerContent }

/-- A profile's content with the email and username of an update. -/
def synced (u : UserUpdate) : (profile : Profile) → Content profile.kind → Content profile.kind
  | .adopter, (c : AdopterContent) => { c with email := u.email, username := some u.username }
  | .petOwner, (c : PetOwnerContent) => { c with email := u.email, username := some u.username }

/-- Gives the unflagged profile rows with a username the email and username of an update. -/
def sync (u : UserUpdate) (profile : Profile) (oldName : String) : Work Unit := do
  let _ ← liveTable profile.kind
  checkTexts (u.email.toList ++ [u.username, oldName])
  let _ ← updateLive profile.kind
    (fun row => Flag.carries profile oldName row && row.archived == some false)
    (fun row => { row with content := u.synced profile row.content })

/-- Replaces the row of a user and tells the username and the role that it had. -/
def replace (u : UserUpdate) : Work (String × Role) := do
  match ← Listing.findLive .user u.key with
  | none => throw (.noUser u.key)
  | some row =>
      let old : UserContent := row.content
      let name ← answered "username" old.username
      let role ← old.role
      -- Only a user with a known role is written to, so only then are the texts checked.
      checkTexts ([u.username] ++ u.email.toList ++ [u.password])
      let row : LiveRow .user := { row with content := u.content old }
      checkLive .user row
      putLive .user ((← liveTable .user).insert u.key row)
      return (name, role)

/-- Carries out an update; yields the user's old username, and the roles' plan. -/
def carryOut (u : UserUpdate) (now : Instant) : Work (String × Role × ProfilePlan) := do
  let (oldName, role) ← u.replace
  -- Profiles are found by the username that the user had before.
  let plan := ProfilePlan.ofRoles role u.role
  if let some profile := plan.flagOld then
    let _ ← Flag.setProfiles profile oldName now
  if let some profile := plan.createNew then
    let _ ← createLive profile.kind (u.newProfile profile)
  if let some profile := plan.sync then
    u.sync profile oldName
  return (oldName, role, plan)

end UserUpdate

end AdoptionRecords
