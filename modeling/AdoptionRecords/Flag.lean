import AdoptionRecords.Store.Work

/-! Flags that hide live rows in place. A flagged row stays in its live table, and no log entry
is written about it.
-/

namespace AdoptionRecords

open Calendar Work

/-- A live row with its flag set. -/
def LiveRow.flag {kind : Kind} (row : LiveRow kind) (now : Instant) : LiveRow kind :=
  { row with archived := some true, archivedAt := some now }

/-- A live row with its flag cleared. -/
def LiveRow.unflag {kind : Kind} (row : LiveRow kind) : LiveRow kind :=
  { row with archived := some false, archivedAt := none }

namespace Flag

/-- Sets the flag of a live pet that is not flagged, and tells whether there is such a pet. -/
def setPet (pet : Int) (now : Instant) : Work Bool := do
  let pets ← liveTable .pet
  match pets.find? pet with
  | some row =>
      if row.archived ≠ some false then
        return false
      checkLive .pet (row.flag now)
      putLive .pet (pets.insert pet (row.flag now))
      return true
  | none => return false

/-- Clears the flag of a flagged live pet, and tells whether there is such a pet. -/
def clearPet (pet : Int) : Work Bool := do
  let pets ← liveTable .pet
  match pets.find? pet with
  | some row =>
      if row.archived ≠ some true then
        return false
      checkLive .pet row.unflag
      putLive .pet (pets.insert pet row.unflag)
      return true
  | none => return false

/-- Whether a live profile row carries a username. -/
def carries (profile : Profile) (username : String) (row : LiveRow profile.kind) : Bool :=
  profile.username row.content == some username

/-- Sets the flag of every live profile row with a username, and tells how many there are. -/
def setProfiles (profile : Profile) (username : String) (now : Instant) : Work Nat := do
  let _ ← liveTable profile.kind
  checkTexts [username]
  updateLive profile.kind (carries profile username) (·.flag now)

end Flag

end AdoptionRecords
