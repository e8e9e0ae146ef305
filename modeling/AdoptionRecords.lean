import AdoptionRecords.Bus
import AdoptionRecords.Connection
import AdoptionRecords.Main
import AdoptionRecords.Narration
import AdoptionRecords.Sample
import AdoptionRecords.Statement
import AdoptionRecords.Store.Placement
import AdoptionRecords.Proofs.Guarantees.AllOrNothing
import AdoptionRecords.Proofs.Guarantees.Commutation
import AdoptionRecords.Proofs.Guarantees.Composition
import AdoptionRecords.Proofs.Guarantees.OwnerGuard
import AdoptionRecords.Proofs.Guarantees.References
import AdoptionRecords.Proofs.Guarantees.FlagDates
import AdoptionRecords.Proofs.Guarantees.Isolation
import AdoptionRecords.Proofs.Guarantees.ProfileLinks
import AdoptionRecords.Proofs.Guarantees.RoleReports
import AdoptionRecords.Proofs.History.LogReplay
import AdoptionRecords.Proofs.History.Survival
import AdoptionRecords.Proofs.History.Appending
import AdoptionRecords.Proofs.History.Announcements
import AdoptionRecords.Proofs.Guarantees.Thresholds
import AdoptionRecords.Proofs.Reports.Listings
import AdoptionRecords.Proofs.Reports.LogReading
import AdoptionRecords.Proofs.Retention.Pruning
import AdoptionRecords.Proofs.Guarantees.RetentionRun
import AdoptionRecords.Proofs.Guarantees.LogPruning
import AdoptionRecords.Proofs.Guarantees.WorkerSchedule
import AdoptionRecords.Proofs.Guarantees.BusAccounting
import AdoptionRecords.Proofs.Guarantees.RoundTrips
import AdoptionRecords.Proofs.Guarantees.ArchivedPets
import AdoptionRecords.Proofs.Guarantees.KindNames
import AdoptionRecords.Proofs.Guarantees.CutoffArithmetic
import AdoptionRecords.Proofs.Guarantees.CommandLineRuns
import AdoptionRecords.Proofs.Guarantees.SettingsSafety
