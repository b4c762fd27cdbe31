import Interner.Config.Json
import Interner.Session
import Interner.Proofs.InterningHistory
import Interner.Proofs.TableConsistency
import Interner.Proofs.HandleStability
import Interner.Proofs.RegistryIndependence
import Interner.Proofs.HashConsing
import Interner.Proofs.SessionMemory
import Interner.Proofs.SessionAccounts
import Interner.Proofs.RegistrySnapshot
import Interner.Proofs.Schedules
import Interner.Proofs.Lockstep
import Interner.Proofs.Configurations
import Interner.Proofs.Restoration
import Interner.Proofs.BlockPushes
import Interner.Proofs.ByteOrder
import Interner.Proofs.InventoryHistory
import Interner.Proofs.Dereferencing
import Interner.Proofs.Enumerations
import Interner.Proofs.Acceptance
import Interner.Proofs.BlockRelease
import Interner.Proofs.RepeatedExport
import Interner.Proofs.UnreachableFaults
import Interner.Proofs.JsonNumbers
import Interner.Proofs.JsonStrings
import Interner.Proofs.JsonTexts
import Interner.Proofs.JsonPrinting
import Interner.Proofs.DumpReading
import Interner.Proofs.ConfigDecoding
import Interner.Proofs.ConfigLoading
import Interner.Proofs.ReportedChanges
