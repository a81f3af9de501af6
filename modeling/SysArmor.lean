import SysArmor.UploadSessions
import SysArmor.ApprovalGate
import SysArmor.RecordIsolation
import SysArmor.PolicyTables
import SysArmor.ContentReload
import SysArmor.CollectionSound
import SysArmor.TornRecovery
import SysArmor.StoreSaves
import SysArmor.TerminalCommands
import SysArmor.EnrollmentUse
import SysArmor.ReplaySettled
import SysArmor.AgentIdentity
import SysArmor.PackageManifest
import SysArmor.ScopeKeys
import SysArmor.TenantIsolation
import SysArmor.SequenceReference
import SysArmor.GroupKeys
import SysArmor.ExportRepeats
import SysArmor.PolicyDelivery
import SysArmor.SavedValues
import SysArmor.DetectionWindow
import SysArmor.AppendRuns
import SysArmor.SegmentIds
import SysArmor.TelemetrySender
import SysArmor.TelemetryBus
