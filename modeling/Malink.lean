import Malink.DeviceRevocation
import Malink.GatewayExecutionOnce
import Malink.GatewayRedelivery
import Malink.ClientWaiters
import Malink.ClientKeyGrants
import Malink.DirectoryExchange
import Malink.DirectoryRevisions
import Malink.DeliveryOrder
import Malink.GatewayRestartOrder
import Malink.GatewayAnswers
import Malink.MigratedJournals
import Malink.ReassembledCatalogs
import Malink.WorkspaceSnapshots
import Malink.TimelineKeys
import Malink.BatchArchive
import Malink.DeploymentAttempts
import Malink.HandedOver
import Malink.SupervisorReports
import Malink.MaintenanceExclusion
import Malink.AgentChannelRuns
import Malink.DeliveryLastWord
import Malink.CommandReplays
import Malink.CommandIdentities
import Malink.CommandCapacity
import Malink.KotlinCanonicalJson
import Malink.PairingResumed
import Malink.DataDirectoryLock
import Malink.GatewayEnrollment
import Malink.MarkdownLinks
import Malink.WebPush
import Malink.UpdateObservations
import Malink.SessionLifecycle
import Malink.NativeUpdates
import Malink.ScheduledTasks
