import Virp.ApprovalLifetime
import Virp.DriverCalls
import Virp.PolicyRuns
import Virp.Federation
import Virp.MessageTamper
import Virp.GoMessage
import Virp.HandshakeIdentities
import Virp.SessionTimeouts
import Virp.OutcomeCitations
import Virp.TacacsRuns
import Virp.PortRuns
import Virp.RetentionRuns
import Virp.CameraRuns
import Virp.CheckpointFile
import Virp.ChainWalk
import Virp.ChainRollback
import Virp.ChainTexts
import Virp.ChainMaps
import Virp.ChainBinding
import Virp.SignatureGrades
import Virp.Intents
import Virp.ConsumedList
import Virp.BatchFrames
import Virp.DeviceRegistry
import Virp.UidTables
import Virp.WorkerPool
import Virp.PolicyGrants
import Virp.PolicyCatalogue
import Virp.PolicyParse
import Virp.LinuxNever
import Virp.ProtectedIds
import Virp.JunosCommit
import Virp.SshIo
import Virp.RestBodies
import Virp.LedgerCoverage
import Virp.CompilerHash
import Virp.Extraction
import Virp.DaemonChain
