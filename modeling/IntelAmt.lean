import IntelAmt.Foundation.Exec
import IntelAmt.Foundation.Framing
import IntelAmt.Errors
import IntelAmt.Ider.Protocol
import IntelAmt.Ider.MediaImage
import IntelAmt.Ider.Engine
import IntelAmt.Ider.Scsi
import IntelAmt.Ider.Dispatch
import IntelAmt.Ider.ReadPump
import IntelAmt.Ider.Replies
import IntelAmt.Ider.Receive
import IntelAmt.Ider.Segmentation
import IntelAmt.Ider.Step
import IntelAmt.Ider.Runs
import IntelAmt.Foundation.BlockDevice
import IntelAmt.Ider.Sequencing
import IntelAmt.Ider.WritePath
import IntelAmt.Ider.WriteSettlement
import IntelAmt.Ider.Answers
import IntelAmt.Ider.ReadFrames
import IntelAmt.Ider.Failures
import IntelAmt.MediaSession.Daemon
import IntelAmt.Ider.Verdicts
import IntelAmt.MediaSession.AttachGate
import IntelAmt.Foundation.Json
import IntelAmt.Foundation.Json.Scanning
import IntelAmt.Foundation.Files
import IntelAmt.Foundation.Json.RoundTrip
import IntelAmt.Foundation.Text
import IntelAmt.MediaSession.StateFile
import IntelAmt.MediaSession.StateWriters
import IntelAmt.MediaSession.StateSettled
import IntelAmt.Foundation.Script
import IntelAmt.MediaSession.Controls
import IntelAmt.AmtMedia.Module
import IntelAmt.AmtMedia.Endpoint
import IntelAmt.AmtMedia.OneDaemon
import IntelAmt.AmtMedia.DaemonRecords
import IntelAmt.BaremetalInstall.Role
import IntelAmt.BaremetalInstall.Runs
import IntelAmt.BaremetalInstall.OneRun
import IntelAmt.BaremetalInstall.Lifecycle
import IntelAmt.BaremetalInstall.Resume
import IntelAmt.AmtMedia.FirstLook
import IntelAmt.BaremetalInstall.ConfirmedMedia
import IntelAmt.Wsman.Client
import IntelAmt.AmtBoot.Arm
import IntelAmt.Foundation.Transcript
import IntelAmt.Wsman.Posts
import IntelAmt.AmtBoot.Sequence
import IntelAmt.AmtPower.Module
import IntelAmt.AmtLogClear.Module
import IntelAmt.AmtRedirection.Module
import IntelAmt.Wsman.ReadBack
import IntelAmt.Wsman.AcceptedChange
import IntelAmt.AmtModules.PlainFailures
import IntelAmt.Foundation.Streams
import IntelAmt.Redirection.Session
import IntelAmt.Foundation.Deliveries
import IntelAmt.Redirection.Wire
import IntelAmt.Redirection.Conversation
import IntelAmt.Redirection.Connections
import IntelAmt.Redirection.Authentication
import IntelAmt.Redirection.Failures
import IntelAmt.Redirection.Segments
import IntelAmt.AmtMedia.Accepted
import IntelAmt.Redirection.Frames
import IntelAmt.Redirection.TwoRuns
import IntelAmt.Redirection.Credentials
import IntelAmt.Wsman.Enumerations
import IntelAmt.Wsman.Retries
import IntelAmt.Wsman.WriteBack
import IntelAmt.AmtMedia.CheckMode
import IntelAmt.Ider.WriteRequests
import IntelAmt.Foundation.Base64
import IntelAmt.Foundation.BlockDevice
import IntelAmt.MessageLog.Records
import IntelAmt.MessageLog.Reading
import IntelAmt.MessageLog.Answers
import IntelAmt.MessageLog.Endings
import IntelAmt.MessageLog.Accounting
import IntelAmt.AmtInfo.Inventory
import IntelAmt.AmtInfo.Facts
import IntelAmt.AmtInfo.Independence
import IntelAmt.Wsman.Connection
import IntelAmt.AmtModules.Mains
import IntelAmt.AmtModules.Boundaries
import IntelAmt.Ider.PumpRuns
import IntelAmt.Ider.SectorReads
import IntelAmt.Foundation.Collecting
import IntelAmt.Foundation.Objects
import IntelAmt.Ider.ModeSense
import IntelAmt.Ider.WriteAssembly
import IntelAmt.Ider.Blocks
import IntelAmt.Ider.AllocationLength
import IntelAmt.AmtMedia.AttachVerdict
import IntelAmt.AmtMedia.UntrustedRecord
import IntelAmt.Foundation.Paths
import IntelAmt.AmtMedia.SessionFiles
import IntelAmt.Redirection.DigestFrames
import IntelAmt.Wsman.MethodSuccess
import IntelAmt.AmtBoot.SettingsEdit
import IntelAmt.Wsman.Paging
import IntelAmt.AmtModules.Discovery
import IntelAmt.AmtModules.CapabilityReaders
import IntelAmt.MessageLog.Decoding
import IntelAmt.MessageLog.WholeLog
import IntelAmt.Foundation.Decimals
import IntelAmt.Foundation.Tlv
import IntelAmt.Tls.Der
import IntelAmt.Tls.Certificates
import IntelAmt.AmtInfo.CanonicalUuid
import IntelAmt.AmtInfo.MacAddresses
import IntelAmt.AmtInfo.Census
import IntelAmt.AmtInfo.RoundTrips
import IntelAmt.Foundation.Pieces
import IntelAmt.Foundation.Cuts
import IntelAmt.Foundation.Replacing
import IntelAmt.Errors.Literals
import IntelAmt.Evidence.Patterns
import IntelAmt.Evidence.Redactor
import IntelAmt.Evidence.Readings
import IntelAmt.Evidence.Marks
import IntelAmt.Evidence.Tokens
import IntelAmt.Foundation.Threading
import IntelAmt.Evidence.Documents
import IntelAmt.Evidence.IdentifyingKeys
import IntelAmt.Foundation.Regex.Preferences
import IntelAmt.Evidence.Neighbours
import IntelAmt.Evidence.Names
import IntelAmt.Evidence.Seams
import IntelAmt.Evidence.SecondPass
import IntelAmt.AmtModules.CheckMode
import IntelAmt.Foundation.Rehearsals
import IntelAmt.Foundation.ExactReads
import IntelAmt.Foundation.Parcels
import IntelAmt.Foundation.Duplex
import IntelAmt.IderServer.Hearing
import IntelAmt.IderServer.Speaking
import IntelAmt.IderServer.Listening
import IntelAmt.IderServer.Answering
import IntelAmt.IderServer.Talk
import IntelAmt.IderServer.Safety
import IntelAmt.IderServer.Accesses
import IntelAmt.IderServer.Driving
import IntelAmt.IderServer.Commands
import IntelAmt.IderServer.AccessRuns
import IntelAmt.IderServer.AccessAnswers
import IntelAmt.IderServer.Served
import IntelAmt.IderServer.MediaServed
import IntelAmt.IderServer.ReadBack
