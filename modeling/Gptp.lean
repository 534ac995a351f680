import Gptp.Framework.Memory
import Gptp.Framework.Words
import Gptp.Framework.Serialization
import Gptp.Framework.FirstMinimum
import Gptp.Framework.SortedSearch
import Gptp.Framework.Strtoul
import Gptp.Framework.TextLines
import Gptp.Framework.Machine
import Gptp.Framework.Network
import Gptp.Framework.Settling
import Gptp.Framework.Footprint
import Gptp.Framework.Ownership
import Gptp.Framework.Retry
import Gptp.Framework.FifoLock
import Gptp.Message.Platform
import Gptp.Message.Types
import Gptp.Message.Timestamps
import Gptp.Message.Nanoseconds
import Gptp.Message.LinkLayerAddress
import Gptp.Message.Codec
import Gptp.Message.PathTrace
import Gptp.Message.ParseBounds
import Gptp.Message.AnnounceRoundTrip
import Gptp.Message.PayloadRoundTrip
import Gptp.Message.TlvRoundTrip
import Gptp.Port.State
import Gptp.Port.Operations
import Gptp.Port.Transmit
import Gptp.Port.Servo
import Gptp.Port.Receive
import Gptp.Port.Bmca
import Gptp.Port.MasterOrder
import Gptp.Port.Events
import Gptp.Port.Run
import Gptp.Port.Listen
import Gptp.Port.Core
import Gptp.Port.CoreReceive
import Gptp.Port.CoreStep
import Gptp.Port.Footprint
import Gptp.Port.StepFootprint
import Gptp.Port.Wire
import Gptp.Port.Publication
import Gptp.Port.Ownership
import Gptp.Linux.TimerQueue
import Gptp.Linux.Timestamping
import Gptp.Linux.Transmission
import Gptp.Linux.Reception
import Gptp.Linux.TicketingLock
import Gptp.Linux.Persistence
import Gptp.Linux.ShortBuffers
import Gptp.Linux.ClockPhase
import Gptp.Linux.CrossTimestamp
import Gptp.Safety.PhyCompensation
import Gptp.Safety.Mastership
import Gptp.Safety.Transmission
import Gptp.Safety.Grandmaster
import Gptp.Safety.BestMaster
import Gptp.Safety.AllPorts
import Gptp.Safety.LoopFree
import Gptp.Safety.Deferral
import Gptp.Safety.PdelayIdentity
import Gptp.Safety.AsCapable
import Gptp.Safety.PeerRate
import Gptp.Safety.LinkDelay
import Gptp.Safety.DuplicateResponses
import Gptp.Safety.PendingRequest
import Gptp.Safety.PdelaySupervision
import Gptp.Safety.PdelayResponder
import Gptp.Safety.SyncPairing
import Gptp.Safety.SyncReceipt
import Gptp.Safety.WrongSequence
import Gptp.Safety.FollowUpFields
import Gptp.Safety.MasterOffset
import Gptp.Safety.TimeJump
import Gptp.Safety.PhaseStep
import Gptp.Safety.SyncInterval
import Gptp.Safety.TimerSignals
import Gptp.Safety.TimerEdits
import Gptp.Safety.MessageOwnership
import Gptp.Safety.RoleChange
import Gptp.Safety.FrequencyChange
import Gptp.Safety.PublishedGrandmaster
import Gptp.Safety.SingleTimers
import Gptp.Safety.Resets
import Gptp.Servo.Discipline
import Gptp.Servo.ClosedLoop
import Gptp.Segment.Frames
import Gptp.Segment.Model
import Gptp.Segment.Transmission
import Gptp.Segment.Election
import Gptp.Segment.SyncExchange
import Gptp.Segment.PdelayExchange
import Gptp.Segment.IdealLink
import Gptp.Wireless.TimingMeasurement
import Gptp.Wireless.DialogPairing
import Gptp.Wireless.IndicatedDelay
import Gptp.Windows.Rollover
import Gptp.Windows.CorrelatedTime
import Gptp.Windows.PerformanceCounter
import Gptp.Windows.Packet
import Gptp.Windows.PeerList
import Gptp.Config.IniParser
import Gptp.Config.IniFile
import Gptp.Config.ConfigFile
