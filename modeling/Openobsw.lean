import Openobsw.Lib.Tables
import Openobsw.Ccsds.SpacePacket
import Openobsw.Config
import Openobsw.Pus.TmBuild
import Openobsw.Fdir.Fsm
import Openobsw.Pus.S1
import Openobsw.Time.Obt
import Openobsw.Ccsds.Crc16
import Openobsw.Pus.S20
import Openobsw.Pus.S17
import Openobsw.Pus.S9
import Openobsw.Pus.S6
import Openobsw.Properties.SafeCoupling
import Openobsw.Lib.Component
import Openobsw.Lib.Selection
import Openobsw.Pus.S11
import Openobsw.Pus.S11Steps
import Openobsw.Pus.S11Run
import Openobsw.Pus.S19
import Openobsw.Pus.S19Steps
import Openobsw.Pus.S3
import Openobsw.Pus.S3Commands
import Openobsw.Pus.S3Reports
import Openobsw.Lib.Binary32
import Openobsw.Lib.Edges
import Openobsw.Pus.S12
import Openobsw.Pus.S12Latches
import Openobsw.Pus.S12Check
import Openobsw.Pus.S8
import Openobsw.System.Board
import Openobsw.System.Handlers
import Openobsw.System.Feed
import Openobsw.System.Runs
import Openobsw.Properties.ModeGate
import Openobsw.Properties.Verification
import Openobsw.Properties.HandlerSafety
import Openobsw.Properties.Schedule
import Openobsw.Properties.ReleaseOrder
import Openobsw.Properties.Monitoring
import Openobsw.Properties.EventAction
import Openobsw.Properties.HousekeepingSets
import Openobsw.Lib.Ring
import Openobsw.Properties.PacketQueue
import Openobsw.Properties.PacketCheck
import Openobsw.Srdb.Mission
import Openobsw.Task.Mode
import Openobsw.Properties.ModeRequests
import Openobsw.Properties.ModeEvents
import Openobsw.Lib.Csv
import Openobsw.Srdb.Model
import Openobsw.Srdb.Loader
import Openobsw.Srdb.Composition
import Openobsw.Properties.Composition
import Openobsw.Srdb.Codegen
import Openobsw.Srdb.Widths
import Openobsw.Properties.HousekeepingLayout
import Openobsw.Srdb.CsvIo
import Openobsw.Srdb.Cells
import Openobsw.Srdb.Returns
import Openobsw.Srdb.Parameters
import Openobsw.Properties.CsvRoundTrip
import Openobsw.Lib.Numbering
import Openobsw.Pus.Sending
import Openobsw.Pus.S3Telemetry
import Openobsw.System.Telemetry
import Openobsw.System.HostSim
import Openobsw.System.HostFrames
import Openobsw.Properties.ModeDiagram
import Openobsw.Properties.FrameTelemetry
import Openobsw.System.Target
import Openobsw.Properties.MessageCounters
import Openobsw.Lib.Words
import Openobsw.Properties.SpacePacketRoundTrip
import Openobsw.Properties.TmPacket
import Openobsw.Properties.TcReference
import Openobsw.Pus.S6Access
import Openobsw.Properties.MemoryAccess
import Openobsw.Properties.MemoryAgreement
import Openobsw.Lib.ShiftRegister
import Openobsw.Ccsds.TcFrame
import Openobsw.Ccsds.CrcRegister
import Openobsw.Properties.FrameErrors
import Openobsw.Properties.HousekeepingRequests
import Openobsw.Properties.HousekeepingContent
import Openobsw.Properties.HousekeepingSchedule
import Openobsw.Properties.SafetyTables
import Openobsw.Lib.Trace
import Openobsw.Properties.OnBoardTime
import Openobsw.Fdir.Watchdog
import Openobsw.Properties.WatchdogTrace
import Openobsw.Properties.SafeHooks
import Openobsw.Properties.StandbyTimeout
import Openobsw.Properties.Routing
import Openobsw.Properties.TcFrameFormat
import Openobsw.Task.Tmtc
import Openobsw.Lib.Framing
import Openobsw.Properties.UplinkFraming
import Openobsw.Tools.PingUart
import Openobsw.Properties.DownlinkStream
import Openobsw.Ccsds.TmFrame
import Openobsw.Properties.TmFrameFill
import Openobsw.Properties.XtceTypes
import Openobsw.Lib.Objects
import Openobsw.Srdb.Objects
import Openobsw.Properties.Additivity
import Openobsw.Srdb.Commands
import Openobsw.Properties.XtceArguments
import Openobsw.Lib.Names
import Openobsw.Srdb.Macros
import Openobsw.Properties.HeaderMacros
import Openobsw.Lib.Lockstep
import Openobsw.Aocs.Adcs
import Openobsw.Lib.TypedFrames
import Openobsw.Properties.HostParameters
import Openobsw.Lib.SharedRing
import Openobsw.System.Msp430
import Openobsw.Properties.Msp430Sessions
import Openobsw.Properties.UplinkFlush
