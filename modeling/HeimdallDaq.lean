import HeimdallDaq.Active.DevTime
import HeimdallDaq.Active.Exposure
import HeimdallDaq.Active.Retune
import HeimdallDaq.Active.TimeFresh
import HeimdallDaq.DataPlane.Decimator
import HeimdallDaq.DataPlane.DelaySync
import HeimdallDaq.DataPlane.IqHeader
import HeimdallDaq.DataPlane.IqServer
import HeimdallDaq.DataPlane.RebufferFlags
import HeimdallDaq.DataPlane.RtlCoherence
import HeimdallDaq.DataPlane.RtlDummies
import HeimdallDaq.DataPlane.RtlOverdrive
import HeimdallDaq.DataPlane.Shmem
import HeimdallDaq.DataPlane.SpiTransport
import HeimdallDaq.DataPlane.UartTransport
import HeimdallDaq.DataPlane.VectoredWrite
import HeimdallDaq.Election.Leases
import HeimdallDaq.Election.Stickiness
import HeimdallDaq.Federation.Agreement
import HeimdallDaq.Federation.Aligner
import HeimdallDaq.Federation.Breaker
import HeimdallDaq.Federation.ChunkedSend
import HeimdallDaq.Federation.ClientSink
import HeimdallDaq.Federation.Completeness
import HeimdallDaq.Federation.FanOutHonesty
import HeimdallDaq.Federation.LossAccounting
import HeimdallDaq.Federation.MemberCommand
import HeimdallDaq.Federation.Persistence
import HeimdallDaq.Federation.ReconcileAttempts
import HeimdallDaq.Federation.Registration
import HeimdallDaq.Federation.RequestRoundTrip
import HeimdallDaq.Federation.ScheduleSize
import HeimdallDaq.Federation.StatsKeys
import HeimdallDaq.Gateware.FifoSync
import HeimdallDaq.Gateware.FirDecimate
import HeimdallDaq.Gateware.SpiConfig
import HeimdallDaq.Gateware.XcorrEngine
import HeimdallDaq.HwController.BurstTransparency
import HeimdallDaq.HwController.GainRefusal
import HeimdallDaq.HwController.Orientation
import HeimdallDaq.HwController.Relay
import HeimdallDaq.HwController.RepeatModes
import HeimdallDaq.HwController.Rotator
import HeimdallDaq.HwController.SafeState
import HeimdallDaq.HwController.ScheduleLoad
import HeimdallDaq.Storage.DbWriter
import HeimdallDaq.Storage.TimeKeys
import HeimdallDaq.Tx.Commits
import HeimdallDaq.Tx.Deadline
import HeimdallDaq.Tx.Flowgraph
import HeimdallDaq.Tx.Latch
import HeimdallDaq.Tx.PaOff
import HeimdallDaq.Tx.Reentry
import HeimdallDaq.Tx.Sends
