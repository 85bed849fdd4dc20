import WirelessScan.Bench.Playback
import WirelessScan.Bench.Session
import WirelessScan.Bench.TimerRun
import WirelessScan.Main
import WirelessScan.Proofs.Effects
import WirelessScan.Proofs.Operations
import WirelessScan.Proofs.Alarms
import WirelessScan.Proofs.Custody
import WirelessScan.Proofs.CycleBalance
import WirelessScan.Proofs.Resolution
import WirelessScan.Proofs.Schedule
import WirelessScan.Proofs.Snapshots
import WirelessScan.Proofs.Reconciliation
import WirelessScan.Proofs.Freshness
import WirelessScan.Proofs.LateNotices
import WirelessScan.Proofs.Succession
import WirelessScan.Proofs.Settlement
import WirelessScan.Proofs.Staleness
import WirelessScan.Proofs.Faithfulness
import WirelessScan.Proofs.Refusal
import WirelessScan.Proofs.Stopping
import WirelessScan.Proofs.Deferral
import WirelessScan.Proofs.Delivery
import WirelessScan.Proofs.Interleaving
import WirelessScan.Proofs.Isolation
import WirelessScan.Proofs.Coverage
import WirelessScan.Proofs.Announcement
import WirelessScan.Proofs.Draining
import WirelessScan.Proofs.FirstCycle
import WirelessScan.Proofs.DispatchLoops
import WirelessScan.Proofs.ReplayAccount
import WirelessScan.Proofs.DueChannels
import WirelessScan.Proofs.IdReuse
import WirelessScan.Proofs.Stamps
import WirelessScan.Proofs.ChannelPlan
import WirelessScan.Proofs.Layers
import WirelessScan.Proofs.Employment
import WirelessScan.Proofs.Attendance
import WirelessScan.Proofs.PrintedResults
import WirelessScan.Proofs.AlarmFates
import WirelessScan.Proofs.Loading
import WirelessScan.Proofs.WrittenValues
import WirelessScan.Proofs.RoundTrip
import WirelessScan.Proofs.TimerTasks
