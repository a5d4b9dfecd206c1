import BlinkerApp.Proofs.CounterMeaning
import BlinkerApp.Proofs.AllCommands
import BlinkerApp.Proofs.CommandAccounting
import BlinkerApp.Proofs.HkPacket
import BlinkerApp.Proofs.Noninterference
import BlinkerApp.Proofs.Races
import BlinkerApp.Proofs.CommandFormat
import BlinkerApp.Proofs.HkTelemetry
import BlinkerApp.Proofs.PacketMemory
import BlinkerApp.Proofs.Reachability
import BlinkerApp.Proofs.Observability
import BlinkerApp.Proofs.Interleavings
import BlinkerApp.Proofs.TickTiming
import BlinkerApp.Proofs.Rejections
import BlinkerApp.Proofs.EdsRuns
import BlinkerApp.Proofs.PayloadReads
import BlinkerApp.Proofs.TableValues
import BlinkerApp.Proofs.SwapSequences
import BlinkerApp.Proofs.CountingForward
import BlinkerApp.Proofs.Announcement
import BlinkerApp.Proofs.EventLog
import BlinkerApp.Proofs.LogTracking
import BlinkerApp.Proofs.SystemTest
