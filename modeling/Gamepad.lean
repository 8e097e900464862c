import Gamepad.Bench
import Gamepad.Main
import Gamepad.PollLoop.Script
import Gamepad.Port.Rack
import Gamepad.Program.Session
import Gamepad.Proofs.DwellFilter
import Gamepad.Proofs.Poll
import Gamepad.Proofs.Transcript
import Gamepad.Proofs.DwellTiming
import Gamepad.Proofs.OverrideQueue
import Gamepad.Proofs.PhysicalRead
import Gamepad.Proofs.AlikeBenches
import Gamepad.Proofs.FailedPoll
import Gamepad.Proofs.Noninterference
import Gamepad.Proofs.ManualLock
import Gamepad.Proofs.LockIndicator
import Gamepad.Proofs.TickRate
import Gamepad.Proofs.StatedDwell
import Gamepad.Proofs.ServedReadings
import Gamepad.Proofs.LongerDwell
import Gamepad.Proofs.StickInput
import Gamepad.Proofs.PublishedStates
import Gamepad.Proofs.TypedLines
import Gamepad.Proofs.RegisteredPorts
import Gamepad.Proofs.BindingFaults
import Gamepad.Proofs.SnapshotText
import Gamepad.Proofs.ValidConfigurations
import Gamepad.Proofs.RecordedChanges
import Gamepad.Proofs.FilteredInput
import Gamepad.Proofs.PollsWithoutNews
import Gamepad.Proofs.AbandonedQueue
import Gamepad.Proofs.FilterSymmetries
import Gamepad.Proofs.MirroredRuns
import Gamepad.Proofs.WrittenConfigurations
import Gamepad.Proofs.FoundConfigurations
import Gamepad.Proofs.SharedCounter
import Gamepad.Proofs.WrittenDirections
