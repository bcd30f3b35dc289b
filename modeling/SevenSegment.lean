import SevenSegment.Bench.Basic
import SevenSegment.Bench.Pad
import SevenSegment.Driver.Schedule
import SevenSegment.Line.OpenDrain
import SevenSegment.Panel.Frame
import SevenSegment.Session.Run
import SevenSegment.Proofs.Line.Alike
import SevenSegment.Proofs.Line.Record
import SevenSegment.Proofs.Line.Moves
import SevenSegment.Proofs.Session.Trace
import SevenSegment.Proofs.Bench.Bus
import SevenSegment.Proofs.Bench.Wire
import SevenSegment.Proofs.Panel.Bytes
import SevenSegment.Proofs.Bench.Receive
import SevenSegment.Proofs.Bench.History
import SevenSegment.Proofs.Bench.Recovery
import SevenSegment.Proofs.Driver.History
import SevenSegment.Proofs.Driver.Blocks
import SevenSegment.Proofs.Driver.Queue
import SevenSegment.Proofs.Driver.Delivery
import SevenSegment.Proofs.Driver.Invariant
import SevenSegment.Proofs.Session.Roles
import SevenSegment.Proofs.Bench.Faults
import SevenSegment.Proofs.Driver.Alarms
import SevenSegment.Proofs.Driver.Due
import SevenSegment.Proofs.Driver.Settling
import SevenSegment.Proofs.Driver.Devices
import SevenSegment.Proofs.Driver.Traps
import SevenSegment.Proofs.Driver.Released
import SevenSegment.Proofs.Driver.Punctual
import SevenSegment.Proofs.Bench.View
import SevenSegment.Proofs.Session.InStep
import SevenSegment.Proofs.Driver.InStep
import SevenSegment.Proofs.Session.Playback
import SevenSegment.Proofs.Driver.Stutter
import SevenSegment.Proofs.Line.Honest
import SevenSegment.Proofs.Bench.Honest
import SevenSegment.Proofs.Driver.Shutdown
import SevenSegment.Proofs.Driver.Alone
import SevenSegment.Proofs.Driver.Restart
import SevenSegment.Proofs.Driver.Refusals
import SevenSegment.Proofs.Driver.Pacing
import SevenSegment.Proofs.Driver.Commuting
import SevenSegment.Proofs.Session.Reuse
import SevenSegment.Proofs.Panel.Numeral
import SevenSegment.Proofs.Bench.Consistent
import SevenSegment.Proofs.Panel.Text
