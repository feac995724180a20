import Arcade.Interpreter.StandIn
import Arcade.Main
import Arcade.Proofs.Bits
import Arcade.Proofs.Checksum
import Arcade.Proofs.Rom
import Arcade.Proofs.Text.Numeral
import Arcade.Proofs.Watchdog
import Arcade.Proofs.Watchdog.Countdown
import Arcade.Proofs.Io.Chip
import Arcade.Proofs.Io.DipSwitch
import Arcade.Proofs.Log.RateLimit
import Arcade.Proofs.Json.Record
import Arcade.Proofs.Json.Printed
import Arcade.Proofs.Config.Partial
import Arcade.Proofs.Config
import Arcade.Proofs.Memory.Sprites
import Arcade.Proofs.Board.Effect
import Arcade.Proofs.Board.Operation
import Arcade.Proofs.Board.Reachable
import Arcade.Proofs.Board.Consistency
import Arcade.Proofs.Board.Coherence
import Arcade.Proofs.Board.Restore
import Arcade.Proofs.Board.Encoding
import Arcade.Proofs.Machine.Events
import Arcade.Proofs.Machine.Restart
import Arcade.Proofs.Machine.Watched
import Arcade.Proofs.Cabinet.SaveState
import Arcade.Proofs.Cabinet.LoadInPlace
import Arcade.Proofs.Board.Interrupts
import Arcade.Proofs.Machine.Mirrors
import Arcade.Proofs.Machine.Runs
import Arcade.Proofs.Cabinet.Replay
import Arcade.Proofs.Machine.Accounts
import Arcade.Proofs.Board.Watchdogs
import Arcade.Proofs.Board.SlotOrder
import Arcade.Proofs.Board.OutputEvents
import Arcade.Proofs.Board.SoundCalls
import Arcade.Proofs.Board.Acceptance
import Arcade.Proofs.Board.SoundRegisters
import Arcade.Proofs.Board.OutputWrites
import Arcade.Proofs.Board.Aliases
import Arcade.Proofs.Board.DataBus
import Arcade.Proofs.Board.Interleaving
import Arcade.Proofs.Board.Secondaries
import Arcade.Proofs.Board.Bounds
import Arcade.Proofs.Board.Footprint
import Arcade.Proofs.Board.MachineReset
import Arcade.Proofs.Machine.Idle
import Arcade.Proofs.Cabinet.IdleFrames
import Arcade.Proofs.Machine.Contacts
import Arcade.Proofs.Interpreter.Idle
import Arcade.Proofs.Machine.Progress
import Arcade.Proofs.Cabinet.Mounting
import Arcade.Proofs.Board.Rewiring
import Arcade.Proofs.Board.Picture
import Arcade.Proofs.Board.InputPorts
