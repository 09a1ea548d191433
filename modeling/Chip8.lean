import Chip8.Machine.Command
import Chip8.Main
import Chip8.Operation.Encode
import Chip8.Proofs.Raw.Cells
import Chip8.Proofs.Raw.Machine
import Chip8.Proofs.Raw.Exec
import Chip8.Proofs.Raw.View
import Chip8.Proofs.Memory
import Chip8.Proofs.Raw.Simulation.Draw
import Chip8.Proofs.Raw.Simulation.Exec
import Chip8.Proofs.Machine.Exec
import Chip8.Proofs.Operation.Table
import Chip8.Proofs.Machine.Step
import Chip8.Proofs.Machine.Run
import Chip8.Proofs.Machine.WellFormed
import Chip8.Proofs.Raw.Simulation.Run
import Chip8.Proofs.Representation
import Chip8.Proofs.Faults
import Chip8.Proofs.Calls
import Chip8.Proofs.Run.Turn
import Chip8.Proofs.Run.Loop
import Chip8.Proofs.Run.Outcome
import Chip8.Proofs.Run.Split
import Chip8.Proofs.Machine.Footprint
import Chip8.Proofs.Run.Timers
import Chip8.Proofs.Run.Cadence
import Chip8.Proofs.Raw.Cut
import Chip8.Proofs.Counter
import Chip8.Proofs.KeyWait
import Chip8.Proofs.Run.Halt
import Chip8.Proofs.Machine.Note
import Chip8.Proofs.Reset
import Chip8.Proofs.Word
import Chip8.Proofs.Operation.Inverse
import Chip8.Proofs.Loading
import Chip8.Proofs.Machine.Writes
import Chip8.Proofs.Redraw
import Chip8.Proofs.Config.TextKeys
import Chip8.Proofs.Raw.Headless
import Chip8.Proofs.Headless
import Chip8.Proofs.Machine.Host
import Chip8.Proofs.Machine.Reads
import Chip8.Proofs.Run.Trail
import Chip8.Proofs.Run.Unread
import Chip8.Proofs.Inputs
import Chip8.Proofs.Machine.UnreadCells
import Chip8.Proofs.UnreadMemory
import Chip8.Proofs.Machine.Quiet
import Chip8.Proofs.Text.Event
import Chip8.Proofs.CommandLine.Flags
import Chip8.Proofs.Logging
import Chip8.Proofs.RandomStream
import Chip8.Proofs.Display.Marks
import Chip8.Proofs.Display.Sprite
import Chip8.Proofs.Display.LitCount
import Chip8.Proofs.Display.Order
import Chip8.Proofs.DrawOperation
import Chip8.Proofs.Machine.Instruction
import Chip8.Proofs.Arithmetic
import Chip8.Proofs.NextCounter
import Chip8.Proofs.SavedRegisters
import Chip8.Proofs.ByteMap
import Chip8.Proofs.Machine.DeadSlots
import Chip8.Proofs.BoundedStack
import Chip8.Proofs.Config.Setting
import Chip8.Proofs.Config.UnknownKeys
import Chip8.Proofs.Config.Check
import Chip8.Proofs.Raw.Loader
import Chip8.Proofs.Raw.Simulation.Loader
import Chip8.Proofs.Config.Outcome
import Chip8.Proofs.Config.Escapes
import Chip8.Proofs.Reloading
import Chip8.Proofs.HeldKeys
import Chip8.Proofs.CommandLine.Outcome
import Chip8.Proofs.Text.Decimal
import Chip8.Proofs.Config.Spelling
import Chip8.Proofs.Yaml.Scalar
import Chip8.Proofs.Yaml.Lines
import Chip8.Proofs.Yaml.Documents
import Chip8.Proofs.Config.Saved
import Chip8.Proofs.Display.Picture
import Chip8.Proofs.Display.Sides
import Chip8.Proofs.Text.Padded
import Chip8.Proofs.Machine.Trace
import Chip8.Proofs.Operation.Mnemonic
import Chip8.Proofs.Text.Snapshot
import Chip8.Proofs.Text.FaultLine
import Chip8.Proofs.Run.Trace
