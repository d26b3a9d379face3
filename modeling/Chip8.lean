import Chip8.Bench.Cast
import Chip8.Bench.Command
import Chip8.Bench.Graphics
import Chip8.Bench.Session
import Chip8.Bus.Delivery
import Chip8.Bus.Event
import Chip8.Bus.Log
import Chip8.Bus.Recorder
import Chip8.Bus.Subscription
import Chip8.Clock.Computer
import Chip8.Clock.FreeRun
import Chip8.Clock.Pacing
import Chip8.Clock.Runner
import Chip8.Clock.Timers
import Chip8.Json.Basic
import Chip8.Json.Copy
import Chip8.Json.Reader
import Chip8.Json.Writer
import Chip8.Keys.Code
import Chip8.Keys.Keymap
import Chip8.Keys.Keypad
import Chip8.Keys.Layout
import Chip8.Number.Basic
import Chip8.Number.Binary64
import Chip8.Number.Numeral
import Chip8.Number.Residue
import Chip8.Number.Shortest
import Chip8.Number.Whole
import Chip8.Number.Word
import Chip8.Opcode.Decoded
import Chip8.Opcode.Execute
import Chip8.Opcode.Listing
import Chip8.Opcode.Operands
import Chip8.Opcode.Sprite
import Chip8.Opcode.Table
import Chip8.Picture.BitPlane
import Chip8.Picture.Bits
import Chip8.Picture.Framebuffer
import Chip8.Picture.Graphics
import Chip8.Picture.Position
import Chip8.Picture.Rendering
import Chip8.Random.Seed
import Chip8.Random.Sha512
import Chip8.Random.Twister
import Chip8.Settings.Basic
import Chip8.Settings.Conversion
import Chip8.Settings.Stored
import Chip8.Snapshot.Basic
import Chip8.Snapshot.Difference
import Chip8.State.Fault
import Chip8.State.Machine
import Chip8.State.MemoryMap
import Chip8.System.Basic
import Chip8.System.Lifecycle
import Chip8.System.Memory
import Chip8.System.Registers
import Chip8.System.Stack
import Chip8.Text.Blank
import Chip8.Text.Casing
import Chip8.Text.CasingTable
import Chip8.Text.CodePoint
import Chip8.Text.DecimalDigit
import Chip8.Text.Encoding
import Chip8.Text.Hex
import Chip8.Text.Printable
import Chip8.Text.Quoted
import Chip8.Text.Ranges
import Chip8.Proofs.Course
import Chip8.Proofs.Control
import Chip8.Proofs.Frames
import Chip8.Proofs.Invariant
import Chip8.Proofs.Telling
import Chip8.Proofs.Flips
import Chip8.Proofs.Keeper
import Chip8.Proofs.Mirror
import Chip8.Proofs.Decoding
import Chip8.Proofs.Success
import Chip8.Proofs.StackFault
import Chip8.Proofs.Drawing
import Chip8.Proofs.Parts
import Chip8.Proofs.Places
import Chip8.Proofs.Steps
import Chip8.Proofs.Runs
import Chip8.Proofs.TimerLaw
import Chip8.Proofs.CallReturn
import Chip8.Proofs.Likeness
import Chip8.Proofs.Noninterference
import Chip8.Proofs.HostInput
import Chip8.Proofs.Effects
import Chip8.Proofs.Interruption
import Chip8.Proofs.Reset
import Chip8.Proofs.Supervision
import Chip8.Proofs.Orders
import Chip8.Proofs.Attendance
import Chip8.Proofs.FreeRunning
import Chip8.Proofs.Compositing
import Chip8.Proofs.CallStack
import Chip8.Proofs.Silence
import Chip8.Proofs.Trace
import Chip8.Proofs.Successor
import Chip8.Proofs.Arithmetic
import Chip8.Proofs.Blocks
import Chip8.Proofs.Storing
import Chip8.Proofs.Partway
import Chip8.Proofs.Waiting
import Chip8.Proofs.Listings
import Chip8.Proofs.KeyHost
import Chip8.Proofs.HeldKey
import Chip8.Proofs.Audience
import Chip8.Proofs.BitAccess
import Chip8.Proofs.Imaging
import Chip8.Proofs.Views
import Chip8.Proofs.Differences
import Chip8.Proofs.Quotation
import Chip8.Proofs.Decimals
import Chip8.Proofs.Records
import Chip8.Proofs.StoredSettings
import Chip8.Proofs.TableOrder
import Chip8.Proofs.HostKeys
import Chip8.Proofs.Magnitudes
import Chip8.Proofs.ValidSettings
