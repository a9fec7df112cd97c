import Chip8.Frame.Json
import Chip8.Main
import Chip8.Proofs.Execution
import Chip8.Proofs.Step
import Chip8.Proofs.Validity
import Chip8.Proofs.Outcome
import Chip8.Proofs.Saves.Reading
import Chip8.Proofs.FailedSteps
import Chip8.Proofs.CallStack
import Chip8.Proofs.Json.Document
import Chip8.Proofs.Saves.RoundTrip
import Chip8.Proofs.Updates
import Chip8.Proofs.Saves.Format
import Chip8.Proofs.Saves.Continuation
import Chip8.Proofs.Film
import Chip8.Proofs.Session.Account
import Chip8.Proofs.Session.Composition
import Chip8.Proofs.Faults
import Chip8.Proofs.PowerCycle
import Chip8.Proofs.Moves
import Chip8.Proofs.ProgramCounter
import Chip8.Proofs.Overflow
import Chip8.Proofs.Countdown
import Chip8.Proofs.Log.Summaries
import Chip8.Proofs.Listing
import Chip8.Proofs.FrameSteps
import Chip8.Proofs.Rolls
import Chip8.Proofs.DeadState
import Chip8.Proofs.Log.Selection
import Chip8.Proofs.Telling
import Chip8.Proofs.Display.Overlay
import Chip8.Proofs.Session.Aftermath
import Chip8.Proofs.Registers
import Chip8.Proofs.Arithmetic
import Chip8.Proofs.Footprint
import Chip8.Proofs.SpriteDrawing
import Chip8.Proofs.Transfers
import Chip8.Proofs.KeyWait
import Chip8.Proofs.Mnemonic
import Chip8.Proofs.Display.Views
import Chip8.Proofs.MemoryFaults
import Chip8.Proofs.Keypad.Mask
import Chip8.Proofs.KeySet
import Chip8.Proofs.Text.Matching
import Chip8.Proofs.Session.Configured
