import GameVm.Bytes.Crc32
import GameVm.Bytes.LittleEndian
import GameVm.Config.Json
import GameVm.Config.Number
import GameVm.Config.Reader
import GameVm.Config.Settings
import GameVm.Domain
import GameVm.Float.Binary32
import GameVm.Float.Decimal
import GameVm.Machine.Action
import GameVm.Machine.Context
import GameVm.Machine.Error
import GameVm.Machine.Host
import GameVm.Machine.Inspect
import GameVm.Machine.Journal
import GameVm.Machine.Machine
import GameVm.Machine.Run
import GameVm.Machine.Service
import GameVm.Machine.Step
import GameVm.Memory.AccessError
import GameVm.Memory.Cells
import GameVm.Memory.Entities
import GameVm.Memory.Globals
import GameVm.Memory.Pointer
import GameVm.Memory.StringTable
import GameVm.Memory.Value
import GameVm.Program.Assembler
import GameVm.Program.Blob
import GameVm.Program.Check
import GameVm.Program.Decode
import GameVm.Program.Definition
import GameVm.Program.FormatError
import GameVm.Program.FunctionEntry
import GameVm.Program.Image
import GameVm.Program.Layout
import GameVm.Program.Opcode
import GameVm.Program.Parts
import GameVm.Program.Slots
import GameVm.Program.Statement
import GameVm.Proofs.Accounting
import GameVm.Proofs.Activations
import GameVm.Proofs.Addressing
import GameVm.Proofs.Adequacy
import GameVm.Proofs.Assembly
import GameVm.Proofs.Bindings
import GameVm.Proofs.Branches
import GameVm.Proofs.Budget
import GameVm.Proofs.Building
import GameVm.Proofs.CallingConvention
import GameVm.Proofs.Calls
import GameVm.Proofs.ConstantSearch
import GameVm.Proofs.ConstantStrings
import GameVm.Proofs.Counters
import GameVm.Proofs.Declarations
import GameVm.Proofs.Determinism
import GameVm.Proofs.Dispatch
import GameVm.Proofs.EntityAllocation
import GameVm.Proofs.FaultTraces
import GameVm.Proofs.FieldLayout
import GameVm.Proofs.FloatOrder
import GameVm.Proofs.Frames
import GameVm.Proofs.Handover
import GameVm.Proofs.History
import GameVm.Proofs.IntegerOperations
import GameVm.Proofs.Interning
import GameVm.Proofs.Invariance
import GameVm.Proofs.Isolation
import GameVm.Proofs.KeptStrings
import GameVm.Proofs.Lifetimes
import GameVm.Proofs.Limits
import GameVm.Proofs.Linking
import GameVm.Proofs.NamedReads
import GameVm.Proofs.NamedWrites
import GameVm.Proofs.Naming
import GameVm.Proofs.Nesting
import GameVm.Proofs.Neutrality
import GameVm.Proofs.NullCell
import GameVm.Proofs.NullFunction
import GameVm.Proofs.Overwrites
import GameVm.Proofs.PendingFaults
import GameVm.Proofs.Progress
import GameVm.Proofs.Provenance
import GameVm.Proofs.Reachable
import GameVm.Proofs.Records
import GameVm.Proofs.Restart
import GameVm.Proofs.Restoration
import GameVm.Proofs.ReusePolicy
import GameVm.Proofs.Runs
import GameVm.Proofs.Safety
import GameVm.Proofs.ScratchPool
import GameVm.Proofs.Shape
import GameVm.Proofs.Soundness
import GameVm.Proofs.Spelling
import GameVm.Proofs.Stack
import GameVm.Proofs.StackDiscipline
import GameVm.Proofs.Storage
import GameVm.Proofs.Symbols
import GameVm.Proofs.WellFormed
import GameVm.Proofs.World
import GameVm.Registry.BuiltinTable
import GameVm.Registry.Instance
import GameVm.Registry.Loader
import GameVm.Registry.Registry
import GameVm.Text.Hex
import GameVm.Text.Numeral
import GameVm.Text.Utf8
