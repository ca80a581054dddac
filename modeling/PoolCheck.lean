import PoolCheck.Binary32
import PoolCheck.Binary32.Literal
import PoolCheck.Binary32.Reading
import PoolCheck.Binary32.Shortest
import PoolCheck.Command.Check
import PoolCheck.Command.Convert
import PoolCheck.Command.Options
import PoolCheck.Comparison
import PoolCheck.Conversion.Action
import PoolCheck.Conversion.Argument
import PoolCheck.Conversion.Drive
import PoolCheck.Conversion.Export
import PoolCheck.Conversion.GraphFile
import PoolCheck.Exchange.Comparison
import PoolCheck.Exchange.Config
import PoolCheck.Exchange.Field
import PoolCheck.Exchange.Module
import PoolCheck.Exchange.Pool
import PoolCheck.Fault
import PoolCheck.FeatureMap
import PoolCheck.FileSystem
import PoolCheck.Json.Basic
import PoolCheck.Json.Lexer
import PoolCheck.Json.Printer
import PoolCheck.Json.Reader
import PoolCheck.Keystream
import PoolCheck.Main
import PoolCheck.Module.Basic
import PoolCheck.Module.Execution
import PoolCheck.Module.Lowering
import PoolCheck.Module.Primitive
import PoolCheck.Path
import PoolCheck.Pool.Family
import PoolCheck.Pool.Forward
import PoolCheck.Pool.Operator
import PoolCheck.Pool.Sequence
import PoolCheck.Pool.Window
import PoolCheck.Proofs.Acceptance
import PoolCheck.Proofs.Action
import PoolCheck.Proofs.Argument
import PoolCheck.Proofs.Average
import PoolCheck.Proofs.Binary32.Arithmetic
import PoolCheck.Proofs.Binary32.Count
import PoolCheck.Proofs.Binary32.Double
import PoolCheck.Proofs.Binary32.Nearness
import PoolCheck.Proofs.Binary32.Order
import PoolCheck.Proofs.Binary32.Packing
import PoolCheck.Proofs.Binary32.Rounding
import PoolCheck.Proofs.Binary32.Shortest
import PoolCheck.Proofs.Binary32.Unsigned
import PoolCheck.Proofs.Comparison
import PoolCheck.Proofs.Composition
import PoolCheck.Proofs.Conversion
import PoolCheck.Proofs.Coverage
import PoolCheck.Proofs.Directory
import PoolCheck.Proofs.Document
import PoolCheck.Proofs.Exchange
import PoolCheck.Proofs.Extent
import PoolCheck.Proofs.FeatureMap
import PoolCheck.Proofs.FileSystem
import PoolCheck.Proofs.Forward
import PoolCheck.Proofs.Json.Lexing
import PoolCheck.Proofs.Json.Reading
import PoolCheck.Proofs.Literal
import PoolCheck.Proofs.Location
import PoolCheck.Proofs.Lowering
import PoolCheck.Proofs.Maximum
import PoolCheck.Proofs.Npy.File
import PoolCheck.Proofs.Npy.Value
import PoolCheck.Proofs.Operator
import PoolCheck.Proofs.Outcome
import PoolCheck.Proofs.Padding
import PoolCheck.Proofs.Path
import PoolCheck.Proofs.Primitive
import PoolCheck.Proofs.Rectangle
import PoolCheck.Proofs.Run.Blame
import PoolCheck.Proofs.Run.Completing
import PoolCheck.Proofs.Run.Footprint
import PoolCheck.Proofs.Run.Invocation
import PoolCheck.Proofs.Run.Leaving
import PoolCheck.Proofs.Run.Passing
import PoolCheck.Proofs.Run.Refusal
import PoolCheck.Proofs.Run.Steps
import PoolCheck.Proofs.Run.Workspace
import PoolCheck.Proofs.Sequence
import PoolCheck.Proofs.Shape
import PoolCheck.Proofs.Sight
import PoolCheck.Proofs.Spelling
import PoolCheck.Proofs.Tensor.Random
import PoolCheck.Proofs.Tensor.Size
import PoolCheck.Proofs.Text
import PoolCheck.Proofs.Tiling
import PoolCheck.Proofs.Trapping
import PoolCheck.Proofs.Window
import PoolCheck.Proofs.WindowCount
import PoolCheck.Proofs.Written
import PoolCheck.Run.Basic
import PoolCheck.Run.Config
import PoolCheck.Script.Arithmetic
import PoolCheck.Script.Basic
import PoolCheck.Script.Builtin.Argument
import PoolCheck.Script.Builtin.Basic
import PoolCheck.Script.Builtin.Calling
import PoolCheck.Script.Builtin.Directory
import PoolCheck.Script.Builtin.Job
import PoolCheck.Script.Builtin.Limit
import PoolCheck.Script.Builtin.Mask
import PoolCheck.Script.Builtin.Printing
import PoolCheck.Script.Builtin.Reading
import PoolCheck.Script.Builtin.Signal
import PoolCheck.Script.Builtin.Table
import PoolCheck.Script.Builtin.Variable
import PoolCheck.Script.Condition
import PoolCheck.Script.Date.Calendar
import PoolCheck.Script.Date.Reader
import PoolCheck.Script.Date.Token
import PoolCheck.Script.Evaluation
import PoolCheck.Script.Executable
import PoolCheck.Script.Expansion
import PoolCheck.Script.Format
import PoolCheck.Script.Fraction
import PoolCheck.Script.Job
import PoolCheck.Script.Launcher
import PoolCheck.Script.Mode
import PoolCheck.Script.Pattern
import PoolCheck.Script.Process
import PoolCheck.Script.Program
import PoolCheck.Script.Program.Copying
import PoolCheck.Script.Program.Making
import PoolCheck.Script.Program.Moving
import PoolCheck.Script.Program.Named
import PoolCheck.Script.Program.Options
import PoolCheck.Script.Program.Printing
import PoolCheck.Script.Program.Removing
import PoolCheck.Script.Program.Renaming
import PoolCheck.Script.Program.Showing
import PoolCheck.Script.Program.Testing
import PoolCheck.Script.Program.Texts
import PoolCheck.Script.Reader.Basic
import PoolCheck.Script.Reader.Command
import PoolCheck.Script.Reader.Token
import PoolCheck.Script.Reader.Word
import PoolCheck.Script.Redirection
import PoolCheck.Script.Run
import PoolCheck.Script.Schedule
import PoolCheck.Script.Session
import PoolCheck.Script.Signal
import PoolCheck.Script.Simple
import PoolCheck.Script.Starting
import PoolCheck.Script.State
import PoolCheck.Script.Subshell
import PoolCheck.Tensor
import PoolCheck.Tensor.Display
import PoolCheck.Tensor.Npy
import PoolCheck.Tensor.Npy.Value
import PoolCheck.Tensor.Random
import PoolCheck.Text
import PoolCheck.Word
import PoolCheck.Proofs.Binary32.Distance
import PoolCheck.Proofs.Tensor.Position
import PoolCheck.Proofs.Verdict
import PoolCheck.Proofs.Binary32.Monotone
import PoolCheck.Proofs.Tolerance
import PoolCheck.Proofs.Border
import PoolCheck.Proofs.Defaults
import PoolCheck.Proofs.Decoded
import PoolCheck.Proofs.Converted
import PoolCheck.Proofs.Override
import PoolCheck.Proofs.Declared
import PoolCheck.Proofs.Routine
import PoolCheck.Proofs.Run.Sharing
import PoolCheck.Proofs.Run.Stepwise
import PoolCheck.Proofs.Run.Keeping
import PoolCheck.Proofs.Run.Apart
