import PatchSandbox.Admission
import PatchSandbox.CommandLine.Arguments
import PatchSandbox.CommandLine.Run
import PatchSandbox.Config
import PatchSandbox.Config.File
import PatchSandbox.Decimal
import PatchSandbox.Duration
import PatchSandbox.EvalOutput
import PatchSandbox.Evaluation.Bridge
import PatchSandbox.Evaluation.Capture
import PatchSandbox.Evaluation.Evaluate
import PatchSandbox.Evaluation.Event
import PatchSandbox.Evaluation.Loader
import PatchSandbox.Finding
import PatchSandbox.Finding.Wire
import PatchSandbox.Json.Printer
import PatchSandbox.Json.Reader
import PatchSandbox.Json.Shape
import PatchSandbox.Json.Value
import PatchSandbox.Location
import PatchSandbox.Machine.Access
import PatchSandbox.Machine.Bindings
import PatchSandbox.Machine.Call
import PatchSandbox.Machine.Code
import PatchSandbox.Machine.Compile.Basic
import PatchSandbox.Machine.Compile.Expression
import PatchSandbox.Machine.Compile.Function
import PatchSandbox.Machine.Compile.Pattern
import PatchSandbox.Machine.Compile.Statement
import PatchSandbox.Machine.Convert
import PatchSandbox.Machine.Engine
import PatchSandbox.Machine.Intrinsic
import PatchSandbox.Machine.Iteration
import PatchSandbox.Machine.Library.Array
import PatchSandbox.Machine.Library.Collection
import PatchSandbox.Machine.Library.Date
import PatchSandbox.Machine.Library.Error
import PatchSandbox.Machine.Library.Function
import PatchSandbox.Machine.Library.Generator
import PatchSandbox.Machine.Library.Global
import PatchSandbox.Machine.Library.Inner
import PatchSandbox.Machine.Library.Iterator
import PatchSandbox.Machine.Library.Json
import PatchSandbox.Machine.Library.Math
import PatchSandbox.Machine.Library.Member
import PatchSandbox.Machine.Library.Object
import PatchSandbox.Machine.Library.Primitive
import PatchSandbox.Machine.Library.Promise
import PatchSandbox.Machine.Library.Regex
import PatchSandbox.Machine.Library.Text
import PatchSandbox.Machine.Native
import PatchSandbox.Machine.Numeric
import PatchSandbox.Machine.Object
import PatchSandbox.Machine.Operator
import PatchSandbox.Machine.Promise
import PatchSandbox.Machine.Property
import PatchSandbox.Machine.Reach
import PatchSandbox.Machine.Realm
import PatchSandbox.Machine.Report
import PatchSandbox.Machine.Run
import PatchSandbox.Machine.Serialize
import PatchSandbox.Machine.Source
import PatchSandbox.Machine.State
import PatchSandbox.Machine.Step
import PatchSandbox.Machine.Table
import PatchSandbox.Machine.Value
import PatchSandbox.Main
import PatchSandbox.Message
import PatchSandbox.Module.Map
import PatchSandbox.Nesting
import PatchSandbox.Op
import PatchSandbox.Proofs.Admission.Exact
import PatchSandbox.Proofs.Module.Map
import PatchSandbox.Proofs.Nesting.Depth
import PatchSandbox.Proofs.Nesting.Gaps
import PatchSandbox.Proofs.Nesting.Literals
import PatchSandbox.Proofs.Nesting.Scan
import PatchSandbox.Proofs.Nesting.Tokens
import PatchSandbox.Proofs.Script.Balance.Expression
import PatchSandbox.Proofs.Script.Balance.Function
import PatchSandbox.Proofs.Script.Balance.Statement
import PatchSandbox.Proofs.Script.Balance.Walk
import PatchSandbox.Proofs.Script.Places
import PatchSandbox.Proofs.Script.Reading
import PatchSandbox.Proofs.Script.Spelling
import PatchSandbox.Proofs.Session.Calls
import PatchSandbox.Proofs.Session.Channels
import PatchSandbox.Proofs.Session.Correlation
import PatchSandbox.Proofs.Session.History
import PatchSandbox.Proofs.Session.Submission
import PatchSandbox.Proofs.Session.Table
import PatchSandbox.Regex.Matcher
import PatchSandbox.Regex.Pattern
import PatchSandbox.Regex.Reader
import PatchSandbox.Script.Flaw
import PatchSandbox.Script.Grammar.Basic
import PatchSandbox.Script.Grammar.Expression
import PatchSandbox.Script.Grammar.Function
import PatchSandbox.Script.Grammar.Pattern
import PatchSandbox.Script.Grammar.Statement
import PatchSandbox.Script.Lexer
import PatchSandbox.Script.Names
import PatchSandbox.Script.Program
import PatchSandbox.Script.Token
import PatchSandbox.Script.Tree
import PatchSandbox.Session.Pending
import PatchSandbox.Session.Step
import PatchSandbox.Session.State
import PatchSandbox.Session.Task
import PatchSandbox.Session.Worker
import PatchSandbox.SessionError
import PatchSandbox.Storage.Disk
import PatchSandbox.Storage.FileTree
import PatchSandbox.Text.Blank
import PatchSandbox.Text.Case
import PatchSandbox.Text.CodeUnits
import PatchSandbox.Text.IdentifierTable
import PatchSandbox.Text.Word
import PatchSandbox.Toml.Scalar
import PatchSandbox.Toml.Reader
import PatchSandbox.Toml.Table
import PatchSandbox.Proofs.Session.Closing
import PatchSandbox.Proofs.Session.Conservation
import PatchSandbox.Proofs.Session.Fate
import PatchSandbox.Proofs.Session.Ending
import PatchSandbox.Proofs.Session.Disposal
import PatchSandbox.Proofs.Evaluation.Drain
import PatchSandbox.Proofs.Evaluation.Ledger
import PatchSandbox.Proofs.Evaluation.Outcome
import PatchSandbox.Proofs.Evaluation.Promises
import PatchSandbox.Proofs.Evaluation.Ops
import PatchSandbox.Proofs.Session.Loop
import PatchSandbox.Proofs.Op.Wire
import PatchSandbox.Proofs.Evaluation.Loading
import PatchSandbox.Proofs.Evaluation.Failure
import PatchSandbox.Proofs.Admission.Evaluated
import PatchSandbox.Proofs.Session.Memory
import PatchSandbox.Proofs.Session.Readying
import PatchSandbox.Proofs.Message.Wire
import PatchSandbox.Proofs.Admission.Parentheses
import PatchSandbox.Proofs.Nesting.Course
import PatchSandbox.Proofs.Admission.Limits
import PatchSandbox.Proofs.Nesting.Items
import PatchSandbox.Proofs.Session.Delivery
import PatchSandbox.Proofs.Nesting.Exact
import PatchSandbox.Proofs.Text.ByteOrder
import PatchSandbox.Proofs.Module.NormalForm
import PatchSandbox.Proofs.Module.Collapse
import PatchSandbox.Proofs.Op.Grammar
import PatchSandbox.Proofs.Session.Decision
import PatchSandbox.Proofs.Text.Location
import PatchSandbox.Proofs.Admission.Order
import PatchSandbox.Proofs.Admission.Bullets
import PatchSandbox.Proofs.Evaluation.Bridge
import PatchSandbox.Proofs.Evaluation.Shorthand
import PatchSandbox.Proofs.Config.Save
import PatchSandbox.Proofs.Config.RoundTrip
import PatchSandbox.Proofs.Nesting.Stack
import PatchSandbox.Proofs.Evaluation.Handles
import PatchSandbox.Proofs.Session.Refusal
import PatchSandbox.Proofs.CommandLine.Agreement
