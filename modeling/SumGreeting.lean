import SumGreeting.CommandLine.Argument
import SumGreeting.CommandLine.Invocation
import SumGreeting.CommandLine.Operand
import SumGreeting.CommandLine.OptionName
import SumGreeting.CommandLine.Progress
import SumGreeting.CommandLine.Similarity
import SumGreeting.CommandLine.Stop
import SumGreeting.CommandLine.UsageError
import SumGreeting.Diagnostics
import SumGreeting.Failure
import SumGreeting.Greeting
import SumGreeting.Log.Directive
import SumGreeting.Log.Directive.Field
import SumGreeting.Log.Directive.Text
import SumGreeting.Log.Event
import SumGreeting.Log.Filter
import SumGreeting.Log.Level
import SumGreeting.Main
import SumGreeting.Name
import SumGreeting.OsText
import SumGreeting.Output.Fault
import SumGreeting.Output.Sink
import SumGreeting.Output.Sink.Writing
import SumGreeting.Program
import SumGreeting.Proofs.CommandLine.Acceptance
import SumGreeting.Proofs.CommandLine.Examination
import SumGreeting.Proofs.CommandLine.Finality
import SumGreeting.Proofs.CommandLine.Form
import SumGreeting.Proofs.CommandLine.Grammar
import SumGreeting.Proofs.CommandLine.Numeral
import SumGreeting.Proofs.CommandLine.Quotation
import SumGreeting.Proofs.CommandLine.Reading
import SumGreeting.Proofs.CommandLine.Verbosity
import SumGreeting.Proofs.Delivery
import SumGreeting.Proofs.Description
import SumGreeting.Proofs.ErrorStream
import SumGreeting.Proofs.ErrorStream.Contents
import SumGreeting.Proofs.ErrorStream.Unusable
import SumGreeting.Proofs.Fields
import SumGreeting.Proofs.Filter.AllOrNothing
import SumGreeting.Proofs.Filter.Answers
import SumGreeting.Proofs.Filter.Ceiling
import SumGreeting.Proofs.Filter.Entry
import SumGreeting.Proofs.Filter.LongestTarget
import SumGreeting.Proofs.Filter.MaxThreshold
import SumGreeting.Proofs.Filter.Parts
import SumGreeting.Proofs.Filter.Spelling
import SumGreeting.Proofs.Installation
import SumGreeting.Proofs.Json.Grammar
import SumGreeting.Proofs.Json.Stream
import SumGreeting.Proofs.Json.Unambiguous
import SumGreeting.Proofs.Json.Writing
import SumGreeting.Proofs.Lines
import SumGreeting.Proofs.Message
import SumGreeting.Proofs.Noninterference
import SumGreeting.Proofs.Outcome
import SumGreeting.Proofs.Precedence
import SumGreeting.Proofs.QuietSwitch
import SumGreeting.Proofs.Rejection
import SumGreeting.Proofs.Strictness
import SumGreeting.Proofs.Trace
import SumGreeting.Proofs.Trace.Records
import SumGreeting.Proofs.TwoLines
import SumGreeting.Report
import SumGreeting.Run
import SumGreeting.Session
import SumGreeting.Settings
import SumGreeting.Sum
import SumGreeting.Text.ControlSequence
import SumGreeting.Text.Cut
import SumGreeting.Text.Json
import SumGreeting.Text.OneLine
import SumGreeting.Text.Quoted
import SumGreeting.Text.Utf8
import SumGreeting.Unicode.Alphanumeric
import SumGreeting.Unicode.CodeRange
import SumGreeting.Unicode.GraphemeExtend
import SumGreeting.Unicode.Unprintable
import SumGreeting.Unicode.WhiteSpace
