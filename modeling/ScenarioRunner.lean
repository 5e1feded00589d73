import ScenarioRunner.Assoc
import ScenarioRunner.Text.Basic
import ScenarioRunner.Text.Digit
import ScenarioRunner.Text.LetterCase
import ScenarioRunner.Text.Quoted
import ScenarioRunner.Text.Shell
import ScenarioRunner.Text.Word
import ScenarioRunner.Json.Reader
import ScenarioRunner.Json.Writer
import ScenarioRunner.Json.Fields
import ScenarioRunner.Yaml.Document
import ScenarioRunner.Regex.Matcher
import ScenarioRunner.Regex.Reader
import ScenarioRunner.Slot
import ScenarioRunner.Placeholder
import ScenarioRunner.Template
import ScenarioRunner.Url
import ScenarioRunner.File.Path
import ScenarioRunner.File.Tree
import ScenarioRunner.Timestamp
import ScenarioRunner.Scenario
import ScenarioRunner.Scenario.File
import ScenarioRunner.Descriptor
import ScenarioRunner.Fault
import ScenarioRunner.Rule.Registry
import ScenarioRunner.Rule.Builtin
import ScenarioRunner.Rule.Document
import ScenarioRunner.Config
import ScenarioRunner.Interpretation
import ScenarioRunner.World
import ScenarioRunner.Page.Action
import ScenarioRunner.Decision.Reply
import ScenarioRunner.Decision.Instruction
import ScenarioRunner.Page.Session
import ScenarioRunner.Session
import ScenarioRunner.Record
import ScenarioRunner.Dispatch
import ScenarioRunner.Runner
import ScenarioRunner.Debugger
import ScenarioRunner.Report
import ScenarioRunner.Suite
import ScenarioRunner.Suite.Debugging
import ScenarioRunner.CommandLine
import ScenarioRunner.Main
import ScenarioRunner.Proofs.Text.Blank
import ScenarioRunner.Proofs.Text.Lines
import ScenarioRunner.Proofs.Url
import ScenarioRunner.Proofs.Slot
import ScenarioRunner.Proofs.Script.Words
import ScenarioRunner.Proofs.Script.Template
import ScenarioRunner.Proofs.Script.Filling
import ScenarioRunner.Proofs.Except
import ScenarioRunner.Proofs.Assoc
import ScenarioRunner.Proofs.Rule.Order
import ScenarioRunner.Proofs.Dispatch
import ScenarioRunner.Proofs.Runner
import ScenarioRunner.Proofs.History
import ScenarioRunner.Proofs.Suite
import ScenarioRunner.Proofs.Course
import ScenarioRunner.Proofs.Debugger.Invariant
import ScenarioRunner.Proofs.Debugger.Refusal
import ScenarioRunner.Proofs.Debugger.Agreement
import ScenarioRunner.Proofs.Rule.Extension
import ScenarioRunner.Proofs.Regex.Alternatives
import ScenarioRunner.Proofs.Scenario.Writing
import ScenarioRunner.Proofs.Regex.Matching
import ScenarioRunner.Proofs.Regex.Repetition
import ScenarioRunner.Proofs.Rule.Anchoring
import ScenarioRunner.Proofs.Rule.Builtin
import ScenarioRunner.Proofs.Rule.Document
import ScenarioRunner.Proofs.Rule.Checks
import ScenarioRunner.Proofs.Script.Assertion
import ScenarioRunner.Proofs.Placeholder
import ScenarioRunner.Proofs.Context
import ScenarioRunner.Proofs.Variables
import ScenarioRunner.Proofs.Json
import ScenarioRunner.Proofs.Exchange
import ScenarioRunner.Proofs.Provider.Step
import ScenarioRunner.Proofs.Provider.Invariant
import ScenarioRunner.Proofs.Provider.Release
import ScenarioRunner.Proofs.Page.Asking
import ScenarioRunner.Proofs.Page.Action
import ScenarioRunner.Proofs.Page.Decision
import ScenarioRunner.Proofs.Page.Course
import ScenarioRunner.Proofs.Page.Contract
import ScenarioRunner.Proofs.Script.Grammar
import ScenarioRunner.Proofs.Scenario.Sections
import ScenarioRunner.Proofs.Scenario.Joining
import ScenarioRunner.Proofs.Calls
import ScenarioRunner.Proofs.Trace
import ScenarioRunner.Proofs.Page.Deciding
import ScenarioRunner.Proofs.Page.Attempts
import ScenarioRunner.Proofs.Page.Task
import ScenarioRunner.Proofs.Page.Catalogue
import ScenarioRunner.Proofs.Page.Round
import ScenarioRunner.Proofs.File.Tree
import ScenarioRunner.Proofs.Suite.Closing
import ScenarioRunner.Proofs.Suite.Debugging
import ScenarioRunner.Proofs.Script.Course
import ScenarioRunner.Proofs.Json.Spelling
import ScenarioRunner.Proofs.Json.Atom
import ScenarioRunner.Proofs.Json.Reading
import ScenarioRunner.Proofs.Json.Outcome
import ScenarioRunner.Proofs.Json.Document
import ScenarioRunner.Proofs.Json.Writing
import ScenarioRunner.Proofs.Config
import ScenarioRunner.Proofs.Decision.Unwrapping
import ScenarioRunner.Proofs.Decision.Relaxing
import ScenarioRunner.Proofs.Decision.Prose
import ScenarioRunner.Proofs.Decision.Reading
import ScenarioRunner.Proofs.Navigation
import ScenarioRunner.Proofs.Extraction
import ScenarioRunner.Proofs.Extraction.Files
import ScenarioRunner.Proofs.Interpretation
import ScenarioRunner.Proofs.Numeral.Binary64
import ScenarioRunner.Proofs.Script.Failure
