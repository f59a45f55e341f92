import Regress.Text.Utf8
import Regress.Text.Printable
import Regress.Text.Case
import Regress.Number.Binary64
import Regress.Time
import Regress.Json
import Regress.Glob
import Regress.NameFilter
import Regress.Path
import Regress.Group
import Regress.Case
import Regress.Outcome
import Regress.Failure
import Regress.FileTree
import Regress.Discovery
import Regress.Workspace
import Regress.Transcript
import Regress.Duration
import Regress.Config.Basic
import Regress.Yaml.Token
import Regress.Yaml.Scanner
import Regress.Yaml.Event
import Regress.Yaml.Resolve
import Regress.Yaml.Node
import Regress.Text.Escape
import Regress.Text.Base64
import Regress.Text.Regex
import Regress.Schema
import Regress.Config.File
import Regress.Environment
import Regress.Config.DotEnv
import Regress.Config.Load
import Regress.Yaml.Value
import Regress.Yaml.JsonForm
import Regress.Session
import Regress.Toolchain
import Regress.Runner
import Regress.Console
import Regress.Listing
import Regress.Suite
import Regress.Toolchain.Scripted
import Regress.Shell.Syntax
import Regress.Shell.Token
import Regress.Shell.Word
import Regress.Shell.Arith
import Regress.Shell.Fields
import Regress.Shell.Utility.Options
import Regress.Shell.Utility.Basic
import Regress.Shell.Utility.Text
import Regress.Shell.Utility.Grep
import Regress.Shell.Utility.Sed.Script
import Regress.Shell.Utility.Sed
import Regress.Shell.Utility.Files
import Regress.Shell.Utility.Transform
import Regress.Shell.Utility.Expr
import Regress.Number.Rounded
import Regress.Shell.Printf
import Regress.Shell.Condition
import Regress.Shell.Utility.Print
import Regress.Shell.Utility.Dump
import Regress.Shell.Launch
import Regress.Shell.Utility.Host
import Regress.Shell.Utility.Compare
import Regress.Shell.Utility.Digest
import Regress.Shell.Utility.Lines
import Regress.Shell.Signal
import Regress.Shell.System
import Regress.Shell.Program
import Regress.Shell.Parse
import Regress.Shell.Pattern
import Regress.Shell.State
import Regress.Shell.Builtins
import Regress.Shell.BashBuiltins
import Regress.Shell.Awk.Syntax
import Regress.Shell.Awk.Number
import Regress.Shell.Awk.Format
import Regress.Shell.Awk.Value
import Regress.Shell.Awk.Table
import Regress.Shell.Awk.Regexp
import Regress.Shell.Awk.Record
import Regress.Shell.Awk.Lex
import Regress.Shell.Awk.Parse
import Regress.Shell.Awk.Machine
import Regress.Shell.Awk.Run
import Regress.Shell.Awk.Command
import Regress.Shell.Eval
import Regress.Process
import Regress.Toolchain.External
import Regress.Text.Csv
import Regress.Cli.Flag
import Regress.Cli.Command
import Regress.Cli.Completion
import Regress.Cli.CompletionRequest
import Regress.Cli.App
import Regress.Main
import Regress.Proofs.Execution
import Regress.Proofs.OctetOrder
import Regress.Proofs.Workspace
import Regress.Proofs.Plan
import Regress.Proofs.Files
import Regress.Proofs.Transcripts
import Regress.Proofs.Layers
import Regress.Proofs.ArtifactDirs
import Regress.Proofs.Replanning
import Regress.Proofs.Rewrites
import Regress.Proofs.TextTools
import Regress.Proofs.Rescan
import Regress.Proofs.Rerun
import Regress.Proofs.NamePatterns
import Regress.Proofs.CaseCalls
import Regress.Proofs.FailureKinds
import Regress.Proofs.ExitStatus
import Regress.Proofs.Recording
import Regress.Proofs.GroupKeys
import Regress.Proofs.Setup
import Regress.Proofs.Decoding
import Regress.Proofs.Scan
import Regress.Proofs.CommaLists
import Regress.Proofs.Validation
import Regress.Proofs.CaseTree
