import CrudPlan.Batch
import CrudPlan.Command.Invocation
import CrudPlan.Command.Options
import CrudPlan.Command.Run
import CrudPlan.Command.Transcript
import CrudPlan.Descriptor.Basic
import CrudPlan.Descriptor.Document
import CrudPlan.Descriptor.Flags
import CrudPlan.Descriptor.Marking
import CrudPlan.Descriptor.Parts
import CrudPlan.Descriptor.Verb
import CrudPlan.Document.Fault
import CrudPlan.Document.Reader
import CrudPlan.Hook.Basic
import CrudPlan.Hook.Registry
import CrudPlan.Issue
import CrudPlan.Json.Basic
import CrudPlan.Json.Parser
import CrudPlan.Json.Printer
import CrudPlan.Log
import CrudPlan.Main
import CrudPlan.Names
import CrudPlan.Number.Double
import CrudPlan.Number.Numeral
import CrudPlan.Number.Rounding
import CrudPlan.Plan.Basic
import CrudPlan.Plan.CollectionKey
import CrudPlan.Plan.Identity
import CrudPlan.Plan.Lock
import CrudPlan.Plan.Policy
import CrudPlan.Plan.StateUpgrades
import CrudPlan.Plan.Trace
import CrudPlan.Plan.Urls
import CrudPlan.Plan.WrittenOut
import CrudPlan.Problem
import CrudPlan.Product.Basic
import CrudPlan.Product.EnvFile
import CrudPlan.Product.Load
import CrudPlan.Product.Path
import CrudPlan.Product.Resolve
import CrudPlan.Product.Settings
import CrudPlan.Product.VariableLookup
import CrudPlan.Product.Workspace
import CrudPlan.Proofs.Template.Grammar
import CrudPlan.Proofs.Template.Pieces
import CrudPlan.Report.Block
import CrudPlan.Report.Cell
import CrudPlan.Report.Literal
import CrudPlan.Report.Markup
import CrudPlan.Report.StyleDefinition
import CrudPlan.Report.StyledText
import CrudPlan.Report.Table
import CrudPlan.Report.Value
import CrudPlan.Sha256
import CrudPlan.Template.Basic
import CrudPlan.Template.Document
import CrudPlan.Template.ImportFormat
import CrudPlan.Template.Tokens
import CrudPlan.Text.Ansi
import CrudPlan.Text.Blank
import CrudPlan.Text.CellWidth
import CrudPlan.Text.Emoji
import CrudPlan.Text.LetterCase
import CrudPlan.Text.Printable
import CrudPlan.Text.Quoted
import CrudPlan.Text.Split
import CrudPlan.Text.WordCharacter
import CrudPlan.Proofs.Template.Matching
import CrudPlan.Proofs.Template.Inversion
import CrudPlan.Proofs.Plan.Resolution
import CrudPlan.Proofs.Plan.WrittenOut
import CrudPlan.Proofs.Descriptor.Document
import CrudPlan.Proofs.Plan.Acceptance
import CrudPlan.Proofs.Plan.Consistency
import CrudPlan.Proofs.Batch.Distribution
import CrudPlan.Proofs.Plan.Writable
import CrudPlan.Proofs.Product.ByName
import CrudPlan.Proofs.Plan.Issues
import CrudPlan.Proofs.Template.Uses
import CrudPlan.Proofs.Plan.TemplateIssues
import CrudPlan.Proofs.Hook.Growth
import CrudPlan.Proofs.Plan.Hooks
import CrudPlan.Proofs.Batch.Strictness
import CrudPlan.Proofs.Descriptor.ReadBack
import CrudPlan.Proofs.Json.Atoms
import CrudPlan.Proofs.Json.Reading
import CrudPlan.Proofs.Json.Canonical
import CrudPlan.Proofs.Plan.Digest
import CrudPlan.Proofs.Hook.Sessions
import CrudPlan.Proofs.Product.Answers
import CrudPlan.Proofs.Product.Absence
import CrudPlan.Proofs.Product.Priority
import CrudPlan.Proofs.Template.PatternReading
import CrudPlan.Proofs.Plan.DefaultIdentity
import CrudPlan.Proofs.Text.Ansi
import CrudPlan.Proofs.Command.Running
import CrudPlan.Proofs.Command.Success
import CrudPlan.Proofs.Command.MatchReport
import CrudPlan.Proofs.Plan.DeclaredNames
import CrudPlan.Proofs.Plan.HookUses
import CrudPlan.Proofs.Plan.Activity
import CrudPlan.Proofs.Plan.UpgradeSteps
import CrudPlan.Proofs.Report.Decoration
import CrudPlan.Proofs.Plan.CollectionKey
