import ExecUml.CommandLine.Options
import ExecUml.CommandLine.Run
import ExecUml.CommandLine.Summary
import ExecUml.Compile
import ExecUml.Decimal.Basic
import ExecUml.Decimal.Shortest
import ExecUml.Declaration
import ExecUml.Document.Bracket
import ExecUml.Document.Fault
import ExecUml.Document.Leaf
import ExecUml.Document.Schema
import ExecUml.Document.Value
import ExecUml.Error
import ExecUml.Host
import ExecUml.Main
import ExecUml.Method.Body
import ExecUml.Method.Message
import ExecUml.Method.Plan
import ExecUml.Model.Basic
import ExecUml.Model.ClassIndex
import ExecUml.Model.Finding
import ExecUml.Model.Load
import ExecUml.Model.OfContent
import ExecUml.Model.Schema
import ExecUml.Note
import ExecUml.Output.Header
import ExecUml.Output.Module
import ExecUml.Proofs.Execution
import ExecUml.Proofs.Findings
import ExecUml.Proofs.FirstDeclaration
import ExecUml.Proofs.MethodEffects
import ExecUml.Script.Literal
import ExecUml.Script.Name
import ExecUml.Script.Printer
import ExecUml.Script.Syntax
import ExecUml.Store.FileStore
import ExecUml.Store.Path
import ExecUml.Text.Blank
import ExecUml.Text.Case
import ExecUml.Text.CaseTable
import ExecUml.Text.CharClass
import ExecUml.Text.Joining
import ExecUml.Text.Occurrence
import ExecUml.Text.Quoted
import ExecUml.Text.TerminalCode
import ExecUml.Text.VisibleTable
import ExecUml.Text.Width
import ExecUml.Text.WidthTable
import ExecUml.Proofs.MethodPlan
import ExecUml.Proofs.MachineRuns
import ExecUml.Proofs.DeclaredStates
import ExecUml.Proofs.ModuleGraph
import ExecUml.Proofs.ParentConstructors
import ExecUml.Proofs.Respelling
import ExecUml.Proofs.StoreWrites
import ExecUml.Proofs.WellFormedModels
import ExecUml.Proofs.OutputPaths
import ExecUml.Proofs.LastWrites
import ExecUml.Proofs.DistinctPaths
import ExecUml.Proofs.EmittedCode
import ExecUml.Proofs.SelfDelimiting
import ExecUml.Proofs.UniqueReading
import ExecUml.Proofs.AddedClass
import ExecUml.Proofs.EmitModes
import ExecUml.Proofs.FailedWrites
import ExecUml.Proofs.RefusedRuns
import ExecUml.Proofs.SpelledNames
import ExecUml.Proofs.MemberNames
import ExecUml.Proofs.LeafReading
import ExecUml.Proofs.NumberReading
import ExecUml.Proofs.ScalarReading
import ExecUml.Proofs.DocumentTrees
import ExecUml.Proofs.TreeContent
import ExecUml.Proofs.AcceptedTexts
import ExecUml.Proofs.UnseenChanges
import ExecUml.Proofs.IgnoredMembers
import ExecUml.Proofs.CallActions
import ExecUml.Proofs.TriedSources
import ExecUml.Proofs.ConstructedObjects
import ExecUml.Proofs.MessagePlaceholders
import ExecUml.Proofs.ScriptLexis
import ExecUml.Proofs.CommentedText
import ExecUml.Proofs.QuotedLiterals
import ExecUml.Proofs.TemplateTexts
import ExecUml.Proofs.ParentChains
import ExecUml.Proofs.UpdatedValues
import ExecUml.Proofs.UnescapedLiterals
import ExecUml.Proofs.SourceLines
import ExecUml.Proofs.TreeParts
import ExecUml.Proofs.TransitionBodies
import ExecUml.Proofs.LoggedMessages
import ExecUml.Proofs.IndexedNames
import ExecUml.Proofs.FirstDefects
import ExecUml.Proofs.FulfilledInterfaces
import ExecUml.Proofs.SplitMessages
