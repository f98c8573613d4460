import DataLayer.Main
import DataLayer.Proofs.Code.Layout
import DataLayer.Proofs.Default.Arithmetic
import DataLayer.Proofs.Default.Layers
import DataLayer.Proofs.Default.MemberTypes
import DataLayer.Proofs.Default.NumericDefaults
import DataLayer.Proofs.Default.Parentheses
import DataLayer.Proofs.Default.TextLiterals
import DataLayer.Proofs.Entity.Declaration
import DataLayer.Proofs.Entity.MemberNames
import DataLayer.Proofs.Files.Contents
import DataLayer.Proofs.Generation.ClassNames
import DataLayer.Proofs.Generation.DeclaredNames
import DataLayer.Proofs.Generation.EntityListings
import DataLayer.Proofs.Generation.Registrations
import DataLayer.Proofs.Generation.Sections
import DataLayer.Proofs.Generation.UnmappedColumns
import DataLayer.Proofs.Identifier.Acceptance
import DataLayer.Proofs.Identifier.Cleanup
import DataLayer.Proofs.Identifier.Pascal
import DataLayer.Proofs.Identifier.Pieces
import DataLayer.Proofs.Identifier.Underscore
import DataLayer.Proofs.Introspection.Agreement
import DataLayer.Proofs.Introspection.BestEffort
import DataLayer.Proofs.Introspection.Conversation
import DataLayer.Proofs.Introspection.Correspondence
import DataLayer.Proofs.Introspection.Interruption
import DataLayer.Proofs.Introspection.Recording
import DataLayer.Proofs.Introspection.SampleBrackets
import DataLayer.Proofs.Introspection.SampleInfluence
import DataLayer.Proofs.Introspection.Tour
import DataLayer.Proofs.Introspection.Transcript
import DataLayer.Proofs.Introspection.Visit
import DataLayer.Proofs.Keyed
import DataLayer.Proofs.Literal.Characters
import DataLayer.Proofs.Literal.EscapedQuotes
import DataLayer.Proofs.Literal.Names
import DataLayer.Proofs.Literal.Output
import DataLayer.Proofs.Literal.Reading
import DataLayer.Proofs.Naming
import DataLayer.Proofs.Outcomes
import DataLayer.Proofs.Procedure.BoundNames
import DataLayer.Proofs.Procedure.FreeNames
import DataLayer.Proofs.Procedure.Locals
import DataLayer.Proofs.Procedure.MethodNames
import DataLayer.Proofs.Procedure.ParameterNames
import DataLayer.Proofs.Procedure.Parameters
import DataLayer.Proofs.Procedure.Surfaces
import DataLayer.Proofs.Procedure.TypeSpelling
import DataLayer.Proofs.Procedure.Wrapping
import DataLayer.Proofs.Result.ClassNames
import DataLayer.Proofs.Result.MemberNames
import DataLayer.Proofs.Result.ReportedNames
import DataLayer.Proofs.Run.WrittenFiles
import DataLayer.Proofs.Settings.Names
import DataLayer.Proofs.Snapshot.Answers
import DataLayer.Proofs.Snapshot.ColumnOrder
import DataLayer.Proofs.Snapshot.Exclusion
import DataLayer.Proofs.Snapshot.History
import DataLayer.Proofs.Snapshot.Sampling
import DataLayer.Proofs.Sql.Constants
import DataLayer.Proofs.Sql.KeyConditions
import DataLayer.Proofs.Sql.ParameterNames
import DataLayer.Proofs.Sql.ReadBack
import DataLayer.Proofs.Sql.Reader
import DataLayer.Proofs.Sql.Statements
import DataLayer.Proofs.Text.Case
import DataLayer.Proofs.Text.CaseRun
import DataLayer.Proofs.Text.CaseTable
import DataLayer.Proofs.Text.Caseless
import DataLayer.Proofs.Text.Ends
import DataLayer.Proofs.Text.Letters
import DataLayer.Proofs.Text.Padding
import DataLayer.Proofs.Text.Words
