import SchemaTypes.Main
import SchemaTypes.Proofs.Writing
import SchemaTypes.Proofs.Answers
import SchemaTypes.Proofs.Release
import SchemaTypes.Proofs.Firsts
import SchemaTypes.Proofs.Grouping
import SchemaTypes.Proofs.Layout
import SchemaTypes.Proofs.Declarations
import SchemaTypes.Proofs.Recovery
import SchemaTypes.Proofs.Casing
import SchemaTypes.Proofs.Relevance
import SchemaTypes.Proofs.Selecting
import SchemaTypes.Proofs.Defaults
import SchemaTypes.Proofs.Clashes
import SchemaTypes.Proofs.BareNames
import SchemaTypes.Proofs.Renaming
import SchemaTypes.Proofs.References
import SchemaTypes.Proofs.Narrowing
import SchemaTypes.Proofs.Paragraphs
import SchemaTypes.Proofs.Completion
import SchemaTypes.Proofs.Redaction
import SchemaTypes.Proofs.Passwords
import SchemaTypes.Proofs.Places
import SchemaTypes.Proofs.Running
import SchemaTypes.Proofs.Following
import SchemaTypes.Proofs.Questions
import SchemaTypes.Proofs.Schedule
import SchemaTypes.Proofs.Recasing
import SchemaTypes.Proofs.Chains
import SchemaTypes.Proofs.Wildcard
import SchemaTypes.Proofs.EnumGrouping
import SchemaTypes.Proofs.Entries
import SchemaTypes.Proofs.Allowing
import SchemaTypes.Proofs.Restating
import SchemaTypes.Proofs.Runtimes
import SchemaTypes.Proofs.LineBreaks
import SchemaTypes.Proofs.ColumnTypes
import SchemaTypes.Proofs.Shadowing
import SchemaTypes.Proofs.Histories
import SchemaTypes.Proofs.CaseChanges
