import DiagramMigrations.Binary64
import DiagramMigrations.Calendar.Reader
import DiagramMigrations.Calendar.Timestamp
import DiagramMigrations.Column.Default
import DiagramMigrations.Column.Kind
import DiagramMigrations.Column.Size
import DiagramMigrations.Compilation
import DiagramMigrations.Console.ArgumentReader
import DiagramMigrations.Console.Arguments
import DiagramMigrations.Console.Command
import DiagramMigrations.Console.Generate
import DiagramMigrations.Console.Inspect
import DiagramMigrations.Console.Output
import DiagramMigrations.Console.Style
import DiagramMigrations.Diagram.Basic
import DiagramMigrations.Diagram.Complaint
import DiagramMigrations.Diagram.Document
import DiagramMigrations.Diagram.Element
import DiagramMigrations.Diagram.File
import DiagramMigrations.Diagram.Printer
import DiagramMigrations.Diagram.Record
import DiagramMigrations.Disk
import DiagramMigrations.EnumClass.Basic
import DiagramMigrations.EnumClass.Registry
import DiagramMigrations.Failure
import DiagramMigrations.FileTree
import DiagramMigrations.Journal.Compilation
import DiagramMigrations.Journal.Event
import DiagramMigrations.Journal.Extraction
import DiagramMigrations.Journal.Generation
import DiagramMigrations.Json.Fault
import DiagramMigrations.Json.Number
import DiagramMigrations.Json.Printer
import DiagramMigrations.Json.Token
import DiagramMigrations.Json.Tree
import DiagramMigrations.Json.Value
import DiagramMigrations.Main
import DiagramMigrations.Migration.Basic
import DiagramMigrations.Migration.Statement
import DiagramMigrations.Naming
import DiagramMigrations.Notice
import DiagramMigrations.Path
import DiagramMigrations.Php.Layout
import DiagramMigrations.Php.Literal
import DiagramMigrations.Project.Basic
import DiagramMigrations.Project.Context
import DiagramMigrations.Project.Generation
import DiagramMigrations.Project.Summary
import DiagramMigrations.Project.Writing
import DiagramMigrations.Schema.Basic
import DiagramMigrations.Schema.Extraction
import DiagramMigrations.Schema.Order
import DiagramMigrations.Schema.Report
import DiagramMigrations.Schema.Rules
import DiagramMigrations.Settings.Basic
import DiagramMigrations.Settings.File
import DiagramMigrations.Settings.Reader
import DiagramMigrations.Settings.Token
import DiagramMigrations.Text.Alphanumeric
import DiagramMigrations.Text.Ascii
import DiagramMigrations.Text.Blank
import DiagramMigrations.Text.CaseMapping
import DiagramMigrations.Text.Lines
import DiagramMigrations.Text.Lowercase
import DiagramMigrations.Text.Printable
import DiagramMigrations.Text.Quoted
import DiagramMigrations.Text.Range
import DiagramMigrations.Text.Uppercase
import DiagramMigrations.Text.Words
import DiagramMigrations.Proofs.Order.Placement
import DiagramMigrations.Proofs.FirstOccurrence
import DiagramMigrations.Proofs.Order.Acyclic
import DiagramMigrations.Proofs.Order.Cycles
import DiagramMigrations.Proofs.Order.LeastOrder
import DiagramMigrations.Proofs.Order.Removal
import DiagramMigrations.Proofs.Calendar.Digits
import DiagramMigrations.Proofs.Calendar.Date
import DiagramMigrations.Proofs.Calendar.Token
import DiagramMigrations.Proofs.Calendar.Reader
import DiagramMigrations.Proofs.Project.Context
import DiagramMigrations.Proofs.Schema.Extraction
import DiagramMigrations.Proofs.Project.Generation
import DiagramMigrations.Proofs.Project.MigrationFiles
import DiagramMigrations.Proofs.Settings.Reader
import DiagramMigrations.Proofs.Php.Layout
import DiagramMigrations.Proofs.Migration.Lines
import DiagramMigrations.Proofs.Migration.Creation
import DiagramMigrations.Proofs.Migration.UseLines
import DiagramMigrations.Proofs.Project.ForeignKeys
import DiagramMigrations.Proofs.Schema.Report
import DiagramMigrations.Proofs.Schema.Rules
import DiagramMigrations.Proofs.Project.Outcome
import DiagramMigrations.Proofs.Lists
import DiagramMigrations.Proofs.Schema.Selection
import DiagramMigrations.Proofs.Compilation
import DiagramMigrations.Proofs.Json.Value
import DiagramMigrations.Proofs.Json.Number
import DiagramMigrations.Proofs.Json.Token
import DiagramMigrations.Proofs.Json.Tree
import DiagramMigrations.Proofs.Diagram.Types
import DiagramMigrations.Proofs.Diagram.Element
import DiagramMigrations.Proofs.Diagram.Document
import DiagramMigrations.Proofs.Diagram.Reading
import DiagramMigrations.Proofs.Diagram.Saving
import DiagramMigrations.Proofs.Schema.Arrangement
import DiagramMigrations.Proofs.Schema.Warnings
import DiagramMigrations.Proofs.Migration.Columns
import DiagramMigrations.Proofs.Text.Blank
import DiagramMigrations.Proofs.Project.ForeignKeyColumns
import DiagramMigrations.Proofs.Console.Judgement
import DiagramMigrations.Proofs.EnumClass.Lines
import DiagramMigrations.Proofs.Migration.Mentions
import DiagramMigrations.Proofs.Project.EnumReferences
import DiagramMigrations.Proofs.FileTree.Walk
import DiagramMigrations.Proofs.Path
import DiagramMigrations.Proofs.FileTree.Writing
import DiagramMigrations.Proofs.Naming.Characters
import DiagramMigrations.Proofs.Project.OutputPaths
import DiagramMigrations.Proofs.Project.Contents
import DiagramMigrations.Proofs.Naming.Collision
import DiagramMigrations.Proofs.Project.MigrationClasses
import DiagramMigrations.Proofs.Project.Imports
import DiagramMigrations.Proofs.Console.DryRun
import DiagramMigrations.Proofs.Project.OutputDirectory
import DiagramMigrations.Proofs.FileTree.Rewriting
import DiagramMigrations.Proofs.Diagram.Slots
import DiagramMigrations.Proofs.Diagram.Records
import DiagramMigrations.Proofs.Diagram.Models
import DiagramMigrations.Proofs.Diagram.Edits
import DiagramMigrations.Proofs.Diagram.Views
import DiagramMigrations.Proofs.Diagram.KnownContent
import DiagramMigrations.Proofs.Diagram.FieldValues
import DiagramMigrations.Proofs.Json.Splicing
import DiagramMigrations.Proofs.Diagram.LenientFields
import DiagramMigrations.Proofs.Json.Places
import DiagramMigrations.Proofs.Json.Occurrences
import DiagramMigrations.Proofs.Order.Links
import DiagramMigrations.Proofs.Calendar.YearText
import DiagramMigrations.Proofs.Calendar.Succession
import DiagramMigrations.Proofs.Project.MigrationTokens
import DiagramMigrations.Proofs.Migration.PrimaryKey
import DiagramMigrations.Proofs.Text.Fields
import DiagramMigrations.Proofs.Php.Literal
import DiagramMigrations.Proofs.Migration.Timestamps
import DiagramMigrations.Proofs.EnumClass.Registry
import DiagramMigrations.Proofs.EnumClass.Constants
import DiagramMigrations.Proofs.EnumClass.Defaults
import DiagramMigrations.Proofs.Migration.ColumnNames
import DiagramMigrations.Proofs.Project.EnumClasses
import DiagramMigrations.Proofs.Php.ListLiteral
import DiagramMigrations.Proofs.Php.Comment
import DiagramMigrations.Proofs.Text.Range
import DiagramMigrations.Proofs.Text.LetterCase
import DiagramMigrations.Proofs.Text.Boundaries
import DiagramMigrations.Proofs.Naming.Idempotence
import DiagramMigrations.Proofs.Naming.Canonical
import DiagramMigrations.Proofs.Schema.ForeignKeyTags
import DiagramMigrations.Proofs.Schema.Counts
import DiagramMigrations.Proofs.Schema.Additions
import DiagramMigrations.Proofs.Project.Lookups
import DiagramMigrations.Proofs.Column.Size
import DiagramMigrations.Proofs.Php.Nesting
import DiagramMigrations.Proofs.Order.Loop
