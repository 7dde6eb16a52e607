import SqlBindings.Client.Access
import SqlBindings.Main
import SqlBindings.Sql.ParameterDefaults
import SqlBindings.Proofs.Result
import SqlBindings.Proofs.LowerCase
import SqlBindings.Proofs.Run
import SqlBindings.Proofs.Grouping
import SqlBindings.Proofs.Introspection
import SqlBindings.Proofs.Attributes
import SqlBindings.Proofs.Construction
import SqlBindings.Proofs.Completeness
import SqlBindings.Proofs.Rendering
import SqlBindings.Proofs.EnumerationOrder
import SqlBindings.Proofs.GeneratedNames
import SqlBindings.Proofs.Shadowing
import SqlBindings.Proofs.Exchange
import SqlBindings.Proofs.Disconnection
import SqlBindings.Proofs.DescribeMode
import SqlBindings.Proofs.Markup
import SqlBindings.Proofs.Aliases
import SqlBindings.Proofs.ForeignSchemas
import SqlBindings.Proofs.PackageFiles
import SqlBindings.Proofs.DanglingReferences
import SqlBindings.Proofs.StringLiterals
import SqlBindings.Proofs.LineStarts
import SqlBindings.Proofs.Rehearsal
import SqlBindings.Proofs.CatalogNames
import SqlBindings.Proofs.ModuleNames
import SqlBindings.Proofs.SchemaNames
import SqlBindings.Proofs.Patterns
import SqlBindings.Proofs.Declarations
import SqlBindings.Proofs.DeclaredTypes
import SqlBindings.Proofs.DefaultLiterals
import SqlBindings.Proofs.DeclaredDefaults
import SqlBindings.Proofs.DeclarationSearch
import SqlBindings.Proofs.Verdicts
import SqlBindings.Proofs.Nullability
import SqlBindings.Proofs.Delivery
import SqlBindings.Proofs.AbortCauses
import SqlBindings.Proofs.QueryText
import SqlBindings.Proofs.EmbeddedTexts
import SqlBindings.Proofs.Connectedness
import SqlBindings.Proofs.Transactions
import SqlBindings.Proofs.ConnectionRelease
import SqlBindings.Proofs.Totality
import SqlBindings.Proofs.RepeatedColumns
import SqlBindings.Proofs.PackageLayout
import SqlBindings.Proofs.WrittenRecords
import SqlBindings.Proofs.CursorSessions
import SqlBindings.Proofs.ServerOverride
import SqlBindings.Proofs.Partition
import SqlBindings.Proofs.DisplacedColumns
import SqlBindings.Proofs.ParameterLists
import SqlBindings.Proofs.ReportedFailures
import SqlBindings.Proofs.Indentation
import SqlBindings.Proofs.KeptSettings
import SqlBindings.Proofs.QualifiedNames
import SqlBindings.Proofs.NameCollisions
import SqlBindings.Proofs.Outline
import SqlBindings.Proofs.SettingsSources
import SqlBindings.Proofs.ConnectionTargets
import SqlBindings.Proofs.ParameterNames
import SqlBindings.Proofs.ColumnListings
