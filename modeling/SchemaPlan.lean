import SchemaPlan.Doc.Block
import SchemaPlan.Document.Write
import SchemaPlan.Given.Column
import SchemaPlan.Given.Seed
import SchemaPlan.Main
import SchemaPlan.Session
import SchemaPlan.Proofs.Migration.ColumnOrder
import SchemaPlan.Proofs.Migration.ForeignKeys
import SchemaPlan.Proofs.Migration.Indexes
import SchemaPlan.Proofs.Migration.MappedTables
import SchemaPlan.Proofs.Migration.Numbering
import SchemaPlan.Proofs.Column.DefaultText
import SchemaPlan.Proofs.Migration.ColumnState
import SchemaPlan.Proofs.Number.Numerals
import SchemaPlan.Proofs.Text.Base64
import SchemaPlan.Proofs.Column.Normal
import SchemaPlan.Proofs.Column.Rebuilt
import SchemaPlan.Proofs.Document.Fields
import SchemaPlan.Proofs.Document.Reread
import SchemaPlan.Proofs.Document.Accepted
import SchemaPlan.Proofs.Document.RoundTrip
import SchemaPlan.Proofs.Merge.Head
import SchemaPlan.Proofs.Merge.Groups
import SchemaPlan.Proofs.Seeding.Agreement
import SchemaPlan.Proofs.Sql.Reading
import SchemaPlan.Proofs.Migration.KeyOrder
import SchemaPlan.Proofs.Migration.TableOrder
import SchemaPlan.Proofs.Migration.Additions
import SchemaPlan.Proofs.Migration.DropsOnce
import SchemaPlan.Proofs.Migration.BuiltIndexes
import SchemaPlan.Proofs.Migration.StaleFirst
import SchemaPlan.Proofs.Migration.Success
import SchemaPlan.Proofs.Schema.Restriction
import SchemaPlan.Proofs.Statement.Restriction
import SchemaPlan.Proofs.Migration.Kinds
import SchemaPlan.Proofs.Session.Check
import SchemaPlan.Proofs.DatabaseMap.Resolution
import SchemaPlan.Proofs.DatabaseMap.Targets
import SchemaPlan.Proofs.Schema.Lookups
import SchemaPlan.Proofs.Session.KeyedRows
import SchemaPlan.Proofs.Merge.Fewest
import SchemaPlan.Proofs.Sql.Numeral
import SchemaPlan.Proofs.Column.DefaultReading
import SchemaPlan.Proofs.Document.Verdict
import SchemaPlan.Proofs.Session.Rejections
import SchemaPlan.Proofs.Seeding.Updates
import SchemaPlan.Proofs.Seeding.Keys
import SchemaPlan.Proofs.Schema.Obstacles
import SchemaPlan.Proofs.Migration.ViewChanges
import SchemaPlan.Proofs.Number.Texts
import SchemaPlan.Proofs.Column.OneLine
import SchemaPlan.Proofs.Statement.Terms
import SchemaPlan.Proofs.Migration.Terms
import SchemaPlan.Proofs.Statement.OneLine
import SchemaPlan.Proofs.Script
import SchemaPlan.Proofs.Document.Pending
import SchemaPlan.Proofs.Document.Stages
