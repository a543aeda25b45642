import TableDdl.Unicode.Ranges
import TableDdl.Unicode.Printable
import TableDdl.Unicode.Word
import TableDdl.Unicode.Case
import TableDdl.Unicode.Blank
import TableDdl.Dialect
import TableDdl.Action
import TableDdl.Decimal.Shortest
import TableDdl.Decimal.Notation
import TableDdl.Value
import TableDdl.Value.Display
import TableDdl.Identifier
import TableDdl.Literal
import TableDdl.ConstraintSet
import TableDdl.Column.Type
import TableDdl.Column.Error
import TableDdl.Column
import TableDdl.Column.Call
import TableDdl.Table.Error
import TableDdl.Table.Declaration
import TableDdl.Table.Statement
import TableDdl.Table.Scan
import TableDdl.Dialect.Name
import TableDdl.Log.Record
import TableDdl.Log.Context
import TableDdl.Column.Edit
import TableDdl.Executor
import TableDdl.Generator
import TableDdl.Generator.Session
import TableDdl.Unicode.Utf8
import TableDdl.Settings
import TableDdl.Settings.Source
import TableDdl.Settings.EnvFile
import TableDdl.Settings.Cache
import TableDdl.Settings.CommandLine
import TableDdl.Settings.CommandLine.Folding
import TableDdl.Settings.CommandLine.Spelling
import TableDdl.Settings.Input
import TableDdl.Unicode.Identifier
import TableDdl.Settings.Input.CommandLine
import TableDdl.Settings.Input.Sources
import TableDdl.Unicode.Charset
import TableDdl.Unicode.CharTable
import TableDdl.Unicode.Halves
import TableDdl.Unicode.Decoder
import TableDdl.Unicode.MultiByte
import TableDdl.Unicode.MultiByte.Chinese
import TableDdl.Unicode.MultiByte.Korean
import TableDdl.Unicode.MultiByte.Japanese
import TableDdl.Unicode.Switched
import TableDdl.Unicode.Utf7
import TableDdl.Unicode.NameTable
import TableDdl.Unicode.Table.NamesBasic
import TableDdl.Unicode.Table.NamesScripts
import TableDdl.Unicode.Table.NamesSymbols
import TableDdl.Unicode.Table.NamesEastern
import TableDdl.Unicode.Table.NamesAncient
import TableDdl.Unicode.Table.NamesPictures
import TableDdl.Unicode.Name
import TableDdl.Unicode.Escaped
import TableDdl.Unicode.Composition
import TableDdl.Unicode.Punycode
import TableDdl.Unicode.DomainName
import TableDdl.Unicode.Table.SimplifiedChinese
import TableDdl.Unicode.Table.TraditionalChinese
import TableDdl.Unicode.Table.Korean
import TableDdl.Unicode.Table.Japanese
import TableDdl.Unicode.Encoding
import TableDdl.Database.Percent
import TableDdl.Database.Url
import TableDdl.Database.Engine
import TableDdl.Database
import TableDdl.Log.Renderer
import TableDdl.Log.Setup
import TableDdl.Numeral
import TableDdl.Database.Driver
import TableDdl.Database.HostList
import TableDdl.Proofs.Table.Defect
import TableDdl.Proofs.Table.Failure
import TableDdl.Proofs.Table.Layout
import TableDdl.Proofs.Column.Sketch
import TableDdl.Proofs.Column.Canonical
import TableDdl.Proofs.Table.Name
import TableDdl.Proofs.Table.Portable
import TableDdl.Proofs.Literal.Number
import TableDdl.Proofs.Table.Containment
import TableDdl.Proofs.Table.UserText
import TableDdl.Proofs.Generator.Creation
import TableDdl.Proofs.Table.Clash
import TableDdl.Proofs.Log.Scope
import TableDdl.Proofs.Generator.Transaction
import TableDdl.Proofs.Generator.Naming
import TableDdl.Proofs.Literal.Escape
import TableDdl.Proofs.Column.Overwritten
import TableDdl.Proofs.Table.Leftover
import TableDdl.Proofs.Column.TypeText
import TableDdl.Proofs.Column.Reachable
import TableDdl.Proofs.Table.Increment
import TableDdl.Proofs.Generator.Family
import TableDdl.Proofs.Generator.Lineage
import TableDdl.Proofs.Result
import TableDdl.Proofs.Database.Scheme
import TableDdl.Proofs.Database.Lifecycle
import TableDdl.Proofs.Generator.Committed
import TableDdl.Proofs.Table.OneTable
import TableDdl.Proofs.Log.Recorded
import TableDdl.Proofs.Literal.ValueList
import TableDdl.Proofs.Database.Password
import TableDdl.Proofs.Database.Usable
import TableDdl.Proofs.Generator.Precedence
import TableDdl.Proofs.Decimal.Written
import TableDdl.Proofs.Identifier
import TableDdl.Proofs.Literal.Numeric
import TableDdl.Proofs.Literal.Default
import TableDdl.Proofs.Column.Atomic
import TableDdl.Proofs.Settings.Supplied
import TableDdl.Proofs.Settings.FieldByField
import TableDdl.Log.Logger
import TableDdl.Proofs.ConstraintSet
import TableDdl.Proofs.Settings.Cached
import TableDdl.Proofs.Generator.PrimaryKey
import TableDdl.Proofs.Log.LoggerName
