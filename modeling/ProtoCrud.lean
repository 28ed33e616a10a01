import ProtoCrud.Command.Rehearsal
import ProtoCrud.Main
import ProtoCrud.Query.Search.Wire
import ProtoCrud.Record.Identity
import ProtoCrud.Record.Operation
import ProtoCrud.Record.Script
import ProtoCrud.Sql.Codec
import ProtoCrud.Proofs.Generate.BrokenRun
import ProtoCrud.Proofs.Generate.CodecNames
import ProtoCrud.Proofs.Generate.Isolation
import ProtoCrud.Proofs.Generate.PathFailure
import ProtoCrud.Proofs.Generate.ServedOperation
import ProtoCrud.Proofs.Handler.CreatedRow
import ProtoCrud.Proofs.Query.Pruning
import ProtoCrud.Proofs.Query.SearchWire
import ProtoCrud.Proofs.Record.Ledger
import ProtoCrud.Proofs.Record.SentText
import ProtoCrud.Proofs.Schema.EnumStorage
import ProtoCrud.Proofs.Record.Exchange
import ProtoCrud.Proofs.Record.Outcome
import ProtoCrud.Proofs.Code.FieldIdentifier
import ProtoCrud.Proofs.Record.Paging
import ProtoCrud.Proofs.Schema.MessageFields
import ProtoCrud.Proofs.Sql.ColumnShape
import ProtoCrud.Proofs.Handler.RowLayout
import ProtoCrud.Proofs.Generate.FileOrder
import ProtoCrud.Proofs.Generate.OwnBindings
import ProtoCrud.Proofs.Generate.WellFormed
import ProtoCrud.Proofs.Record.Interleaving
import ProtoCrud.Proofs.Command.PluginParameter
import ProtoCrud.Proofs.Command.TargetNames
import ProtoCrud.Proofs.Handler.NamedColumns
import ProtoCrud.Proofs.Handler.RequiredFields
import ProtoCrud.Proofs.Query.LikePattern
import ProtoCrud.Proofs.Query.Vacuous
import ProtoCrud.Proofs.Record.Listing
import ProtoCrud.Proofs.Query.SearchForm
import ProtoCrud.Proofs.Schema.ListBinding
import ProtoCrud.Proofs.Handler.PlainFields
import ProtoCrud.Proofs.Handler.ResponseLiteral
import ProtoCrud.Proofs.Handler.CursorName
import ProtoCrud.Proofs.Schema.DeclaredTypes
import ProtoCrud.Proofs.Schema.HolderNames
import ProtoCrud.Proofs.Schema.Qualifier
import ProtoCrud.Proofs.Sql.ColumnReads
