import RowMapper.Backend.Scripted
import RowMapper.Declaration
import RowMapper.Record.ConversionRule
import RowMapper.Session.Run
import RowMapper.Store.Engine
import RowMapper.Proofs.Record.Lens
import RowMapper.Proofs.Script.Steps
import RowMapper.Proofs.Record.Binding
import RowMapper.Proofs.Table.Flatten
import RowMapper.Proofs.Table.Mapping
import RowMapper.Proofs.Crud.Conflict
import RowMapper.Proofs.Crud.Preparation
import RowMapper.Proofs.Crud.Insert
import RowMapper.Proofs.Crud.Refusal
import RowMapper.Proofs.Crud.Version
import RowMapper.Proofs.Crud.Untouched
import RowMapper.Proofs.Crud.Get
import RowMapper.Proofs.Mapper
import RowMapper.Proofs.Script.Sends
import RowMapper.Proofs.Concurrency.World
import RowMapper.Proofs.Crud.Records
import RowMapper.Proofs.Concurrency.Copy
import RowMapper.Proofs.Concurrency.Answer
import RowMapper.Proofs.Concurrency.LostUpdate
import RowMapper.Proofs.Concurrency.SingleRow
import RowMapper.Proofs.Table.Merge
import RowMapper.Proofs.Registry
import RowMapper.Proofs.Script.Planned
import RowMapper.Proofs.History
import RowMapper.Proofs.Session
import RowMapper.Proofs.Crud.CurrentPlans
import RowMapper.Proofs.Sql.Scan
import RowMapper.Proofs.Sql.Statement
import RowMapper.Proofs.Sql.Layout
import RowMapper.Proofs.Sql.Names
import RowMapper.Proofs.Crud.Arguments
import RowMapper.Proofs.Table.Named
import RowMapper.Proofs.Crud.LockedWrite
import RowMapper.Proofs.Crud.Conversion
import RowMapper.Proofs.Field.RoundTrip
import RowMapper.Proofs.Sql.Listing
import RowMapper.Proofs.Crud.Stored
import RowMapper.Proofs.Crud.Reload
import RowMapper.Proofs.Crud.Rows
import RowMapper.Proofs.Script.Dialogue
import RowMapper.Proofs.Crud.Stages
import RowMapper.Proofs.Crud.Batch
import RowMapper.Proofs.Crud.StaleWrite
import RowMapper.Proofs.Requests
import RowMapper.Proofs.Transaction
import RowMapper.Proofs.Startup
import RowMapper.Proofs.Script.Served
import RowMapper.Proofs.Program
import RowMapper.Proofs.Engine
import RowMapper.Proofs.Json.Number
import RowMapper.Proofs.Json.Scan
import RowMapper.Proofs.Json.Read
import RowMapper.Proofs.Field.Storage
import RowMapper.Proofs.Record.Paths
import RowMapper.Proofs.Table.Configuration
import RowMapper.Proofs.Table.Addressing
import RowMapper.Proofs.Table.References
import RowMapper.Proofs.Registration
import RowMapper.Proofs.Number.Spelled
import RowMapper.Proofs.Field.Integers
import RowMapper.Proofs.Crud.FullVersion
import RowMapper.Proofs.Crud.Select
import RowMapper.Proofs.Field.Decimal
import RowMapper.Proofs.Sql.Definition
import RowMapper.Proofs.Table.PrimaryKey
import RowMapper.Proofs.Creation
import RowMapper.Proofs.Crud.Labels
import RowMapper.Proofs.Sql.Quoting
import RowMapper.Proofs.Crud.FilteredUpdate
import RowMapper.Proofs.Crud.NothingToSet
import RowMapper.Proofs.Crud.WrittenFields
import RowMapper.Proofs.Text.OneLine
import RowMapper.Proofs.Trace
import RowMapper.Proofs.Declaration
