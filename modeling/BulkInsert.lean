import BulkInsert.Batch.Executor
import BulkInsert.Config.Settings
import BulkInsert.Recording.Session
import BulkInsert.Sql.Session
import BulkInsert.Proofs.Batch.Calls
import BulkInsert.Proofs.Batch.Outcome
import BulkInsert.Proofs.Batch.Placeholders
import BulkInsert.Proofs.Batch.Progress
import BulkInsert.Proofs.Batch.Refusal
import BulkInsert.Proofs.Batch.Simulation
import BulkInsert.Proofs.Recording.Custody
import BulkInsert.Proofs.Recording.Notices
import BulkInsert.Proofs.Recording.Opacity
import BulkInsert.Proofs.Recording.Silence
import BulkInsert.Proofs.Sql.Batching
import BulkInsert.Proofs.Sql.Transactions
import BulkInsert.Proofs.Statement.Captures
import BulkInsert.Proofs.Statement.Comments
import BulkInsert.Proofs.Statement.Parentheses
import BulkInsert.Proofs.Statement.Recognition
import BulkInsert.Proofs.Statement.Shape
import BulkInsert.Proofs.Statement.Stripping
import BulkInsert.Proofs.Statement.TrailingClause
import BulkInsert.Proofs.Statement.Widening
import BulkInsert.Proofs.Batch.Counts
import BulkInsert.Proofs.Statement.Composition
import BulkInsert.Proofs.Statement.Items
import BulkInsert.Proofs.Statement.OneLine
import BulkInsert.Proofs.Batch.SlotHistory
import BulkInsert.Proofs.Config.Documents
