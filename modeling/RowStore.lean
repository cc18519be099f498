import RowStore.Main
import RowStore.Proofs.Clause.Empty
import RowStore.Proofs.Client.Listing
import RowStore.Proofs.Hub.Mounted
import RowStore.Proofs.Query.Counts
import RowStore.Proofs.Query.Mixing
import RowStore.Proofs.Query.RoundTrip
import RowStore.Proofs.Result
import RowStore.Proofs.Service.Atomic
import RowStore.Proofs.Service.InTurn
import RowStore.Proofs.Service.IntegerKeys
import RowStore.Proofs.Service.Overwrite
import RowStore.Proofs.Service.Pages
import RowStore.Proofs.Service.RowKeys
import RowStore.Proofs.Service.WrittenKeys
import RowStore.Proofs.Sql.Faithful
import RowStore.Proofs.Sql.Sentence
import RowStore.Proofs.Table.Sequence
import RowStore.Proofs.Text.Wildcard
