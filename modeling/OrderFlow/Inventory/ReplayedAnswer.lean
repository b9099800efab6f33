import OrderFlow.Inventory.Breakdown
import OrderFlow.Inventory.History

/-!
# The answer of a replay

A repeated keyed call is answered from the table.  The first answer lists the
lines in product order; the replay lists the rows under the default ordering
of the model, newest first, which is the opposite order.
-/

namespace OrderFlow.Inventory

section Replay

variable {db : InventoryDb} {request : ReserveStockRequest} {clock : ℕ → ℕ}

end Replay

end OrderFlow.Inventory
