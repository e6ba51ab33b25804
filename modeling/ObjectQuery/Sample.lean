import ObjectQuery.Catalog.Basic
import ObjectQuery.Evaluation.Basic
import ObjectQuery.Operation.Basic

/-!
# Sample operations

A small schema of orders and customers, with operations on it and rows of it.
-/

namespace ObjectQuery
namespace Sample

/-- The status of an order. -/
def status : Path :=
  Path.of "status" .string

/-- The total of an order. -/
def total : Path :=
  Path.of "total" .decimal

/-- The day on which an order was placed. -/
def placedOn : Path :=
  Path.of "placedOn" .date

/-- The identifier of an order or a customer. -/
def identifier : Path :=
  Path.of "id" .integer

/-- Whether an order has a status. -/
def hasStatus (name : String) : Filter :=
  .compare (.path status) .equal (.constant (.string name))

/-- The schema of orders and customers. -/
def catalog : FixedCatalog :=
  ((FixedCatalog.empty.withEntity
    ⟨"order", "PurchaseOrder",
      [⟨"id", .integer, true⟩, ⟨"customerId", .integer, false⟩, ⟨"status", .string, false⟩,
        ⟨"total", .decimal, false⟩, ⟨"placedOn", .date, false⟩]⟩).withEntity
    ⟨"customer", "Customer",
      [⟨"id", .integer, true⟩, ⟨"name", .string, false⟩]⟩).withScopedEntity
    "archive" ⟨"order", "ArchivedOrder", []⟩

/-- Open orders, the newest first. -/
def openOrders : Operation :=
  { Operation.of .select (Target.named "order") with
    filter := some (hasStatus "open")
    sort := some [.mk (.path placedOn) .descending] }

/-- Prices within bounds. -/
def priceRange (low high : Int64) : Filter :=
  let price := Expression.path (Path.of "price" .integer)
  .and
    [.compare price (.greater true) (.constant (.integer low)),
      .compare price (.less true) (.constant (.integer high))]

/-- Customers with an order above a threshold. -/
def customersWithLargeOrders (threshold : Int64) : Operation :=
  let placed : Filter :=
    .compare (.path (Path.of "customerId" .integer)) .equal
      (.path (identifier.ofTarget "customer"))
  let large : Filter :=
    .compare (.path total) (.greater false) (.constant (.integer threshold))
  let orders : SubQuery :=
    ((SubQuery.of (Target.named "order") (.path identifier)).withFilter
      (.and [placed, large])).correlatedWith "customer"
  { Operation.of .select (Target.named "customer") with
    filter := some (.hasRows orders) }

/-- The number and the sum of the orders of each status. -/
def totalsByStatus : Operation :=
  let count := Expression.function (.unary .count (.path (Path.untyped "id")))
  { Operation.of .select (Target.named "order") with
    aggregation := some ((Aggregation.by [.path status]).withHaving
      (.compare count (.greater false) (.constant (.integer 1))))
    projection := some (.properties
      [.mk "status" (.path status), .mk "orders" count,
        .mk "revenue" (.function (.unary .sum (.path total)))]) }

/-- Open orders from before a day become stale. -/
def closeStaleOrders (day : Date) : Operation :=
  { (Operation.of .update (Target.named "order")).set status (.constant (.string "stale")) with
    filter := some (.and
      [hasStatus "open", .compare (.path placedOn) (.less false) (.constant (.date day))]) }

/-- Cancelled orders are removed. -/
def purgeCancelled : Operation :=
  { Operation.of .delete (Target.named "order") with
    filter := some (hasStatus "cancelled") }

/-- An order of March 2024. -/
def order (number : Int64) (state amount : String) (day : Nat) : PropertyRow :=
  ⟨[("id", .integer number), ("status", .string state), ("total", .decimal amount),
    ("placedOn", ((Date.ofParts? 2024 3 day).map Value.date).getD .null)]⟩

/-- Four orders. -/
def rows : List PropertyRow :=
  [order 1 "open" "19.99" 1, order 2 "open" "250.00" 12,
    order 3 "cancelled" "75.10" 20, order 4 "shipped" "1200.00" 28]

end Sample
end ObjectQuery
