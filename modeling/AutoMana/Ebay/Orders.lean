import AutoMana.Ebay.Schema

/-!
# The local status of orders

Every order of an app has a status of its own, apart from eBay's, and a shipment. A row is
written by one upsert, which always takes the new status.
-/

namespace AutoMana.Ebay

open Relational Pricing

/-- `CHECK (local_status IN ('sold', 'sent', 'in_transit', 'complete'))` -/
inductive LocalStatus where
  | sold
  | sent
  | inTransit
  | complete
deriving DecidableEq, Repr

def LocalStatus.ofText? (text : String) : Option LocalStatus :=
  [("sold", sold), ("sent", sent), ("in_transit", inTransit), ("complete", complete)].lookup text

/-- `PRIMARY KEY (order_id, app_code)` -/
structure OrderKey where
  orderId : String
  appCode : String
deriving DecidableEq, Repr

/-- A row of `ebay_order_status`. -/
structure OrderStatus where
  localStatus : LocalStatus
  trackingNumber : Option String
  carrierCode : Option String
  shippedAt : Option Timestamp
deriving DecidableEq, Repr

/-- `upsert_order_status_query` -/
def upsertOrderStatus (table : Table OrderKey OrderStatus) (key : OrderKey) (row : OrderStatus) :
    Table OrderKey OrderStatus :=
  table.upsert (Table.single key row) fun stored excluded => {
    localStatus := excluded.localStatus
    trackingNumber := excluded.trackingNumber.or stored.trackingNumber
    carrierCode := excluded.carrierCode.or stored.carrierCode
    shippedAt := excluded.shippedAt.or stored.shippedAt }

/-- The status of an order after an upsert is the new one. -/
theorem localStatus_upsertOrderStatus (table : Table OrderKey OrderStatus) (key : OrderKey)
    (row : OrderStatus) (other : OrderKey) :
    ((upsertOrderStatus table key row).get? other).map (·.localStatus) =
      if other = key then some row.localStatus else (table.get? other).map (·.localStatus) := by
  rw [upsertOrderStatus, Table.get?_upsert, Table.get?_single]
  split_ifs
  · cases table.get? other <;> rfl
  · cases table.get? other <;> rfl

end AutoMana.Ebay
