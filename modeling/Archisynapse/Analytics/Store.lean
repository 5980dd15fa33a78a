import Mathlib.Algebra.BigOperators.Group.List.Basic
import Mathlib.Algebra.Ring.Rat

/-!
# The analytics service

Merchants, recorded transactions and the revenue part of the dashboard (services/analytics/revenue_intelligence.py). Amounts are
exact; times are microseconds. Left out: subscriptions, customer events and forecasts, and the numbers of the dashboard that are
made of them.
-/

namespace Archisynapse

namespace Analytics

/-! ## Data -/

/-- A row of `merchants`, as far as requests read it. -/
structure MerchantRow where
  merchantId : String
  apiKeyHash : String
  isActive : Bool
  deriving DecidableEq

/-- The body of `POST /transactions`. -/
structure TransactionIn where
  customerId : String
  amount : ℚ
  feeAmount : ℚ
  currency : String
  status : String
  paymentMethod : Option String
  country : Option String
  correlationId : Option String
  eventId : Option String
  externalTransactionId : Option String
  deriving DecidableEq

/-- A row of `transactions`. -/
structure TransactionRow where
  id : Nat
  merchantId : String
  event : TransactionIn
  createdAt : Int
  deriving DecidableEq

structure Tables where
  merchants : List MerchantRow
  transactions : List TransactionRow

/-! ## Requests -/

/-- `verify_api_key`, where `hash` is `hash_value` of a text that is not empty -/
def verifyApiKey (hash : String → String) (rawKey storedHash : String) : Bool :=
  decide ((if rawKey = "" then "" else hash rawKey) = storedHash)

/-- `get_current_merchant`: the merchant, or the status of the refusal. The header is required. -/
def Tables.getCurrentMerchant (hash : String → String) (d : Tables) : Option String → Except Nat MerchantRow
  | none => .error 422
  | some key =>
    match d.merchants.find? (fun m => m.isActive && verifyApiKey hash key m.apiKeyHash) with
    | some m => .ok m
    | none => .error 401

/-- `record_transaction`: the id of the row, which is the next one. -/
def Tables.recordTransaction (hash : String → String) (d : Tables) (now : Int) (apiKey : Option String) (event : TransactionIn) :
    Except Nat Nat × Tables :=
  match d.getCurrentMerchant hash apiKey with
  | .error statusCode => (.error statusCode, d)
  | .ok merchant =>
    let id := d.transactions.length + 1
    (.ok id, { d with transactions := d.transactions ++ [⟨id, merchant.merchantId, event, now⟩] })

/-! ## The dashboard -/

/-- The rows of the revenue metrics: those of the merchant since the cutoff that are "completed". -/
def Tables.revenueRows (d : Tables) (merchantId : String) (cutoff : Int) : List TransactionRow :=
  d.transactions.filter (fun t => decide (t.merchantId = merchantId ∧ cutoff ≤ t.createdAt ∧ t.event.status = "completed"))

/-- The revenue metrics of a dashboard. -/
structure RevenueStats where
  totalRevenue : ℚ
  totalFees : ℚ
  transactionCount : Nat
  avgTransactionSize : ℚ
  uniqueCustomers : Nat

/-- The revenue metrics of `get_dashboard` -/
def Tables.revenueStats (d : Tables) (merchantId : String) (cutoff : Int) : RevenueStats :=
  let rows := d.revenueRows merchantId cutoff
  let total := (rows.map (·.event.amount)).sum
  { totalRevenue := total
    totalFees := (rows.map (·.event.feeAmount)).sum
    transactionCount := rows.length
    avgTransactionSize := if rows.length = 0 then 0 else total / rows.length
    uniqueCustomers := (rows.map (·.event.customerId)).dedup.length }

/-- A day. -/
def day : Int := 24 * 60 * 60 * 1000000

/-- `GET /dashboard` -/
def Tables.getDashboard (hash : String → String) (d : Tables) (now : Int) (days : Nat) (apiKey : Option String) :
    Except Nat RevenueStats :=
  match d.getCurrentMerchant hash apiKey with
  | .error statusCode => .error statusCode
  | .ok merchant => if days < 1 ∨ 365 < days then .error 422 else .ok (d.revenueStats merchant.merchantId (now - days * day))

end Analytics

end Archisynapse
