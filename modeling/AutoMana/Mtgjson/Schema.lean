import AutoMana.Pricing.Schema
import AutoMana.Relational.Codes
import AutoMana.Relational.Text

/-!
# The MTGJson staging table

`mtgjson_card_prices_staging` is the landing table of the MTGJson prices. A staged
row names its card by uuid, its source by code, and its finish and price type as the
feed spells them.
-/

namespace AutoMana.Mtgjson

open Relational Pricing

/-- A `FLOAT`, by the `numeric` it casts to: `units / 10 ^ scale`, or no number. -/
inductive PriceValue where
  | decimal (units : Int) (scale : Nat)
  | nan
  | infinity
  | negInfinity
deriving DecidableEq, Repr

/-- `LEAST(round(value::numeric * 100), 2147483647)::int`; `none` when the cast raises.
A `numeric` orders `NaN` above every number. -/
def PriceValue.cents? : PriceValue → Option Int
  | .decimal units scale =>
    let cents := units.sign * Aggregate.roundedQuotient (units.natAbs * 100) (10 ^ scale)
    if -2147483648 ≤ cents then some (min cents 2147483647) else none
  | .nan => some 2147483647
  | .infinity => some 2147483647
  | .negInfinity => none

/-- A row of `mtgjson_card_prices_staging`, without its `id`. -/
structure StagedPrice where
  cardUuid : String
  priceSource : String
  priceType : Option String
  finishType : String
  currency : String
  priceValue : PriceValue
  priceDate : Int
deriving DecidableEq, Repr

/-- The tables a promotion reads and does not write. -/
structure Reference where
  cardIdentifierRef : Table Nat String
  /-- The value of each `(card_version_id, card_identifier_ref_id)`. -/
  cardExternalIdentifier : Table (CardVersionId × Nat) String
  mtgjsonUuidAlias : Table String CardVersionId
  dataProvider : Table Nat String
  /-- The codes of `currency_ref`. -/
  currencyRef : List String

/-- The rows of `transaction_type`, which the schema seeds and nothing writes. -/
def transactionType : Table Nat String := ⟨[(1, "sell"), (2, "buy")], by decide⟩

structure MtgjsonTables where
  staging : Table Nat StagedPrice
  /-- The `source_id` and the `currency_code` of each code. -/
  priceSource : CodeTable String
  /-- The `finish_id` of each code. -/
  cardFinished : CodeTable Unit
  products : Products
  priceObservation : Table ObservationKey Observation

end AutoMana.Mtgjson
