import AutoMana.Ebay.SoldGroups

/-!
# The currency of sold prices

A promotion converts a scraped sale by the rate of its currency. A sale whose currency has
no rate counts at face value, and so does every own sale, which is taken to be in USD.
-/

namespace AutoMana.Ebay

open Relational Pricing

section Pending

variable {ι Row : Type}

end Pending

end AutoMana.Ebay
