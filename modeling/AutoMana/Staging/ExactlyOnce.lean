import AutoMana.Staging.Locality

/-!
# Each raw price once

A foil-split row should end as one staged row, under the card of the first method
that matches, or as one rejected row. The mapping tables of the external
identifiers and of the tokens give each key one card; those of the print ids, of
set and collector number, and of the art sets give every card they find, and the
row is staged once for each.
-/

namespace AutoMana.Staging

open Relational Pricing

variable (context : LoadContext) (catalogue : Catalogue) (products : Products)
  (raws : List RawPrice) (scan : ScanOrder catalogue raws)

/-- What the mapping tables of the batch give a foil-split row. -/
def batchMatches (split : SplitPrice) : List (Method × List CardVersionId) :=
  cardMatches false context.locale catalogue ((splitBatch context raws).map SplitPrice.toListing)
    (raws.map RawPrice.toListing) scan split.toListing

variable {context catalogue products raws scan}

/-! ## How many rows a foil-split row becomes -/

def noProducts : Products where
  sourceProduct := .empty
  sourceProduct_unique := List.nodup_nil
  mtgCardProducts := .empty
  mtgCardProducts_unique := List.nodup_nil

theorem fresh_noProducts : sampleSupply.Fresh noProducts where
  productId := fun _ _ => rfl
  sourceProductId := fun _ _ => rfl

end AutoMana.Staging
