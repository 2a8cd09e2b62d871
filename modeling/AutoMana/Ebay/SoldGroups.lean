import AutoMana.Ebay.PromoteSoldObs

/-!
# What promoting a channel leaves

Every group of unpromoted sales whose upsert does not raise replaces the average and the
number stored under its key, and its rows are among those marked.
-/

namespace AutoMana.Ebay

open Relational Pricing

/-- The sold price stored under a key: the average and the number of sales. -/
def soldOf (priceObservation : Table ObservationKey Observation) (key : ObservationKey) :
    Option (Int × Nat) :=
  (priceObservation.get? key).bind fun row =>
    row.prices.soldAvgCents.bind fun cents => row.soldCount.map ((cents : Int), ·)

/-- The rounded mean of sales, and their number. -/
def soldPrice? (cents : List Int) : Option (Int × Nat) :=
  if cents.isEmpty then none else some (roundHalfEven cents.sum cents.length, cents.length)

def salesAt {ι : Type} (sales : List (StagedSale ι)) (key : ObservationKey) :
    List (StagedSale ι) :=
  sales.filter (·.observationKey = key)

/-- What a group leaves under its key, if its upsert does not raise. -/
def upserted? (faults : Faults) (key : ObservationKey) (price : Int × Nat) : Option (Int × Nat) :=
  if faults.upsertRaises key || (cents? price.1).isNone then none else some price

/-- No upsert of a channel raises. -/
def UpsertsSucceed {ι : Type} (call : PromoteCall) (faults : Faults) (fxMap : Option FxMap)
    (sales : List (StagedSale ι)) : Prop :=
  ∀ group ∈ (aggregate call.upper fxMap (unpromoted sales)).rows,
    faults.upsertRaises group.1 = false ∧
      (cents? (roundHalfEven group.2.total group.2.count)).isSome

theorem toNat_of_cents {value : Int} {cents : Nat} (hcents : cents? value = some cents) :
    (cents : Int) = value := by
  simp only [cents?, Option.ite_none_right_eq_some, Option.some.injEq] at hcents
  obtain ⟨⟨hnonneg, -⟩, rfl⟩ := hcents
  exact Int.toNat_of_nonneg hnonneg

section Channel

variable {ι : Type}

theorem upsertPriceObservation_of_refused {faults : Faults} {key : ObservationKey}
    {price : Int × Nat} (hrefused : upserted? faults key price = none) (now : Timestamp)
    (priceObservation : Table ObservationKey Observation) :
    upsertPriceObservation now (faults.upsertRaises key) priceObservation key price.1 price.2 =
      none := by
  simp only [upserted?, ite_eq_left_iff, reduceCtorEq, imp_false, not_not, Bool.or_eq_true,
    Option.isNone_iff_eq_none] at hrefused
  rw [upsertPriceObservation]
  rcases hrefused with hraises | hcents
  · rw [if_pos hraises]
  · rw [hcents, Option.map_none, ite_self]

/-- An upsert that does not raise stores a sold price under its key, and no other. -/
theorem exists_upsertPriceObservation {faults : Faults} {key : ObservationKey}
    {price stored : Int × Nat} (hupserted : upserted? faults key price = some stored)
    (now : Timestamp) (priceObservation : Table ObservationKey Observation) :
    ∃ next, upsertPriceObservation now (faults.upsertRaises key) priceObservation key price.1
        price.2 = some next ∧
      ∀ other, soldOf next other =
        if other = key then some stored else soldOf priceObservation other := by
  rw [upserted?, Option.ite_none_left_eq_some, Bool.or_eq_true, not_or, Bool.not_eq_true,
    Option.isNone_iff_eq_none, Option.some.injEq] at hupserted
  obtain ⟨⟨hraises, hcents⟩, rfl⟩ := hupserted
  obtain ⟨cents, hcents⟩ := Option.ne_none_iff_exists'.mp hcents
  refine ⟨_, by rw [upsertPriceObservation, hraises, hcents]; rfl, ?_⟩
  intro other
  have hsame := toNat_of_cents hcents
  rw [soldOf, Table.get?_upsert, Table.get?_single]
  split_ifs with hkey
  · cases priceObservation.get? other <;>
      simp [Table.reconcile, soldObservation, updateSold, hsame]
  · cases hget : priceObservation.get? other <;> simp [Table.reconcile, soldOf, hget]

/-- The average and the number of a group. -/
def Bucket.price (bucket : Bucket ι) : Int × Nat :=
  (roundHalfEven bucket.total bucket.count, bucket.count)

theorem promoteGroup_eq (now : Timestamp) (faults : Faults)
    (state : Table ObservationKey Observation × List ι) (group : ObservationKey × Bucket ι) :
    promoteGroup now faults state group =
      (upsertPriceObservation now (faults.upsertRaises group.1) state.1 group.1
        group.2.price.1 group.2.price.2).elim state fun next => (next, state.2 ++ group.2.ids) := by
  simp only [promoteGroup, Bucket.price]
  split <;> next hupsert => rw [hupsert]; rfl

/-- A group that is upserted replaces the sold price of its key, and no other. -/
theorem soldOf_promoteGroup (now : Timestamp) (faults : Faults)
    (state : Table ObservationKey Observation × List ι) (group : ObservationKey × Bucket ι)
    (key : ObservationKey) :
    soldOf (promoteGroup now faults state group).1 key =
      (if key = group.1 then upserted? faults key group.2.price else none).or
        (soldOf state.1 key) := by
  cases hupserted : upserted? faults group.1 group.2.price with
  | none =>
    rw [promoteGroup_eq, upsertPriceObservation_of_refused hupserted, Option.elim_none]
    split_ifs with hkey
    · rw [hkey, hupserted, Option.none_or]
    · rw [Option.none_or]
  | some stored =>
    obtain ⟨next, hnext, hsold⟩ := exists_upsertPriceObservation hupserted now state.1
    rw [promoteGroup_eq, hnext, Option.elim_some, hsold key]
    split_ifs with hkey
    · rw [hkey, hupserted, Option.some_or]
    · rw [Option.none_or]

/-- The loop over the groups. -/
theorem soldOf_foldl_promoteGroup {now : Timestamp} {faults : Faults}
    {groups : List (ObservationKey × Bucket ι)} (hnodup : (groups.map Prod.fst).Nodup)
    (state : Table ObservationKey Observation × List ι) (key : ObservationKey) :
    soldOf (groups.foldl (promoteGroup now faults) state).1 key =
      ((groups.lookup key).bind fun bucket => upserted? faults key bucket.price).or
        (soldOf state.1 key) := by
  have hstep : ∀ (state : Table ObservationKey Observation × List ι) group key,
      soldOf (promoteGroup now faults state group).1 key =
        if key = group.1 then (upserted? faults key group.2.price).or (soldOf state.1 key)
        else soldOf state.1 key := by
    intro state group key
    rw [soldOf_promoteGroup]
    split_ifs <;> simp
  have hloop := Table.read_foldl_of_nodup
    (fun (state : Table ObservationKey Observation × List ι) key => soldOf state.1 key)
    (fun key bucket old => (upserted? faults key bucket.price).or old) hstep hnodup state key
  rw [hloop]
  cases groups.lookup key <;> simp

/-- The sold price of a key after its channel is promoted: that of its unpromoted sales, or
the one of before when it has none or their upsert raises. -/
theorem soldOf_promoteChannel (call : PromoteCall) (faults : Faults) (fxMap : Option FxMap)
    (sales : List (StagedSale ι)) (priceObservation : Table ObservationKey Observation)
    (key : ObservationKey) :
    soldOf (promoteChannel call faults fxMap sales priceObservation).1 key =
      ((soldPrice? ((salesAt (unpromoted sales) key).map (priceCents call.upper fxMap))).bind
        (upserted? faults key)).or (soldOf priceObservation key) := by
  have hgroup : (aggregate call.upper fxMap (unpromoted sales)).rows.lookup key =
      bucket? call.upper fxMap (salesAt (unpromoted sales) key) :=
    Table.get?_groupBy _ _ rfl (unpromoted sales) key
  rw [promoteChannel, soldOf_foldl_promoteGroup (Table.nodup_keys _), hgroup, bucket?, soldPrice?]
  cases salesAt (unpromoted sales) key <;> simp [Bucket.price]

/-- The group of a key that has unpromoted sales. -/
theorem group_of_unpromoted (upper : String → String) (fxMap : Option FxMap)
    {sales : List (StagedSale ι)} {key : ObservationKey}
    (hsome : salesAt (unpromoted sales) key ≠ []) :
    (key, {
      total := ((salesAt (unpromoted sales) key).map (priceCents upper fxMap)).sum
      count := (salesAt (unpromoted sales) key).length
      ids := (salesAt (unpromoted sales) key).map (·.id) }) ∈
      (aggregate upper fxMap (unpromoted sales)).rows := by
  have hget : (aggregate upper fxMap (unpromoted sales)).get? key =
      bucket? upper fxMap (salesAt (unpromoted sales) key) :=
    Table.get?_groupBy _ _ rfl (unpromoted sales) key
  rwa [bucket?, if_neg (mt List.isEmpty_iff.mp hsome), ← Table.mem_rows_iff] at hget

/-- Without a raising upsert every key with unpromoted sales gets their price. -/
theorem soldOf_promoteChannel_of_succeed {call : PromoteCall} {faults : Faults}
    {fxMap : Option FxMap} {sales : List (StagedSale ι)}
    (hupserts : UpsertsSucceed call faults fxMap sales)
    (priceObservation : Table ObservationKey Observation) (key : ObservationKey) :
    soldOf (promoteChannel call faults fxMap sales priceObservation).1 key =
      (soldPrice? ((salesAt (unpromoted sales) key).map (priceCents call.upper fxMap))).or
        (soldOf priceObservation key) := by
  rw [soldOf_promoteChannel]
  congr 1
  by_cases hnone : salesAt (unpromoted sales) key = []
  · rw [hnone]
    rfl
  · obtain ⟨hraises, hcents⟩ := hupserts _ (group_of_unpromoted call.upper fxMap hnone)
    rw [soldPrice?, if_neg (by simpa using hnone), Option.bind_some, upserted?, hraises,
      List.length_map, Option.isNone_eq_false_iff.mpr hcents]
    rfl

theorem ids_of_foldl {now : Timestamp} {faults : Faults} {groups : List (ObservationKey × Bucket ι)}
    (hupserts : ∀ group ∈ groups, faults.upsertRaises group.1 = false ∧
      (cents? (roundHalfEven group.2.total group.2.count)).isSome)
    (state : Table ObservationKey Observation × List ι) :
    (groups.foldl (promoteGroup now faults) state).2 = state.2 ++ groups.flatMap (·.2.ids) := by
  induction groups generalizing state with
  | nil => exact (List.append_nil _).symm
  | cons group rest ih =>
    obtain ⟨hraises, hcents⟩ := hupserts _ List.mem_cons_self
    obtain ⟨cents, hcents⟩ := Option.isSome_iff_exists.mp hcents
    have hstep : (promoteGroup now faults state group).2 = state.2 ++ group.2.ids := by
      simp [promoteGroup, upsertPriceObservation, hraises, hcents]
    rw [List.foldl_cons, ih fun group hgroup => hupserts group (List.mem_cons_of_mem _ hgroup),
      hstep, List.flatMap_cons, List.append_assoc]

/-- Every unpromoted sale is among those to mark. -/
theorem mem_ids_promoteChannel {call : PromoteCall} {faults : Faults} {fxMap : Option FxMap}
    {sales : List (StagedSale ι)} (hupserts : UpsertsSucceed call faults fxMap sales)
    (priceObservation : Table ObservationKey Observation) {sale : StagedSale ι}
    (hsale : sale ∈ unpromoted sales) :
    sale.id ∈ (promoteChannel call faults fxMap sales priceObservation).2 := by
  have hat : sale ∈ salesAt (unpromoted sales) sale.observationKey :=
    List.mem_filter.mpr ⟨hsale, decide_eq_true rfl⟩
  rw [promoteChannel, ids_of_foldl hupserts, List.nil_append, List.mem_flatMap]
  exact ⟨_, group_of_unpromoted call.upper fxMap (List.ne_nil_of_mem hat),
    List.mem_map_of_mem hat⟩

end Channel

/-- An own sale counts with its price. -/
theorem priceCents_of_noRates {ι : Type} (upper : String → String) :
    priceCents upper none = fun sale : StagedSale ι => (sale.cents : Int) := by
  funext sale
  simp only [priceCents, Option.bind_none, ite_self]

end AutoMana.Ebay
