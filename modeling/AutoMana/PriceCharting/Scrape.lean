import AutoMana.Relational.Dict
import AutoMana.Relational.Runs
import Mathlib.Data.List.Sort

/-!
# The scrape

`scrape_catalog` stores the sets, and the products of each; `scrape_sales` stores the sales of
the products of each set. A file that is there is not fetched again, and it is there whatever its
pages were answered with: so a product that fails in a set is never asked for again.
-/

namespace AutoMana.PriceCharting.Scrape

open Relational

/-! ## Files and pages -/

structure SetInfo where
  uid : String
  name : String
deriving DecidableEq, Repr

/-- An item of the list of sets, a missing key of which is empty. -/
structure RawItem where
  label : String
  value : String
deriving DecidableEq, Repr

inductive ProductType where
  | single
  | sealed
deriving DecidableEq, Repr

structure Product where
  productId : String
  productType : ProductType
  url : String
deriving DecidableEq, Repr

/-- What the answer to the request for a page was. -/
inductive Response where
  | raised
  | answered (status : Nat) (text : String)
deriving DecidableEq, Repr

def Response.Succeeds : Response → Prop
  | .raised => False
  | .answered status _ => 200 ≤ status ∧ status < 300

instance (response : Response) : Decidable response.Succeeds := by
  cases response with
  | raised => exact inferInstanceAs (Decidable False)
  | answered status text => exact inferInstanceAs (Decidable (_ ∧ _))

/-- What the scrape leaves to others: `str.lower`, `str.strip`, and the parser of a sales page,
which may raise. -/
structure Parsers (S : Type) where
  lower : String → String
  strip : String → String
  parseSalesPage : String → String → Option S

/-- `sets.json`, `products/{uid}.json` and `sales/{uid}.json`. -/
structure Storage (S : Type) where
  sets : Option (List SetInfo)
  products : Table String (List Product)
  sales : Table String (Table String S)

/-- A page that was asked for, with what it was answered. -/
inductive Request where
  | catalogPage (uid : String) (products : Option (List Product))
  | salesPage (uid : String) (product : Product) (response : Response)
deriving DecidableEq, Repr

/-! ## scrape_catalog -/

/-- A call, with the answers to it: the page of a set may raise. -/
structure CatalogCall where
  forceRefresh : Bool
  fetchSets : Option (List RawItem)
  setPage : String → Option (List Product)

section Calls

variable {S : Type} (parsers : Parsers S)

def buildPcSets (rawItems : List RawItem) : List SetInfo :=
  let results := rawItems.foldl (fun results item =>
    if parsers.lower item.label = "all" ∨ item.value = "" then results
    else
      let uid := parsers.strip item.value
      let name := parsers.strip item.label
      if uid ≠ "" ∧ name ≠ "" ∧ uid ∉ results.map (·.uid) then results ++ [⟨uid, name⟩]
      else results) []
  results.insertionSort fun left right => left.name ≤ right.name

/-- A set whose file is there is not asked for, and one whose page raises gets no file. -/
def scrapeSetPage (call : CatalogCall) (scraped : Storage S × List Request) (set : SetInfo) :
    Storage S × List Request :=
  if (scraped.1.products.get? set.uid).isSome ∧ call.forceRefresh = false then scraped
  else
    let requests := scraped.2 ++ [.catalogPage set.uid (call.setPage set.uid)]
    match call.setPage set.uid with
    | none => (scraped.1, requests)
    | some products =>
      ({ scraped.1 with products := scraped.1.products.set set.uid products }, requests)

def scrapeCatalog (call : CatalogCall) (storage : Storage S) : Storage S × List Request :=
  match if call.forceRefresh then none else storage.sets with
  | some pcSets => pcSets.foldl (scrapeSetPage call) (storage, [])
  | none =>
    match call.fetchSets with
    -- the list of sets is not fetched, and the call raises
    | none => (storage, [])
    | some rawItems =>
      let pcSets := buildPcSets parsers rawItems
      pcSets.foldl (scrapeSetPage call) ({ storage with sets := some pcSets }, [])

/-! ## scrape_sales -/

/-- A call, with the answers to it, by the set and the position of a single in it. -/
structure SalesCall where
  forceRefresh : Bool
  fetchSalesHtml : String → Nat → Response

/-- The singles of a set are asked for one after another. -/
def singleAnswers (call : SalesCall) (uid : String) (products : List Product) :
    List (Product × Response) :=
  (products.filter (·.productType = .single)).zipIdx.map fun single =>
    (single.1, call.fetchSalesHtml uid single.2)

/-- What a page gives; its status is not looked at. -/
def productSales (product : Product) : Response → Option S
  | .raised => none
  | .answered _ text => parsers.parseSalesPage text product.productId

/-- A product that fails is left out. -/
def setSales (answers : List (Product × Response)) : Table String S :=
  .ofPairs (answers.filterMap fun answer =>
    (productSales parsers answer.1 answer.2).map (answer.1.productId, ·))

def scrapeSetSales (call : SalesCall) (scraped : Storage S × List Request) (set : SetInfo) :
    Storage S × List Request :=
  if (scraped.1.sales.get? set.uid).isSome ∧ call.forceRefresh = false then scraped
  else
    match scraped.1.products.get? set.uid with
    | none => scraped
    | some products =>
      let answers := singleAnswers call set.uid products
      ({ scraped.1 with sales := scraped.1.sales.set set.uid (setSales parsers answers) },
        scraped.2 ++ answers.map fun answer => .salesPage set.uid answer.1 answer.2)

def scrapeSales (call : SalesCall) (storage : Storage S) : Storage S × List Request :=
  match storage.sets with
  | none => (storage, [])
  | some pcSets => pcSets.foldl (scrapeSetSales parsers call) (storage, [])

end Calls

/-! ## Runs -/

inductive Call where
  | catalog (call : CatalogCall)
  | sales (call : SalesCall)

/-- What is stored, and all requests so far. -/
structure Scraped (S : Type) where
  storage : Storage S
  requests : List Request

section Run

variable {S : Type} (parsers : Parsers S)

/-- Nothing is stored. -/
def Scraped.start : Scraped S := ⟨⟨none, .empty, .empty⟩, []⟩

def scrape (storage : Storage S) : Call → Storage S × List Request
  | .catalog call => scrapeCatalog parsers call storage
  | .sales call => scrapeSales parsers call storage

def step (state : Scraped S) (call : Call) : Scraped S where
  storage := (scrape parsers state.storage call).1
  requests := state.requests ++ (scrape parsers state.storage call).2

/-! ## What is claimed of the scrape -/

/-- A single of a set that is catalogued. -/
structure Catalogued (storage : Storage S) (set : SetInfo) (product : Product) : Prop where
  set_mem : ∃ pcSets ∈ storage.sets, set ∈ pcSets
  product_mem : ∃ products ∈ storage.products.get? set.uid, product ∈ products
  single : product.productType = .single

/-- The sales page of a product was fetched successfully. -/
def Fetched (requests : List Request) (productId text : String) : Prop :=
  ∃ uid product status, .salesPage uid product (.answered status text) ∈ requests ∧
    (Response.answered status text).Succeeds ∧ product.productId = productId

/-- The last page of a set was empty. -/
def CameBackEmpty (requests : List Request) (uid : String) : Prop :=
  ∃ before after, requests = before ++ .catalogPage uid (some []) :: after ∧
    ∀ products, .catalogPage uid products ∉ after

/-- A product that was never fetched successfully is asked for. After a call none of whose
fetches fails, the sales files have what successful pages give for every product. -/
structure ForgetsNoProduct (state : Scraped S) (call : SalesCall) : Prop where
  asked : ∀ set product, Catalogued state.storage set product →
    (∀ text, ¬ Fetched state.requests product.productId text) →
    ∃ response, .salesPage set.uid product response ∈
      (scrapeSales parsers call state.storage).2
  stored : (∀ uid product response, .salesPage uid product response ∈
        (scrapeSales parsers call state.storage).2 → response.Succeeds) →
    ∀ set product, Catalogued state.storage set product →
      ∃ file ∈ (step parsers state (.sales call)).storage.sales.get? set.uid,
        ∃ sales ∈ file.get? product.productId, ∃ text,
          Fetched (step parsers state (.sales call)).requests product.productId text ∧
            parsers.parseSalesPage text product.productId = some sales

/-- A set whose page came back empty is asked for. -/
def ForgetsNoSet (state : Scraped S) (call : CatalogCall) : Prop :=
  ∀ set, (∃ pcSets ∈ (step parsers state (.catalog call)).storage.sets, set ∈ pcSets) →
    CameBackEmpty state.requests set.uid →
    ∃ products, .catalogPage set.uid products ∈ (scrapeCatalog parsers call state.storage).2

def ForgetsNothing (state : Scraped S) : Call → Prop
  | .catalog call => ForgetsNoSet parsers state call
  | .sales call => ForgetsNoProduct parsers state call

/-! ## When nothing is forgotten -/

/-- No page that is asked for comes back empty, and none brings a single that is not in a sales
file which its set has already. -/
structure PagesFull (state : Scraped S) (call : CatalogCall) : Prop where
  nonempty : ∀ uid, state.storage.products.get? uid = none ∨ call.forceRefresh →
    call.setPage uid ≠ some []
  noneNew : ∀ uid, state.storage.products.get? uid = none ∨ call.forceRefresh →
    ∀ products ∈ call.setPage uid, ∀ file ∈ state.storage.sales.get? uid, ∀ product ∈ products,
      product.productType = .single → (file.get? product.productId).isSome

/-- The sets that a call scrapes: they have products, and no sales file, or the call is forced. -/
def Scrapes (state : Scraped S) (call : SalesCall) (uid : String) (products : List Product) :
    Prop :=
  (∃ pcSets ∈ state.storage.sets, ∃ set ∈ pcSets, set.uid = uid) ∧
    (state.storage.sales.get? uid = none ∨ call.forceRefresh) ∧
    state.storage.products.get? uid = some products

/-- No fetch fails in a set that is scraped, and its pages are parsed. -/
def NoneFails (state : Scraped S) (call : SalesCall) : Prop :=
  ∀ uid products, Scrapes state call uid products →
    ∀ answer ∈ singleAnswers call uid products,
      answer.2.Succeeds ∧ (productSales parsers answer.1 answer.2).isSome

def Complete (state : Scraped S) : Call → Prop
  | .catalog call => PagesFull state call
  | .sales call => NoneFails parsers state call

end Run

/-! ## What the files keep -/

/-- Every single of a set with a sales file is in it, with what a successful page gave; and no
page of a set was empty. -/
structure Kept {S : Type} (parsers : Parsers S) (storage : Storage S) (requests : List Request) :
    Prop where
  covered : ∀ uid file products, storage.sales.get? uid = some file →
    storage.products.get? uid = some products → ∀ product ∈ products,
      product.productType = .single → (file.get? product.productId).isSome
  genuine : ∀ uid file productId sales, storage.sales.get? uid = some file →
    file.get? productId = some sales → ∃ text, Fetched requests productId text ∧
      parsers.parseSalesPage text productId = some sales
  nonempty : ∀ uid, .catalogPage uid (some []) ∉ requests

section Answers

variable {S : Type} {parsers : Parsers S} {call : SalesCall} {uid : String}
  {products : List Product} {answers : List (Product × Response)}

theorem Fetched.mono {requests more : List Request} {productId text : String}
    (hfetched : Fetched requests productId text) (hsubset : requests ⊆ more) :
    Fetched more productId text := by
  obtain ⟨uid, product, status, hmem, hsucceeds⟩ := hfetched
  exact ⟨uid, product, status, hsubset hmem, hsucceeds⟩

/-- Every single of a set is asked for. -/
theorem exists_singleAnswer (call : SalesCall) (uid : String) {product : Product}
    (hmem : product ∈ products) (hsingle : product.productType = .single) :
    ∃ response, (product, response) ∈ singleAnswers call uid products := by
  have hfilter : product ∈ products.filter (·.productType = .single) :=
    List.mem_filter.mpr ⟨hmem, decide_eq_true hsingle⟩
  obtain ⟨position, hposition⟩ := List.mem_iff_getElem?.mp hfilter
  have hzip := List.mk_mem_zipIdx_iff_getElem?.mpr hposition
  exact ⟨_, List.mem_map.mpr ⟨(product, position), hzip, rfl⟩⟩

/-- What is in the file of a set is of one of its pages. -/
theorem mem_of_setSales {productId : String} {sales : S}
    (hget : (setSales parsers answers).get? productId = some sales) :
    ∃ answer ∈ answers, answer.1.productId = productId ∧
      productSales parsers answer.1 answer.2 = some sales := by
  rw [setSales, Table.get?_ofPairs] at hget
  obtain ⟨before, after, hsplit, -⟩ := List.lookup_eq_some_iff.mp hget
  have hentry : (productId, sales) ∈ answers.filterMap fun answer =>
      (productSales parsers answer.1 answer.2).map (answer.1.productId, ·) := by
    rw [← List.mem_reverse, hsplit]
    simp
  obtain ⟨answer, hanswer, hsales⟩ := List.mem_filterMap.mp hentry
  obtain ⟨_, hsome, hpair⟩ := Option.map_eq_some_iff.mp hsales
  cases hpair
  exact ⟨answer, hanswer, rfl, hsome⟩

/-- A page that is parsed is in the file of its set. -/
theorem isSome_setSales {answer : Product × Response} (hanswer : answer ∈ answers)
    (hsome : (productSales parsers answer.1 answer.2).isSome) :
    ((setSales parsers answers).get? answer.1.productId).isSome := by
  obtain ⟨sales, hsales⟩ := Option.isSome_iff_exists.mp hsome
  rw [setSales, ← Table.mem_keys_iff, Table.mem_keys_ofPairs]
  refine List.mem_map.mpr ⟨(answer.1.productId, sales), ?_, rfl⟩
  exact List.mem_filterMap.mpr ⟨answer, hanswer, by rw [hsales]; rfl⟩

/-- A page that succeeds and is parsed was fetched. -/
theorem exists_text {product : Product} {response : Response} {sales : S}
    (hsucceeds : response.Succeeds) (hsales : productSales parsers product response = some sales) :
    ∃ status text, response = .answered status text ∧
      parsers.parseSalesPage text product.productId = some sales := by
  cases response with
  | raised => cases hsales
  | answered status text => exact ⟨status, text, rfl, hsales⟩

end Answers

/-! ## A call of scrape_sales -/

section Sales

variable {S : Type} {parsers : Parsers S} {call : SalesCall} {scraped : Storage S × List Request}
  {set : SetInfo} {pcSets : List SetInfo} {requests : List Request}

/-- What was there before a set is scraped, or after it. -/
theorem requests_scrapeSetSales (parsers : Parsers S) (call : SalesCall)
    (scraped : Storage S × List Request) (set : SetInfo) :
    scraped.2 ⊆ (scrapeSetSales parsers call scraped set).2 := by
  rw [scrapeSetSales]
  split_ifs
  · exact List.Subset.refl _
  · split
    · exact List.Subset.refl _
    · exact List.subset_append_left _ _

theorem requests_foldl (parsers : Parsers S) (call : SalesCall) (pcSets : List SetInfo)
    (scraped : Storage S × List Request) :
    scraped.2 ⊆ (pcSets.foldl (scrapeSetSales parsers call) scraped).2 := by
  induction pcSets generalizing scraped with
  | nil => exact List.Subset.refl _
  | cons head rest ih =>
    exact List.Subset.trans (requests_scrapeSetSales parsers call scraped head) (ih _)

/-- Scraping a set changes its own sales file only, and removes none. -/
theorem storage_scrapeSetSales (parsers : Parsers S) (call : SalesCall)
    (scraped : Storage S × List Request) (set : SetInfo) :
    (scrapeSetSales parsers call scraped set).1.products = scraped.1.products ∧
      (∀ uid, uid ≠ set.uid → (scrapeSetSales parsers call scraped set).1.sales.get? uid =
        scraped.1.sales.get? uid) ∧
      ((scraped.1.sales.get? set.uid).isSome →
        ((scrapeSetSales parsers call scraped set).1.sales.get? set.uid).isSome) := by
  rw [scrapeSetSales]
  split_ifs
  · exact ⟨rfl, fun _ _ => rfl, id⟩
  · split
    · exact ⟨rfl, fun _ _ => rfl, id⟩
    · refine ⟨rfl, fun uid hne => ?_, fun _ => ?_⟩
      · rw [Table.get?_set, if_neg hne]
      · rw [Table.get?_set, if_pos rfl]
        rfl

/-- A set without a sales file, or of a forced call, is scraped. -/
theorem scrapeSetSales_of_scrapes {products : List Product}
    (hopen : scraped.1.sales.get? set.uid = none ∨ call.forceRefresh)
    (hproducts : scraped.1.products.get? set.uid = some products) :
    scrapeSetSales parsers call scraped set =
      ({ scraped.1 with
          sales := scraped.1.sales.set set.uid
            (setSales parsers (singleAnswers call set.uid products)) },
        scraped.2 ++ (singleAnswers call set.uid products).map fun answer =>
          .salesPage set.uid answer.1 answer.2) := by
  have hskip : ¬ ((scraped.1.sales.get? set.uid).isSome ∧ call.forceRefresh = false) := by
    rintro ⟨hsome, hforce⟩
    rcases hopen with hnone | hforced
    · rw [hnone] at hsome
      cases hsome
    · rw [hforced] at hforce
      cases hforce
  rw [scrapeSetSales, if_neg hskip, hproducts]

/-- The singles of a set that is scraped are asked for. -/
theorem asked_foldl {products : List Product} (hset : set ∈ pcSets)
    (hopen : scraped.1.sales.get? set.uid = none ∨ call.forceRefresh)
    (hproducts : scraped.1.products.get? set.uid = some products)
    {answer : Product × Response} (hanswer : answer ∈ singleAnswers call set.uid products) :
    .salesPage set.uid answer.1 answer.2 ∈
      (pcSets.foldl (scrapeSetSales parsers call) scraped).2 := by
  induction pcSets generalizing scraped with
  | nil => cases hset
  | cons head rest ih =>
    by_cases hsame : head.uid = set.uid
    · rw [← hsame] at hopen hproducts hanswer ⊢
      apply requests_foldl parsers call rest
      rw [scrapeSetSales_of_scrapes hopen hproducts]
      exact List.mem_append_right _ (List.mem_map.mpr ⟨answer, hanswer, rfl⟩)
    · obtain ⟨hkept, hothers, -⟩ := storage_scrapeSetSales parsers call scraped head
      have hrest : set ∈ rest :=
        (List.mem_cons.mp hset).resolve_left fun heq => hsame (congrArg SetInfo.uid heq.symm)
      refine ih hrest ?_ ?_
      · rwa [hothers set.uid (Ne.symm hsame)]
      · rwa [hkept]

theorem products_foldl (parsers : Parsers S) (call : SalesCall) (pcSets : List SetInfo)
    (scraped : Storage S × List Request) :
    (pcSets.foldl (scrapeSetSales parsers call) scraped).1.products = scraped.1.products := by
  induction pcSets generalizing scraped with
  | nil => rfl
  | cons head rest ih =>
    exact (ih _).trans (storage_scrapeSetSales parsers call scraped head).1

/-- A sales file stays. -/
theorem isSome_foldl_of_isSome (pcSets : List SetInfo) {uid : String}
    (hsome : (scraped.1.sales.get? uid).isSome) :
    ((pcSets.foldl (scrapeSetSales parsers call) scraped).1.sales.get? uid).isSome := by
  induction pcSets generalizing scraped with
  | nil => exact hsome
  | cons head rest ih =>
    obtain ⟨-, hothers, hown⟩ := storage_scrapeSetSales parsers call scraped head
    refine ih ?_
    by_cases hsame : uid = head.uid
    · rw [hsame] at hsome ⊢
      exact hown hsome
    · rwa [hothers uid hsame]

/-- A set with products has a sales file after a call. -/
theorem isSome_foldl {products : List Product} (hset : set ∈ pcSets)
    (hproducts : scraped.1.products.get? set.uid = some products) :
    ((pcSets.foldl (scrapeSetSales parsers call) scraped).1.sales.get? set.uid).isSome := by
  induction pcSets generalizing scraped with
  | nil => cases hset
  | cons head rest ih =>
    by_cases hsame : head.uid = set.uid
    · apply isSome_foldl_of_isSome rest
      rw [← hsame] at hproducts ⊢
      cases hfile : scraped.1.sales.get? head.uid with
      | some file =>
        exact (storage_scrapeSetSales parsers call scraped head).2.2
          (Option.isSome_of_eq_some hfile)
      | none =>
        rw [scrapeSetSales_of_scrapes (Or.inl hfile) hproducts, Table.get?_set, if_pos rfl]
        rfl
    · obtain ⟨hkept, -, -⟩ := storage_scrapeSetSales parsers call scraped head
      have hrest : set ∈ rest :=
        (List.mem_cons.mp hset).resolve_left fun heq => hsame (congrArg SetInfo.uid heq.symm)
      exact ih hrest (hkept ▸ hproducts)

/-- More requests, none of which brings an empty page of a set. -/
theorem Kept.append {storage : Storage S} {asked : List Request}
    (hkept : Kept parsers storage requests)
    (hasked : ∀ uid, .catalogPage uid (some []) ∉ asked) :
    Kept parsers storage (requests ++ asked) := by
  refine ⟨hkept.covered, fun uid file productId sales hfile hsales => ?_, fun uid hmem => ?_⟩
  · obtain ⟨text, hfetched, hparsed⟩ := hkept.genuine uid file productId sales hfile hsales
    exact ⟨text, hfetched.mono (List.subset_append_left _ _), hparsed⟩
  · rcases List.mem_append.mp hmem with hold | hnew
    · exact hkept.nonempty uid hold
    · exact hasked uid hnew

/-- The sales of a set are stored, when none of its singles failed. -/
theorem Kept.setSales {storage : Storage S} {uid : String} {products : List Product}
    (hkept : Kept parsers storage requests) (hproducts : storage.products.get? uid = some products)
    (hasked : ∀ answer ∈ singleAnswers call uid products,
      .salesPage uid answer.1 answer.2 ∈ requests)
    (hanswers : ∀ answer ∈ singleAnswers call uid products,
      answer.2.Succeeds ∧ (productSales parsers answer.1 answer.2).isSome) :
    Kept parsers
      { storage with
          sales := storage.sales.set uid
            (Scrape.setSales parsers (singleAnswers call uid products)) } requests := by
  refine ⟨?_, ?_, hkept.nonempty⟩
  · intro other file catalog hfile hcatalog product hproduct hsingle
    rw [Table.get?_set] at hfile
    split_ifs at hfile with hsame
    · obtain rfl := Option.some.inj hfile
      obtain rfl : products = catalog := by
        rw [hsame, hproducts] at hcatalog
        exact Option.some.inj hcatalog
      obtain ⟨response, hanswer⟩ := exists_singleAnswer call uid hproduct hsingle
      exact isSome_setSales hanswer (hanswers _ hanswer).2
    · exact hkept.covered other file catalog hfile hcatalog product hproduct hsingle
  · intro other file productId sales hfile hsales
    rw [Table.get?_set] at hfile
    split_ifs at hfile
    · obtain rfl := Option.some.inj hfile
      obtain ⟨⟨product, response⟩, hanswer, rfl, hproduct⟩ := mem_of_setSales hsales
      have hsucceeds := (hanswers _ hanswer).1
      obtain ⟨status, text, rfl, hparsed⟩ := exists_text hsucceeds hproduct
      exact ⟨text, ⟨uid, product, status, hasked _ hanswer, hsucceeds, rfl⟩, hparsed⟩
    · exact hkept.genuine other file productId sales hfile hsales

/-- Scraping a set none of whose singles fails. -/
theorem kept_scrapeSetSales (hkept : Kept parsers scraped.1 (requests ++ scraped.2))
    (hnone : ∀ products, scraped.1.sales.get? set.uid = none ∨ call.forceRefresh →
      scraped.1.products.get? set.uid = some products →
      ∀ answer ∈ singleAnswers call set.uid products,
        answer.2.Succeeds ∧ (productSales parsers answer.1 answer.2).isSome) :
    Kept parsers (scrapeSetSales parsers call scraped set).1
      (requests ++ (scrapeSetSales parsers call scraped set).2) := by
  by_cases hopen : scraped.1.sales.get? set.uid = none ∨ call.forceRefresh
  swap
  · have hskip : (scraped.1.sales.get? set.uid).isSome ∧ call.forceRefresh = false := by
      obtain ⟨hfile, hforce⟩ := not_or.mp hopen
      exact ⟨Option.isSome_iff_ne_none.mpr hfile, Bool.eq_false_of_not_eq_true hforce⟩
    rwa [scrapeSetSales, if_pos hskip]
  cases hproducts : scraped.1.products.get? set.uid with
  | none =>
    rw [scrapeSetSales, hproducts]
    split_ifs <;> exact hkept
  | some products =>
    rw [scrapeSetSales_of_scrapes hopen hproducts, ← List.append_assoc]
    refine (hkept.append fun uid hmem => ?_).setSales hproducts (fun answer hanswer => ?_)
      (hnone products hopen hproducts)
    · obtain ⟨answer, -, hanswer⟩ := List.mem_map.mp hmem
      cases hanswer
    · exact List.mem_append_right _ (List.mem_map.mpr ⟨answer, hanswer, rfl⟩)

/-- A call none of whose fetches fails. -/
theorem kept_scrapeSales {state : Scraped S} (hkept : Kept parsers state.storage state.requests)
    (hnone : NoneFails parsers state call) :
    Kept parsers (step parsers state (.sales call)).storage
      (step parsers state (.sales call)).requests := by
  rw [step, scrape, scrapeSales]
  cases hsets : state.storage.sets with
  | none => simpa using hkept
  | some pcSets =>
    have hfold := List.foldlRecOn pcSets (scrapeSetSales parsers call)
      (motive := fun scraped => Kept parsers scraped.1 (state.requests ++ scraped.2) ∧
        scraped.1.products = state.storage.products ∧
        ∀ uid, scraped.1.sales.get? uid = none → state.storage.sales.get? uid = none)
      (b := (state.storage, [])) ⟨by simpa using hkept, rfl, fun _ => id⟩ ?_
    · exact hfold.1
    · rintro scraped ⟨hscraped, hproducts, hfiles⟩ set hset
      obtain ⟨hsame, hothers, hown⟩ := storage_scrapeSetSales parsers call scraped set
      refine ⟨kept_scrapeSetSales hscraped fun products hopen hcatalog => ?_, hsame.trans hproducts,
        fun uid hnew => hfiles uid ?_⟩
      · refine hnone set.uid products ⟨⟨pcSets, hsets, set, hset, rfl⟩, ?_, hproducts ▸ hcatalog⟩
        exact hopen.imp_left (hfiles set.uid)
      · by_cases huid : uid = set.uid
        · subst huid
          by_contra hfile
          have hsome := hown (Option.isSome_iff_ne_none.mpr hfile)
          rw [hnew] at hsome
          cases hsome
        · rwa [hothers uid huid] at hnew

end Sales

/-! ## A call of scrape_catalog -/

section Catalog

variable {S : Type} {parsers : Parsers S} {call : CatalogCall}
  {scraped : Storage S × List Request} {set : SetInfo} {requests : List Request}

/-- The products of a set are stored, none of which its sales file lacks. -/
theorem Kept.setProducts {storage : Storage S} {uid : String} {products : List Product}
    (hkept : Kept parsers storage requests)
    (hnoneNew : ∀ file ∈ storage.sales.get? uid, ∀ product ∈ products,
      product.productType = .single → (file.get? product.productId).isSome) :
    Kept parsers { storage with products := storage.products.set uid products } requests := by
  refine ⟨fun other file catalog hfile hcatalog product hproduct hsingle => ?_,
    hkept.genuine, hkept.nonempty⟩
  rw [Table.get?_set] at hcatalog
  split_ifs at hcatalog with hsame
  · obtain rfl := Option.some.inj hcatalog
    exact hnoneNew file (hsame ▸ hfile) product hproduct hsingle
  · exact hkept.covered other file catalog hfile hcatalog product hproduct hsingle

/-- The page of a set that is not empty, and brings no single that its sales file lacks. -/
theorem kept_scrapeSetPage (hkept : Kept parsers scraped.1 (requests ++ scraped.2))
    (hfull : scraped.1.products.get? set.uid = none ∨ call.forceRefresh →
      call.setPage set.uid ≠ some [] ∧ ∀ products ∈ call.setPage set.uid,
        ∀ file ∈ scraped.1.sales.get? set.uid, ∀ product ∈ products,
          product.productType = .single → (file.get? product.productId).isSome) :
    Kept parsers (scrapeSetPage call scraped set).1
      (requests ++ (scrapeSetPage call scraped set).2) := by
  rw [scrapeSetPage]
  split_ifs with hskip
  · exact hkept
  · have hopen : scraped.1.products.get? set.uid = none ∨ call.forceRefresh := by
      rcases not_and_or.mp hskip with hnew | hforce
      · exact Or.inl (Option.not_isSome_iff_eq_none.mp hnew)
      · exact Or.inr (Bool.eq_true_of_not_eq_false hforce)
    obtain ⟨hnonempty, hnoneNew⟩ := hfull hopen
    have hasked (uid : String) :
        Request.catalogPage uid (some []) ∉ [.catalogPage set.uid (call.setPage set.uid)] := by
      intro hmem
      obtain ⟨-, hpage⟩ := Request.catalogPage.inj (List.mem_singleton.mp hmem)
      exact hnonempty hpage.symm
    have hmore := hkept.append hasked
    rw [List.append_assoc] at hmore
    split
    next hpage => exact hmore
    next products hpage => exact hmore.setProducts (hnoneNew products hpage)

/-- The page of a set changes its own file only, and no sales. -/
theorem storage_scrapeSetPage (call : CatalogCall) (scraped : Storage S × List Request)
    (set : SetInfo) :
    (scrapeSetPage call scraped set).1.sales = scraped.1.sales ∧
      ∀ uid, (scrapeSetPage call scraped set).1.products.get? uid = none →
        scraped.1.products.get? uid = none := by
  rw [scrapeSetPage]
  split_ifs
  · exact ⟨rfl, fun _ => id⟩
  · split
    · exact ⟨rfl, fun _ => id⟩
    · refine ⟨rfl, fun uid hnew => ?_⟩
      rw [Table.get?_set] at hnew
      split_ifs at hnew
      exact hnew

theorem kept_foldl_scrapeSetPage {state : Scraped S} {storage : Storage S}
    (hkept : Kept parsers storage state.requests) (hproducts : storage.products =
      state.storage.products) (hsales : storage.sales = state.storage.sales)
    (hfull : PagesFull state call) (pcSets : List SetInfo) :
    Kept parsers (pcSets.foldl (scrapeSetPage call) (storage, [])).1
      (state.requests ++ (pcSets.foldl (scrapeSetPage call) (storage, [])).2) := by
  have hfold := List.foldlRecOn pcSets (scrapeSetPage call)
    (motive := fun scraped => Kept parsers scraped.1 (state.requests ++ scraped.2) ∧
      scraped.1.sales = state.storage.sales ∧
      ∀ uid, scraped.1.products.get? uid = none → state.storage.products.get? uid = none)
    (b := (storage, [])) ⟨by simpa using hkept, hsales, fun uid => hproducts ▸ id⟩ ?_
  · exact hfold.1
  · rintro scraped ⟨hscraped, hfiles, hpages⟩ set -
    obtain ⟨hsame, hkeeps⟩ := storage_scrapeSetPage call scraped set
    refine ⟨kept_scrapeSetPage hscraped fun hopen => ?_, hsame.trans hfiles,
      fun uid hnew => hpages uid (hkeeps uid hnew)⟩
    have hasked := hopen.imp_left (hpages set.uid)
    exact ⟨hfull.nonempty set.uid hasked, hfiles ▸ hfull.noneNew set.uid hasked⟩

/-- A call none of whose pages is empty. -/
theorem kept_scrapeCatalog {state : Scraped S} (hkept : Kept parsers state.storage state.requests)
    (hfull : PagesFull state call) :
    Kept parsers (step parsers state (.catalog call)).storage
      (step parsers state (.catalog call)).requests := by
  rw [step, scrape, scrapeCatalog]
  split
  · exact kept_foldl_scrapeSetPage hkept rfl rfl hfull _
  · split
    next => simpa using hkept
    next rawItems _ =>
      have hsets : Kept parsers
          { state.storage with sets := some (buildPcSets parsers rawItems) } state.requests :=
        ⟨hkept.covered, hkept.genuine, hkept.nonempty⟩
      exact kept_foldl_scrapeSetPage hsets rfl rfl hfull _

end Catalog

/-! ## What is forgotten -/

section Forgotten

variable {S : Type} {parsers : Parsers S} {state : Scraped S}

theorem kept_start (parsers : Parsers S) :
    Kept parsers (Scraped.start : Scraped S).storage (Scraped.start : Scraped S).requests :=
  ⟨fun _ _ _ hfile => (by cases hfile), fun _ _ _ _ hfile => (by cases hfile),
    fun _ hmem => (by cases hmem)⟩

theorem Kept.step (hkept : Kept parsers state.storage state.requests) {call : Call}
    (hcomplete : Complete parsers state call) :
    Kept parsers (step parsers state call).storage (step parsers state call).requests := by
  cases call with
  | catalog call => exact kept_scrapeCatalog hkept hcomplete
  | sales call => exact kept_scrapeSales hkept hcomplete

/-- A product that was never fetched is in a set without a sales file. -/
theorem forgetsNoProduct_of_kept (hkept : Kept parsers state.storage state.requests)
    {call : SalesCall} (hnone : NoneFails parsers state call) :
    ForgetsNoProduct parsers state call := by
  constructor
  · rintro set product ⟨⟨pcSets, hsets, hset⟩, ⟨products, hproducts, hproduct⟩, hsingle⟩ hnever
    have hopen : state.storage.sales.get? set.uid = none := by
      by_contra hfile
      obtain ⟨file, hfile⟩ := Option.ne_none_iff_exists'.mp hfile
      obtain ⟨sales, hsales⟩ := Option.isSome_iff_exists.mp
        (hkept.covered set.uid file products hfile hproducts product hproduct hsingle)
      obtain ⟨text, hfetched, -⟩ := hkept.genuine set.uid file product.productId sales hfile hsales
      exact hnever text hfetched
    obtain ⟨response, hanswer⟩ := exists_singleAnswer call set.uid hproduct hsingle
    refine ⟨response, ?_⟩
    rw [scrapeSales, Option.mem_def.mp hsets]
    exact asked_foldl hset (Or.inl hopen) hproducts hanswer
  · rintro - set product ⟨⟨pcSets, hsets, hset⟩, ⟨products, hproducts, hproduct⟩, hsingle⟩
    have hafter := kept_scrapeSales hkept hnone
    have hfiles : (Scrape.step parsers state (.sales call)).storage.products =
          state.storage.products ∧
        ((Scrape.step parsers state (.sales call)).storage.sales.get? set.uid).isSome := by
      rw [Scrape.step, scrape, scrapeSales, Option.mem_def.mp hsets]
      exact ⟨products_foldl parsers call pcSets _, isSome_foldl hset hproducts⟩
    obtain ⟨file, hfile⟩ := Option.isSome_iff_exists.mp hfiles.2
    obtain ⟨sales, hsales⟩ := Option.isSome_iff_exists.mp
      (hafter.covered set.uid file products hfile (hfiles.1 ▸ hproducts) product hproduct hsingle)
    obtain ⟨text, hfetched, hparsed⟩ := hafter.genuine set.uid file product.productId sales
      hfile hsales
    exact ⟨file, hfile, sales, hsales, text, hfetched, hparsed⟩

theorem forgetsNothing_of_kept (hkept : Kept parsers state.storage state.requests) {call : Call}
    (hcomplete : Complete parsers state call) : ForgetsNothing parsers state call := by
  cases call with
  | catalog call =>
    rintro set - ⟨before, after, hrequests, -⟩
    exact absurd (hrequests ▸ List.mem_append_right _ List.mem_cons_self)
      (hkept.nonempty set.uid)
  | sales call => exact forgetsNoProduct_of_kept hkept hcomplete

end Forgotten

/-- In every run of calls none of whose fetches fails in a set that is scraped, and none of whose
pages of sets comes back empty or brings new singles to a set that has its sales, no call forgets
anything. -/
theorem nothing_is_forgotten {S : Type} (parsers : Parsers S) {calls : List Call}
    (hcalls : Run.StepsMeet (step parsers) (Complete parsers) .start calls) :
    Run.StepsMeet (step parsers) (ForgetsNothing parsers) .start calls := by
  have hstart := kept_start parsers
  generalize (Scraped.start : Scraped S) = state at hstart hcalls
  induction calls generalizing state with
  | nil => trivial
  | cons call rest ih =>
    exact ⟨forgetsNothing_of_kept hstart hcalls.1, ih _ (hstart.step hcalls.1) hcalls.2⟩

/-! ## Samples -/

/-- A page is its own sales. -/
def sampleParsers : Parsers String where
  lower := id
  strip := id
  parseSalesPage text _ := some text

def sampleProduct : Product := ⟨"6910", .single, "https://www.pricecharting.com/game/1"⟩

/-- One set with one single. -/
def sampleCatalog : CatalogCall where
  forceRefresh := false
  fetchSets := some [⟨"Magic Alpha", "G1"⟩]
  setPage _ := some [sampleProduct]

def sampleSales (response : Response) : SalesCall where
  forceRefresh := false
  fetchSalesHtml _ _ := response

/-- The page of the single raises, and it is not asked for again. -/
theorem failed_single_is_forgotten :
    ¬ ∀ calls : List Call, Run.StepsMeet (step sampleParsers) (ForgetsNothing sampleParsers)
      .start calls := by
  intro hclaim
  obtain ⟨-, -, hforgets, -⟩ :=
    hclaim [.catalog sampleCatalog, .sales (sampleSales .raised), .sales (sampleSales .raised)]
  have hcatalogued : Catalogued (step sampleParsers
      (step sampleParsers .start (.catalog sampleCatalog)) (.sales (sampleSales .raised))).storage
      ⟨"G1", "Magic Alpha"⟩ sampleProduct :=
    ⟨⟨[⟨"G1", "Magic Alpha"⟩], rfl, List.mem_singleton_self _⟩,
      ⟨[sampleProduct], rfl, List.mem_singleton_self _⟩, rfl⟩
  have hnever (text : String) : ¬ Fetched (step sampleParsers
      (step sampleParsers .start (.catalog sampleCatalog))
        (.sales (sampleSales .raised))).requests sampleProduct.productId text := by
    rintro ⟨uid, product, status, hmem, -⟩
    have hrequests : (step sampleParsers (step sampleParsers .start (.catalog sampleCatalog))
        (.sales (sampleSales .raised))).requests =
        [.catalogPage "G1" (some [sampleProduct]), .salesPage "G1" sampleProduct .raised] := rfl
    rw [hrequests] at hmem
    simp at hmem
  obtain ⟨response, hasked⟩ := hforgets.asked _ _ hcatalogued hnever
  exact List.not_mem_nil hasked

/-- The page of the single is answered. -/
theorem answered_single_is_kept :
    Run.StepsMeet (step sampleParsers) (ForgetsNothing sampleParsers) .start
      [.catalog sampleCatalog, .sales (sampleSales (.answered 200 "<html>"))] := by
  refine nothing_is_forgotten sampleParsers ⟨⟨?_, ?_⟩, ?_, trivial⟩
  · intro uid _ hempty
    cases hempty
  · intro uid _ products _ file hfile
    cases hfile
  · rintro uid products ⟨-, -, hproducts⟩ answer hanswer
    obtain ⟨single, -, rfl⟩ := List.mem_map.mp hanswer
    exact ⟨(by decide : (Response.answered 200 "<html>").Succeeds), rfl⟩

end AutoMana.PriceCharting.Scrape
