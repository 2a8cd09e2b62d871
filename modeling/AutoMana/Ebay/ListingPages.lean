import AutoMana.Ebay.CachedReads
import AutoMana.Relational.Pages
import AutoMana.Relational.ReadThrough

/-!
# Cached pages of listings and orders

Both reads embed the offset of the caller in the page that they cache. The key of the order
history has that offset, but the key of the active listings has the page number instead, and it
leaves out the marketplace: a read may find the page of another offset or marketplace.
-/

namespace AutoMana.Ebay.ListingPages

open Relational Relational.ReadThrough
open CachedReads (CacheKey activeListingsKey soldOrdersKey)

structure Account where
  userId : Nat
  appCode : String
deriving DecidableEq, Repr

variable {Item : Type}

/-- `PaginatedListings` and `PaginatedOrders`. -/
structure Paginated (Item : Type) where
  items : List Item
  total : Option Int
  offset : Int
  limit : Int
  hasMore : Bool
deriving DecidableEq

/-- `from_parts` -/
def Paginated.fromParts (items : List Item) (total : Option Int) (offset limit : Int) :
    Paginated Item where
  items
  total
  offset
  limit
  hasMore :=
    match total with
    | some total => offset + items.length < total
    | none => limit ≤ items.length

/-- The items of an answer and its total, if it can be read. -/
structure Answer (Item : Type) where
  items : List Item
  total : Option Int

/-- What does not change: the tokens, eBay's answers, and the tables that complete the items.
A call that raises has no answer. -/
structure Upstream (Item : Type) where
  hasToken : Account → Bool
  /-- `GetMyeBaySelling` of a number of entries, a page, and a marketplace. -/
  getActive : Account → Int → Int → String → Option (Answer Item)
  /-- `get_listing_meta_batch` -/
  catalogMeta : Account → Item → Item
  /-- `getOrders` of a limit and an offset. -/
  getHistory : Account → Int → Int → Option (Answer Item)
  /-- `get_order_statuses` -/
  localStatus : Account → Item → Item

inductive Read where
  | activeListings (account : Account) (limit offset : Int) (marketplaceId : String)
  | orderHistory (account : Account) (limit offset : Int)
deriving DecidableEq

/-- `page_number`, which the key has. -/
def pageNumber (limit offset : Int) : Int := (activeListingsKey limit offset).position

/-- The active listings of a page, as eBay answers in a marketplace; the request asks for no page
before the first. -/
def activePage (upstream : Upstream Item) (account : Account) (limit pageNumber : Int)
    (marketplaceId : String) : Option (Answer Item) :=
  (upstream.getActive account limit (max pageNumber 1) marketplaceId).map fun answer =>
    { answer with items := answer.items.map (upstream.catalogMeta account) }

def fetch (upstream : Upstream Item) : Read → Option (Paginated Item)
  | .activeListings account limit offset marketplaceId =>
    (activePage upstream account limit (pageNumber limit offset) marketplaceId).map fun answer =>
      .fromParts answer.items answer.total offset limit
  | .orderHistory account limit offset =>
    (upstream.getHistory account limit offset).map fun answer =>
      .fromParts (answer.items.map (upstream.localStatus account)) answer.total offset limit

def cacheKey : Read → Account × CacheKey
  | .activeListings account limit offset _ => (account, activeListingsKey limit offset)
  | .orderHistory account limit offset => (account, soldOrdersKey limit offset)

def Read.account : Read → Account
  | .activeListings account _ _ _ => account
  | .orderHistory account _ _ => account

/-- `get_active_listings` and `get_order_history`: the token comes before the cache. -/
def plan (upstream : Upstream Item) : Plan Read (Account × CacheKey) (Paginated Item) where
  key := cacheKey
  begins read := upstream.hasToken read.account
  fetch := fetch upstream

/-- A cached page, as `model_validate` makes it of what `model_dump` made of the page. -/
def reloadPage (reload : Item → Item) (cached : Paginated Item) : Paginated Item :=
  { cached with items := cached.items.map reload }

abbrev Reads (Item : Type) := State Read (Account × CacheKey) (Paginated Item)

/-! ## What is claimed, and the condition -/

/-- eBay pages the active listings of an account by number. -/
def PagesByNumber (upstream : Upstream Item) (active : Account → List Item) : Prop :=
  ∀ (account : Account) (limit number : ℕ) (marketplaceId : String), 0 < limit →
    ∃ total, upstream.getActive account limit (number + 1) marketplaceId =
      some ⟨page (active account) limit (number * limit), total⟩

/-- The pages at the offsets `0`, `limit`, `2 * limit`, and so on, are all active listings. -/
def PagesConcatenate (upstream : Upstream Item) (active : Account → List Item) : Prop :=
  ∀ account, upstream.hasToken account = true → ∀ (marketplaceId : String) (limit count : ℕ),
    0 < limit → (active account).length ≤ count * limit →
    ((List.range count).flatMap fun index =>
      ((plan upstream).plain (.activeListings account limit (index * limit : ℕ)
        marketplaceId)).elim [] (·.items)) =
      (active account).map (upstream.catalogMeta account)

/-- A read of active listings that finds a page finds one that was stored for its offset, by a
read in its marketplace or in one for which eBay answers alike. -/
def FindsItsPage (upstream : Upstream Item) (state : Reads Item) :
    Event Read (Account × CacheKey) → Prop
  | .read (.activeListings account limit offset marketplaceId) looks _ =>
    upstream.hasToken account = true → ∀ entry, state.found (plan upstream)
      (.activeListings account limit offset marketplaceId) looks = some entry →
    ∃ other, entry.1 = .activeListings account limit offset other ∧
      activePage upstream account limit (pageNumber limit offset) other =
        activePage upstream account limit (pageNumber limit offset) marketplaceId
  | _ => True

/-! ## Pages of one key -/

section Keys

variable {upstream : Upstream Item}

theorem fromParts_inj {one two : Answer Item} {offset other limit : Int}
    (hsame : Paginated.fromParts one.items one.total offset limit =
      Paginated.fromParts two.items two.total other limit) : one = two ∧ offset = other := by
  obtain ⟨hitems, htotal, hoffset, -, -⟩ := Paginated.mk.inj hsame
  obtain ⟨items, total⟩ := one
  obtain rfl : items = two.items := hitems
  obtain rfl : total = two.total := htotal
  exact ⟨rfl, hoffset⟩

/-- A read under the key of a read of active listings asks for the same page of it. -/
theorem activeListings_of_key {read : Read} {account : Account} {limit offset : Int}
    (hkey : cacheKey read = (account, activeListingsKey limit offset)) :
    ∃ other marketplaceId, read = .activeListings account limit other marketplaceId ∧
      pageNumber limit other = pageNumber limit offset := by
  cases read with
  | activeListings other otherLimit otherOffset marketplaceId =>
    obtain ⟨rfl, hpage⟩ := Prod.mk.inj hkey
    obtain ⟨-, rfl, hposition⟩ := CacheKey.mk.inj hpage
    exact ⟨otherOffset, marketplaceId, rfl, hposition⟩
  | orderHistory other otherLimit otherOffset =>
    obtain ⟨-, hpage⟩ := Prod.mk.inj hkey
    obtain ⟨hfamily, -⟩ := CacheKey.mk.inj hpage
    cases hfamily

/-- The key of the order history is all that is asked. -/
theorem orderHistory_of_key {read : Read} {account : Account} {limit offset : Int}
    (hkey : cacheKey read = (account, soldOrdersKey limit offset)) :
    read = .orderHistory account limit offset := by
  cases read with
  | activeListings other otherLimit otherOffset marketplaceId =>
    obtain ⟨-, hpage⟩ := Prod.mk.inj hkey
    obtain ⟨hfamily, -⟩ := CacheKey.mk.inj hpage
    cases hfamily
  | orderHistory other otherLimit otherOffset =>
    obtain ⟨rfl, hpage⟩ := Prod.mk.inj hkey
    obtain ⟨-, rfl, rfl⟩ := CacheKey.mk.inj hpage
    rfl

/-- A read fetches what a read in another marketplace fetched exactly when that one had its
offset and eBay answers both alike. -/
theorem fetch_activeListings_iff {account : Account} {limit offset other : Int}
    {marketplaceId filled : String} {stored : Paginated Item}
    (hnumber : pageNumber limit other = pageNumber limit offset)
    (hstored : fetch upstream (.activeListings account limit other filled) = some stored) :
    fetch upstream (.activeListings account limit other filled) =
        fetch upstream (.activeListings account limit offset marketplaceId) ↔
      other = offset ∧ activePage upstream account limit (pageNumber limit offset) filled =
        activePage upstream account limit (pageNumber limit offset) marketplaceId := by
  constructor
  · intro hsame
    rw [hstored] at hsame
    obtain ⟨one, hone, hstored⟩ := Option.map_eq_some_iff.mp hstored
    obtain ⟨two, htwo, hsame⟩ := Option.map_eq_some_iff.mp hsame.symm
    obtain ⟨rfl, rfl⟩ := fromParts_inj (hstored.trans hsame.symm)
    exact ⟨rfl, hone.trans htwo.symm⟩
  · rintro ⟨rfl, hsame⟩
    rw [fetch, fetch, hsame]

theorem agrees_iff {state : Reads Item} (hrecorded : Recorded (plan upstream) state)
    (event : Event Read (Account × CacheKey)) :
    Agrees (plan upstream) state event ↔ FindsItsPage upstream state event := by
  cases event with
  | drop doomed => exact Iff.rfl
  | read read looks stores =>
    cases read with
    | orderHistory account limit offset =>
      refine iff_of_true ?_ trivial
      intro _ entry hfound
      rw [orderHistory_of_key (hrecorded.found hfound).1]
    | activeListings account limit offset marketplaceId =>
      refine forall_congr' fun _ => forall_congr' fun entry => forall_congr' fun hfound => ?_
      obtain ⟨hkey, hfetch⟩ := hrecorded.found hfound
      obtain ⟨other, filled, hentry, hnumber⟩ := activeListings_of_key hkey
      rw [hentry] at hfetch ⊢
      refine (fetch_activeListings_iff hnumber hfetch).trans ?_
      constructor
      · rintro ⟨rfl, hsame⟩
        exact ⟨filled, rfl, hsame⟩
      · rintro ⟨marketplace, hread, hsame⟩
        obtain ⟨-, -, rfl, rfl⟩ := Read.activeListings.inj hread
        exact ⟨rfl, hsame⟩

theorem stepsMeet_agrees_iff (reload : Item → Item)
    (events : List (Event Read (Account × CacheKey))) :
    Run.StepsMeet (step (plan upstream) (reloadPage reload)) (Agrees (plan upstream)) start
        events ↔
      Run.StepsMeet (step (plan upstream) (reloadPage reload)) (FindsItsPage upstream) start
        events :=
  Run.stepsMeet_congr (fun _ event hrecorded => agrees_iff hrecorded event)
    (fun _ event hrecorded _ => recorded_step _ hrecorded event) (recorded_start _)

end Keys

/-! ## All pages -/

/-- The page of an offset at a multiple of the limit. -/
theorem pageNumber_mul {limit : Int} (hlimit : 0 < limit) (index : Int) :
    pageNumber limit (index * limit) = index + 1 := by
  rw [pageNumber, activeListingsKey, if_pos hlimit.ne',
    Int.fdiv_eq_ediv_of_nonneg _ hlimit.le, Int.mul_ediv_cancel _ hlimit.ne']

theorem pagesConcatenate_of_byNumber {upstream : Upstream Item} {active : Account → List Item}
    (hpages : PagesByNumber upstream active) : PagesConcatenate upstream active := by
  intro account htoken marketplaceId limit count hlimit hcount
  have hpage : ∀ index : ℕ, ((plan upstream).plain (.activeListings account limit
      (index * limit : ℕ) marketplaceId)).elim [] (·.items) =
        (page (active account) limit (index * limit)).map (upstream.catalogMeta account) := by
    intro index
    obtain ⟨total, hactive⟩ := hpages account limit index marketplaceId hlimit
    have hnumber : pageNumber limit ((index * limit : ℕ) : Int) = index + 1 := by
      rw [Int.natCast_mul, pageNumber_mul (Int.natCast_pos.mpr hlimit)]
    have hfirst : max ((index : Int) + 1) 1 = index + 1 := max_eq_left (by omega)
    have hplain : (plan upstream).plain (.activeListings account limit (index * limit : ℕ)
        marketplaceId) = fetch upstream (.activeListings account limit (index * limit : ℕ)
          marketplaceId) := if_pos htoken
    rw [hplain, fetch, activePage, hnumber, hfirst, hactive]
    rfl
  rw [List.flatMap_congr fun index _ => hpage index, ← List.map_flatMap]
  exact congrArg _ (pages_eq_self hcount)

theorem reloadPage_eq {reload : Item → Item} (hreload : ∀ item, reload item = item)
    (cached : Paginated Item) : reloadPage reload cached = cached := by
  have hid : reload = id := funext hreload
  rw [reloadPage, hid, List.map_id]

/-- Every read of a run, from an empty cache, answers as with an empty cache, and the pages are
all active listings, exactly when each read of active listings that finds a page finds its own. -/
theorem cached_pages_iff {upstream : Upstream Item} {active : Account → List Item}
    (hpages : PagesByNumber upstream active) {reload : Item → Item}
    (hreload : ∀ item, reload item = item) (events : List (Event Read (Account × CacheKey))) :
    ((∀ state ∈ Run.visited (step (plan upstream) (reloadPage reload)) start events,
        PlainAnswers (plan upstream) state) ∧ PagesConcatenate upstream active) ↔
      Run.StepsMeet (step (plan upstream) (reloadPage reload)) (FindsItsPage upstream) start
        events := by
  rw [plainAnswers_iff (reloadPage_eq hreload) events,
    and_iff_left (pagesConcatenate_of_byNumber hpages), stepsMeet_agrees_iff]

/-- Reads in one marketplace, at multiples of their limits. -/
def Aligned (marketplaceId : String) : Read → Prop
  | .activeListings _ limit offset other => 0 < limit ∧ limit ∣ offset ∧ other = marketplaceId
  | .orderHistory _ _ _ => True

theorem eq_of_aligned {marketplaceId : String} {one two : Read} (hone : Aligned marketplaceId one)
    (htwo : Aligned marketplaceId two) (hkey : cacheKey one = cacheKey two) : one = two := by
  cases two with
  | orderHistory account limit offset => exact orderHistory_of_key hkey
  | activeListings account limit offset marketplace =>
    obtain ⟨other, filled, rfl, hnumber⟩ := activeListings_of_key hkey
    obtain ⟨hlimit, ⟨first, rfl⟩, rfl⟩ := hone
    obtain ⟨-, ⟨second, rfl⟩, rfl⟩ := htwo
    rw [Int.mul_comm, pageNumber_mul hlimit, Int.mul_comm, pageNumber_mul hlimit] at hnumber
    obtain rfl : first = second := by omega
    rfl

/-- Readers in one marketplace that go page by page never find the page of another. -/
theorem findsItsPage_of_aligned (upstream : Upstream Item) (reload : Item → Item)
    (marketplaceId : String) {events : List (Event Read (Account × CacheKey))}
    (haligned : ∀ read looks stores, .read read looks stores ∈ events →
      Aligned marketplaceId read) :
    Run.StepsMeet (step (plan upstream) (reloadPage reload)) (FindsItsPage upstream) start
      events := by
  have hkeyed : ∀ one two, Aligned marketplaceId one → Aligned marketplaceId two →
      (plan upstream).key one = (plan upstream).key two →
      (plan upstream).fetch one = (plan upstream).fetch two := by
    intro one two hone htwo hkey
    rw [eq_of_aligned hone htwo hkey]
  rw [← stepsMeet_agrees_iff]
  exact agrees_of_keyed (reloadPage reload) hkeyed haligned (recorded_start (plan upstream))
    (fun key entry hentry => by cases hentry)

/-! ## Samples -/

/-- Three listings, in every marketplace, and no orders. -/
def threeListings : Upstream ℕ where
  hasToken _ := true
  getActive _ limit number _ :=
    some ⟨page [1, 2, 3] limit.toNat ((number.toNat - 1) * limit.toNat), some 3⟩
  catalogMeta _ item := item
  getHistory _ _ _ := some ⟨[], some 0⟩
  localStatus _ item := item

theorem pagesByNumber_threeListings : PagesByNumber threeListings fun _ => [1, 2, 3] := by
  intro account limit number marketplaceId _
  exact ⟨some 3, rfl⟩

/-- The first page is read, and then the page from the second listing on. -/
def secondOffset : List (Event Read (Account × CacheKey)) :=
  [.read (.activeListings ⟨1, "app"⟩ 2 0 "15") true true,
    .read (.activeListings ⟨1, "app"⟩ 2 1 "15") true true]

theorem other_offset_finds_the_page :
    ¬ ∀ (Item : Type) (upstream : Upstream Item) (active : Account → List Item)
      (reload : Item → Item) (events : List (Event Read (Account × CacheKey))),
      PagesByNumber upstream active → (∀ item, reload item = item) →
      (∀ state ∈ Run.visited (step (plan upstream) (reloadPage reload)) start events,
        PlainAnswers (plan upstream) state) ∧ PagesConcatenate upstream active := by
  intro hclaim
  have hplain := (hclaim ℕ threeListings (fun _ => [1, 2, 3]) id secondOffset
    pagesByNumber_threeListings (fun _ => rfl)).1 _ (Run.foldl_mem_visited _ _ _)
  have hsecond := hplain (.activeListings ⟨1, "app"⟩ 2 1 "15",
    some ⟨[1, 2], some 3, 0, 2, true⟩) (by decide)
  revert hsecond
  decide

/-- The pages one after another, and the first one again. -/
def pageByPage : List (Event Read (Account × CacheKey)) :=
  [.read (.activeListings ⟨1, "app"⟩ 2 0 "15") true true,
    .read (.activeListings ⟨1, "app"⟩ 2 2 "15") true true,
    .read (.activeListings ⟨1, "app"⟩ 2 0 "15") true true]

theorem page_by_page_is_plain :
    (∀ state ∈ Run.visited (step (plan threeListings) (reloadPage id)) start pageByPage,
      PlainAnswers (plan threeListings) state) ∧
    PagesConcatenate threeListings fun _ => [1, 2, 3] := by
  refine (cached_pages_iff pagesByNumber_threeListings (fun _ => rfl) pageByPage).mpr
    (findsItsPage_of_aligned threeListings id "15" ?_)
  intro read looks stores hread
  simp only [pageByPage, List.mem_cons, List.not_mem_nil, or_false, Event.read.injEq] at hread
  rcases hread with ⟨rfl, -⟩ | ⟨rfl, -⟩ | ⟨rfl, -⟩
  all_goals exact ⟨by decide, by decide, rfl⟩

end AutoMana.Ebay.ListingPages
