import AutoMana.Relational.Dict
import AutoMana.Relational.Passage

/-!
# The context of the weekly Shopify chain

Each service of the chain gets the context that the services before it left, as far as its
parameters name it, and what it returns is put into the context. Between two services the context
is a message.
-/

namespace AutoMana.Shopify

open Relational

abbrev Context := Table String Value

/-- A row of `get_active_pipeline_markets`. -/
structure Market where
  marketId : Int
  name : String
  apiUrl : String
  countryCode : String
  sourceId : Int
  sourceCode : String
  deriving DecidableEq

/-- `dict(row)` -/
def Market.dict (market : Market) : Value :=
  .dict [(.str "market_id", .int market.marketId), (.str "name", .str market.name),
    (.str "api_url", .str market.apiUrl), (.str "country_code", .str market.countryCode),
    (.str "source_id", .int market.sourceId), (.str "source_code", .str market.sourceCode)]

/-- What the services do outside of the context. -/
inductive Call where
  | processJsonDirToParquet (marketId : Key) (pathToJson : String) (marketCode : Value)
      (outputPath : String)
  | stageDataFromParquet (marketId : Key) (parquetBasePath : Value)

/-- A service does calls, and returns a dictionary or raises. -/
structure Service where
  parameters : List String
  body : Context → List Call × Option (List (String × Value))

/-! ## The services -/

/-- The markets, their handles that are marked as `mtg`, and the root of the storage. -/
structure Storefronts where
  markets : List Market
  mtgHandles : Int → List String
  basePath : String

/-- The directory of a market that was fetched. -/
def Storefronts.fetchDir (storefronts : Storefronts) (market : Market) : String :=
  storefronts.basePath ++ "/" ++ toString market.sourceId ++ "_fetch"

def Storefronts.marketDirs (storefronts : Storefronts) : List (Key × Value) :=
  Value.assignAll [] ((storefronts.markets.filter
    fun market => !(storefronts.mtgHandles market.marketId).isEmpty).map
      fun market => (.int market.marketId, .str (storefronts.fetchDir market)))

def fetchAllMarkets (storefronts : Storefronts) : Service where
  parameters := ["ingestion_run_id"]
  body _ := ([], some [("market_dirs", .dict storefronts.marketDirs),
    ("markets", .list (storefronts.markets.map Market.dict))])

/-- `value[name]`; `none` when it raises. -/
def item? (value : Value) (name : String) : Option Value :=
  match value with
  | .dict fields => fields.lookup (.str name)
  | _ => none

/-- A number or a text as a key. -/
def key? : Value → Option Key
  | .number units 0 => some (.int units)
  | .str text => some (.str text)
  | _ => none

def marketKey (market : Value) : Option Key := (item? market "market_id").bind key?

/-- `value or {}`, where the value is a dictionary or `None`. -/
def fieldsOr (value : Option Value) : List (Key × Value) :=
  match value with
  | some (.dict fields) => fields
  | _ => []

/-- `value or []`, where the value is a list or `None`. -/
def itemsOr (value : Option Value) : List Value :=
  match value with
  | some (.list items) => items
  | _ => []

/-- `str(Path(path).parent)` -/
def parent (path : String) : String := "/".intercalate (path.splitOn "/").dropLast

def parquetDir (outDir : String) (marketId : Key) : String :=
  parent outDir ++ "/parquet/" ++ marketId.text

/-- The loop of `process_to_parquet`. -/
def processMarkets (marketDirs : List (Key × Value)) :
    List Value → List (Key × Value) → List Call × Option (List (Key × Value))
  | [], parquetDirs => ([], some parquetDirs)
  | market :: rest, parquetDirs =>
    match marketKey market with
    | none => ([], none)
    | some marketId =>
      match marketDirs.lookup marketId with
      -- no fetch dir for market
      | none => processMarkets marketDirs rest parquetDirs
      | some .none => processMarkets marketDirs rest parquetDirs
      | some (.str outDir) =>
        let later := processMarkets marketDirs rest
          (Value.assign parquetDirs marketId (.str (parquetDir outDir marketId)))
        (.processJsonDirToParquet marketId (parent outDir)
            ((item? market "source_code").getD .none) (parquetDir outDir marketId) :: later.1,
          later.2)
      | some _ => ([], none)

def processToParquet : Service where
  parameters := ["ingestion_run_id", "market_dirs", "markets"]
  body kwargs :=
    let processed := processMarkets (fieldsOr (kwargs.get? "market_dirs"))
      (itemsOr (kwargs.get? "markets")) []
    (processed.1, processed.2.map fun parquetDirs =>
      [("parquet_dirs", .dict parquetDirs), ("markets", (kwargs.get? "markets").getD .none)])

/-- The loop of `stage_raw`. -/
def stageMarkets (parquetDirs : List (Key × Value)) : List Value → List Call × Option Unit
  | [] => ([], some ())
  | market :: rest =>
    match marketKey market, item? market "source_id" with
    | some marketId, some _ =>
      match parquetDirs.lookup marketId with
      -- no parquet dir for market
      | none => stageMarkets parquetDirs rest
      | some .none => stageMarkets parquetDirs rest
      | some parquetBasePath =>
        let later := stageMarkets parquetDirs rest
        (.stageDataFromParquet marketId parquetBasePath :: later.1, later.2)
    | _, _ => ([], none)

def stageRaw : Service where
  parameters := ["ingestion_run_id", "parquet_dirs", "markets"]
  body kwargs :=
    let staged := stageMarkets (fieldsOr (kwargs.get? "parquet_dirs"))
      (itemsOr (kwargs.get? "markets"))
    (staged.1, staged.2.map fun _ => [("markets", (kwargs.get? "markets").getD .none)])

/-! ## The chain -/

/-- `run_service`: the service gets what its parameters name, and its result is put into the
context. -/
def runService (service : Service) (context : Context) : List Call × Option Context :=
  let ran := service.body (context.deleteWhere fun name _ => name ∉ service.parameters)
  (ran.1, ran.2.map context.setAll)

/-- The services in a row, the context being passed on between two of them. -/
def runChain (pass : Value → Value) : List Service → Context → List Call
  | [], _ => []
  | service :: rest, context =>
    let ran := runService service context
    ran.1 ++ ran.2.elim [] fun next => runChain pass rest (next.mapValues fun _ value => pass value)

/-- The services of `shopify_weekly_pipeline` from the fetch to the staging. -/
def shopifyChain (storefronts : Storefronts) : List Service :=
  [fetchAllMarkets storefronts, processToParquet, stageRaw]

/-- Every market with a directory is processed and staged. -/
def ProcessesFetched (pass : Value → Value) (storefronts : Storefronts) (context : Context) :
    Prop :=
  ∀ market ∈ storefronts.markets,
    Key.int market.marketId ∈ storefronts.marketDirs.map Prod.fst →
      (∃ pathToJson marketCode outputPath,
        .processJsonDirToParquet (.int market.marketId) pathToJson marketCode outputPath ∈
          runChain pass (shopifyChain storefronts) context) ∧
      ∃ parquetBasePath, .stageDataFromParquet (.int market.marketId) parquetBasePath ∈
        runChain pass (shopifyChain storefronts) context

/-! ## What the services get -/

theorem get?_kwargs (context : Context) (service : Service) {name : String}
    (hname : name ∈ service.parameters) :
    (context.deleteWhere fun name _ => name ∉ service.parameters).get? name =
      context.get? name := by
  rw [Table.get?_deleteWhere]
  cases context.get? name with
  | none => rfl
  | some value => simp [hname]

theorem runService_processToParquet {context : Context} {marketDirs markets : Value}
    (hdirs : context.get? "market_dirs" = some marketDirs)
    (hmarkets : context.get? "markets" = some markets) :
    runService processToParquet context =
      let processed := processMarkets (fieldsOr (some marketDirs)) (itemsOr (some markets)) []
      (processed.1, processed.2.map fun parquetDirs =>
        context.setAll [("parquet_dirs", .dict parquetDirs), ("markets", markets)]) := by
  have hbody : ∀ kwargs : Context, processToParquet.body kwargs =
      let processed := processMarkets (fieldsOr (kwargs.get? "market_dirs"))
        (itemsOr (kwargs.get? "markets")) []
      (processed.1, processed.2.map fun parquetDirs =>
        [("parquet_dirs", .dict parquetDirs), ("markets", (kwargs.get? "markets").getD .none)]) :=
    fun _ => rfl
  rw [runService, hbody, get?_kwargs context processToParquet (by decide),
    get?_kwargs context processToParquet (by decide), hdirs, hmarkets]
  simp only [Option.map_map, Option.getD_some]
  rfl

theorem runService_stageRaw {context : Context} {parquetDirs markets : Value}
    (hdirs : context.get? "parquet_dirs" = some parquetDirs)
    (hmarkets : context.get? "markets" = some markets) :
    (runService stageRaw context).1 =
      (stageMarkets (fieldsOr (some parquetDirs)) (itemsOr (some markets))).1 := by
  have hbody : ∀ kwargs : Context, (stageRaw.body kwargs).1 =
      (stageMarkets (fieldsOr (kwargs.get? "parquet_dirs"))
        (itemsOr (kwargs.get? "markets"))).1 := fun _ => rfl
  rw [runService, hbody, get?_kwargs context stageRaw (by decide),
    get?_kwargs context stageRaw (by decide), hdirs, hmarkets]

/-- What a service returned under two names is what the next one gets under them. -/
theorem get?_returned (context : Context) {first second : String} (hne : first ≠ second)
    (value other : Value) (pass : Value → Value) :
    ((context.setAll [(first, value), (second, other)]).mapValues
        fun _ value => pass value).get? first = some (pass value) ∧
      ((context.setAll [(first, value), (second, other)]).mapValues
        fun _ value => pass value).get? second = some (pass other) := by
  simp [Table.setAll, hne]

theorem runChain_singleton (pass : Value → Value) (service : Service) (context : Context) :
    runChain pass [service] context = (runService service context).1 := by
  rw [runChain]
  cases (runService service context).2 <;> exact List.append_nil _

/-- The calls of the chain, in terms of what is passed on. -/
theorem runChain_shopifyChain (pass : Value → Value) (storefronts : Storefronts)
    (context : Context) :
    runChain pass (shopifyChain storefronts) context =
      let markets := pass (.list (storefronts.markets.map Market.dict))
      let processed := processMarkets (fieldsOr (some (pass (.dict storefronts.marketDirs))))
        (itemsOr (some markets)) []
      processed.1 ++ processed.2.elim [] fun parquetDirs =>
        (stageMarkets (fieldsOr (some (pass (.dict parquetDirs))))
          (itemsOr (some (pass markets)))).1 := by
  have hfetch : runService (fetchAllMarkets storefronts) context =
      ([], some (context.setAll [("market_dirs", .dict storefronts.marketDirs),
        ("markets", .list (storefronts.markets.map Market.dict))])) := rfl
  obtain ⟨hdirs, hmarkets⟩ := @get?_returned context "market_dirs" "markets" (by decide)
    (.dict storefronts.marketDirs) (.list (storefronts.markets.map Market.dict)) pass
  rw [shopifyChain, runChain, hfetch, Option.elim_some, List.nil_append, runChain,
    runService_processToParquet hdirs hmarkets]
  dsimp only
  congr 1
  cases (processMarkets _ _ _).2 with
  | none => rfl
  | some parquetDirs =>
    obtain ⟨hparquet, hmarkets⟩ := @get?_returned _ "parquet_dirs" "markets" (by decide)
      (.dict parquetDirs) (pass (.list (storefronts.markets.map Market.dict))) pass
    rw [Option.map_some, Option.elim_some, Option.elim_some, runChain_singleton,
      runService_stageRaw hparquet hmarkets]

/-! ## Markets that are passed on -/

theorem Market.dict_plain (market : Market) : market.dict.Plain := by
  refine ⟨?_, ?_⟩
  · simp
  · simp [Value.PlainFields, Value.Plain, Value.int]

theorem passed_markets (markets : List Market) :
    (Value.list (markets.map Market.dict)).passed = .list (markets.map Market.dict) :=
  Value.passed_of_plain (Value.plainItems_map fun market _ => market.dict_plain)

theorem marketKey_dict (market : Market) : marketKey market.dict = some (.int market.marketId) :=
  rfl

/-! ## The loops, market by market -/

section Loops

variable {market : Market} {rest : List Value} {dirs parquetDirs : List (Key × Value)}

theorem processMarkets_of_none (hdir : dirs.lookup (.int market.marketId) = none) :
    processMarkets dirs (market.dict :: rest) parquetDirs =
      processMarkets dirs rest parquetDirs := by
  rw [processMarkets, marketKey_dict]
  simp only [hdir]

theorem processMarkets_of_dir {outDir : String}
    (hdir : dirs.lookup (.int market.marketId) = some (.str outDir)) :
    processMarkets dirs (market.dict :: rest) parquetDirs =
      let later := processMarkets dirs rest (Value.assign parquetDirs (.int market.marketId)
        (.str (parquetDir outDir (.int market.marketId))))
      (.processJsonDirToParquet (.int market.marketId) (parent outDir) (.str market.sourceCode)
        (parquetDir outDir (.int market.marketId)) :: later.1, later.2) := by
  have hcode : item? market.dict "source_code" = some (.str market.sourceCode) := rfl
  rw [processMarkets, marketKey_dict, hcode]
  simp only [hdir, Option.getD_some]

theorem stageMarkets_of_none (hdir : dirs.lookup (.int market.marketId) = none) :
    stageMarkets dirs (market.dict :: rest) = stageMarkets dirs rest := by
  have hsource : item? market.dict "source_id" = some (.int market.sourceId) := rfl
  rw [stageMarkets, marketKey_dict, hsource]
  simp only [hdir]

theorem stageMarkets_of_dir {parquetDir : String}
    (hdir : dirs.lookup (.int market.marketId) = some (.str parquetDir)) :
    stageMarkets dirs (market.dict :: rest) =
      (.stageDataFromParquet (.int market.marketId) (.str parquetDir) ::
        (stageMarkets dirs rest).1, (stageMarkets dirs rest).2) := by
  have hsource : item? market.dict "source_id" = some (.int market.sourceId) := rfl
  rw [stageMarkets, marketKey_dict, hsource]
  simp only [hdir]

end Loops

/-- Directories that no market finds are not processed. -/
theorem processMarkets_of_missing {marketDirs : List (Key × Value)} {markets : List Market}
    (hmissing : ∀ market ∈ markets, marketDirs.lookup (.int market.marketId) = none)
    (parquetDirs : List (Key × Value)) :
    processMarkets marketDirs (markets.map Market.dict) parquetDirs = ([], some parquetDirs) := by
  induction markets with
  | nil => rfl
  | cons market rest ih =>
    rw [List.map_cons, processMarkets_of_none (hmissing market List.mem_cons_self)]
    exact ih fun other hother => hmissing other (List.mem_cons_of_mem _ hother)

theorem stageMarkets_of_missing {parquetDirs : List (Key × Value)} {markets : List Market}
    (hmissing : ∀ market ∈ markets, parquetDirs.lookup (.int market.marketId) = none) :
    stageMarkets parquetDirs (markets.map Market.dict) = ([], some ()) := by
  induction markets with
  | nil => rfl
  | cons market rest ih =>
    rw [List.map_cons, stageMarkets_of_none (hmissing market List.mem_cons_self)]
    exact ih fun other hother => hmissing other (List.mem_cons_of_mem _ hother)

/-- When the context is a message, nothing is processed and nothing staged. -/
theorem runChain_passed (storefronts : Storefronts) (context : Context) :
    runChain Value.passed (shopifyChain storefronts) context = [] := by
  have hmissing : ∀ fields : List (Key × Value), ∀ market ∈ storefronts.markets,
      (fieldsOr (some (Value.dict fields).passed)).lookup (.int market.marketId) = none :=
    fun fields market _ => Value.lookup_int_passed fields market.marketId
  rw [runChain_shopifyChain, passed_markets]
  dsimp only [itemsOr]
  rw [processMarkets_of_missing (hmissing storefronts.marketDirs), passed_markets]
  dsimp only [Option.elim_some, List.nil_append]
  rw [stageMarkets_of_missing (hmissing [])]

/-- The fetch reports a directory for the markets that have a handle. -/
theorem reported_iff {storefronts : Storefronts} {market : Market}
    (hmarket : market ∈ storefronts.markets) :
    Key.int market.marketId ∈ storefronts.marketDirs.map Prod.fst ↔
      storefronts.mtgHandles market.marketId ≠ [] := by
  rw [Storefronts.marketDirs, Value.keys_assignAll, List.map_map]
  simp only [List.map_nil, List.not_mem_nil, false_or, List.mem_map, List.mem_filter,
    Function.comp_apply, Key.int.injEq, Bool.not_eq_true', List.isEmpty_eq_false_iff]
  constructor
  · rintro ⟨other, ⟨-, hhandles⟩, hsame⟩
    rwa [hsame] at hhandles
  · intro hhandles
    exact ⟨market, ⟨hmarket, hhandles⟩, rfl⟩

/-- The chain processes and stages what was fetched exactly when nothing was. -/
theorem processesFetched_iff (storefronts : Storefronts) (context : Context) :
    ProcessesFetched Value.passed storefronts context ↔
      ∀ market ∈ storefronts.markets, storefronts.mtgHandles market.marketId = [] := by
  rw [ProcessesFetched, runChain_passed]
  constructor
  · intro hall market hmarket
    by_contra hhandles
    obtain ⟨⟨_, _, _, hcall⟩, -⟩ := hall market hmarket ((reported_iff hmarket).mpr hhandles)
    cases hcall
  · intro hnone market hmarket hreported
    exact absurd (hnone market hmarket) ((reported_iff hmarket).mp hreported)

/-- A market that was fetched. -/
def goodGames : Storefronts where
  markets := [⟨1, "Good Games Brisbane", "https://tcg.goodgames.com.au", "AUD", 3, "gg_brisbane"⟩]
  mtgHandles _ := ["magic-singles"]
  basePath := "/data/automana_data/shopify"

/-- It is neither processed nor staged. -/
theorem fetched_market_is_lost :
    ¬ ProcessesFetched Value.passed goodGames (.single "ingestion_run_id" (.int 1)) := by
  intro hall
  obtain ⟨⟨_, _, _, hcall⟩, -⟩ := hall _ List.mem_cons_self (by decide)
  rw [runChain_passed] at hcall
  cases hcall

/-! ## In one process -/

section InProcess

variable {markets : List Market}

/-- All values are texts. -/
def Texts (fields : List (Key × Value)) : Prop :=
  ∀ key value, fields.lookup key = some value → ∃ text, value = .str text

/-- With directories for keys, the loop gives each of its markets that has one a parquet directory,
and processes it. -/
theorem processMarkets_spec {marketDirs : List (Key × Value)} (htexts : Texts marketDirs)
    {parquetDirs : List (Key × Value)} (hparquet : Texts parquetDirs) :
    ∃ next, (processMarkets marketDirs (markets.map Market.dict) parquetDirs).2 = some next ∧
      Texts next ∧ (∀ key, (parquetDirs.lookup key).isSome → (next.lookup key).isSome) ∧
      ∀ market ∈ markets, (marketDirs.lookup (.int market.marketId)).isSome →
        (next.lookup (.int market.marketId)).isSome ∧
        ∃ pathToJson marketCode outputPath,
          .processJsonDirToParquet (.int market.marketId) pathToJson marketCode outputPath ∈
            (processMarkets marketDirs (markets.map Market.dict) parquetDirs).1 := by
  induction markets generalizing parquetDirs with
  | nil => exact ⟨parquetDirs, rfl, hparquet, fun _ hkey => hkey, fun _ hmarket => by cases hmarket⟩
  | cons market rest ih =>
    rw [List.map_cons]
    cases hdir : marketDirs.lookup (.int market.marketId) with
    | none =>
      rw [processMarkets_of_none hdir]
      obtain ⟨next, hnext, hnextTexts, hkept, hrest⟩ := ih hparquet
      refine ⟨next, hnext, hnextTexts, hkept, fun other hother hfound => ?_⟩
      rcases List.mem_cons.mp hother with rfl | hother
      · rw [hdir] at hfound
        cases hfound
      · exact hrest other hother hfound
    | some dir =>
      obtain ⟨outDir, rfl⟩ := htexts _ _ hdir
      rw [processMarkets_of_dir hdir]
      have hassigned : Texts (Value.assign parquetDirs (.int market.marketId)
          (.str (parquetDir outDir (.int market.marketId)))) := by
        intro key value hvalue
        rw [Value.lookup_assign] at hvalue
        split_ifs at hvalue
        · exact ⟨_, (Option.some.inj hvalue).symm⟩
        · exact hparquet key value hvalue
      obtain ⟨next, hnext, hnextTexts, hkept, hrest⟩ := ih hassigned
      have hself := hkept (.int market.marketId) (by rw [Value.lookup_assign, if_pos rfl]; rfl)
      refine ⟨next, hnext, hnextTexts, fun key hkey => hkept key ?_, fun other hother hfound => ?_⟩
      · rw [Value.lookup_assign]
        split_ifs
        · rfl
        · exact hkey
      · rcases List.mem_cons.mp hother with rfl | hother
        · exact ⟨hself, _, _, _, List.mem_cons_self⟩
        · obtain ⟨hfound, _, _, _, hcall⟩ := hrest other hother hfound
          exact ⟨hfound, _, _, _, List.mem_cons_of_mem _ hcall⟩

/-- Every market with a parquet directory is staged. -/
theorem stageMarkets_spec {parquetDirs : List (Key × Value)} (htexts : Texts parquetDirs) :
    ∀ market ∈ markets, (parquetDirs.lookup (.int market.marketId)).isSome →
      ∃ parquetBasePath, .stageDataFromParquet (.int market.marketId) parquetBasePath ∈
        (stageMarkets parquetDirs (markets.map Market.dict)).1 := by
  induction markets with
  | nil => exact fun _ hmarket => by cases hmarket
  | cons market rest ih =>
    intro other hother hfound
    rw [List.map_cons]
    cases hdir : parquetDirs.lookup (.int market.marketId) with
    | none =>
      rw [stageMarkets_of_none hdir]
      rcases List.mem_cons.mp hother with rfl | hother
      · rw [hdir] at hfound
        cases hfound
      · exact ih other hother hfound
    | some dir =>
      obtain ⟨parquetBasePath, rfl⟩ := htexts _ _ hdir
      rw [stageMarkets_of_dir hdir]
      rcases List.mem_cons.mp hother with rfl | hother
      · exact ⟨_, List.mem_cons_self⟩
      · obtain ⟨_, hcall⟩ := ih other hother hfound
        exact ⟨_, List.mem_cons_of_mem _ hcall⟩

end InProcess

/-- When the context is handed on as it is, every market that was fetched is processed and
staged. -/
theorem processesFetched_in_process (storefronts : Storefronts) (context : Context) :
    ProcessesFetched id storefronts context := by
  intro market hmarket hreported
  rw [runChain_shopifyChain]
  dsimp only [id_eq, fieldsOr, itemsOr]
  have htexts : Texts storefronts.marketDirs := by
    intro key value hvalue
    rcases Value.lookup_assignAll hvalue with hnil | hentry
    · cases hnil
    · obtain ⟨other, -, hpair⟩ := List.mem_map.mp hentry
      exact ⟨_, (congrArg Prod.snd hpair).symm⟩
  have hfound : (storefronts.marketDirs.lookup (.int market.marketId)).isSome := by
    rw [List.lookup_isSome_iff]
    obtain ⟨field, hfield, hkey⟩ := List.mem_map.mp hreported
    exact ⟨field, hfield, by simp [hkey]⟩
  obtain ⟨next, hnext, hnextTexts, -, hmarkets⟩ :=
    @processMarkets_spec storefronts.markets _ htexts [] fun _ _ hvalue => by cases hvalue
  obtain ⟨hparquet, _, _, _, hprocessed⟩ := hmarkets market hmarket hfound
  obtain ⟨_, hstaged⟩ := stageMarkets_spec hnextTexts market hmarket hparquet
  rw [hnext, Option.elim_some]
  exact ⟨⟨_, _, _, List.mem_append_left _ hprocessed⟩, _, List.mem_append_right _ hstaged⟩

end AutoMana.Shopify
