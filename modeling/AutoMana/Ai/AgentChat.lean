import AutoMana.Ai.AgentTools
import AutoMana.Relational.Views

/-!
# What the chat agent is told

The model chooses the tools and their arguments. The id of the user is always put in, the code of
an app only when the request gives one, and it is not compared with the apps of the user. So the
tools tell nothing of others exactly when every query of sold orders is for an app of the user.
-/

namespace AutoMana.Ai

open Relational

/-! ## A turn of the agent -/

structure ToolCall where
  id : String
  name : String
  /-- What `json.loads` returns; `none` when it raises. -/
  arguments : Option Json

/-- An answer of the model. -/
structure Response where
  message : Json
  /-- The text of the message without what was thought. -/
  content : String
  /-- When the model finishes with tool calls, these. -/
  toolCalls : List ToolCall

structure ToolMessage where
  toolCallId : String
  content : Json

/-- A call of `run_agent_turn`, and what it meets outside. -/
structure Turn where
  sessionId : String
  message : String
  appCode : Option String
  now : Int
  /-- The history is read and has not expired. -/
  loads : Bool
  saves : Bool
  /-- The answer to messages, with tools or without; `none` when there is none. -/
  model : List Json → Bool → Option Response

/-- The database, and the histories in Redis by their keys. -/
structure World where
  database : Database
  chats : Table String (List Json)

def historyKey (userId sessionId : String) : String := "ai:chat:" ++ userId ++ ":" ++ sessionId

/-- `history[-window:]` -/
def lastOf (window : Nat) (history : List Json) : List Json :=
  if window = 0 then history else history.drop (history.length - window)

/-- `args[name] = value` -/
def assign (fields : Fields) (name : String) (value : Json) : Fields :=
  fields.filter (·.1 ≠ name) ++ [(name, value)]

/-- The arguments with the values that the server puts in; `none` when it raises. -/
def injected (userId : String) (appCode : Option String) (call : ToolCall) : Option Json :=
  let arguments := call.arguments.getD (.dict [])
  if call.name = "get_collection_summary" then
    arguments.dict?.map fun fields => .dict (assign fields "user_id" (.str userId))
  else if call.name = "get_active_listings" ∨ call.name = "get_sold_orders" then
    match appCode with
    | some code => arguments.dict?.map fun fields => .dict (assign fields "app_code" (.str code))
    | none => some arguments
  else some arguments

section Agent

variable (lib : Libraries) (window : Nat) (userId : String)

/-- The result of a tool, or the message that it raised. -/
def toolResult (tool : Fields → Option Json) (arguments : Json) : Json :=
  (arguments.dict?.bind tool).getD (.dict [("error", .str "Error retrieving data")])

/-- The message for a call; a tool that is not known is left out. -/
def toolMessage (now : Int) (database : Database) (appCode : Option String) (call : ToolCall) :
    Option ToolMessage :=
  (toolMap lib now database call.name).map fun tool =>
    ⟨call.id, toolResult tool ((injected userId appCode call).getD .null)⟩

/-- `none` when the arguments of some call raise. -/
def toolMessages (now : Int) (database : Database) (appCode : Option String)
    (calls : List ToolCall) : Option (List ToolMessage) :=
  if calls.all fun call => (injected userId appCode call).isSome then
    some (calls.filterMap (toolMessage lib userId now database appCode))
  else none

def roleMessage (role content : String) : Json :=
  .dict [("role", .str role), ("content", .str content)]

def toJson (message : ToolMessage) : Json :=
  .dict [("role", .str "tool"), ("tool_call_id", .str message.toolCallId),
    ("content", message.content)]

def history (chats : Table String (List Json)) (turn : Turn) : List Json :=
  (if turn.loads then
    lastOf window ((chats.get? (historyKey userId turn.sessionId)).getD [])
  else []) ++ [roleMessage "user" turn.message]

def finalContent (content : String) : String :=
  if content = "" then "I couldn't generate a response. Please try again." else content

/-- `_save_history` with the reply. -/
def reply (chats : Table String (List Json)) (turn : Turn) (content : String) :
    Table String (List Json) :=
  if turn.saves then
    chats.set (historyKey userId turn.sessionId)
      (history window userId chats turn ++ [roleMessage "assistant" (finalContent content)])
  else chats

/-- `run_agent_turn`, and the tool results that it passes to the model. -/
def runAgentTurn (world : World) (turn : Turn) : World × List ToolMessage :=
  let messages := history window userId world.chats turn
  match turn.model messages true with
  | none => (world, [])
  | some response =>
    match response.toolCalls with
    | [] => ({ world with chats := reply window userId world.chats turn response.content }, [])
    | calls =>
      match toolMessages lib userId turn.now world.database turn.appCode calls with
      | none => (world, [])
      | some results =>
        match turn.model (messages ++ [response.message] ++ results.map toJson) false with
        | none => (world, results)
        | some second =>
          ({ world with chats := reply window userId world.chats turn second.content }, results)

end Agent

/-! ## What is claimed, and the condition -/

/-- Two databases agree on what is the user's and on what is public. -/
structure Agree (userId : String) (first second : Database) : Prop where
  collections : first.collections.restrict userId = second.collections.restrict userId
  linked : ∀ appCode, Linked first userId appCode ↔ Linked second userId appCode
  orders : ∀ appCode, Linked first userId appCode →
    (first.orders.part fun key _ => decide (key.2 = appCode)) =
      second.orders.part fun key _ => decide (key.2 = appCode)
  cards : first.cards = second.cards
  prices : first.prices = second.prices
  granted : first.granted = second.granted

structure Same (userId : String) (first second : World) : Prop where
  database : Agree userId first.database second.database
  chats : ∀ sessionId, first.chats.get? (historyKey userId sessionId) =
    second.chats.get? (historyKey userId sessionId)

/-- The query that a call of `get_sold_orders` runs. -/
def ordersQuery (lib : Libraries) (now : Int) (granted : Bool) (userId : String)
    (appCode : Option String) (call : ToolCall) : Option SoldOrdersQuery :=
  if call.name = "get_sold_orders" then do
    let arguments ← injected userId appCode call
    let fields ← arguments.dict?
    soldOrdersQuery lib now granted fields
  else none

/-- Every query of sold orders that can return a row is for an app of the user. -/
def OwnOrders (lib : Libraries) (userId : String) (world : World) (turn : Turn)
    (calls : List ToolCall) : Prop :=
  ∀ call ∈ calls, ∀ query,
    ordersQuery lib turn.now world.database.granted userId turn.appCode call = some query →
      ∀ code, query.appCode = some code → code.length ≤ 50 → query.limit ≠ some 0 →
        Linked world.database userId code

/-- A turn whose arguments do not raise asks for sold orders of the user only. -/
def OwnTurn (lib : Libraries) (window : Nat) (userId : String) (world : World) (turn : Turn) :
    Prop :=
  ∀ response, turn.model (history window userId world.chats turn) true = some response →
    (∀ call ∈ response.toolCalls, (injected userId turn.appCode call).isSome) →
      OwnOrders lib userId world turn response.toolCalls

/-! ## Tools that tell the same -/

section Tools

variable {lib : Libraries} {now : Int} {userId : String} {first second : Database}

/-- The items in active collections of a user are the user's. -/
theorem activeItems_congr (hagree : Agree userId first second) :
    activeItems first userId = activeItems second userId := by
  have hpart : ∀ database : Database, activeItems database userId =
      (database.collections.restrict userId).items.rows.filter fun row =>
        ((database.collections.restrict userId).collections.get? row.2.collectionId).any
          fun collection => decide (collection.isActive = some true) := by
    intro database
    have hactive : ∀ collectionId, ((database.collections.collections.get? collectionId).any
        fun collection => decide (collection.userId = userId) &&
          decide (collection.isActive = some true)) =
        ((database.collections.restrict userId).collections.get? collectionId).any
          fun collection => decide (collection.isActive = some true) := by
      intro collectionId
      rw [Collections.Database.restrict, Table.get?_part, Option.any_filter]
      rfl
    simp only [activeItems, hactive]
    refine (Table.filter_rows_part _ fun row hselected => ?_).symm
    rw [← hactive] at hselected
    obtain ⟨collection, hcollection, howner⟩ := (Option.any_eq_true _ _).mp hselected
    rw [Bool.and_eq_true] at howner
    exact Collections.Database.owns_iff.mpr
      ⟨collection, hcollection, of_decide_eq_true howner.1⟩
  rw [hpart, hpart, hagree.collections]

/-- The orders of an app of the user are the same, and a code that is too long has none. -/
theorem soldOrders_congr (hagree : Agree userId first second) {query : SoldOrdersQuery}
    (hown : ∀ code, query.appCode = some code → code.length ≤ 50 → query.limit ≠ some 0 →
      Linked first userId code) :
    soldOrders lib first query = soldOrders lib second query := by
  have hrows : query.limit ≠ some 0 → ∀ appCode, query.appCode = appCode →
      (first.orders.rows.filter fun row =>
        decide (some row.1.2 = appCode) && row.2.shippedAt.any (query.since ≤ ·)) =
      second.orders.rows.filter fun row =>
        decide (some row.1.2 = appCode) && row.2.shippedAt.any (query.since ≤ ·) := by
    intro hlimit appCode happCode
    cases appCode with
    | none => simp
    | some code =>
      by_cases hshort : code.length ≤ 50
      · have hsame := hagree.orders code (hown code happCode hshort hlimit)
        have hkept : ∀ row : (String × String) × OrderStatus,
            (decide (some row.1.2 = some code) && row.2.shippedAt.any (query.since ≤ ·)) = true →
              decide (row.1.2 = code) = true := by
          intro row hrow
          rw [Bool.and_eq_true, decide_eq_true_eq, Option.some.injEq] at hrow
          exact decide_eq_true hrow.1
        have hpart : ∀ database : Database, _ := fun database =>
          @Table.filter_rows_part _ _ database.orders (fun key _ => decide (key.2 = code)) _ hkept
        rw [← hpart first, hsame, hpart second]
      · have hnone : ∀ database : Database, (database.orders.rows.filter fun row =>
            decide (some row.1.2 = some code) && row.2.shippedAt.any (query.since ≤ ·)) = [] := by
          intro database
          refine List.filter_eq_nil_iff.mpr fun row hrow hselected => ?_
          rw [Bool.and_eq_true, decide_eq_true_eq, Option.some.injEq] at hselected
          exact hshort (hselected.1 ▸ database.shortCodes row hrow)
        rw [hnone, hnone]
  by_cases hlimit : query.limit = some 0
  · simp [soldOrders, soldOrderRows, hlimit]
  · simp only [soldOrders, soldOrderRows, hrows hlimit _ rfl]

theorem argument_assign (fields : Fields) (name : String) (value default : Json) :
    argument (assign fields name value) name default = value := by
  have hnone : (fields.filter (·.1 ≠ name)).lookup name = none := by
    rw [List.lookup_eq_none_iff]
    intro field hfield
    have hne := (List.mem_filter.mp hfield).2
    simpa using fun heq : name = field.1 => of_decide_eq_true hne heq.symm
  rw [argument, assign, List.lookup_append, hnone, Option.none_or]
  simp

/-- The id of the user that is put in decides what is counted. -/
theorem getCollectionSummary_congr (hagree : Agree userId first second) (fields : Fields) :
    getCollectionSummary first (assign fields "user_id" (.str userId)) =
      getCollectionSummary second (assign fields "user_id" (.str userId)) := by
  simp only [getCollectionSummary, argument_assign, Json.str?, hagree.granted, Option.bind_eq_bind,
    Option.bind_some, activeItems_congr hagree]

/-- The other tools read nothing but public tables. -/
theorem toolMap_congr (hagree : Agree userId first second) {name : String}
    (hsummary : name ≠ "get_collection_summary") (horders : name ≠ "get_sold_orders") :
    toolMap lib now first name = toolMap lib now second name := by
  have hcards : searchRows lib first = searchRows lib second := by
    funext query
    simp only [searchRows, hagree.cards]
  have hsearch : searchCards lib first = searchCards lib second := by
    funext fields
    rw [searchCards, searchCards, hcards]
  have hrows : priceRows lib first = priceRows lib second := by
    funext pattern selected limit
    simp only [priceRows, hagree.prices]
  have hprices : getCardPrices lib first = getCardPrices lib second := by
    funext fields
    rw [getCardPrices, getCardPrices, hrows, hagree.granted]
  have hcomps : getMarketComps lib first = getMarketComps lib second := by
    funext fields
    rw [getMarketComps, getMarketComps, hrows, hagree.granted]
  simp only [toolMap, hsearch, hprices, hcomps]
  split
  all_goals first | rfl | skip
  · exact absurd rfl hsummary
  · exact absurd rfl horders

/-- A call that asks for nothing of others is answered alike. -/
theorem toolMessage_congr (hagree : Agree userId first second) {appCode : Option String}
    {call : ToolCall}
    (hown : ∀ query, ordersQuery lib now first.granted userId appCode call = some query →
      ∀ code, query.appCode = some code → code.length ≤ 50 → query.limit ≠ some 0 →
        Linked first userId code) :
    toolMessage lib userId now first appCode call =
      toolMessage lib userId now second appCode call := by
  by_cases hsummary : call.name = "get_collection_summary"
  · simp only [toolMessage, injected, hsummary, if_pos, toolMap, Option.map_some, toolResult]
    cases (call.arguments.getD (.dict [])).dict? with
    | none => rfl
    | some fields =>
      simp only [Option.map_some, Option.getD_some, Json.dict?, Option.bind_some,
        getCollectionSummary_congr hagree]
  · by_cases horders : call.name = "get_sold_orders"
    · simp only [toolMessage, horders, toolMap, Option.map_some, toolResult]
      cases hinjected : injected userId appCode call with
      | none => rfl
      | some arguments =>
        cases hfields : arguments.dict? with
        | none => simp [hfields]
        | some fields =>
          simp only [Option.getD_some, hfields, Option.bind_some, getSoldOrders, ← hagree.granted]
          cases hquery : soldOrdersQuery lib now first.granted fields with
          | none => rfl
          | some query =>
            have hruns : ordersQuery lib now first.granted userId appCode call = some query := by
              rw [ordersQuery, if_pos horders, hinjected]
              simp [hfields, hquery]
            simp only [Option.map_some, soldOrders_congr hagree (hown query hruns)]
    · simp only [toolMessage, toolMap_congr hagree hsummary horders]

end Tools

/-! ## Turns that tell the same -/

section Turns

variable {lib : Libraries} {window : Nat} {userId : String}

theorem toolMessages_congr {now : Int} {first second : Database} {appCode : Option String}
    (calls : List ToolCall)
    (hmessages : (∀ call ∈ calls, (injected userId appCode call).isSome) → ∀ call ∈ calls,
      toolMessage lib userId now first appCode call =
        toolMessage lib userId now second appCode call) :
    toolMessages lib userId now first appCode calls =
      toolMessages lib userId now second appCode calls := by
  rw [toolMessages, toolMessages]
  split_ifs with hinjected
  · rw [List.all_eq_true] at hinjected
    exact congrArg some (List.filterMap_congr (hmessages hinjected))
  · rfl

theorem history_congr {first second : World} (hsame : Same userId first second) (turn : Turn) :
    history window userId first.chats turn = history window userId second.chats turn := by
  rw [history, history, hsame.chats]

/-- The histories of the user stay the same when the same reply is saved. -/
theorem Same.reply {first second : World} (hsame : Same userId first second) (turn : Turn)
    (content : String) :
    Same userId { first with chats := reply window userId first.chats turn content }
      { second with chats := reply window userId second.chats turn content } := by
  refine ⟨hsame.database, fun sessionId => ?_⟩
  simp only [Ai.reply, history_congr hsame turn]
  split_ifs
  · simp only [Table.get?_set, hsame.chats]
  · exact hsame.chats sessionId

/-- A turn that asks for sold orders of the user only tells the same of both. -/
theorem runAgentTurn_same {first second : World} (hsame : Same userId first second) {turn : Turn}
    (hown : OwnTurn lib window userId first turn) :
    (runAgentTurn lib window userId first turn).2 =
        (runAgentTurn lib window userId second turn).2 ∧
      Same userId (runAgentTurn lib window userId first turn).1
        (runAgentTurn lib window userId second turn).1 := by
  simp only [runAgentTurn, ← history_congr hsame turn]
  cases hmodel : turn.model (history window userId first.chats turn) true with
  | none => exact ⟨rfl, hsame⟩
  | some response =>
    have hmessages := @toolMessages_congr lib userId turn.now first.database second.database
      turn.appCode response.toolCalls fun hinjected call hcall =>
        toolMessage_congr hsame.database (hown response hmodel hinjected call hcall)
    dsimp only
    cases hcalls : response.toolCalls with
    | nil => exact ⟨rfl, hsame.reply turn response.content⟩
    | cons call rest =>
      rw [hcalls] at hmessages
      dsimp only
      rw [← hmessages]
      cases toolMessages lib userId turn.now first.database turn.appCode (call :: rest) with
      | none => exact ⟨rfl, hsame⟩
      | some results =>
        dsimp only
        cases turn.model (history window userId first.chats turn ++ [response.message] ++
            results.map toJson) false with
        | none => exact ⟨rfl, hsame⟩
        | some final => exact ⟨rfl, hsame.reply turn final.content⟩

theorem unwinds (lib : Libraries) (window : Nat) (userId : String) :
    Views.Unwinds (runAgentTurn lib window userId) (Same userId) (OwnTurn lib window userId) where
  answer _ _ _ hsame hown _ := (runAgentTurn_same hsame hown).1
  state _ _ _ hsame hown _ := (runAgentTurn_same hsame hown).2

theorem OwnTurn.congr {first second : World} (hsame : Same userId first second) {turn : Turn}
    (hown : OwnTurn lib window userId first turn) : OwnTurn lib window userId second turn := by
  intro response hmodel hinjected call hcall query hquery code hcode hshort hlimit
  rw [← history_congr hsame turn] at hmodel
  rw [← hsame.database.granted] at hquery
  exact (hsame.database.linked code).mp
    (hown response hmodel hinjected call hcall query hquery code hcode hshort hlimit)

theorem database_runAgentTurn (world : World) (turn : Turn) :
    (runAgentTurn lib window userId world turn).1.database = world.database := by
  rw [runAgentTurn]
  split
  · rfl
  · split
    · rfl
    · split
      · rfl
      · split <;> rfl

end Turns

/-! ## Orders of an app of others -/

section Foreign

variable {lib : Libraries} {userId : String} {database : Database} {code : String}

/-- The orders of an app are deleted. -/
def withoutOrders (database : Database) (code : String) : Database where
  __ := database
  orders := database.orders.deleteWhere fun key _ => decide (key.2 = code)
  shortCodes row hrow := database.shortCodes row (List.mem_of_mem_filter hrow)

/-- The app has one order, which was shipped at the time. -/
def withOrder (database : Database) (code : String) (hshort : code.length ≤ 50)
    (shippedAt : Int) : Database where
  __ := database
  orders := (withoutOrders database code).orders.set ("", code)
    ⟨"sent", none, none, some shippedAt⟩
  shortCodes row hrow := by
    rw [Table.rows_set_of_new (by simp [withoutOrders])] at hrow
    rcases List.mem_append.mp hrow with hold | hnew
    · exact (withoutOrders database code).shortCodes row hold
    · rw [List.mem_singleton.mp hnew]
      exact hshort

theorem part_withoutOrders {other : String} (hne : other ≠ code) :
    ((withoutOrders database code).orders.part fun key _ => decide (key.2 = other)) =
      database.orders.part fun key _ => decide (key.2 = other) := by
  rw [withoutOrders, Table.part_deleteWhere]
  refine Table.deleteWhere_of_none _ fun row hrow => ?_
  rw [Table.rows_part, List.mem_filter, decide_eq_true_eq] at hrow
  rw [hrow.2]
  exact decide_eq_false hne

theorem agree_withoutOrders (hforeign : ¬ Linked database userId code) :
    Agree userId database (withoutOrders database code) where
  collections := rfl
  linked _ := Iff.rfl
  orders other hlinked := by
    have hne : other ≠ code := fun hsame => hforeign (hsame ▸ hlinked)
    exact (part_withoutOrders hne).symm
  cards := rfl
  prices := rfl
  granted := rfl

theorem agree_withOrder (hforeign : ¬ Linked database userId code) (hshort : code.length ≤ 50)
    (shippedAt : Int) : Agree userId database (withOrder database code hshort shippedAt) where
  collections := rfl
  linked _ := Iff.rfl
  orders other hlinked := by
    have hne : other ≠ code := fun hsame => hforeign (hsame ▸ hlinked)
    have hnew : (withoutOrders database code).orders.get? ("", code) = none := by
      simp [withoutOrders]
    have hpart := @Table.part_set_of_dropped _ _ _ _ (fun key _ => decide (key.2 = other)) _ hnew
      ⟨"sent", none, none, some shippedAt⟩ (decide_eq_false hne.symm)
    exact (hpart.trans (part_withoutOrders hne)).symm
  cards := rfl
  prices := rfl
  granted := rfl

theorem soldOrders_withoutOrders {query : SoldOrdersQuery} (hcode : query.appCode = some code) :
    soldOrders lib (withoutOrders database code) query = .list [] := by
  have hnone : ((withoutOrders database code).orders.rows.filter fun row =>
      decide (some row.1.2 = query.appCode) && row.2.shippedAt.any (query.since ≤ ·)) = [] := by
    refine List.filter_eq_nil_iff.mpr fun row hrow hselected => ?_
    have hkept := (List.mem_filter.mp hrow).2
    simp only [hcode, Bool.and_eq_true, decide_eq_true_eq, Option.some.injEq] at hselected
    simp [hselected.1] at hkept
  rw [soldOrders, soldOrderRows, hnone]
  cases query.limit <;> simp

theorem soldOrders_withOrder {query : SoldOrdersQuery} (hcode : query.appCode = some code)
    (hshort : code.length ≤ 50) (hlimit : query.limit ≠ some 0) :
    soldOrders lib (withOrder database code hshort query.since) query ≠ .list [] := by
  have hrows : ((withOrder database code hshort query.since).orders.rows.filter fun row =>
      decide (some row.1.2 = query.appCode) && row.2.shippedAt.any (query.since ≤ ·)) =
        [(("", code), ⟨"sent", none, none, some query.since⟩)] := by
    rw [withOrder, Table.rows_set_of_new (by simp [withoutOrders]), List.filter_append,
      show ((withoutOrders database code).orders.rows.filter _) = [] from ?_]
    · simp [hcode]
    · refine List.filter_eq_nil_iff.mpr fun row hrow hselected => ?_
      have hkept := (List.mem_filter.mp hrow).2
      simp only [hcode, Bool.and_eq_true, decide_eq_true_eq, Option.some.injEq] at hselected
      simp [hselected.1] at hkept
  rw [soldOrders, soldOrderRows, hrows]
  cases hquery : query.limit with
  | none => simp
  | some count =>
    cases count with
    | zero => exact absurd hquery hlimit
    | succ count => simp

end Foreign

/-! ## Turns that tell of others -/

section Tells

variable {lib : Libraries} {window : Nat} {userId : String}

theorem toolMessage_of_ordersQuery {now : Int} {database : Database} {appCode : Option String}
    {call : ToolCall} {query : SoldOrdersQuery}
    (hquery : ordersQuery lib now database.granted userId appCode call = some query) :
    toolMessage lib userId now database appCode call =
      some ⟨call.id, soldOrders lib database query⟩ := by
  rw [ordersQuery] at hquery
  split_ifs at hquery with hname
  obtain ⟨arguments, hinjected, hquery⟩ := Option.bind_eq_some_iff.mp hquery
  obtain ⟨fields, hfields, hquery⟩ := Option.bind_eq_some_iff.mp hquery
  simp only [toolMessage, hname, toolMap, Option.map_some, toolResult, hinjected,
    Option.getD_some, hfields, Option.bind_some, getSoldOrders, hquery]

/-- Whether a tool is known does not depend on the rows. -/
theorem isSome_toolMessage (now : Int) (first second : Database) (appCode : Option String)
    (call : ToolCall) :
    (toolMessage lib userId now first appCode call).isSome =
      (toolMessage lib userId now second appCode call).isSome := by
  simp only [toolMessage, Option.isSome_map, toolMap]
  split <;> rfl

/-- Lists of messages that differ in one of them. -/
theorem filterMap_ne {α β : Type} {first second : α → Option β} {calls : List α}
    (hknown : ∀ call, (first call).isSome = (second call).isSome) {call : α}
    (hcall : call ∈ calls) (hne : first call ≠ second call) :
    calls.filterMap first ≠ calls.filterMap second := by
  induction calls with
  | nil => cases hcall
  | cons head rest ih =>
    have hhead := hknown head
    intro heq
    rw [List.filterMap_cons, List.filterMap_cons] at heq
    cases hfirst : first head with
    | none =>
      cases hsecond : second head with
      | some => simp [hfirst, hsecond] at hhead
      | none =>
        rw [hfirst, hsecond] at heq
        rcases List.mem_cons.mp hcall with rfl | hrest
        · exact hne (hfirst.trans hsecond.symm)
        · exact ih hrest heq
    | some message =>
      cases hsecond : second head with
      | none => simp [hfirst, hsecond] at hhead
      | some other =>
        rw [hfirst, hsecond] at heq
        obtain ⟨rfl, htail⟩ := List.cons.inj heq
        rcases List.mem_cons.mp hcall with rfl | hrest
        · exact hne (hfirst.trans hsecond.symm)
        · exact ih hrest htail

theorem results_runAgentTurn {world : World} {turn : Turn} {response : Response}
    (hmodel : turn.model (history window userId world.chats turn) true = some response)
    (hinjected : ∀ call ∈ response.toolCalls, (injected userId turn.appCode call).isSome) :
    (runAgentTurn lib window userId world turn).2 = response.toolCalls.filterMap
      (toolMessage lib userId turn.now world.database turn.appCode) := by
  have hmessages : toolMessages lib userId turn.now world.database turn.appCode
      response.toolCalls = some (response.toolCalls.filterMap
        (toolMessage lib userId turn.now world.database turn.appCode)) := by
    rw [toolMessages, if_pos (List.all_eq_true.mpr hinjected)]
  simp only [runAgentTurn, hmodel]
  cases hcalls : response.toolCalls with
  | nil => rfl
  | cons call rest =>
    rw [hcalls] at hmessages
    simp only [hmessages]
    split <;> rfl

/-- A query of sold orders of an app of others tells whether it has any. -/
theorem exists_telling {world : World} {turn : Turn}
    (hforeign : ¬ OwnTurn lib window userId world turn) :
    ∃ other, Agree userId world.database other ∧
      ∀ beside, Same userId world beside → beside.database = other →
        (runAgentTurn lib window userId beside turn).2 ≠
          (runAgentTurn lib window userId world turn).2 := by
  simp only [OwnTurn, OwnOrders, not_forall] at hforeign
  obtain ⟨response, hmodel, hinjected, call, hcall, query, hquery, code, hcode, hshort, hlimit,
    hforeign⟩ := hforeign
  -- another database in which the query returns something else
  have hother : ∃ other, Agree userId world.database other ∧
      soldOrders lib other query ≠ soldOrders lib world.database query := by
    by_cases hempty : soldOrders lib world.database query = .list []
    · refine ⟨_, agree_withOrder hforeign hshort query.since, ?_⟩
      rw [hempty]
      exact soldOrders_withOrder hcode hshort hlimit
    · refine ⟨_, agree_withoutOrders hforeign, ?_⟩
      rw [soldOrders_withoutOrders hcode]
      exact fun heq => hempty heq.symm
  obtain ⟨other, hagree, hrows⟩ := hother
  refine ⟨other, hagree, fun beside hsame hbeside => ?_⟩
  rw [results_runAgentTurn hmodel hinjected,
    results_runAgentTurn ((history_congr hsame turn) ▸ hmodel) hinjected, hbeside]
  refine filterMap_ne (isSome_toolMessage turn.now other world.database turn.appCode) hcall ?_
  have hqueryOther := hagree.granted ▸ hquery
  rw [toolMessage_of_ordersQuery hqueryOther, toolMessage_of_ordersQuery hquery]
  intro heq
  exact hrows (congrArg ToolMessage.content (Option.some.inj heq))

end Tells

/-- What the tools tell in any sequence of turns of a user is the same in all worlds that agree
on what is the user's and on what is public, exactly when every query of sold orders that the
model makes in any of them is for an app of the user. -/
theorem agent_tells_same_iff (lib : Libraries) (window : Nat) (userId : String)
    (turns : List Turn) :
    (∀ first second, Same userId first second →
      Views.answers (runAgentTurn lib window userId) first turns =
        Views.answers (runAgentTurn lib window userId) second turns) ↔
      ∀ world, Run.StepsMeet (fun world turn => (runAgentTurn lib window userId world turn).1)
        (OwnTurn lib window userId) world turns := by
  refine (unwinds lib window userId).answers_eq_iff
    (fun _ _ _ hsame hown => hown.congr hsame) database_runAgentTurn (fun world other hagree => ?_)
    (fun world turn hforeign => exists_telling hforeign) turns
  exact ⟨{ world with database := other }, ⟨hagree, fun _ => rfl⟩, rfl⟩

/-! ## An app that the model names -/

/-- Libraries in which a week has seven units of time. -/
def plainLibraries : Libraries where
  str _ := "7"
  textArg value := value.str?.map some
  intArg
    | .number units _ => some (some units)
    | _ => none
  minusInterval now _ := some (now - 7)
  ilike name pattern := name == pattern
  searches _ _ := false
  rank _ _ := 0
  collate name other := decide (name ≤ other)
  timestamp _ := "2026-01-01"

/-- A user without apps asks, the request names no app, and the model asks for another's. -/
def nosyTurn : Turn where
  sessionId := "s"
  message := "What did shop B sell?"
  appCode := none
  now := 10
  loads := true
  saves := true
  model _ _ := some ⟨.null, "", [⟨"call", "get_sold_orders",
    some (.dict [("app_code", .str "shop_b")])⟩]⟩

/-- Another user has an app that sold something, or nothing. -/
def shopWorld (orders : Table (String × String) OrderStatus)
    (hshort : ∀ row ∈ orders.rows, row.1.2.length ≤ 50) : World :=
  ⟨⟨Collections.nothingStored, .single "app" "shop_b", [("2", "app")], orders, hshort, [], [],
    true⟩, .empty⟩

def soldOnce : Table (String × String) OrderStatus :=
  .single ("order", "shop_b") ⟨"sent", none, none, some 9⟩

/-- The user is told whether the app of another has sold anything. -/
theorem told_of_another_app :
    ¬ ∀ first second, Same "1" first second →
      Views.answers (runAgentTurn plainLibraries 20 "1") first [nosyTurn] =
        Views.answers (runAgentTurn plainLibraries 20 "1") second [nosyTurn] := by
  intro hall
  have hunlinked : ∀ orders hshort code,
      ¬ Linked (shopWorld orders hshort).database "1" code := by
    rintro orders hshort code ⟨appId, happ, -⟩
    simp [shopWorld] at happ
  have hsame : Same "1" (shopWorld .empty (by decide)) (shopWorld soldOnce (by decide)) := by
    refine ⟨⟨rfl, fun code => ?_, fun code hlinked => ?_, rfl, rfl, rfl⟩, fun _ => rfl⟩
    · exact iff_of_false (hunlinked _ _ code) (hunlinked _ _ code)
    · exact absurd hlinked (hunlinked _ _ code)
  have hresults : ∀ orders hshort, Views.answers (runAgentTurn plainLibraries 20 "1")
      (shopWorld orders hshort) [nosyTurn] = [[⟨"call", soldOrders plainLibraries
        (shopWorld orders hshort).database ⟨some "shop_b", 3, some 20⟩⟩]] := fun _ _ => rfl
  have hanswers := hall _ _ hsame
  rw [hresults, hresults] at hanswers
  simp [soldOrders, soldOrderRows, shopWorld, soldOnce, Table.single, Table.empty] at hanswers

end AutoMana.Ai
