import AutoMana.Queries.CardSearch

/-!
# The queries of users and sessions

`UserRepository.search_users`, `UserRepository.update` and `SessionRepository.search`. The update
numbers its user one too far when the full name is not among its values.
-/

namespace AutoMana.Queries

open Relational

/-! ## Arguments -/

structure UserSearch where
  username : Option String
  email : Option String
  fullName : Option String
  searchQuery : Option String
  disabled : Option Bool
  createdAfter : Option String
  createdBefore : Option String
  limit : Int
  offset : Int
  sortBy : String
  sortOrder : String
  deriving Inhabited

structure UserUpdate where
  userId : String
  username : Option String
  email : Option String
  fullname : Option String

structure SessionSearch where
  userId : Option String
  username : Option String
  sessionIdFilter : Option String
  ipAddress : Option String
  userAgent : Option String
  tokenId : Option String
  limit : Int
  offset : Int
  deriving Inhabited

/-! ## Conditions and their values -/

/-- The conditions of a query in their order, each with its value if it is given. -/
abbrev Given := List (Template × Option Value)

def filtersOf (given : Given) : List (Sql Value) :=
  given.flatMap fun part => (part.2.map part.1.fill).toList

def builderOf (given : Given) : Builder Value :=
  given.foldl (fun builder part => builder.addGiven part.1 part.2) .start

theorem builds_of (given : Given) : (builderOf given).Builds (filtersOf given) := by
  have hfold : ∀ {builder : Builder Value} {filters}, builder.Builds filters →
      (given.foldl (fun builder part => builder.addGiven part.1 part.2) builder).Builds
        (filters ++ filtersOf given) := by
    induction given with
    | nil =>
      intro builder filters hbuilds
      rw [filtersOf, List.flatMap_nil, List.append_nil]
      exact hbuilds
    | cons part rest ih =>
      intro builder filters hbuilds
      have hrest := ih (hbuilds.addGiven part.1 part.2)
      rwa [List.append_assoc] at hrest
  exact hfold Builder.builds_start

def SessionSearch.given (args : SessionSearch) : Given :=
  [(.one "user_id = " "", args.userId.map .text),
    (.one "username ILIKE " "", args.username.map likeValue),
    (.one "session_id = " "", args.sessionIdFilter.map .text),
    (.one "ip_address = " "", args.ipAddress.map .text),
    (.one "user_agent ILIKE " "", args.userAgent.map likeValue),
    (.one "token_id = " "", args.tokenId.map .text)]

/-- The search query stands in two columns with one value. -/
def UserSearch.given (args : UserSearch) : Given :=
  [(.one "username ILIKE " "", (Queries.given args.username).map likeValue),
    (.one "email ILIKE " "", (Queries.given args.email).map likeValue),
    (.one "fullname ILIKE " "", (Queries.given args.fullName).map likeValue),
    (⟨"(username ILIKE ", " OR fullname ILIKE ", [")"]⟩,
      (Queries.given args.searchQuery).map likeValue),
    (.one "disabled = " "", args.disabled.map .bool),
    (.one "created_at >= " "", (Queries.given args.createdAfter).map .text),
    (.one "created_at <= " "", (Queries.given args.createdBefore).map .text)]

def UserUpdate.given (args : UserUpdate) : Given :=
  [(.one " username = " "", args.username.map .text),
    (.one " email = " "", args.email.map .text),
    (.one " fullname = " "", args.fullname.map .text)]

/-! ## Pages -/

/-- A query with an order, a limit and an offset. -/
def pagedText {α : Type} (select order : String) (conditions : List (Sql α)) (limit offset : α) :
    Sql α :=
  .text select :: Sql.whereClause conditions ++
    [.text order, .text " LIMIT ", .slot limit, .text " OFFSET ", .slot offset]

def pagedQuery (select order : String) (builder : Builder Value) (limit offset : Int) :
    Query Value :=
  ⟨pagedText select order builder.conditions builder.counter (builder.counter + 1),
    builder.values ++ [.int limit, .int offset]⟩

theorem pagedQuery_binds {builder : Builder Value} {filters : List (Sql Value)}
    (hbuilds : builder.Builds filters) (select order : String) (limit offset : Int) :
    (pagedQuery select order builder limit offset).Binds
      (pagedText select order filters (.int limit) (.int offset)) := by
  have hreads : (pagedQuery select order builder limit offset).sql.Reads
      (pagedQuery select order builder limit offset).values
      (pagedText select order filters (.int limit) (.int offset)) := by
    obtain ⟨hlimit, hoffset⟩ := hbuilds.valueAt_pair (Value.int limit) (Value.int offset)
    simp only [Sql.Reads, Sql.resolve, pagedQuery, pagedText, Sql.map_append, Sql.map_text,
      Sql.map_slot, Sql.map_whereClause, List.cons_append, hbuilds.map_conditions_append, hlimit,
      hoffset]
    rfl
  refine ⟨hreads, hreads.highest_eq (Or.inr ?_)⟩
  have hlength : (pagedQuery select order builder limit offset).values.length =
      builder.counter + 1 := by
    rw [hbuilds.counter]
    exact List.length_append
  rw [hlength]
  simp [pagedQuery, pagedText]

/-- `SELECT COUNT(*) ...` with the same conditions. -/
def countedText {α : Type} (select : String) (conditions : List (Sql α)) : Sql α :=
  .text select :: Sql.whereClause conditions

theorem countedText_binds {builder : Builder Value} {filters : List (Sql Value)}
    (hbuilds : builder.Builds filters) (select : String) :
    (Query.mk (countedText select builder.conditions) builder.values).Binds
      (countedText select filters) := by
  have hreads : (countedText select builder.conditions).Reads builder.values
      (countedText select filters) := by
    simp only [Sql.Reads, Sql.resolve, countedText, Sql.map_text, Sql.map_whereClause,
      hbuilds.map_conditions]
  refine ⟨hreads, hreads.highest_eq (hbuilds.last_whereClause.imp_right fun hlast => ?_)⟩
  exact List.mem_cons_of_mem _ hlast

/-! ## Users -/

/-- The sort column is one of a list, and the direction `ASC` or `DESC`. -/
def UserSearch.orderText (upper : String → String) (args : UserSearch) : String :=
  let column :=
    if args.sortBy ∈ ["username", "email", "created_at", "updated_at", "fullname"]
    then args.sortBy else "username"
  let direction := if upper args.sortOrder ∈ ["ASC", "DESC"] then upper args.sortOrder else "ASC"
  " ORDER BY " ++ column ++ " " ++ direction

def selectUsers : String :=
  "SELECT unique_id, username, email, hashed_password, fullname, disabled, created_at, " ++
    "updated_at FROM users "

def searchUsersQuery (upper : String → String) (args : UserSearch) : Query Value :=
  pagedQuery selectUsers (args.orderText upper) (builderOf args.given) args.limit args.offset

/-- `count_values = values[:-2]` -/
def searchUsersCountQuery (upper : String → String) (args : UserSearch) : Query Value :=
  ⟨countedText "SELECT COUNT(*) as total_count FROM users " (builderOf args.given).conditions,
    (searchUsersQuery upper args).values.dropLast.dropLast⟩

/-! ## Sessions -/

def selectSessions : String :=
  "SELECT *, COUNT(*) OVER() AS total_count FROM user_management.v_active_sessions "

def searchSessionsQuery (args : SessionSearch) : Query Value :=
  pagedQuery selectSessions " ORDER BY created_at DESC" (builderOf args.given) args.limit
    args.offset

/-! ## The update of a user -/

def updateText {α : Type} (statements : List (Sql α)) (userId : α) : Sql α :=
  .text "UPDATE users SET" :: Sql.joined ", " statements ++
    [.text " WHERE unique_id = ", .slot userId, .text " RETURNING *;"]

/-- The statements of the user name and the email, which advance the counter. -/
def UserUpdate.counted (args : UserUpdate) : Builder Value :=
  (Builder.start.addGiven (.one " username = " "") (args.username.map .text)).addGiven
    (.one " email = " "") (args.email.map Value.text)

/-- The full name does not count: the user is numbered as if it always did. -/
def updateQuery (args : UserUpdate) : Query Value :=
  let builder := args.counted.addGiven (.one " fullname = " "") (args.fullname.map .text)
  ⟨updateText builder.conditions (args.counted.counter + 1),
    builder.values ++ [.text args.userId]⟩

/-- The statements of the given fields, and the user. -/
def UserUpdate.bound (args : UserUpdate) : Sql Value :=
  updateText (filtersOf args.given) (.text args.userId)

def UserUpdate.HasField (args : UserUpdate) : Prop :=
  args.username.isSome ∨ args.email.isSome ∨ args.fullname.isSome

theorem updateText_binds {builder : Builder Value} {filters : List (Sql Value)}
    (hbuilds : builder.Builds filters) (userId : Value) :
    (Query.mk (updateText builder.conditions builder.counter) (builder.values ++ [userId])).Binds
      (updateText filters userId) := by
  have huser : Sql.valueAt (builder.values ++ [userId]) builder.counter = some userId := by
    rw [hbuilds.counter]
    exact Sql.valueAt_length _ _ _
  have hreads : (updateText builder.conditions builder.counter).Reads
      (builder.values ++ [userId]) (updateText filters userId) := by
    simp only [Sql.Reads, Sql.resolve, updateText, Sql.map_append, Sql.map_text, Sql.map_slot,
      Sql.map_joined, List.cons_append, hbuilds.map_conditions_append, huser]
    rfl
  refine ⟨hreads, hreads.highest_eq (Or.inr ?_)⟩
  rw [List.length_append, List.length_singleton, ← hbuilds.counter]
  simp [updateText]

theorem counted_builds (args : UserUpdate) : args.counted.Builds (filtersOf
    [(.one " username = " "", args.username.map .text),
      (.one " email = " "", args.email.map .text)]) :=
  builds_of [(.one " username = " "", args.username.map .text),
    (.one " email = " "", args.email.map .text)]

/-- Without the full name, the user's placeholder is one more than the number of values. -/
theorem highest_update (args : UserUpdate) (hnone : args.fullname = none) :
    (updateQuery args).values.length < (updateQuery args).sql.highest := by
  have hslot : .slot (args.counted.counter + 1) ∈ (updateQuery args).sql := by
    simp [updateQuery, updateText]
  have hlength : (updateQuery args).values.length = args.counted.counter := by
    rw [updateQuery, hnone, (counted_builds args).counter]
    exact List.length_append
  rw [hlength]
  exact Sql.le_highest hslot

/-- The update binds exactly when the full name is given. -/
theorem updateQuery_binds_iff (args : UserUpdate) :
    (updateQuery args).Binds args.bound ↔ args.fullname.isSome := by
  constructor
  · intro hbinds
    by_contra hnone
    have hmore := highest_update args (by simpa using hnone)
    exact absurd hbinds.highest (Nat.ne_of_gt hmore)
  · intro hsome
    obtain ⟨fullname, hfullname⟩ := Option.isSome_iff_exists.mp hsome
    have hbinds := updateText_binds ((counted_builds args).add (.one " fullname = " "")
      (.text fullname)) (.text args.userId)
    have hquery : updateQuery args = ⟨updateText
        (args.counted.add (.one " fullname = " "") (.text fullname)).conditions
        (args.counted.add (.one " fullname = " "") (.text fullname)).counter,
        (args.counted.add (.one " fullname = " "") (.text fullname)).values ++
          [.text args.userId]⟩ := by
      rw [updateQuery, hfullname]
      rfl
    have hbound : args.bound = updateText (filtersOf
        [(.one " username = " "", args.username.map .text),
          (.one " email = " "", args.email.map .text)] ++
        [(Template.one " fullname = " "").fill (.text fullname)]) (.text args.userId) := by
      simp [UserUpdate.bound, filtersOf, UserUpdate.given, hfullname]
    rw [hquery, hbound]
    exact hbinds

/-! ## All of them -/

theorem searchUsersQuery_binds (upper : String → String) (args : UserSearch) :
    (searchUsersQuery upper args).Binds (pagedText selectUsers (args.orderText upper)
      (filtersOf args.given) (.int args.limit) (.int args.offset)) :=
  pagedQuery_binds (builds_of args.given) _ _ _ _

theorem searchUsersCountQuery_binds (upper : String → String) (args : UserSearch) :
    (searchUsersCountQuery upper args).Binds
      (countedText "SELECT COUNT(*) as total_count FROM users " (filtersOf args.given)) := by
  have hvalues : (searchUsersQuery upper args).values.dropLast.dropLast =
      (builderOf args.given).values := by
    simp [searchUsersQuery, pagedQuery]
  rw [searchUsersCountQuery, hvalues]
  exact countedText_binds (builds_of args.given) _

/-- Every query binds each value to its own filter, and a facet's query has the filters of the
other arguments. -/
def EachBinds (upper : String → String) (search : SearchArgs) (users : UserSearch)
    (update : UserUpdate) (sessions : SessionSearch) : Prop :=
  (pageQuery upper search).Binds (pageText upper search (search.allFilters upper)
      search.nameValue search.oracleValue (.int search.limit) (.int search.offset)) ∧
    (countQuery upper search).Binds (countText search (search.allFilters upper)) ∧
    (promoFacetQuery upper search).Binds
      (promoFacetText (search.filtersBut upper .promoType)) ∧
    (rarityFacetQuery upper search).Binds (rarityFacetText (search.filtersBut upper .rarity)) ∧
    (searchUsersQuery upper users).Binds (pagedText selectUsers (users.orderText upper)
      (filtersOf users.given) (.int users.limit) (.int users.offset)) ∧
    (searchUsersCountQuery upper users).Binds
      (countedText "SELECT COUNT(*) as total_count FROM users " (filtersOf users.given)) ∧
    (update.HasField → (updateQuery update).Binds update.bound) ∧
    (searchSessionsQuery sessions).Binds (pagedText selectSessions " ORDER BY created_at DESC"
      (filtersOf sessions.given) (.int sessions.limit) (.int sessions.offset))

theorem eachBinds_iff (upper : String → String) (search : SearchArgs) (users : UserSearch)
    (update : UserUpdate) (sessions : SessionSearch) :
    EachBinds upper search users update sessions ↔
      (update.username.isSome ∨ update.email.isSome → update.fullname.isSome) := by
  have hupdate : (update.HasField → (updateQuery update).Binds update.bound) ↔
      (update.username.isSome ∨ update.email.isSome → update.fullname.isSome) := by
    rw [updateQuery_binds_iff, UserUpdate.HasField]
    tauto
  rw [← hupdate]
  refine ⟨fun heach => heach.2.2.2.2.2.2.1, fun hbinds => ?_⟩
  exact ⟨pageQuery_binds upper search, countQuery_binds upper search,
    promoFacetQuery_binds upper search, rarityFacetQuery_binds upper search,
    searchUsersQuery_binds upper users, searchUsersCountQuery_binds upper users, hbinds,
    pagedQuery_binds (builds_of sessions.given) _ _ _ _⟩

/-- Only the user name is given: the user is `$3`, and two values are passed. -/
def renamed : UserUpdate := ⟨"5f3c", some "ada", none, none⟩

theorem renamed_not_bound : renamed.HasField ∧
    (updateQuery renamed).sql = [.text "UPDATE users SET", .text " username = ", .slot 1,
      .text "", .text " WHERE unique_id = ", .slot 3, .text " RETURNING *;"] ∧
    (updateQuery renamed).values = [.text "ada", .text "5f3c"] ∧
    ¬ ∀ upper search users update sessions, EachBinds upper search users update sessions := by
  refine ⟨Or.inl rfl, rfl, rfl, fun hall => ?_⟩
  have hbinds := (hall id default default renamed default).2.2.2.2.2.2.1 (Or.inl rfl)
  exact Bool.false_ne_true ((updateQuery_binds_iff renamed).mp hbinds)

end AutoMana.Queries
