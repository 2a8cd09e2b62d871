import AutoMana.Relational.Dict
import AutoMana.Relational.Locking
import Mathlib.Data.List.Sort

/-!
# Staged listing actions

`stage_action` looks for an open action of the item and inserts one if there is none. A drain
reads the pending actions, and marks, processes and completes them one after the other, each
statement committed by itself. So an action runs once when no two drains overlap, and an item
has one open action when nothing is inserted between a look and its insert.
-/

namespace AutoMana.Ebay.ListingActions

open Relational Relational.Interleaving

/-! ## The table -/

inductive Status where
  | pending
  | processing
  | done
  | failed
deriving DecidableEq, Repr

/-- A row of `listing_pending_actions`. -/
structure Action where
  itemId : String
  status : Status
  createdAt : Nat

/-- `status IN ('pending', 'processing')` -/
def Action.isOpen (action : Action) : Bool :=
  action.status = .pending || action.status = .processing

abbrev Actions := Table String Action

/-- `get_pending` -/
def getPending (actions : Actions) (limit : Nat) : List String :=
  (((actions.rows.filter (·.2.status = .pending)).insertionSort
    (·.2.createdAt ≤ ·.2.createdAt)).take limit).map Prod.fst

/-- `get_pending_for_item` -/
def getPendingForItem (actions : Actions) (itemId : String) : Option String :=
  (((actions.rows.filter fun row => decide (row.2.itemId = itemId) && row.2.isOpen).insertionSort
    (·.2.createdAt ≥ ·.2.createdAt)).head?).map Prod.fst

/-- `mark_processing`, `mark_done` and `mark_failed` -/
def mark (actions : Actions) (actionId : String) (status : Status) : Actions :=
  actions.mapValues fun id action =>
    if id = actionId then { action with status := status } else action

/-! ## The services -/

inductive Answer where
  | ok
  | raises
  /-- The worker is gone. -/
  | crashes
deriving DecidableEq, Repr

/-- What a turn meets outside: its answer, and the defaults of an insert. -/
structure Outcome where
  answer : Answer
  uniqueId : String
  now : Nat

structure Server where
  actions : Actions
  /-- The actions whose processing began, as often as it did. -/
  begun : List String

inductive Command where
  | stage (itemId : String)
  | drain (limit : Nat)

/-- A call at its await points. A drain has the rows to come, and the actions that were open when
it read them if its limit covers the table. -/
inductive Call where
  | received (command : Command)
  | insert (itemId : String)
  | staged (actionId : String) (created : Bool)
  | next (rows covered : List String)
  | process (actionId : String) (rows covered : List String)
  | fail (actionId : String) (rows covered : List String)
  | drained (covered : List String)
  | crashed

/-- The open actions, if the limit covers the table. -/
def covered (actions : Actions) (limit : Nat) : List String :=
  if actions.rows.length ≤ limit then (actions.rows.filter (·.2.isOpen)).map Prod.fst else []

/-- A service up to its next await. -/
def turn (server : Server) (call : Call) (outcome : Outcome) : Server × Call :=
  match call with
  | .received (.stage itemId) =>
    if outcome.answer ≠ .ok then (server, .crashed)
    else
      match getPendingForItem server.actions itemId with
      | some actionId => (server, .staged actionId false)
      | none => (server, .insert itemId)
  | .insert itemId =>
    if outcome.answer ≠ .ok ∨ (server.actions.get? outcome.uniqueId).isSome then
      (server, .crashed)
    else
      ({ server with
          actions := server.actions.set outcome.uniqueId ⟨itemId, .pending, outcome.now⟩ },
        .staged outcome.uniqueId true)
  | .received (.drain limit) =>
    if outcome.answer ≠ .ok then (server, .crashed)
    else (server, .next (getPending server.actions limit) (covered server.actions limit))
  | .next [] covered => (server, .drained covered)
  | .next (actionId :: rows) covered =>
    match outcome.answer with
    | .ok =>
      (⟨mark server.actions actionId .processing, server.begun ++ [actionId]⟩,
        .process actionId rows covered)
    | .raises => (server, .fail actionId rows covered)
    | .crashes => (server, .crashed)
  | .process actionId rows covered =>
    match outcome.answer with
    | .ok => ({ server with actions := mark server.actions actionId .done }, .next rows covered)
    | .raises => (server, .fail actionId rows covered)
    | .crashes => (server, .crashed)
  | .fail actionId rows covered =>
    if outcome.answer ≠ .ok then (server, .crashed)
    else ({ server with actions := mark server.actions actionId .failed }, .next rows covered)
  | .staged actionId created => (server, .staged actionId created)
  | .drained covered => (server, .drained covered)
  | .crashed => (server, .crashed)

def system : System Server Call Command Outcome where
  start _ command := .received command
  turn := turn

/-- Nothing is staged, and no call has started. -/
def opened : Pool Server Call := ⟨⟨.empty, []⟩, []⟩

/-! ## What is claimed, and the condition -/

/-- The action is neither pending nor processing. -/
def Closed (actions : Actions) (actionId : String) : Prop :=
  ∃ action, actions.get? actionId = some action ∧ action.isOpen = false

structure ExactlyOnce (pool : Pool Server Call) : Prop where
  once : ∀ actionId, pool.shared.begun.count actionId ≤ 1
  /-- An item has one open action. -/
  single : ∀ first second one two, pool.shared.actions.get? first = some one →
    pool.shared.actions.get? second = some two → one.isOpen = true → two.isOpen = true →
    one.itemId = two.itemId → first = second
  /-- A drain that returns has closed what its limit covered. -/
  drained : ∀ covered, .drained covered ∈ pool.threads →
    ∀ actionId ∈ covered, Closed pool.shared.actions actionId

/-- A drain that has read its rows and has not ended. -/
def Call.draining : Call → Prop
  | .next _ _ | .process _ _ _ | .fail _ _ _ => True
  | _ => False

/-- When a drain reads its rows no other is under way, and if its limit covers the table no action
is left in processing; when a staging inserts its item has no open action yet. -/
structure Alone (pool : Pool Server Call) (move : Move Command Outcome) : Prop where
  read : ∀ position outcome limit, move = .turn position outcome →
    pool.threads[position]? = some (.received (.drain limit)) →
    (∀ (elsewhere : Nat) (other : Call), pool.threads[elsewhere]? = some other →
      ¬ other.draining) ∧
    (pool.shared.actions.rows.length ≤ limit → ∀ actionId action,
      pool.shared.actions.get? actionId = some action → action.status ≠ .processing)
  insert : ∀ position outcome itemId, move = .turn position outcome →
    pool.threads[position]? = some (.insert itemId) →
    getPendingForItem pool.shared.actions itemId = none

/-! ## The statements -/

theorem get?_mark (actions : Actions) (actionId : String) (status : Status) (id : String) :
    (mark actions actionId status).get? id =
      (actions.get? id).map fun action =>
        if id = actionId then { action with status := status } else action := by
  rw [mark, Table.get?_mapValues]

theorem get?_mark_of_ne {actions : Actions} {actionId id : String} (hne : id ≠ actionId)
    (status : Status) : (mark actions actionId status).get? id = actions.get? id := by
  rw [get?_mark]
  simp only [if_neg hne, Option.map_id']

/-- An action after a statement on another or on itself. -/
theorem get?_mark_eq_some {actions : Actions} {actionId id : String} {status : Status}
    {action : Action} (hget : (mark actions actionId status).get? id = some action) :
    (id ≠ actionId ∧ actions.get? id = some action) ∨
      id = actionId ∧ action.status = status ∧
        ∃ before, actions.get? id = some before ∧ before.itemId = action.itemId := by
  by_cases hid : id = actionId
  · rw [get?_mark] at hget
    simp only [if_pos hid] at hget
    obtain ⟨before, hbefore, rfl⟩ := Option.map_eq_some_iff.mp hget
    exact Or.inr ⟨hid, rfl, before, hbefore, rfl⟩
  · rw [get?_mark_of_ne hid] at hget
    exact Or.inl ⟨hid, hget⟩

theorem mem_getPending {actions : Actions} {limit : Nat} {actionId : String}
    (hmem : actionId ∈ getPending actions limit) :
    ∃ action, actions.get? actionId = some action ∧ action.status = .pending := by
  rw [getPending, List.mem_map] at hmem
  obtain ⟨row, hrow, rfl⟩ := hmem
  have hrow := List.mem_of_mem_take hrow
  rw [List.mem_insertionSort, List.mem_filter, decide_eq_true_eq] at hrow
  exact ⟨row.2, (Table.mem_rows_iff _ _ _).mp hrow.1, hrow.2⟩

theorem nodup_getPending (actions : Actions) (limit : Nat) : (getPending actions limit).Nodup := by
  have hsorted : (((actions.rows.filter (·.2.status = .pending)).insertionSort
      (·.2.createdAt ≤ ·.2.createdAt)).map Prod.fst).Nodup := by
    have hperm := (List.perm_insertionSort (fun one two : String × Action =>
      one.2.createdAt ≤ two.2.createdAt) (actions.rows.filter (·.2.status = .pending))).map Prod.fst
    rw [hperm.nodup_iff]
    exact actions.nodup_keys.sublist (List.filter_sublist.map Prod.fst)
  exact hsorted.sublist ((List.take_sublist _ _).map Prod.fst)

/-- A limit that covers the table covers its pending actions. -/
theorem mem_getPending_of_covers {actions : Actions} {limit : Nat}
    (hlimit : actions.rows.length ≤ limit) {actionId : String} {action : Action}
    (hget : actions.get? actionId = some action) (hpending : action.status = .pending) :
    actionId ∈ getPending actions limit := by
  have hlength : ((actions.rows.filter (·.2.status = .pending)).insertionSort
      (·.2.createdAt ≤ ·.2.createdAt)).length ≤ limit := by
    rw [List.length_insertionSort]
    exact (List.length_filter_le _ _).trans hlimit
  rw [getPending, List.take_of_length_le hlength]
  refine List.mem_map.mpr ⟨(actionId, action), ?_, rfl⟩
  rw [List.mem_insertionSort, List.mem_filter, decide_eq_true_eq]
  exact ⟨(Table.mem_rows_iff _ _ _).mpr hget, hpending⟩

theorem not_open_of_getPendingForItem {actions : Actions} {itemId : String}
    (hnone : getPendingForItem actions itemId = none) {actionId : String} {action : Action}
    (hget : actions.get? actionId = some action) (hitem : action.itemId = itemId) :
    action.isOpen = false := by
  rw [getPendingForItem, Option.map_eq_none_iff, List.head?_eq_none_iff] at hnone
  have hempty := List.length_eq_zero_iff.mpr hnone
  rw [List.length_insertionSort, List.length_eq_zero_iff, List.filter_eq_nil_iff] at hempty
  have hrow := hempty (actionId, action) ((Table.mem_rows_iff _ _ _).mpr hget)
  simpa [hitem] using hrow

theorem mem_covered {actions : Actions} {limit : Nat} {actionId : String}
    (hmem : actionId ∈ covered actions limit) :
    actions.rows.length ≤ limit ∧
      ∃ action, actions.get? actionId = some action ∧ action.isOpen = true := by
  rw [covered] at hmem
  split_ifs at hmem with hlimit
  · obtain ⟨row, hrow, rfl⟩ := List.mem_map.mp hmem
    rw [List.mem_filter] at hrow
    exact ⟨hlimit, row.2, (Table.mem_rows_iff _ _ _).mp hrow.1, hrow.2⟩
  · cases hmem

/-! ## A turn -/

/-- A turn changes nothing, inserts an action under a new id, begins one, or closes one. -/
theorem shared_turn (server : Server) (call : Call) (outcome : Outcome) :
    (turn server call outcome).1 = server ∨
      (∃ itemId, call = .insert itemId ∧ server.actions.get? outcome.uniqueId = none ∧
        (turn server call outcome).1 = { server with
          actions := server.actions.set outcome.uniqueId ⟨itemId, .pending, outcome.now⟩ }) ∨
      (∃ actionId rows covered, call = .next (actionId :: rows) covered ∧
        (turn server call outcome).1 =
          ⟨mark server.actions actionId .processing, server.begun ++ [actionId]⟩) ∨
      ∃ actionId status, call.draining ∧ (status = .done ∨ status = .failed) ∧
        (turn server call outcome).1 =
          { server with actions := mark server.actions actionId status } := by
  cases call with
  | received command =>
    left
    cases command with
    | stage =>
      rw [turn]
      split_ifs
      · rfl
      · split <;> rfl
    | drain =>
      rw [turn]
      split_ifs <;> rfl
  | insert itemId =>
    rw [turn]
    split_ifs with hfails
    · exact Or.inl rfl
    · rw [not_or, Option.not_isSome_iff_eq_none] at hfails
      exact Or.inr (Or.inl ⟨itemId, rfl, hfails.2, rfl⟩)
  | next rows covered =>
    cases rows with
    | nil => exact Or.inl rfl
    | cons actionId rows =>
      rw [turn]
      split
      · exact Or.inr (Or.inr (Or.inl ⟨actionId, rows, covered, rfl, rfl⟩))
      · exact Or.inl rfl
      · exact Or.inl rfl
  | process actionId rows covered =>
    rw [turn]
    split
    · exact Or.inr (Or.inr (Or.inr ⟨actionId, .done, trivial, Or.inl rfl, rfl⟩))
    · exact Or.inl rfl
    · exact Or.inl rfl
  | fail actionId rows covered =>
    rw [turn]
    split_ifs
    · exact Or.inl rfl
    · exact Or.inr (Or.inr (Or.inr ⟨actionId, .failed, trivial, Or.inr rfl, rfl⟩))
  | staged | drained | crashed => exact Or.inl rfl

/-! ## Invariants -/

/-- The rows that a drain has to come are distinct and pending. -/
structure Rows (actions : Actions) (rows : List String) : Prop where
  nodup : rows.Nodup
  pending : ∀ actionId ∈ rows, ∃ action, actions.get? actionId = some action ∧
    action.status = .pending

/-- What a call relies on. -/
def Sound (server : Server) : Call → Prop
  | .next rows covered => Rows server.actions rows ∧
      ∀ actionId ∈ covered, actionId ∈ rows ∨ Closed server.actions actionId
  | .process current rows covered | .fail current rows covered =>
      Rows server.actions rows ∧ current ∉ rows ∧
        (server.actions.get? current).isSome ∧
        ∀ actionId ∈ covered, actionId = current ∨ actionId ∈ rows ∨
          Closed server.actions actionId
  | .drained covered => ∀ actionId ∈ covered, Closed server.actions actionId
  | _ => True

structure Kept (server : Server) : Prop where
  once : ∀ actionId, server.begun.count actionId ≤ 1
  /-- A pending action has not begun. -/
  pending : ∀ actionId action, server.actions.get? actionId = some action →
    action.status = .pending → actionId ∉ server.begun
  begun : ∀ actionId ∈ server.begun, (server.actions.get? actionId).isSome
  single : ∀ first second one two, server.actions.get? first = some one →
    server.actions.get? second = some two → one.isOpen = true → two.isOpen = true →
    one.itemId = two.itemId → first = second

section Steps

variable {server : Server} {call : Call} {outcome : Outcome} {actions : Actions}
  {actionId : String} {status : Status}

theorem isSome_mark (actions : Actions) (actionId : String) (status : Status) (id : String) :
    ((mark actions actionId status).get? id).isSome = (actions.get? id).isSome := by
  rw [get?_mark, Option.isSome_map]

theorem Rows.mark {rows : List String} (hrows : Rows actions rows) (hnot : actionId ∉ rows) :
    Rows (mark actions actionId status) rows := by
  refine ⟨hrows.nodup, fun id hid => ?_⟩
  have hne : id ≠ actionId := by
    rintro rfl
    exact hnot hid
  rw [get?_mark_of_ne hne]
  exact hrows.pending id hid

theorem Rows.tail {rows : List String} (hrows : Rows actions (actionId :: rows)) :
    Rows actions rows ∧ actionId ∉ rows ∧
      ∃ action, actions.get? actionId = some action ∧ action.status = .pending := by
  obtain ⟨hnot, hnodup⟩ := List.nodup_cons.mp hrows.nodup
  exact ⟨⟨hnodup, fun id hid => hrows.pending id (List.mem_cons_of_mem _ hid)⟩, hnot,
    hrows.pending actionId List.mem_cons_self⟩

/-- A closed action stays closed under a statement on another, or one that closes. -/
theorem Closed.mark {id : String} (hclosed : Closed actions id)
    (hstatus : id ≠ actionId ∨ status = .done ∨ status = .failed) :
    Closed (mark actions actionId status) id := by
  obtain ⟨action, hget, hnot⟩ := hclosed
  by_cases hid : id = actionId
  · refine ⟨{ action with status := status }, ?_, ?_⟩
    · rw [get?_mark, hget]
      simp only [if_pos hid, Option.map_some]
    · rcases hstatus with hne | rfl | rfl
      · exact absurd hid hne
      · rfl
      · rfl
  · exact ⟨action, by rw [get?_mark_of_ne hid, hget], hnot⟩

theorem closed_mark (hstored : (actions.get? actionId).isSome)
    (hstatus : status = .done ∨ status = .failed) :
    Closed (mark actions actionId status) actionId := by
  obtain ⟨action, hget⟩ := Option.isSome_iff_exists.mp hstored
  refine ⟨{ action with status := status }, ?_, ?_⟩
  · rw [get?_mark, hget]
    simp only [if_true, Option.map_some]
  · rcases hstatus with rfl | rfl <;> rfl

/-- A call that is no drain under way leaves the actions that are there. -/
theorem get?_turn_of_not_draining (hcall : ¬ call.draining) {id : String} {action : Action}
    (hget : server.actions.get? id = some action) :
    (turn server call outcome).1.actions.get? id = some action := by
  rcases shared_turn server call outcome with
    hsame | ⟨itemId, -, hnone, hnew⟩ | ⟨current, rows, covered, rfl, -⟩ | ⟨_, _, hdraining, -⟩
  · rw [hsame, hget]
  · have hne : id ≠ outcome.uniqueId := Table.ne_of_new hnone hget
    rw [hnew, Table.get?_set, if_neg hne, hget]
  · exact absurd trivial hcall
  · exact absurd hdraining hcall

/-- No turn opens a closed action again. -/
theorem closed_turn (hsound : Sound server call) {id : String}
    (hclosed : Closed server.actions id) : Closed (turn server call outcome).1.actions id := by
  by_cases hcall : call.draining
  · rcases shared_turn server call outcome with
      hsame | ⟨itemId, rfl, -⟩ | ⟨current, rows, covered, rfl, hnew⟩ |
        ⟨current, status, -, hstatus, hnew⟩
    · rwa [hsame]
    · exact absurd hcall not_false
    · rw [hnew]
      obtain ⟨-, -, action, hget, hpending⟩ := hsound.1.tail
      refine hclosed.mark (Or.inl ?_)
      rintro rfl
      obtain ⟨other, hother, hnot⟩ := hclosed
      obtain rfl := Option.some.inj (hget.symm.trans hother)
      simp [Action.isOpen, hpending] at hnot
    · rw [hnew]
      exact hclosed.mark (Or.inr hstatus)
  · obtain ⟨action, hget, hnot⟩ := hclosed
    exact ⟨action, get?_turn_of_not_draining hcall hget, hnot⟩

/-- Items keep one open action when every open action was open before. -/
theorem single_of_open {before after : Actions}
    (hsingle : ∀ first second one two, before.get? first = some one →
      before.get? second = some two → one.isOpen = true → two.isOpen = true →
      one.itemId = two.itemId → first = second)
    (hback : ∀ id action, after.get? id = some action → action.isOpen = true →
      ∃ old, before.get? id = some old ∧ old.isOpen = true ∧ old.itemId = action.itemId)
    {first second : String} {one two : Action} (hone : after.get? first = some one)
    (htwo : after.get? second = some two) (honeOpen : one.isOpen = true)
    (htwoOpen : two.isOpen = true) (hitem : one.itemId = two.itemId) : first = second := by
  obtain ⟨old, hold, holdOpen, holdItem⟩ := hback first one hone honeOpen
  obtain ⟨other, hother, hotherOpen, hotherItem⟩ := hback second two htwo htwoOpen
  exact hsingle first second old other hold hother holdOpen hotherOpen
    (holdItem.trans (hitem.trans hotherItem.symm))

theorem Kept.insert (hkept : Kept server) (hnew : server.actions.get? actionId = none)
    {itemId : String} (hnone : getPendingForItem server.actions itemId = none) (now : Nat) :
    Kept { server with actions := server.actions.set actionId ⟨itemId, .pending, now⟩ } := by
  refine ⟨hkept.once, fun id action hget hpending hbegun => ?_, fun id hbegun => ?_, ?_⟩
  · have hstored := hkept.begun id hbegun
    rw [Table.get?_set] at hget
    split_ifs at hget with hid
    · rw [hid, hnew] at hstored
      cases hstored
    · exact hkept.pending id action hget hpending hbegun
  · rw [Table.get?_set]
    split_ifs
    · rfl
    · exact hkept.begun id hbegun
  · intro first second one two hone htwo honeOpen htwoOpen hitem
    rw [Table.get?_set] at hone htwo
    -- the look found no open action of the item
    split_ifs at hone htwo with hfirst hsecond hsecond
    · rw [hfirst, hsecond]
    · cases hone
      rw [not_open_of_getPendingForItem hnone htwo hitem.symm] at htwoOpen
      cases htwoOpen
    · cases htwo
      rw [not_open_of_getPendingForItem hnone hone hitem] at honeOpen
      cases honeOpen
    · exact hkept.single first second one two hone htwo honeOpen htwoOpen hitem

/-- A drain begins the first of its rows. -/
theorem Kept.begin (hkept : Kept server) {action : Action}
    (hget : server.actions.get? actionId = some action) (hpending : action.status = .pending) :
    Kept ⟨mark server.actions actionId .processing, server.begun ++ [actionId]⟩ := by
  have hnot := hkept.pending actionId action hget hpending
  refine ⟨fun id => ?_, fun id other hother hstatus => ?_, fun id hbegun => ?_, ?_⟩
  · rw [List.count_append, List.count_singleton]
    by_cases hid : actionId = id
    · subst hid
      simp [List.count_eq_zero.mpr hnot]
    · simpa [hid] using hkept.once id
  · rw [List.mem_append, List.mem_singleton, not_or]
    rcases get?_mark_eq_some hother with ⟨hid, hold⟩ | ⟨-, hprocessing, -⟩
    · exact ⟨hkept.pending id other hold hstatus, hid⟩
    · rw [hprocessing] at hstatus
      cases hstatus
  · rw [isSome_mark]
    rcases List.mem_append.mp hbegun with hold | hnew
    · exact hkept.begun id hold
    · rw [List.mem_singleton.mp hnew, hget]
      rfl
  · intro first second one two
    refine single_of_open hkept.single fun id other hother hopen => ?_
    rcases get?_mark_eq_some hother with ⟨-, hold⟩ | ⟨rfl, -, old, hold, hitem⟩
    · exact ⟨other, hold, hopen, rfl⟩
    · obtain rfl := Option.some.inj (hget.symm.trans hold)
      exact ⟨action, hold, by simp [Action.isOpen, hpending], hitem⟩

/-- A drain completes an action, or fails it. -/
theorem Kept.close (hkept : Kept server) (hstatus : status = .done ∨ status = .failed) :
    Kept { server with actions := mark server.actions actionId status } := by
  have hclosed : ∀ action : Action, action.status = status → action.isOpen = false := by
    intro action haction
    rcases hstatus with rfl | rfl <;> simp [Action.isOpen, haction]
  refine ⟨hkept.once, fun id other hother hpending => ?_, fun id hbegun => ?_, ?_⟩
  · rcases get?_mark_eq_some hother with ⟨-, hold⟩ | ⟨-, hend, -⟩
    · exact hkept.pending id other hold hpending
    · have hnot := hclosed other hend
      simp [Action.isOpen, hpending] at hnot
  · rw [isSome_mark]
    exact hkept.begun id hbegun
  · intro first second one two
    refine single_of_open hkept.single fun id other hother hopen => ?_
    rcases get?_mark_eq_some hother with ⟨-, hold⟩ | ⟨-, hend, -⟩
    · exact ⟨other, hold, hopen, rfl⟩
    · rw [hclosed other hend] at hopen
      cases hopen

theorem kept_turn (hkept : Kept server) (hsound : Sound server call)
    (hinsert : ∀ itemId, call = .insert itemId → getPendingForItem server.actions itemId = none) :
    Kept (turn server call outcome).1 := by
  rcases shared_turn server call outcome with
    hsame | ⟨itemId, hcall, hnone, hnew⟩ | ⟨current, rows, covered, rfl, hnew⟩ |
      ⟨current, status, -, hstatus, hnew⟩
  · rwa [hsame]
  · rw [hnew]
    exact hkept.insert hnone (hinsert itemId hcall) _
  · rw [hnew]
    obtain ⟨-, -, action, hget, hpending⟩ := hsound.1.tail
    exact hkept.begin hget hpending
  · rw [hnew]
    exact hkept.close hstatus

/-- What a drain has read. -/
theorem sound_read {limit : Nat} (hprocessing : server.actions.rows.length ≤ limit →
    ∀ id action, server.actions.get? id = some action → action.status ≠ .processing) :
    Sound server (.next (getPending server.actions limit) (covered server.actions limit)) := by
  refine ⟨⟨nodup_getPending _ _, fun id hid => mem_getPending hid⟩, fun id hid => Or.inl ?_⟩
  obtain ⟨hlimit, action, hget, hopen⟩ := mem_covered hid
  have hpending : action.status = .pending := by
    have hnot := hprocessing hlimit id action hget
    simpa [Action.isOpen, hnot] using hopen
  exact mem_getPending_of_covers hlimit hget hpending

theorem sound_turn (hsound : Sound server call)
    (hread : ∀ limit, call = .received (.drain limit) → server.actions.rows.length ≤ limit →
      ∀ id action, server.actions.get? id = some action → action.status ≠ .processing) :
    Sound (turn server call outcome).1 (turn server call outcome).2 := by
  have hclosed := fun id => @closed_turn server call outcome hsound id
  cases call with
  | received command =>
    cases command with
    | stage =>
      rw [turn]
      split_ifs
      · trivial
      · split <;> trivial
    | drain limit =>
      rw [turn]
      split_ifs
      · trivial
      · exact sound_read (hread limit rfl)
  | insert =>
    rw [turn]
    split_ifs <;> trivial
  | next rows covered =>
    obtain ⟨hrows, hcovered⟩ := hsound
    cases rows with
    | nil => exact fun id hid => (hcovered id hid).resolve_left List.not_mem_nil
    | cons current rows =>
      obtain ⟨htail, hnot, action, hget, -⟩ := hrows.tail
      have hcases : ∀ id ∈ covered, id = current ∨ id ∈ rows ∨ Closed server.actions id :=
        fun id hid => or_assoc.mp ((hcovered id hid).imp_left List.mem_cons.mp)
      rw [turn] at hclosed ⊢
      cases hanswer : outcome.answer with
      | ok =>
        simp only [hanswer] at hclosed
        refine ⟨htail.mark hnot, hnot, ?_, fun id hid => ?_⟩
        · rw [isSome_mark, hget]
          rfl
        · exact (hcases id hid).imp_right (Or.imp_right (hclosed id))
      | raises => exact ⟨htail, hnot, by rw [hget]; rfl, hcases⟩
      | crashes => trivial
  | process current rows covered =>
    obtain ⟨hrows, hnot, hstored, hcovered⟩ := hsound
    rw [turn] at hclosed ⊢
    cases hanswer : outcome.answer with
    | ok =>
      simp only [hanswer] at hclosed
      refine ⟨hrows.mark hnot, fun id hid => ?_⟩
      rcases hcovered id hid with rfl | hrest | hold
      · exact Or.inr (closed_mark hstored (Or.inl rfl))
      · exact Or.inl hrest
      · exact Or.inr (hclosed id hold)
    | raises => exact ⟨hrows, hnot, hstored, hcovered⟩
    | crashes => trivial
  | fail current rows covered =>
    obtain ⟨hrows, hnot, hstored, hcovered⟩ := hsound
    rw [turn] at hclosed ⊢
    split_ifs with hanswer
    · trivial
    · simp only [hanswer, if_false] at hclosed
      refine ⟨hrows.mark hnot, fun id hid => ?_⟩
      rcases hcovered id hid with rfl | hrest | hold
      · exact Or.inr (closed_mark hstored (Or.inr rfl))
      · exact Or.inl hrest
      · exact Or.inr (hclosed id hold)
  | staged | crashed => trivial
  | drained covered => exact hsound

/-- The turn of another call leaves a call what it relies on, unless both drain. -/
theorem sound_others {other : Call} (hsound : Sound server call) (hother : Sound server other)
    (halone : call.draining → ¬ other.draining) :
    Sound (turn server call outcome).1 other := by
  have hclosed := fun id => @closed_turn server call outcome hsound id
  by_cases hcall : call.draining
  · have hother' := halone hcall
    cases other with
    | next | process | fail => exact absurd trivial hother'
    | drained covered => exact fun id hid => hclosed id (hother id hid)
    | received | insert | staged | crashed => trivial
  · have hkept := fun id action => @get?_turn_of_not_draining server call outcome hcall id action
    have hrows : ∀ {rows : List String}, Rows server.actions rows →
        Rows (turn server call outcome).1.actions rows := by
      intro rows hrows
      refine ⟨hrows.nodup, fun id hid => ?_⟩
      obtain ⟨action, hget, hpending⟩ := hrows.pending id hid
      exact ⟨action, hkept id action hget, hpending⟩
    cases other with
    | next rows covered =>
      exact ⟨hrows hother.1, fun id hid => (hother.2 id hid).imp_right (hclosed id)⟩
    | process current rows covered | fail current rows covered =>
      obtain ⟨hold, hnot, hstored, hcovered⟩ := hother
      obtain ⟨action, hget⟩ := Option.isSome_iff_exists.mp hstored
      exact ⟨hrows hold, hnot, by rw [hkept _ _ hget]; rfl,
        fun id hid => (hcovered id hid).imp_right (Or.imp_right (hclosed id))⟩
    | drained covered => exact fun id hid => hclosed id (hother id hid)
    | received | insert | staged | crashed => trivial

/-- A call begins to drain when it reads its rows. -/
theorem draining_turn (hcall : ¬ call.draining)
    (hnext : (turn server call outcome).2.draining) : ∃ limit, call = .received (.drain limit) := by
  cases call with
  | received command =>
    cases command with
    | stage =>
      rw [turn] at hnext
      split_ifs at hnext
      · exact absurd hnext not_false
      · split at hnext <;> exact absurd hnext not_false
    | drain limit => exact ⟨limit, rfl⟩
  | insert =>
    rw [turn] at hnext
    split_ifs at hnext <;> exact absurd hnext not_false
  | next | process | fail => exact absurd trivial hcall
  | staged | drained | crashed => exact absurd hnext not_false

end Steps

/-! ## Runs -/

theorem respects : Respects system Kept Sound fun pool move =>
    Exclusive Call.draining pool ∧ Alone pool move where
  start _ _ _ _ := trivial
  turn _ position outcome _ hpool hmove hcall :=
    ⟨kept_turn hpool.shared (hpool.thread hcall) fun itemId hinsert =>
        hmove.2.insert position outcome itemId rfl (hinsert ▸ hcall),
      sound_turn (hpool.thread hcall) fun limit hread =>
        (hmove.2.read position outcome limit rfl (hread ▸ hcall)).2⟩
  others _ _ _ _ hpool hmove hcall _ _ hne hother :=
    sound_others (hpool.thread hcall) (hpool.thread hother) fun hdraining =>
      hmove.1.others hcall hdraining hne hother

theorem exclusive_step {pool : Pool Server Call} (hexclusive : Exclusive Call.draining pool)
    {move : Move Command Outcome} (halone : Alone pool move) :
    Exclusive Call.draining (system.step pool move) := by
  cases move with
  | start command => exact hexclusive.start not_false
  | turn position outcome =>
    cases hcall : pool.threads[position]? with
    | none => rwa [System.step_turn_of_none hcall]
    | some call =>
      refine hexclusive.turn hcall fun hnot hnext => ?_
      obtain ⟨limit, rfl⟩ := draining_turn hnot hnext
      exact (halone.read position outcome limit rfl hcall).1

/-- In every interleaving in which drains do not overlap or leave an action in processing, and a
staging inserts where its look still holds, each action runs once at most. -/
theorem exactlyOnce_of_alone {moves : List (Move Command Outcome)}
    (hmoves : Run.StepsMeet system.step Alone opened moves) :
    ∀ pool ∈ Run.visited system.step opened moves, ExactlyOnce pool := by
  have hopened : Exclusive Call.draining opened ∧ Holds Kept Sound opened := by
    refine ⟨?_, ⟨fun _ => Nat.zero_le 1, ?_, ?_, ?_⟩, ?_⟩
    · intro position other call next hcall
      cases hcall
    · intro actionId action hget
      cases hget
    · intro actionId hbegun
      cases hbegun
    · intro first second one two hone
      cases hone
    · intro call hcall
      cases hcall
  have hstep : ∀ (pool : Pool Server Call) (move : Move Command Outcome),
      Exclusive Call.draining pool ∧ Holds Kept Sound pool → Alone pool move →
      Exclusive Call.draining (system.step pool move) ∧
        Holds Kept Sound (system.step pool move) :=
    fun _ _ hpool halone => ⟨exclusive_step hpool.1 halone,
      respects.step hpool.2 ⟨hpool.1, halone⟩⟩
  intro pool hpool
  obtain ⟨-, hkept, hcalls⟩ := Run.forall_visited hstep hopened hmoves pool hpool
  exact ⟨hkept.once, hkept.single, fun covered hdrained => hcalls _ hdrained⟩

/-! ## Samples -/

/-- A turn at which nothing fails. -/
def turnOf (position : Nat) (uniqueId : String) : Move Command Outcome :=
  .turn position ⟨.ok, uniqueId, 0⟩

/-- An action is staged, and two drains read it before either begins it. -/
def overlapping : List (Move Command Outcome) :=
  [.start (.stage "item"), turnOf 0 "", turnOf 0 "a", .start (.drain 50), .start (.drain 50),
    turnOf 1 "", turnOf 2 "", turnOf 1 "", turnOf 1 "", turnOf 2 ""]

theorem overlapping_drains_run_twice :
    ¬ ∀ moves : List (Move Command Outcome),
      ∀ pool ∈ Run.visited system.step opened moves, ExactlyOnce pool := by
  intro hclaim
  have honce := (hclaim overlapping _ (Run.foldl_mem_visited _ _ _)).once "a"
  revert honce
  decide

theorem alone_start (pool : Pool Server Call) (command : Command) :
    Alone pool (.start command) :=
  ⟨fun _ _ _ hmove => (by cases hmove), fun _ _ _ hmove => (by cases hmove)⟩

/-- A turn that neither reads the rows of a drain nor inserts. -/
theorem alone_turnOf {pool : Pool Server Call} {position : Nat} {uniqueId : String} {call : Call}
    (hcall : pool.threads[position]? = some call)
    (hread : ∀ limit, call ≠ .received (.drain limit)) (hinsert : ∀ itemId, call ≠ .insert itemId) :
    Alone pool (turnOf position uniqueId) := by
  refine ⟨fun _ _ limit hmove hother => ?_, fun _ _ itemId hmove hother => ?_⟩
  · cases hmove
    exact absurd (Option.some.inj (hcall.symm.trans hother)) (hread limit)
  · cases hmove
    exact absurd (Option.some.inj (hcall.symm.trans hother)) (hinsert itemId)

/-- An action is staged and drained. -/
def drained : List (Move Command Outcome) :=
  [.start (.stage "item"), turnOf 0 "", turnOf 0 "a", .start (.drain 50), turnOf 1 "",
    turnOf 1 "", turnOf 1 "", turnOf 1 ""]

theorem drained_runs_once :
    ExactlyOnce (drained.foldl system.step opened) ∧
      (drained.foldl system.step opened).shared.begun = ["a"] := by
  have halone : Run.StepsMeet system.step Alone opened drained := by
    refine ⟨alone_start _ _, ?_, ?insert, alone_start _ _, ?read, ?_, ?_, ?_, trivial⟩
    case insert =>
      refine ⟨fun _ _ _ hmove hother => ?_, fun _ _ itemId hmove hother => ?_⟩
      · cases hmove
        cases hother
      · cases hmove
        rfl
    case read =>
      refine ⟨fun _ _ limit hmove hother => ⟨fun elsewhere other hdrain => ?_, ?_⟩,
        fun _ _ _ hmove hother => ?_⟩
      · match elsewhere, hdrain with
        | 0, hdrain | 1, hdrain =>
          cases hdrain
          exact not_false
      · intro _ id action hget
        rw [← Table.mem_rows_iff] at hget
        have hrow : (id, action) = ("a", ⟨"item", .pending, 0⟩) := List.mem_singleton.mp hget
        cases hrow
        decide
      · cases hmove
        cases hother
    all_goals
      exact alone_turnOf rfl (fun _ h => by cases h) (fun _ h => by cases h)
  exact ⟨exactlyOnce_of_alone halone _ (Run.foldl_mem_visited _ _ _), rfl⟩

end AutoMana.Ebay.ListingActions
