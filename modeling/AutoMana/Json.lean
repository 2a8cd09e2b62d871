import Mathlib.Logic.Basic

/-!
# JSON documents

What `json.loads` returns. A dictionary is its fields, each key once, in the order in
which a reader goes through them.
-/

namespace AutoMana

inductive Json where
  | null
  | bool (value : Bool)
  /-- The number `units / 10 ^ scale`. -/
  | number (units : Int) (scale : Nat)
  | str (value : String)
  | list (items : List Json)
  | dict (fields : List (String × Json))

namespace Json

/-- `bool(value)`. -/
def truthy : Json → Bool
  | .null => false
  | .bool value => value
  | .number units _ => units ≠ 0
  | .str value => value ≠ ""
  | .list items => !items.isEmpty
  | .dict fields => !fields.isEmpty

/-- `value.get(key, default)`; `none` when the value has no such method. -/
def get? (value : Json) (key : String) (default : Json) : Option Json :=
  match value with
  | .dict fields => some ((fields.lookup key).getD default)
  | _ => none

/-- `value[key]`; `none` when it raises. -/
def item? (value : Json) (key : String) : Option Json :=
  match value with
  | .dict fields => fields.lookup key
  | _ => none

/-- `value == text`. -/
def isStr (value : Json) (text : String) : Bool :=
  match value with
  | .str other => other = text
  | _ => false

/-- `isinstance(value, str)` -/
def str? : Json → Option String
  | .str text => some text
  | _ => none

/-- `isinstance(value, list)` -/
def list? : Json → Option (List Json)
  | .list items => some items
  | _ => none

/-- `isinstance(value, dict)` -/
def dict? : Json → Option (List (String × Json))
  | .dict fields => some fields
  | _ => none

/-- `hash(value)` does not raise. -/
def hashable : Json → Bool
  | .list _ => false
  | .dict _ => false
  | _ => true

end Json

end AutoMana
