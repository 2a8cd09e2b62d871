import AutoMana.Json
import AutoMana.Relational.Dict
import AutoMana.Relational.Grouping

/-!
# XML elements as dictionaries

`xmltodict` makes a dictionary of an element: its attributes, and its children by their tags, of
which those with one tag are a list when there are several.
-/

namespace AutoMana.Xml

open Relational

/-- An element with a text, or with children. -/
inductive Element where
  | leaf (tag : String) (attributes : List (String × String)) (text : String)
  | node (tag : String) (attributes : List (String × String)) (children : List Element)

def Element.tag : Element → String
  | .leaf tag _ _ => tag
  | .node tag _ _ => tag

def Element.attributes : Element → List (String × String)
  | .leaf _ attributes _ => attributes
  | .node _ attributes _ => attributes

def Element.children : Element → List Element
  | .leaf _ _ _ => []
  | .node _ _ children => children

/-- The children with a tag. -/
def tagged (children : List Element) (tag : String) : List Element :=
  children.filter (·.tag = tag)

/-- `str.isspace` -/
def isSpace (c : Char) : Bool :=
  (0x9 ≤ c.toNat && c.toNat ≤ 0xd) || (0x1c ≤ c.toNat && c.toNat ≤ 0x20) ||
    (0x2000 ≤ c.toNat && c.toNat ≤ 0x200a) ||
    [0x85, 0xa0, 0x1680, 0x2028, 0x2029, 0x202f, 0x205f, 0x3000].contains c.toNat

/-- `str.strip` -/
def strip (text : String) : String :=
  String.ofList (((text.toList.dropWhile isSpace).reverse.dropWhile isSpace).reverse)

/-! ## Parsing -/

/-- The value of a key that is pushed again is a list. -/
def pushed (old : Option Json) (data : Json) : Json :=
  match old with
  | none => data
  | some (.list items) => .list (items ++ [data])
  | some value => .list [value, data]

/-- `push_data` -/
def pushData (item : Table String Json) (key : String) (data : Json) : Table String Json :=
  item.set key (pushed (item.get? key) data)

def pushAll (item : Table String Json) (entries : List (String × Json)) : Table String Json :=
  entries.foldl (fun item entry => pushData item entry.1 entry.2) item

/-- The attributes, with the prefix of their keys. -/
def attributeItem (attributes : List (String × String)) : Table String Json :=
  Table.ofPairs (attributes.map fun entry => ("@" ++ entry.1, .str entry.2))

/-- The text of an element without attributes or children. -/
def textValue (text : String) : Json := if strip text = "" then .null else .str (strip text)

mutual

/-- `xmltodict.parse`, below the tag of the element. -/
def parse : Element → Json
  | .leaf _ [] text => textValue text
  | .leaf _ attributes text =>
    let item := attributeItem attributes
    .dict (if strip text = "" then item else pushData item "#text" (.str (strip text))).rows
  | .node _ attributes children =>
    let item := pushAll (attributeItem attributes) (parseAll children)
    if item.rows.isEmpty then .null else .dict item.rows

def parseAll : List Element → List (String × Json)
  | [] => []
  | child :: rest => (child.tag, parse child) :: parseAll rest

end

theorem parseAll_eq_map (children : List Element) :
    parseAll children = children.map fun child => (child.tag, parse child) := by
  induction children with
  | nil => rfl
  | cons child rest ih => rw [parseAll, ih, List.map_cons]

/-- What an element is parsed to is no list. -/
theorem list?_parse (element : Element) : ∀ items, parse element ≠ .list items := by
  intro items
  cases element with
  | leaf tag attributes text =>
    cases attributes with
    | nil =>
      rw [parse, textValue]
      split_ifs <;> exact fun h => by cases h
    | cons first rest => exact fun h => by cases h
  | node tag attributes children =>
    rw [parse]
    split_ifs <;> exact fun h => by cases h

/-! ## The dictionary of the children -/

/-- The values of one key, as they are collected. -/
def collapse : List Json → Option Json
  | [] => none
  | [value] => some value
  | values => some (.list values)

theorem collapse_concat {values : List Json}
    (hvalues : ∀ value ∈ values, ∀ items, value ≠ .list items) (value : Json) :
    collapse (values ++ [value]) = some (pushed (collapse values) value) := by
  match values with
  | [] => rfl
  | [first] =>
    have hfirst := hvalues first List.mem_cons_self
    cases first with
    | list items => exact absurd rfl (hfirst items)
    | null | bool | number | str | dict => rfl
  | first :: second :: rest => rfl

/-- Under a key that is new the values that are pushed are collected. -/
theorem get?_pushAll {item : Table String Json} {entries : List (String × Json)}
    (hvalues : ∀ entry ∈ entries, ∀ items, entry.2 ≠ .list items) {key : String}
    (hnew : item.get? key = none) :
    (pushAll item entries).get? key =
      collapse ((entries.filter (·.1 = key)).map Prod.snd) := by
  induction entries using List.reverseRecOn with
  | nil => exact hnew
  | append_singleton rest last ih =>
    rw [List.forall_mem_append] at hvalues
    have hrest := ih hvalues.1
    rw [pushAll, List.foldl_append]
    change (pushData (pushAll item rest) last.1 last.2).get? key = _
    rw [pushData, Table.get?_set, List.filter_append, List.map_append]
    by_cases hkey : key = last.1
    · subst hkey
      have hcollected : ∀ value ∈ (rest.filter (·.1 = last.1)).map Prod.snd,
          ∀ items, value ≠ .list items := by
        intro value hvalue
        obtain ⟨entry, hentry, rfl⟩ := List.mem_map.mp hvalue
        exact hvalues.1 entry (List.mem_of_mem_filter hentry)
      rw [if_pos rfl, hrest, List.filter_singleton]
      simpa using (collapse_concat hcollected last.2).symm
    · have hne : ¬ last.1 = key := fun hsame => hkey hsame.symm
      rw [if_neg hkey, hrest, List.filter_singleton]
      simp [hne]

theorem keys_pushData (item : Table String Json) (key : String) (data : Json) :
    (pushData item key data).rows.map Prod.fst =
      if key ∈ item.rows.map Prod.fst then item.rows.map Prod.fst
      else item.rows.map Prod.fst ++ [key] := by
  rw [pushData]
  split_ifs with hstored
  · exact Table.keys_set_of_stored ((Table.mem_keys_iff _ _).mp hstored) _
  · have hnone : item.get? key = none := by
      rwa [Table.mem_keys_iff, Option.not_isSome_iff_eq_none] at hstored
    rw [Table.rows_set_of_new hnone, List.map_append]
    rfl

/-- The keys stand in the order in which they were first pushed. -/
theorem keys_pushAll (item : Table String Json) (entries : List (String × Json)) :
    (pushAll item entries).rows.map Prod.fst =
      item.rows.map Prod.fst ++
        firsts some (item.rows.map Prod.fst) (entries.map Prod.fst) := by
  induction entries generalizing item with
  | nil => simp [pushAll, firsts]
  | cons entry rest ih =>
    rw [pushAll, List.foldl_cons, ← pushAll, ih, keys_pushData, List.map_cons, firsts,
      Option.elim_some]
    split_ifs
    · rfl
    · rw [List.append_assoc, List.singleton_append]

/-! ## Elements by their tags -/

/-- The tags of the children, each at its first place. -/
def tagsOf (children : List Element) : List String := firsts some [] (children.map Element.tag)

/-- The dictionary of a node without attributes. -/
theorem keys_children (children : List Element) :
    (pushAll .empty (parseAll children)).rows.map Prod.fst = tagsOf children := by
  have hkeys := keys_pushAll .empty (parseAll children)
  rw [parseAll_eq_map, List.map_map] at hkeys
  rw [parseAll_eq_map]
  exact hkeys

theorem get?_children {item : Table String Json} (children : List Element) {tag : String}
    (hnew : item.get? tag = none) :
    (pushAll item (parseAll children)).get? tag =
      collapse ((tagged children tag).map parse) := by
  have hvalues : ∀ entry ∈ parseAll children, ∀ items, entry.2 ≠ .list items := by
    intro entry hentry
    rw [parseAll_eq_map] at hentry
    obtain ⟨child, -, rfl⟩ := List.mem_map.mp hentry
    exact list?_parse child
  rw [get?_pushAll hvalues hnew, parseAll_eq_map, List.filter_map, List.map_map]
  rfl

/-- The children stand in the order of the tags, those with one tag together. -/
def Ordered (tags : List String) (children : List Element) : Prop :=
  tags.flatMap (tagged children) = children

/-- Among lists of elements with one tag each, the elements with a tag are the list of the tag. -/
theorem tagged_flatMap {groups : List (String × List Element)}
    (hnodup : (groups.map Prod.fst).Nodup)
    (htags : ∀ group ∈ groups, ∀ element ∈ group.2, element.tag = group.1)
    {group : String × List Element} (hgroup : group ∈ groups) :
    tagged (groups.flatMap Prod.snd) group.1 = group.2 := by
  induction groups with
  | nil => cases hgroup
  | cons first rest ih =>
    rw [List.map_cons, List.nodup_cons] at hnodup
    obtain ⟨hnew, hnodup⟩ := hnodup
    obtain ⟨hfirst, hrest⟩ := List.forall_mem_cons.mp htags
    rw [List.flatMap_cons, tagged, List.filter_append]
    rcases List.mem_cons.mp hgroup with rfl | hmem
    · have hself : group.2.filter (fun element => element.tag = group.1) = group.2 :=
        List.filter_eq_self.mpr fun element helement => by simpa using hfirst element helement
      have hothers :
          (rest.flatMap Prod.snd).filter (fun element => element.tag = group.1) = [] := by
        rw [List.filter_eq_nil_iff]
        intro element helement
        obtain ⟨other, hother, helement⟩ := List.mem_flatMap.mp helement
        rw [hrest other hother element helement, decide_eq_true_eq]
        intro hsame
        exact hnew (hsame ▸ List.mem_map_of_mem hother)
      rw [hself, hothers, List.append_nil]
    · have hnone : first.2.filter (fun element => element.tag = group.1) = [] := by
        rw [List.filter_eq_nil_iff]
        intro element helement
        rw [hfirst element helement, decide_eq_true_eq]
        intro hsame
        exact hnew (hsame ▸ List.mem_map_of_mem hmem)
      rw [hnone, List.nil_append]
      exact ih hnodup hrest hmem

/-- Lists of elements with one tag each are the children, one after another, exactly when each is
the children with its tag, and the children stand in the order of the tags. -/
theorem flatMap_eq_children_iff {groups : List (String × List Element)}
    (hnodup : (groups.map Prod.fst).Nodup)
    (htags : ∀ group ∈ groups, ∀ element ∈ group.2, element.tag = group.1)
    {children : List Element} :
    groups.flatMap Prod.snd = children ↔
      (∀ group ∈ groups, group.2 = tagged children group.1) ∧
        Ordered (groups.map Prod.fst) children := by
  rw [Ordered, List.flatMap_map]
  constructor
  · rintro rfl
    have hgroups : ∀ group ∈ groups, group.2 = tagged (groups.flatMap Prod.snd) group.1 :=
      fun group hgroup => (tagged_flatMap hnodup htags hgroup).symm
    exact ⟨hgroups, (List.flatMap_congr hgroups).symm⟩
  · rintro ⟨hgroups, horder⟩
    rw [← horder, List.flatMap_congr hgroups, horder]

theorem length_flatMap_le {α : Type} {f : α → List α} {items : List α}
    (hlength : ∀ item ∈ items, (f item).length ≤ 1) : (items.flatMap f).length ≤ items.length := by
  induction items with
  | nil => exact Nat.le_refl 0
  | cons item rest ih =>
    obtain ⟨hitem, hrest⟩ := List.forall_mem_cons.mp hlength
    have hle := ih hrest
    rw [List.flatMap_cons, List.length_append, List.length_cons]
    omega

/-- At most one for each item: the items come back when each does. -/
theorem flatMap_eq_self_iff {α : Type} {f : α → List α} {items : List α}
    (hlength : ∀ item ∈ items, (f item).length ≤ 1) :
    items.flatMap f = items ↔ ∀ item ∈ items, f item = [item] := by
  induction items with
  | nil => simp
  | cons item rest ih =>
    obtain ⟨hitem, hrest⟩ := List.forall_mem_cons.mp hlength
    rw [List.flatMap_cons, List.forall_mem_cons, ← ih hrest]
    constructor
    · intro hsame
      match hf : f item with
      | [] =>
        -- the others are too few
        have hle := length_flatMap_le hrest
        have hcount := congrArg List.length hsame
        rw [hf, List.nil_append, List.length_cons] at hcount
        omega
      | [other] =>
        rw [hf, List.singleton_append] at hsame
        obtain ⟨rfl, hothers⟩ := List.cons.inj hsame
        exact ⟨rfl, hothers⟩
      | first :: second :: others =>
        rw [hf] at hitem
        exact absurd hitem (by simp)
    · rintro ⟨hself, hothers⟩
      rw [hself, hothers, List.singleton_append]

end AutoMana.Xml
