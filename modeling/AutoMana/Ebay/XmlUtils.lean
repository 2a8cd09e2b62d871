import AutoMana.Xml

/-!
# Dictionaries as XML elements

`_clean_xml_dict` takes the marks of attributes and texts off the keys of a parsed reply, and
`to_xml_element` makes elements of the values of a dictionary. Of the elements that are parsed,
cleaned and made again some come back as they were.
-/

namespace AutoMana.Ebay.XmlUtils

open Relational Xml

/-! ## Cleaning a parsed reply -/

/-- `k.lstrip("@").lstrip("#")` -/
def cleanKey (key : String) : String :=
  String.ofList ((key.toList.dropWhile (· = '@')).dropWhile (· = '#'))

mutual

/-- `_clean_xml_dict` -/
def clean : Json → Json
  | .dict fields => .dict (Table.ofPairs (cleanFields fields)).rows
  | .list items => .list (cleanItems items)
  | value => value

def cleanItems : List Json → List Json
  | [] => []
  | item :: rest => clean item :: cleanItems rest

def cleanFields : List (String × Json) → List (String × Json)
  | [] => []
  | (key, value) :: rest => (cleanKey key, clean value) :: cleanFields rest

end

theorem cleanItems_eq_map (items : List Json) : cleanItems items = items.map clean := by
  induction items with
  | nil => rfl
  | cons item rest ih => rw [cleanItems, ih, List.map_cons]

theorem cleanFields_eq_map (fields : List (String × Json)) :
    cleanFields fields = fields.map fun field => (cleanKey field.1, clean field.2) := by
  induction fields with
  | nil => rfl
  | cons field rest ih => rw [cleanFields, ih, List.map_cons]

theorem list_of_clean {value : Json} {items : List Json} (hclean : clean value = .list items) :
    ∃ others, value = .list others := by
  cases value with
  | list others => exact ⟨others, rfl⟩
  | null | bool | number | str | dict => simp [clean] at hclean

/-! ## Elements of values -/

/-- `str` of a number. -/
def numberText (units : Int) (scale : Nat) : String :=
  if scale = 0 then toString units
  else
    let digits := toString units.natAbs
    let padded := "".pushn '0' (scale + 1 - digits.length) ++ digits
    let whole := padded.toList.take (padded.length - scale)
    (if units < 0 then "-" else "") ++
      String.ofList (whole ++ '.' :: padded.toList.drop (padded.length - scale))

mutual

/-- `to_xml_element`: the elements that are put behind those of the parent. -/
def toXmlElement (name : String) : Json → List Element
  | .null => []
  | .bool value => [.leaf name [] (if value then "True" else "False")]
  | .number units scale => [.leaf name [] (numberText units scale)]
  | .str text => [.leaf name [] text]
  | .list items => toXmlElements name items
  | .dict fields => [.node name [] (fieldElements fields)]

def toXmlElements (name : String) : List Json → List Element
  | [] => []
  | item :: rest => toXmlElement name item ++ toXmlElements name rest

def fieldElements : List (String × Json) → List Element
  | [] => []
  | (name, value) :: rest => toXmlElement name value ++ fieldElements rest

end

theorem toXmlElements_eq_flatMap (name : String) (items : List Json) :
    toXmlElements name items = items.flatMap (toXmlElement name) := by
  induction items with
  | nil => rfl
  | cons item rest ih => rw [toXmlElements, ih, List.flatMap_cons]

theorem fieldElements_eq_flatMap (fields : List (String × Json)) :
    fieldElements fields = fields.flatMap fun field => toXmlElement field.1 field.2 := by
  induction fields with
  | nil => rfl
  | cons field rest ih => rw [fieldElements, ih, List.flatMap_cons]

mutual

/-- The elements of a value have its name and no attributes. -/
theorem bare_of_mem_toXmlElement {name : String} {element : Element} (value : Json)
    (helement : element ∈ toXmlElement name value) :
    element.tag = name ∧ element.attributes = [] := by
  cases value with
  | null => cases helement
  | list items => exact bare_of_mem_toXmlElements items helement
  | bool | number | str | dict =>
    rw [toXmlElement, List.mem_singleton] at helement
    subst helement
    exact ⟨rfl, rfl⟩

theorem bare_of_mem_toXmlElements {name : String} {element : Element} (items : List Json)
    (helement : element ∈ toXmlElements name items) :
    element.tag = name ∧ element.attributes = [] := by
  cases items with
  | nil => cases helement
  | cons item rest =>
    rcases List.mem_append.mp helement with hitem | hrest
    · exact bare_of_mem_toXmlElement item hitem
    · exact bare_of_mem_toXmlElements rest hrest

end

theorem length_toXmlElement_le {name : String} {value : Json}
    (hvalue : ∀ items, value ≠ .list items) : (toXmlElement name value).length ≤ 1 := by
  cases value with
  | list items => exact absurd rfl (hvalue items)
  | null => exact Nat.zero_le 1
  | bool | number | str | dict => exact Nat.le_refl 1

/-- The values of one key become the elements of each. -/
theorem toXmlElement_collapse {name : String} {values : List Json} {value : Json}
    (hvalue : collapse values = some value) :
    toXmlElement name (clean value) =
      values.flatMap fun item => toXmlElement name (clean item) := by
  match values, hvalue with
  | [_], rfl => rw [List.flatMap_singleton]
  | first :: second :: rest, rfl =>
    rw [clean, toXmlElement, toXmlElements_eq_flatMap, cleanItems_eq_map, List.flatMap_map]

/-! ## The dictionary of a node -/

/-- The cleaned entries of the children. -/
def childTable (children : List Element) : Table String Json :=
  (pushAll .empty (parseAll children)).mapValues fun _ => clean

theorem keys_childTable (children : List Element) :
    (childTable children).rows.map Prod.fst = tagsOf children := by
  rw [childTable, Table.mapValues, List.map_map, ← keys_children]
  rfl

theorem get?_childTable (children : List Element) (tag : String) :
    (childTable children).get? tag = (collapse ((tagged children tag).map parse)).map clean := by
  rw [childTable, Table.get?_mapValues, get?_children children rfl]

theorem mem_tagsOf {children : List Element} {child : Element} (hchild : child ∈ children) :
    child.tag ∈ tagsOf children := by
  rw [← keys_children, Table.mem_keys_iff, get?_children children rfl]
  have hmem : child ∈ tagged children child.tag := by simp [tagged, hchild]
  obtain ⟨first, rest, hvalues⟩ := List.exists_cons_of_ne_nil (List.ne_nil_of_mem hmem)
  rw [hvalues]
  cases rest <;> rfl

theorem isEmpty_childTable (children : List Element) :
    (childTable children).rows.isEmpty = (pushAll .empty (parseAll children)).rows.isEmpty := by
  rw [childTable, Table.mapValues, List.isEmpty_map]

theorem childTable_ne_nil {children : List Element} (hchildren : children ≠ []) :
    (childTable children).rows ≠ [] := by
  obtain ⟨child, hchild⟩ := List.exists_mem_of_ne_nil children hchildren
  have hkey := mem_tagsOf hchild
  rw [← keys_childTable] at hkey
  exact List.ne_nil_of_mem (List.mem_map.mp hkey).choose_spec.1

/-- A node without attributes whose tags are clean. -/
theorem clean_parse_node {tag : String} {children : List Element} (hchildren : children ≠ [])
    (htags : ∀ child ∈ children, cleanKey child.tag = child.tag) :
    clean (parse (.node tag [] children)) = .dict (childTable children).rows := by
  have hkeys : ∀ key ∈ tagsOf children, cleanKey key = key := by
    intro key hkey
    rw [tagsOf] at hkey
    obtain ⟨child, hchild, rfl⟩ := List.mem_map.mp (mem_firsts.mp hkey).1
    exact htags child hchild
  have hrows : (pushAll .empty (parseAll children)).rows.isEmpty = false := by
    rw [← isEmpty_childTable, List.isEmpty_eq_false_iff]
    exact childTable_ne_nil hchildren
  have hfields : cleanFields (pushAll .empty (parseAll children)).rows =
      (childTable children).rows := by
    rw [cleanFields_eq_map, childTable, Table.mapValues]
    apply List.map_congr_left
    intro field hfield
    rw [hkeys field.1 (keys_children children ▸ List.mem_map_of_mem hfield)]
  change clean (if (pushAll .empty (parseAll children)).rows.isEmpty then .null
    else .dict (pushAll .empty (parseAll children)).rows) = _
  rw [hrows, if_neg Bool.false_ne_true, clean, hfields,
    Table.rows_ofPairs (childTable children).nodup_keys]

/-! ## Elements that come back -/

/-- The elements made of one that was parsed and cleaned. -/
def echo (element : Element) : List Element := toXmlElement element.tag (clean (parse element))

theorem length_echo_le (element : Element) : (echo element).length ≤ 1 := by
  apply length_toXmlElement_le
  intro items hitems
  obtain ⟨others, hothers⟩ := list_of_clean hitems
  exact list?_parse element others hothers

theorem toXmlElement_childTable {children : List Element} {field : String × Json}
    (hfield : field ∈ (childTable children).rows) :
    toXmlElement field.1 field.2 = (tagged children field.1).flatMap echo := by
  obtain ⟨tag, value⟩ := field
  rw [Table.mem_rows_iff, get?_childTable, Option.map_eq_some_iff] at hfield
  obtain ⟨old, hold, rfl⟩ := hfield
  rw [toXmlElement_collapse hold, List.flatMap_map]
  apply List.flatMap_congr
  intro child hchild
  obtain rfl : child.tag = tag := by simpa using (List.mem_filter.mp hchild).2
  rfl

mutual

/-- The tags are clean, those of the children too. -/
def WellTagged : Element → Prop
  | .leaf tag _ _ => cleanKey tag = tag
  | .node tag _ children => cleanKey tag = tag ∧ AllWellTagged children

def AllWellTagged : List Element → Prop
  | [] => True
  | child :: rest => WellTagged child ∧ AllWellTagged rest

end

mutual

/-- A text that is not blank and has no space around it; or children, of which those with one tag
stand together, that are such elements. No element has attributes. -/
def Plain : Element → Prop
  | .leaf _ attributes text => attributes = [] ∧ text ≠ "" ∧ strip text = text
  | .node _ attributes children =>
    attributes = [] ∧ children ≠ [] ∧ Ordered (tagsOf children) children ∧ AllPlain children

def AllPlain : List Element → Prop
  | [] => True
  | child :: rest => Plain child ∧ AllPlain rest

end

theorem WellTagged.tag {element : Element} (htagged : WellTagged element) :
    cleanKey element.tag = element.tag := by
  cases element with
  | leaf => exact htagged
  | node => exact htagged.1

theorem WellTagged.children {element : Element} (htagged : WellTagged element) :
    AllWellTagged element.children := by
  cases element with
  | leaf => trivial
  | node => exact htagged.2

theorem allWellTagged_iff {children : List Element} :
    AllWellTagged children ↔ ∀ child ∈ children, WellTagged child := by
  induction children with
  | nil => simp [AllWellTagged]
  | cons child rest ih => rw [AllWellTagged, ih, List.forall_mem_cons]

theorem attributes_of_echo {element : Element} (hsame : echo element = [element]) :
    element.attributes = [] :=
  (bare_of_mem_toXmlElement _ (hsame ▸ List.mem_singleton_self element)).2

theorem clean_textValue (text : String) : clean (textValue text) = textValue text := by
  rw [textValue]
  split_ifs <;> rfl

/-- A text comes back when it is not blank and has no space around it. -/
theorem toXmlElement_textValue_iff {tag text : String} :
    toXmlElement tag (textValue text) = [.leaf tag [] text] ↔ text ≠ "" ∧ strip text = text := by
  rw [textValue]
  split_ifs with hblank
  · simp only [toXmlElement, List.nil_eq, reduceCtorEq, false_iff]
    rintro ⟨hne, hsame⟩
    exact hne (hsame ▸ hblank)
  · simp only [toXmlElement, List.cons.injEq, Element.leaf.injEq, true_and, and_true]
    constructor
    · intro hsame
      exact ⟨fun h => hblank (hsame.trans h), hsame⟩
    · exact And.right

/-- The children come back one after another when each comes back and they stand in order. -/
theorem fieldElements_childTable_iff {children : List Element} :
    fieldElements (childTable children).rows = children ↔
      Ordered (tagsOf children) children ∧ ∀ child ∈ children, echo child = [child] := by
  let groups := (tagsOf children).map fun tag => (tag, (tagged children tag).flatMap echo)
  have hnames : groups.map Prod.fst = tagsOf children := by
    rw [List.map_map]
    exact List.map_id _
  have hnodup : (groups.map Prod.fst).Nodup := by
    rw [hnames, ← keys_childTable]
    exact (childTable children).nodup_keys
  have htags : ∀ group ∈ groups, ∀ element ∈ group.2, element.tag = group.1 := by
    intro group hgroup element helement
    obtain ⟨tag, -, rfl⟩ := List.mem_map.mp hgroup
    obtain ⟨child, hchild, helement⟩ := List.mem_flatMap.mp helement
    have htag : child.tag = tag := by simpa using (List.mem_filter.mp hchild).2
    exact (bare_of_mem_toXmlElement _ helement).1.trans htag
  have hfields : fieldElements (childTable children).rows = groups.flatMap Prod.snd := by
    rw [fieldElements_eq_flatMap, List.flatMap_congr fun field => toXmlElement_childTable,
      List.flatMap_map, ← keys_childTable, List.flatMap_map]
  rw [hfields, flatMap_eq_children_iff hnodup htags, hnames, and_comm]
  refine and_congr_right fun _ => ?_
  constructor
  · intro hgroups child hchild
    have hgroup := hgroups _ (List.mem_map_of_mem (mem_tagsOf hchild))
    rw [flatMap_eq_self_iff fun other _ => length_echo_le other] at hgroup
    exact hgroup child (by simp [tagged, hchild])
  · intro hchildren group hgroup
    obtain ⟨tag, -, rfl⟩ := List.mem_map.mp hgroup
    rw [flatMap_eq_self_iff fun other _ => length_echo_le other]
    exact fun child hchild => hchildren child (List.mem_of_mem_filter hchild)

mutual

/-- The elements that come back are the plain ones. -/
theorem echo_iff {element : Element} (htagged : WellTagged element) :
    echo element = [element] ↔ Plain element := by
  by_cases hbare : element.attributes = []
  · cases element with
    | leaf tag attributes text =>
      obtain rfl : attributes = [] := hbare
      have htext : echo (.leaf tag [] text) = toXmlElement tag (textValue text) := by
        change toXmlElement tag (clean (textValue text)) = _
        rw [clean_textValue]
      rw [Plain, and_iff_right rfl, htext, toXmlElement_textValue_iff]
    | node tag attributes children =>
      obtain rfl : attributes = [] := hbare
      rw [Plain, and_iff_right rfl, ← echo_all_iff htagged.2]
      by_cases hchildren : children = []
      · subst hchildren
        have hlost : echo (.node tag [] []) = [] := rfl
        simp [hlost]
      · rw [and_iff_right hchildren, ← fieldElements_childTable_iff, echo,
          clean_parse_node hchildren fun child hchild =>
            (allWellTagged_iff.mp htagged.2 child hchild).tag]
        simp [toXmlElement, Element.tag]
  · have hechoed : ¬ echo element = [element] := fun hsame => hbare (attributes_of_echo hsame)
    have hplain : ¬ Plain element := by
      cases element <;> exact fun hplain => hbare hplain.1
    exact iff_of_false hechoed hplain

theorem echo_all_iff {children : List Element} (htagged : AllWellTagged children) :
    (∀ child ∈ children, echo child = [child]) ↔ AllPlain children := by
  cases children with
  | nil => simp [AllPlain]
  | cons child rest =>
    rw [List.forall_mem_cons, echo_iff htagged.1, echo_all_iff htagged.2, AllPlain]

end

end AutoMana.Ebay.XmlUtils
