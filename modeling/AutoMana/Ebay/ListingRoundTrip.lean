import AutoMana.Ebay.ItemModel
import AutoMana.Ebay.XmlUtils

/-!
# Reading a listing and sending it back

`get_listing` makes an `ItemModel` of the item in a reply, and
`generate_revise_item_request_xml` makes an item of the model again. The item is the one that was
read exactly when it has an `ItemID` and is kept by the types of its fields: it has no booleans,
no prices and no other attributes, no single element where the field is a list, its texts are
the ones that `str` prints of their values, and its elements stand in the order of the fields.
-/

namespace AutoMana.Ebay.ItemXml

open Relational Xml XmlUtils

variable {scalars : Scalars}

/-! ## Reading and revising -/

/-- `get_listing`, from the reply. -/
def getListing (scalars : Scalars) (response : Element) : Option (List (String × Json)) := do
  let raw := clean (.dict [(response.tag, parse response)])
  let reply ← raw.get? "GetItemResponse" (.dict [])
  let data ← reply.get? "Item" (.dict [])
  modelValidate scalars (if data.truthy then data else .dict [])

/-- The request that revises an item. -/
def reviseItemRequest (item : Element) : Element :=
  .node "ReviseItemRequest" [("xmlns", "urn:ebay:apis:eBLBaseComponents")]
    [.leaf "ErrorLanguage" [] "en_US", .leaf "WarningLevel" [] "High", item]

/-- `generate_revise_item_request_xml`; `none` when it raises. -/
def generateReviseItem (model : List (String × Json)) : Option Element :=
  if ((model.lookup "ItemID").getD .null).truthy then
    some (reviseItemRequest (.node "Item" [] (fieldElements (present model))))
  else none

/-! ## Items in the reply's format -/

/-- The reply of `GetItem`, with what stands before and behind the item. -/
def getItemResponse (before : List Element) (item : Element) (after : List Element) : Element :=
  .node "GetItemResponse" [("xmlns", "urn:ebay:apis:eBLBaseComponents")] (before ++ item :: after)

def Ty.repeats : Ty → Bool
  | .list _ | .listOrOne _ => true
  | _ => false

def Ty.isList : Ty → Bool
  | .list _ => true
  | _ => false

/-- The type of one of the elements. -/
def Ty.item : Ty → Ty
  | .list item | .listOrOne item => item
  | ty => ty

mutual

/-- Children have the names of fields, once where the field is no list; a boolean is true or
false, and a price has no children. -/
def Fits : Ty → Element → Prop
  | .str, _ | .int, _ | .float, _ | .uuid, _ | .dict, _ => True
  | .bool, element => ∀ tag attributes text, element = .leaf tag attributes text →
      text = "true" ∨ text = "false"
  | .cost, element => element.children = []
  | .list item, element | .listOrOne item, element => Fits item element
  | .model _ fields, element =>
    (∀ child ∈ element.children, child.tag ∈ fields.names) ∧ FitsFields fields element.children

def FitsFields : Fields → List Element → Prop
  | .nil, _ => True
  | .cons name _ _ ty rest, children =>
    (ty.repeats = false → (tagged children name).length ≤ 1) ∧
      (∀ child ∈ tagged children name, Fits ty child) ∧ FitsFields rest children

end

/-! ## Items that are kept -/

/-- A text without attributes that is printed as it was. -/
def KeptText (printed : String → Option String) : Element → Prop
  | .leaf _ attributes text =>
    attributes = [] ∧ strip text ≠ "" ∧ printed (strip text) = some text
  | .node _ _ _ => False

mutual

/-- An element of which the model keeps everything. -/
def Kept (scalars : Scalars) : Ty → Element → Prop
  | .str, element => KeptText some element
  | .int, element => KeptText (fun text => (scalars.int text).map toString) element
  | .float, element => KeptText scalars.float element
  | .uuid, element => KeptText scalars.uuid element
  | .bool, _ | .cost, _ => False
  | .dict, element => Plain element ∧ element.children ≠ []
  | .list item, element | .listOrOne item, element => Kept scalars item element
  | .model _ fields, element =>
    element.attributes = [] ∧ element.children ≠ [] ∧ Ordered fields.names element.children ∧
      KeptFields scalars fields element.children

/-- The required fields are there, and a list has not one element. -/
def KeptFields (scalars : Scalars) : Fields → List Element → Prop
  | .nil, _ => True
  | .cons name _ required ty rest, children =>
    (required → tagged children name ≠ []) ∧
      (ty.isList → (tagged children name).length ≠ 1) ∧
      (∀ child ∈ tagged children name, Kept scalars ty child) ∧
      KeptFields scalars rest children

end

/-! ## Names -/

mutual

/-- The names of the fields differ, no alias is the name of another field, and the elements of a
list are no lists. -/
def Ty.wellNamed : Ty → Bool
  | .str | .bool | .int | .float | .uuid | .dict | .cost => true
  | .list item | .listOrOne item => !item.repeats && item.wellNamed
  | .model _ fields => fields.names.Nodup && fields.wellNamed fields.names

def Fields.wellNamed (names : List String) : Fields → Bool
  | .nil => true
  | .cons name camel _ ty rest =>
    (camel = name || !names.contains camel) && ty.wellNamed && rest.wellNamed names

end

theorem wellNamed_itemFields :
    itemFields.names.Nodup ∧ itemFields.wellNamed itemFields.names = true := by
  have hnamed : itemModel.wellNamed = true := by decide +kernel
  rwa [itemModel, Ty.wellNamed, Bool.and_eq_true, decide_eq_true_eq] at hnamed

theorem Ty.item_of_not_repeats {ty : Ty} (hty : ty.repeats = false) : ty.item = ty := by
  cases ty with
  | list | listOrOne => cases hty
  | str | bool | int | float | uuid | dict | cost | model => rfl

theorem lookup_childTable_of_notMem {names : List String} {children : List Element}
    (htags : ∀ child ∈ children, child.tag ∈ names) {camel : String} (hcamel : camel ∉ names) :
    (childTable children).rows.lookup camel = none := by
  have hgroup : tagged children camel = [] := by
    rw [tagged, List.filter_eq_nil_iff]
    intro child hchild hsame
    exact hcamel (of_decide_eq_true hsame ▸ htags child hchild)
  have hget := get?_childTable children camel
  rw [hgroup] at hget
  exact hget

/-- In the dictionary of the children a field is found by its name. -/
theorem fieldValue_childTable {names : List String} {children : List Element}
    (htags : ∀ child ∈ children, child.tag ∈ names) {name camel : String}
    (hcamel : camel = name ∨ camel ∉ names) :
    fieldValue name camel (childTable children).rows =
      (collapse ((tagged children name).map parse)).map clean := by
  rw [fieldValue, ← get?_childTable]
  rcases hcamel with rfl | hcamel
  · exact Option.or_self
  · rw [lookup_childTable_of_notMem htags hcamel, Option.none_or]
    rfl

theorem keys_childTable_of_wellNamed {names : List String} {children : List Element}
    (htags : ∀ child ∈ children, child.tag ∈ names) :
    ∀ {fields : Fields}, fields.wellNamed names →
      fields.keys (childTable children).rows = fields.names
  | .nil, _ => rfl
  | .cons name camel _ _ rest, hnamed => by
    rw [Fields.wellNamed, Bool.and_eq_true, Bool.and_eq_true] at hnamed
    obtain ⟨⟨hcamel, -⟩, hrest⟩ := hnamed
    have hkey : (if ((childTable children).rows.lookup camel).isSome then camel else name) =
        name := by
      rcases Bool.or_eq_true_iff.mp hcamel with hsame | hother
      · rw [of_decide_eq_true hsame, ite_self]
      · have hnotMem : camel ∉ names := by simpa using hother
        rw [lookup_childTable_of_notMem htags hnotMem]
        rfl
    rw [Fields.keys, Fields.names, hkey, keys_childTable_of_wellNamed htags hrest]

/-- The fields are found by their names, so that no entry is left. -/
theorem extras_childTable {fields : Fields} (hnamed : fields.wellNamed fields.names)
    {children : List Element} (htags : ∀ child ∈ children, child.tag ∈ fields.names) :
    fields.extras (childTable children).rows = [] := by
  rw [Fields.extras, keys_childTable_of_wellNamed htags hnamed, List.filter_eq_nil_iff]
  intro entry hentry
  have htag : entry.1 ∈ tagsOf children := by
    rw [← keys_childTable]
    exact List.mem_map_of_mem hentry
  rw [tagsOf] at htag
  obtain ⟨child, hchild, hsame⟩ := List.mem_map.mp (mem_firsts.mp htag).1
  have hname : entry.1 ∈ fields.names := hsame ▸ htags child hchild
  simp [hname]

/-! ## Values that are no elements -/

theorem validate_null : ∀ ty : Ty, validate scalars ty .null = none
  | .str | .bool | .int | .float | .uuid | .dict | .cost | .list _ | .model _ _ => rfl
  | .listOrOne item => validate_null item

/-- Only a list is dumped as a list. -/
theorem validate_ne_list {ty : Ty} (hty : ty.repeats = false) {value dump : Json}
    (hdump : validate scalars ty value = some dump) : ∀ items, dump ≠ .list items := by
  rintro items rfl
  cases ty with
  | list | listOrOne => cases hty
  | str | bool | int | float | uuid | dict | cost | model =>
    simp [validate, Option.bind_eq_some_iff] at hdump

/-! ## Elements that come back -/

/-- What is made of the dump of an element; nothing, when it is not valid. -/
def sent (scalars : Scalars) (ty : Ty) (element : Element) : List Element :=
  ((validate scalars ty (clean (parse element))).map (toXmlElement element.tag)).getD []

theorem length_sent_le {ty : Ty} (hty : ty.repeats = false) (element : Element) :
    (sent scalars ty element).length ≤ 1 := by
  rw [sent]
  cases hdump : validate scalars ty (clean (parse element)) with
  | none => exact Nat.zero_le 1
  | some dump => exact length_toXmlElement_le (validate_ne_list hty hdump)

theorem attributes_of_sent {ty : Ty} {element : Element}
    (hsame : sent scalars ty element = [element]) : element.attributes = [] := by
  rw [sent] at hsame
  cases hdump : validate scalars ty (clean (parse element)) with
  | none =>
    rw [hdump] at hsame
    cases hsame
  | some dump =>
    rw [hdump] at hsame
    exact (bare_of_mem_toXmlElement dump (hsame ▸ List.mem_singleton_self element)).2

/-- A scalar comes back when it is printed as it was. -/
theorem sent_text_iff {ty : Ty} {printed : String → Option String}
    (hprinted : ∀ value name, ((validate scalars ty value).map (toXmlElement name)).getD [] =
      ((value.str?.bind printed).map fun text => [Element.leaf name [] text]).getD [])
    (element : Element) : sent scalars ty element = [element] ↔ KeptText printed element := by
  by_cases hbare : element.attributes = []
  · rw [sent, hprinted]
    cases element with
    | leaf tag attributes text =>
      obtain rfl : attributes = [] := hbare
      rw [parse, clean_textValue, textValue, KeptText, and_iff_right rfl]
      split_ifs with hblank
      · simp [hblank, Json.str?]
      · rw [and_iff_right hblank]
        change (((printed (strip text)).map fun text => [Element.leaf tag [] text]).getD [] =
          [.leaf tag [] text]) ↔ _
        cases printed (strip text) <;> simp
    | node tag attributes children =>
      have hnone : (clean (parse (.node tag attributes children))).str? = none := by
        rw [parse]
        split_ifs <;> rfl
      simp [hnone, KeptText]
  · have hkept : ¬ KeptText printed element := by
      cases element with
      | leaf => exact fun hkept => hbare hkept.1
      | node => exact id
    exact iff_of_false (fun hsame => hbare (attributes_of_sent hsame)) hkept

/-! ## Several elements of a field -/

/-- The elements of the items of a list, one after another. -/
theorem flatMap_of_mapM {ty : Ty} {group : List Element} {name : String}
    (htags : ∀ element ∈ group, element.tag = name) {values : List Json}
    (hvalues : (group.map fun element => clean (parse element)).mapM (validate scalars ty) =
      some values) : values.flatMap (toXmlElement name) = group.flatMap (sent scalars ty) := by
  induction group generalizing values with
  | nil =>
    obtain rfl : [] = values := Option.some.inj hvalues
    rfl
  | cons element rest ih =>
    obtain ⟨htag, hrest⟩ := List.forall_mem_cons.mp htags
    rw [List.map_cons, List.mapM_cons, Option.bind_eq_bind, Option.bind_eq_some_iff] at hvalues
    obtain ⟨value, hvalue, hvalues⟩ := hvalues
    rw [Option.bind_eq_bind, Option.bind_eq_some_iff] at hvalues
    obtain ⟨others, hothers, hvalues⟩ := hvalues
    obtain rfl : value :: others = values := Option.some.inj hvalues
    rw [List.flatMap_cons, List.flatMap_cons, ih hrest hothers, sent, hvalue, htag]
    rfl

theorem exists_mapM_of_sent {ty : Ty} {group : List Element}
    (hsent : ∀ element ∈ group, sent scalars ty element = [element]) :
    ∃ values, (group.map fun element => clean (parse element)).mapM (validate scalars ty) =
      some values := by
  induction group with
  | nil => exact ⟨[], rfl⟩
  | cons element rest ih =>
    obtain ⟨helement, hrest⟩ := List.forall_mem_cons.mp hsent
    obtain ⟨others, hothers⟩ := ih hrest
    rw [sent] at helement
    cases hvalue : validate scalars ty (clean (parse element)) with
    | none =>
      rw [hvalue] at helement
      cases helement
    | some value =>
      refine ⟨value :: others, ?_⟩
      rw [List.map_cons, List.mapM_cons, hvalue, hothers]
      rfl

/-- The items of a list come back when each does. -/
theorem sent_items_iff {ty : Ty} (hty : ty.repeats = false) {group : List Element} {name : String}
    (htags : ∀ element ∈ group, element.tag = name) :
    (∃ values, (group.map fun element => clean (parse element)).mapM (validate scalars ty) =
        some values ∧ values.flatMap (toXmlElement name) = group) ↔
      ∀ element ∈ group, sent scalars ty element = [element] := by
  rw [← flatMap_eq_self_iff fun element _ => length_sent_le hty element]
  constructor
  · rintro ⟨values, hvalues, hsame⟩
    rw [← flatMap_of_mapM htags hvalues, hsame]
  · intro hsame
    have hsent := (flatMap_eq_self_iff fun element _ => length_sent_le hty element).mp hsame
    obtain ⟨values, hvalues⟩ := exists_mapM_of_sent hsent
    exact ⟨values, hvalues, (flatMap_of_mapM htags hvalues).trans hsame⟩

/-! ## The fields of a model -/

/-- A field that is there has its element when the value of the element is valid. -/
theorem field_one_iff {ty : Ty} {required : Bool} {value : Json} {name : String}
    {element : Element} :
    (∃ dump, validateField required (validate scalars ty) (some value) = some dump ∧
        toXmlElement name dump = [element]) ↔
      ((validate scalars ty value).map (toXmlElement name)).getD [] = [element] := by
  have hvalid : value ≠ .null →
      validateField required (validate scalars ty) (some value) = validate scalars ty value := by
    intro hvalue
    cases value with
    | null => exact absurd rfl hvalue
    | bool | number | str | list | dict => rfl
  by_cases hnull : value = .null
  · subst hnull
    rw [validate_null]
    constructor
    · rintro ⟨dump, hdump, hsame⟩
      cases required with
      | false =>
        obtain rfl : .null = dump := Option.some.inj hdump
        cases hsame
      | true => cases hdump
    · exact fun hsame => by cases hsame
  · rw [hvalid hnull]
    cases validate scalars ty value with
    | none => simp
    | some dump => simp

theorem validate_item {ty : Ty} (hlist : ty.isList = false) {value : Json}
    (hvalue : value.list? = none) : validate scalars ty value = validate scalars ty.item value := by
  cases ty with
  | list => cases hlist
  | listOrOne item => rw [validate, hvalue]; rfl
  | str | bool | int | float | uuid | dict | cost | model => rfl

theorem list?_clean_parse (element : Element) : (clean (parse element)).list? = none := by
  cases hclean : clean (parse element) with
  | list items =>
    obtain ⟨others, hothers⟩ := list_of_clean hclean
    exact absurd hothers (list?_parse element others)
  | null | bool | number | str | dict => rfl

/-- A field has its elements when each of them comes back, and a list has not one. -/
theorem field_iff {ty : Ty} (hitem : ty.item.repeats = false) {required : Bool} {name : String}
    {group : List Element} (htags : ∀ element ∈ group, element.tag = name)
    (hcount : ty.repeats = false → group.length ≤ 1) :
    (∃ dump, validateField required (validate scalars ty)
        ((collapse (group.map parse)).map clean) = some dump ∧
        toXmlElement name dump = group) ↔
      (required → group ≠ []) ∧ (ty.isList → group.length ≠ 1) ∧
        ∀ element ∈ group, sent scalars ty.item element = [element] := by
  match group with
  | [] =>
    cases required with
    | false => simp [collapse, validateField, toXmlElement]
    | true => simp [collapse, validateField]
  | [element] =>
    obtain rfl := htags element List.mem_cons_self
    change (∃ dump, validateField required (validate scalars ty) (some (clean (parse element))) =
      some dump ∧ _) ↔ _
    rw [field_one_iff]
    cases hlist : ty.isList with
    | false =>
      rw [validate_item hlist (list?_clean_parse element)]
      simp [sent]
    | true =>
      have hnone : validate scalars ty (clean (parse element)) = none := by
        cases ty with
        | list => rw [validate, list?_clean_parse]; rfl
        | str | bool | int | float | uuid | dict | cost | listOrOne | model => cases hlist
      simp [hnone]
  | first :: second :: rest =>
    have hdump : ∀ items, validateField required (validate scalars ty) (some (.list items)) =
        (items.mapM (validate scalars ty.item)).map .list := by
      intro items
      cases ty with
      | list | listOrOne => rfl
      | str | bool | int | float | uuid | dict | cost | model =>
        exact absurd (hcount rfl) (by simp)
    have hvalue : (collapse ((first :: second :: rest).map parse)).map clean =
        some (.list ((first :: second :: rest).map fun element => clean (parse element))) := by
      change some (clean (.list ((first :: second :: rest).map parse))) = _
      rw [clean, cleanItems_eq_map, List.map_map]
      rfl
    rw [hvalue, ← sent_items_iff hitem htags, hdump]
    generalize List.mapM (validate scalars ty.item) _ = dumped
    cases dumped with
    | none => simp
    | some values => simp [toXmlElement, toXmlElements_eq_flatMap]

theorem names_of_validateFields {rows : List (String × Json)} :
    ∀ {fields : Fields} {values : List (String × Json)},
      validateFields scalars fields rows = some values → values.map Prod.fst = fields.names
  | .nil, values, hvalues => by
    obtain rfl : [] = values := Option.some.inj hvalues
    rfl
  | .cons name camel required ty rest, values, hvalues => by
    rw [validateFields, Option.bind_eq_bind, Option.bind_eq_some_iff] at hvalues
    obtain ⟨value, -, hvalues⟩ := hvalues
    rw [Option.bind_eq_bind, Option.bind_eq_some_iff] at hvalues
    obtain ⟨others, hothers, hvalues⟩ := hvalues
    obtain rfl : (name, value) :: others = values := Option.some.inj hvalues
    rw [List.map_cons, names_of_validateFields hothers, Fields.names]

/-- `exclude_none` leaves out what has no elements. -/
theorem fieldElements_present (values : List (String × Json)) :
    fieldElements (present values) = fieldElements values := by
  induction values with
  | nil => rfl
  | cons entry rest ih =>
    obtain ⟨name, value⟩ := entry
    rw [present, List.filter_cons, ← present]
    cases value with
    | null => exact ih
    | bool | number | str | list | dict => rw [if_pos rfl, fieldElements, fieldElements, ih]

/-- The elements of the fields are the children when each field has its own and they stand in the
order of the fields. -/
theorem fieldElements_values_iff {names : List String} {values : List (String × Json)}
    (hvalues : values.map Prod.fst = names) (hnodup : names.Nodup) {children : List Element} :
    fieldElements values = children ↔
      (∀ value ∈ values, toXmlElement value.1 value.2 = tagged children value.1) ∧
        Ordered names children := by
  let groups := values.map fun value => (value.1, toXmlElement value.1 value.2)
  have hnames : groups.map Prod.fst = names := by
    rw [← hvalues, List.map_map]
    rfl
  have htags : ∀ group ∈ groups, ∀ element ∈ group.2, element.tag = group.1 := by
    intro group hgroup element helement
    obtain ⟨value, -, rfl⟩ := List.mem_map.mp hgroup
    exact (bare_of_mem_toXmlElement value.2 helement).1
  have hfields : fieldElements values = groups.flatMap Prod.snd := by
    rw [fieldElements_eq_flatMap, List.flatMap_map]
  rw [hfields, flatMap_eq_children_iff (hnames ▸ hnodup) htags, hnames, List.forall_mem_map]

/-- The children come back when each field has its own and they stand in order. -/
theorem values_iff {allowsExtra : Bool} {fields : Fields} (hnodup : fields.names.Nodup)
    (hnamed : fields.wellNamed fields.names) {children : List Element}
    (htags : ∀ child ∈ children, child.tag ∈ fields.names) {values : List (String × Json)}
    (hvalues : validateFields scalars fields (childTable children).rows = some values) :
    fieldElements (present (withExtras allowsExtra fields (childTable children).rows values)) =
        children ↔
      Ordered fields.names children ∧
        ∀ value ∈ values, toXmlElement value.1 value.2 = tagged children value.1 := by
  rw [withExtras, extras_childTable hnamed htags, ite_self, List.append_nil,
    fieldElements_present, fieldElements_values_iff (names_of_validateFields hvalues) hnodup,
    and_comm]

theorem Ty.not_repeats_item {ty : Ty} (hnamed : ty.wellNamed) : ty.item.repeats = false := by
  cases ty with
  | list item | listOrOne item =>
    rw [Ty.wellNamed, Bool.and_eq_true, Bool.not_eq_true'] at hnamed
    exact hnamed.1
  | str | bool | int | float | uuid | dict | cost | model => rfl

theorem validateFields_cons_iff {name camel : String} {required : Bool} {ty : Ty} {rest : Fields}
    {rows : List (String × Json)} {own : String × Json → Prop} :
    (∃ values, validateFields scalars (.cons name camel required ty rest) rows = some values ∧
        ∀ value ∈ values, own value) ↔
      (∃ dump, validateField required (validate scalars ty) (fieldValue name camel rows) =
          some dump ∧ own (name, dump)) ∧
        ∃ values, validateFields scalars rest rows = some values ∧ ∀ value ∈ values, own value := by
  rw [validateFields]
  cases validateField required (validate scalars ty) (fieldValue name camel rows) with
  | none => simp
  | some dump =>
    cases validateFields scalars rest rows with
    | none => simp
    | some values => simp [-Prod.forall]

/-! ## Items of a type -/

theorem not_sent_bool {element : Element} (hfits : Fits .bool element) :
    ¬ sent scalars .bool element = [element] := by
  intro hsame
  rw [sent, validate] at hsame
  cases hread : (clean (parse element)).str?.bind scalars.bool with
  | none =>
    rw [hread] at hsame
    cases hsame
  | some value =>
    rw [hread] at hsame
    change [Element.leaf element.tag [] (if value then "True" else "False")] = [element] at hsame
    have htext := hfits _ _ _ (List.cons.inj hsame).1.symm
    cases value <;> simp at htext

/-- Without attributes or children an element is no dictionary. -/
theorem dict?_clean_parse {element : Element} (hbare : element.attributes = [])
    (hchildren : element.children = []) : (clean (parse element)).dict? = none := by
  cases element with
  | leaf tag attributes text =>
    obtain rfl : attributes = [] := hbare
    rw [parse, clean_textValue, textValue]
    split_ifs <;> rfl
  | node tag attributes children =>
    obtain rfl : attributes = [] := hbare
    obtain rfl : children = [] := hchildren
    rfl

theorem children_of_sent {ty : Ty} (hvalid : ∀ value dump, validate scalars ty value = some dump →
    value.dict? ≠ none) {element : Element} (hsame : sent scalars ty element = [element]) :
    element.children ≠ [] := by
  intro hchildren
  have hnone := dict?_clean_parse (attributes_of_sent hsame) hchildren
  rw [sent] at hsame
  cases hdump : validate scalars ty (clean (parse element)) with
  | none =>
    rw [hdump] at hsame
    cases hsame
  | some dump => exact hvalid _ dump hdump hnone

/-- The currency and the value of a price become elements. -/
example (scalars : Scalars) :
    sent scalars .cost (.leaf "StartPrice" [("currencyID", "AUD")] "5.0") =
      [.node "StartPrice" [] [.leaf "currency" [] "AUD", .leaf "value" [] "5.0"]] := by
  rfl

theorem not_sent_cost {element : Element} (hfits : Fits .cost element) :
    ¬ sent scalars .cost element = [element] := by
  intro hsame
  refine children_of_sent (fun value dump hdump hnone => ?_) hsame hfits
  rw [validate, hnone] at hdump
  cases hdump

theorem clean_parse_of_bare {element : Element} (htagged : WellTagged element)
    (hbare : element.attributes = []) (hchildren : element.children ≠ []) :
    clean (parse element) = .dict (childTable element.children).rows := by
  cases element with
  | leaf => exact absurd rfl hchildren
  | node tag attributes children =>
    obtain rfl : attributes = [] := hbare
    exact clean_parse_node hchildren fun child hchild =>
      (allWellTagged_iff.mp htagged.2 child hchild).tag

theorem sent_dict {element : Element} (htagged : WellTagged element)
    (hbare : element.attributes = []) (hchildren : element.children ≠ []) :
    sent scalars .dict element = echo element := by
  rw [sent, echo, clean_parse_of_bare htagged hbare hchildren]
  rfl

theorem sent_dict_iff {element : Element} (htagged : WellTagged element) :
    sent scalars .dict element = [element] ↔ Plain element ∧ element.children ≠ [] := by
  rw [← echo_iff htagged]
  constructor
  · intro hsame
    have hchildren : element.children ≠ [] := by
      refine children_of_sent (fun value dump hdump hnone => ?_) hsame
      rw [validate, hnone] at hdump
      cases hdump
    rw [← sent_dict htagged (attributes_of_sent hsame) hchildren]
    exact ⟨hsame, hchildren⟩
  · rintro ⟨hsame, hchildren⟩
    rwa [sent_dict htagged (attributes_of_echo hsame) hchildren]

/-- A node comes back when its children do. -/
theorem sent_model_iff {allowsExtra : Bool} {fields : Fields} (hnodup : fields.names.Nodup)
    (hnamed : fields.wellNamed fields.names) {element : Element} (htagged : WellTagged element)
    (htags : ∀ child ∈ element.children, child.tag ∈ fields.names)
    (hbare : element.attributes = []) (hchildren : element.children ≠ [])
    (hfields : (∃ values,
        validateFields scalars fields (childTable element.children).rows = some values ∧
          ∀ value ∈ values, toXmlElement value.1 value.2 = tagged element.children value.1) ↔
      KeptFields scalars fields element.children) :
    sent scalars (.model allowsExtra fields) element = [element] ↔
      Ordered fields.names element.children ∧ KeptFields scalars fields element.children := by
  rw [← hfields, sent, validate, clean_parse_of_bare htagged hbare hchildren]
  change (((validateFields scalars fields (childTable element.children).rows).bind _).map _).getD
    [] = _ ↔ _
  cases hvalues : validateFields scalars fields (childTable element.children).rows with
  | none => simp
  | some values =>
    cases element with
    | leaf => exact absurd rfl hchildren
    | node tag attributes children =>
      obtain rfl : attributes = [] := hbare
      have hsame := @values_iff scalars allowsExtra _ hnodup hnamed children htags _ hvalues
      simpa [toXmlElement, Element.tag, Element.children] using hsame

mutual

/-- An element comes back when its type keeps it. -/
theorem sent_iff {ty : Ty} (hnamed : ty.wellNamed) {element : Element}
    (htagged : WellTagged element) (hfits : Fits ty element) :
    sent scalars ty.item element = [element] ↔ Kept scalars ty element := by
  match ty with
  | .str =>
    change sent scalars .str element = [element] ↔ _
    refine sent_text_iff (fun value name => ?_) element
    rw [validate]
    cases value.str? <;> rfl
  | .int =>
    change sent scalars .int element = [element] ↔ _
    refine sent_text_iff (fun value name => ?_) element
    rw [validate]
    cases value.str? with
    | none => rfl
    | some text => cases hread : scalars.int text <;> simp [hread, toXmlElement, numberText]
  | .float =>
    change sent scalars .float element = [element] ↔ _
    refine sent_text_iff (fun value name => ?_) element
    rw [validate]
    cases value.str?.bind scalars.float <;> rfl
  | .uuid =>
    change sent scalars .uuid element = [element] ↔ _
    refine sent_text_iff (fun value name => ?_) element
    rw [validate]
    cases value.str?.bind scalars.uuid <;> rfl
  | .bool => exact iff_of_false (not_sent_bool hfits) id
  | .cost => exact iff_of_false (not_sent_cost hfits) id
  | .dict => exact sent_dict_iff htagged
  | .list item =>
    rw [Ty.wellNamed, Bool.and_eq_true, Bool.not_eq_true'] at hnamed
    have hitem : sent scalars item.item element = [element] ↔ Kept scalars item element :=
      sent_iff hnamed.2 htagged hfits
    rwa [Ty.item_of_not_repeats hnamed.1] at hitem
  | .listOrOne item =>
    rw [Ty.wellNamed, Bool.and_eq_true, Bool.not_eq_true'] at hnamed
    have hitem : sent scalars item.item element = [element] ↔ Kept scalars item element :=
      sent_iff hnamed.2 htagged hfits
    rwa [Ty.item_of_not_repeats hnamed.1] at hitem
  | .model allowsExtra fields =>
    rw [Ty.wellNamed, Bool.and_eq_true, decide_eq_true_eq] at hnamed
    obtain ⟨hnodup, hnamed⟩ := hnamed
    rw [Kept]
    by_cases hnode : element.attributes = [] ∧ element.children ≠ []
    · rw [and_iff_right hnode.1, and_iff_right hnode.2]
      exact sent_model_iff hnodup hnamed htagged hfits.1 hnode.1 hnode.2
        (fields_iff hnamed htagged.children hfits.1 hfits.2)
    · refine iff_of_false (fun hsame => hnode ⟨attributes_of_sent hsame, ?_⟩)
        fun hkept => hnode ⟨hkept.1, hkept.2.1⟩
      refine children_of_sent (fun value dump hdump hnone => ?_) hsame
      change validate scalars (.model allowsExtra fields) value = some dump at hdump
      rw [validate, hnone] at hdump
      cases hdump

theorem fields_iff {names : List String} {fields : Fields} (hnamed : fields.wellNamed names)
    {children : List Element} (htagged : AllWellTagged children)
    (htags : ∀ child ∈ children, child.tag ∈ names) (hfits : FitsFields fields children) :
    (∃ values, validateFields scalars fields (childTable children).rows = some values ∧
        ∀ value ∈ values, toXmlElement value.1 value.2 = tagged children value.1) ↔
      KeptFields scalars fields children := by
  match fields with
  | .nil => simp [validateFields, KeptFields]
  | .cons name camel required ty rest =>
    rw [Fields.wellNamed, Bool.and_eq_true, Bool.and_eq_true] at hnamed
    obtain ⟨⟨hcamel, hty⟩, hrest⟩ := hnamed
    obtain ⟨hcount, hgroup, hothers⟩ := hfits
    have hcamel : camel = name ∨ camel ∉ names := by simpa using hcamel
    have hnames : ∀ element ∈ tagged children name, element.tag = name :=
      fun element helement => of_decide_eq_true (List.mem_filter.mp helement).2
    have hkept : ∀ child ∈ tagged children name,
        (sent scalars ty.item child = [child] ↔ Kept scalars ty child) := fun child hchild =>
      sent_iff hty (allWellTagged_iff.mp htagged child (List.mem_of_mem_filter hchild))
        (hgroup child hchild)
    have hfields : (∃ values, validateFields scalars rest (childTable children).rows =
        some values ∧ ∀ value ∈ values, toXmlElement value.1 value.2 = tagged children value.1) ↔
        KeptFields scalars rest children := fields_iff hrest htagged htags hothers
    rw [KeptFields, ← hfields, ← forall₂_congr hkept, validateFields_cons_iff,
      fieldValue_childTable htags hcamel, field_iff (Ty.not_repeats_item hty) hnames hcount]
    simp only [and_assoc]

end

/-! ## The item of a reply -/

/-- The dictionary of a reply. -/
def responseTable (before : List Element) (item : Element) (after : List Element) :
    Table String Json :=
  pushAll (attributeItem [("xmlns", "urn:ebay:apis:eBLBaseComponents")])
    (parseAll (before ++ item :: after))

section Response

variable {before after : List Element} {item : Element}

theorem cleanKey_item : cleanKey "Item" = "Item" := by decide +kernel

theorem get?_responseTable (htag : item.tag = "Item")
    (hothers : ∀ other ∈ before ++ after, cleanKey other.tag ≠ "Item") :
    (responseTable before item after).get? "Item" = some (parse item) := by
  have hnone : ∀ other ∈ before ++ after, ¬ decide (other.tag = "Item") = true := by
    intro other hother hsame
    exact hothers other hother ((of_decide_eq_true hsame).symm ▸ cleanKey_item)
  rw [List.forall_mem_append] at hnone
  have hgroup : tagged (before ++ item :: after) "Item" = [item] := by
    rw [tagged, List.filter_append, List.filter_cons, if_pos (decide_eq_true htag),
      List.filter_eq_nil_iff.mpr hnone.1, List.filter_eq_nil_iff.mpr hnone.2]
    rfl
  rw [responseTable, get?_children _ rfl, hgroup]
  rfl

/-- No other key of the reply is cleaned to that of the item. -/
theorem key_of_cleanKey (htag : item.tag = "Item")
    (hothers : ∀ other ∈ before ++ after, cleanKey other.tag ≠ "Item") {row : String × Json}
    (hrow : row ∈ (responseTable before item after).rows) (hclean : cleanKey row.1 = "Item") :
    row.1 = "Item" := by
  have hkey : row.1 ∈ (responseTable before item after).rows.map Prod.fst :=
    List.mem_map_of_mem hrow
  rw [responseTable, keys_pushAll, List.mem_append] at hkey
  rcases hkey with hattribute | hchild
  · have hname : row.1 = "@xmlns" := List.mem_singleton.mp hattribute
    rw [hname] at hclean
    exact absurd hclean (by decide +kernel)
  · have htags := (mem_firsts.mp hchild).1
    rw [parseAll_eq_map, List.map_map] at htags
    obtain ⟨child, hchild, hsame⟩ := List.mem_map.mp htags
    obtain hsame : child.tag = row.1 := hsame
    by_cases hother : child ∈ before ++ after
    · exact absurd (hsame ▸ hclean) (hothers child hother)
    · have hitem : child = item := by grind
      rw [← hsame, hitem, htag]

theorem item_of_response (htag : item.tag = "Item")
    (hothers : ∀ other ∈ before ++ after, cleanKey other.tag ≠ "Item") :
    ∃ fields, clean (parse (getItemResponse before item after)) = .dict fields ∧
      fields.lookup "Item" = some (clean (parse item)) := by
  have hget := get?_responseTable htag hothers
  have hmem := ((responseTable before item after).mem_rows_iff _ _).mpr hget
  have hunique : ∀ entry ∈ cleanFields (responseTable before item after).rows,
      entry.1 = "Item" → entry.2 = clean (parse item) := by
    rw [cleanFields_eq_map]
    intro entry hentry hkey
    obtain ⟨row, hrow, rfl⟩ := List.mem_map.mp hentry
    have hvalue := ((responseTable before item after).mem_rows_iff row.1 row.2).mp hrow
    rw [key_of_cleanKey htag hothers hrow hkey, hget] at hvalue
    rw [← Option.some.inj hvalue]
  have hcleaned : ("Item", clean (parse item)) ∈
      cleanFields (responseTable before item after).rows := by
    rw [cleanFields_eq_map]
    exact List.mem_map.mpr ⟨_, hmem, by rw [cleanKey_item]⟩
  refine ⟨(Table.ofPairs (cleanFields (responseTable before item after).rows)).rows, ?_,
    Table.get?_ofPairs_of_unique hcleaned hunique⟩
  rw [getItemResponse, parse]
  change clean (if (responseTable before item after).rows.isEmpty then .null
    else .dict (responseTable before item after).rows) = _
  rw [List.isEmpty_eq_false_iff.mpr (List.ne_nil_of_mem hmem)]
  rfl

/-- The item is found under its tag. -/
theorem getListing_getItemResponse (htag : item.tag = "Item")
    (hothers : ∀ other ∈ before ++ after, cleanKey other.tag ≠ "Item") :
    getListing scalars (getItemResponse before item after) =
      modelValidate scalars (if (clean (parse item)).truthy then clean (parse item)
        else .dict []) := by
  obtain ⟨fields, hfields, hitem⟩ := item_of_response htag hothers
  have hself : cleanKey "GetItemResponse" = "GetItemResponse" := by decide +kernel
  have hraw : clean (.dict [("GetItemResponse", parse (getItemResponse before item after))]) =
      .dict [("GetItemResponse", .dict fields)] := by
    have hnodup : ([("GetItemResponse", Json.dict fields)].map Prod.fst).Nodup :=
      List.nodup_singleton _
    rw [clean, cleanFields, cleanFields, hfields, hself, Table.rows_ofPairs hnodup]
  have hreply : (Json.dict [("GetItemResponse", .dict fields)]).get? "GetItemResponse" (.dict []) =
      some (.dict fields) := by
    rw [Json.get?, List.lookup_cons_self]
    rfl
  have hdata : (Json.dict fields).get? "Item" (.dict []) = some (clean (parse item)) := by
    rw [Json.get?, hitem]
    rfl
  have htag : (getItemResponse before item after).tag = "GetItemResponse" := rfl
  rw [getListing, htag, hraw, hreply, Option.bind_eq_bind, Option.bind_some, hdata,
    Option.bind_some]

end Response

/-! ## The identifier of an item -/

/-- The type of a field. -/
def Fields.type? (name : String) : Fields → Option Ty
  | .nil => none
  | .cons other _ _ ty rest => if other = name then some ty else rest.type? name

theorem type?_itemId : itemFields.type? "ItemID" = some .str := by
  rfl

theorem null_or_valid {validate : Json → Option Json} {required : Bool} {value? : Option Json}
    {dump : Json} (hdump : validateField required validate value? = some dump) :
    dump = .null ∨ ∃ old, validate old = some dump := by
  have hnone : (if required then none else some Json.null) = some dump → dump = .null := by
    cases required with
    | false => exact fun hsome => (Option.some.inj hsome).symm
    | true => exact fun hsome => by cases hsome
  cases value? with
  | none => exact .inl (hnone hdump)
  | some value =>
    cases value with
    | null => exact .inl (hnone hdump)
    | bool | number | str | list | dict => exact .inr ⟨_, hdump⟩

theorem lookup_of_validateFields {name : String} {ty : Ty} {rows : List (String × Json)} :
    ∀ {fields : Fields} {values : List (String × Json)}, fields.type? name = some ty →
      validateFields scalars fields rows = some values →
      ∃ value, values.lookup name = some value ∧
        (value = .null ∨ ∃ old, validate scalars ty old = some value)
  | .cons other camel required otherTy rest, values, hfield, hvalues => by
    rw [validateFields, Option.bind_eq_bind, Option.bind_eq_some_iff] at hvalues
    obtain ⟨value, hvalue, hvalues⟩ := hvalues
    rw [Option.bind_eq_bind, Option.bind_eq_some_iff] at hvalues
    obtain ⟨others, hothers, hvalues⟩ := hvalues
    obtain rfl : (other, value) :: others = values := Option.some.inj hvalues
    rw [Fields.type?] at hfield
    split_ifs at hfield with hsame
    · obtain rfl := Option.some.inj hfield
      obtain rfl := hsame
      exact ⟨value, List.lookup_cons_self, null_or_valid hvalue⟩
    · obtain ⟨found, hfound, hvalid⟩ := lookup_of_validateFields hfield hothers
      have hne : (name == other) = false := beq_eq_false_iff_ne.mpr fun h => hsame h.symm
      exact ⟨found, by rw [List.lookup_cons, hne, hfound], hvalid⟩

theorem kept_of_keptFields {name : String} {ty : Ty} {children : List Element} :
    ∀ {fields : Fields}, fields.type? name = some ty → KeptFields scalars fields children →
      ∀ child ∈ tagged children name, Kept scalars ty child
  | .cons other camel required otherTy rest, hfield, hkept => by
    rw [Fields.type?] at hfield
    rw [KeptFields] at hkept
    split_ifs at hfield with hsame
    · obtain rfl := Option.some.inj hfield
      exact hsame ▸ hkept.2.2.1
    · exact kept_of_keptFields hfield hkept.2.2.2

/-- The identifier is a text, if it is there. -/
theorem lookup_itemId {rows values : List (String × Json)}
    (hvalues : validateFields scalars itemFields rows = some values) :
    values.lookup "ItemID" = some .null ∨ ∃ text, values.lookup "ItemID" = some (.str text) := by
  obtain ⟨value, hfound, hnull | ⟨old, hvalid⟩⟩ := lookup_of_validateFields type?_itemId hvalues
  · exact .inl (hnull ▸ hfound)
  · rw [validate, Option.map_eq_some_iff] at hvalid
    obtain ⟨text, -, rfl⟩ := hvalid
    exact .inr ⟨text, hfound⟩

theorem mem_itemId_iff {rows values : List (String × Json)}
    (hvalues : validateFields scalars itemFields rows = some values) (value : Json) :
    ("ItemID", value) ∈ values ↔ values.lookup "ItemID" = some value := by
  have hnodup : (values.map Prod.fst).Nodup :=
    names_of_validateFields hvalues ▸ wellNamed_itemFields.1
  exact (Table.lookup_eq_some_iff_mem hnodup "ItemID" value).symm

/-- A request is made when the identifier is not empty. -/
theorem generateReviseItem_eq_some_iff {rows values : List (String × Json)}
    (hvalues : validateFields scalars itemFields rows = some values) {request : Element} :
    generateReviseItem (withExtras true itemFields rows values) = some request ↔
      (∃ text, text ≠ "" ∧ ("ItemID", Json.str text) ∈ values) ∧
        reviseItemRequest (.node "Item" [] (fieldElements (present
          (withExtras true itemFields rows values)))) = request := by
  have hlookup : ∀ value, values.lookup "ItemID" = some value →
      (withExtras true itemFields rows values).lookup "ItemID" = some value := by
    intro value hvalue
    rw [withExtras, List.lookup_append, hvalue, Option.some_or]
  simp only [mem_itemId_iff hvalues]
  rcases lookup_itemId hvalues with hnull | ⟨text, htext⟩
  · rw [generateReviseItem, hlookup _ hnull, hnull]
    simp [Json.truthy]
  · rw [generateReviseItem, hlookup _ htext, htext]
    by_cases hempty : text = "" <;> simp [Json.truthy, hempty]

/-- The identifier is not empty when an element has it. -/
theorem itemId_iff {rows values : List (String × Json)} {children : List Element}
    (hvalues : validateFields scalars itemFields rows = some values)
    (hown : ∀ value ∈ values, toXmlElement value.1 value.2 = tagged children value.1)
    (hkept : KeptFields scalars itemFields children) :
    (∃ text, text ≠ "" ∧ ("ItemID", Json.str text) ∈ values) ↔
      ∃ child ∈ children, child.tag = "ItemID" := by
  constructor
  · rintro ⟨text, -, hmem⟩
    have hgroup : [Element.leaf "ItemID" [] text] = tagged children "ItemID" := hown _ hmem
    have hchild : Element.leaf "ItemID" [] text ∈ tagged children "ItemID" :=
      hgroup ▸ List.mem_singleton_self _
    exact ⟨_, List.mem_of_mem_filter hchild, rfl⟩
  · rintro ⟨child, hchild, htag⟩
    have hmem : child ∈ tagged children "ItemID" :=
      List.mem_filter.mpr ⟨hchild, decide_eq_true htag⟩
    rcases lookup_itemId hvalues with hnull | ⟨text, htext⟩
    · have hgroup : [] = tagged children "ItemID" :=
        hown _ ((mem_itemId_iff hvalues .null).mpr hnull)
      rw [← hgroup] at hmem
      cases hmem
    · have hstored := (mem_itemId_iff hvalues _).mpr htext
      have hgroup : [Element.leaf "ItemID" [] text] = tagged children "ItemID" :=
        hown _ hstored
      refine ⟨text, ?_, hstored⟩
      rintro rfl
      rw [← hgroup, List.mem_singleton] at hmem
      have htexts := kept_of_keptFields type?_itemId hkept child (hgroup ▸ by simp [hmem])
      rw [hmem] at htexts
      exact htexts.2.1 rfl

theorem item_of_reviseItemRequest {children : List Element} {item : Element}
    (hsame : reviseItemRequest (.node "Item" [] children) = reviseItemRequest item) :
    item = .node "Item" [] children := by
  simp only [reviseItemRequest, Element.node.injEq, List.cons.injEq, and_true, true_and] at hsame
  exact hsame.symm

/-- The item in a request has its elements. -/
theorem bare_of_revised {value : Json} {item : Element}
    (hsame : (modelValidate scalars value).bind generateReviseItem =
      some (reviseItemRequest item)) : item.attributes = [] ∧ item.children ≠ [] := by
  obtain ⟨model, hmodel, hrequest⟩ := Option.bind_eq_some_iff.mp hsame
  rw [modelValidate, Option.bind_eq_bind, Option.bind_eq_some_iff] at hmodel
  obtain ⟨rows, -, hmodel⟩ := hmodel
  obtain ⟨values, hvalues, hmodel⟩ := Option.bind_eq_some_iff.mp hmodel
  obtain rfl := Option.some.inj hmodel
  rw [generateReviseItem_eq_some_iff hvalues] at hrequest
  obtain ⟨⟨text, -, htext⟩, hrequest⟩ := hrequest
  obtain rfl := item_of_reviseItemRequest hrequest
  refine ⟨rfl, ?_⟩
  have hmem : Element.leaf "ItemID" [] text ∈
      fieldElements (withExtras true itemFields rows values) := by
    rw [fieldElements_eq_flatMap, List.mem_flatMap]
    exact ⟨_, List.mem_append_left _ htext, List.mem_singleton_self _⟩
  rw [← fieldElements_present] at hmem
  exact List.ne_nil_of_mem hmem

/-- No element in the item of a request has attributes. -/
theorem bare_children_of_revised {value : Json} {item : Element}
    (hsame : (modelValidate scalars value).bind generateReviseItem =
      some (reviseItemRequest item)) : ∀ child ∈ item.children, child.attributes = [] := by
  obtain ⟨model, -, hrequest⟩ := Option.bind_eq_some_iff.mp hsame
  rw [generateReviseItem] at hrequest
  split_ifs at hrequest
  obtain rfl := item_of_reviseItemRequest (Option.some.inj hrequest)
  intro child hchild
  obtain ⟨field, -, hchild⟩ := List.mem_flatMap.mp (fieldElements_eq_flatMap _ ▸ hchild)
  exact (bare_of_mem_toXmlElement field.2 hchild).2

/-- The item in the request is the one in the reply exactly when it has an identifier and the
model keeps it. -/
theorem listing_returns_iff {before after : List Element} {item : Element}
    (htag : item.tag = "Item") (hothers : ∀ other ∈ before ++ after, cleanKey other.tag ≠ "Item")
    (htagged : WellTagged item) (hfits : Fits itemModel item) :
    (getListing scalars (getItemResponse before item after)).bind generateReviseItem =
        some (reviseItemRequest item) ↔
      Kept scalars itemModel item ∧ ∃ child ∈ item.children, child.tag = "ItemID" := by
  rw [getListing_getItemResponse htag hothers]
  by_cases hnode : item.attributes = [] ∧ item.children ≠ []
  · obtain ⟨hbare, hchildren⟩ := hnode
    obtain ⟨hnodup, hnamed⟩ := wellNamed_itemFields
    have hfields : (∃ values,
        validateFields scalars itemFields (childTable item.children).rows = some values ∧
          ∀ value ∈ values, toXmlElement value.1 value.2 = tagged item.children value.1) ↔
        KeptFields scalars itemFields item.children :=
      fields_iff hnamed htagged.children hfits.1 hfits.2
    have hkept : Kept scalars itemModel item ↔ Ordered itemFields.names item.children ∧
        KeptFields scalars itemFields item.children := by
      rw [itemModel, Kept, and_iff_right hbare, and_iff_right hchildren]
    have htruthy : (Json.dict (childTable item.children).rows).truthy = true := by
      simpa [Json.truthy] using childTable_ne_nil hchildren
    rw [hkept, clean_parse_of_bare htagged hbare hchildren, if_pos htruthy]
    change ((validateFields scalars itemFields (childTable item.children).rows).bind
      fun values => some (withExtras true itemFields (childTable item.children).rows values)).bind
        generateReviseItem = _ ↔ _
    cases hvalues : validateFields scalars itemFields (childTable item.children).rows with
    | none =>
      refine iff_of_false (fun hsame => by cases hsame) fun hkept => ?_
      obtain ⟨values, hsome, -⟩ := hfields.mpr hkept.1.2
      rw [hvalues] at hsome
      cases hsome
    | some values =>
      rw [Option.bind_some, Option.bind_some, generateReviseItem_eq_some_iff hvalues]
      constructor
      · rintro ⟨hid, hsame⟩
        have hitem := item_of_reviseItemRequest hsame
        obtain ⟨horder, hown⟩ :=
          (values_iff hnodup hnamed hfits.1 hvalues).mp (congrArg Element.children hitem).symm
        have hfields := hfields.mp ⟨values, hvalues, hown⟩
        exact ⟨⟨horder, hfields⟩, (itemId_iff hvalues hown hfields).mp hid⟩
      · rintro ⟨⟨horder, hkept⟩, hchild⟩
        obtain ⟨others, hothers, hown⟩ := hfields.mpr hkept
        obtain rfl : values = others := Option.some.inj (hvalues.symm.trans hothers)
        refine ⟨(itemId_iff hvalues hown hkept).mpr hchild, ?_⟩
        rw [(values_iff hnodup hnamed hfits.1 hvalues).mpr ⟨horder, hown⟩]
        cases item with
        | leaf => exact absurd rfl hchildren
        | node tag attributes children =>
          obtain rfl : tag = "Item" := htag
          obtain rfl : attributes = [] := hbare
          rfl
  · exact iff_of_false (fun hsame => hnode (bare_of_revised hsame))
      fun hkept => hnode ⟨hkept.1.1, hkept.1.2.1⟩

/-! ## Two items -/

/-- Integers of digits, and floats and UUIDs that are printed as they are. -/
def plainScalars : Scalars where
  int text := if text ≠ "" ∧ text.toList.all Char.isDigit then
    some (text.toList.foldl (fun value digit => value * 10 + (digit.toNat - 48)) 0) else none
  bool text := if text = "true" then some true else if text = "false" then some false else none
  float := some
  uuid := some

def pricedItem : Element :=
  .node "Item" [] [.leaf "ItemID" [] "7", .leaf "StartPrice" [("currencyID", "AUD")] "5.0"]

set_option maxRecDepth 4000 in
/-- A price does not come back. -/
theorem priced_listing_changes :
    WellTagged pricedItem ∧ Fits itemModel pricedItem ∧
      (getListing plainScalars (getItemResponse [] pricedItem [])).bind generateReviseItem ≠
        some (reviseItemRequest pricedItem) := by
  have htags : WellTagged pricedItem := by
    simp [pricedItem, WellTagged, AllWellTagged, cleanKey]
  have hfits : Fits itemModel pricedItem := by
    constructor
    · simp [itemFields, optional, Fields.names, pricedItem, Element.children, Element.tag]
    · simp [FitsFields, itemFields, optional, pricedItem, Element.children, tagged, Element.tag,
        Fits]
  refine ⟨htags, hfits, fun hsame => ?_⟩
  rw [getListing_getItemResponse rfl fun _ hother => by cases hother] at hsame
  have hbare := bare_children_of_revised hsame (.leaf "StartPrice" [("currencyID", "AUD")] "5.0")
    (List.mem_cons_of_mem _ List.mem_cons_self)
  cases hbare

/-- A listing whose texts are plain and whose fields stand in their order. -/
def keptItem : Element :=
  .node "Item" [] [.leaf "Title" [] "Sol Ring", .leaf "ItemID" [] "7",
    .node "ItemSpecifics" [] [
      .node "NameValueList" [] [.leaf "Name" [] "Game", .leaf "Value" [] "MTG"],
      .node "NameValueList" [] [.leaf "Name" [] "Set", .leaf "Value" [] "LEA"]],
    .leaf "PaymentMethods" [] "PayPal", .leaf "PaymentMethods" [] "CreditCard",
    .leaf "Quantity" [] "3"]

theorem wellTagged_keptItem : WellTagged keptItem := by
  simp [keptItem, WellTagged, AllWellTagged, cleanKey]

set_option maxRecDepth 4000 in
theorem fits_keptItem : Fits itemModel keptItem := by
  constructor
  · simp [itemFields, optional, Fields.names, keptItem, Element.children, Element.tag]
  · simp [FitsFields, itemFields, optional, keptItem, Element.children, tagged, Element.tag, Fits,
      Ty.repeats]

set_option maxRecDepth 4000 in
theorem kept_keptItem : Kept plainScalars itemModel keptItem := by
  have hordered : Ordered itemFields.names keptItem.children := by
    simp [Ordered, itemFields, optional, keptItem, Fields.names, Element.children, tagged,
      Element.tag]
  have hstrip : strip "Sol Ring" = "Sol Ring" ∧ strip "7" = "7" ∧ strip "Name" = "Name" ∧
      strip "Game" = "Game" ∧ strip "Value" = "Value" ∧ strip "MTG" = "MTG" ∧
      strip "Set" = "Set" ∧ strip "LEA" = "LEA" ∧ strip "PayPal" = "PayPal" ∧
      strip "CreditCard" = "CreditCard" ∧ strip "3" = "3" := by decide +kernel
  have hquantity : plainScalars.int "3" = some 3 := by decide +kernel
  have hprinted : Int.repr 3 = "3" := by decide +kernel
  refine ⟨rfl, by simp [keptItem, Element.children], hordered, ?_⟩
  simp [KeptFields, itemFields, optional, keptItem, Element.children, tagged, Element.tag, Kept,
    KeptText, Ty.isList, Plain, AllPlain, Ordered, tagsOf, firsts, hstrip,
    hquantity, hprinted]

theorem kept_listing_returns :
    (getListing plainScalars (getItemResponse [] keptItem [])).bind generateReviseItem =
      some (reviseItemRequest keptItem) :=
  (listing_returns_iff rfl (fun _ hother => by cases hother) wellTagged_keptItem
    fits_keptItem).mpr ⟨kept_keptItem, .leaf "ItemID" [] "7", by simp [keptItem, Element.children],
      rfl⟩

end AutoMana.Ebay.ItemXml
