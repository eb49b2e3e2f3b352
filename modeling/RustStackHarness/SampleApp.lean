import RustStackHarness.Python
import Mathlib.Data.List.Nodup

/-! `examples/flask-lambda/app.py`: a Flask application that keeps items in the module-level dict
`items`, with routes to list, read, create, update and delete them.  A view runs on `items` and
returns a response or raises; Flask answers werkzeug's HTTP exceptions with their status (400 for
`BadRequest`, 415 for `UnsupportedMediaType`) and any other exception with 500.  Python dicts are
`PyDict`s: entries in insertion order, each key once.  A request body is the mimetype werkzeug
parses from its `Content-Type` and what `json.loads` makes of its data; `request.get_json()` refuses
a mimetype that is not JSON before it loads anything.

`items_invariant`: along every sequence of requests from the empty store, every item is a dict with
the keys `id`, `name` and `description`, in that order, whose `id` is its key; a request answered
with an error status leaves `items` as it was; and a successful update or delete changes no other
item.  The status of each view is determined by the body (`getJson_cases`, `body_cases`): a JSON
body that is not an object can make either view raise, and so can data nested too deep for
`json.loads`, and Flask then answers 500. -/

namespace RustStackHarness.SampleApp

open Python

/-! ### Python dicts -/

/-- The value of the first entry with key `k`. -/
def findKey {α : Type} (k : String) : List (String × α) → Option α
  | [] => none
  | e :: es => if e.1 = k then some e.2 else findKey k es

/-- A Python `dict` with string keys: its entries in insertion order, each key once. -/
structure PyDict (α : Type) where
  entries : List (String × α)
  nodup : (entries.map Prod.fst).Nodup

namespace PyDict

variable {α : Type}

/-- `{}`. -/
def empty : PyDict α := ⟨[], List.nodup_nil⟩

def keys (d : PyDict α) : List String := d.entries.map Prod.fst

/-- `d.get(k)`. -/
def get? (d : PyDict α) (k : String) : Option α := findKey k d.entries

/-- `d.values()`. -/
def values (d : PyDict α) : List α := d.entries.map Prod.snd

theorem keys_replace (l : List (String × α)) (k : String) (v : α) :
    (l.map fun e => if e.1 = k then (k, v) else e).map Prod.fst = l.map Prod.fst := by
  induction l with
  | nil => rfl
  | cons e es ih => by_cases h : e.1 = k <;> simp [h, ih]

/-- `d[k] = v`: a key already there keeps its place, a new key goes last. -/
def set (d : PyDict α) (k : String) (v : α) : PyDict α :=
  if h : k ∈ d.keys then
    ⟨d.entries.map fun e => if e.1 = k then (k, v) else e, by rw [keys_replace]; exact d.nodup⟩
  else
    ⟨d.entries ++ [(k, v)], by
      rw [List.map_append]
      exact d.nodup.append (List.nodup_singleton k) (by simpa [keys] using h)⟩

/-- `del d[k]` for a key that is there. -/
def erase (d : PyDict α) (k : String) : PyDict α :=
  ⟨d.entries.filter (·.1 ≠ k), d.nodup.sublist ((List.filter_sublist _).map _)⟩

theorem findKey_replace_self (l : List (String × α)) (k : String) (v : α)
    (h : k ∈ l.map Prod.fst) : findKey k (l.map fun e => if e.1 = k then (k, v) else e) = some v := by
  induction l with
  | nil => cases h
  | cons e es ih =>
    by_cases he : e.1 = k
    · simp [findKey, he]
    · have hes : k ∈ es.map Prod.fst := by
        rcases List.mem_cons.mp h with h | h
        · exact absurd h.symm he
        · exact h
      simp [findKey, he, ih hes]

theorem findKey_replace_ne (l : List (String × α)) {k k' : String} (v : α) (h : k' ≠ k) :
    findKey k' (l.map fun e => if e.1 = k then (k, v) else e) = findKey k' l := by
  induction l with
  | nil => rfl
  | cons e es ih =>
    by_cases he : e.1 = k
    · simp [findKey, he, Ne.symm h, ih]
    · simp [findKey, he, ih]

theorem findKey_append (l : List (String × α)) (k k' : String) (v : α)
    (h : k ∉ l.map Prod.fst) :
    findKey k' (l ++ [(k, v)]) = if k' = k then some v else findKey k' l := by
  induction l with
  | nil =>
    by_cases hk : k' = k
    · simp [findKey, hk]
    · simp [findKey, hk, Ne.symm hk]
  | cons e es ih =>
    simp only [List.map_cons, List.mem_cons, not_or] at h
    by_cases he : e.1 = k'
    · have hk : k' ≠ k := fun hk => h.1 (hk ▸ he).symm
      simp [findKey, he, hk]
    · simp [findKey, he, ih h.2]

theorem findKey_filter (l : List (String × α)) (k k' : String) :
    findKey k' (l.filter (·.1 ≠ k)) = if k' = k then none else findKey k' l := by
  induction l with
  | nil => simp [findKey]
  | cons e es ih =>
    rw [List.filter_cons]
    by_cases he : e.1 = k
    · rw [if_neg (by simp [he]), ih]
      by_cases hk : k' = k
      · simp [hk]
      · simp [findKey, hk, show e.1 ≠ k' from fun h' => hk (h' ▸ he)]
    · rw [if_pos (by simp [he]), findKey, findKey, ih]
      by_cases hk : k' = k
      · subst hk
        simp [he]
      · simp [hk]

@[simp] theorem get?_empty (k : String) : (empty : PyDict α).get? k = none := rfl

theorem get?_set (d : PyDict α) (k k' : String) (v : α) :
    (d.set k v).get? k' = if k' = k then some v else d.get? k' := by
  unfold set get?
  split
  · rename_i h
    by_cases hk : k' = k
    · rw [if_pos hk, hk]
      exact findKey_replace_self _ _ _ h
    · rw [if_neg hk]
      exact findKey_replace_ne _ _ hk
  · exact findKey_append _ _ _ _ ‹_›

theorem get?_erase (d : PyDict α) (k k' : String) :
    (d.erase k).get? k' = if k' = k then none else d.get? k' :=
  findKey_filter _ _ _

theorem keys_set_of_mem {d : PyDict α} {k : String} (h : k ∈ d.keys) (v : α) :
    (d.set k v).keys = d.keys := by
  unfold set
  rw [dif_pos h]
  exact keys_replace _ _ _

theorem mem_keys_iff (d : PyDict α) (k : String) : k ∈ d.keys ↔ d.get? k ≠ none := by
  unfold keys get?
  induction d.entries with
  | nil => simp [findKey]
  | cons e es ih =>
    by_cases he : e.1 = k
    · simp [findKey, he]
    · simp [findKey, he, ih, Ne.symm he]

theorem findKey_eq_none_iff (l : List (String × α)) (k : String) :
    findKey k l = none ↔ k ∉ l.map Prod.fst := by
  induction l with
  | nil => simp [findKey]
  | cons e es ih =>
    by_cases he : e.1 = k
    · simp [findKey, he]
    · simp [findKey, he, ih, Ne.symm he]

/-- Two entry lists with the same keys in the same order, each key once, and the same value under
every key, are the same list. -/
theorem findKey_ext : ∀ (l₁ l₂ : List (String × α)), l₁.map Prod.fst = l₂.map Prod.fst →
    (l₁.map Prod.fst).Nodup → (∀ k, findKey k l₁ = findKey k l₂) → l₁ = l₂
  | [], [], _, _, _ => rfl
  | (a, x) :: r₁, (b, y) :: r₂, hk, hn, h => by
    simp only [List.map_cons, List.cons.injEq] at hk
    obtain ⟨rfl, hk⟩ := hk
    have hxy : x = y := by simpa [findKey] using h a
    have ha : a ∉ r₁.map Prod.fst := (List.nodup_cons.mp hn).1
    have hr : ∀ k, findKey k r₁ = findKey k r₂ := by
      intro k
      by_cases hka : a = k
      · subst hka
        rw [(findKey_eq_none_iff _ _).mpr ha, (findKey_eq_none_iff _ _).mpr (hk ▸ ha)]
      · simpa [findKey, hka] using h k
    rw [hxy, findKey_ext r₁ r₂ hk (List.nodup_cons.mp hn).2 hr]

theorem ext {d d' : PyDict α} (hk : d.keys = d'.keys) (h : ∀ k, d.get? k = d'.get? k) : d = d' := by
  obtain ⟨l, hl⟩ := d
  obtain ⟨l', hl'⟩ := d'
  congr
  exact findKey_ext l l' hk hl h

theorem keys_set (d : PyDict α) (k : String) (v : α) :
    (d.set k v).keys = if k ∈ d.keys then d.keys else d.keys ++ [k] := by
  unfold set
  split
  · exact keys_replace _ _ _
  · simp [keys]

theorem keys_erase (d : PyDict α) (k : String) : (d.erase k).keys = d.keys.filter (· ≠ k) := by
  simp [erase, keys, List.filter_map, Function.comp_def]

/-- `d[k] = v` when `d[k]` is already `v` changes nothing. -/
theorem set_of_get? {d : PyDict α} {k : String} {v : α} (h : d.get? k = some v) : d.set k v = d :=
  ext (keys_set_of_mem ((mem_keys_iff d k).mpr (by simp [h])) v) fun k' => by
    by_cases hk : k' = k
    · subst hk; simp [get?_set, h]
    · simp [get?_set, hk]

/-- The second of two assignments to one key wins. -/
theorem set_set (d : PyDict α) (k : String) (v w : α) : (d.set k v).set k w = d.set k w :=
  ext (by rw [keys_set, keys_set, keys_set]; split <;> simp_all) fun k' => by
    by_cases hk : k' = k <;> simp [get?_set, hk]

end PyDict

/-! ### Python on decoded JSON -/

/-- Python's truth value of a decoded value. -/
def truthy : Json → Bool
  | .null => false
  | .bool b => b
  | .num n => n != 0
  | .str s => !s.isEmpty
  | .arr xs => !xs.isEmpty
  | .obj fields => !fields.isEmpty

/-- Whether `needle` occurs in `hay` as a block of consecutive characters. -/
def occursIn (needle : List Char) : List Char → Bool
  | [] => needle.isEmpty
  | c :: cs => needle.isPrefixOf (c :: cs) || occursIn needle cs

/-- What a view raises: werkzeug's `BadRequest` and `UnsupportedMediaType` from `get_json`, or a
Python error with its message. -/
inductive ViewError
  | badRequest
  | unsupportedMediaType
  | recursionError
  | typeError (msg : String)
  | attributeError (msg : String)
  | keyError (key : String)

/-- What `json.loads` makes of a request's data: a value, a `ValueError` (the data is not JSON), or
a `RecursionError` (arrays or objects nested deeper than the interpreter's recursion limit). -/
inductive Loaded
  | value (v : Json)
  | valueError
  | recursionError

/-- A request body: the mimetype werkzeug parses from the `Content-Type` header (lower case, without
parameters), and what `json.loads` makes of the data. -/
structure RequestBody where
  mimetype : String
  loaded : Loaded

/-- The body a client sends with `json=v`. -/
def jsonBody (v : Json) : RequestBody := ⟨"application/json", .value v⟩

/-- `Request.is_json`: `application/json`, or an `application/*+json` type. -/
def isJson (mimetype : String) : Bool :=
  mimetype == "application/json" ||
    ("application/".toList.isPrefixOf mimetype.toList && "+json".toList.isSuffixOf mimetype.toList)

/-- `request.get_json()`: `UnsupportedMediaType` for a mimetype that is not JSON; else the loaded
value, `BadRequest` for a `ValueError`, and the `RecursionError`, which is no `ValueError`, passed
on. -/
def getJson (body : RequestBody) : Except ViewError Json :=
  if isJson body.mimetype then
    match body.loaded with
    | .value v => .ok v
    | .valueError => .error .badRequest
    | .recursionError => .error .recursionError
  else .error .unsupportedMediaType

/-- `key in data`: a key of a dict, an element of a list, a substring of a string; other values
are not iterable. -/
def pyIn (key : String) : Json → Except ViewError Bool
  | .obj fields => .ok (fields.any (·.1 = key))
  | .arr xs => .ok (xs.any fun x => Json.eqStr key (some x))
  | .str s => .ok (occursIn key.toList s.toList)
  | v => .error (.typeError ("argument of type \x27" ++ typeName v ++ "\x27 is not iterable"))

/-- `data[key]` for a string key; a dict from `json.loads` keeps the last of duplicate keys. -/
def pySubscript (data : Json) (key : String) : Except ViewError Json :=
  match data with
  | .obj fields =>
    match fields.reverse.lookup key with
    | some v => .ok v
    | none => .error (.keyError key)
  | .arr _ => .error (.typeError "list indices must be integers or slices, not str")
  | .str _ => .error (.typeError "string indices must be integers, not \x27str\x27")
  | v => .error (.typeError ("\x27" ++ typeName v ++ "\x27 object is not subscriptable"))

/-- `data.get(key, default)`. -/
def pyGet (data : Json) (key : String) (default : Json) : Except ViewError Json :=
  match data with
  | .obj fields => .ok ((fields.reverse.lookup key).getD default)
  | v => .error (.attributeError ("\x27" ++ typeName v ++ "\x27 object has no attribute \x27get\x27"))

theorem lookup_isSome {α : Type} (l : List (String × α)) (k : String) :
    (l.lookup k).isSome = l.any (·.1 = k) := by
  induction l with
  | nil => rfl
  | cons e es ih =>
    obtain ⟨a, b⟩ := e
    by_cases h : k = a
    · subst h
      simp [List.lookup_cons]
    · have hb : (k == a) = false := by simpa using h
      simp [List.lookup_cons, hb, ih, Ne.symm h]

/-- `key in v` returns, or raises `TypeError`. -/
theorem pyIn_cases (key : String) (v : Json) :
    (∃ b, pyIn key v = .ok b) ∨ ∃ msg, pyIn key v = .error (.typeError msg) := by
  cases v <;> simp [pyIn]

/-- `v[key]` raises `TypeError` on everything but a dict. -/
theorem pySubscript_not_obj {v : Json} (hv : ∀ fields, v ≠ .obj fields) (key : String) :
    ∃ msg, pySubscript v key = .error (.typeError msg) := by
  cases v with
  | obj fields => exact absurd rfl (hv fields)
  | _ => simp [pySubscript]

theorem pySubscript_obj {fields : List (String × Json)} {key : String}
    (h : fields.any (·.1 = key) = true) : ∃ x, pySubscript (.obj fields) key = .ok x := by
  have hs : (fields.reverse.lookup key).isSome := by rw [lookup_isSome, List.any_reverse]; exact h
  obtain ⟨x, hx⟩ := Option.isSome_iff_exists.mp hs
  exact ⟨x, by simp [pySubscript, hx]⟩

/-! ### The views -/

/-- A response body: what `jsonify` sends, the empty string, or werkzeug's error page. -/
inductive Body
  | json (j : Json)
  | empty
  | errorPage

structure HttpResponse where
  status : Nat
  body : Body

/-- An item as the app stores it. -/
abbrev Item := PyDict Json

/-- The module-level `items`. -/
abbrev Store := PyDict Item

/-- A view: it reads and writes `items`, and returns a response or raises. -/
abbrev View := EStateM ViewError Store

/-- A dict as `jsonify` sends it. -/
def PyDict.toJson (d : PyDict Json) : Json := .obj d.entries

/-- `jsonify(value)`, status 200. -/
def jsonify (value : Json) : HttpResponse := ⟨200, .json value⟩

/-- Run a computation that does not touch `items`. -/
def lift {α : Type} (x : Except ViewError α) : View α := fun items =>
  match x with
  | .ok a => .ok a items
  | .error e => .error e items

/-- `items[item_id]`. -/
def lookupItem (itemId : String) : View Item := fun items =>
  match items.get? itemId with
  | some item => .ok item items
  | none => .error (.keyError itemId) items

/-- `items[item_id][key] = value`, the item changed in place. -/
def setField (itemId key : String) (value : Json) : View Unit := do
  let item ← lookupItem itemId
  modify fun items => items.set itemId (item.set key value)

/-- `del items[item_id]`. -/
def delItem (itemId : String) : View Unit := fun items =>
  if itemId ∈ items.keys then .ok () (items.erase itemId) else .error (.keyError itemId) items

/-- `{'id': item_id, 'name': name, 'description': description}`. -/
def newItem (itemId : String) (name description : Json) : Item :=
  ⟨[("id", .str itemId), ("name", name), ("description", description)],
    show (["id", "name", "description"] : List String).Nodup by decide⟩

def notFound : HttpResponse := ⟨404, .json (.obj [("error", .str "Item not found")])⟩

def nameRequired : HttpResponse := ⟨400, .json (.obj [("error", .str "Name required")])⟩

/-- `health()`, with `os.environ`. -/
def health (environ : String → Option String) : View HttpResponse :=
  pure (jsonify (.obj [("status", .str "healthy"), ("service", .str "flask-lambda"),
    ("region", .str ((environ "AWS_REGION").getD "unknown"))]))

def listItems : View HttpResponse := do
  let items ← get
  return jsonify (.obj [("items", .arr (items.values.map PyDict.toJson))])

def getItem (itemId : String) : View HttpResponse := do
  if itemId ∉ (← get).keys then return notFound
  return jsonify (← lookupItem itemId).toJson

/-- `create_item`, with `uuid` the string `str(uuid.uuid4())` gives.  The test
`not data or 'name' not in data` looks at membership only for a truthy body. -/
def createItem (body : RequestBody) (uuid : String) : View HttpResponse := do
  let data ← lift (getJson body)
  if !truthy data then return nameRequired
  if !(← lift (pyIn "name" data)) then return nameRequired
  let itemId := uuid
  let item := newItem itemId (← lift (pySubscript data "name"))
    (← lift (pyGet data "description" (.str "")))
  modify fun items => items.set itemId item
  return ⟨201, .json item.toJson⟩

/-- `if data.get(key): items[item_id][key] = data[key]`, which `update_item` runs for `name` and
then for `description`. -/
def setIfGiven (itemId : String) (data : Json) (key : String) : View Unit := do
  if truthy (← lift (pyGet data key .null)) then
    setField itemId key (← lift (pySubscript data key))

def updateItem (itemId : String) (body : RequestBody) : View HttpResponse := do
  if itemId ∉ (← get).keys then return notFound
  let data ← lift (getJson body)
  setIfGiven itemId data "name"
  setIfGiven itemId data "description"
  return jsonify (← lookupItem itemId).toJson

def deleteItem (itemId : String) : View HttpResponse := do
  if itemId ∉ (← get).keys then return notFound
  delItem itemId
  return ⟨204, .empty⟩

/-! ### Requests -/

/-- A request to one of the app's routes, with what its view reads: the path's `item_id`, the body,
and for `create_item` the uuid it draws. -/
inductive Request
  | health
  | listItems
  | getItem (itemId : String)
  | createItem (body : RequestBody) (uuid : String)
  | updateItem (itemId : String) (body : RequestBody)
  | deleteItem (itemId : String)

/-- The view Flask routes a request to. -/
def route (environ : String → Option String) : Request → View HttpResponse
  | .health => health environ
  | .listItems => listItems
  | .getItem itemId => getItem itemId
  | .createItem body uuid => createItem body uuid
  | .updateItem itemId body => updateItem itemId body
  | .deleteItem itemId => deleteItem itemId

/-- Flask's answer to an exception a view raised: `BadRequest` and `UnsupportedMediaType` are HTTP
exceptions with status 400 and 415, and any other exception is a 500 Internal Server Error. -/
def errorResponse : ViewError → HttpResponse
  | .badRequest => ⟨400, .errorPage⟩
  | .unsupportedMediaType => ⟨415, .errorPage⟩
  | _ => ⟨500, .errorPage⟩

/-- One request: the response and `items` after it. -/
def handle (environ : String → Option String) (req : Request) (items : Store) :
    HttpResponse × Store :=
  match route environ req items with
  | .ok r items' => (r, items')
  | .error e items' => (errorResponse e, items')

/-- A sequence of requests, one after another. -/
def serve (environ : String → Option String) : List Request → Store → List HttpResponse × Store
  | [], items => ([], items)
  | req :: reqs, items =>
    let (r, items') := handle environ req items
    let (rs, items'') := serve environ reqs items'
    (r :: rs, items'')

/-! ### Running views -/

theorem View.bind_apply {α β : Type} (x : View α) (f : α → View β) (items : Store) :
    (x >>= f) items = match x items with
      | .ok a items' => f a items'
      | .error e items' => .error e items' := by
  show EStateM.bind x f items = _
  unfold EStateM.bind
  cases x items <;> rfl

@[simp] theorem View.map_apply {α β : Type} (f : α → β) (x : View α) (items : Store) :
    (f <$> x) items = match x items with
      | .ok a items' => .ok (f a) items'
      | .error e items' => .error e items' := by
  show EStateM.map f x items = _
  unfold EStateM.map
  cases x items <;> rfl

@[simp] theorem View.pure_apply {α : Type} (a : α) (items : Store) :
    (pure a : View α) items = .ok a items := rfl

@[simp] theorem View.get_apply (items : Store) : (get : View Store) items = .ok items items := rfl

@[simp] theorem View.modify_apply (f : Store → Store) (items : Store) :
    (modify f : View Unit) items = .ok () (f items) := rfl

@[simp] theorem lift_ok {α : Type} (a : α) (items : Store) : lift (.ok a) items = .ok a items := rfl

@[simp] theorem lift_error {α : Type} (e : ViewError) (items : Store) :
    (lift (.error e) : View α) items = .error e items := rfl

section Items

variable {items : Store} {itemId : String} {item : Item}

theorem lookupItem_of_get? (h : items.get? itemId = some item) :
    lookupItem itemId items = .ok item items := by
  simp [lookupItem, h]

theorem setField_of_get? (h : items.get? itemId = some item) (key : String) (v : Json) :
    setField itemId key v items = .ok () (items.set itemId (item.set key v)) := by
  simp [setField, View.bind_apply, lookupItem_of_get? h]

/-- `item` with `key` set to `v`, when there is a `v`. -/
def assign (item : Item) (key : String) : Option Json → Item
  | none => item
  | some v => item.set key v

/-- On a dict body, `setIfGiven` sets the field or not, and raises nothing. -/
theorem setIfGiven_obj (h : items.get? itemId = some item) (fields : List (String × Json))
    (key : String) : ∃ v items', setIfGiven itemId (.obj fields) key items = .ok () items' ∧
      ∀ k, items'.get? k = if k = itemId then some (assign item key v) else items.get? k := by
  cases hl : fields.reverse.lookup key with
  | none =>
    refine ⟨none, items, ?_, fun k => by by_cases hk : k = itemId <;> simp [hk, h, assign]⟩
    simp [setIfGiven, View.bind_apply, pyGet, hl, truthy]
  | some v =>
    by_cases ht : truthy v = true
    · refine ⟨some v, _, ?_, fun k => PyDict.get?_set _ _ _ _⟩
      simp [setIfGiven, View.bind_apply, pyGet, pySubscript, hl, ht, setField_of_get? h]
      rfl
    · refine ⟨none, items, ?_, fun k => by by_cases hk : k = itemId <;> simp [hk, h, assign]⟩
      simp [setIfGiven, View.bind_apply, pyGet, hl, ht]

/-- On any other body, `data.get` raises `AttributeError` and nothing is set. -/
theorem setIfGiven_not_obj {data : Json} (hd : ∀ fields, data ≠ .obj fields) (key : String) :
    setIfGiven itemId data key items =
      .error (.attributeError ("\x27" ++ typeName data ++ "\x27 object has no attribute \x27get\x27"))
        items := by
  cases data with
  | obj fields => exact absurd rfl (hd fields)
  | _ => simp [setIfGiven, View.bind_apply, pyGet]

end Items

/-! ### What each view can do -/

/-- The four ways `create_item`'s checks can go on a JSON value, in the order the code meets them. -/
theorem body_cases (v : Json) :
    (truthy v = false ∨ pyIn "name" v = .ok false) ∨
      (truthy v = true ∧ ∃ msg, pyIn "name" v = .error (.typeError msg)) ∨
      (truthy v = true ∧ pyIn "name" v = .ok true ∧ (∀ fields, v ≠ .obj fields) ∧
        ∃ msg, pySubscript v "name" = .error (.typeError msg)) ∨
      ∃ fields name, v = .obj fields ∧ truthy v = true ∧ pyIn "name" v = .ok true ∧
        pySubscript v "name" = .ok name := by
  by_cases ht : truthy v = true
  · rcases pyIn_cases "name" v with ⟨_ | _, hb⟩ | ⟨msg, hb⟩
    · exact .inl (.inr hb)
    · by_cases hobj : ∃ fields, v = .obj fields
      · obtain ⟨fields, rfl⟩ := hobj
        obtain ⟨name, hn⟩ := pySubscript_obj (by simpa [pyIn] using hb)
        exact .inr (.inr (.inr ⟨fields, name, rfl, ht, hb, hn⟩))
      · have hv : ∀ fields, v ≠ .obj fields := fun fields h => hobj ⟨fields, h⟩
        obtain ⟨msg, hs⟩ := pySubscript_not_obj hv "name"
        exact .inr (.inr (.inl ⟨ht, hb, hv, msg, hs⟩))
    · exact .inr (.inl ⟨ht, msg, hb⟩)
  · exact .inl (.inl (by simpa using ht))

/-- `create_item` on each outcome of its checks: what `get_json` raises, "Name required" for a
falsy body or one without `name`, the error of `'name' in data` or of `data['name']` when one
raises, and otherwise a new item stored under the uuid. -/
theorem createItem_spec (body : RequestBody) (uuid : String) (items : Store) :
    (∀ e, getJson body = .error e → createItem body uuid items = .error e items) ∧
    (∀ v, getJson body = .ok v → (truthy v = false ∨ pyIn "name" v = .ok false) →
      createItem body uuid items = .ok nameRequired items) ∧
    (∀ v e, getJson body = .ok v → truthy v = true → pyIn "name" v = .error e →
      createItem body uuid items = .error e items) ∧
    (∀ v e, getJson body = .ok v → truthy v = true → pyIn "name" v = .ok true →
      pySubscript v "name" = .error e → createItem body uuid items = .error e items) ∧
    (∀ fields name, getJson body = .ok (.obj fields) → truthy (.obj fields) = true →
      pyIn "name" (.obj fields) = .ok true → pySubscript (.obj fields) "name" = .ok name →
      createItem body uuid items =
        .ok ⟨201, .json (newItem uuid name ((fields.reverse.lookup "description").getD (.str ""))).toJson⟩
          (items.set uuid (newItem uuid name ((fields.reverse.lookup "description").getD (.str ""))))) := by
  refine ⟨fun e hb => by simp [createItem, View.bind_apply, hb], fun v hb hv => ?_,
    fun v e hb ht hin => by simp [createItem, View.bind_apply, hb, ht, hin],
    fun v e hb ht hin hs => by simp [createItem, View.bind_apply, hb, ht, hin, hs],
    fun fields name hb ht hin hn => by simp [createItem, View.bind_apply, hb, ht, hin, hn, pyGet]⟩
  by_cases ht : truthy v = true
  · have hin : pyIn "name" v = .ok false := by simpa [ht] using hv
    simp [createItem, View.bind_apply, hb, ht, hin]
  · simp [createItem, View.bind_apply, hb, ht]

/-- `create_item` raises, answers "Name required", or stores a new item under its uuid. -/
theorem createItem_cases (body : RequestBody) (uuid : String) (items : Store) :
    (∃ e, createItem body uuid items = .error e items) ∨
      createItem body uuid items = .ok nameRequired items ∨
      ∃ name description, createItem body uuid items =
        .ok ⟨201, .json (newItem uuid name description).toJson⟩
          (items.set uuid (newItem uuid name description)) := by
  obtain ⟨herr, hreq, hin, hsub, hnew⟩ := createItem_spec body uuid items
  cases hj : getJson body with
  | error e => exact .inl ⟨_, herr e hj⟩
  | ok v =>
    rcases body_cases v with h | ⟨ht, msg, hb⟩ | ⟨ht, hb, -, msg, hs⟩ | ⟨fields, name, rfl, ht, hb, hn⟩
    · exact .inr (.inl (hreq v hj h))
    · exact .inl ⟨_, hin v _ hj ht hb⟩
    · exact .inl ⟨_, hsub v _ hj ht hb hs⟩
    · exact .inr (.inr ⟨name, _, hnew fields name hj ht hb hn⟩)

/-- `update_item`: 404 for an unknown id; for a known one, what `get_json` raises,
`AttributeError` for a JSON value that is not a dict, and otherwise the item stored with `name` and
then `description` perhaps set. -/
theorem updateItem_spec (itemId : String) (body : RequestBody) (items : Store) :
    (itemId ∉ items.keys → updateItem itemId body items = .ok notFound items) ∧
    (∀ e, itemId ∈ items.keys → getJson body = .error e →
      updateItem itemId body items = .error e items) ∧
    (∀ v, itemId ∈ items.keys → getJson body = .ok v → (∀ fields, v ≠ .obj fields) →
      updateItem itemId body items = .error (.attributeError
        ("\x27" ++ typeName v ++ "\x27 object has no attribute \x27get\x27")) items) ∧
    (∀ fields, itemId ∈ items.keys → getJson body = .ok (.obj fields) →
      ∃ item name description items', items.get? itemId = some item ∧
        updateItem itemId body items =
          .ok (jsonify (assign (assign item "name" name) "description" description).toJson) items' ∧
        ∀ k, items'.get? k =
          if k = itemId then some (assign (assign item "name" name) "description" description)
          else items.get? k) := by
  refine ⟨fun hmem => by simp [updateItem, View.bind_apply, hmem],
    fun e hmem hb => by simp [updateItem, View.bind_apply, hmem, hb],
    fun v hmem hb hv => by simp [updateItem, View.bind_apply, hmem, hb, setIfGiven_not_obj hv],
    fun fields hmem hb => ?_⟩
  obtain ⟨item, hitem⟩ := Option.ne_none_iff_exists'.mp ((PyDict.mem_keys_iff _ _).mp hmem)
  obtain ⟨n, items₁, h₁, hs₁⟩ := setIfGiven_obj hitem fields "name"
  have hitem₁ : items₁.get? itemId = some (assign item "name" n) := by simp [hs₁]
  obtain ⟨d, items₂, h₂, hs₂⟩ := setIfGiven_obj hitem₁ fields "description"
  have hitem₂ := (hs₂ itemId).trans (if_pos rfl)
  refine ⟨item, n, d, items₂, hitem, ?_, fun k => ?_⟩
  · simp [updateItem, View.bind_apply, hmem, hb, h₁, h₂, lookupItem_of_get? hitem₂]
  · by_cases hk : k = itemId <;> simp [hs₂, hs₁, hk]

/-- `update_item` answers 404 for an unknown id, raises, or stores its item with `name` and then
`description` perhaps set. -/
theorem updateItem_cases (itemId : String) (body : RequestBody) (items : Store) :
    (itemId ∉ items.keys ∧ updateItem itemId body items = .ok notFound items) ∨
      (∃ e, updateItem itemId body items = .error e items) ∨
      ∃ item name description items', items.get? itemId = some item ∧
        updateItem itemId body items =
          .ok (jsonify (assign (assign item "name" name) "description" description).toJson) items' ∧
        ∀ k, items'.get? k =
          if k = itemId then some (assign (assign item "name" name) "description" description)
          else items.get? k := by
  obtain ⟨hnot, herr, hother, hobj⟩ := updateItem_spec itemId body items
  by_cases hmem : itemId ∈ items.keys
  · cases hj : getJson body with
    | error e => exact .inr (.inl ⟨_, herr e hmem hj⟩)
    | ok v =>
      by_cases hv : ∃ fields, v = .obj fields
      · obtain ⟨fields, rfl⟩ := hv
        exact .inr (.inr (hobj fields hmem hj))
      · exact .inr (.inl ⟨_, hother v hmem hj fun fields h => hv ⟨fields, h⟩⟩)
  · exact .inl ⟨hmem, hnot hmem⟩

/-- `delete_item` answers 404 for an unknown id, and otherwise deletes the item and answers 204. -/
theorem deleteItem_cases (itemId : String) (items : Store) :
    (itemId ∉ items.keys ∧ deleteItem itemId items = .ok notFound items) ∨
      (itemId ∈ items.keys ∧ deleteItem itemId items = .ok ⟨204, .empty⟩ (items.erase itemId)) := by
  by_cases hmem : itemId ∈ items.keys
  · exact .inr ⟨hmem, by simp [deleteItem, View.bind_apply, hmem, delItem]⟩
  · exact .inl ⟨hmem, by simp [deleteItem, View.bind_apply, hmem]⟩

/-- `health`, `list_items` and `get_item` only read `items`, and never raise. -/
theorem readOnly_views (environ : String → Option String) (itemId : String) (items : Store) :
    (∃ r, health environ items = .ok r items) ∧ (∃ r, listItems items = .ok r items) ∧
      ∃ r, getItem itemId items = .ok r items := by
  refine ⟨⟨_, rfl⟩, ⟨_, rfl⟩, ?_⟩
  by_cases hmem : itemId ∈ items.keys
  · obtain ⟨item, hitem⟩ := Option.ne_none_iff_exists'.mp ((PyDict.mem_keys_iff _ _).mp hmem)
    exact ⟨jsonify item.toJson, by simp [getItem, View.bind_apply, hmem, lookupItem_of_get? hitem]⟩
  · exact ⟨notFound, by simp [getItem, View.bind_apply, hmem]⟩

/-! ### One request -/

/-- A request leaves `items` as it was, or it is a `create_item` that stores a new item under its
uuid, an `update_item` that stores its item with `name` and `description` perhaps set, or a
`delete_item` that deletes an item that is there; each of the three answers a success status. -/
theorem handle_cases (environ : String → Option String) (req : Request) (items : Store) :
    (handle environ req items).2 = items ∨
    (∃ body uuid name description, req = .createItem body uuid ∧
      handle environ req items = (⟨201, .json (newItem uuid name description).toJson⟩,
        items.set uuid (newItem uuid name description))) ∨
    (∃ itemId body item name description, req = .updateItem itemId body ∧
      items.get? itemId = some item ∧
      (handle environ req items).1 =
        jsonify (assign (assign item "name" name) "description" description).toJson ∧
      ∀ k, (handle environ req items).2.get? k =
        if k = itemId then some (assign (assign item "name" name) "description" description)
        else items.get? k) ∨
    (∃ itemId, req = .deleteItem itemId ∧ itemId ∈ items.keys ∧
      handle environ req items = (⟨204, .empty⟩, items.erase itemId)) := by
  cases req with
  | health =>
    obtain ⟨r, hr⟩ := (readOnly_views environ "" items).1
    exact .inl (by simp [handle, route, hr])
  | listItems =>
    obtain ⟨r, hr⟩ := (readOnly_views environ "" items).2.1
    exact .inl (by simp [handle, route, hr])
  | getItem itemId =>
    obtain ⟨r, hr⟩ := (readOnly_views environ itemId items).2.2
    exact .inl (by simp [handle, route, hr])
  | createItem body uuid =>
    rcases createItem_cases body uuid items with ⟨e, he⟩ | he | ⟨n, d, he⟩
    · exact .inl (by simp [handle, route, he])
    · exact .inl (by simp [handle, route, he])
    · exact .inr (.inl ⟨body, uuid, n, d, rfl, by simp [handle, route, he]⟩)
  | updateItem itemId body =>
    rcases updateItem_cases itemId body items with ⟨-, he⟩ | ⟨e, he⟩ | ⟨item, n, d, items', hitem, he, hs⟩
    · exact .inl (by simp [handle, route, he])
    · exact .inl (by simp [handle, route, he])
    · exact .inr (.inr (.inl ⟨itemId, body, item, n, d, rfl, hitem, by simp [handle, route, he],
        by simpa [handle, route, he] using hs⟩))
  | deleteItem itemId =>
    rcases deleteItem_cases itemId items with ⟨-, he⟩ | ⟨hmem, he⟩
    · exact .inl (by simp [handle, route, he])
    · exact .inr (.inr (.inr ⟨itemId, rfl, hmem, by simp [handle, route, he]⟩))

/-- A view that raises has not touched `items`. -/
theorem route_error {environ : String → Option String} {req : Request} {items items' : Store}
    {e : ViewError} (h : route environ req items = .error e items') : items' = items := by
  cases req with
  | health => obtain ⟨r, hr⟩ := (readOnly_views environ "" items).1; simp [route, hr] at h
  | listItems => obtain ⟨r, hr⟩ := (readOnly_views environ "" items).2.1; simp [route, hr] at h
  | getItem itemId =>
    obtain ⟨r, hr⟩ := (readOnly_views environ itemId items).2.2; simp [route, hr] at h
  | createItem body uuid =>
    rcases createItem_cases body uuid items with ⟨e', he⟩ | he | ⟨n, d, he⟩ <;>
      simp [route, he] at h
    exact h.2.symm
  | updateItem itemId body =>
    rcases updateItem_cases itemId body items with ⟨-, he⟩ | ⟨e', he⟩ | ⟨_, _, _, _, _, he, _⟩ <;>
      simp [route, he] at h
    exact h.2.symm
  | deleteItem itemId =>
    rcases deleteItem_cases itemId items with ⟨-, he⟩ | ⟨-, he⟩ <;> simp [route, he] at h

/-! ### Statuses -/

@[simp] theorem getJson_jsonBody (v : Json) : getJson (jsonBody v) = .ok v := rfl

/-- What `get_json` does with each body: `UnsupportedMediaType` for a mimetype that is not JSON,
and otherwise the value, `BadRequest`, or the `RecursionError`. -/
theorem getJson_cases (body : RequestBody) :
    (isJson body.mimetype = false ∧ getJson body = .error .unsupportedMediaType) ∨
      (isJson body.mimetype = true ∧ body.loaded = .valueError ∧ getJson body = .error .badRequest) ∨
      (isJson body.mimetype = true ∧ body.loaded = .recursionError ∧
        getJson body = .error .recursionError) ∨
      ∃ v, isJson body.mimetype = true ∧ body.loaded = .value v ∧ getJson body = .ok v := by
  obtain ⟨m, l⟩ := body
  by_cases hm : isJson m = true
  · cases l <;> simp [getJson, hm]
  · simp [getJson, hm]

/-- The status `create_item` answers: 415 for a mimetype that is not JSON; else 201 for a JSON
object with the key `name`, 500 for data nested too deep for `json.loads` and for a truthy value
that is not an object and for which `'name' in data` does not return `False` (it raises, or it holds
and `data['name']` raises), and 400 for every other body. -/
theorem createItem_status (environ : String → Option String) (body : RequestBody) (uuid : String)
    (items : Store) :
    ((handle environ (.createItem body uuid) items).1.status = 201 ↔
        isJson body.mimetype = true ∧
          ∃ fields, body.loaded = .value (.obj fields) ∧ pyIn "name" (.obj fields) = .ok true) ∧
      ((handle environ (.createItem body uuid) items).1.status = 415 ↔
        isJson body.mimetype = false) ∧
      ((handle environ (.createItem body uuid) items).1.status = 500 ↔
        isJson body.mimetype = true ∧ (body.loaded = .recursionError ∨
          ∃ v, body.loaded = .value v ∧ (∀ fields, v ≠ .obj fields) ∧ truthy v = true ∧
            pyIn "name" v ≠ .ok false)) ∧
      ((handle environ (.createItem body uuid) items).1.status = 201 ∨
        (handle environ (.createItem body uuid) items).1.status = 400 ∨
        (handle environ (.createItem body uuid) items).1.status = 415 ∨
        (handle environ (.createItem body uuid) items).1.status = 500) := by
  obtain ⟨herr, hreq, hin, hsub, hnew⟩ := createItem_spec body uuid items
  rcases getJson_cases body with ⟨hm, hj⟩ | ⟨hm, hl, hj⟩ | ⟨hm, hl, hj⟩ | ⟨v, hm, hl, hj⟩
  · simp [handle, route, herr _ hj, errorResponse, hm]
  · simp [handle, route, herr _ hj, errorResponse, hm, hl]
  · simp [handle, route, herr _ hj, errorResponse, hm, hl]
  · rcases body_cases v with h | ⟨ht, msg, hb⟩ | ⟨ht, hb, hv, msg, hs⟩ |
      ⟨fields, name, rfl, ht, hb, hn⟩
    · have hne : ∀ fields, v = .obj fields → pyIn "name" (.obj fields) ≠ .ok true := by
        rintro (_ | _) rfl
        · simp [pyIn]
        · rw [h.resolve_left (by simp [truthy])]
          simp
      simp [handle, route, hreq v hj h, nameRequired, hm, hl]
      exact ⟨hne, fun _ ht => h.resolve_left (by simp [ht])⟩
    · have hv : ∀ fields, v ≠ .obj fields := by rintro fields rfl; simp [pyIn] at hb
      simp [handle, route, hin v _ hj ht hb, errorResponse, hv, ht, hb, hm, hl]
    · simp [handle, route, hsub v _ hj ht hb hs, errorResponse, hv, ht, hb, hm, hl]
    · simp [handle, route, hnew fields name hj ht hb hn, hb, hm, hl]

example : (handle (fun _ => none)
    (.createItem ⟨"text/plain", .value (.obj [("name", .str "widget")])⟩ "u1") .empty).1.status =
      415 := rfl

/-- The status `update_item` answers: 404 for an unknown id; for a known one, 415 for a mimetype
that is not JSON, and else 200 for a JSON object, 400 for data that does not decode, and 500 for
data nested too deep for `json.loads` and for any other JSON value. -/
theorem updateItem_status (environ : String → Option String) (itemId : String)
    (body : RequestBody) (items : Store) :
    ((handle environ (.updateItem itemId body) items).1.status = 404 ↔ itemId ∉ items.keys) ∧
      (itemId ∈ items.keys →
        ((handle environ (.updateItem itemId body) items).1.status = 200 ↔
          isJson body.mimetype = true ∧ ∃ fields, body.loaded = .value (.obj fields)) ∧
        ((handle environ (.updateItem itemId body) items).1.status = 400 ↔
          isJson body.mimetype = true ∧ body.loaded = .valueError) ∧
        ((handle environ (.updateItem itemId body) items).1.status = 415 ↔
          isJson body.mimetype = false) ∧
        ((handle environ (.updateItem itemId body) items).1.status = 500 ↔
          isJson body.mimetype = true ∧ (body.loaded = .recursionError ∨
            ∃ v, body.loaded = .value v ∧ ∀ fields, v ≠ .obj fields))) := by
  obtain ⟨hnot, herr, hother, hobj⟩ := updateItem_spec itemId body items
  by_cases hmem : itemId ∈ items.keys
  · rcases getJson_cases body with ⟨hm, hj⟩ | ⟨hm, hl, hj⟩ | ⟨hm, hl, hj⟩ | ⟨v, hm, hl, hj⟩
    · simp [handle, route, herr _ hmem hj, errorResponse, hmem, hm]
    · simp [handle, route, herr _ hmem hj, errorResponse, hmem, hm, hl]
    · simp [handle, route, herr _ hmem hj, errorResponse, hmem, hm, hl]
    · by_cases hv : ∃ fields, v = .obj fields
      · obtain ⟨fields, rfl⟩ := hv
        obtain ⟨_, _, _, _, -, he, -⟩ := hobj fields hmem hj
        simp [handle, route, he, jsonify, hmem, hm, hl]
      · have hv' : ∀ fields, v ≠ .obj fields := fun fields h => hv ⟨fields, h⟩
        simp [handle, route, hother v hmem hj hv', errorResponse, hmem, hv', hm, hl]
  · simp [handle, route, hnot hmem, notFound, hmem]

/-- Two JSON bodies that are not objects make the views raise, and Flask answers 500: the string
`"name"` passes `'name' in data` and then `data['name']` indexes a string with a string; `null`
reaches `data.get` in `update_item` for every id that is there. -/
theorem non_object_bodies_raise (environ : String → Option String) (uuid itemId : String)
    (items : Store) :
    createItem (jsonBody (.str "name")) uuid items =
        .error (.typeError "string indices must be integers, not \x27str\x27") items ∧
      (handle environ (.createItem (jsonBody (.str "name")) uuid) items).1.status = 500 ∧
      updateItem itemId (jsonBody .null) items =
        (if itemId ∈ items.keys then
          .error (.attributeError "\x27NoneType\x27 object has no attribute \x27get\x27") items
        else .ok notFound items) ∧
      (handle environ (.updateItem itemId (jsonBody .null)) items).1.status =
        if itemId ∈ items.keys then 500 else 404 := by
  obtain ⟨hnot, -, hother, -⟩ := updateItem_spec itemId (jsonBody .null) items
  have hcreate :=
    (createItem_spec (jsonBody (.str "name")) uuid items).2.2.2.1 _ _ rfl rfl rfl rfl
  by_cases hmem : itemId ∈ items.keys
  · have hu := hother .null hmem rfl (fun _ h => nomatch h)
    simp [hcreate, handle, route, errorResponse, hmem, hu, typeName]
  · simp [hcreate, handle, route, errorResponse, hmem, hnot hmem, notFound]

/-! ### The store over a run -/

/-- Every item is a dict with the keys `id`, `name` and `description`, in that order, and its `id`
is the key it is stored under. -/
def WellFormed (items : Store) : Prop :=
  ∀ k item, items.get? k = some item →
    item.keys = ["id", "name", "description"] ∧ item.get? "id" = some (.str k)

/-- `items'` agrees with `items` on every key but `itemId`. -/
def Frame (itemId : String) (items items' : Store) : Prop :=
  ∀ k, k ≠ itemId → items'.get? k = items.get? k

theorem WellFormed.empty : WellFormed PyDict.empty := by
  intro k item h
  simp at h

theorem newItem_wellFormed (uuid : String) (name description : Json) :
    (newItem uuid name description).keys = ["id", "name", "description"] ∧
      (newItem uuid name description).get? "id" = some (.str uuid) := by
  constructor <;> rfl

/-- Setting `name` or `description` keeps an item's keys and its `id`. -/
theorem assign_wellFormed {item : Item} {k : String}
    (h : item.keys = ["id", "name", "description"] ∧ item.get? "id" = some (.str k))
    {key : String} (hkey : key = "name" ∨ key = "description") (v : Option Json) :
    (assign item key v).keys = ["id", "name", "description"] ∧
      (assign item key v).get? "id" = some (.str k) := by
  cases v with
  | none => exact h
  | some v =>
    have hmem : key ∈ item.keys := by rw [h.1]; rcases hkey with rfl | rfl <;> simp
    have hid : ("id" : String) ≠ key := by rcases hkey with rfl | rfl <;> decide
    exact ⟨(PyDict.keys_set_of_mem hmem v).trans h.1, by simp [assign, PyDict.get?_set, hid, h.2]⟩

theorem handle_wellFormed (environ : String → Option String) (req : Request) {items : Store}
    (hwf : WellFormed items) : WellFormed (handle environ req items).2 := by
  rcases handle_cases environ req items with h | ⟨_, uuid, n, d, -, h⟩ |
    ⟨itemId, _, item, n, d, -, hitem, -, hs⟩ | ⟨itemId, -, -, h⟩
  · rwa [h]
  · intro k it hk
    rw [h, PyDict.get?_set] at hk
    split at hk
    · cases hk
      subst k
      exact newItem_wellFormed uuid n d
    · exact hwf k it hk
  · intro k it hk
    rw [hs] at hk
    split at hk
    · cases hk
      subst k
      exact assign_wellFormed (assign_wellFormed (hwf itemId item hitem) (.inl rfl) n) (.inr rfl) d
    · exact hwf k it hk
  · intro k it hk
    rw [h, PyDict.get?_erase] at hk
    split at hk
    · cases hk
    · exact hwf k it hk

theorem serve_wellFormed (environ : String → Option String) (reqs : List Request) :
    ∀ items, WellFormed items → WellFormed (serve environ reqs items).2 := by
  induction reqs with
  | nil => exact fun _ h => h
  | cons req reqs ih => exact fun items h => ih _ (handle_wellFormed environ req h)

/-- `update_item` changes no item but its own, whatever it answers. -/
theorem handle_update_frame (environ : String → Option String) (itemId : String)
    (body : RequestBody) (items : Store) :
    Frame itemId items (handle environ (.updateItem itemId body) items).2 := by
  rcases handle_cases environ (.updateItem itemId body) items with h | ⟨_, _, _, _, hreq, -⟩ |
    ⟨_, _, _, _, _, hreq, -, -, hs⟩ | ⟨_, hreq, -, -⟩
  · exact fun k _ => by rw [h]
  · cases hreq
  · cases hreq
    exact fun k hk => by rw [hs, if_neg hk]
  · cases hreq

/-- `delete_item` changes no item but its own, whatever it answers. -/
theorem handle_delete_frame (environ : String → Option String) (itemId : String) (items : Store) :
    Frame itemId items (handle environ (.deleteItem itemId) items).2 := by
  rcases handle_cases environ (.deleteItem itemId) items with h | ⟨_, _, _, _, hreq, -⟩ |
    ⟨_, _, _, _, _, hreq, -, -, -⟩ | ⟨_, hreq, -, h⟩
  · exact fun k _ => by rw [h]
  · cases hreq
  · cases hreq
  · cases hreq
    exact fun k hk => by rw [h, PyDict.get?_erase, if_neg hk]

/-- For every sequence of requests from the empty store, in the store it leaves: every item is a
dict with exactly the keys `id`, `name` and `description`, whose `id` is its key; a request whose
view raises, or that is answered with an error status, leaves `items` as it was; and a successful
`update_item` or `delete_item` changes no item but its own. -/
theorem items_invariant (environ : String → Option String) (reqs : List Request) :
    WellFormed (serve environ reqs .empty).2 ∧
      ∀ req, (∀ e items', route environ req (serve environ reqs .empty).2 = .error e items' →
          items' = (serve environ reqs .empty).2) ∧
        (400 ≤ (handle environ req (serve environ reqs .empty).2).1.status →
          (handle environ req (serve environ reqs .empty).2).2 = (serve environ reqs .empty).2) ∧
        (∀ itemId body,
          (handle environ (.updateItem itemId body) (serve environ reqs .empty).2).1.status < 400 →
          Frame itemId (serve environ reqs .empty).2
            (handle environ (.updateItem itemId body) (serve environ reqs .empty).2).2) ∧
        (∀ itemId, (handle environ (.deleteItem itemId) (serve environ reqs .empty).2).1.status < 400 →
          Frame itemId (serve environ reqs .empty).2
            (handle environ (.deleteItem itemId) (serve environ reqs .empty).2).2) := by
  refine ⟨serve_wellFormed environ reqs _ WellFormed.empty, fun req => ⟨fun e items' h => route_error h,
    fun hst => ?_, fun itemId body _ => ?_, fun itemId _ => ?_⟩⟩
  · rcases handle_cases environ req (serve environ reqs .empty).2 with h | ⟨_, _, _, _, -, h⟩ |
      ⟨_, _, _, _, _, -, -, h, -⟩ | ⟨_, -, -, h⟩
    · exact h
    all_goals rw [h] at hst; simp [jsonify] at hst
  · exact handle_update_frame environ itemId body _
  · exact handle_delete_frame environ itemId _

end RustStackHarness.SampleApp
