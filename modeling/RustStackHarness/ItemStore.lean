import RustStackHarness.SampleApp

/-! The `items` store of `examples/flask-lambda/app.py` across requests.  Each request names at most
one item and reads and writes `items` only there (`Local`): what `update_item` does is a function of
the item's entry and of what `get_json` returns (`handle_updateItem`), what `delete_item` does of
whether the item is there, and what `create_item` answers and stores does not depend on `items` at
all (`handle_createItem`).  So two requests on different items, not both creations, can be served
in either order; `update_item` is idempotent; `get_item` reads back what a successful write
answered; a deleted item stays gone until a creation stores under its id again (`not_mem_serve`);
and over every run the keys stay in the order the items were created (`keys_handle_sublist`). -/

namespace RustStackHarness.ItemStore

open Python SampleApp

/-! ### Each request on its item -/

section Items

variable {items : Store} {itemId : String} {item : Item}

/-- What `if data.get(key): items[item_id][key] = data[key]` assigns on a dict body: the value of
the key's last entry, when it is truthy. -/
def given (fields : List (String × Json)) (key : String) : Option Json :=
  (fields.reverse.lookup key).filter truthy

theorem setIfGiven_obj_eq (h : items.get? itemId = some item) (fields : List (String × Json))
    (key : String) :
    setIfGiven itemId (.obj fields) key items =
      .ok () (items.set itemId (assign item key (given fields key))) := by
  cases hl : fields.reverse.lookup key with
  | none =>
    simp [setIfGiven, View.bind_apply, pyGet, hl, truthy, given, assign, PyDict.set_of_get? h]
  | some v =>
    by_cases ht : truthy v = true
    · simp [setIfGiven, View.bind_apply, pyGet, pySubscript, hl, ht, setField_of_get? h, given,
        assign, Option.filter]
    · simp [setIfGiven, View.bind_apply, pyGet, hl, ht, given, assign, PyDict.set_of_get? h,
        Option.filter]

/-- The item `update_item` leaves for a dict body: `name`, then `description`, set when given. -/
def updated (fields : List (String × Json)) (item : Item) : Item :=
  assign (assign item "name" (given fields "name")) "description" (given fields "description")

theorem updateItem_obj (h : items.get? itemId = some item) {body : RequestBody}
    {fields : List (String × Json)} (hj : getJson body = .ok (.obj fields)) :
    updateItem itemId body items =
      .ok (jsonify (updated fields item).toJson) (items.set itemId (updated fields item)) := by
  have hmem : itemId ∈ items.keys := (PyDict.mem_keys_iff _ _).mpr (by simp [h])
  have h₁ : (items.set itemId (assign item "name" (given fields "name"))).get? itemId =
      some (assign item "name" (given fields "name")) := by simp [PyDict.get?_set]
  have h₂ : (items.set itemId (updated fields item)).get? itemId = some (updated fields item) := by
    simp [PyDict.get?_set]
  simp only [updateItem, View.bind_apply, View.get_apply, hmem, not_true_eq_false, if_false,
    hj, lift_ok, View.pure_apply, setIfGiven_obj_eq h, setIfGiven_obj_eq h₁, PyDict.set_set]
  simp only [updated] at h₂ ⊢
  simp only [lookupItem_of_get? h₂]

end Items

/-- `update_item` on every store and body: 404 for an unknown id; for a known one, Flask's answer
to what `get_json` raises, 500 for a JSON value that is not an object, and for an object the item
with `name` and `description` set when given, stored and sent back. -/
theorem handle_updateItem (environ : String → Option String) (itemId : String) (body : RequestBody)
    (items : Store) :
    handle environ (.updateItem itemId body) items =
      match items.get? itemId, getJson body with
      | none, _ => (notFound, items)
      | some item, .ok (.obj fields) =>
        (jsonify (updated fields item).toJson, items.set itemId (updated fields item))
      | some _, .error e => (errorResponse e, items)
      | some _, .ok _ => (⟨500, .errorPage⟩, items) := by
  obtain ⟨hnot, herr, hother, -⟩ := updateItem_spec itemId body items
  cases hg : items.get? itemId with
  | none =>
    have hmem : itemId ∉ items.keys := by simp [PyDict.mem_keys_iff, hg]
    simp [handle, route, hnot hmem]
  | some item =>
    have hmem : itemId ∈ items.keys := by simp [PyDict.mem_keys_iff, hg]
    cases hj : getJson body with
    | error e => simp [handle, route, herr e hmem hj]
    | ok v =>
      cases v with
      | obj fields => simp [handle, route, updateItem_obj hg hj]
      | _ => simp [handle, route, hother _ hmem hj (fun _ h => nomatch h), errorResponse]

theorem handle_deleteItem (environ : String → Option String) (itemId : String) (items : Store) :
    handle environ (.deleteItem itemId) items =
      if itemId ∈ items.keys then (⟨204, .empty⟩, items.erase itemId) else (notFound, items) := by
  rcases deleteItem_cases itemId items with ⟨hmem, he⟩ | ⟨hmem, he⟩ <;> simp [handle, route, he, hmem]

theorem handle_getItem (environ : String → Option String) (itemId : String) (items : Store) :
    handle environ (.getItem itemId) items =
      match items.get? itemId with
      | none => (notFound, items)
      | some item => (jsonify item.toJson, items) := by
  cases hg : items.get? itemId with
  | none =>
    have hmem : itemId ∉ items.keys := by simp [PyDict.mem_keys_iff, hg]
    simp [handle, route, getItem, View.bind_apply, hmem]
  | some item =>
    have hmem : itemId ∈ items.keys := by simp [PyDict.mem_keys_iff, hg]
    simp [handle, route, getItem, View.bind_apply, hmem, lookupItem_of_get? hg]

/-- What `create_item` answers and whether it stores an item does not depend on `items`: the body
alone decides. -/
theorem handle_createItem (environ : String → Option String) (body : RequestBody) (uuid : String) :
    ∃ r o, ∀ items, handle environ (.createItem body uuid) items =
      (r, match o with
        | none => items
        | some item => items.set uuid item) := by
  cases hj : getJson body with
  | error e => exact ⟨errorResponse e, none, fun items => by
      simp [handle, route, (createItem_spec body uuid items).1 e hj]⟩
  | ok v =>
    rcases body_cases v with h | ⟨ht, msg, hb⟩ | ⟨ht, hb, -, msg, hs⟩ |
      ⟨fields, name, rfl, ht, hb, hn⟩
    · exact ⟨nameRequired, none, fun items => by
        simp [handle, route, (createItem_spec _ uuid items).2.1 v hj h]⟩
    · exact ⟨⟨500, .errorPage⟩, none, fun items => by
        simp [handle, route, (createItem_spec _ uuid items).2.2.1 v _ hj ht hb, errorResponse]⟩
    · exact ⟨⟨500, .errorPage⟩, none, fun items => by
        simp [handle, route, (createItem_spec _ uuid items).2.2.2.1 v _ hj ht hb hs, errorResponse]⟩
    · let item := newItem uuid name ((fields.reverse.lookup "description").getD (.str ""))
      exact ⟨⟨201, .json item.toJson⟩, some item, fun items => by
        simp only [handle, route, (createItem_spec _ uuid items).2.2.2.2 fields name hj ht hb hn]⟩

/-! ### The keys a request leaves -/

/-- The item a request names: the path's `item_id`, or the uuid `create_item` stores under. -/
def target : Request → Option String
  | .getItem itemId | .updateItem itemId _ | .deleteItem itemId => some itemId
  | .createItem _ uuid => some uuid
  | .health | .listItems => none

/-- The uuid of a `create_item` request. -/
def createdUuid : Request → Option String
  | .createItem _ uuid => some uuid
  | _ => none

/-- What a request does to the list of keys of `items` at the key `a`: nothing, `del`, or an
assignment, which puts a new key last. -/
inductive KeyOp
  | keep
  | drop
  | add

def KeyOp.apply (a : String) : KeyOp → List String → List String
  | .keep, ks => ks
  | .drop, ks => ks.filter (· ≠ a)
  | .add, ks => if a ∈ ks then ks else ks ++ [a]

/-- Operations on two different keys commute, unless both add a key. -/
theorem KeyOp.apply_comm {a b : String} (hab : a ≠ b) (o₁ o₂ : KeyOp)
    (h : ¬(o₁ = .add ∧ o₂ = .add)) (ks : List String) :
    o₁.apply a (o₂.apply b ks) = o₂.apply b (o₁.apply a ks) := by
  cases o₁ <;> cases o₂ <;> simp only [KeyOp.apply, List.filter_filter] at h ⊢
  · simp only [Bool.and_comm]
  · by_cases hb : b ∈ ks <;> simp [hb, List.filter_append, Ne.symm hab]
  · by_cases ha : a ∈ ks <;> simp [ha, List.filter_append, hab]
  · simp at h

/-- A request that names the item `a` reads and writes `items` only there: it leaves every other
key's value, what it answers and leaves at `a` depends only on the value at `a`, and its change to
the list of keys is one of `KeyOp`'s, an addition only for `create_item`. -/
structure Local (environ : String → Option String) (req : Request) (a : String) : Prop where
  frame : ∀ items k, k ≠ a → (handle environ req items).2.get? k = items.get? k
  reads : ∀ items items', items.get? a = items'.get? a →
    (handle environ req items).1 = (handle environ req items').1 ∧
      (handle environ req items).2.get? a = (handle environ req items').2.get? a
  keys : ∃ op : KeyOp, (op = .add → createdUuid req = some a) ∧
    ∀ items, (handle environ req items).2.keys = op.apply a items.keys

theorem local_of_target (environ : String → Option String) {req : Request} {a : String}
    (h : target req = some a) : Local environ req a := by
  cases req with
  | health => cases h
  | listItems => cases h
  | getItem itemId =>
    obtain rfl : itemId = a := Option.some.inj h
    refine ⟨fun items k _ => ?_, fun items items' he => ?_, ⟨.keep, by simp, fun items => ?_⟩⟩
    · rw [handle_getItem]; split <;> rfl
    · rw [handle_getItem, handle_getItem, he]; split <;> simp [he]
    · rw [handle_getItem]; split <;> rfl
  | updateItem itemId body =>
    obtain rfl : itemId = a := Option.some.inj h
    refine ⟨fun items k hk => ?_, fun items items' he => ?_, ⟨.keep, by simp, fun items => ?_⟩⟩
    · rw [handle_updateItem]; split <;> simp [PyDict.get?_set, hk]
    · rw [handle_updateItem, handle_updateItem, he]; split <;> simp [PyDict.get?_set, he]
    · rw [handle_updateItem]
      split <;> try rfl
      rename_i hget _
      exact PyDict.keys_set_of_mem ((PyDict.mem_keys_iff _ _).mpr (by simp [hget])) _
  | deleteItem itemId =>
    obtain rfl : itemId = a := Option.some.inj h
    refine ⟨fun items k hk => ?_, fun items items' he => ?_, ⟨.drop, by simp, fun items => ?_⟩⟩
    · rw [handle_deleteItem]; split <;> simp [PyDict.get?_erase, hk]
    · have hm : itemId ∈ items.keys ↔ itemId ∈ items'.keys := by simp [PyDict.mem_keys_iff, he]
      rw [handle_deleteItem, handle_deleteItem]
      by_cases hmem : itemId ∈ items.keys
      · simp [hmem, hm.mp hmem, PyDict.get?_erase]
      · simp only [hmem, mt hm.mpr hmem, if_false]
        exact ⟨trivial, he⟩
    · rw [handle_deleteItem]
      by_cases hmem : itemId ∈ items.keys
      · simp [hmem, PyDict.keys_erase, KeyOp.apply]
      · simp only [hmem, if_false, KeyOp.apply]
        exact (List.filter_eq_self.mpr fun k hk => by simpa using ne_of_mem_of_not_mem hk hmem).symm
  | createItem body uuid =>
    obtain rfl : uuid = a := Option.some.inj h
    obtain ⟨r, o, ho⟩ := handle_createItem environ body uuid
    refine ⟨fun items k hk => ?_, fun items items' he => ?_, ?_⟩
    · rw [ho]; cases o <;> simp [PyDict.get?_set, hk]
    · rw [ho, ho]; cases o <;> simp [PyDict.get?_set, he]
    · cases o with
      | none => exact ⟨.keep, by simp, fun items => by rw [ho]; rfl⟩
      | some item => exact ⟨.add, fun _ => rfl, fun items => by rw [ho]; exact PyDict.keys_set _ _ _⟩

/-- Every request changes the list of keys by one of `KeyOp`'s, an addition only for
`create_item` under its uuid. -/
theorem handle_keys (environ : String → Option String) (req : Request) (items : Store) :
    ∃ a op, (op = KeyOp.add → createdUuid req = some a) ∧
      (handle environ req items).2.keys = op.apply a items.keys := by
  cases ht : target req with
  | some a =>
    obtain ⟨op, hadd, hk⟩ := (local_of_target environ ht).keys
    exact ⟨a, op, hadd, hk items⟩
  | none =>
    refine ⟨"", .keep, by simp, ?_⟩
    cases req with
    | health =>
      obtain ⟨r, hr⟩ := (readOnly_views environ "" items).1
      simp [handle, route, hr, KeyOp.apply]
    | listItems =>
      obtain ⟨r, hr⟩ := (readOnly_views environ "" items).2.1
      simp [handle, route, hr, KeyOp.apply]
    | _ => cases ht

/-! ### Requests on different items commute -/

section Commute

variable {environ : String → Option String} {r₁ r₂ : Request} {a b : String}

theorem Local.commute (h₁ : Local environ r₁ a) (h₂ : Local environ r₂ b) (hab : a ≠ b)
    (hc : createdUuid r₁ = none ∨ createdUuid r₂ = none) (items : Store) :
    (handle environ r₂ (handle environ r₁ items).2).1 = (handle environ r₂ items).1 ∧
      (handle environ r₁ (handle environ r₂ items).2).1 = (handle environ r₁ items).1 ∧
      (handle environ r₂ (handle environ r₁ items).2).2 =
        (handle environ r₁ (handle environ r₂ items).2).2 := by
  obtain ⟨op₁, hadd₁, hk₁⟩ := h₁.keys
  obtain ⟨op₂, hadd₂, hk₂⟩ := h₂.keys
  have hb : (handle environ r₁ items).2.get? b = items.get? b := h₁.frame _ _ (Ne.symm hab)
  have ha : (handle environ r₂ items).2.get? a = items.get? a := h₂.frame _ _ hab
  have hops : ¬(op₂ = .add ∧ op₁ = .add) := by
    rintro ⟨h2, h1⟩
    rcases hc with hc | hc
    · simp [hadd₁ h1] at hc
    · simp [hadd₂ h2] at hc
  refine ⟨(h₂.reads _ _ hb).1, (h₁.reads _ _ ha).1, PyDict.ext ?_ fun k => ?_⟩
  · rw [hk₂, hk₁, hk₁, hk₂]
    exact KeyOp.apply_comm (Ne.symm hab) op₂ op₁ hops _
  · by_cases hka : k = a
    · subst hka
      rw [h₂.frame _ _ hab, (h₁.reads _ _ ha).2]
    · by_cases hkb : k = b
      · subst hkb
        rw [h₁.frame _ _ (Ne.symm hab), (h₂.reads _ _ hb).2]
      · rw [h₂.frame _ _ hkb, h₁.frame _ _ hka, h₁.frame _ _ hka, h₂.frame _ _ hkb]

end Commute

/-- Two requests that name different items, not both `create_item`, can be served in either order:
each gets the same response, and `items` ends the same. -/
theorem requests_commute (environ : String → Option String) {r₁ r₂ : Request} {a b : String}
    (h₁ : target r₁ = some a) (h₂ : target r₂ = some b) (hab : a ≠ b)
    (hc : createdUuid r₁ = none ∨ createdUuid r₂ = none) (items : Store) :
    serve environ [r₂, r₁] items =
      ((serve environ [r₁, r₂] items).1.reverse, (serve environ [r₁, r₂] items).2) := by
  obtain ⟨e₂, e₁, es⟩ := (local_of_target environ h₁).commute (local_of_target environ h₂) hab hc items
  simp only [serve, List.reverse_cons, List.reverse_nil, List.nil_append, List.singleton_append]
  rw [e₂, e₁, es]

/-- A store with the items `a` and `b`. -/
def twoItems : Store :=
  (PyDict.empty.set "a" (newItem "a" (.str "apple") (.str ""))).set "b"
    (newItem "b" (.str "banana") (.str ""))

/-- A rename of `a` and a deletion of `b`, served in both orders on a store holding both. -/
theorem requests_commute_update_delete :
    serve (fun _ => none) [.deleteItem "b", .updateItem "a" (jsonBody (.obj [("name", .str "pear")]))]
        twoItems =
      ((serve (fun _ => none)
          [.updateItem "a" (jsonBody (.obj [("name", .str "pear")])), .deleteItem "b"] twoItems).1.reverse,
        (serve (fun _ => none)
          [.updateItem "a" (jsonBody (.obj [("name", .str "pear")])), .deleteItem "b"] twoItems).2) :=
  @requests_commute _ (.updateItem "a" (jsonBody (.obj [("name", .str "pear")]))) (.deleteItem "b")
    "a" "b" rfl rfl (by decide) (.inl rfl) _

/-! ### Repeating an update -/

/-- Setting `name` and `description` again to what they were just set to changes nothing. -/
theorem updated_updated (fields : List (String × Json)) (item : Item) :
    updated fields (updated fields item) = updated fields item := by
  unfold updated
  cases given fields "name" with
  | none => cases given fields "description" <;> simp [assign, PyDict.set_set]
  | some x =>
    cases given fields "description" with
    | none => simp [assign, PyDict.set_set]
    | some y =>
      have hx : ((item.set "name" x).set "description" y).get? "name" = some x := by
        simp [PyDict.get?_set]
      simp only [assign, PyDict.set_of_get? hx, PyDict.set_set]

/-- `update_item` is idempotent: the same request made again, on what the first left, gets the
same response and leaves `items` as the first left it. -/
theorem updateItem_idempotent (environ : String → Option String) (itemId : String)
    (body : RequestBody) (items : Store) :
    handle environ (.updateItem itemId body) (handle environ (.updateItem itemId body) items).2 =
      handle environ (.updateItem itemId body) items := by
  rw [handle_updateItem environ itemId body items]
  cases hg : items.get? itemId with
  | none => simp [handle_updateItem, hg]
  | some item =>
    cases hj : getJson body with
    | error e => simp [handle_updateItem, hg, hj]
    | ok v =>
      cases v with
      | obj fields =>
        simp [handle_updateItem, hj, PyDict.get?_set, updated_updated, PyDict.set_set]
      | _ => simp [handle_updateItem, hg, hj]

/-! ### Reading back what was written -/

theorem errorResponse_status (e : ViewError) : 400 ≤ (errorResponse e).status := by
  cases e <;> simp [errorResponse]

/-- After a `create_item` or an `update_item` that succeeded, `get_item` on its item answers 200
with the body the write answered, and changes nothing. -/
theorem get_after_write (environ : String → Option String) (req : Request) (itemId : String)
    (items : Store)
    (hreq : (∃ body, req = .createItem body itemId) ∨ ∃ body, req = .updateItem itemId body)
    (hs : (handle environ req items).1.status < 300) :
    handle environ (.getItem itemId) (handle environ req items).2 =
      (⟨200, (handle environ req items).1.body⟩, (handle environ req items).2) := by
  rcases hreq with ⟨body, rfl⟩ | ⟨body, rfl⟩
  · rcases createItem_cases body itemId items with ⟨e, he⟩ | he | ⟨n, d, he⟩
    · have := errorResponse_status e
      simp [handle, route, he] at hs; omega
    · simp [handle, route, he, nameRequired] at hs
    · have hh : handle environ (.createItem body itemId) items =
          (⟨201, .json (newItem itemId n d).toJson⟩, items.set itemId (newItem itemId n d)) := by
        simp [handle, route, he]
      simp [hh, handle_getItem, PyDict.get?_set, jsonify]
  · rw [handle_updateItem] at hs ⊢
    cases hg : items.get? itemId with
    | none => simp [hg, notFound] at hs
    | some item =>
      cases hj : getJson body with
      | error e =>
        have := errorResponse_status e
        simp [hg, hj] at hs
        omega
      | ok v =>
        cases v with
        | obj fields => simp [hg, hj, handle_getItem, PyDict.get?_set, jsonify]
        | _ => simp [hg, hj] at hs

/-- A created item read back. -/
theorem get_after_create_widget :
    (∃ body, Request.createItem (jsonBody (.obj [("name", .str "widget")])) "u1" =
        .createItem body "u1") ∧
      (handle (fun _ => none) (.createItem (jsonBody (.obj [("name", .str "widget")])) "u1")
        .empty).1.status < 300 ∧
      handle (fun _ => none) (.getItem "u1")
          (handle (fun _ => none) (.createItem (jsonBody (.obj [("name", .str "widget")])) "u1")
            .empty).2 =
        (⟨200, (handle (fun _ => none) (.createItem (jsonBody (.obj [("name", .str "widget")])) "u1")
            .empty).1.body⟩,
          (handle (fun _ => none) (.createItem (jsonBody (.obj [("name", .str "widget")])) "u1")
            .empty).2) :=
  ⟨⟨_, rfl⟩, by decide, get_after_write _ _ _ _ (.inl ⟨_, rfl⟩) (by decide)⟩

/-! ### The keys over a run -/

/-- A request that is no `create_item` under `k`, or one that stores nothing, leaves a missing `k`
missing. -/
theorem not_mem_handle (environ : String → Option String) (req : Request) {items : Store}
    {k : String} (hk : k ∉ items.keys)
    (hreq : createdUuid req = some k → ∀ s, (handle environ req s).2 = s) :
    k ∉ (handle environ req items).2.keys := by
  by_cases hc : createdUuid req = some k
  · rwa [hreq hc items]
  obtain ⟨a, op, hadd, hkeys⟩ := handle_keys environ req items
  rw [hkeys]
  cases op with
  | keep => exact hk
  | drop => exact fun h => hk (List.mem_of_mem_filter h)
  | add =>
    have hka : k ≠ a := fun h => hc (h ▸ hadd rfl)
    simp only [KeyOp.apply]
    split <;> simp [hk, hka]

/-- A run in which no `create_item` stores under `k` leaves a missing `k` missing. -/
theorem not_mem_serve (environ : String → Option String) {k : String} (reqs : List Request)
    (hreqs : ∀ r ∈ reqs, createdUuid r = some k → ∀ s, (handle environ r s).2 = s) {items : Store}
    (hk : k ∉ items.keys) : k ∉ (serve environ reqs items).2.keys := by
  induction reqs generalizing items with
  | nil => exact hk
  | cons r rs ih =>
    exact ih (fun r' hr' => hreqs r' (List.mem_cons_of_mem r hr'))
      (not_mem_handle environ r hk (hreqs r (List.mem_cons_self r rs)))

/-- Once `delete_item` has run, the item stays gone while no `create_item` stores under its id (a
`create_item` under it may come, and answer an error): its id is not a key of `items`, and
`get_item` answers 404 for it. -/
theorem deleted_stays_gone (environ : String → Option String) (itemId : String)
    (reqs : List Request) (items : Store)
    (h : ∀ r ∈ reqs, createdUuid r = some itemId → ∀ s, (handle environ r s).2 = s) :
    itemId ∉ (serve environ (.deleteItem itemId :: reqs) items).2.keys ∧
      (handle environ (.getItem itemId) (serve environ (.deleteItem itemId :: reqs) items).2).1 =
        notFound := by
  have hgone : itemId ∉ (handle environ (.deleteItem itemId) items).2.keys := by
    rw [handle_deleteItem]
    split
    · simp [PyDict.keys_erase]
    · assumption
  have hfinal := not_mem_serve environ reqs h hgone
  have hg : (serve environ (.deleteItem itemId :: reqs) items).2.get? itemId = none := by
    simpa [PyDict.mem_keys_iff] using hfinal
  exact ⟨hfinal, by simp [handle_getItem, hg]⟩

/-- `a` deleted from a store holding `a` and `b`, then a `create_item` under `a` with no name, which
answers 400, and an update of `a`. -/
theorem deleted_stays_gone_nameless_create :
    (∀ r ∈ [.createItem (jsonBody (.obj [("description", .str "no name")])) "a",
        .updateItem "a" (jsonBody (.obj [("name", .str "pear")]))],
      createdUuid r = some "a" → ∀ s, (handle (fun _ => none) r s).2 = s) ∧
      "a" ∉ (serve (fun _ => none) [.deleteItem "a",
          .createItem (jsonBody (.obj [("description", .str "no name")])) "a",
          .updateItem "a" (jsonBody (.obj [("name", .str "pear")]))] twoItems).2.keys ∧
      (handle (fun _ => none) (.getItem "a") (serve (fun _ => none) [.deleteItem "a",
          .createItem (jsonBody (.obj [("description", .str "no name")])) "a",
          .updateItem "a" (jsonBody (.obj [("name", .str "pear")]))] twoItems).2).1 = notFound :=
  have h : ∀ r ∈ [Request.createItem (jsonBody (.obj [("description", .str "no name")])) "a",
      .updateItem "a" (jsonBody (.obj [("name", .str "pear")]))],
      createdUuid r = some "a" → ∀ s, (handle (fun _ => none) r s).2 = s := by
    intro r hr hc s
    simp only [List.mem_cons, List.mem_singleton, List.not_mem_nil, or_false] at hr
    rcases hr with rfl | rfl
    · simp [handle, route,
        (createItem_spec (jsonBody (.obj [("description", .str "no name")])) "a" s).2.1 _ rfl
          (.inr rfl)]
    · cases hc
  ⟨h, deleted_stays_gone _ "a" _ twoItems h⟩

/-- One request keeps the order of the keys, and can only add the uuid of a `create_item`, last. -/
theorem keys_handle_sublist (environ : String → Option String) (req : Request) (items : Store) :
    List.Sublist (handle environ req items).2.keys (items.keys ++ (createdUuid req).toList) := by
  obtain ⟨a, op, hadd, hkeys⟩ := handle_keys environ req items
  rw [hkeys]
  cases op with
  | keep => exact List.sublist_append_left _ _
  | drop => exact (List.filter_sublist _).trans (List.sublist_append_left _ _)
  | add =>
    rw [hadd rfl]
    simp only [KeyOp.apply, Option.toList_some]
    split
    · exact List.sublist_append_left _ _
    · exact List.Sublist.refl _

/-- Over every run, `items` keeps its keys in the order they were created: they are a sublist of the
keys it started with followed by the uuids of the run's `create_item` requests, in order. -/
theorem keys_in_creation_order (environ : String → Option String) (reqs : List Request)
    (items : Store) :
    List.Sublist (serve environ reqs items).2.keys (items.keys ++ reqs.filterMap createdUuid) := by
  induction reqs generalizing items with
  | nil => simp [serve]
  | cons r rs ih =>
    have hcons : items.keys ++ (r :: rs).filterMap createdUuid =
        (items.keys ++ (createdUuid r).toList) ++ rs.filterMap createdUuid := by
      cases h : createdUuid r <;> simp [List.filterMap_cons, h]
    rw [hcons]
    exact (ih _).trans ((keys_handle_sublist environ r items).append_right _)

end RustStackHarness.ItemStore
