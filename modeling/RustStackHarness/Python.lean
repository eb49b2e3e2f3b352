import Mathlib.Data.List.Basic

/-! The harness's Python as Lean sees it.  A statement is an `EStateM` program: it returns a value
or raises an exception, and in both cases leaves its side effects in the world.  The world holds
the environment of the run, the events the harness issued, and the lines it printed.  The
environment decides each remote call, assertion and health request by its position in the run,
so a statement quantified over every environment holds for every pattern of failures of the
service under test. -/

namespace RustStackHarness.Python

/-- The exception classes the harness raises or catches.  pytest's `skip` and `fail` raise
outcome exceptions that derive from `BaseException` only. -/
inductive ExnClass
  | clientError
  | requestException
  | assertionError
  | attributeError
  | timeoutExpired
  | valueError
  | unicodeDecodeError
  | skipped
  | failed
  deriving DecidableEq, Repr

/-- Whether `except Exception` catches the class. -/
def ExnClass.isException : ExnClass → Bool
  | .skipped | .failed => false
  | _ => true

/-- A raised exception: its class and `str(e)`. -/
structure Exn where
  cls : ExnClass
  msg : String
  deriving DecidableEq, Repr

/-- The remote operations the harness issues through boto3 clients. -/
inductive Op
  | createBucket | listBuckets | deleteBucket | putObject | getObject | listObjectsV2
  | deleteObject
  | createTable | describeTable | deleteTable | putItem | getItem | query | updateItem
  | deleteItem
  | listFunctions
  | createSecret | getSecretValue | putSecretValue | deleteSecret
  | createRole | getRole | deleteRole | createPolicy | deletePolicy | attachRolePolicy
  | detachRolePolicy | listAttachedRolePolicies
  | createApi | getApi | deleteApi | createIntegration | createRoute | getRoutes | createStage
  | getStage | getStages
  | createDeliveryStream | describeDeliveryStream | listDeliveryStreams | deleteDeliveryStream
  | putRecord | putRecordBatch
  | createLogGroup | describeLogGroups | deleteLogGroup | createLogStream | putLogEvents
  | getLogEvents
  deriving DecidableEq, Repr

/-- A JSON value, as `response.json()` decodes it. -/
inductive Json
  | null
  | bool (b : Bool)
  | num (n : Int)
  | str (s : String)
  | arr (items : List Json)
  | obj (fields : List (String × Json))

/-- `type(v).__name__` for a value `json.loads` returns. -/
def typeName : Json → String
  | .null => "NoneType"
  | .bool _ => "bool"
  | .num _ => "int"
  | .str _ => "str"
  | .arr _ => "list"
  | .obj _ => "dict"

/-- A response to `GET /health`: its status code, its body text, and the body decoded as JSON
(`none` when `response.json()` raises). -/
structure Response where
  statusCode : Nat
  text : String
  json : Option Json

/-- What a successful remote call returns that the harness reads: the names it lists
(`Contents`, `AttachedPolicies`) and the identifier it assigns (`ApiId`, a policy's `Arn`). -/
structure Reply where
  listing : List String
  ident : String

/-- The service under test and the run's randomness: the error, if any, of the `k`-th event
(a client error for a call, the failed comparison's detail for an assertion), what a successful
call returns, the `k`-th draw of `uuid4().hex`, and the outcome of a health request. -/
structure Env where
  fault : Nat → Option String
  listing : Nat → List String
  ident : Nat → String
  health : Nat → Except String Response

/-- An event the harness issued: a uuid draw, a remote call with its identifying arguments, an
assertion, a health request; each call, assertion and request with whether it succeeded. -/
inductive Event
  | uuid (hex : String)
  | call (op : Op) (args : List String) (ok : Bool)
  | check (ok : Bool)
  | get (ok : Bool)
  deriving DecidableEq, Repr

structure World where
  env : Env
  trace : List Event
  out : List String

/-- The position of the next event. -/
def World.next (w : World) : Nat := w.trace.length

def World.log (w : World) (e : Event) : World := { w with trace := w.trace ++ [e] }

@[simp] theorem World.log_env (w : World) (e : Event) : (w.log e).env = w.env := rfl
@[simp] theorem World.log_trace (w : World) (e : Event) : (w.log e).trace = w.trace ++ [e] := rfl
@[simp] theorem World.log_out (w : World) (e : Event) : (w.log e).out = w.out := rfl
@[simp] theorem World.next_log (w : World) (e : Event) : (w.log e).next = w.next + 1 := by
  simp [World.next]

/-- The world after the events `es`. -/
def World.logAll (w : World) (es : List Event) : World := { w with trace := w.trace ++ es }

@[simp] theorem World.logAll_env (w : World) (es : List Event) : (w.logAll es).env = w.env := rfl
@[simp] theorem World.logAll_trace (w : World) (es : List Event) :
    (w.logAll es).trace = w.trace ++ es := rfl
@[simp] theorem World.logAll_out (w : World) (es : List Event) : (w.logAll es).out = w.out := rfl
@[simp] theorem World.next_logAll (w : World) (es : List Event) :
    (w.logAll es).next = w.next + es.length := by
  simp [World.next]
@[simp] theorem World.log_logAll (w : World) (e : Event) (es : List Event) :
    (w.log e).logAll es = w.logAll (e :: es) := by
  simp [World.log, World.logAll]

/-- The world after printing `lines`. -/
def World.emit (w : World) (lines : List String) : World := { w with out := w.out ++ lines }

@[simp] theorem World.emit_env (w : World) (ls : List String) : (w.emit ls).env = w.env := rfl
@[simp] theorem World.emit_trace (w : World) (ls : List String) : (w.emit ls).trace = w.trace := rfl
@[simp] theorem World.emit_out (w : World) (ls : List String) : (w.emit ls).out = w.out ++ ls := rfl
@[simp] theorem World.emit_emit (w : World) (ls ls' : List String) :
    (w.emit ls).emit ls' = w.emit (ls ++ ls') := by
  simp [World.emit]
@[simp] theorem World.emit_nil (w : World) : w.emit [] = w := by simp [World.emit]

/-- The service is not running: every remote call and every health request fails to connect. -/
def serviceDown : Env where
  fault _ := some "Could not connect to the endpoint URL"
  listing _ := []
  ident _ := "00000000"
  health _ := .error "Connection refused"

/-- Harness code: a Python statement that returns an `α` or raises. -/
abbrev Py := EStateM Exn World

/-! ### Primitives -/

/-- `uuid.uuid4().hex[:8]`. -/
def uuidHex : Py String := fun w =>
  let hex := (w.env.ident w.next).take 8
  .ok hex (w.log (.uuid hex))

/-- `f"{prefix}{uuid.uuid4().hex[:8]}"`. -/
def freshName (pre : String) : Py String := do
  let hex ← uuidHex
  pure (pre ++ hex)

/-- A boto3 call: the environment decides whether it raises a client error, and what it
returns. -/
def request (op : Op) (args : List String) : Py Reply := fun w =>
  match w.env.fault w.next with
  | some m => .error ⟨.clientError, m⟩ (w.log (.call op args false))
  | none => .ok ⟨w.env.listing w.next, w.env.ident w.next⟩ (w.log (.call op args true))

/-- A boto3 call whose result the harness does not read. -/
def call (op : Op) (args : List String) : Py Unit := fun w =>
  match request op args w with
  | .ok _ w' => .ok () w'
  | .error e w' => .error e w'

/-- `assert condition, message` over results the model does not represent: the environment
decides whether the comparison holds, and the message is formatted with its detail. -/
def check (message : String → String) : Py Unit := fun w =>
  match w.env.fault w.next with
  | some d => .error ⟨.assertionError, message d⟩ (w.log (.check false))
  | none => .ok () (w.log (.check true))

/-- `assert condition, message` over a value the model represents. -/
def assertThat (condition : Bool) (message : String) : Py Unit := fun w =>
  if condition then .ok () w else .error ⟨.assertionError, message⟩ w

/-- `requests.get(f"{endpoint}/health", timeout=...)`. -/
def getHealth : Py Response := fun w =>
  match w.env.health w.next with
  | .error m => .error ⟨.requestException, m⟩ (w.log (.get false))
  | .ok r => .ok r (w.log (.get true))

def print (line : String) : Py Unit := fun w => .ok () (w.emit [line])

/-- `response.json()`: raises `requests.JSONDecodeError` when the body is not JSON. -/
def decodeJson (r : Response) : Py Json := fun w =>
  match r.json with
  | some j => .ok j w
  | none => .error ⟨.requestException, "Expecting value: line 1 column 1 (char 0)"⟩ w

/-- `data.get(key)`: the last field named `key` of an object (the one `json.loads` keeps); a value
of another type has no `get`. -/
def dictGet (data : Json) (key : String) : Py (Option Json) := fun w =>
  match data with
  | .obj fields => .ok (fields.reverse.lookup key) w
  | v => .error ⟨.attributeError, "\x27" ++ typeName v ++ "\x27 object has no attribute \x27get\x27"⟩ w

/-! ### `repr` -/

/-- Whether `repr` prints a character of a string as itself.  Below U+0100 these are the printable
characters, as `str.isprintable` has them; from U+0100 on the model takes every character as
printable, where Python escapes the few it does not print. -/
def reprPrintable (c : Char) : Bool :=
  (0x20 ≤ c.toNat && c.toNat < 0x7f) || (0xa0 < c.toNat && c.toNat != 0xad)

/-- Two lowercase hexadecimal digits, as `repr` writes an escaped byte. -/
def hex2 (n : Nat) : String :=
  String.mk [Nat.digitChar (n / 16 % 16), Nat.digitChar (n % 16)]

/-- One character of a string `repr` encloses in `quote`. -/
def pyReprChar (quote c : Char) : String :=
  if c = quote ∨ c = Char.ofNat 0x5c then String.mk [Char.ofNat 0x5c, c]
  else if c = Char.ofNat 9 then "\\t"
  else if c = Char.ofNat 10 then "\\n"
  else if c = Char.ofNat 13 then "\\r"
  else if reprPrintable c then c.toString
  else "\\x" ++ hex2 c.toNat

/-- `repr(s)`: in single quotes, or in double quotes when `s` holds a single quote and no double
quote. -/
def pyReprStr (s : String) : String :=
  let quote :=
    if s.toList.contains (Char.ofNat 0x27) && !s.toList.contains (Char.ofNat 0x22) then
      Char.ofNat 0x22
    else Char.ofNat 0x27
  quote.toString ++ String.join (s.toList.map (pyReprChar quote)) ++ quote.toString

/-- `dict(pairs)`: each key once, where it first occurs, with the value of its last pair. -/
def dictEntries {α : Type} (pairs : List (String × α)) : List (String × α) :=
  pairs.foldl (fun acc (k, v) =>
    if acc.any (·.1 == k) then acc.map (fun e => if e.1 = k then (k, v) else e)
    else acc ++ [(k, v)]) []

mutual
/-- `repr` of the value `json.loads` returns, as `str` and f-strings print it. -/
def pyRepr : Json → String
  | .null => "None"
  | .bool b => if b then "True" else "False"
  | .num n => toString n
  | .str s => pyReprStr s
  | .arr xs => "[" ++ ", ".intercalate (reprItems xs) ++ "]"
  | .obj fields => "\x7b" ++ ", ".intercalate ((dictEntries (reprFields fields)).map
      fun (k, v) => pyReprStr k ++ ": " ++ v) ++ "\x7d"

/-- `repr` of each element of a list. -/
def reprItems : List Json → List String
  | [] => []
  | x :: xs => pyRepr x :: reprItems xs

/-- Each field of a JSON object with the `repr` of its value. -/
def reprFields : List (String × Json) → List (String × String)
  | [] => []
  | (k, v) :: fields => (k, pyRepr v) :: reprFields fields
end

/-- `value == s` for what `dict.get` returned and a Python string. -/
def Json.eqStr (s : String) : Option Json → Bool
  | some (.str t) => t == s
  | _ => false

/-! ### Control -/

/-- `try: body` followed by `except Exception as e: handler(e)`; exceptions of other classes
pass through. -/
def tryExcept (body : Py α) (handler : Exn → Py α) : Py α := fun w =>
  match body w with
  | .ok a w' => .ok a w'
  | .error e w' => if e.cls.isException then handler e w' else .error e w'

/-- `try: body` followed by `except: pass` (`catches` is everything) or `except Exception: pass`
(`catches` is `ExnClass.isException`). -/
def swallow (catches : ExnClass → Bool) (body : Py Unit) : Py Unit := fun w =>
  match body w with
  | .ok _ w' => .ok () w'
  | .error e w' => if catches e.cls then .ok () w' else .error e w'

/-- `try: body` followed by `finally: cleanup`: the cleanup runs on every exit, and an exception
it raises replaces the body's outcome.  The state is any that survives an exception, the harness's
world or a child process. -/
def withFinally {σ : Type} (body : EStateM Exn σ α) (cleanup : EStateM Exn σ Unit) :
    EStateM Exn σ α := fun w =>
  match body w with
  | .ok a w' =>
    match cleanup w' with
    | .ok _ w'' => .ok a w''
    | .error e w'' => .error e w''
  | .error e w' =>
    match cleanup w' with
    | .ok _ w'' => .error e w''
    | .error e' w'' => .error e' w''

/-- Run a statement for its outcome: Python's view of a call that returns or raises. -/
def runPy (x : Py Unit) (w : World) : Except Exn Unit × World :=
  match x w with
  | .ok _ w' => (.ok (), w')
  | .error e w' => (.error e, w')

/-! ### Running statements -/

section Run

variable {α β : Type} {w w' : World}

theorem bind_def {x : Py α} {f : α → Py β} : (x >>= f) w = EStateM.bind x f w := rfl

theorem bind_ok {x : Py α} {f : α → Py β} {a : α} (h : x w = .ok a w') :
    (x >>= f) w = f a w' := by
  show EStateM.bind x f w = _
  simp only [EStateM.bind, h]

theorem bind_error {x : Py α} {f : α → Py β} {e : Exn} (h : x w = .error e w') :
    (x >>= f) w = .error e w' := by
  show EStateM.bind x f w = _
  simp only [EStateM.bind, h]

@[simp] theorem pure_apply (a : α) : (pure a : Py α) w = .ok a w := rfl

@[simp] theorem throw_apply (e : Exn) : (throw e : Py α) w = .error e w := rfl

@[simp] theorem map_apply (f : α → β) (x : Py α) :
    (f <$> x) w = match x w with
      | .ok a s => .ok (f a) s
      | .error e s => .error e s := by
  show EStateM.map f x w = _
  unfold EStateM.map
  cases x w <;> rfl

theorem forM_cons (x : α) (xs : List α) (f : α → Py Unit) :
    (x :: xs).forM f = (f x >>= fun _ => xs.forM f) := rfl

theorem foldlM_cons (f : β → α → Py β) (b : β) (x : α) (xs : List α) :
    (x :: xs).foldlM f b = (f b x >>= fun b' => xs.foldlM f b') := rfl

@[simp] theorem print_apply (line : String) : print line w = .ok () (w.emit [line]) := rfl

theorem forM_print (line : α → String) (xs : List α) (w : World) :
    xs.forM (fun x => print (line x)) w = .ok () (w.emit (xs.map line)) := by
  induction xs generalizing w with
  | nil => simp
  | cons x xs ih => rw [forM_cons, bind_ok (print_apply _), ih]; simp

@[simp] theorem uuidHex_apply :
    uuidHex w = .ok ((w.env.ident w.next).take 8) (w.log (.uuid ((w.env.ident w.next).take 8))) :=
  rfl

theorem freshName_apply (pre : String) :
    freshName pre w = .ok (pre ++ (w.env.ident w.next).take 8)
      (w.log (.uuid ((w.env.ident w.next).take 8))) := by
  simp only [freshName, bind_ok uuidHex_apply, pure_apply]

theorem request_ok {op : Op} {args : List String} (h : w.env.fault w.next = none) :
    request op args w = .ok ⟨w.env.listing w.next, w.env.ident w.next⟩
      (w.log (.call op args true)) := by
  simp [request, h]

theorem request_error {op : Op} {args : List String} {m : String}
    (h : w.env.fault w.next = some m) :
    request op args w = .error ⟨.clientError, m⟩ (w.log (.call op args false)) := by
  simp [request, h]

theorem call_ok {op : Op} {args : List String} (h : w.env.fault w.next = none) :
    call op args w = .ok () (w.log (.call op args true)) := by
  simp [call, request_ok h]

theorem call_error {op : Op} {args : List String} {m : String}
    (h : w.env.fault w.next = some m) :
    call op args w = .error ⟨.clientError, m⟩ (w.log (.call op args false)) := by
  simp [call, request_error h]

theorem check_ok {message : String → String} (h : w.env.fault w.next = none) :
    check message w = .ok () (w.log (.check true)) := by
  simp [check, h]

theorem check_error {message : String → String} {d : String}
    (h : w.env.fault w.next = some d) :
    check message w = .error ⟨.assertionError, message d⟩ (w.log (.check false)) := by
  simp [check, h]

end Run

/-! ### Which exceptions a statement can raise -/

/-- Every exception `x` raises, from any world, has a class that `p` admits. -/
def RaisesOnly (p : ExnClass → Bool) (x : Py α) : Prop :=
  ∀ w e w', x w = .error e w' → p e.cls = true

section RaisesOnly

variable {α β : Type} {p : ExnClass → Bool}

theorem RaisesOnly.pure (a : α) : RaisesOnly p (pure a : Py α) := by
  intro w e w' h; cases h

theorem RaisesOnly.bind {x : Py α} {f : α → Py β} (hx : RaisesOnly p x)
    (hf : ∀ a, RaisesOnly p (f a)) : RaisesOnly p (x >>= f) := by
  intro w e w' h
  cases hxw : x w with
  | ok a s => rw [bind_ok hxw] at h; exact hf a _ _ _ h
  | error e' s => rw [bind_error hxw] at h; cases h; exact hx _ _ _ hxw

theorem RaisesOnly.request {op : Op} {args : List String}
    (hp : p .clientError = true) : RaisesOnly p (request op args) := by
  intro w e w' h
  unfold Python.request at h
  split at h <;> cases h
  exact hp

theorem RaisesOnly.call {op : Op} {args : List String}
    (hp : p .clientError = true) : RaisesOnly p (call op args) := by
  intro w e w' h
  unfold Python.call at h
  split at h
  · cases h
  · cases h; exact RaisesOnly.request hp _ _ _ ‹_›

theorem RaisesOnly.throw {e : Exn} (he : p e.cls = true) : RaisesOnly p (throw e : Py α) := by
  intro w e' w' h; cases h; exact he

theorem RaisesOnly.check {message : String → String} (hp : p .assertionError = true) :
    RaisesOnly p (check message) := by
  intro w e w' h
  unfold Python.check at h
  split at h <;> cases h
  exact hp

theorem RaisesOnly.assertThat {c : Bool} {message : String} (hp : p .assertionError = true) :
    RaisesOnly p (assertThat c message) := by
  intro w e w' h
  unfold Python.assertThat at h
  split at h <;> cases h
  exact hp

theorem RaisesOnly.getHealth (hp : p .requestException = true) : RaisesOnly p getHealth := by
  intro w e w' h
  unfold Python.getHealth at h
  split at h <;> cases h
  exact hp

theorem RaisesOnly.decodeJson {r : Response} (hp : p .requestException = true) :
    RaisesOnly p (decodeJson r) := by
  intro w e w' h
  unfold Python.decodeJson at h
  split at h <;> cases h
  exact hp

theorem RaisesOnly.dictGet {data : Json} {key : String} (hp : p .attributeError = true) :
    RaisesOnly p (dictGet data key) := by
  intro w e w' h
  unfold Python.dictGet at h
  split at h <;> cases h
  exact hp

theorem RaisesOnly.uuidHex : RaisesOnly p uuidHex := by
  intro w e w' h; cases h

theorem RaisesOnly.freshName {pre : String} : RaisesOnly p (freshName pre) :=
  RaisesOnly.bind RaisesOnly.uuidHex fun _ => RaisesOnly.pure _

theorem RaisesOnly.print {line : String} : RaisesOnly p (print line) := by
  intro w e w' h; cases h

theorem RaisesOnly.swallow {catches : ExnClass → Bool} {body : Py Unit} (hb : RaisesOnly p body) :
    RaisesOnly p (swallow catches body) := by
  intro w e w' h
  unfold Python.swallow at h
  split at h
  · cases h
  · split at h
    · cases h
    · cases h; exact hb _ _ _ ‹_›

/-- What `try: body except Exception as e: handler(e)` raises: the handler's exceptions, and the
body's that are not `Exception`s. -/
theorem RaisesOnly.tryExcept {body : Py α} {handler : Exn → Py α} (hb : RaisesOnly p body)
    (hh : ∀ e, p e.cls = true → e.cls.isException = true → RaisesOnly p (handler e)) :
    RaisesOnly p (tryExcept body handler) := by
  intro w e w' h
  unfold Python.tryExcept at h
  split at h
  · cases h
  · split at h
    · exact hh _ (hb _ _ _ ‹_›) ‹_› _ _ _ h
    · cases h; exact hb _ _ _ ‹_›

theorem RaisesOnly.withFinally {body : Py α} {cleanup : Py Unit} (hb : RaisesOnly p body)
    (hc : RaisesOnly p cleanup) : RaisesOnly p (withFinally body cleanup) := by
  intro w e w' h
  unfold Python.withFinally at h
  split at h <;> split at h <;> cases h
  · exact hc _ _ _ ‹_›
  · exact hb _ _ _ ‹_›
  · exact hc _ _ _ ‹_›

theorem RaisesOnly.forM {xs : List α} {f : α → Py Unit} (hf : ∀ a, RaisesOnly p (f a)) :
    RaisesOnly p (xs.forM f) := by
  induction xs with
  | nil => exact RaisesOnly.pure _
  | cons a as ih => exact RaisesOnly.bind (hf a) fun _ => ih

/-- A `try`/`except ...: pass` whose handler admits everything its body raises never raises. -/
theorem swallow_ok {catches : ExnClass → Bool} {body : Py Unit} (hb : RaisesOnly catches body)
    (w : World) : ∃ w', swallow catches body w = .ok () w' := by
  unfold swallow
  split
  · exact ⟨_, rfl⟩
  · rename_i e w' h
    exact ⟨w', by rw [if_pos (hb _ _ _ h)]⟩

end RaisesOnly

/-! ### What a statement adds to the trace -/

/-- The world a statement leaves, whether it returned or raised. -/
def after {α : Type} (x : Py α) (w : World) : World :=
  match x w with
  | .ok _ w' => w'
  | .error _ w' => w'

/-- Every run of `x` keeps the events issued before it, and the events it adds are all `Q`'s. -/
def Appends {α : Type} (Q : Event → Prop) (x : Py α) : Prop :=
  ∀ w, ∃ es, (after x w).trace = w.trace ++ es ∧ ∀ e ∈ es, Q e

/-- Every run of `x` issues an event `P` admits. -/
def Issues {α : Type} (P : Event → Prop) (x : Py α) : Prop :=
  ∀ w, ∃ es, (after x w).trace = w.trace ++ es ∧ ∃ e ∈ es, P e

section Appends

variable {α β : Type} {Q P : Event → Prop} {w w' : World}

theorem after_of_ok {x : Py α} {a : α} (h : x w = .ok a w') : after x w = w' := by
  simp [after, h]

theorem after_of_error {x : Py α} {e : Exn} (h : x w = .error e w') : after x w = w' := by
  simp [after, h]

theorem runPy_world (x : Py Unit) (w : World) : (runPy x w).2 = after x w := by
  unfold runPy after
  cases x w <;> rfl

/-- A statement that adds no event. -/
theorem Appends.of_trace {x : Py α} (h : ∀ w, (after x w).trace = w.trace) : Appends Q x :=
  fun w => ⟨[], by rw [h, List.append_nil], by simp⟩

theorem Appends.pure (a : α) : Appends Q (pure a : Py α) := .of_trace fun _ => rfl

theorem Appends.throw (e : Exn) : Appends Q (throw e : Py α) := .of_trace fun _ => rfl

theorem Appends.bind {x : Py α} {f : α → Py β} (hx : Appends Q x) (hf : ∀ a, Appends Q (f a)) :
    Appends Q (x >>= f) := by
  intro w
  obtain ⟨es, hes, hq⟩ := hx w
  cases hxw : x w with
  | ok a w₁ =>
    rw [after_of_ok hxw] at hes
    obtain ⟨es', hes', hq'⟩ := hf a w₁
    refine ⟨es ++ es', ?_, fun e he => (List.mem_append.mp he).elim (hq e) (hq' e)⟩
    rw [after, bind_ok hxw, ← after, hes', hes, List.append_assoc]
  | error e w₁ =>
    rw [after_of_error hxw] at hes
    exact ⟨es, by rw [after, bind_error hxw, hes], hq⟩

theorem Appends.request {op : Op} {args : List String} (hq : ∀ ok, Q (.call op args ok)) :
    Appends Q (request op args) := by
  intro w
  cases hf : w.env.fault w.next with
  | none => exact ⟨_, by rw [after_of_ok (request_ok hf)]; rfl, by simp [hq]⟩
  | some m => exact ⟨_, by rw [after_of_error (request_error hf)]; rfl, by simp [hq]⟩

theorem Appends.call {op : Op} {args : List String} (hq : ∀ ok, Q (.call op args ok)) :
    Appends Q (call op args) := by
  intro w
  obtain ⟨es, hes, h⟩ := Appends.request hq w
  refine ⟨es, ?_, h⟩
  rw [← hes]
  unfold after Python.call
  cases Python.request op args w <;> rfl

theorem Appends.check {message : String → String} (hq : ∀ ok, Q (.check ok)) :
    Appends Q (check message) := by
  intro w
  cases hf : w.env.fault w.next with
  | none => exact ⟨_, by rw [after_of_ok (check_ok hf)]; rfl, by simp [hq]⟩
  | some d => exact ⟨_, by rw [after_of_error (check_error hf)]; rfl, by simp [hq]⟩

theorem Appends.assertThat {c : Bool} {message : String} : Appends Q (assertThat c message) :=
  .of_trace fun w => by by_cases hc : c = true <;> simp [after, Python.assertThat, hc]

theorem Appends.getHealth (hq : ∀ ok, Q (.get ok)) : Appends Q getHealth := by
  intro w
  unfold after Python.getHealth
  cases w.env.health w.next <;> exact ⟨_, rfl, by simp [hq]⟩

theorem Appends.print {line : String} : Appends Q (print line) := .of_trace fun _ => rfl

theorem Appends.decodeJson {r : Response} : Appends Q (decodeJson r) :=
  .of_trace fun w => by unfold after Python.decodeJson; cases r.json <;> rfl

theorem Appends.dictGet {data : Json} {key : String} : Appends Q (dictGet data key) :=
  .of_trace fun w => by unfold after Python.dictGet; cases data <;> rfl

theorem Appends.freshName {pre : String} (hq : ∀ hex, Q (.uuid hex)) :
    Appends Q (freshName pre) :=
  fun w => ⟨_, by rw [after_of_ok (freshName_apply pre)]; rfl, by simp [hq]⟩

theorem after_swallow (catches : ExnClass → Bool) (body : Py Unit) (w : World) :
    after (swallow catches body) w = after body w := by
  unfold after swallow
  cases body w with
  | ok => rfl
  | error e w' => by_cases hc : catches e.cls = true <;> simp [hc]

theorem Appends.swallow {catches : ExnClass → Bool} {body : Py Unit} (hb : Appends Q body) :
    Appends Q (swallow catches body) := fun w => by
  rw [after_swallow]
  exact hb w

theorem Appends.tryExcept {body : Py α} {handler : Exn → Py α} (hb : Appends Q body)
    (hh : ∀ e, Appends Q (handler e)) : Appends Q (tryExcept body handler) := by
  intro w
  obtain ⟨es, hes, hq⟩ := hb w
  cases hbw : body w with
  | ok a w₁ => exact ⟨es, by rw [← hes]; simp [after, Python.tryExcept, hbw], hq⟩
  | error e w₁ =>
    rw [after_of_error hbw] at hes
    by_cases hc : e.cls.isException = true
    · obtain ⟨es', hes', hq'⟩ := hh e w₁
      refine ⟨es ++ es', ?_, fun x hx => (List.mem_append.mp hx).elim (hq x) (hq' x)⟩
      rw [← List.append_assoc, ← hes, ← hes']
      simp [after, Python.tryExcept, hbw, hc]
    · exact ⟨es, by rw [← hes]; simp [after, Python.tryExcept, hbw, hc], hq⟩

theorem after_withFinally (body : Py α) (cleanup : Py Unit) (w : World) :
    after (withFinally body cleanup) w = after cleanup (after body w) := by
  unfold after
  cases hb : body w with
  | ok a w' => cases hc : cleanup w' <;> simp [Python.withFinally, hb, hc]
  | error e w' => cases hc : cleanup w' <;> simp [Python.withFinally, hb, hc]

theorem Appends.withFinally {body : Py α} {cleanup : Py Unit} (hb : Appends Q body)
    (hc : Appends Q cleanup) : Appends Q (withFinally body cleanup) := by
  intro w
  obtain ⟨es, hes, hq⟩ := hb w
  obtain ⟨es', hes', hq'⟩ := hc (after body w)
  refine ⟨es ++ es', ?_, fun x hx => (List.mem_append.mp hx).elim (hq x) (hq' x)⟩
  rw [after_withFinally, hes', hes, List.append_assoc]

theorem Appends.forM {xs : List α} {f : α → Py Unit} (hf : ∀ a, Appends Q (f a)) :
    Appends Q (xs.forM f) := by
  induction xs with
  | nil => exact Appends.pure _
  | cons a as ih => exact Appends.bind (hf a) fun _ => ih

/-- A remote call and what follows it: the call's event comes first. -/
theorem request_bind_trace {op : Op} {args : List String} {f : Reply → Py α}
    (hf : ∀ r, Appends Q (f r)) (w : World) :
    ∃ ok rest, (after (request op args >>= f) w).trace = w.trace ++ .call op args ok :: rest ∧
      ∀ e ∈ rest, Q e := by
  cases hfault : w.env.fault w.next with
  | none =>
    obtain ⟨rest, hrest, hq⟩ := hf _ (w.log (.call op args true))
    refine ⟨true, rest, ?_, hq⟩
    rw [after, bind_ok (request_ok hfault), ← after, hrest]
    simp
  | some m =>
    refine ⟨false, [], ?_, by simp⟩
    rw [after, bind_error (request_error hfault)]
    rfl

theorem Issues.call {op : Op} {args : List String} (hp : ∀ ok, P (.call op args ok)) :
    Issues P (call op args) := by
  intro w
  cases hf : w.env.fault w.next with
  | none =>
    exact ⟨_, by rw [after_of_ok (call_ok hf)]; rfl, _, List.mem_singleton_self _, hp true⟩
  | some m =>
    exact ⟨_, by rw [after_of_error (call_error hf)]; rfl, _, List.mem_singleton_self _, hp false⟩

/-- A statement that issues an event, then anything. -/
theorem Issues.bind_left {x : Py α} {f : α → Py β} (hx : Issues P x)
    (hf : ∀ a, Appends (fun _ => True) (f a)) : Issues P (x >>= f) := by
  intro w
  obtain ⟨es, hes, e, he, hp⟩ := hx w
  cases hxw : x w with
  | ok a w₁ =>
    rw [after_of_ok hxw] at hes
    obtain ⟨es', hes', -⟩ := hf a w₁
    refine ⟨es ++ es', ?_, e, List.mem_append_left _ he, hp⟩
    rw [after, bind_ok hxw, ← after, hes', hes, List.append_assoc]
  | error e' w₁ =>
    rw [after_of_error hxw] at hes
    exact ⟨es, by rw [after, bind_error hxw, hes], e, he, hp⟩

/-- A statement that always returns, then one that issues an event. -/
theorem Issues.bind_right {x : Py α} {f : α → Py β} (hx : ∀ w, ∃ a w', x w = .ok a w' ∧
    ∃ es, w'.trace = w.trace ++ es) (hf : ∀ a, Issues P (f a)) : Issues P (x >>= f) := by
  intro w
  obtain ⟨a, w₁, hxw, es, hes⟩ := hx w
  obtain ⟨es', hes', e, he, hp⟩ := hf a w₁
  refine ⟨es ++ es', ?_, e, List.mem_append_right _ he, hp⟩
  rw [after, bind_ok hxw, ← after, hes', hes, List.append_assoc]

theorem Issues.tryExcept {body : Py α} {handler : Exn → Py α} (hb : Issues P body)
    (hh : ∀ e, Appends (fun _ => True) (handler e)) : Issues P (tryExcept body handler) := by
  intro w
  obtain ⟨es, hes, e, he, hp⟩ := hb w
  cases hbw : body w with
  | ok a w₁ => exact ⟨es, by rw [← hes]; simp [after, Python.tryExcept, hbw], e, he, hp⟩
  | error e' w₁ =>
    rw [after_of_error hbw] at hes
    by_cases hc : e'.cls.isException = true
    · obtain ⟨es', hes', -⟩ := hh e' w₁
      refine ⟨es ++ es', ?_, e, List.mem_append_left _ he, hp⟩
      rw [← List.append_assoc, ← hes, ← hes']
      simp [after, Python.tryExcept, hbw, hc]
    · exact ⟨es, by rw [← hes]; simp [after, Python.tryExcept, hbw, hc], e, he, hp⟩

theorem Issues.freshName_bind {pre : String} {f : String → Py β} (hf : ∀ a, Issues P (f a)) :
    Issues P (freshName pre >>= f) :=
  Issues.bind_right (fun _ => ⟨_, _, freshName_apply pre, _, rfl⟩) hf

end Appends

end RustStackHarness.Python
