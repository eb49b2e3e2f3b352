import RustStackHarness.Python

/-! conftest.py's configuration, which runs when pytest imports the module: `RUSTSTACK_PORT` is
`int()` of the environment variable (default `"4566"`), `RUSTSTACK_HOST` the host (default
`"localhost"`), and `RUSTSTACK_ENDPOINT` the URL `http://{host}:{port}`.  `int()` takes a base-10
literal: optional whitespace, a sign, digits with single underscores between them, optional
whitespace.  On any other text it raises `ValueError`, and then importing conftest raises.
Python's `int()` also reads Unicode decimal digits and spaces; the model reads ASCII text, and
rejects any other character. -/

namespace RustStackHarness.Endpoint

open Python

/-- `Py_ISSPACE`: the ASCII whitespace `int()` skips around a literal. -/
def isSpace (c : Char) : Bool := c = ' ' || (9 ≤ c.toNat && c.toNat ≤ 13)

/-- The rest of a literal after a digit: more digits, each perhaps after one underscore. -/
def digitsAfterDigit : List Char → Bool
  | [] => true
  | '_' :: c :: cs => c.isDigit && digitsAfterDigit cs
  | c :: cs => c.isDigit && digitsAfterDigit cs

/-- A base-10 literal after its sign: a digit first, and underscores only between digits. -/
def isLiteral : List Char → Bool
  | [] => false
  | c :: cs => c.isDigit && digitsAfterDigit cs

/-- The value of the digits of a literal, its underscores skipped. -/
def digitsValue (cs : List Char) : Nat :=
  (cs.filter Char.isDigit).foldl (fun n c => 10 * n + (c.toNat - '0'.toNat)) 0

/-- `sys.get_int_max_str_digits()`: the most digits `int()` converts. -/
def maxStrDigits : Nat := 4300

/-- `int(text)`: the text without the whitespace around it is a sign and a literal. -/
def pyInt (text : String) : Except Exn Int :=
  let cs := ((text.toList.dropWhile isSpace).reverse.dropWhile isSpace).reverse
  let (negative, body) := match cs with
    | '-' :: rest => (true, rest)
    | '+' :: rest => (false, rest)
    | rest => (false, rest)
  if isLiteral body then
    let digits := (body.filter Char.isDigit).length
    if maxStrDigits < digits then
      .error ⟨.valueError, "Exceeds the limit (" ++ toString maxStrDigits ++
        " digits) for integer string conversion: value has " ++ toString digits ++
        " digits; use sys.set_int_max_str_digits() to increase the limit"⟩
    else .ok (if negative then -(digitsValue body : Int) else digitsValue body)
  else .error ⟨.valueError, "invalid literal for int() with base 10: " ++ (pyReprStr text).take 200⟩

/-- conftest's module-level constants. -/
structure Config where
  port : Int
  host : String
  endpoint : String
  deriving DecidableEq

/-- What importing conftest computes, or the `ValueError` it raises. -/
def conftestConfig (environ : String → Option String) : Except Exn Config :=
  match pyInt ((environ "RUSTSTACK_PORT").getD "4566") with
  | .error e => .error e
  | .ok port =>
    let host := (environ "RUSTSTACK_HOST").getD "localhost"
    .ok ⟨port, host, "http://" ++ host ++ ":" ++ toString port⟩

/-- Importing conftest raises exactly when `int()` rejects the text of `RUSTSTACK_PORT`, and then
with the `ValueError` it raised. -/
theorem conftestConfig_error (environ : String → Option String) (e : Exn) :
    conftestConfig environ = .error e ↔ pyInt ((environ "RUSTSTACK_PORT").getD "4566") = .error e := by
  unfold conftestConfig
  split <;> simp [*]

/-- conftest's constants with the variables unset. -/
def defaultConfig : Config := ⟨4566, "localhost", "http://localhost:4566"⟩

example : conftestConfig (fun _ => none) = .ok defaultConfig := rfl

theorem pyInt_error_cls {text : String} {e : Exn} (h : pyInt text = .error e) :
    e.cls = .valueError := by
  unfold pyInt at h
  dsimp only at h
  repeat' split at h
  all_goals cases h; try rfl

end RustStackHarness.Endpoint
