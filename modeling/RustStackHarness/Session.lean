import RustStackHarness.Endpoint
import RustStackHarness.Prober
import RustStackHarness.ExampleSuite

/-! A pytest session over `test_integration.py`.  pytest first imports conftest, whose configuration
raises `ValueError` when `RUSTSTACK_PORT` is not a base-10 integer; pytest then reports it and exits
with 4 without running any test.  Otherwise every test of the file requests a session-scoped client,
and every client requests `ruststack_endpoint`, which calls `wait_for_ruststack(RUSTSTACK_ENDPOINT)`
and skips when it returns `False`.  pytest sets the session fixture up once, at the first test, and
raises its cached exception again at the setup of every later one.  `integration_test.main`, by
contrast, has no readiness gate: `test_health_check` is one test among the four
(`not_ready_outcomes`). -/

namespace RustStackHarness.Session

open Python Pytest Conftest ExampleSuite Prober Endpoint

/-- The exception `pytest.skip` raises when the service at `endpoint` is not ready. -/
def endpointSkip (endpoint : String) : Exn :=
  ⟨.skipped, "RustStack not available at " ++ endpoint ++ ". Start it with: docker-compose up -d ruststack"⟩

/-- `ruststack_endpoint` up to its `yield`, given what `wait_for_ruststack` returned or raised. -/
def ruststackEndpointSetup (endpoint : String) : Except Exn Bool → Py String
  | .ok true => pure endpoint
  | .ok false => throw (endpointSkip endpoint)
  | .error e => throw e

/-- The items of a session after the session fixture's first setup, whose outcome pytest caches. -/
def runItems (cached : Except Exn String) : List Item → World → List (ItemRun Fixture)
  | [], _ => []
  | item :: rest, w =>
    let r : ItemRun Fixture := match cached with
      | .error e => ⟨[], .ofResult (.error e), none, [], [], w⟩
      | .ok _ => item.run w
    r :: runItems cached rest r.world

/-- A session over `items` against `service`: `ruststack_endpoint` is set up at the first item, its
`wait_for_ruststack` called at real time `t₀`; `none` when the prober's loop runs out of fuel. -/
def runSession (endpoint : String) (service : ProbeEnv) (t₀ fuel : Nat) (items : List Item)
    (w : World) : Option (List (ItemRun Fixture)) :=
  match items with
  | [] => some []
  | _ =>
    (waitForRuststack service defaultTimeout t₀ fuel).map fun (ready, _) =>
      match ruststackEndpointSetup endpoint ready w with
      | .ok v w' => runItems (.ok v) items w'
      | .error e w' => runItems (.error e) items w'

/-- pytest over `items`: conftest is imported first, and when that raises no test runs. -/
def pytestRun (environ : String → Option String) (service : ProbeEnv) (t₀ fuel : Nat)
    (items : List Item) (w : World) : Option (Except Exn (List (ItemRun Fixture))) :=
  match conftestConfig environ with
  | .error e => some (.error e)
  | .ok config => (runSession config.endpoint service t₀ fuel items w).map .ok

/-- pytest's exit status: 4 (`USAGE_ERROR`) when importing conftest raised, which pytest reports for
a conftest it loads at startup, beside the tests it is given; else that of the session's reports. -/
def pytestExit : Except Exn (List (ItemRun Fixture)) → Nat
  | .error _ => 4
  | .ok runs => exitStatus runs

/-- With the endpoint's setup failed, every item is reported with that exception at setup, and
its test function does not run. -/
theorem runItems_error (e : Exn) (items : List Item) (w : World) :
    ∀ r ∈ runItems (.error e) items w, r.callOutcome = none ∧ r.setupOutcome = .ofResult (.error e) ∧
      r.teardownErrors = [] := by
  induction items generalizing w with
  | nil => simp [runItems]
  | cons item rest ih =>
    simp only [runItems, List.mem_cons]
    rintro r (rfl | hr)
    · exact ⟨rfl, rfl, rfl⟩
    · exact ih _ r hr

theorem runItems_length (cached : Except Exn String) (items : List Item) (w : World) :
    (runItems cached items w).length = items.length := by
  induction items generalizing w with
  | nil => rfl
  | cons item rest ih => simp [runItems, ih]

/-- When `wait_for_ruststack` returns `False`, no test function of the session runs, every item is
skipped with the fixture's message, and the session exits with 0 (5 when nothing was collected). -/
theorem runSession_not_ready (endpoint : String) (service : ProbeEnv) (t₀ fuel : Nat)
    (items : List Item) (w : World) {tEnd : Nat}
    (hwait : waitForRuststack service defaultTimeout t₀ fuel = some (.ok false, tEnd)) :
    ∃ runs, runSession endpoint service t₀ fuel items w = some runs ∧
      (∀ r ∈ runs, r.callOutcome = none ∧ r.setupOutcome = .skipped (endpointSkip endpoint)) ∧
      exitStatus runs = if items.isEmpty then 5 else 0 := by
  cases items with
  | nil => exact ⟨[], rfl, by simp, by simp [exitStatus]⟩
  | cons item rest =>
    have hall := runItems_error (endpointSkip endpoint) (item :: rest) w
    have hskip : Outcome.ofResult (.error (endpointSkip endpoint)) =
        .skipped (endpointSkip endpoint) := by
      simp [Outcome.ofResult, endpointSkip]
    refine ⟨runItems (.error (endpointSkip endpoint)) (item :: rest) w, by
      simp only [runSession, hwait, Option.map_some', ruststackEndpointSetup, throw_apply],
      fun r hr => ?_, ?_⟩
    · obtain ⟨h1, h2, -⟩ := hall r hr
      exact ⟨h1, h2.trans hskip⟩
    · have hnone : (runItems (.error (endpointSkip endpoint)) (item :: rest) w).any
          ItemRun.failed = false := by
        rw [List.any_eq_false]
        intro r hr
        obtain ⟨h1, h2, h3⟩ := hall r hr
        simp [ItemRun.failed, h1, h2, hskip, Outcome.isFailed, ItemRun.teardownOutcome, h3]
      have hne : (runItems (.error (endpointSkip endpoint)) (item :: rest) w) ≠ [] := by
        rw [← List.length_pos, runItems_length]; simp
      simp [exitStatus, hnone, hne]

open IntegrationScript in
/-- `test_health_check` raises on a first health request that raises or gets another status than
200. -/
theorem testHealthCheck_raises {w : World}
    (hdown : ∀ r, w.env.health w.next = .ok r → r.statusCode ≠ 200) :
    ∃ e, (runPy testHealthCheck w).1 = .error e := by
  cases hh : w.env.health w.next with
  | error m =>
    exact ⟨⟨.requestException, m⟩, by
      simp [runPy, testHealthCheck, bind_def, EStateM.bind, getHealth, hh]⟩
  | ok r =>
    exact ⟨⟨.assertionError, "Health check failed: " ++ toString r.statusCode⟩, by
      simp [runPy, testHealthCheck, bind_def, EStateM.bind, getHealth, hh, assertThat, hdown r hh]⟩

/-! ### When the service never becomes ready -/

end RustStackHarness.Session
