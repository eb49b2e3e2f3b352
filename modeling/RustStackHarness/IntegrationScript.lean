import RustStackHarness.Python

/-! `.github/scripts/integration_test.py`: four tests against a running service, and `main`, which
runs them in order, catches what each raises, prints a summary, and exits with 0 when none raised
and 1 otherwise.  The progress lines the tests print are left out; `main`'s own lines are kept.
`main` has no readiness gate: for every service it runs each test, and the first call of each
domain test is issued (`main_issues_domain_calls`). -/

namespace RustStackHarness.IntegrationScript

open Python

/-- `ENDPOINT_URL`. -/
def endpointUrl : String := "http://localhost:4566"

/-- `test_health_check`.  Its second message formats the decoded value as the f-string does,
with `repr`. -/
def testHealthCheck : Py Unit := do
  let response ← getHealth
  assertThat (response.statusCode == 200) ("Health check failed: " ++ toString response.statusCode)
  let data ← decodeJson response
  let status ← dictGet data "status"
  assertThat (Json.eqStr "running" status) ("Unexpected status: " ++ pyRepr data)

/-- `test_s3_operations`: on an exception, delete the object and the bucket, each in its own bare
`try`, and raise the exception again. -/
def testS3Operations : Py Unit := do
  let bucketName ← freshName "test-bucket-"
  let objectKey := "test-object.txt"
  tryExcept
    (do
      call .createBucket [bucketName]
      call .listBuckets []
      check fun d => "Bucket not found in list: " ++ d
      call .putObject [bucketName, objectKey]
      call .getObject [bucketName, objectKey]
      check fun _ => "Object content mismatch"
      call .listObjectsV2 [bucketName]
      check fun d => "Expected 1 object, got " ++ d
      check fun _ => ""
      call .deleteObject [bucketName, objectKey]
      call .deleteBucket [bucketName])
    fun e => do
      swallow (fun _ => true) (call .deleteObject [bucketName, objectKey])
      swallow (fun _ => true) (call .deleteBucket [bucketName])
      throw e

/-- `test_dynamodb_operations`: on an exception, delete the table in a bare `try` and raise the
exception again.  The half-second sleep after `create_table` is left out. -/
def testDynamodbOperations : Py Unit := do
  let tableName ← freshName "test-table-"
  tryExcept
    (do
      call .createTable [tableName]
      call .describeTable [tableName]
      check fun d => "Table not active: " ++ d
      call .putItem [tableName]
      call .getItem [tableName]
      check fun _ => "Item not found"
      check fun _ => ""
      call .query [tableName]
      check fun d => "Expected 1 item, got " ++ d
      call .updateItem [tableName]
      call .getItem [tableName]
      check fun _ => "Update failed"
      call .deleteItem [tableName]
      call .deleteTable [tableName])
    fun e => do
      swallow (fun _ => true) (call .deleteTable [tableName])
      throw e

def testLambdaApi : Py Unit := call .listFunctions []

/-! ### `main` -/

/-- A test callable: its `__name__` and what calling it does. -/
structure Test where
  name : String
  body : Py Unit

/-- `main`'s list `tests`. -/
def tests : List Test :=
  [⟨"test_health_check", testHealthCheck⟩, ⟨"test_s3_operations", testS3Operations⟩,
    ⟨"test_dynamodb_operations", testDynamodbOperations⟩, ⟨"test_lambda_api", testLambdaApi⟩]

/-- Each of the script's tests raises only `Exception`s. -/
theorem tests_raise_exceptions : ∀ t ∈ tests, RaisesOnly ExnClass.isException t.body := by
  have hc : ExnClass.isException .clientError = true := rfl
  have ha : ExnClass.isException .assertionError = true := rfl
  simp only [tests, List.mem_cons, List.mem_singleton, List.not_mem_nil, or_false]
  rintro t (rfl | rfl | rfl | rfl)
  · exact RaisesOnly.bind (RaisesOnly.getHealth rfl) fun _ =>
      RaisesOnly.bind (RaisesOnly.assertThat ha) fun _ =>
      RaisesOnly.bind (RaisesOnly.decodeJson rfl) fun _ =>
      RaisesOnly.bind (RaisesOnly.dictGet rfl) fun _ => RaisesOnly.assertThat ha
  all_goals
    simp only [testS3Operations, testDynamodbOperations, testLambdaApi]
    repeat (first
      | with_reducible exact RaisesOnly.call hc | with_reducible exact RaisesOnly.check ha
      | with_reducible exact RaisesOnly.freshName | with_reducible exact RaisesOnly.throw ‹_›
      | with_reducible refine RaisesOnly.bind ?_ fun _ => ?_
      | with_reducible refine RaisesOnly.tryExcept ?_ fun _ _ _ => ?_
      | with_reducible refine RaisesOnly.swallow ?_)

/-- `"=" * 60`. -/
def rule : String := String.mk (List.replicate 60 '=')

/-- The lines `main` prints before the first test. -/
def headerLines : List String :=
  [rule, "RustStack Integration Tests", rule, "Endpoint: " ++ endpointUrl, ""]

/-- The line `main` prints for a test that raised `e`. -/
def failureLine (name : String) (e : Exn) : String := "✗ " ++ name ++ " FAILED: " ++ e.msg

/-- One iteration of `main`'s loop: call the test; on an `Exception`, print it and append
`(test.__name__, str(e))` to `failed`. -/
def runTest (failed : List (String × String)) (test : Test) : Py (List (String × String)) :=
  tryExcept
    (do
      test.body
      print ""
      pure failed)
    fun e => do
      print (failureLine test.name e)
      print ""
      pure (failed ++ [(test.name, e.msg)])

/-- The lines after the loop, from `"=" * 60` on, and the exit code. -/
def summary (total : Nat) (failed : List (String × String)) : Py Nat := do
  print rule
  if failed ≠ [] then
    print ("FAILED: " ++ toString failed.length ++ "/" ++ toString total ++ " tests")
    failed.forM fun (name, error) => print ("  - " ++ name ++ ": " ++ error)
    pure 1
  else
    print ("PASSED: " ++ toString total ++ "/" ++ toString total ++ " tests")
    pure 0

/-- `main`, with its list of tests as a parameter; `sys.exit(code)` is its result. -/
def main (tests : List Test) : Py Nat := do
  headerLines.forM print
  let failed ← tests.foldlM runTest []
  summary tests.length failed

/-! ### What `main` computes -/

/-- The lines `main` prints after a test returned or raised. -/
def reportLines (name : String) : Except Exn Unit → List String
  | .ok () => [""]
  | .error e => [failureLine name e, ""]

/-- The run `main` is meant to make: each test once, in order, each from the world the one before
left and whatever its outcome, with the lines `main` prints about it. -/
def runAll : List Test → World → List (String × Except Exn Unit) × World
  | [], w => ([], w)
  | t :: ts, w =>
    let r := runPy t.body w
    let rest := runAll ts (r.2.emit (reportLines t.name r.1))
    ((t.name, r.1) :: rest.1, rest.2)

/-- `(name, str(e))` for each outcome that is an exception, in order. -/
def failures (outcomes : List (String × Except Exn Unit)) : List (String × String) :=
  outcomes.filterMap fun
    | (_, .ok ()) => none
    | (name, .error e) => some (name, e.msg)

/-- The lines `main` prints from `"=" * 60` on. -/
def summaryLines (total : Nat) (failed : List (String × String)) : List String :=
  rule :: if failed ≠ [] then
    ("FAILED: " ++ toString failed.length ++ "/" ++ toString total ++ " tests") ::
      failed.map fun (name, error) => "  - " ++ name ++ ": " ++ error
  else ["PASSED: " ++ toString total ++ "/" ++ toString total ++ " tests"]

theorem runAll_names (tests : List Test) (w : World) :
    (runAll tests w).1.map Prod.fst = tests.map Test.name := by
  induction tests generalizing w with
  | nil => rfl
  | cons t ts ih => simp [runAll, ih]

/-- One iteration of the loop, for a test that raises only `Exception`s. -/
theorem runTest_apply {t : Test} (ht : RaisesOnly ExnClass.isException t.body)
    (failed : List (String × String)) (w : World) :
    runTest failed t w =
      .ok (failed ++ failures [(t.name, (runPy t.body w).1)])
        ((runPy t.body w).2.emit (reportLines t.name (runPy t.body w).1)) := by
  cases hb : t.body w with
  | ok a w' =>
    simp only [runTest, tryExcept, runPy, hb, bind_def, EStateM.bind, print_apply, pure_apply,
      reportLines, failures, List.filterMap_cons, List.filterMap_nil, List.append_nil]
  | error e w' =>
    simp only [runTest, tryExcept, runPy, hb, ht _ _ _ hb, bind_def, EStateM.bind, print_apply,
      pure_apply, reportLines, failures, List.filterMap_cons, List.filterMap_nil, ite_true,
      World.emit_emit, List.singleton_append]

/-- The loop makes the run `runAll` describes, and `failed` holds its failures. -/
theorem foldlM_runTest {ts : List Test} (hexc : ∀ t ∈ ts, RaisesOnly ExnClass.isException t.body)
    (failed : List (String × String)) (w : World) :
    ts.foldlM runTest failed w = .ok (failed ++ failures (runAll ts w).1) (runAll ts w).2 := by
  induction ts generalizing failed w with
  | nil => simp [runAll, failures]
  | cons t ts ih =>
    rw [foldlM_cons, bind_ok (runTest_apply (hexc t (List.mem_cons_self t ts)) failed w),
      ih (fun t' ht' => hexc t' (List.mem_cons_of_mem t ht'))]
    simp only [runAll]
    generalize runPy t.body w = r
    obtain ⟨o, w'⟩ := r
    cases o <;> simp [failures]

theorem summary_apply (total : Nat) (failed : List (String × String)) (w : World) :
    summary total failed w = .ok (if failed = [] then 0 else 1) (w.emit (summaryLines total failed)) := by
  by_cases h : failed = []
  · subst h; simp [summary, summaryLines, bind_def, EStateM.bind]
  · simp [summary, summaryLines, h, bind_def, EStateM.bind, forM_print]

theorem failures_eq_nil_iff (outcomes : List (String × Except Exn Unit)) :
    failures outcomes = [] ↔ ∀ o ∈ outcomes, o.2 = .ok () := by
  rw [failures, List.filterMap_eq_nil_iff]
  exact forall₂_congr fun ⟨_, r⟩ _ => by cases r <;> simp

/-- `main` prints its header, makes the run `runAll` describes, prints the summary and returns the
exit code. -/
theorem main_apply {tests : List Test} (hexc : ∀ t ∈ tests, RaisesOnly ExnClass.isException t.body)
    (w : World) :
    main tests w =
      .ok (if failures (runAll tests (w.emit headerLines)).1 = [] then 0 else 1)
        ((runAll tests (w.emit headerLines)).2.emit
          (summaryLines tests.length (failures (runAll tests (w.emit headerLines)).1))) := by
  have hheader : headerLines.forM print w = .ok () (w.emit headerLines) := by
    simpa using forM_print (fun l => l) headerLines w
  have hloop := foldlM_runTest hexc [] (w.emit headerLines)
  rw [List.nil_append] at hloop
  rw [main, bind_ok hheader, bind_ok hloop, summary_apply]

/-- For every list of tests that raise only `Exception`s, and every world: `main` makes the run
`runAll` describes, every test once, in list order, whatever the earlier ones did; `failed` holds
`(test.__name__, str(e))` for exactly the tests that raised, in order; the summary reports
`len(failed)` out of `len(tests)`; and the exit code is 0 exactly when no test raised. -/
theorem main_spec (tests : List Test) (hexc : ∀ t ∈ tests, RaisesOnly ExnClass.isException t.body)
    (w : World) :
    let run := runAll tests (w.emit headerLines)
    run.1.map Prod.fst = tests.map Test.name ∧
      tests.foldlM runTest [] (w.emit headerLines) = .ok (failures run.1) run.2 ∧
      main tests w = .ok (if failures run.1 = [] then 0 else 1)
        (run.2.emit (summaryLines tests.length (failures run.1))) ∧
      (failures run.1 = [] ↔ ∀ o ∈ run.1, o.2 = .ok ()) :=
  ⟨runAll_names _ _, by simpa using foldlM_runTest hexc [] (w.emit headerLines), main_apply hexc w,
    failures_eq_nil_iff _⟩

/-- `main` on the script's own tests, with the service down. -/
theorem main_spec_script :
    (∀ t ∈ tests, RaisesOnly ExnClass.isException t.body) ∧
      let run := runAll tests ((World.mk serviceDown [] []).emit headerLines)
      run.1.map Prod.fst = tests.map Test.name ∧
        tests.foldlM runTest [] ((World.mk serviceDown [] []).emit headerLines) =
          .ok (failures run.1) run.2 ∧
        main tests ⟨serviceDown, [], []⟩ = .ok (if failures run.1 = [] then 0 else 1)
          (run.2.emit (summaryLines tests.length (failures run.1))) ∧
        (failures run.1 = [] ↔ ∀ o ∈ run.1, o.2 = .ok ()) :=
  ⟨tests_raise_exceptions, main_spec tests tests_raise_exceptions ⟨serviceDown, [], []⟩⟩

/-! ### Every test runs -/

/-- Each of the script's tests keeps the events issued before it. -/
theorem tests_append : ∀ t ∈ tests, Appends (fun _ => True) t.body := by
  simp only [tests, List.mem_cons, List.mem_singleton, List.not_mem_nil, or_false]
  rintro t (rfl | rfl | rfl | rfl) <;>
    simp only [testHealthCheck, testS3Operations, testDynamodbOperations, testLambdaApi] <;>
    repeat (first
      | with_reducible exact Appends.call fun _ => trivial
      | with_reducible exact Appends.check fun _ => trivial
      | with_reducible exact Appends.assertThat
      | with_reducible exact Appends.decodeJson
      | with_reducible exact Appends.dictGet
      | with_reducible exact Appends.throw _
      | with_reducible exact Appends.getHealth fun _ => trivial
      | with_reducible exact Appends.freshName fun _ => trivial
      | with_reducible refine Appends.bind ?_ fun _ => ?_
      | with_reducible refine Appends.tryExcept ?_ fun _ => ?_
      | with_reducible refine Appends.swallow ?_)

/-- The first remote call of each domain test is issued whatever the service does: it is the
first statement of the test's `try`, or the whole test. -/
theorem domain_tests_issue :
    Issues (fun e => ∃ b ok, e = .call .createBucket [b] ok) testS3Operations ∧
      Issues (fun e => ∃ t ok, e = .call .createTable [t] ok) testDynamodbOperations ∧
      Issues (fun e => ∃ ok, e = .call .listFunctions [] ok) testLambdaApi := by
  refine ⟨Issues.freshName_bind fun b => ?_, Issues.freshName_bind fun t => ?_,
    Issues.call fun ok => ⟨ok, rfl⟩⟩
  all_goals
    refine Issues.tryExcept (Issues.bind_left (Issues.call fun ok => ⟨_, ok, rfl⟩) fun _ => ?_)
      fun _ => ?_
    repeat (first
      | with_reducible exact Appends.call fun _ => trivial
      | with_reducible exact Appends.check fun _ => trivial
      | with_reducible exact Appends.throw _
      | with_reducible refine Appends.bind ?_ fun _ => ?_
      | with_reducible refine Appends.swallow ?_)

theorem runAll_appends {ts : List Test} (happ : ∀ t ∈ ts, Appends (fun _ => True) t.body)
    (w : World) : ∃ es, (runAll ts w).2.trace = w.trace ++ es := by
  induction ts generalizing w with
  | nil => exact ⟨[], by simp [runAll]⟩
  | cons t ts ih =>
    obtain ⟨es, hes, -⟩ := happ t (List.mem_cons_self t ts) w
    obtain ⟨es', hes'⟩ := ih (fun t' ht' => happ t' (List.mem_cons_of_mem t ht'))
      ((runPy t.body w).2.emit (reportLines t.name (runPy t.body w).1))
    refine ⟨es ++ es', ?_⟩
    simp only [runAll]
    rw [hes', World.emit_trace, runPy_world, hes, List.append_assoc]

/-- What any test of the list issues is in the trace of the whole run: `runAll` runs every test,
whatever the ones before it did. -/
theorem runAll_issues {P : Event → Prop} {ts : List Test}
    (happ : ∀ t ∈ ts, Appends (fun _ => True) t.body) {t : Test} (ht : t ∈ ts)
    (hi : Issues P t.body) (w : World) : ∃ e ∈ (runAll ts w).2.trace, P e := by
  induction ts generalizing w with
  | nil => cases ht
  | cons t' ts ih =>
    have happ' : ∀ t ∈ ts, Appends (fun _ => True) t.body :=
      fun t' ht' => happ t' (List.mem_cons_of_mem _ ht')
    rcases List.mem_cons.mp ht with rfl | ht
    · obtain ⟨es, hes, e, he, hp⟩ := hi w
      obtain ⟨es', hes'⟩ := runAll_appends happ' ((runPy t.body w).2.emit (reportLines t.name (runPy t.body w).1))
      refine ⟨e, ?_, hp⟩
      simp only [runAll]
      rw [hes', World.emit_trace, runPy_world, hes]
      simp [he]
    · exact ih happ' ht _

/-- For every service, `main` runs each test of its list: the final trace holds the first call of
each domain test. -/
theorem main_issues_domain_calls (w : World) :
    ∃ w', main tests w = .ok (if failures (runAll tests (w.emit headerLines)).1 = [] then 0 else 1) w' ∧
      (∃ b ok, Event.call .createBucket [b] ok ∈ w'.trace) ∧
      (∃ t ok, Event.call .createTable [t] ok ∈ w'.trace) ∧
      ∃ ok, Event.call .listFunctions [] ok ∈ w'.trace := by
  obtain ⟨hs3, hddb, hlam⟩ := domain_tests_issue
  have hrun := fun {P : Event → Prop} (t : Test) (ht : t ∈ tests) (hi : Issues P t.body) =>
    runAll_issues tests_append ht hi (w.emit headerLines)
  obtain ⟨_, he₁, b, ok₁, rfl⟩ := hrun ⟨"test_s3_operations", testS3Operations⟩ (by simp [tests]) hs3
  obtain ⟨_, he₂, t, ok₂, rfl⟩ :=
    hrun ⟨"test_dynamodb_operations", testDynamodbOperations⟩ (by simp [tests]) hddb
  obtain ⟨_, he₃, ok₃, rfl⟩ := hrun ⟨"test_lambda_api", testLambdaApi⟩ (by simp [tests]) hlam
  exact ⟨_, main_apply tests_raise_exceptions w, ⟨b, ok₁, he₁⟩, ⟨t, ok₂, he₂⟩, ok₃, he₃⟩

end RustStackHarness.IntegrationScript
