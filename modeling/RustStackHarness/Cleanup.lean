import RustStackHarness.ExampleSuite

/-! Cleanup in the example suite.  `test_bucket_lifecycle` has no `try`: when the assertion on the
listing fails, the test ends with its bucket created and never deleted
(`bucketLifecycle_leaks_bucket`).  The Firehose tests delete their stream in a `finally` whose call
is not guarded: when that delete raises, its exception replaces the test's outcome, and
`test_put_record` fails although every check passed (`putRecord_fails_on_cleanup`). -/

namespace RustStackHarness.Cleanup

open Python Pytest Conftest ExampleSuite

/-! ### A test without `try` -/

/-- The service lists the buckets without the one just created. -/
def bucketMissingFromList : Env where
  fault k := if k = 3 then some "Bucket not found in list" else none
  listing _ := []
  ident _ := "00000000"
  health _ := .error "unused"

/-- pytest's run of `test_bucket_lifecycle` there. -/
def bucketLifecycleRun : ItemRun Fixture :=
  runItem fixtures resolutionDepth [] (fun _ => testBucketLifecycle) ⟨bucketMissingFromList, [], []⟩

/-- There `test_bucket_lifecycle` creates its bucket, fails, and never deletes it. -/
theorem bucketLifecycle_leaks_bucket :
    Event.call .createBucket ["test-00000000"] true ∈ bucketLifecycleRun.world.trace ∧
      (∀ ok, Event.call .deleteBucket ["test-00000000"] ok ∉ bucketLifecycleRun.world.trace) := by
  decide

/-! ### Tests with an unguarded `finally` -/

/-- Every call and assertion succeeds except the `finally` block's `delete_delivery_stream`. -/
def streamDeleteFails : Env where
  fault k := if k = 7 then some "ResourceInUseException" else none
  listing _ := []
  ident _ := "00000000"
  health _ := .error "unused"

/-- pytest's run of `test_put_record` there. -/
def putRecordRun : ItemRun Fixture :=
  runItem fixtures resolutionDepth [.s3Bucket] (fun c => testPutRecord (arg c .s3Bucket))
    ⟨streamDeleteFails, [], []⟩

/-- There `test_put_record` passes every check and fails with the cleanup's error. -/
theorem putRecord_fails_on_cleanup :
    Event.check false ∉ putRecordRun.world.trace ∧ Event.check true ∈ putRecordRun.world.trace ∧
      putRecordRun.callOutcome = some (.failed ⟨.clientError, "ResourceInUseException"⟩) :=
  ⟨by decide, by decide, rfl⟩

end RustStackHarness.Cleanup
