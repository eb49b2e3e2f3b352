import RustStackHarness.Conftest

/-! `examples/test_integration.py`: the test methods, each given the values of the conftest fixtures
it requests, and the items pytest collects from them.  Assertions over values the model does not
represent are decided by the environment; a `try`/`finally` is `withFinally`. -/

namespace RustStackHarness.ExampleSuite

open Python Pytest Conftest

/-- The message with which the service reports a missing key. -/
def noSuchKey : String := "NoSuchKey"

/-- `with pytest.raises(s3_client.exceptions.NoSuchKey): s3_client.get_object(...)`: the call must
raise `NoSuchKey`; another exception passes through, and a call that returns fails the test. -/
def expectNoSuchKey (bucket key : String) : Py Unit := fun w =>
  match request .getObject [bucket, key] w with
  | .ok _ w' => .error ⟨.failed, "DID NOT RAISE NoSuchKey"⟩ w'
  | .error e w' => if e.msg = noSuchKey then .ok () w' else .error e w'

def testBucketLifecycle : Py Unit := do
  let bucketName ← freshName "test-"
  call .createBucket [bucketName]
  call .listBuckets []
  check fun _ => ""
  call .deleteBucket [bucketName]
  call .listBuckets []
  check fun _ => ""

def testObjectCrud (s3Bucket : String) : Py Unit := do
  let key := "test-object.txt"
  call .putObject [s3Bucket, key]
  call .getObject [s3Bucket, key]
  check fun _ => ""
  call .deleteObject [s3Bucket, key]
  expectNoSuchKey s3Bucket key

def testListObjectsWithPrefix (s3Bucket : String) : Py Unit := do
  call .putObject [s3Bucket, "docs/file1.txt"]
  call .putObject [s3Bucket, "docs/file2.txt"]
  call .putObject [s3Bucket, "images/pic.png"]
  call .listObjectsV2 [s3Bucket]
  check fun _ => ""
  check fun _ => ""
  check fun _ => ""

def testTableLifecycle : Py Unit := do
  let tableName ← freshName "test-"
  call .createTable [tableName]
  call .describeTable [tableName]
  check fun _ => ""
  call .deleteTable [tableName]

def testItemCrud (dynamodbTable : String) : Py Unit := do
  call .putItem [dynamodbTable]
  call .getItem [dynamodbTable]
  check fun _ => ""
  call .updateItem [dynamodbTable]
  call .getItem [dynamodbTable]
  check fun _ => ""
  call .deleteItem [dynamodbTable]

def testQueryWithConditions (dynamodbTable : String) : Py Unit := do
  (List.range 5).forM fun _ => call .putItem [dynamodbTable]
  call .query [dynamodbTable]
  check fun _ => ""

def testSecretLifecycle : Py Unit := do
  let secretName ← freshName "test-"
  call .createSecret [secretName]
  call .getSecretValue [secretName]
  check fun _ => ""
  call .putSecretValue [secretName]
  call .getSecretValue [secretName]
  check fun _ => ""
  call .deleteSecret [secretName]

def testSecretVersioning (secret : String) : Py Unit := do
  call .getSecretValue [secret]
  call .putSecretValue [secret]
  call .getSecretValue [secret]
  check fun _ => ""
  check fun _ => ""

def testRoleLifecycle : Py Unit := do
  let roleName ← freshName "test-"
  call .createRole [roleName]
  check fun _ => ""
  call .getRole [roleName]
  check fun _ => ""
  call .deleteRole [roleName]

def testPolicyAttachment (iamRole : String) : Py Unit := do
  let policyName ← freshName "test-policy-"
  let policyResponse ← request .createPolicy [policyName]
  let policyArn := policyResponse.ident
  withFinally
    (do
      call .attachRolePolicy [iamRole, policyArn]
      call .listAttachedRolePolicies [iamRole]
      check fun _ => ""
      call .detachRolePolicy [iamRole, policyArn])
    (call .deletePolicy [policyArn])

def testApiLifecycle : Py Unit := do
  let apiName ← freshName "test-"
  let response ← request .createApi [apiName]
  let apiId := response.ident
  withFinally
    (do
      check fun _ => ""
      check fun _ => ""
      call .getApi [apiId]
      check fun _ => "")
    (call .deleteApi [apiId])

def testRouteAndIntegration (httpApi : String) : Py Unit := do
  let intResponse ← request .createIntegration [httpApi]
  call .createRoute [httpApi, "GET /test", "integrations/" ++ intResponse.ident]
  check fun _ => ""
  call .getRoutes [httpApi]
  check fun _ => ""

def testStageManagement (httpApi : String) : Py Unit := do
  call .createStage [httpApi, "prod"]
  check fun _ => ""
  check fun _ => ""
  call .getStage [httpApi, "prod"]
  check fun _ => ""
  call .getStages [httpApi]
  check fun _ => ""

/-- The Firehose tests: create a delivery stream into the bucket, then run `body` on it in a `try`
whose `finally` deletes the stream. -/
def streamTest (body : String → Py Unit) (s3Bucket : String) : Py Unit := do
  let streamName ← freshName "test-"
  call .createDeliveryStream [streamName, "arn:aws:s3:::" ++ s3Bucket]
  withFinally (body streamName) (call .deleteDeliveryStream [streamName])

def testDeliveryStreamLifecycle : String → Py Unit :=
  streamTest fun streamName => do
    call .describeDeliveryStream [streamName]
    check fun _ => ""
    check fun _ => ""
    call .listDeliveryStreams []
    check fun _ => ""

def testPutRecord : String → Py Unit :=
  streamTest fun streamName => do
    call .putRecord [streamName]
    check fun _ => ""
    check fun _ => ""

def testPutRecordBatch : String → Py Unit :=
  streamTest fun streamName => do
    call .putRecordBatch [streamName]
    check fun _ => ""
    check fun _ => ""

def testLogGroupLifecycle : Py Unit := do
  let groupName ← freshName "/test/"
  call .createLogGroup [groupName]
  withFinally
    (do
      call .describeLogGroups [groupName]
      check fun _ => "")
    (call .deleteLogGroup [groupName])

def testLogEvents : Py Unit := do
  let groupName ← freshName "/test/"
  let streamName := "test-stream"
  call .createLogGroup [groupName]
  call .createLogStream [groupName, streamName]
  withFinally
    (do
      call .putLogEvents [groupName, streamName]
      call .getLogEvents [groupName, streamName]
      check fun _ => ""
      check fun _ => "")
    (call .deleteLogGroup [groupName])

/-! ### The collected items -/

/-- A collected test: its node id, the function-scoped fixtures it requests, and the test function
given the values pytest passes. -/
structure Item where
  name : String
  requested : List Fixture
  body : List (Fixture × String) → Py Unit

/-- The value pytest passes for the fixture `f`. -/
def arg (created : List (Fixture × String)) (f : Fixture) : String := (created.lookup f).getD ""

def items : List Item :=
  [⟨"TestS3::test_bucket_lifecycle", [], fun _ => testBucketLifecycle⟩,
    ⟨"TestS3::test_object_crud", [.s3Bucket], fun c => testObjectCrud (arg c .s3Bucket)⟩,
    ⟨"TestS3::test_list_objects_with_prefix", [.s3Bucket],
      fun c => testListObjectsWithPrefix (arg c .s3Bucket)⟩,
    ⟨"TestDynamoDB::test_table_lifecycle", [], fun _ => testTableLifecycle⟩,
    ⟨"TestDynamoDB::test_item_crud", [.dynamodbTable], fun c => testItemCrud (arg c .dynamodbTable)⟩,
    ⟨"TestDynamoDB::test_query_with_conditions", [.dynamodbTable],
      fun c => testQueryWithConditions (arg c .dynamodbTable)⟩,
    ⟨"TestSecretsManager::test_secret_lifecycle", [], fun _ => testSecretLifecycle⟩,
    ⟨"TestSecretsManager::test_secret_versioning", [.secret],
      fun c => testSecretVersioning (arg c .secret)⟩,
    ⟨"TestIAM::test_role_lifecycle", [], fun _ => testRoleLifecycle⟩,
    ⟨"TestIAM::test_policy_attachment", [.iamRole], fun c => testPolicyAttachment (arg c .iamRole)⟩,
    ⟨"TestAPIGatewayV2::test_api_lifecycle", [], fun _ => testApiLifecycle⟩,
    ⟨"TestAPIGatewayV2::test_route_and_integration", [.httpApi],
      fun c => testRouteAndIntegration (arg c .httpApi)⟩,
    ⟨"TestAPIGatewayV2::test_stage_management", [.httpApi],
      fun c => testStageManagement (arg c .httpApi)⟩,
    ⟨"TestFirehose::test_delivery_stream_lifecycle", [.s3Bucket],
      fun c => testDeliveryStreamLifecycle (arg c .s3Bucket)⟩,
    ⟨"TestFirehose::test_put_record", [.s3Bucket], fun c => testPutRecord (arg c .s3Bucket)⟩,
    ⟨"TestFirehose::test_put_record_batch", [.s3Bucket],
      fun c => testPutRecordBatch (arg c .s3Bucket)⟩,
    ⟨"TestCloudWatchLogs::test_log_group_lifecycle", [], fun _ => testLogGroupLifecycle⟩,
    ⟨"TestCloudWatchLogs::test_log_events", [], fun _ => testLogEvents⟩]

/-- pytest's run of an item of this file. -/
def Item.run (item : Item) (w : World) : ItemRun Fixture :=
  runItem fixtures resolutionDepth item.requested item.body w

end RustStackHarness.ExampleSuite
