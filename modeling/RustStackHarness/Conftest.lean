import RustStackHarness.Pytest

/-! conftest.py's function-scoped fixtures.  Each is a generator: the part before `yield` creates
one resource under a fresh name and yields its identifier, and the part after it deletes the
resource inside one `try`/`except Exception: pass`.  The session-scoped clients are not values
here: a call names its operation, and building a boto3 client makes no network call. -/

namespace RustStackHarness.Conftest

open Python Pytest

/-- A fixture that creates one resource under a fresh name, passing `refs` along, and yields the
name. -/
def createNamed (pre : String) (create : Op) (refs : List String) : Py String := do
  let name ← freshName pre
  call create (name :: refs)
  pure name

def s3BucketSetup : Py String := createNamed "test-bucket-" .createBucket []

def dynamodbTableSetup : Py String := createNamed "test-table-" .createTable []

def secretSetup : Py String := createNamed "test-secret-" .createSecret []

def iamRoleSetup : Py String := createNamed "test-role-" .createRole []

/-- `delivery_stream` passes the ARN of its bucket to the create call. -/
def deliveryStreamSetup (s3Bucket : String) : Py String :=
  createNamed "test-stream-" .createDeliveryStream ["arn:aws:s3:::" ++ s3Bucket]

/-- `http_api` yields the identifier the service assigns, not the name it chose. -/
def httpApiSetup : Py String := do
  let apiName ← freshName "test-api-"
  let response ← request .createApi [apiName]
  pure response.ident

/-- A teardown that deletes one resource inside `try`/`except Exception: pass`. -/
def deleteQuietly (delete : Op) (ident : String) : Py Unit :=
  swallow ExnClass.isException (call delete [ident])

def dynamodbTableTeardown : String → Py Unit := deleteQuietly .deleteTable

def secretTeardown : String → Py Unit := deleteQuietly .deleteSecret

def httpApiTeardown : String → Py Unit := deleteQuietly .deleteApi

def deliveryStreamTeardown : String → Py Unit := deleteQuietly .deleteDeliveryStream

/-- A teardown that lists a resource's children once, removes each, then deletes the resource,
all inside one `try`/`except Exception: pass`. -/
def drainThenDelete (list removeChild delete : Op) (ident : String) : Py Unit :=
  swallow ExnClass.isException do
    let response ← request list [ident]
    response.listing.forM fun child => call removeChild [ident, child]
    call delete [ident]

/-- `s3_bucket` after `yield`: `list_objects_v2`, `delete_object` for each listed key, then
`delete_bucket`. -/
def s3BucketTeardown : String → Py Unit :=
  drainThenDelete .listObjectsV2 .deleteObject .deleteBucket

/-- `iam_role` after `yield`: `list_attached_role_policies`, `detach_role_policy` for each listed
policy, then `delete_role`. -/
def iamRoleTeardown : String → Py Unit :=
  drainThenDelete .listAttachedRolePolicies .detachRolePolicy .deleteRole

/-- The function-scoped fixtures of conftest.py. -/
inductive Fixture
  | s3Bucket | dynamodbTable | secret | iamRole | httpApi | deliveryStream
  deriving DecidableEq, Repr

/-- Each fixture as pytest holds it; `delivery_stream` is the one that requests another
function-scoped fixture. -/
def fixtures : Fixture → FixtureDef Fixture
  | .s3Bucket => ⟨[], fun _ => s3BucketSetup, s3BucketTeardown⟩
  | .dynamodbTable => ⟨[], fun _ => dynamodbTableSetup, dynamodbTableTeardown⟩
  | .secret => ⟨[], fun _ => secretSetup, secretTeardown⟩
  | .iamRole => ⟨[], fun _ => iamRoleSetup, iamRoleTeardown⟩
  | .httpApi => ⟨[], fun _ => httpApiSetup, httpApiTeardown⟩
  | .deliveryStream =>
    ⟨[.s3Bucket], fun vals => deliveryStreamSetup (vals.headD ""), deliveryStreamTeardown⟩

/-- The length of the longest dependency chain among the fixtures. -/
def Fixture.rank : Fixture → Nat
  | .deliveryStream => 1
  | _ => 0

/-- A bound on the recursion of resolution, above every rank. -/
def resolutionDepth : Nat := 2

/-! ### Each setup creates once, each teardown never raises -/

theorem createNamed_createsOnce (pre : String) (create : Op) (refs : List String) :
    CreatesOnce (createNamed pre create refs) := by
  intro w
  set hex := (w.env.ident w.next).take 8
  have h1 : (w.log (.uuid hex)).env.fault (w.log (.uuid hex)).next = w.env.fault (w.next + 1) := by
    simp
  cases hf : w.env.fault (w.next + 1) with
  | none =>
    refine ⟨(w.log (.uuid hex)).log (.call create ((pre ++ hex) :: refs) true), rfl, by simp,
      pre ++ hex, ?_⟩
    simp only [createNamed, freshName, bind_def, EStateM.bind, uuidHex_apply, pure_apply,
      call_ok (h1.trans hf)]
  | some m =>
    refine ⟨(w.log (.uuid hex)).log (.call create ((pre ++ hex) :: refs) false), rfl, by simp, ?_⟩
    simp only [createNamed, freshName, bind_def, EStateM.bind, uuidHex_apply, pure_apply,
      call_error (h1.trans hf)]

theorem httpApiSetup_createsOnce : CreatesOnce httpApiSetup := by
  intro w
  set hex := (w.env.ident w.next).take 8
  have h1 : (w.log (.uuid hex)).env.fault (w.log (.uuid hex)).next = w.env.fault (w.next + 1) := by
    simp
  cases hf : w.env.fault (w.next + 1) with
  | none =>
    refine ⟨(w.log (.uuid hex)).log (.call .createApi ["test-api-" ++ hex] true), rfl, by simp,
      w.env.ident (w.next + 1), ?_⟩
    simp only [httpApiSetup, freshName, bind_def, EStateM.bind, uuidHex_apply, pure_apply,
      request_ok (h1.trans hf), World.log_env, World.next_log]
  | some m =>
    refine ⟨(w.log (.uuid hex)).log (.call .createApi ["test-api-" ++ hex] false), rfl, by simp, ?_⟩
    simp only [httpApiSetup, freshName, bind_def, EStateM.bind, uuidHex_apply, pure_apply,
      request_error (h1.trans hf)]

theorem fixtures_createsOnce (f : Fixture) (vals : List String) :
    CreatesOnce ((fixtures f).setup vals) := by
  cases f
  case httpApi => exact httpApiSetup_createsOnce
  all_goals exact createNamed_createsOnce _ _ _

theorem deleteQuietly_ok (delete : Op) (ident : String) (w : World) :
    ∃ w', deleteQuietly delete ident w = .ok () w' :=
  swallow_ok (RaisesOnly.call rfl) w

theorem drainThenDelete_ok (list removeChild delete : Op) (ident : String) (w : World) :
    ∃ w', drainThenDelete list removeChild delete ident w = .ok () w' :=
  swallow_ok (RaisesOnly.bind (RaisesOnly.request rfl) fun _ =>
    RaisesOnly.bind (RaisesOnly.forM fun _ => RaisesOnly.call rfl) fun _ =>
      RaisesOnly.call rfl) w

/-- No teardown of conftest raises. -/
theorem fixtures_teardown_ok (f : Fixture) (v : String) (w : World) :
    ∃ w', (fixtures f).teardown v w = .ok () w' := by
  cases f
  case s3Bucket | iamRole => exact drainThenDelete_ok _ _ _ _ w
  all_goals exact deleteQuietly_ok _ _ w

/-! ### What each teardown issues -/

/-- The events of a teardown that deletes one resource: the delete call on it. -/
def DeleteEvents (delete : Op) (ident : String) (es : List Event) : Prop :=
  ∃ ok, es = [.call delete [ident] ok]

/-- The events of a drain-then-delete teardown: the listing call first, then removals of the
resource's children and its delete. -/
def DrainEvents (list removeChild delete : Op) (ident : String) (es : List Event) : Prop :=
  ∃ ok rest, es = .call list [ident] ok :: rest ∧
    ∀ e ∈ rest, (∃ child ok, e = .call removeChild [ident, child] ok) ∨ ∃ ok, e = .call delete [ident] ok

/-- What the teardown of each fixture issues on the value it yielded. -/
def TeardownEvents : Fixture → String → List Event → Prop
  | .s3Bucket => DrainEvents .listObjectsV2 .deleteObject .deleteBucket
  | .iamRole => DrainEvents .listAttachedRolePolicies .detachRolePolicy .deleteRole
  | .dynamodbTable => DeleteEvents .deleteTable
  | .secret => DeleteEvents .deleteSecret
  | .httpApi => DeleteEvents .deleteApi
  | .deliveryStream => DeleteEvents .deleteDeliveryStream

theorem deleteQuietly_events (delete : Op) (ident : String) (w : World) :
    ∃ seg, (after (deleteQuietly delete ident) w).trace = w.trace ++ seg ∧
      DeleteEvents delete ident seg := by
  cases hf : w.env.fault w.next with
  | none =>
    exact ⟨_, by rw [deleteQuietly, after_swallow, after_of_ok (call_ok hf)]; rfl, true, rfl⟩
  | some m =>
    exact ⟨_, by rw [deleteQuietly, after_swallow, after_of_error (call_error hf)]; rfl, false, rfl⟩

theorem drainThenDelete_events (list removeChild delete : Op) (ident : String) (w : World) :
    ∃ seg, (after (drainThenDelete list removeChild delete ident) w).trace = w.trace ++ seg ∧
      DrainEvents list removeChild delete ident seg := by
  rw [drainThenDelete, after_swallow]
  obtain ⟨ok, rest, h, hq⟩ := @request_bind_trace _
    (fun e => (∃ child ok, e = .call removeChild [ident, child] ok) ∨ ∃ ok, e = .call delete [ident] ok)
    _ _ _ (fun _ => Appends.bind (Appends.forM fun child => Appends.call fun ok => .inl ⟨child, ok, rfl⟩)
      fun _ => Appends.call fun ok => .inr ⟨ok, rfl⟩) w
  exact ⟨_, h, ok, rest, rfl, hq⟩

theorem fixtures_teardown_events (f : Fixture) (v : String) (w : World) :
    ∃ seg, (after ((fixtures f).teardown v) w).trace = w.trace ++ seg ∧ TeardownEvents f v seg := by
  cases f
  case s3Bucket | iamRole => exact drainThenDelete_events _ _ _ v w
  all_goals exact deleteQuietly_events _ v w

theorem fixtures_rank (f : Fixture) : ∀ g ∈ (fixtures f).deps, g.rank < f.rank := by
  cases f <;> simp [fixtures, Fixture.rank]

/-- For every list of requested fixtures, pytest sets each of conftest.py's fixtures up at most once:
`delivery_stream` and a test that both request `s3_bucket` share one bucket. -/
theorem fixtures_set_up_once (requested : List Fixture) :
    (setupOrder fixtures resolutionDepth requested).Nodup :=
  setupOrder_nodup Fixture.rank fixtures_rank resolutionDepth requested

/-! ### A test item under pytest -/

/-- A delivery stream and its bucket, both set up: in the teardown phase the stream's delete comes
before every call of the bucket's drain-then-delete. -/
theorem stream_before_bucket {created : List (Fixture × String)}
    (hdeps : DepsFirst fixtures (created.map Prod.fst))
    (hds : Fixture.deliveryStream ∈ created.map Prod.fst) {es : List Event}
    (hes : Segments TeardownEvents created.reverse es) :
    ∃ s b pre ok mid seg post, (Fixture.deliveryStream, s) ∈ created ∧
      (Fixture.s3Bucket, b) ∈ created ∧
      es = pre ++ [.call .deleteDeliveryStream [s] ok] ++ mid ++ seg ++ post ∧
      DrainEvents .listObjectsV2 .deleteObject .deleteBucket b seg := by
  obtain ⟨l, hl, hmap⟩ := List.sublist_map_iff.mp
    (hdeps.dep_before hds (List.mem_singleton_self Fixture.s3Bucket)
      (by decide : Fixture.s3Bucket ≠ Fixture.deliveryStream))
  obtain ⟨⟨_, b⟩, l₁, rfl, rfl, hl₁⟩ := List.map_eq_cons_iff.mp hmap.symm
  obtain ⟨⟨_, s⟩, l₂, rfl, rfl, hl₂⟩ := List.map_eq_cons_iff.mp hl₁
  obtain rfl := List.map_eq_nil_iff.mp hl₂
  obtain ⟨pre, seg₁, mid, seg, post, rfl, ⟨ok, rfl⟩, hseg⟩ := hes.pair hl.reverse
  exact ⟨s, b, pre, ok, mid, seg, post, hl.subset (by simp), hl.subset (by simp), rfl, hseg⟩

/-- For every test that requests any of the fixtures, every test function and every pattern of
failures: pytest sets each fixture up once, its requests first; the fixtures set up are the
resolution order up to the first whose create call raised, and the test function runs exactly when
none raised. The teardown phase then issues exactly the teardown calls of the fixtures that yielded,
one teardown after another, last set up first. So a delivery stream's delete comes before its
bucket's listing, object deletes and bucket delete. That phase passes whatever its calls do, so the
item's verdict is that of its setup and its test function. -/
theorem fixture_lifecycle (requested : List Fixture) (body : List (Fixture × String) → Py Unit)
    (w : World) :
    let r := runItem fixtures resolutionDepth requested body w
    let order := setupOrder fixtures resolutionDepth requested
    (∀ f ∈ requested, f ∈ order) ∧ order.Nodup ∧
      r.created.map Prod.fst = order.take (createdCount w.env.fault w.next order.length) ∧
      (r.setupOutcome = .passed ↔ r.created.length = order.length) ∧
      r.tornDown = (r.created.map Prod.fst).reverse ∧
      (∃ es, r.world.trace = (teardownStart fixtures resolutionDepth requested body w).trace ++ es ∧
        Segments TeardownEvents r.created.reverse es ∧
        (Fixture.deliveryStream ∈ r.tornDown →
          ∃ s b pre ok mid seg post, (Fixture.deliveryStream, s) ∈ r.created ∧
            (Fixture.s3Bucket, b) ∈ r.created ∧
            es = pre ++ [.call .deleteDeliveryStream [s] ok] ++ mid ++ seg ++ post ∧
            DrainEvents .listObjectsV2 .deleteObject .deleteBucket b seg)) ∧
      r.teardownOutcome = .passed ∧
      r.failed = (r.setupOutcome.isFailed || r.callOutcome.any Outcome.isFailed) := by
  intro r order
  have hdepth : ∀ f : Fixture, f.rank < resolutionDepth := by
    intro f; cases f <;> decide
  obtain ⟨hreq, hfirst⟩ := setupOrder_spec Fixture.rank fixtures_rank hdepth requested
  obtain ⟨hcreated, herror, -⟩ := setUp_createsOnce fixtures_createsOnce order [] w
  rw [← runItem_created resolutionDepth requested body w, List.map_nil, List.nil_append] at hcreated
  have hlen : r.created.length = createdCount w.env.fault w.next order.length := by
    rw [← List.length_map r.created Prod.fst, hcreated, List.length_take,
      Nat.min_eq_left (createdCount_le _ _ _)]
  have htorn : r.tornDown = (r.created.map Prod.fst).reverse := runItem_tornDown _ _ _ _
  have hpre : DepsFirst fixtures (r.created.map Prod.fst) :=
    hfirst.of_prefix (hcreated ▸ List.take_prefix _ _)
  have hpassed : r.teardownOutcome = .passed := by
    simp only [ItemRun.teardownOutcome, r, runItem_teardownErrors fixtures_teardown_ok]
  obtain ⟨es, hes, hsegs⟩ := tearDown_segments fixtures_teardown_events r.created.reverse
    (teardownStart fixtures resolutionDepth requested body w)
  refine ⟨hreq, fixtures_set_up_once requested, hcreated, ?_, htorn,
    ⟨es, by rw [runItem_world]; exact hes, hsegs, fun hds => ?_⟩, hpassed, ?_⟩
  · rw [runItem_setupOutcome, herror, hlen]
  · rw [htorn, List.mem_reverse] at hds
    exact stream_before_bucket hpre hds hsegs
  · simp [ItemRun.failed, hpassed, Outcome.isFailed]

end RustStackHarness.Conftest
