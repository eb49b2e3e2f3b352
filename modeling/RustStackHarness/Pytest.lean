import RustStackHarness.Python
import Mathlib.Data.List.Nodup

/-! pytest's run of one test item with function-scoped generator fixtures.  Fixtures are resolved
as `getfixturevalue` resolves them: a fixture's own requests first, each fixture once.  The setup
phase runs each generator up to its `yield`; a generator that raises there registers no teardown
and ends the phase, and the test function runs only when every fixture yielded.  The registered
teardowns then run, last registered first, and one that raises is recorded while the rest still
run. -/

namespace RustStackHarness.Pytest

open Python

/-- A function-scoped fixture: the fixtures it requests, its generator up to `yield` given their
values in order, and its generator after `yield` given the value it yielded. -/
structure FixtureDef (ν : Type) where
  deps : List ν
  setup : List String → Py String
  teardown : String → Py Unit

/-- What pytest reports for one phase of a test. -/
inductive Outcome
  | passed
  | failed (e : Exn)
  | skipped (e : Exn)

/-- The report of a phase that returned or raised: `pytest.skip` reports a skip, any other
exception a failure. -/
def Outcome.ofResult : Except Exn Unit → Outcome
  | .ok () => .passed
  | .error e => if e.cls = .skipped then .skipped e else .failed e

/-! ### Resolution order -/

section Resolution

variable {ν : Type} (table : ν → FixtureDef ν)

/-- Every prefix of `l` holds the requests of the fixtures in it: set up in the order of `l`, each
fixture finds its dependencies already set up. -/
def DepsFirst (l : List ν) : Prop :=
  ∀ p, p <+: l → ∀ f ∈ p, ∀ g ∈ (table f).deps, g ∈ p

variable {table}

theorem DepsFirst.nil : DepsFirst table [] := by
  intro p hp f hf
  rw [List.prefix_nil.mp hp] at hf
  cases hf

theorem DepsFirst.concat {l : List ν} {f : ν} (hl : DepsFirst table l)
    (hf : ∀ g ∈ (table f).deps, g ∈ l) : DepsFirst table (l ++ [f]) := by
  intro p hp x hx g hg
  rcases List.prefix_concat_iff.mp hp with rfl | hp
  · rcases List.mem_append.mp hx with hx | hx
    · exact List.mem_append_left _ (hl l (List.prefix_refl l) x hx g hg)
    · rw [List.mem_singleton.mp hx] at hg
      exact List.mem_append_left _ (hf g hg)
  · exact hl p hp x hx g hg

/-- In an order that sets dependencies up first, a dependency comes before the fixture that
requests it. -/
theorem DepsFirst.dep_before {l : List ν} {f g : ν} (hl : DepsFirst table l) (hf : f ∈ l)
    (hg : g ∈ (table f).deps) (hne : g ≠ f) : List.Sublist [g, f] l := by
  obtain ⟨l₁, l₂, rfl⟩ := List.append_of_mem hf
  have hg₁ : g ∈ l₁ := by
    simpa [hne] using hl (l₁ ++ [f]) ⟨l₂, by simp⟩ f (by simp) g hg
  exact (List.singleton_sublist.mpr hg₁).append
    (List.singleton_sublist.mpr (List.mem_cons_self f l₂))

theorem DepsFirst.of_prefix {l l' : List ν} (hl : DepsFirst table l) (h : l' <+: l) :
    DepsFirst table l' :=
  fun p hp => hl p (hp.trans h)

variable (table) [DecidableEq ν]

/-- `getfixturevalue f` with the fixtures `done` already set up for the test: `f` is reused if it
is there, and otherwise comes after its own requests.  `depth` bounds the recursion, and is never
reached by a table whose dependency chains are shorter. -/
def visit : Nat → List ν → ν → List ν
  | 0, done, _ => done
  | depth + 1, done, f =>
    if f ∈ done then done else (table f).deps.foldl (visit depth) done ++ [f]

/-- The order in which pytest sets up the function-scoped fixtures of a test that requests
`requested`. -/
def setupOrder (depth : Nat) (requested : List ν) : List ν :=
  requested.foldl (visit table depth) []

variable {table}

/-- Resolving a list of fixtures one after another, when each single resolution keeps what was set
up before and sets its fixture up dependencies first: the same holds of the whole list. -/
theorem foldl_visit_spec (rank : ν → Nat) {n : Nat}
    (hvisit : ∀ (d : List ν) (g : ν), rank g < n → DepsFirst table d →
      d <+: visit table n d g ∧ g ∈ visit table n d g ∧ DepsFirst table (visit table n d g))
    (gs : List ν) (hgs : ∀ g ∈ gs, rank g < n) (d : List ν) (hd : DepsFirst table d) :
    d <+: gs.foldl (visit table n) d ∧ (∀ g ∈ gs, g ∈ gs.foldl (visit table n) d) ∧
      DepsFirst table (gs.foldl (visit table n) d) := by
  induction gs generalizing d with
  | nil => exact ⟨List.prefix_refl d, by simp, hd⟩
  | cons g gs ih =>
    obtain ⟨hp, hm, hd'⟩ := hvisit d g (hgs g (List.mem_cons_self g gs)) hd
    obtain ⟨hp', hm', hd''⟩ := ih (fun x hx => hgs x (List.mem_cons_of_mem g hx)) _ hd'
    refine ⟨hp.trans hp', ?_, hd''⟩
    rintro x (_ | ⟨_, hx⟩)
    · exact hp'.mem hm
    · exact hm' x hx

/-- Resolving fixtures one after another from `d`, when each resolution only appends fixtures not
yet set up and ranked at most its own: the whole list only appends such fixtures. -/
theorem foldl_visit_nodup (rank : ν → Nat) {n : Nat}
    (hvisit : ∀ (d : List ν) (g : ν), d.Nodup →
      ∃ new, visit table n d g = d ++ new ∧ (d ++ new).Nodup ∧ ∀ x ∈ new, rank x ≤ rank g)
    (gs : List ν) (d : List ν) (hd : d.Nodup) :
    ∃ new, gs.foldl (visit table n) d = d ++ new ∧ (d ++ new).Nodup ∧
      ∀ x ∈ new, ∃ g ∈ gs, rank x ≤ rank g := by
  induction gs generalizing d with
  | nil => exact ⟨[], by simp, by simpa using hd, by simp⟩
  | cons g gs ih =>
    obtain ⟨new₁, h₁, hn₁, hr₁⟩ := hvisit d g hd
    obtain ⟨new₂, h₂, hn₂, hr₂⟩ := ih (d ++ new₁) hn₁
    refine ⟨new₁ ++ new₂, by rw [List.foldl_cons, h₁, h₂, List.append_assoc], by
      rwa [← List.append_assoc], fun x hx => ?_⟩
    rcases List.mem_append.mp hx with hx | hx
    · exact ⟨g, List.mem_cons_self g gs, hr₁ x hx⟩
    · obtain ⟨g', hg', hr⟩ := hr₂ x hx
      exact ⟨g', List.mem_cons_of_mem g hg', hr⟩

variable (rank : ν → Nat) (hrank : ∀ f, ∀ g ∈ (table f).deps, rank g < rank f)
include hrank

/-- What one resolution keeps: the fixtures set up before stay, in place, the requested fixture is
set up, and every prefix still holds its dependencies. -/
theorem visit_spec (fuel : Nat) : ∀ (done : List ν) (f : ν), rank f < fuel →
    DepsFirst table done →
    done <+: visit table fuel done f ∧ f ∈ visit table fuel done f ∧
      DepsFirst table (visit table fuel done f) := by
  induction fuel with
  | zero => intro _ _ h; omega
  | succ n ih =>
    intro done f hf hd
    simp only [visit]
    split
    · exact ⟨List.prefix_refl done, ‹_›, hd⟩
    · obtain ⟨hp, hm, hd'⟩ := foldl_visit_spec rank ih (table f).deps
        (fun g hg => Nat.lt_of_lt_of_le (hrank f g hg) (Nat.le_of_lt_succ hf)) done hd
      exact ⟨hp.trans (List.prefix_append _ _), List.mem_append_right _ (List.mem_singleton_self f),
        hd'.concat hm⟩

/-- With `depth` above every rank, the setup order holds every requested fixture, each after its
dependencies. -/
theorem setupOrder_spec {depth : Nat} (hdepth : ∀ f, rank f < depth) (requested : List ν) :
    (∀ f ∈ requested, f ∈ setupOrder table depth requested) ∧
      DepsFirst table (setupOrder table depth requested) := by
  obtain ⟨-, hm, hd⟩ := foldl_visit_spec rank (visit_spec rank hrank depth) requested
    (fun f _ => hdepth f) [] DepsFirst.nil
  exact ⟨hm, hd⟩

/-- One resolution appends only fixtures not yet set up, ranked at most the requested one: the
fixture itself comes after its dependencies, which rank below it, so it is never set up twice. -/
theorem visit_nodup (fuel : Nat) : ∀ (done : List ν) (f : ν), done.Nodup →
    ∃ new, visit table fuel done f = done ++ new ∧ (done ++ new).Nodup ∧
      ∀ x ∈ new, rank x ≤ rank f := by
  induction fuel with
  | zero => exact fun done _ hd => ⟨[], by simp [visit], by simpa using hd, by simp⟩
  | succ n ih =>
    intro done f hd
    simp only [visit]
    split
    · exact ⟨[], by simp, by simpa using hd, by simp⟩
    · rename_i hf
      obtain ⟨new, h, hn, hr⟩ := foldl_visit_nodup rank ih (table f).deps done hd
      have hlt : ∀ x ∈ new, rank x < rank f := fun x hx => by
        obtain ⟨g, hg, hxg⟩ := hr x hx
        exact Nat.lt_of_le_of_lt hxg (hrank f g hg)
      have hfnew : f ∉ done ++ new := by
        rintro hmem
        rcases List.mem_append.mp hmem with hmem | hmem
        · exact hf hmem
        · exact Nat.lt_irrefl _ (hlt f hmem)
      refine ⟨new ++ [f], by rw [h, List.append_assoc], ?_, fun x hx => ?_⟩
      · rw [← List.append_assoc]
        exact hn.append (List.nodup_singleton f) (by simpa using hfnew)
      · rcases List.mem_append.mp hx with hx | hx
        · exact Nat.le_of_lt (hlt x hx)
        · rw [List.mem_singleton.mp hx]

/-- pytest sets each fixture up at most once for a test, however many of the requested fixtures
request it. -/
theorem setupOrder_nodup (depth : Nat) (requested : List ν) :
    (setupOrder table depth requested).Nodup := by
  obtain ⟨new, h, hn, -⟩ := foldl_visit_nodup rank (visit_nodup rank hrank depth) requested []
    List.nodup_nil
  rw [setupOrder, h]
  simpa using hn

end Resolution

/-! ### The phases of a test -/

/-- The setup phase's result: the fixtures whose generators yielded, with their values, in order;
the exception that ended the phase, if one did; the world after it. -/
structure SetupResult (ν : Type) where
  created : List (ν × String)
  error : Option Exn
  world : World

/-- The teardown phase's result: the fixtures torn down, in order, and the exceptions their
teardowns raised. -/
structure TeardownResult (ν : Type) where
  tornDown : List ν
  errors : List Exn
  world : World

/-- Whether a report counts as a failure for the session's exit status. -/
def Outcome.isFailed : Outcome → Bool
  | .failed _ => true
  | _ => false

/-- What pytest records of one test item. -/
structure ItemRun (ν : Type) where
  created : List (ν × String)
  setupOutcome : Outcome
  callOutcome : Option Outcome
  tornDown : List ν
  teardownErrors : List Exn
  world : World

/-- The teardown phase's report: failed with the first exception a teardown raised. -/
def ItemRun.teardownOutcome {ν : Type} (r : ItemRun ν) : Outcome :=
  match r.teardownErrors with
  | [] => .passed
  | e :: _ => .failed e

/-- Whether any phase of the item failed. -/
def ItemRun.failed {ν : Type} (r : ItemRun ν) : Bool :=
  r.setupOutcome.isFailed || r.callOutcome.any Outcome.isFailed || r.teardownOutcome.isFailed

/-- pytest's exit status: 1 when some test failed or errored, 5 when none was collected, and 0
otherwise; skipped tests count as neither. -/
def exitStatus {ν : Type} (runs : List (ItemRun ν)) : Nat :=
  if runs.any ItemRun.failed then 1 else if runs.isEmpty then 5 else 0

section Teardown

variable {ν : Type} (table : ν → FixtureDef ν)

/-- The teardown phase over the stack of registered teardowns, top first: one that raises is
recorded and the rest still run. -/
def tearDown : List (ν × String) → World → TeardownResult ν
  | [], w => ⟨[], [], w⟩
  | (f, v) :: rest, w =>
    match (table f).teardown v w with
    | .ok _ w' => let r := tearDown rest w'; ⟨f :: r.tornDown, r.errors, r.world⟩
    | .error e w' => let r := tearDown rest w'; ⟨f :: r.tornDown, e :: r.errors, r.world⟩

variable {table}

theorem tearDown_tornDown (stack : List (ν × String)) (w : World) :
    (tearDown table stack w).tornDown = stack.map Prod.fst := by
  induction stack generalizing w with
  | nil => rfl
  | cons top rest ih =>
    obtain ⟨f, v⟩ := top
    simp only [tearDown]
    split <;> simp [ih]

/-- Teardowns that never raise leave the phase without errors. -/
theorem tearDown_errors (hnever : ∀ f v w, ∃ w', (table f).teardown v w = .ok () w')
    (stack : List (ν × String)) (w : World) : (tearDown table stack w).errors = [] := by
  induction stack generalizing w with
  | nil => rfl
  | cons top rest ih =>
    obtain ⟨w', h⟩ := hnever top.1 top.2 w
    simp only [tearDown, h, ih]

/-- The events of the teardowns of `stack`, run one after another: one segment per entry, in the
order of the stack, each a segment `Seg` admits for the entry's fixture and value. -/
inductive Segments (Seg : ν → String → List Event → Prop) : List (ν × String) → List Event → Prop
  | nil : Segments Seg [] []
  | cons {f : ν} {v : String} {stack : List (ν × String)} {seg es : List Event} :
      Seg f v seg → Segments Seg stack es → Segments Seg ((f, v) :: stack) (seg ++ es)

theorem tearDown_cons_world (f : ν) (v : String) (rest : List (ν × String)) (w : World) :
    (tearDown table ((f, v) :: rest) w).world =
      (tearDown table rest (after ((table f).teardown v) w)).world := by
  simp only [tearDown, after]
  cases (table f).teardown v w <;> rfl

/-- When each teardown adds a segment `Seg` admits for its fixture and value, the teardown phase
adds one such segment per registered teardown, top of the stack first. -/
theorem tearDown_segments {Seg : ν → String → List Event → Prop}
    (hseg : ∀ f v w, ∃ seg, (after ((table f).teardown v) w).trace = w.trace ++ seg ∧ Seg f v seg)
    (stack : List (ν × String)) (w : World) :
    ∃ es, (tearDown table stack w).world.trace = w.trace ++ es ∧ Segments Seg stack es := by
  induction stack generalizing w with
  | nil => exact ⟨[], by simp [tearDown], .nil⟩
  | cons top rest ih =>
    obtain ⟨f, v⟩ := top
    obtain ⟨seg, hs, hf⟩ := hseg f v w
    obtain ⟨es, hes, hrest⟩ := ih (after ((table f).teardown v) w)
    exact ⟨seg ++ es, by rw [tearDown_cons_world, hes, hs, List.append_assoc], .cons hf hrest⟩

variable {Seg : ν → String → List Event → Prop}

/-- The segment of an entry of the stack. -/
theorem Segments.mem {stack : List (ν × String)} {es : List Event} (h : Segments Seg stack es)
    {p : ν × String} (hp : p ∈ stack) :
    ∃ pre seg post, es = pre ++ seg ++ post ∧ Seg p.1 p.2 seg := by
  induction h with
  | nil => cases hp
  | @cons f v stack seg es hf _ ih =>
    rcases List.mem_cons.mp hp with rfl | hp
    · exact ⟨[], seg, es, by simp, hf⟩
    · obtain ⟨pre, seg', post, rfl, h'⟩ := ih hp
      exact ⟨seg ++ pre, seg', post, by simp, h'⟩

/-- Two entries of the stack, one above the other: the upper one's segment comes first. -/
theorem Segments.pair {stack : List (ν × String)} {es : List Event} (h : Segments Seg stack es)
    {p q : ν × String} (hpq : List.Sublist [p, q] stack) :
    ∃ pre seg₁ mid seg₂ post, es = pre ++ seg₁ ++ mid ++ seg₂ ++ post ∧ Seg p.1 p.2 seg₁ ∧
      Seg q.1 q.2 seg₂ := by
  induction h with
  | nil => cases hpq
  | @cons f v stack seg es hf hrest ih =>
    rcases List.sublist_cons_iff.mp hpq with hpq | ⟨r, hr, hq⟩
    · obtain ⟨pre, seg₁, mid, seg₂, post, rfl, h₁, h₂⟩ := ih hpq
      exact ⟨seg ++ pre, seg₁, mid, seg₂, post, by simp, h₁, h₂⟩
    · obtain ⟨rfl, rfl⟩ := List.cons.inj hr
      obtain ⟨mid, seg₂, post, rfl, h₂⟩ := hrest.mem (List.singleton_sublist.mp hq)
      exact ⟨[], seg, mid, seg₂, post, by simp, hf, h₂⟩

end Teardown

section Phases

variable {ν : Type} [DecidableEq ν] (table : ν → FixtureDef ν)

/-- The setup phase over `order`: each generator runs up to its `yield` with the values of its
dependencies, which registers its teardown; the first that raises ends the phase. -/
def setUp : List ν → List (ν × String) → World → SetupResult ν
  | [], done, w => ⟨done, none, w⟩
  | f :: fs, done, w =>
    match (table f).setup ((table f).deps.map fun g => (done.lookup g).getD "") w with
    | .ok v w' => setUp fs (done ++ [(f, v)]) w'
    | .error e w' => ⟨done, some e, w'⟩

/-- `runtestprotocol` for one item: the setup phase, the test function when every fixture
yielded, and the teardown phase, which runs on every path. -/
def runItem (depth : Nat) (requested : List ν) (body : List (ν × String) → Py Unit)
    (w : World) : ItemRun ν :=
  let s := setUp table (setupOrder table depth requested) [] w
  match s.error with
  | some e =>
    let t := tearDown table s.created.reverse s.world
    ⟨s.created, .ofResult (.error e), none, t.tornDown, t.errors, t.world⟩
  | none =>
    let c := runPy (body s.created) s.world
    let t := tearDown table s.created.reverse c.2
    ⟨s.created, .passed, some (.ofResult c.1), t.tornDown, t.errors, t.world⟩

/-- The world in which `runItem`'s teardown phase starts: after the test function, or after the
setup phase when a fixture raised. -/
def teardownStart (depth : Nat) (requested : List ν) (body : List (ν × String) → Py Unit)
    (w : World) : World :=
  let s := setUp table (setupOrder table depth requested) [] w
  match s.error with
  | some _ => s.world
  | none => (runPy (body s.created) s.world).2

variable {table}

/-- The teardown phase runs the teardowns of exactly the fixtures that yielded, last set up
first. -/
theorem runItem_tornDown (depth : Nat) (requested : List ν) (body : List (ν × String) → Py Unit)
    (w : World) :
    (runItem table depth requested body w).tornDown =
      ((runItem table depth requested body w).created.map Prod.fst).reverse := by
  simp only [runItem]
  split <;> simp [tearDown_tornDown, List.map_reverse]

theorem runItem_world (depth : Nat) (requested : List ν) (body : List (ν × String) → Py Unit)
    (w : World) :
    (runItem table depth requested body w).world =
      (tearDown table (runItem table depth requested body w).created.reverse
        (teardownStart table depth requested body w)).world := by
  simp only [runItem, teardownStart]
  split <;> rfl

theorem runItem_created (depth : Nat) (requested : List ν) (body : List (ν × String) → Py Unit)
    (w : World) :
    (runItem table depth requested body w).created =
      (setUp table (setupOrder table depth requested) [] w).created := by
  simp only [runItem]
  split <;> rfl

/-- The setup phase passes exactly when no fixture raised before its `yield`. -/
theorem runItem_setupOutcome (depth : Nat) (requested : List ν)
    (body : List (ν × String) → Py Unit) (w : World) :
    (runItem table depth requested body w).setupOutcome = .passed ↔
      (setUp table (setupOrder table depth requested) [] w).error = none := by
  simp only [runItem]
  split
  · rename_i e he
    simp only [he, Outcome.ofResult]
    split <;> simp
  · simp [*]

theorem runItem_teardownErrors (hnever : ∀ f v w, ∃ w', (table f).teardown v w = .ok () w')
    (depth : Nat) (requested : List ν) (body : List (ν × String) → Py Unit) (w : World) :
    (runItem table depth requested body w).teardownErrors = [] := by
  simp only [runItem]
  split <;> exact tearDown_errors hnever _ _

/-! ### Setups that create one resource -/

/-- A setup that issues two events and ends as the second, a remote call, ends: it yields when
the call returns, and raises the call's client error when it does not. -/
def CreatesOnce (setup : Py String) : Prop :=
  ∀ w : World, ∃ w' : World, w'.env = w.env ∧ w'.next = w.next + 2 ∧
    match w.env.fault (w.next + 1) with
    | none => ∃ v, setup w = .ok v w'
    | some m => setup w = .error ⟨.clientError, m⟩ w'

/-- How many of `len` such setups, run one after another from position `n`, yield before the first
whose call fails. -/
def createdCount (fault : Nat → Option String) : Nat → Nat → Nat
  | _, 0 => 0
  | n, len + 1 =>
    match fault (n + 1) with
    | none => createdCount fault (n + 2) len + 1
    | some _ => 0

theorem createdCount_le (fault : Nat → Option String) (n len : Nat) :
    createdCount fault n len ≤ len := by
  induction len generalizing n with
  | zero => rfl
  | succ len ih =>
    simp only [createdCount]
    split
    · exact Nat.succ_le_succ (ih _)
    · exact Nat.zero_le _

/-- The fixtures whose setups create one resource yield exactly up to the first failing create
call; the phase ends with that call's client error. -/
theorem setUp_createsOnce (hc : ∀ f vals, CreatesOnce ((table f).setup vals)) (order : List ν)
    (done : List (ν × String)) (w : World) :
    (setUp table order done w).created.map Prod.fst =
        done.map Prod.fst ++ order.take (createdCount w.env.fault w.next order.length) ∧
      ((setUp table order done w).error = none ↔
        createdCount w.env.fault w.next order.length = order.length) ∧
      ∀ e, (setUp table order done w).error = some e → e.cls = .clientError := by
  induction order generalizing done w with
  | nil => simp [setUp, createdCount]
  | cons f fs ih =>
    obtain ⟨w', henv, hnext, hs⟩ := hc f ((table f).deps.map fun g => (done.lookup g).getD "") w
    cases hf : w.env.fault (w.next + 1) with
    | none =>
      rw [hf] at hs
      obtain ⟨v, hs⟩ := hs
      obtain ⟨h1, h2, h3⟩ := ih (done ++ [(f, v)]) w'
      rw [henv, hnext] at h1 h2
      simp only [setUp, hs, createdCount, hf, List.length_cons, List.take_succ_cons]
      exact ⟨by simp [h1], by simp [h2], h3⟩
    | some m =>
      rw [hf] at hs
      simp [setUp, hs, createdCount, hf]

end Phases

end RustStackHarness.Pytest
