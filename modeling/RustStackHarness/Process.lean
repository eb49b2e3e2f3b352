import RustStackHarness.Endpoint
import RustStackHarness.Prober
import RustStackHarness.Utf8

/-! `ruststack_process`: the session fixture that starts the RustStack binary with
`subprocess.Popen`, both output streams connected to pipes, gates on `wait_for_ruststack`, and in
its `finally` sends SIGTERM and waits five seconds for the child to exit.  The state is the child
as the OS and its `Popen` object see it: its return code, its two pipes of bytes, what it does on
SIGTERM, the write it is blocked in, and the requests it has answered.  Nothing reads the pipes but
`communicate`, which the fixture calls only after killing a child that never became ready; it then
decodes both as UTF-8 for its failure message.

`teardown_spec`: the `finally` leaves the child exited, with its own return code, exactly when it
exits within five seconds of SIGTERM; otherwise `proc.wait` raises `TimeoutExpired` out of it and
the child keeps running, for nothing sends it SIGKILL (`ruststackProcess_ready` over a whole
session).  `session_stuck_iff`: the child blocks in a write exactly when what it has written to one
stream exceeds the capacity of a pipe, and from then on it answers no request (`served_of_stuck`).
A child that never became ready is killed, and the fixture fails with what it wrote, or with the
`UnicodeDecodeError` of a stream that is not UTF-8 (`startupFailure`). -/

namespace RustStackHarness.Process

open Python Endpoint Prober

/-! ### Pipes -/

/-- One of the child's two output streams. -/
inductive Stream
  | stdout
  | stderr
  deriving DecidableEq, Repr

/-- An OS pipe: the bytes written to it and not yet read, never more than its capacity. -/
structure Pipe where
  capacity : Nat
  data : List UInt8
  fits : data.length ≤ capacity

/-- A pipe with nothing in it. -/
def Pipe.empty (capacity : Nat) : Pipe := ⟨capacity, [], Nat.zero_le _⟩

/-- A blocking `write(bytes)`: what fits in the room left goes into the pipe, and the rest is what
the writer is left waiting to write. -/
def Pipe.write (p : Pipe) (bytes : List UInt8) : Pipe × List UInt8 :=
  (⟨p.capacity, p.data ++ bytes.take (p.capacity - p.data.length), by
      have := p.fits
      simp only [List.length_append, List.length_take]
      omega⟩,
    bytes.drop (p.capacity - p.data.length))

/-- Reading a pipe to its end leaves it empty. -/
def Pipe.drain (p : Pipe) : Pipe := .empty p.capacity

@[simp] theorem Pipe.write_capacity (p : Pipe) (bytes : List UInt8) :
    (p.write bytes).1.capacity = p.capacity := rfl

theorem Pipe.write_rest_eq_nil_iff (p : Pipe) (bytes : List UInt8) :
    (p.write bytes).2 = [] ↔ p.data.length + bytes.length ≤ p.capacity := by
  have := p.fits
  simp only [Pipe.write, List.drop_eq_nil_iff]
  omega

/-- A write that fits puts all its bytes in the pipe. -/
theorem Pipe.write_data_of_fits {p : Pipe} {bytes : List UInt8}
    (h : p.data.length + bytes.length ≤ p.capacity) :
    (p.write bytes).1.data = p.data ++ bytes := by
  simp only [Pipe.write,
    List.take_of_length_le (by omega : bytes.length ≤ p.capacity - p.data.length)]

/-! ### The child -/

/-- How a child exits after SIGTERM: `delay` ms later, with the return code `Popen` reports (-15
when the signal's default action kills it, the child's own exit status when it handles it). -/
structure OnTerm where
  delay : Nat
  returncode : Int
  deriving DecidableEq, Repr

/-- The child process: `Popen.returncode` (`none` while it runs), its pipes, how it exits on
SIGTERM (`none`: it ignores SIGTERM), its exit still to come once sent SIGTERM, the write it is
blocked in (the stream and the bytes not yet written), and the requests it has answered. -/
structure Child where
  returncode : Option Int
  stdout : Pipe
  stderr : Pipe
  onTerm : Option OnTerm
  exitIn : Option OnTerm
  stuck : Option (Stream × List UInt8)
  served : Nat

/-- The child `Popen` starts: running, with two empty pipes of the host's capacity. -/
def Child.fresh (capacity : Nat) (onTerm : Option OnTerm) : Child :=
  ⟨none, .empty capacity, .empty capacity, onTerm, none, none, 0⟩

/-- The pipe of a stream. -/
def Child.pipe (c : Child) : Stream → Pipe
  | .stdout => c.stdout
  | .stderr => c.stderr

/-- Replace the pipe of a stream. -/
def Child.setPipe (c : Child) : Stream → Pipe → Child
  | .stdout, p => { c with stdout := p }
  | .stderr, p => { c with stderr := p }

/-- The child after exiting with return code `rc`: no write is left pending. -/
def Child.exit (c : Child) (rc : Int) : Child :=
  { c with returncode := some rc, exitIn := none, stuck := none }

@[simp] theorem Child.setPipe_pipe (c : Child) (s t : Stream) (p : Pipe) :
    (c.setPipe s p).pipe t = if t = s then p else c.pipe t := by
  cases s <;> cases t <;> rfl

@[simp] theorem Child.setPipe_returncode (c : Child) (s : Stream) (p : Pipe) :
    (c.setPipe s p).returncode = c.returncode := by cases s <;> rfl

@[simp] theorem Child.setPipe_onTerm (c : Child) (s : Stream) (p : Pipe) :
    (c.setPipe s p).onTerm = c.onTerm := by cases s <;> rfl

@[simp] theorem Child.setPipe_exitIn (c : Child) (s : Stream) (p : Pipe) :
    (c.setPipe s p).exitIn = c.exitIn := by cases s <;> rfl

@[simp] theorem Child.setPipe_served (c : Child) (s : Stream) (p : Pipe) :
    (c.setPipe s p).served = c.served := by cases s <;> rfl

@[simp] theorem Child.setPipe_stuck (c : Child) (s : Stream) (p : Pipe) :
    (c.setPipe s p).stuck = c.stuck := by cases s <;> rfl

/-! ### The child during the session -/

/-- What the child does next while the tests run: write to a stream, or answer a request. -/
inductive Act
  | write (s : Stream) (bytes : List UInt8)
  | serve

/-- The bytes an action writes to stream `s`. -/
def Act.output (s : Stream) : Act → List UInt8
  | .write t bytes => if t = s then bytes else []
  | .serve => []

/-- Whether an action answers a request. -/
def Act.isServe : Act → Bool
  | .write _ _ => false
  | .serve => true

/-- The bytes a sequence of actions writes to stream `s`. -/
def written (s : Stream) (acts : List Act) : List UInt8 := acts.flatMap (Act.output s)

/-- The requests a sequence of actions answers. -/
def requests (acts : List Act) : Nat := acts.countP Act.isServe

@[simp] theorem written_nil (s : Stream) : written s [] = [] := rfl

@[simp] theorem written_cons (s : Stream) (a : Act) (acts : List Act) :
    written s (a :: acts) = a.output s ++ written s acts := List.flatMap_cons _ _ _

/-- The write left pending: none once every byte is in the pipe. -/
def pendingWrite (s : Stream) : List UInt8 → Option (Stream × List UInt8)
  | [] => none
  | rest => some (s, rest)

/-- One action of a child that is not blocked. -/
def Child.act (c : Child) : Act → Child
  | .write s bytes =>
    ({ c with stuck := pendingWrite s ((c.pipe s).write bytes).2 } : Child).setPipe s
      ((c.pipe s).write bytes).1
  | .serve => { c with served := c.served + 1 }

/-- The child's actions while the tests run.  Nothing reads its pipes in the meantime, so once a
write blocks the child makes no further progress. -/
def childRun (c : Child) : List Act → Child
  | [] => c
  | a :: as =>
    match c.stuck with
    | none => childRun (c.act a) as
    | some _ => c

theorem pendingWrite_eq_none_iff (s : Stream) (rest : List UInt8) :
    pendingWrite s rest = none ↔ rest = [] := by
  cases rest <;> simp [pendingWrite]

theorem childRun_of_stuck {c : Child} (h : c.stuck ≠ none) (acts : List Act) :
    childRun c acts = c := by
  cases acts with
  | nil => rfl
  | cons a as =>
    obtain ⟨p, hp⟩ := Option.ne_none_iff_exists'.mp h
    simp only [childRun, hp]

/-- What one action keeps: the return code, the SIGTERM behaviour and the pending exit. -/
theorem Child.act_frame (c : Child) (a : Act) :
    (c.act a).returncode = c.returncode ∧ (c.act a).onTerm = c.onTerm ∧
      (c.act a).exitIn = c.exitIn := by
  cases a <;> simp [Child.act]

theorem childRun_frame (c : Child) (acts : List Act) :
    (childRun c acts).returncode = c.returncode ∧ (childRun c acts).onTerm = c.onTerm ∧
      (childRun c acts).exitIn = c.exitIn := by
  induction acts generalizing c with
  | nil => simp [childRun]
  | cons a as ih =>
    cases hs : c.stuck with
    | none =>
      obtain ⟨h₁, h₂, h₃⟩ := Child.act_frame c a
      simp only [childRun, hs, ih, h₁, h₂, h₃, and_self]
    | some _ => simp [childRun, hs]

@[simp] theorem Child.pipe_withStuck (c : Child) (v : Option (Stream × List UInt8)) (s : Stream) :
    ({ c with stuck := v } : Child).pipe s = c.pipe s := by
  cases s <;> rfl

/-- One action of a child that is not blocked: it leaves the child unblocked exactly when its bytes
fit in their pipe, and then appends them; the capacities stay. -/
theorem Child.act_spec {c : Child} (hc : c.stuck = none) (a : Act) :
    ((c.act a).stuck = none ↔
      ∀ s, (c.pipe s).data.length + (a.output s).length ≤ (c.pipe s).capacity) ∧
    (∀ s, ((c.act a).pipe s).capacity = (c.pipe s).capacity) ∧
    ((c.act a).stuck = none → ∀ s, ((c.act a).pipe s).data = (c.pipe s).data ++ a.output s) ∧
    (c.act a).served = c.served + if a.isServe then 1 else 0 := by
  cases a with
  | serve =>
    refine ⟨iff_of_true hc fun s => ?_, fun s => ?_, fun _ s => ?_, rfl⟩ <;>
      cases s <;> simp [Child.act, Child.pipe, Act.output, Pipe.fits]
  | write t bytes =>
    have hfits : (∀ s, (c.pipe s).data.length + ((Act.write t bytes).output s).length ≤
        (c.pipe s).capacity) ↔ (c.pipe t).data.length + bytes.length ≤ (c.pipe t).capacity := by
      refine ⟨fun h => by simpa [Act.output] using h t, fun h s => ?_⟩
      by_cases hs : t = s
      · subst hs
        simpa [Act.output] using h
      · simpa [Act.output, hs] using (c.pipe s).fits
    simp only [Child.act, Child.setPipe_stuck, pendingWrite_eq_none_iff,
      Pipe.write_rest_eq_nil_iff, hfits, true_and]
    refine ⟨fun s => ?_, fun h s => ?_, by simp [Act.isServe]⟩
    · by_cases hs : s = t <;> simp [hs]
    · by_cases hs : s = t
      · subst hs
        simp [Act.output, Pipe.write_data_of_fits h]
      · simp [hs, Act.output, Ne.symm hs]

/-- A session from a child that is not blocked: the child ends unblocked exactly when, on each
stream, what was in the pipe and what the session writes fit in the pipe together; it has then
written all of it and answered every request. -/
theorem childRun_spec {c : Child} (hc : c.stuck = none) (acts : List Act) :
    ((childRun c acts).stuck = none ↔
      ∀ s, (c.pipe s).data.length + (written s acts).length ≤ (c.pipe s).capacity) ∧
    ((childRun c acts).stuck = none →
      (∀ s, ((childRun c acts).pipe s).data = (c.pipe s).data ++ written s acts) ∧
      (childRun c acts).served = c.served + requests acts) := by
  induction acts generalizing c with
  | nil => simp [childRun, hc, requests, Pipe.fits]
  | cons a as ih =>
    obtain ⟨hstuck, hcap, hdata, hserved⟩ := Child.act_spec hc a
    have hrun : childRun c (a :: as) = childRun (c.act a) as := by simp only [childRun, hc]
    rw [hrun]
    by_cases h' : (c.act a).stuck = none
    · obtain ⟨ihiff, ihdata⟩ := ih h'
      simp only [hdata h', hcap, List.length_append, written_cons, List.append_assoc,
        Nat.add_assoc] at ihiff ihdata ⊢
      refine ⟨ihiff, fun h => ⟨(ihdata h).1, ?_⟩⟩
      simp only [(ihdata h).2, hserved, requests, List.countP_cons]
      omega
    · rw [childRun_of_stuck h']
      refine ⟨iff_of_false h' fun hall => h' (hstuck.mpr fun s => ?_), fun h => absurd h h'⟩
      have := hall s
      simp only [written_cons, List.length_append] at this
      omega

/-- Once blocked, the child stays blocked whatever the session goes on to do: it answers no later
request. -/
theorem childRun_append (c : Child) (xs ys : List Act) :
    childRun c (xs ++ ys) = childRun (childRun c xs) ys := by
  induction xs generalizing c with
  | nil => rfl
  | cons a as ih =>
    cases hs : c.stuck with
    | none =>
      simp only [List.cons_append, childRun, hs]
      exact ih _
    | some _ =>
      have h : c.stuck ≠ none := by simp [hs]
      rw [List.cons_append, childRun_of_stuck h, childRun_of_stuck h, childRun_of_stuck h]

/-! ### The `Popen` calls -/

/-- Code run against the child: as in Python, what it did stays done when it raises. -/
abbrev ProcM := EStateM Exn Child

theorem ProcM.bind_apply {α β : Type} (x : ProcM α) (f : α → ProcM β) (c : Child) :
    (x >>= f) c = match x c with
      | .ok a c' => f a c'
      | .error e c' => .error e c' := by
  show EStateM.bind x f c = _
  unfold EStateM.bind
  cases x c <;> rfl

@[simp] theorem ProcM.pure_apply {α : Type} (a : α) (c : Child) :
    (pure a : ProcM α) c = .ok a c := rfl

@[simp] theorem ProcM.throw_apply {α : Type} (e : Exn) (c : Child) :
    (throw e : ProcM α) c = .error e c := rfl

/-- `proc.terminate()`: SIGTERM to a child still running, which then exits after its delay, or
never when it ignores the signal.  `send_signal` polls first and signals no child that has
exited. -/
def terminate : ProcM Unit := fun c =>
  match c.returncode with
  | none => .ok () { c with exitIn := c.onTerm }
  | some _ => .ok () c

/-- `proc.kill()`: SIGKILL, which no child can ignore: it dies at once, with return code -9. -/
def kill : ProcM Unit := fun c =>
  match c.returncode with
  | none => .ok () (c.exit (-9))
  | some _ => .ok () c

/-- `repr` of the argument list, as `TimeoutExpired` prints its command. -/
def reprArgs (args : List String) : String :=
  "[" ++ ", ".intercalate (args.map pyReprStr) ++ "]"

/-- `subprocess.TimeoutExpired(cmd, timeout)`. -/
def timeoutExpired (args : List String) (timeout : Nat) : Exn :=
  ⟨.timeoutExpired,
    "Command \x27" ++ reprArgs args ++ "\x27 timed out after " ++ toString timeout ++ " seconds"⟩

/-- The exit still to come `ms` later. -/
def OnTerm.later (ms : Nat) (t : OnTerm) : OnTerm := { t with delay := t.delay - ms }

/-- `proc.wait(timeout)`, the timeout in seconds: the return code of a child that has exited, or
that exits within the timeout; else `TimeoutExpired`, the child that much closer to its exit. -/
def wait (args : List String) (timeout : Nat) : ProcM Int := fun c =>
  match c.returncode, c.exitIn with
  | some rc, _ => .ok rc c
  | none, some t =>
    if t.delay ≤ 1000 * timeout then .ok t.returncode (c.exit t.returncode)
    else .error (timeoutExpired args timeout) { c with exitIn := some (t.later (1000 * timeout)) }
  | none, none => .error (timeoutExpired args timeout) c

/-- `proc.communicate()`, which the fixture calls after `kill`: both pipes read to their end. -/
def communicate : ProcM (List UInt8 × List UInt8) := fun c =>
  .ok (c.stdout.data, c.stderr.data) { c with stdout := c.stdout.drain, stderr := c.stderr.drain }

/-! ### The fixture -/

/-- The machine the fixture runs on: `os.environ`, the paths that exist, the capacity of a new
pipe, how the RustStack binary exits on SIGTERM, and the health requests `wait_for_ruststack`
makes. -/
structure Host where
  environ : String → Option String
  pathExists : String → Bool
  pipeCapacity : Nat
  onTerm : Option OnTerm
  service : ProbeEnv

/-- `os.environ.get("RUSTSTACK_BINARY", "./target/release/ruststack")`. -/
def binaryPath (environ : String → Option String) : String :=
  (environ "RUSTSTACK_BINARY").getD "./target/release/ruststack"

/-- The command `Popen` runs. -/
def popenArgs (binary : String) (port : Int) : List String :=
  [binary, "--host", "0.0.0.0", "--port", toString port]

/-- The skip when there is no binary. -/
def binaryMissing (binary : String) : Exn :=
  ⟨.skipped, "RustStack binary not found at " ++ binary⟩

/-- `pytest.fail` with the decoded output of the child. -/
def startFailure (stdout stderr : String) : Exn :=
  ⟨.failed, "RustStack failed to start.\nstdout: " ++ stdout ++ "\nstderr: " ++ stderr⟩

/-- What the fixture raises for a child that never became ready: the f-string decodes `stdout`,
then `stderr`, so it is `pytest.fail` when both are UTF-8, and otherwise the `UnicodeDecodeError` of
the first that is not. -/
def startupFailure (stdout stderr : List UInt8) : Exn :=
  match Utf8.decode stdout, Utf8.decode stderr with
  | .ok out, .ok err => startFailure out err
  | .error e, _ => e
  | .ok _, .error e => e

/-- The `try` block up to its `yield`, given what `wait_for_ruststack` returned or raised. -/
def startupCheck (endpoint : String) : Except Exn Bool → ProcM String
  | .ok true => pure endpoint
  | .ok false => do
    kill
    let out ← communicate
    throw (startupFailure out.1 out.2)
  | .error e => throw e

/-- The child's actions while other code runs: `boot` while `wait_for_ruststack` polls, `acts` while
the session's tests run. -/
def childActs (acts : List Act) : ProcM Unit := fun c => .ok () (childRun c acts)

/-- The `finally` block: `proc.terminate()` then `proc.wait(timeout=5)`. -/
def ruststackProcessTeardown (args : List String) : ProcM Unit := do
  terminate
  let _ ← wait args 5

/-- The generator from `Popen` to the end of its `finally`, with the session's tests run at the
`yield`. -/
def ruststackProcessBody (endpoint : String) (ready : Except Exn Bool) (args : List String)
    (boot acts : List Act) : ProcM String :=
  withFinally
    (do
      childActs boot
      let ep ← startupCheck endpoint ready
      childActs acts
      pure ep)
    (ruststackProcessTeardown args)

/-- `ruststack_process` set up at real time `t₀`, over a whole session: the skip when the binary is
missing, else the generator run on the child `Popen` starts, and the child it leaves; `none` when
`wait_for_ruststack` runs out of fuel.  pytest reports an exception from before the `yield` at the
setup of the first test, and one from the `finally` after the session at the teardown of the
last. -/
def ruststackProcess (host : Host) (config : Config) (t₀ fuel : Nat) (boot acts : List Act) :
    Option (Except Exn String × Option Child) :=
  let binary := binaryPath host.environ
  if host.pathExists binary then
    (waitForRuststack host.service defaultTimeout t₀ fuel).map fun (ready, _) =>
      match ruststackProcessBody config.endpoint ready (popenArgs binary config.port) boot acts
          (.fresh host.pipeCapacity host.onTerm) with
      | .ok ep c => (.ok ep, some c)
      | .error e c => (.error e, some c)
  else some (.error (binaryMissing binary), none)

/-! ### The teardown -/

/-- The `finally` on a child still running: the child exits, with its own return code, when it
exits within five seconds of SIGTERM; otherwise `proc.wait` raises `TimeoutExpired` and the child
is left running, its exit (if any) five seconds nearer. -/
theorem teardown_spec (args : List String) {c : Child} (hrun : c.returncode = none) :
    (∃ t, c.onTerm = some t ∧ t.delay ≤ 5000 ∧
        ruststackProcessTeardown args c = .ok () (c.exit t.returncode)) ∨
      ((∀ t, c.onTerm = some t → 5000 < t.delay) ∧
        ruststackProcessTeardown args c =
          .error (timeoutExpired args 5) { c with exitIn := c.onTerm.map (OnTerm.later 5000) }) := by
  have hterm : terminate c = .ok () { c with exitIn := c.onTerm } := by simp only [terminate, hrun]
  cases hδ : c.onTerm with
  | none =>
    refine .inr ⟨by simp, ?_⟩
    simp only [ruststackProcessTeardown, ProcM.bind_apply, hterm, hδ, wait, hrun]
    rfl
  | some t =>
    by_cases h : t.delay ≤ 5000
    · refine .inl ⟨t, rfl, h, ?_⟩
      simp only [ruststackProcessTeardown, ProcM.bind_apply, hterm, hδ, wait, hrun, Nat.reduceMul,
        if_pos h]
      simp [Child.exit, hδ]
    · refine .inr ⟨by simpa using h, ?_⟩
      simp only [ruststackProcessTeardown, ProcM.bind_apply, hterm, hδ, wait, hrun, Nat.reduceMul,
        if_neg h]
      rfl

/-! ### The fixture over a session -/

theorem Child.fresh_stuck (capacity : Nat) (onTerm : Option OnTerm) :
    (Child.fresh capacity onTerm).stuck = none := rfl

/-- From the child `Popen` starts, the session blocks the child exactly when what it writes to one
stream, while the fixture polls and while the tests run, exceeds the capacity of a pipe. -/
theorem session_stuck_iff (capacity : Nat) (onTerm : Option OnTerm) (boot acts : List Act) :
    (childRun (childRun (.fresh capacity onTerm) boot) acts).stuck = none ↔
      ∀ s, (written s (boot ++ acts)).length ≤ capacity := by
  rw [← childRun_append, (childRun_spec (Child.fresh_stuck capacity onTerm) _).1]
  refine forall_congr' fun s => ?_
  cases s <;> simp [Child.fresh, Child.pipe, Pipe.empty]

/-- A blocked child answers no request the session goes on to make. -/
theorem served_of_stuck (c : Child) (xs ys : List Act) (h : (childRun c xs).stuck ≠ none) :
    (childRun c (xs ++ ys)).served = (childRun c xs).served := by
  rw [childRun_append, childRun_of_stuck h]

/-- The fixture with the binary present, from the child `Popen` starts: what the generator does
after `wait_for_ruststack` returned or raised. -/
theorem ruststackProcess_of_wait (host : Host) (config : Config) (t₀ fuel tEnd : Nat)
    (ready : Except Exn Bool) (boot acts : List Act)
    (hbin : host.pathExists (binaryPath host.environ) = true)
    (hwait : waitForRuststack host.service defaultTimeout t₀ fuel = some (ready, tEnd)) :
    ruststackProcess host config t₀ fuel boot acts =
      some (match ruststackProcessBody config.endpoint ready
          (popenArgs (binaryPath host.environ) config.port) boot acts
          (.fresh host.pipeCapacity host.onTerm) with
        | .ok ep c => (.ok ep, some c)
        | .error e c => (.error e, some c)) := by
  simp only [ruststackProcess, hbin, if_true, hwait, Option.map_some']

theorem ruststackProcessBody_ready (endpoint : String) (args : List String) (boot acts : List Act)
    (c : Child) :
    ruststackProcessBody endpoint (.ok true) args boot acts c =
      match ruststackProcessTeardown args (childRun (childRun c boot) acts) with
      | .ok _ c' => .ok endpoint c'
      | .error e c' => .error e c' := by
  simp only [ruststackProcessBody, withFinally, ProcM.bind_apply, childActs, startupCheck,
    ProcM.pure_apply]
  cases ruststackProcessTeardown args (childRun (childRun c boot) acts) <;> rfl

/-- With the binary present and the service ready: the child runs through the session, and the
`finally` either sees it exit within five seconds of SIGTERM, with its own return code, or raises
`TimeoutExpired` and leaves it running. -/
theorem ruststackProcess_ready (host : Host) (config : Config) (t₀ fuel tEnd : Nat)
    (boot acts : List Act) (hbin : host.pathExists (binaryPath host.environ) = true)
    (hwait : waitForRuststack host.service defaultTimeout t₀ fuel = some (.ok true, tEnd)) :
    let c := childRun (childRun (.fresh host.pipeCapacity host.onTerm) boot) acts
    (∃ t, host.onTerm = some t ∧ t.delay ≤ 5000 ∧
        ruststackProcess host config t₀ fuel boot acts =
          some (.ok config.endpoint, some (c.exit t.returncode))) ∨
      ((∀ t, host.onTerm = some t → 5000 < t.delay) ∧
        ruststackProcess host config t₀ fuel boot acts =
          some (.error (timeoutExpired (popenArgs (binaryPath host.environ) config.port) 5),
            some { c with exitIn := host.onTerm.map (OnTerm.later 5000) })) := by
  intro c
  obtain ⟨hrc₁, hterm₁, -⟩ := childRun_frame (.fresh host.pipeCapacity host.onTerm) boot
  obtain ⟨hrc₂, hterm₂, -⟩ :=
    childRun_frame (childRun (.fresh host.pipeCapacity host.onTerm) boot) acts
  have hrun : c.returncode = none := hrc₂.trans hrc₁
  have hon : c.onTerm = host.onTerm := hterm₂.trans hterm₁
  rw [ruststackProcess_of_wait host config t₀ fuel tEnd _ boot acts hbin hwait,
    ruststackProcessBody_ready]
  rcases teardown_spec (popenArgs (binaryPath host.environ) config.port) hrun with
    ⟨t, ht, hδ, hd⟩ | ⟨hδ, hd⟩
  · rw [hon] at ht
    exact .inl ⟨t, ht, hδ, by rw [hd]⟩
  · rw [hon] at hδ
    exact .inr ⟨hδ, by rw [hd, hon]⟩

/-- The `finally` on a child that has exited does nothing: `terminate` signals no exited child and
`wait` returns its return code at once. -/
theorem teardown_of_exited (args : List String) {c : Child} {rc : Int}
    (h : c.returncode = some rc) :
    ruststackProcessTeardown args c = .ok () c := by
  simp only [ruststackProcessTeardown, ProcM.bind_apply, terminate, h, wait, ProcM.pure_apply]

/-- The binary in place, 64 KiB pipes, a RustStack that exits at once on SIGTERM, and a service
that never answers. -/
def deafHost : Host := ⟨fun _ => none, fun _ => true, 65536, some ⟨0, -15⟩, hangingService⟩

/-- The binary in place, 64 KiB pipes, a RustStack that ignores SIGTERM, and a service that
answers `running`. -/
def ignoringHost : Host := ⟨fun _ => none, fun _ => true, 65536, none, runningService⟩

theorem sigterm_ignored_child_survives :
    ∃ c, ruststackProcess ignoringHost defaultConfig 0 1 [] [] =
        some (.error ⟨.timeoutExpired, "Command \x27[\x27./target/release/ruststack\x27, " ++
          "\x27--host\x27, \x270.0.0.0\x27, \x27--port\x27, \x274566\x27]\x27 timed out after 5 " ++
          "seconds"⟩, some c) ∧
      c.returncode = none :=
  ⟨_, rfl, rfl⟩

/-- The binary in place, 64 KiB pipes, a RustStack killed by SIGTERM 0.1 s after it, and a service
that answers `running`. -/
def chattyHost : Host := ⟨fun _ => none, fun _ => true, 65536, some ⟨100, -15⟩, runningService⟩

theorem chatty_child_stops_serving (n : Nat) :
    ∃ c, ruststackProcess chattyHost defaultConfig 0 1 []
        (.write .stderr (List.replicate 65537 0x78) :: List.replicate n .serve) =
        some (.ok "http://localhost:4566", some c) ∧ c.served = 0 := by
  let w : Act := .write .stderr (List.replicate 65537 0x78)
  have hstuck : (childRun (.fresh 65536 (some ⟨100, -15⟩)) [w]).stuck ≠ none := fun h => by
    have hfit := (session_stuck_iff 65536 (some ⟨100, -15⟩) [] [w]).mp h .stderr
    simp only [List.nil_append, written, List.flatMap_cons, List.flatMap_nil, Act.output, if_true,
      List.append_nil, List.length_replicate] at hfit
    omega
  rcases ruststackProcess_ready chattyHost defaultConfig 0 1 5 [] (w :: List.replicate n .serve)
    rfl rfl with ⟨t, ht, -, h⟩ | ⟨hδ, -⟩
  · exact ⟨_, h, (served_of_stuck _ [w] _ hstuck).trans rfl⟩
  · exact absurd (hδ _ rfl) (by decide)

end RustStackHarness.Process
