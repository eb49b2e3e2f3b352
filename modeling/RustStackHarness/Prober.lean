import RustStackHarness.IntegrationScript

/-! `wait_for_ruststack`: read the wall clock, then, while less than `timeout` has elapsed on it,
make a health request with a one-second timeout, return `True` on status 200, swallow a
`RequestException`, and sleep 0.1 s.  Time is in milliseconds: `now` is real time, `clock` what
`time.time()` reads at a real time, and each attempt takes the real time its environment gives.
The loop counts its iterations against `fuel`, and runs out of it only while still polling. -/

namespace RustStackHarness.Prober

open Python

/-- One health request: the real time it took, and what it returned or raised. -/
structure Attempt where
  duration : Nat
  reply : Except Exn Response

/-- The run's clocks and health requests: `time.time()` at each real time, and the `k`-th
attempt. -/
structure ProbeEnv where
  clock : Nat → Int
  attempt : Nat → Attempt

/-- `resp.status_code == 200`. -/
def isReady (r : Response) : Bool := r.statusCode == 200

/-- `time.sleep(0.1)`. -/
def pollInterval : Nat := 100

/-- The `while` loop from real time `now`, before the `k`-th attempt: the value returned or the
exception raised, with the real time at which the call ends. -/
def probeLoop (env : ProbeEnv) (timeout : Nat) (start : Int) : Nat → Nat → Nat →
    Option (Except Exn Bool × Nat)
  | fuel, k, now =>
    if env.clock now - start < timeout then
      match fuel with
      | 0 => none
      | fuel + 1 =>
        let a := env.attempt k
        match a.reply with
        | .ok r =>
          if isReady r then some (.ok true, now + a.duration)
          else probeLoop env timeout start fuel (k + 1) (now + a.duration + pollInterval)
        | .error e =>
          if e.cls = .requestException then
            probeLoop env timeout start fuel (k + 1) (now + a.duration + pollInterval)
          else some (.error e, now + a.duration)
    else some (.ok false, now)

/-- `wait_for_ruststack(endpoint, timeout)` called at real time `t₀`. -/
def waitForRuststack (env : ProbeEnv) (timeout t₀ fuel : Nat) : Option (Except Exn Bool × Nat) :=
  probeLoop env timeout (env.clock t₀) fuel 0 t₀

/-- `wait_for_ruststack`'s default `timeout` of 30 s, which both session fixtures use. -/
def defaultTimeout : Nat := 30000

/-! ### When the service never answers 200 -/

/-- An attempt that does not end the loop: a response other than 200, or a `RequestException`. -/
def Attempt.NotReady (a : Attempt) : Prop :=
  match a.reply with
  | .ok r => isReady r = false
  | .error e => e.cls = .requestException

section NeverReady

variable {env : ProbeEnv} {c : Int} (hclock : ∀ t, env.clock t = t + c) {d : Nat}
  (hattempt : ∀ k, (env.attempt k).duration ≤ d ∧ (env.attempt k).NotReady)
include hclock hattempt

/-- From `e` ms after the call, with fuel for the rest of the budget, the loop returns `False` at
least `timeout` and less than `timeout + d + 0.1 s` after the call. -/
theorem probeLoop_false (timeout t₀ : Nat) : ∀ fuel k e, e < timeout + d + pollInterval →
    timeout ≤ e + pollInterval * fuel →
    ∃ E, probeLoop env timeout (env.clock t₀) fuel k (t₀ + e) = some (.ok false, t₀ + E) ∧
      timeout ≤ E ∧ E < timeout + d + pollInterval := by
  intro fuel
  induction fuel with
  | zero =>
    intro k e he hfuel
    refine ⟨e, ?_, by omega, he⟩
    rw [probeLoop, if_neg (by rw [hclock, hclock]; omega)]
  | succ fuel ih =>
    intro k e he hfuel
    by_cases hlt : e < timeout
    · obtain ⟨hd, hnot⟩ := hattempt k
      obtain ⟨E, hE, hE₁, hE₂⟩ := ih (k + 1) (e + (env.attempt k).duration + pollInterval)
        (by simp only [pollInterval] at *; omega) (by simp only [pollInterval] at *; omega)
      refine ⟨E, ?_, hE₁, hE₂⟩
      have hnow : t₀ + e + (env.attempt k).duration + pollInterval =
          t₀ + (e + (env.attempt k).duration + pollInterval) := by omega
      rw [probeLoop, if_pos (by rw [hclock, hclock]; omega)]
      simp only [Attempt.NotReady] at hnot
      cases hr : (env.attempt k).reply with
      | ok r =>
        rw [hr] at hnot
        simp only [hr, hnot, Bool.false_eq_true, if_false, hnow, hE]
      | error e' =>
        rw [hr] at hnot
        simp only [hr, hnot, if_true, hnow, hE]
    · refine ⟨e, ?_, by omega, he⟩
      rw [probeLoop, if_neg (by rw [hclock, hclock]; omega)]

end NeverReady

/-- With a wall clock that advances with real time, and attempts that each take at most `d` ms and
never answer 200: `wait_for_ruststack` returns `False`, at least `timeout` and less than
`timeout + d + 0.1 s` after the call, given fuel for `timeout / 0.1 s` iterations. -/
theorem wait_returns_false (env : ProbeEnv) (c : Int) (hclock : ∀ t, env.clock t = t + c) (d : Nat)
    (hattempt : ∀ k, (env.attempt k).duration ≤ d ∧ (env.attempt k).NotReady)
    (timeout t₀ fuel : Nat) (hfuel : timeout ≤ pollInterval * fuel) :
    ∃ E, waitForRuststack env timeout t₀ fuel = some (.ok false, t₀ + E) ∧
      timeout ≤ E ∧ E < timeout + d + pollInterval := by
  simpa using probeLoop_false hclock hattempt timeout t₀ fuel 0 0
    (by simp only [pollInterval]; omega) (by omega)

/-- A service that never answers: each request raises after its one-second read timeout, and the
wall clock follows real time. -/
def hangingService : ProbeEnv where
  clock t := t
  attempt _ := ⟨1000, .error ⟨.requestException, "Read timed out. (read timeout=1)"⟩⟩

theorem wait_returns_false_hanging :
    (∀ t, hangingService.clock t = t + 0) ∧
      (∀ k, (hangingService.attempt k).duration ≤ 1000 ∧ (hangingService.attempt k).NotReady) ∧
      500 ≤ pollInterval * 5 ∧
      ∃ E, waitForRuststack hangingService 500 0 5 = some (.ok false, 0 + E) ∧ 500 ≤ E ∧
        E < 500 + 1000 + pollInterval :=
  have hclock : ∀ t, hangingService.clock t = t + 0 := fun _ => by simp [hangingService]
  have hattempt : ∀ k, (hangingService.attempt k).duration ≤ 1000 ∧
      (hangingService.attempt k).NotReady := fun _ => ⟨le_refl _, rfl⟩
  ⟨hclock, hattempt, by decide,
    wait_returns_false hangingService 0 hclock 1000 hattempt 500 0 5 (by decide)⟩

/-- With a budget of half a second, `wait_for_ruststack` against the hanging service returns
`False` 1.1 s after the call, later than the budget plus one polling interval. -/
theorem wait_overruns_interval :
    waitForRuststack hangingService 500 0 5 = some (.ok false, 1100) ∧ 500 + pollInterval < 1100 :=
  ⟨rfl, by decide⟩

/-! ### What counts as ready -/

open IntegrationScript in
/-- `test_health_check` passes on a response exactly when its status is 200 and its body is a JSON
object whose `status` field, the last of that name, is the string `"running"`. -/
theorem testHealthCheck_ok_iff (w : World) (r : Response) (hr : w.env.health w.next = .ok r) :
    (∃ w', testHealthCheck w = .ok () w') ↔
      r.statusCode = 200 ∧ ∃ fields, r.json = some (.obj fields) ∧
        Json.eqStr "running" (fields.reverse.lookup "status") = true := by
  have hg : getHealth w = .ok r (w.log (.get true)) := by simp [getHealth, hr]
  simp only [testHealthCheck, bind_def, EStateM.bind, hg, assertThat]
  by_cases h200 : r.statusCode = 200
  · simp only [h200, beq_self_eq_true, if_true, true_and, decodeJson]
    cases hj : r.json with
    | none => simp
    | some j =>
      cases j <;> simp [dictGet]
      split <;> simp [*]
  · simp [h200]

/-- The real time at which the `k`-th attempt starts when no earlier one ended the loop. -/
def attemptStart (env : ProbeEnv) (t₀ : Nat) : Nat → Nat
  | 0 => t₀
  | k + 1 => attemptStart env t₀ k + (env.attempt k).duration + pollInterval

/-- A loop that returns `True` does so at the end of an attempt that got status 200 and started
while the wall clock showed less than `timeout` elapsed. -/
theorem probeLoop_true (env : ProbeEnv) (timeout t₀ tEnd : Nat) : ∀ fuel k,
    probeLoop env timeout (env.clock t₀) fuel k (attemptStart env t₀ k) = some (.ok true, tEnd) →
    ∃ j r, (env.attempt j).reply = .ok r ∧ isReady r = true ∧
      env.clock (attemptStart env t₀ j) - env.clock t₀ < timeout ∧
      tEnd = attemptStart env t₀ j + (env.attempt j).duration := by
  intro fuel
  induction fuel with
  | zero =>
    intro k h
    rw [probeLoop] at h
    split at h <;> simp at h
  | succ fuel ih =>
    intro k h
    rw [probeLoop] at h
    split at h
    · rename_i hbudget
      simp only at h
      split at h
      · rename_i r hr
        split at h
        · simp only [Option.some.injEq, Prod.mk.injEq] at h
          exact ⟨k, r, hr, ‹_›, hbudget, h.2.symm⟩
        · exact ih (k + 1) h
      · split at h
        · exact ih (k + 1) h
        · simp at h
    · simp at h

open IntegrationScript in
/-- Every response `test_health_check` accepts is ready for `wait_for_ruststack`, which looks at
the status code alone; and `wait_for_ruststack` returns `True` only at the end of an attempt that
got status 200 and started within the budget on the wall clock. -/
theorem readiness_spec (w : World) (r : Response) (hr : w.env.health w.next = .ok r)
    (env : ProbeEnv) (timeout t₀ fuel tEnd : Nat) :
    ((∃ w', testHealthCheck w = .ok () w') → isReady r = true) ∧
      (waitForRuststack env timeout t₀ fuel = some (.ok true, tEnd) →
        ∃ k r', (env.attempt k).reply = .ok r' ∧ isReady r' = true ∧
          env.clock (attemptStart env t₀ k) - env.clock t₀ < timeout ∧
          tEnd = attemptStart env t₀ k + (env.attempt k).duration) := by
  refine ⟨fun h => ?_, probeLoop_true env timeout t₀ tEnd fuel 0⟩
  simp [isReady, ((testHealthCheck_ok_iff w r hr).mp h).1]

/-- A 200 whose body reports the service degraded. -/
def degraded : Response :=
  ⟨200, "\x7b\"status\": \"degraded\"\x7d", some (.obj [("status", .str "degraded")])⟩

/-- A world whose health requests all get `degraded`. -/
def degradedWorld : World :=
  ⟨⟨fun _ => none, fun _ => [], fun _ => "", fun _ => .ok degraded⟩, [], []⟩

/-- A service that answers every probe with `degraded` after 5 ms. -/
def degradedService : ProbeEnv where
  clock t := t
  attempt _ := ⟨5, .ok degraded⟩

/-- A 200 whose body reports the service running. -/
def running : Response :=
  ⟨200, "\x7b\"status\": \"running\"\x7d", some (.obj [("status", .str "running")])⟩

/-- A world whose health requests all get `running`. -/
def runningWorld : World :=
  ⟨⟨fun _ => none, fun _ => [], fun _ => "", fun _ => .ok running⟩, [], []⟩

/-- A service that answers every probe with `running` after 5 ms. -/
def runningService : ProbeEnv where
  clock t := t
  attempt _ := ⟨5, .ok running⟩

open IntegrationScript in
/-- A response `test_health_check` accepts, which the prober counts as ready, and the degraded one,
which it rejects. -/
theorem readiness_spec_running_degraded :
    (runningWorld.env.health runningWorld.next = .ok running ∧
      (∃ w', testHealthCheck runningWorld = .ok () w') ∧
      (((∃ w', testHealthCheck runningWorld = .ok () w') → isReady running = true) ∧
        (waitForRuststack runningService 500 0 1 = some (.ok true, 5) →
          ∃ k r', (runningService.attempt k).reply = .ok r' ∧ isReady r' = true ∧
            runningService.clock (attemptStart runningService 0 k) - runningService.clock 0 < 500 ∧
            5 = attemptStart runningService 0 k + (runningService.attempt k).duration))) ∧
    (degradedWorld.env.health degradedWorld.next = .ok degraded ∧
      (((∃ w', testHealthCheck degradedWorld = .ok () w') → isReady degraded = true) ∧
        (waitForRuststack degradedService 500 0 1 = some (.ok true, 5) →
          ∃ k r', (degradedService.attempt k).reply = .ok r' ∧ isReady r' = true ∧
            degradedService.clock (attemptStart degradedService 0 k) - degradedService.clock 0 < 500 ∧
            5 = attemptStart degradedService 0 k + (degradedService.attempt k).duration))) :=
  ⟨⟨rfl, ⟨_, rfl⟩, readiness_spec runningWorld running rfl runningService 500 0 1 5⟩,
    ⟨rfl, readiness_spec degradedWorld degraded rfl degradedService 500 0 1 5⟩⟩

open IntegrationScript in
/-- `wait_for_ruststack` returns `True` on the first probe of the degraded service, and
`test_health_check` fails on the same response. -/
theorem degraded_ready_but_rejected :
    waitForRuststack degradedService 500 0 1 = some (.ok true, 5) ∧
      testHealthCheck degradedWorld =
        .error ⟨.assertionError, "Unexpected status: \x7b\x27status\x27: \x27degraded\x27\x7d"⟩
          (degradedWorld.log (.get true)) :=
  ⟨rfl, rfl⟩

/-! ### How long the loop runs -/

/-- From the `k`-th attempt on, the loop returns `True` at the end of the `j`-th when that is the
first to get status 200, every attempt before it got another status or a `RequestException`, and
every attempt up to it starts while the wall clock shows less than `timeout` elapsed. -/
theorem probeLoop_first_ready (env : ProbeEnv) (timeout t₀ j : Nat) (r : Response)
    (hbefore : ∀ i < j, (env.attempt i).NotReady)
    (hbudget : ∀ i ≤ j, env.clock (attemptStart env t₀ i) - env.clock t₀ < timeout)
    (hj : (env.attempt j).reply = .ok r) (hready : isReady r = true) :
    ∀ fuel k, k ≤ j → j - k < fuel →
      probeLoop env timeout (env.clock t₀) fuel k (attemptStart env t₀ k) =
        some (.ok true, attemptStart env t₀ j + (env.attempt j).duration) := by
  intro fuel
  induction fuel with
  | zero => intro k _ h; omega
  | succ fuel ih =>
    intro k hk hfuel
    rw [probeLoop, if_pos (hbudget k hk)]
    by_cases hkj : k = j
    · subst hkj
      simp [hj, hready]
    · have hnot := hbefore k (by omega)
      have hnext := ih (k + 1) (by omega) (by omega)
      simp only [Attempt.NotReady] at hnot
      cases hr : (env.attempt k).reply <;> simp only [hr] at hnot <;> simpa [hr, hnot] using hnext

/-- `wait_for_ruststack` returns `True` as soon as the service answers 200: at the end of the first
attempt that gets it, when every attempt up to that one starts within the budget on the wall clock
and every earlier one got another status or a `RequestException`. -/
theorem wait_returns_true (env : ProbeEnv) (timeout t₀ j : Nat) (r : Response)
    (hbefore : ∀ i < j, (env.attempt i).NotReady)
    (hbudget : ∀ i ≤ j, env.clock (attemptStart env t₀ i) - env.clock t₀ < timeout)
    (hj : (env.attempt j).reply = .ok r) (hready : isReady r = true) (fuel : Nat) (hfuel : j < fuel) :
    waitForRuststack env timeout t₀ fuel =
      some (.ok true, attemptStart env t₀ j + (env.attempt j).duration) :=
  probeLoop_first_ready env timeout t₀ j r hbefore hbudget hj hready fuel 0 (Nat.zero_le j)
    (by omega)

/-- A service that refuses two connections, 50 ms each, and then answers 200 after 20 ms. -/
def bootingService : ProbeEnv where
  clock t := t
  attempt k := if k < 2 then ⟨50, .error ⟨.requestException, "Connection refused"⟩⟩
    else ⟨20, .ok ⟨200, "", none⟩⟩

theorem wait_returns_true_booting :
    (∀ i < 2, (bootingService.attempt i).NotReady) ∧
      (∀ i ≤ 2, bootingService.clock (attemptStart bootingService 0 i) - bootingService.clock 0
        < 30000) ∧
      (bootingService.attempt 2).reply = .ok ⟨200, "", none⟩ ∧ isReady ⟨200, "", none⟩ = true ∧
      2 < 3 ∧
      waitForRuststack bootingService 30000 0 3 =
        some (.ok true, attemptStart bootingService 0 2 + (bootingService.attempt 2).duration) :=
  have hbefore : ∀ i < 2, (bootingService.attempt i).NotReady := fun i hi => by
    simp [bootingService, hi, Attempt.NotReady]
  have hbudget : ∀ i ≤ 2, bootingService.clock (attemptStart bootingService 0 i) -
      bootingService.clock 0 < 30000 := fun i hi => by
    rcases i with _ | _ | _ | i
    all_goals first | decide | omega
  ⟨hbefore, hbudget, rfl, rfl, by decide,
    wait_returns_true bootingService 30000 0 2 _ hbefore hbudget rfl rfl 3 (by decide)⟩

section Budget

variable {env : ProbeEnv} {c : Int} (hclock : ∀ t, env.clock t = t + c)
include hclock

/-- With a wall clock that advances with real time, the loop ends, whatever the attempts return,
within as many iterations as polling intervals fit in what is left of the budget. -/
theorem probeLoop_ends (timeout t₀ : Nat) : ∀ fuel k e, timeout ≤ e + pollInterval * fuel →
    probeLoop env timeout (env.clock t₀) fuel k (t₀ + e) ≠ none := by
  intro fuel
  induction fuel with
  | zero =>
    intro k e hfuel
    rw [probeLoop, if_neg (by rw [hclock, hclock]; omega)]
    simp
  | succ fuel ih =>
    intro k e hfuel
    by_cases hlt : e < timeout
    · have hnext := ih (k + 1) (e + (env.attempt k).duration + pollInterval)
        (by simp only [pollInterval] at *; omega)
      have hnow : t₀ + e + (env.attempt k).duration + pollInterval =
          t₀ + (e + (env.attempt k).duration + pollInterval) := by omega
      rw [probeLoop, if_pos (by rw [hclock, hclock]; omega)]
      dsimp only
      split <;> split <;> simp [hnow, hnext]
    · rw [probeLoop, if_neg (by rw [hclock, hclock]; omega)]
      simp

/-- With a wall clock that advances with real time, `wait_for_ruststack` makes at most
`timeout / 0.1 s` health requests, rounded up, whatever they return or raise and however long each
takes: with fuel for that many iterations it has returned or raised. -/
theorem wait_ends (timeout t₀ fuel : Nat) (hfuel : timeout ≤ pollInterval * fuel) :
    waitForRuststack env timeout t₀ fuel ≠ none := by
  simpa using probeLoop_ends hclock timeout t₀ fuel 0 0 (by omega)

end Budget

theorem wait_ends_booting :
    (∀ t, bootingService.clock t = t + 0) ∧ 30000 ≤ pollInterval * 300 ∧
      waitForRuststack bootingService 30000 0 300 ≠ none :=
  have hclock : ∀ t, bootingService.clock t = t + 0 := fun _ => by simp [bootingService]
  ⟨hclock, by decide, wait_ends hclock 30000 0 300 (by decide)⟩

end RustStackHarness.Prober
