import RustStackHarness.Conftest

/-! The teardowns of `s3_bucket` and `iam_role` list a resource's children once, remove each, and
delete the resource, inside one `try`.  For every listing and every pattern of failures, the final
delete is issued exactly when the listing and every removal returned: the first failing call ends
the cleanup, and only the children of the one page the listing returned are removed. -/

namespace RustStackHarness.Drain

open Python Conftest

variable {α : Type}

/-- A loop of calls, one per element, from `u`: either every call returns, or the loop stops at the
first that raises. -/
theorem forM_call_cases (op : Op) (args : α → List String) (xs : List α) (u : World) :
    ((∀ i < xs.length, u.env.fault (u.next + i) = none) ∧
      (xs.forM fun x => call op (args x)) u =
        .ok () (u.logAll (xs.map fun x => .call op (args x) true))) ∨
    (∃ j, ∃ hj : j < xs.length, ∃ m, (∀ i < j, u.env.fault (u.next + i) = none) ∧
      u.env.fault (u.next + j) = some m ∧
      (xs.forM fun x => call op (args x)) u =
        .error ⟨.clientError, m⟩ (u.logAll ((xs.take j).map (fun x => .call op (args x) true) ++
          [.call op (args (xs.get ⟨j, hj⟩)) false]))) := by
  induction xs generalizing u with
  | nil => exact .inl ⟨by simp, by simp [World.logAll]⟩
  | cons x xs ih =>
    cases hf : u.env.fault u.next with
    | some m =>
      refine .inr ⟨0, by simp, m, by simp, by simpa using hf, ?_⟩
      simp [forM_cons, bind_error (call_error hf), World.logAll, World.log]
    | none =>
      have hshift : ∀ i, (u.log (.call op (args x) true)).env.fault
          ((u.log (.call op (args x) true)).next + i) = u.env.fault (u.next + (i + 1)) := by
        intro i; simp only [World.log_env, World.next_log]; congr 1; omega
      rcases ih (u.log (.call op (args x) true)) with ⟨hall, hrun⟩ | ⟨j, hj, m, hbefore, hj', hrun⟩
      · refine .inl ⟨fun i hi => ?_, ?_⟩
        · cases i with
          | zero => simpa using hf
          | succ i => rw [← hshift]; exact hall i (by simpa using hi)
        · rw [forM_cons, bind_ok (call_ok hf), hrun]; simp
      · refine .inr ⟨j + 1, by simpa using hj, m, fun i hi => ?_, by rw [← hshift]; exact hj', ?_⟩
        · cases i with
          | zero => simpa using hf
          | succ i => rw [← hshift]; exact hbefore i (by omega)
        · rw [forM_cons, bind_ok (call_ok hf), hrun]; simp

/-- The final delete of a drain-then-delete teardown is issued exactly when the listing returned
and so did the removal of every child on the page it listed. -/
theorem drainThenDelete_deletes_iff {list removeChild delete : Op} (hlist : list ≠ delete)
    (hrc : removeChild ≠ delete) (ident : String) (u : World) :
    (∃ ok, Event.call delete [ident] ok ∈
        (runPy (drainThenDelete list removeChild delete ident) u).2.trace.drop u.trace.length) ↔
      u.env.fault u.next = none ∧
        ∀ i < (u.env.listing u.next).length, u.env.fault (u.next + 1 + i) = none := by
  cases hl : u.env.fault u.next with
  | some m =>
    simp [drainThenDelete, runPy, swallow, bind_def, EStateM.bind, request_error hl,
      ExnClass.isException, hlist.symm]
  | none =>
    have hu₁ : ∀ i, (u.log (.call list [ident] true)).env.fault
        ((u.log (.call list [ident] true)).next + i) = u.env.fault (u.next + 1 + i) := by simp
    rcases forM_call_cases removeChild (fun c => [ident, c]) (u.env.listing u.next)
        (u.log (.call list [ident] true)) with ⟨hall, hrun⟩ | ⟨j, hj, m, -, hjm, hrun⟩
    · simp only [drainThenDelete, runPy, swallow, bind_def, EStateM.bind, request_ok hl, hrun]
      have hall' : ∀ i < (u.env.listing u.next).length, u.env.fault (u.next + 1 + i) = none :=
        fun i hi => (hu₁ i).symm.trans (hall i hi)
      have hidx : u.next + ((u.env.listing u.next).length + 1) =
          u.next + 1 + (u.env.listing u.next).length := by omega
      cases hd : u.env.fault (u.next + 1 + (u.env.listing u.next).length) with
      | none =>
        rw [call_ok (by simpa [hidx] using hd)]
        simpa using hall'
      | some m =>
        rw [call_error (by simpa [hidx] using hd)]
        simpa [ExnClass.isException] using hall'
    · simp only [drainThenDelete, runPy, swallow, bind_def, EStateM.bind, request_ok hl, hrun]
      rw [hu₁] at hjm
      simp [ExnClass.isException, hlist.symm, hrc.symm]
      constructor
      · rintro (h | h) <;> obtain ⟨x, -, hx⟩ := List.mem_map.mp (List.mem_of_mem_take h) <;>
          simp [hrc] at hx
      · intro hall
        simp [hall j hj] at hjm

/-- A role with two attached policies, `p1` and `p2`, whose second detach raises. -/
def secondDetachFails : Env where
  fault k := if k = 2 then some "An error occurred (ServiceFailure) when calling DetachRolePolicy"
    else none
  listing _ := ["p1", "p2"]
  ident _ := "0"
  health _ := .error "unused"

/-- There the teardown of `iam_role` detaches `p1`, fails on `p2`, and issues no `delete_role`. -/
theorem drainThenDelete_deletes_iff_detach_fails :
    Op.listAttachedRolePolicies ≠ Op.deleteRole ∧ Op.detachRolePolicy ≠ Op.deleteRole ∧
      ((∃ ok, Event.call .deleteRole ["test-role-0"] ok ∈
          (runPy (drainThenDelete .listAttachedRolePolicies .detachRolePolicy .deleteRole
            "test-role-0") ⟨secondDetachFails, [], []⟩).2.trace.drop 0) ↔
        secondDetachFails.fault 0 = none ∧
          ∀ i < (secondDetachFails.listing 0).length, secondDetachFails.fault (0 + 1 + i) = none) :=
  have hlist : Op.listAttachedRolePolicies ≠ Op.deleteRole := by decide
  have hrc : Op.detachRolePolicy ≠ Op.deleteRole := by decide
  ⟨hlist, hrc, drainThenDelete_deletes_iff hlist hrc "test-role-0" ⟨secondDetachFails, [], []⟩⟩

/-- A bucket holding one object, `a.txt`, whose `delete_object` raises. -/
def oneObjectDeleteFails : Env where
  fault k := if k = 1 then some "An error occurred (InternalError) when calling DeleteObject" else none
  listing _ := ["a.txt"]
  ident _ := "0"
  health _ := .error "unused"

/-- There the teardown of `s3_bucket` issues no `delete_bucket`. -/
theorem s3BucketTeardown_stops_at_failed_delete :
    (runPy (s3BucketTeardown "test-bucket-0") ⟨oneObjectDeleteFails, [], []⟩).2.trace =
      [.call .listObjectsV2 ["test-bucket-0"] true,
        .call .deleteObject ["test-bucket-0", "a.txt"] false] := by
  rfl

end RustStackHarness.Drain
