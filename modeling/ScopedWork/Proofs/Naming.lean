import ScopedWork.Proofs.Stations

/-! # The names of helpers

A helper is a thread, and a thread has a name, in which a zero byte cannot be: where a pool's helpers would
have one, a submission panics before its logic is placed. Elsewhere every logic that is submitted is placed,
with a helper or where it was submitted.
-/

namespace ScopedWork

namespace Pool

/-- Whether threads can have a name with this beginning: a zero would end it. -/
def isStem (stem : String) : Bool :=
  !stem.toList.contains '\x00'

/-- Only the zero has a byte in its encoding that is zero. -/
private theorem eq_zero_of_zero_mem {c : Char} (zero : (0 : UInt8) ∈ String.utf8EncodeChar c) : c = '\x00' := by
  have byte {n : Nat} (bound : n < 256) (same : (0 : UInt8) = UInt8.ofNat n) : n = 0 := by
    have toNat := congrArg UInt8.toNat same
    rw [UInt8.toNat_ofNat_of_lt' bound] at toNat
    exact toNat.symm
  have large {n : Nat} (low : n < 256) (high : 0 < n) : (0 : UInt8) ≠ UInt8.ofNat n :=
    fun same => Nat.ne_of_gt high (byte low same)
  unfold String.utf8EncodeChar at zero
  simp only at zero
  split at zero
  · rw [List.mem_singleton] at zero
    exact Char.ext (UInt32.toNat_inj.mp (byte (by omega) zero))
  · split at zero
    · simp only [List.mem_cons, List.not_mem_nil, or_false] at zero
      rcases zero with zero | zero <;> exact absurd zero (large (by omega) (by omega))
    · split at zero
      · simp only [List.mem_cons, List.not_mem_nil, or_false] at zero
        rcases zero with zero | zero | zero <;> exact absurd zero (large (by omega) (by omega))
      · simp only [List.mem_cons, List.not_mem_nil, or_false] at zero
        rcases zero with zero | zero | zero | zero <;> exact absurd zero (large (by omega) (by omega))

theorem namePanic?_eq_none {name : String} (fine : '\x00' ∉ name.toList) : namePanic? name = none := by
  rw [namePanic?]
  simp only [Option.map_eq_none_iff, List.findIdx?_eq_none_iff, List.mem_flatMap, beq_eq_false_iff_ne]
  rintro byte ⟨c, present, encoded⟩ rfl
  exact fine (eq_zero_of_zero_mem encoded ▸ present)

theorem namePanic?_helperName {Job : Type} {pool : Pool Job} (named : isStem pool.nameStem = true) (index : Nat) :
    namePanic? (pool.helperName index) = none := by
  apply namePanic?_eq_none
  rw [helperName, String.toList_append, String.toList_append]
  simp only [List.mem_append, not_or]
  refine ⟨⟨?_, by decide⟩, fun digit => ?_⟩
  · simpa [isStem] using named
  · have digits : '\x00' ∈ Nat.toDigits 10 index := Nat.toList_repr ▸ digit
    exact absurd (Nat.isDigit_of_mem_toDigits (by decide) (by decide) digits) (by decide)

end Pool

namespace System

variable {system : System}

/-- Where helpers can be given their names, no submission panics. -/
theorem submit_isOk (named : ∀ pool ∈ system.pools, Pool.isStem pool.nameStem = true) (thread : ThreadId)
    (scope : ScopeId) : ∃ placed, (system.submit thread scope).1 = .ok placed := by
  have stem (pool : PoolId) : Pool.isStem (system.pool pool).nameStem = true := by
    rw [System.pool]
    cases found : system.pools[pool]? with
    | none => decide
    | some record => exact named record (List.mem_of_getElem? found)
  rcases acquire_shapes (system.modifyScope scope Scope.countDispatched) (system.scope scope).pool
    (system.scope scope).concurrency with missed | ⟨payload, index, panicked, -⟩ | ⟨lease, -, -, -, had⟩
  · simp only [submit, missed]
    exact ⟨_, rfl⟩
  · rw [show (system.modifyScope scope Scope.countDispatched).pool (system.scope scope).pool =
      system.pool (system.scope scope).pool from rfl, Pool.namePanic?_helperName (stem _) index] at panicked
    exact absurd panicked (Option.some_ne_none payload).symm
  · rcases had with ⟨-, had⟩ | ⟨-, name, had⟩
    · simp only [submit, had]
      exact ⟨_, rfl⟩
    · simp only [submit, had]
      exact ⟨_, rfl⟩

end System

end ScopedWork
