import ScopedWork.Proofs.Accounting
import ScopedWork.Proofs.Conduct

/-! # Who takes an action

An action is taken by the innermost activation of a thread. Here is what is known of that activation
when an action is enabled, and of the slots whose leases it and the works have.
-/

namespace ScopedWork

namespace System

variable {system : System} {events : List Event} {thread : ThreadId}

/-- A thread that leaves a context waits for a scope that is open and settled by then, and what it comes
to does not depend on the way it leaves. -/
theorem leave_cases (sound : system.picture.Sound events) (enabled : system.Enabled (.leave thread)) :
    ∃ activation others scope departure, system.Innermost thread activation others ∧
      activation.leaving = some (scope, departure) ∧ 0 < activation.contexts scope ∧
      (system.scope scope).isSettled = true ∧ (system.scope scope).isEntered = true ∧
      system.perform (.leave thread) = system.left thread scope := by
  obtain ⟨activation, others, scope, departure, top, leaving, owned, settled, entered, unclosed, -, left⟩ :=
    leaving_cases sound.tenancy enabled
  refine ⟨activation, others, scope, departure, top, leaving, owned, settled, entered, ?_⟩
  simp only [perform, left, Option.elim_some]
  exact leave_eq unclosed departure

/-- A program in its midst that names a lease has it. -/
theorem lease_cases {name : String} (running : system.isRunning thread = true)
    (held : (system.lease? thread name).isSome = true) :
    ∃ activation others lease, system.Innermost thread activation others ∧ system.picture.IsRunning activation ∧
      activation.leases.lookup name = some lease ∧ system.lease? thread name = some lease := by
  obtain ⟨activation, others, top, busy⟩ := innermost_of_isRunning running
  obtain ⟨lease, held⟩ := Option.isSome_iff_exists.mp held
  refine ⟨activation, others, lease, top, busy, ?_, held⟩
  rwa [lease?, top.activation_eq] at held

/-! ## Leased slots -/

theorem holds_of_lookup {activation : Activation} {name : String} {lease : Lease}
    (held : activation.leases.lookup name = some lease) : 0 < activation.holds lease := by
  obtain ⟨before, after, split, -⟩ := List.lookup_eq_some_iff.mp held
  refine List.countP_pos_iff.mpr ⟨(name, lease), ?_, beq_self_eq_true _⟩
  rw [split]
  exact List.mem_append_right _ List.mem_cons_self

theorem holds_eq_true {work : Work} {lease : Lease} :
    work.holds lease = true ↔ work.leased = true ∧ work.station = some lease := by
  rw [Work.holds, Bool.and_eq_true, beq_iff_eq]

/-- A slot is leased exactly when someone has its lease. -/
theorem leased_eq (sound : system.picture.Sound events) (lease : Lease) :
    (system.crew.map (·.holds lease)).sum + system.works.countP (·.holds lease) =
      (system.station lease).leased.toNat :=
  sound.leasing.single lease

/-- The slot of a lease that a program has is leased. -/
theorem leased_of_crew (sound : system.picture.Sound events) {activation : Activation}
    (member : activation ∈ system.crew) {lease : Lease} (holds : 0 < activation.holds lease) :
    (system.station lease).leased = true := by
  have counted : activation.holds lease ≤ (system.crew.map (·.holds lease)).sum :=
    Multiset.single_le_sum (fun _ _ => Nat.zero_le _) _ (Multiset.mem_map_of_mem _ member)
  have single := leased_eq sound lease
  by_contra free
  rw [Bool.not_eq_true] at free
  rw [free, Bool.toNat_false] at single
  omega

theorem lt_of_holds {work : WorkId} {lease : Lease} (holds : (system.work work).holds lease = true) :
    work < system.works.length :=
  lt_of_work (p := fun work => work.holds lease = true) holds Bool.false_ne_true

/-- The slot of a lease that a work holds is leased. -/
theorem leased_of_work (sound : system.picture.Sound events) (work : WorkId) (lease : Lease)
    (holds : (system.work work).holds lease = true) : (system.station lease).leased = true := by
  have counted : 0 < system.works.countP (·.holds lease) :=
    List.countP_pos_iff.mpr ⟨_, List.mem_of_getElem? (works_getElem? system (lt_of_holds holds)), holds⟩
  have single := leased_eq sound lease
  by_contra free
  rw [Bool.not_eq_true] at free
  rw [free, Bool.toNat_false] at single
  omega

end System

end ScopedWork
