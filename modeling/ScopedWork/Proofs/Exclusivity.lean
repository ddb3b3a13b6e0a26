import Mathlib.Data.Multiset.Bind
import ScopedWork.Proofs.Completion
import ScopedWork.Proofs.Helpers
import ScopedWork.Proofs.Occupancy
import ScopedWork.Proofs.Placing

/-! # One live lease for each slot

The mark of a slot, the count of its pool, the job in its channel and the lease that somebody has are
told apart only in the middle of an operation. At every point of a run they say the same: a slot is
leased as long as there is a live lease of it, and then there is one. A job waits in a channel only
with that lease, behind a job that has given its own up, so whoever has a lease finds room to send.
-/

namespace ScopedWork

namespace Pool

variable {Job : Type} (pool : Pool Job)

def leasedSlots : List Nat :=
  (List.range pool.slots.length).filter fun index => (pool.slot index).leased

theorem mem_leasedSlots {index : Nat} : index ∈ pool.leasedSlots ↔ (pool.slot index).leased = true := by
  rw [leasedSlots, List.mem_filter, List.mem_range, and_iff_right_iff_imp]
  exact lt_of_leased

theorem nodup_leasedSlots : pool.leasedSlots.Nodup :=
  List.nodup_range.filter _

theorem length_leasedSlots : pool.leasedSlots.length = pool.slots.countP (·.leased) := by
  have slots : (List.range pool.slots.length).map pool.slot = pool.slots := by
    refine List.ext_getElem (by rw [List.length_map, List.length_range]) fun index _ inside => ?_
    rw [List.getElem_map, List.getElem_range, slot, List.getElem?_eq_getElem inside, Option.getD_some]
  conv_rhs => rw [← slots, List.countP_map]
  rw [leasedSlots, ← List.countP_eq_length_filter]
  rfl

/-- A channel with room takes what is sent. -/
theorem dispatch_ne_blocked {index : Nat} (room : (pool.slot index).waiting = none) (job : Job) :
    (pool.dispatch index job).1 ≠ .blocked := by
  simp only [dispatch, room]
  split
  · split <;> simp_all
  · exact Handoff.noConfusion

end Pool

namespace System

variable {system : System} {events : List Event} {lease : Lease}

/-- The live leases: those that programs have and have not used, and those that works hold. -/
def liveLeases (system : System) : Multiset Lease :=
  (system.crew.bind fun activation => Multiset.ofList (activation.leases.map Prod.snd)) +
    Multiset.ofList (system.works.filterMap Work.held)

theorem count_liveLeases (lease : Lease) :
    system.liveLeases.count lease =
      (system.crew.map (·.holds lease)).sum + system.works.countP (·.holds lease) := by
  have programs (activation : Activation) :
      Multiset.count lease (activation.leases.map Prod.snd : List Lease) = activation.holds lease := by
    rw [Multiset.coe_count, List.count, List.countP_map]
    rfl
  have works : (system.works.filterMap Work.held).count lease = system.works.countP (·.holds lease) := by
    rw [List.count, List.countP_filterMap]
    refine List.countP_congr fun work _ => ?_
    cases leased : work.leased <;> cases place : work.station <;> simp [Work.held, Work.holds, leased, place]
  rw [liveLeases, Multiset.count_add, Multiset.count_bind, Multiset.coe_count, works]
  simp only [programs]

/-! ## The state of a slot -/

/-- A work in a channel has the one live lease of the slot, and the helper is still with a work that has
given the lease up. -/
structure Queued (system : System) (lease : Lease) (work : WorkId) : Prop where
  carries : (system.work work).leased = true ∧ (system.work work).station = some lease
  behind : ∃ helper job, (system.station lease).helper = .busy helper job ∧ job ≠ work ∧
    (system.work job).station = some lease ∧ (system.work job).phase.hasBegun = true ∧
    (system.work job).leased = false

/-- Leases, marks, counts, helpers and channels agree. -/
structure Exclusive (system : System) : Prop where
  /-- No two live leases are of one slot. -/
  distinct : system.liveLeases.Nodup
  bounded : ∀ lease ∈ system.liveLeases, lease.slot < (system.pool lease.pool).capacity
  marked : ∀ lease, (system.station lease).leased = true ↔ lease ∈ system.liveLeases
  counted : ∀ pool, (system.pool pool).busy = system.liveLeases.countP (·.pool = pool)
  busy_le : ∀ pool, (system.pool pool).busy ≤ (system.pool pool).capacity
  /-- To give a lease back is never to count down from zero. -/
  busy_pos : ∀ lease ∈ system.liveLeases, 0 < (system.pool lease.pool).busy
  /-- A helper runs at most one of the works that were sent to it. -/
  single : ∀ helper work other, (system.work work).phase.isActive = true →
    (system.work other).phase.isActive = true →
    (system.work work).placement = .helper helper → (system.work other).placement = .helper helper → work = other
  /-- Every work that waits is in the channel of the slot it was sent through, and that has room for one. -/
  queue : ∀ work < system.works.length, (system.work work).phase = .waiting →
    ∃ lease, (system.work work).station = some lease ∧ (system.station lease).waiting = some work
  queued : ∀ lease work, (system.station lease).waiting = some work → system.Queued lease work
  /-- Whoever has a lease can send through it without having to wait. -/
  room : ∀ activation ∈ system.crew, ∀ lease, 0 < activation.holds lease → ∀ work,
    ((system.pool lease.pool).dispatch lease.slot work).1 ≠ .blocked
  connected : ∀ activation ∈ system.crew, ∀ lease, 0 < activation.holds lease →
    (system.pool lease.pool).dropped = false → (system.station lease).sender = true
  /-- So can whoever acquires a lease now. -/
  acquired : ∀ pool limit lease after, system.acquire pool limit = (.ok (some lease), after) →
    (after.station lease).sender = true ∧ ∀ work, ((after.pool lease.pool).dispatch lease.slot work).1 ≠ .blocked

theorem count_liveLeases_eq (sound : system.picture.Sound events) (lease : Lease) :
    system.liveLeases.count lease = (system.station lease).leased.toNat :=
  (count_liveLeases lease).trans (leased_eq sound lease)

theorem mem_liveLeases_iff (sound : system.picture.Sound events) :
    lease ∈ system.liveLeases ↔ (system.station lease).leased = true := by
  rw [← Multiset.one_le_count_iff_mem, count_liveLeases_eq sound]
  cases (system.station lease).leased <;> decide

theorem nodup_liveLeases (sound : system.picture.Sound events) : system.liveLeases.Nodup := by
  rw [Multiset.nodup_iff_count_le_one]
  intro lease
  rw [count_liveLeases_eq sound]
  exact Bool.toNat_le _

/-- The live leases of a pool are those of its leased slots. -/
theorem liveLeases_of_pool (sound : system.picture.Sound events) (pool : PoolId) :
    system.liveLeases.filter (·.pool = pool) =
      ((system.pool pool).leasedSlots.map fun slot => ({ pool, slot } : Lease) : List Lease) := by
  have apart : Function.Injective fun slot : Nat => ({ pool, slot } : Lease) := fun _ _ same => (Lease.mk.inj same).2
  refine (Multiset.Nodup.ext ((nodup_liveLeases sound).filter _) ?_).mpr fun lease => ?_
  · exact Multiset.coe_nodup.mpr ((system.pool pool).nodup_leasedSlots.map apart)
  · rw [Multiset.mem_filter, mem_liveLeases_iff sound, Multiset.mem_coe, List.mem_map]
    constructor
    · rintro ⟨leased, rfl⟩
      exact ⟨lease.slot, (Pool.mem_leasedSlots _).mpr leased, rfl⟩
    · rintro ⟨slot, leased, rfl⟩
      exact ⟨(Pool.mem_leasedSlots _).mp leased, rfl⟩

theorem busy_eq (sound : system.picture.Sound events) {pool : PoolId} (counted : (system.pool pool).Counted) :
    (system.pool pool).busy = system.liveLeases.countP (·.pool = pool) := by
  rw [Multiset.countP_eq_card_filter, liveLeases_of_pool sound, Multiset.coe_card, List.length_map,
    Pool.length_leasedSlots]
  exact counted

/-- Where nobody has the lease of a slot, nothing waits in its channel. -/
theorem waiting_of_free (sound : system.picture.Sound events) (free : (system.station lease).leased = false) :
    (system.station lease).waiting = none := by
  by_contra full
  obtain ⟨work, waiting⟩ := Option.ne_none_iff_exists'.mp full
  have waits := sound.channels.waits lease work waiting
  have leased := leased_of_work sound work lease (holds_eq_true.mpr ⟨waits.leased, waits.place⟩)
  rw [free] at leased
  exact Bool.false_ne_true leased

/-- Nothing waits in the channel of a slot whose lease a program has. -/
theorem waiting_of_crew (sound : system.picture.Sound events) {activation : Activation}
    (member : activation ∈ system.crew) (holds : 0 < activation.holds lease) :
    (system.station lease).waiting = none := by
  by_contra full
  obtain ⟨work, waiting⟩ := Option.ne_none_iff_exists'.mp full
  have waits := sound.channels.waits lease work waiting
  have programs : activation.holds lease ≤ (system.crew.map (·.holds lease)).sum :=
    Multiset.single_le_sum (fun _ _ => Nat.zero_le _) _ (Multiset.mem_map_of_mem _ member)
  have works : 0 < system.works.countP (·.holds lease) := List.countP_pos_iff.mpr
    ⟨_, List.mem_of_getElem? (works_getElem? system waits.bound), holds_eq_true.mpr ⟨waits.leased, waits.place⟩⟩
  have single := leased_eq sound lease
  have below := Bool.toNat_le (system.station lease).leased
  omega

/-- No two works hold one lease. -/
theorem eq_of_holds (sound : system.picture.Sound events) {work other : WorkId}
    (left : (system.work work).holds lease = true) (right : (system.work other).holds lease = true) : work = other := by
  have present {id : WorkId} (holds : (system.work id).holds lease = true) :
      system.works[id]? = some (system.work id) :=
    works_getElem? system (lt_of_holds holds)
  by_contra ne
  have two := two_le_countP (p := (·.holds lease)) ne (present left) (present right) left right
  have single := leased_eq sound lease
  have below := Bool.toNat_le (system.station lease).leased
  omega

theorem Queued.of_sound (sound : system.picture.Sound events) {work : WorkId}
    (waiting : (system.station lease).waiting = some work) : system.Queued lease work := by
  have waits := sound.channels.waits lease work waiting
  have place : (system.work work).station = some lease := waits.place
  have leased : (system.work work).leased = true := waits.leased
  have phase : (system.work work).phase = .waiting := waits.phase
  refine ⟨⟨leased, place⟩, ?_⟩
  by_contra rests
  have empty : (system.station lease).waiting = none := sound.channels.quiet lease fun helper job busy => rests ?_
  · rw [waiting] at empty
    exact absurd empty (Option.some_ne_none work)
  · obtain ⟨-, there, -, begun⟩ := sound.channels.busy lease helper job busy
    have ne : job ≠ work := by
      rintro rfl
      rw [show (system.picture.work job).phase = .waiting from phase] at begun
      exact absurd begun Bool.false_ne_true
    refine ⟨helper, job, busy, ne, there, begun, ?_⟩
    by_contra held
    rw [Bool.not_eq_false] at held
    exact ne (eq_of_holds sound (holds_eq_true.mpr ⟨held, there⟩) (holds_eq_true.mpr ⟨leased, place⟩))

theorem Exclusive.of_sound (sound : system.picture.Sound events) (counted : ∀ pool, (system.pool pool).Counted)
    (apart : system.picture.Apart) (connected : system.picture.Connected) : system.Exclusive where
  distinct := nodup_liveLeases sound
  bounded lease live := (hasSlot_of_leased ((mem_liveLeases_iff sound).mp live)).2
  marked _ := (mem_liveLeases_iff sound).symm
  counted pool := busy_eq sound (counted pool)
  busy_le pool := by
    rw [counted pool]
    exact List.countP_le_length
  busy_pos lease live := by
    rw [busy_eq sound (counted lease.pool)]
    exact Multiset.countP_pos.mpr ⟨lease, live, rfl⟩
  single helper work other active active' placement placement' := by
    obtain ⟨lease, -, busy⟩ := sound.channels.running work helper active placement
    obtain ⟨lease', -, busy'⟩ := sound.channels.running other helper active' placement'
    obtain rfl := apart lease lease' helper (by rw [busy]; rfl) (by rw [busy']; rfl)
    exact (Helper.busy.inj (busy.symm.trans busy')).2
  queue work bound waits := by
    obtain ⟨lease, queued⟩ := sound.channels.queued work bound waits
    exact ⟨lease, (sound.channels.waits lease work queued).place, queued⟩
  queued _ _ waiting := .of_sound sound waiting
  room _ member _ holds work := Pool.dispatch_ne_blocked _ (waiting_of_crew sound member holds) work
  connected := connected
  acquired pool limit lease after had := by
    rcases acquire_cases system pool limit with ⟨result, missed, none_had⟩
      | ⟨found, acquired, had', -, granted, -⟩
    · rw [missed] at had
      exact (none_had lease (Prod.mk.inj had).1).elim
    · obtain ⟨same, rfl⟩ := Prod.mk.inj (had.symm.trans had')
      obtain rfl := Option.some.inj (Except.ok.inj same)
      obtain ⟨warm, waiting, free⟩ := granted.slot
      have empty : (after.station lease).waiting = none := waiting.trans (waiting_of_free sound free)
      exact ⟨warm, fun work => Pool.dispatch_ne_blocked _ empty work⟩

end System

/-- At every point of every run a leased slot has one live lease, its pool counts it, its channel has room
for whoever may send, and a job waits only behind one that has given its lease up. -/
theorem slot_exclusivity {setting : Setting.State} {history : List Moment} {system : System}
    (reached : Reaches (.initial setting) history system) : system.Exclusive :=
  .of_sound reached.sound reached.counted reached.apart reached.connected

/-- A job gives up its lease and goes on, the next job for its slot waits, and a lease of the other slot
is not used yet. -/
def waitingBehindFree : List Action :=
  [.makePool 2 {}, .acquire 0 0 2 "first", .dispatch 0 "first", .free 1, .acquire 0 0 1 "second",
    .dispatch 0 "second", .acquire 0 0 2 "third"]

theorem slot_exclusivity_waitingBehindFree :
    let first := System.initial { hardware := 1 }
    let system := first.performAll waitingBehindFree
    Reaches first (first.moments [] waitingBehindFree) system ∧ system.Exclusive ∧
      (system.pool 0).busy = 2 ∧ (system.work 0).phase = .running ∧ (system.work 0).leased = false ∧
      (system.station { pool := 0, slot := 0 }).waiting = some 1 := by
  have allowed : (System.initial { hardware := 1 }).allows waitingBehindFree = true := by decide
  have reached := Reaches.start.performAll allowed
  exact ⟨reached, slot_exclusivity reached, by decide, by decide, by decide, by decide⟩

end ScopedWork
