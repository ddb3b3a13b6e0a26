import ScopedWork.Proofs.Exclusivity

/-! # The course of one pool

Seen from a pool, a run is a course of deeds, each done to the pool as the one before has left it, and
each apt there: the lease that is given back is live, the slot that is sent through has room. What
every course of apt deeds keeps, from a pool as it is made, holds of each pool in every run.
-/

namespace ScopedWork

namespace Pool

variable {Job : Type} {pool : Pool Job}

/-- When a deed can be done. Only who has the lease of a slot gives it back or sends a job through it;
nothing waits in the channel then, and the slot is connected unless its pool is gone. Only a helper
that has run a job goes on or dies, and nobody can ask a pool that is gone for a lease. -/
def Apt (pool : Pool Job) : Deed Job → Prop
  | .acquire _ _ => pool.dropped = false
  | .release index => (pool.slot index).leased = true ∧ (pool.slot index).waiting = none
  | .dispatch index _ => (pool.slot index).leased = true ∧ (pool.slot index).waiting = none ∧
      (pool.dropped = false → (pool.slot index).sender = true)
  | .next index | .die index => ∃ thread job, (pool.slot index).helper = .busy thread job
  | .bar _ _ | .shutdown => True

def AptAll (pool : Pool Job) : List (Deed Job) → Prop
  | [] => True
  | deed :: rest => pool.Apt deed ∧ (pool.undergo deed).AptAll rest

/-- A deed and the pool to which it is done. -/
structure Occasion (Job : Type) where
  before : Pool Job
  deed : Deed Job

/-- The occasions of deeds that are done one after the other, latest first, on top of a course. -/
def occasions (pool : Pool Job) (course : List (Occasion Job)) : List (Deed Job) → List (Occasion Job)
  | [] => course
  | deed :: rest => (pool.undergo deed).occasions (⟨pool, deed⟩ :: course) rest

variable {course : List (Occasion Job)}

/-- What a course of apt deeds, latest first, has made of a new pool. -/
inductive Lives : List (Occasion Job) → Pool Job → Prop
  | make (capacity : Nat) (config : Setting.Config) (stackBound : Option Nat) :
    Lives [] (ofConfig capacity config stackBound)
  | undergo {course : List (Occasion Job)} {pool : Pool Job} {deed : Deed Job} :
    Lives course pool → pool.Apt deed → Lives (⟨pool, deed⟩ :: course) (pool.undergo deed)

theorem Lives.undergoAll (lives : Lives course pool) {deeds : List (Deed Job)}
    (apt : pool.AptAll deeds) : Lives (pool.occasions course deeds) (deeds.foldl Pool.undergo pool) := by
  induction deeds generalizing pool course with
  | nil => exact lives
  | cons deed rest ih => exact ih (lives.undergo apt.1) apt.2

theorem occasions_eq (pool : Pool Job) (course : List (Occasion Job)) (deeds : List (Deed Job)) :
    pool.occasions course deeds = pool.occasions [] deeds ++ course := by
  induction deeds generalizing pool course with
  | nil => rfl
  | cons deed rest ih =>
    rw [occasions, occasions, ih, ih (pool.undergo deed) [⟨pool, deed⟩], List.append_assoc]
    rfl

theorem occasions_append (pool : Pool Job) (course : List (Occasion Job)) (first second : List (Deed Job)) :
    pool.occasions course (first ++ second) =
      (first.foldl undergo pool).occasions (pool.occasions course first) second := by
  induction first generalizing pool course with
  | nil => rfl
  | cons deed rest ih => exact ih (pool.undergo deed) _

theorem mem_occasions {deeds : List (Deed Job)} {occasion : Occasion Job}
    (member : occasion ∈ pool.occasions [] deeds) : occasion.deed ∈ deeds := by
  induction deeds generalizing pool with
  | nil => exact absurd member List.not_mem_nil
  | cons deed rest ih =>
    rw [occasions, occasions_eq] at member
    rcases List.mem_append.mp member with later | here
    · exact List.mem_cons_of_mem _ (ih later)
    · rw [List.mem_singleton.mp here]
      exact List.mem_cons_self

/-- What a course had come to at one of its occasions. -/
theorem Lives.before {later earlier : List (Occasion Job)} {before : Pool Job} {deed : Deed Job}
    (lives : Lives (later ++ ⟨before, deed⟩ :: earlier) pool) : Lives earlier before ∧ before.Apt deed := by
  induction later generalizing pool with
  | nil =>
    cases lives with
    | undergo lives apt => exact ⟨lives, apt⟩
  | cons occasion rest ih =>
    cases lives with
    | undergo lives _ => exact ih lives

/-- A pool that is in use has been in use since it was made. -/
theorem Lives.live_before {later earlier : List (Occasion Job)} {before : Pool Job} {deed : Deed Job}
    (lives : Lives (later ++ ⟨before, deed⟩ :: earlier) pool) (live : pool.dropped = false) :
    before.dropped = false := by
  have undone {pool : Pool Job} {deed : Deed Job} (live : (pool.undergo deed).dropped = false) :
    pool.dropped = false := by
    by_cases goesOn : deed = .shutdown
    · rw [goesOn] at live
      exact Bool.noConfusion live
    · rwa [dropped_undergo goesOn] at live
  induction later generalizing pool with
  | nil =>
    cases lives with
    | undergo => exact undone live
  | cons occasion rest ih =>
    cases lives with
    | undergo lives => exact ih lives (undone live)

theorem Lives.counted (lives : Lives course pool) : pool.Counted := by
  induction lives with
  | make capacity config stackBound => exact counted_ofConfig capacity config stackBound
  | undergo _ apt ih =>
    refine (leads_undergo fun index same => ?_).counted ih
    subst same
    exact apt.1

/-- Whoever has acquired a lease can send a job through it. -/
theorem apt_dispatch_of_acquired {limit : Nat} {thread : ThreadId} {acquired : Acquired}
    (had : (pool.tryAcquire limit thread).1 = .ok (some acquired))
    (empty : ∀ index, (pool.slot index).leased = false → (pool.slot index).waiting = none) (job : Job) :
    (pool.undergo (.acquire limit thread)).Apt (.dispatch acquired.slot job) := by
  rcases pool.tryAcquire_shapes limit thread with ⟨-, missed⟩ | ⟨index, found, granted⟩
  · exact absurd had (missed acquired)
  · obtain ⟨inside, free⟩ := pool.leastFree?_eq_some found
    have waiting := empty index free
    rcases granted with ⟨warm, granted⟩ | ⟨cold, -, granted⟩
    all_goals
      rw [granted, Except.ok.injEq, Option.some.injEq] at had
      subst had
      simp only [Apt, undergo, granted]
    · rw [slot_lease, if_pos ⟨rfl, inside⟩]
      exact ⟨rfl, waiting, fun _ => warm⟩
    · rw [slot_spawn_lease, if_pos ⟨rfl, inside⟩]
      exact ⟨rfl, waiting, fun _ => rfl⟩

end Pool

namespace System

variable {system : System} {events : List Event}

theorem role_of_currentWork {thread : ThreadId} {activation : Activation} {others : Multiset Activation} {work : WorkId}
    (top : system.Innermost thread activation others) (current : system.currentWork? thread = some work) :
    activation.role = .work work := by
  rw [currentWork?, top.activation_eq] at current
  split at current
  · exact absurd current.symm (Option.some_ne_none work)
  · rename_i other role
    rw [role, Option.some.inj current]

/-! ## Apt deeds -/

/-- The slot of a lease that a work holds may be freed once the work has begun. -/
theorem apt_release (sound : system.picture.Sound events) {work : WorkId} {lease : Lease}
    (held : (system.work work).held = some lease) (begun : (system.work work).phase ≠ .waiting) :
    (system.pool lease.pool).AptAll [.release lease.slot] := by
  have holds := holds_of_held held
  refine ⟨⟨leased_of_work sound work lease holds, ?_⟩, trivial⟩
  by_contra full
  obtain ⟨other, waiting⟩ := Option.ne_none_iff_exists'.mp full
  have waits := sound.channels.waits lease other waiting
  obtain rfl := eq_of_holds sound holds (holds_eq_true.mpr ⟨waits.leased, waits.place⟩)
  exact begun waits.phase

/-- What a thread runs may give its lease back. -/
theorem apt_giveBack (sound : system.picture.Sound events) {thread : ThreadId}
    (begun : ∀ work, system.currentWork? thread = some work → (system.picture.work work).phase ≠ .waiting)
    {place : PoolId} {deeds : List (Pool.Deed WorkId)}
    (dealt : (((system.currentWork? thread).bind fun work => (system.work work).held).map fun lease =>
      (lease.pool, [Pool.Deed.release lease.slot])) = some (place, deeds)) : (system.pool place).AptAll deeds := by
  obtain ⟨lease, held, same⟩ := Option.map_eq_some_iff.mp dealt
  obtain ⟨work, current, held⟩ := Option.bind_eq_some_iff.mp held
  obtain ⟨rfl, rfl⟩ := Prod.mk.inj same
  exact apt_release sound held (begun work current)

theorem apt_submit (sound : system.picture.Sound events) {scope : ScopeId} (usable : system.isUsable scope = true) :
    (system.pool (system.scope scope).pool).AptAll (.acquire (system.scope scope).concurrency system.threads.length ::
      match ((system.pool (system.scope scope).pool).tryAcquire (system.scope scope).concurrency
        system.threads.length).1 with
      | .ok (some acquired) => [.dispatch acquired.slot system.works.length]
      | .ok none | .error _ => []) := by
  have live : (system.pool (system.scope scope).pool).dropped = false := by simpa [isUsable] using usable
  refine ⟨live, ?_⟩
  split
  · rename_i acquired had
    refine ⟨Pool.apt_dispatch_of_acquired had (fun index free => ?_) _, trivial⟩
    exact @waiting_of_free system _ { pool := (system.scope scope).pool, slot := index } sound free
  · trivial
  · trivial

theorem apt_die (sound : system.picture.Sound events) {station : Lease} {helper : ThreadId} {job : WorkId}
    (busy : (system.station station).helper = .busy helper job) :
    (system.pool station.pool).AptAll (.die station.slot ::
      match (system.station station).waiting with
      | some _ => [.release station.slot]
      | none => []) := by
  refine ⟨⟨helper, job, busy⟩, ?_⟩
  split
  · rename_i work waiting
    have waits := sound.channels.waits station work waiting
    have leased := leased_of_work sound work station (holds_eq_true.mpr ⟨waits.leased, waits.place⟩)
    refine ⟨⟨(Pool.leased_helperDies _ _ _).trans leased, ?_⟩, trivial⟩
    change (((system.pool station.pool).helperDies station.slot).2.slot station.slot).waiting = none
    rw [Pool.helperDies, Pool.slot_modifySlot, if_pos ⟨rfl, Pool.lt_of_leased leased⟩]
  · trivial

/-- What is done to a pool can be done to it. -/
theorem apt_perform (sound : system.picture.Sound events) (connected : system.picture.Connected) {action : Action}
    (enabled : system.Enabled action) {place : PoolId} {deeds : List (Pool.Deed WorkId)}
    (dealt : system.dealing action = some (place, deeds)) : (system.pool place).AptAll deeds := by
  cases action with
  | submit thread scope =>
    obtain ⟨rfl, rfl⟩ := Prod.mk.inj (Option.some.inj dealt)
    exact apt_submit sound enabled.2.2
  | acquire thread pool limit name =>
    obtain ⟨rfl, rfl⟩ := Prod.mk.inj (Option.some.inj dealt)
    exact ⟨enabled.2.2.1, trivial⟩
  | dropLease thread name =>
    obtain ⟨activation, others, lease, top, -, found, held⟩ := lease_cases enabled.1 enabled.2
    simp only [dealing, held, Option.map_some, Option.some.injEq, Prod.mk.injEq] at dealt
    obtain ⟨rfl, rfl⟩ := dealt
    have holds := holds_of_lookup found
    exact ⟨⟨leased_of_crew sound top.mem holds, waiting_of_crew sound top.mem holds⟩, trivial⟩
  | dispatch thread name =>
    obtain ⟨activation, others, lease, top, -, found, held⟩ := lease_cases enabled.1 enabled.2
    simp only [dealing, held, Option.map_some, Option.some.injEq, Prod.mk.injEq] at dealt
    obtain ⟨rfl, rfl⟩ := dealt
    have holds := holds_of_lookup found
    exact ⟨⟨leased_of_crew sound top.mem holds, waiting_of_crew sound top.mem holds,
      connected activation top.mem lease holds⟩, trivial⟩
  | free thread =>
    obtain ⟨activation, others, top, running⟩ := innermost_of_isRunning enabled.1
    refine apt_giveBack sound (fun work current => ?_) dealt
    rw [running.running work (role_of_currentWork top current)]
    exact WorkPhase.noConfusion
  | endJob thread =>
    obtain ⟨activation, others, work, top, running, role, current, -⟩ := canEnd_cases enabled
    refine apt_giveBack sound (fun other same => ?_) dealt
    obtain rfl := Option.some.inj (current.symm.trans same)
    rw [running.running work role]
    exact WorkPhase.noConfusion
  | vacate thread =>
    obtain ⟨-, -, work, -, -, current, recorded⟩ := isEnding_cases enabled
    refine apt_giveBack sound (fun other same => ?_) dealt
    obtain rfl := Option.some.inj (current.symm.trans same)
    change (system.work work).phase ≠ .waiting
    rw [recorded]
    exact WorkPhase.noConfusion
  | next station =>
    obtain ⟨helper, job, busy, -⟩ := hasEnded_cases enabled
    obtain ⟨rfl, rfl⟩ := Prod.mk.inj (Option.some.inj dealt)
    exact ⟨⟨helper, job, busy⟩, trivial⟩
  | die station =>
    obtain ⟨helper, job, busy, -⟩ := hasEnded_cases enabled
    obtain ⟨rfl, rfl⟩ := Prod.mk.inj (Option.some.inj dealt)
    exact apt_die sound busy
  | bar station barred =>
    obtain ⟨rfl, rfl⟩ := Prod.mk.inj (Option.some.inj dealt)
    exact ⟨trivial, trivial⟩
  | dropPool pool =>
    obtain ⟨rfl, rfl⟩ := Prod.mk.inj (Option.some.inj dealt)
    exact ⟨trivial, trivial⟩
  | enter | enterIn | reduce | beginExit | beginDrop | leave | attach | detach | passLease | endLogic | complete
  | makePool | makeRoot | makeFactory | reroute | register | configure | start | finish =>
    exact absurd dealt.symm (Option.some_ne_none _)

end System

/-! ## Courses -/

/-- What has been done to the pool of a number since it was made, latest first. -/
def course (id : PoolId) : List Moment → List (Pool.Occasion WorkId)
  | [] => []
  | moment :: history =>
    if id < moment.before.pools.length then
      (moment.before.pool id).occasions (course id history) (moment.before.deeds id moment.action)
    else []

theorem course_cons {system : System} {id : PoolId} (there : id < system.pools.length) (action : Action)
    (history : List Moment) : course id (⟨system, action⟩ :: history) =
      (system.pool id).occasions [] (system.deeds id action) ++ course id history := by
  rw [course, if_pos there, Pool.occasions_eq]

/-- Whatever has been done to a pool was part of what some action of the run did. -/
theorem deed_of_mem_course {id : PoolId} {history : List Moment} {occasion : Pool.Occasion WorkId}
    (member : occasion ∈ course id history) :
    ∃ moment ∈ history, occasion.deed ∈ moment.before.deeds id moment.action := by
  induction history with
  | nil => exact absurd member List.not_mem_nil
  | cons moment earlier ih =>
    rw [course] at member
    split_ifs at member
    · rw [Pool.occasions_eq] at member
      rcases List.mem_append.mp member with now | before
      · exact ⟨moment, List.mem_cons_self, Pool.mem_occasions now⟩
      · obtain ⟨other, there, deed⟩ := ih before
        exact ⟨other, List.mem_cons_of_mem _ there, deed⟩
    · exact absurd member List.not_mem_nil

/-- At every point of every run a pool is what the deeds done to it have made of a new pool. -/
theorem Reaches.lives {setting : Setting.State} {history : List Moment} {system : System}
    (reached : Reaches (.initial setting) history system) {id : PoolId} (bound : id < system.pools.length) :
    Pool.Lives (course id history) (system.pool id) := by
  induction reached with
  | start => exact absurd bound (Nat.not_lt_zero id)
  | @step history system action reached enabled ih =>
    have deals := System.deals_perform reached.sound enabled
    rw [course]
    by_cases there : id < system.pools.length
    · rw [if_pos there, (deals.kept id there).2]
      apply (ih there).undergoAll
      cases dealt : system.dealing action with
      | none =>
        rw [System.deeds, dealt]
        trivial
      | some dealing =>
        obtain ⟨place, deeds⟩ := dealing
        simp only [System.deeds, dealt, System.dealtTo]
        split_ifs with here
        · exact here ▸ System.apt_perform reached.sound reached.connected enabled dealt
        · trivial
    · rw [if_neg there]
      obtain ⟨capacity, config, stackBound, same⟩ := deals.made id there bound
      rw [same]
      exact .make capacity config stackBound

end ScopedWork
