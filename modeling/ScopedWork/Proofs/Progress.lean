import ScopedWork.Proofs.Assignments
import ScopedWork.Proofs.Readiness

/-! # Somebody can go on

A thread that stands in a join waits for a logic of the scope. Whoever runs that logic either can go on, or stands
in a join of a scope that was entered later, so that joins never wait in a circle. A logic that waits in a channel
is behind one that has given its lease back, and that one is as good as over.
-/

namespace ScopedWork

namespace System

variable {system : System} {events : List Event} {thread : ThreadId} {activation : Activation}
  {outer : List Activation} {scope : ScopeId}

/-- Whether an action brings what a thread runs nearer to its end: it leaves a context, comes to the end of its
program, or, as a helper, turns to its channel. -/
def advances (system : System) (thread : ThreadId) : Action → Bool
  | .beginDrop other _ | .leave other | .endLogic other _ | .vacate other | .complete other | .finish other =>
    other == thread
  | .next station => (system.station station).helper.thread? == some thread
  | _ => false

/-- Whether a thread can take a step towards the end of what it runs. -/
def CanAdvance (system : System) (thread : ThreadId) : Prop :=
  ∃ action, system.advances thread action = true ∧ system.Enabled action

/-- Whether some program or work is not over. -/
def IsUnfinished (system : System) : Prop :=
  (∃ thread, (system.thread thread).activations ≠ []) ∨
    ∃ work < system.works.length, (system.work work).phase ≠ .over

/-- A thread whose innermost activation leaves no context can go on. -/
theorem canAdvance_of_staying (sound : system.picture.Sound events) (tame : AreTame system.works)
    (orderly : ∀ thread, system.Orderly (system.thread thread).activations)
    (chain : (system.thread thread).activations = activation :: outer) (staying : activation.leaving = none) :
    system.CanAdvance thread := by
  have top := activation_of_chain chain
  have member : activation ∈ (system.thread thread).activations := chain ▸ List.mem_cons_self
  have leases : activation.leases = [] := (orderly thread).leases activation member
  -- in the midst of its program it can drop a context, as long as it has one
  have drops (running : system.isRunning thread = true) (owned : activation.handles ≠ []) :
    system.CanAdvance thread := by
    obtain ⟨handle, rest, handles⟩ := List.exists_cons_of_ne_nil owned
    refine ⟨.beginDrop thread handle.scope, beq_self_eq_true _, running, ?_⟩
    rw [owns, top, handles, List.any_cons, beq_self_eq_true, Bool.true_or]
  cases role : activation.role with
  | program =>
    have running : system.isRunning thread = true := by simp [isRunning, chain, staying, role]
    by_cases owned : activation.handles = []
    · have last : outer = [] := by
        cases shape : outer with
        | nil => rfl
        | cons below rest =>
          have stacked := (orderly thread).stacked
          rw [chain, shape] at stacked
          exact absurd role ((List.pairwise_cons.mp stacked).1 below List.mem_cons_self).1
      refine ⟨.finish thread, beq_self_eq_true _, running, ?_, ?_, ?_⟩
      · rw [isBare, top, owned, leases]
        rfl
      · simp only [currentWork?, top, role]
      · rw [chain, last]
        rfl
    · exact drops running owned
  | work work =>
    have current : system.currentWork? thread = some work := by simp only [currentWork?, top, role]
    have active := isActive_of_mem sound member role
    cases phase : (system.work work).phase with
    | running =>
      have running : system.isRunning thread = true := by simp [isRunning, chain, staying, role, phase]
      by_cases owned : activation.handles = []
      · refine ⟨.endLogic thread (.ok ()), beq_self_eq_true _, ?_⟩
        have logic := (tame.work (lt_of_hasBegun (WorkPhase.hasBegun_of_isActive active))).logic
        have bare : system.isBare thread = true := by
          rw [isBare, top, owned, leases]
          rfl
        -- nobody else runs on behalf of a work
        have joined : system.isJoined work = true := by
          refine List.all_eq_true.mpr fun other present => List.all_eq_true.mpr fun one runs => ?_
          obtain ⟨id, found⟩ := List.mem_iff_getElem?.mp present
          have read : system.thread id = other := by rw [System.thread, found, Option.getD_some]
          rw [← read] at runs
          by_cases within : one.within = some work
          · cases same : one.role with
            | program =>
              rw [(orderly id).apart one runs same] at within
              exact absurd within.symm (Option.some_ne_none work)
            | work other =>
              have own := sound.running.own one (mem_crew_of_mem runs) other same
              rw [own] at within
              simp [Option.some.inj within]
          · simp [within]
        change system.canEnd thread WorkKind.isLogic = true
        simp only [canEnd, running, bare, current, logic, joined, Bool.and_true]
      · exact drops running owned
    | recorded =>
      refine ⟨.vacate thread, beq_self_eq_true _, ?_⟩
      change system.isEnding thread .recorded = true
      simp only [isEnding, current, phase, beq_self_eq_true]
    | vacated =>
      refine ⟨.complete thread, beq_self_eq_true _, ?_⟩
      change system.isEnding thread .vacated = true
      simp only [isEnding, current, phase, beq_self_eq_true]
    | _ =>
      rw [phase] at active
      exact Bool.noConfusion active

/-- A work whose program has ended is the innermost that its thread runs. -/
theorem Orderly.innermost {chain : List Activation} (orderly : system.Orderly chain) (member : activation ∈ chain)
    (bare : activation.handles = []) : ∃ outer, chain = activation :: outer := by
  cases chain with
  | nil => exact absurd member List.not_mem_nil
  | cons top outer =>
    rcases List.mem_cons.mp member with rfl | inside
    · exact ⟨outer, rfl⟩
    · exact absurd bare ((List.pairwise_cons.mp orderly.stacked).1 activation inside).2.1

/-- A work that is not run by anybody waits in a channel, unless it is over. -/
theorem waiting_of_not_active (tame : AreTame system.works) {work : WorkId} (bound : work < system.works.length)
    (idle : ¬ (system.work work).phase.isActive = true) (unfinished : (system.work work).phase ≠ .over) :
    (system.work work).phase = .waiting := by
  cases phase : (system.work work).phase with
  | waiting => rfl
  | discarded => exact absurd phase (tame.work bound).kept
  | running | recorded | vacated =>
    rw [phase] at idle
    exact absurd rfl idle
  | _ => exact absurd phase unfinished

/-- Whoever keeps a work waiting in a channel can go on. -/
theorem canAdvance_of_waiting (sound : system.picture.Sound events) (tame : AreTame system.works)
    (orderly : ∀ thread, system.Orderly (system.thread thread).activations) {work : WorkId}
    (bound : work < system.works.length) (waiting : (system.work work).phase = .waiting) :
    ∃ thread, system.CanAdvance thread := by
  obtain ⟨lease, queued⟩ := sound.channels.queued work bound waiting
  obtain ⟨helper, job, busy, -, place, begun, free⟩ := (Queued.of_sound sound queued).behind
  by_cases ended : (system.work job).phase = .over
  · refine ⟨helper, .next lease, ?_, ?_⟩
    · rw [advances, busy]
      exact beq_self_eq_true _
    · change system.hasEnded lease (fun _ => true) = true
      simp only [hasEnded, busy, ended, beq_self_eq_true, Bool.and_true]
  · have held := (tame.work (lt_of_hasBegun begun)).leased
      (by rw [place]; exact Option.some_ne_none lease)
    have vacated : (system.work job).phase = .vacated := by
      cases phase : (system.work job).phase with
      | vacated => rfl
      | running | recorded =>
        rw [free, phase] at held
        exact Bool.noConfusion (held rfl)
      | waiting | discarded =>
        rw [phase] at begun
        exact Bool.noConfusion begun
      | _ => exact absurd phase ended
    obtain ⟨thread, activation, member, role⟩ := exists_runner sound (by rw [vacated]; rfl)
    have bare := sound.running.bare (mem_crew_of_mem member) role
      (by rw [show (system.picture.work job).phase = .vacated from vacated]; decide)
    obtain ⟨outer, chain⟩ := (orderly thread).innermost member bare.handles
    exact ⟨thread, canAdvance_of_staying sound tame orderly chain bare.leaving⟩

/-- A scope whose logics are not all over has one that is not over, if all of them have been placed and no panic has
unwound the end of one. -/
theorem exists_unfinished (sound : system.picture.Sound events) (placed : events.countP (Event.cutsShort scope) = 0)
    (orderly : ∀ work < system.works.length, (system.work work).unwound = false)
    (unsettled : (system.scope scope).isSettled = false) :
    ∃ work < system.works.length, (system.work work).kind = .logic scope ∧ (system.work work).phase ≠ .over := by
  have balanced := sound.ledger scope
  have counted := balanced.counted
  have completed := balanced.completed
  have fewer : (system.scope scope).completed < (system.scope scope).dispatched := by
    simpa [Scope.isSettled] using unsettled
  by_contra none_left
  have same : (system.works.countP fun work => work.isOf scope && work.isCounted) =
      system.works.countP (·.isOf scope) := by
    refine List.countP_congr fun record member => ?_
    obtain ⟨work, found⟩ := List.mem_iff_getElem?.mp member
    have bound : work < system.works.length := (List.getElem?_eq_some_iff.mp found).1
    have read : system.work work = record := by rw [System.work, found, Option.getD_some]
    refine ⟨fun both => (Bool.and_eq_true_iff.mp both).1, fun logic => ?_⟩
    have counted : record.unwound = false := read ▸ orderly work bound
    rw [logic, Bool.true_and, Work.isCounted, counted, Bool.not_false, Bool.and_true, beq_iff_eq]
    by_contra unfinished
    exact none_left ⟨work, bound, read ▸ Work.isOf_iff.mp logic, read ▸ unfinished⟩
  have works : system.picture.works = system.works := rfl
  have entry : system.picture.scope scope = system.scope scope := rfl
  rw [works, entry] at counted completed
  omega

/-- A thread that leaves a context can go on, or some other thread can: of the logics that it waits for one is run by
a thread that can go on, or leaves a context of a later scope. -/
theorem canAdvance_of_leaving (sound : system.picture.Sound events) (tame : AreTame system.works)
    (orderly : ∀ thread, system.Orderly (system.thread thread).activations)
    (placed : ∀ scope, events.countP (Event.cutsShort scope) = 0)
    (counted : ∀ work < system.works.length, (system.work work).unwound = false) {departure : Departure}
    (chain : (system.thread thread).activations = activation :: outer)
    (leaving : activation.leaving = some (scope, departure)) : ∃ thread, system.CanAdvance thread := by
  -- on the scopes that were entered after the one that is left
  induction gap : system.scopes.length - scope using Nat.strong_induction_on
    generalizing thread activation outer scope departure with
  | _ gap ih =>
    by_cases settled : (system.scope scope).isSettled = true
    · refine ⟨thread, .leave thread, beq_self_eq_true _, ?_⟩
      have top : (system.activation thread).leaving = some (scope, departure) := by
        rw [activation_of_chain chain, leaving]
      change (system.leave? thread).isSome = true
      simp only [leave?, top, settled, ↓reduceIte, Option.isSome_some]
    · rw [Bool.not_eq_true] at settled
      obtain ⟨work, bound, kind, unfinished⟩ := exists_unfinished sound (placed scope) counted settled
      by_cases active : (system.work work).phase.isActive = true
      · obtain ⟨runner, logic, member, role⟩ := exists_runner sound active
        obtain ⟨top, rest, runs⟩ := List.exists_cons_of_ne_nil (List.ne_nil_of_mem member)
        cases next : top.leaving with
        | none => exact ⟨runner, canAdvance_of_staying sound tame orderly runs next⟩
        | some target =>
          obtain ⟨later, way⟩ := target
          have inside : top ∈ (system.thread runner).activations := runs ▸ List.mem_cons_self
          obtain ⟨handle, has, rfl⟩ := Activation.contexts_pos.mp
            (sound.tenancy.leaving top (mem_crew_of_mem inside) later way next)
          have nests : system.Nests top logic := by
            rw [runs] at member
            rcases List.mem_cons.mp member with rfl | deeper
            · exact (orderly runner).own logic inside
            · have stacked := (orderly runner).stacked
              rw [runs] at stacked
              exact ((List.pairwise_cons.mp stacked).1 logic deeper).2.2
          have later : scope < handle.scope := nests work scope role kind handle has
          have existing : handle.scope < system.scopes.length := lt_of_isEntered (isEntered_of_mem sound inside has)
          exact ih (system.scopes.length - handle.scope)
            (gap ▸ Nat.sub_lt_sub_left (Nat.lt_trans later existing) later) runs next rfl
      · exact canAdvance_of_waiting sound tame orderly bound (waiting_of_not_active tame bound active unfinished)

/-! ## Joins that never end -/

/-- Whether a thread has nothing left to run, or stands in the join of a scope that is not settled. -/
def standsStill (system : System) (thread : ThreadId) : Bool :=
  match (system.thread thread).activations with
  | [] => true
  | activation :: _ => activation.leaving.any fun (scope, _) => !(system.scope scope).isSettled

/-- Every thread stands still, and no helper has a work behind it. -/
structure IsStill (system : System) : Prop where
  threads : ∀ thread < system.threads.length, system.standsStill thread = true
  helpers : ∀ pool < system.pools.length, ∀ slot < (system.pool pool).slots.length,
    system.hasEnded ⟨pool, slot⟩ (fun _ => true) = false

namespace IsStill

/-- Whatever a thread runs waits for a scope that is not settled. -/
theorem leaving (still : system.IsStill) (chain : (system.thread thread).activations = activation :: outer) :
    ∃ scope departure, activation.leaving = some (scope, departure) ∧ (system.scope scope).isSettled = false := by
  have bound : thread < system.threads.length := lt_of_activations (by rw [chain]; exact List.cons_ne_nil _ _)
  have stands := still.threads thread bound
  simp only [standsStill, chain] at stands
  obtain ⟨⟨scope, departure⟩, leaving, unsettled⟩ := (Option.any_eq_true _ _).mp stands
  exact ⟨scope, departure, leaving, by simpa using unsettled⟩

theorem not_running (still : system.IsStill) (thread : ThreadId) : system.isRunning thread = false := by
  cases chain : (system.thread thread).activations with
  | nil => simp only [isRunning, chain]
  | cons activation outer =>
    obtain ⟨scope, departure, leaving, -⟩ := still.leaving chain
    simp only [isRunning, chain, leaving, Option.isNone_some, Bool.false_and]

theorem not_leaving (still : system.IsStill) (thread : ThreadId) : system.leave? thread = none := by
  cases chain : (system.thread thread).activations with
  | nil => simp [leave?, System.activation, chain]
  | cons activation outer =>
    obtain ⟨scope, departure, leaving, unsettled⟩ := still.leaving chain
    simp [leave?, activation_of_chain chain, leaving, unsettled]

/-- What waits for a scope is in the midst of its program. -/
theorem not_ending (still : system.IsStill) (sound : system.picture.Sound events) (thread : ThreadId)
    {phase : WorkPhase} (past : phase ≠ .running) : system.isEnding thread phase = false := by
  rw [Bool.eq_false_iff]
  intro ends
  obtain ⟨activation, others, work, top, role, -, ended⟩ := isEnding_cases ends
  obtain ⟨outer, chain⟩ := top.chain
  obtain ⟨scope, departure, leaving, -⟩ := still.leaving chain
  have within := sound.running.own activation top.mem work role
  have running : (system.work work).phase = .running :=
    sound.running.of_leaving top.mem (by rw [leaving]; exact Option.some_ne_none _) within
  exact past (ended.symm.trans running)

theorem not_hasEnded (still : system.IsStill) (station : Lease) :
    system.hasEnded station (fun _ => true) = false := by
  rw [Bool.eq_false_iff]
  intro ended
  obtain ⟨helper, job, busy, -⟩ := hasEnded_cases ended
  obtain ⟨there, slot⟩ : system.HasSlot station := hasSlot_of_helper (by simp [busy])
  exact Bool.false_ne_true ((still.helpers station.pool there station.slot slot).symm.trans ended)

/-- Nobody can go on then. -/
theorem not_canAdvance (still : system.IsStill) (sound : system.picture.Sound events) (thread : ThreadId) :
    ¬ system.CanAdvance thread := by
  rintro ⟨action, advances, enabled⟩
  cases action with
  | beginDrop other scope => exact Bool.false_ne_true ((still.not_running other).symm.trans enabled.1)
  | finish other => exact Bool.false_ne_true ((still.not_running other).symm.trans enabled.1)
  | endLogic other outcome =>
    have ends : system.canEnd other WorkKind.isLogic = true := enabled
    rw [canEnd, still.not_running, Bool.false_and, Bool.false_and] at ends
    exact Bool.false_ne_true ends
  | vacate other =>
    exact Bool.false_ne_true ((still.not_ending sound other WorkPhase.noConfusion).symm.trans enabled)
  | complete other =>
    exact Bool.false_ne_true ((still.not_ending sound other WorkPhase.noConfusion).symm.trans enabled)
  | leave other =>
    have left : (system.leave? other).isSome = true := enabled
    rw [still.not_leaving] at left
    exact Bool.false_ne_true left
  | next station => exact Bool.false_ne_true ((still.not_hasEnded station).symm.trans enabled)
  | _ => exact Bool.false_ne_true advances

end IsStill

end System

/-- No deadlock among scopes. If no lease is acquired but for a logic and no logic waits for a thread that it has
started, then as long as some program or work is not over, a thread can take a step towards the end of what it
runs: never do all of them stand in joins or wait in channels. Every logic must have been placed once it was
counted as submitted, and must be counted as over once it is over; so it is where helpers can be given their names and
every failure can be dropped. -/
theorem no_deadlock {setting : Setting.State} {history : List Moment} {system : System}
    (reached : Reaches (.initial setting) history system)
    (plain : ∀ moment ∈ history, moment.action.isScoped = true)
    (placed : ∀ scope, cutShort history scope = 0)
    (counted : ∀ work < system.works.length, (system.work work).unwound = false)
    (unfinished : system.IsUnfinished) : ∃ thread, system.CanAdvance thread := by
  have sound := reached.sound
  obtain ⟨tame, orderly⟩ := reached.orderly plain
  have placed (scope : ScopeId) : (history.map Moment.event).countP (Event.cutsShort scope) = 0 := by
    rw [List.countP_map]
    exact placed scope
  -- a thread that runs something
  have runs (thread : ThreadId) (busy : (system.thread thread).activations ≠ []) :
      ∃ thread, system.CanAdvance thread := by
    obtain ⟨activation, outer, chain⟩ := List.exists_cons_of_ne_nil busy
    cases leaving : activation.leaving with
    | none => exact ⟨thread, System.canAdvance_of_staying sound tame orderly chain leaving⟩
    | some target => exact System.canAdvance_of_leaving sound tame orderly placed counted chain leaving
  rcases unfinished with ⟨thread, busy⟩ | ⟨work, bound, phase⟩
  · exact runs thread busy
  · by_cases active : (system.work work).phase.isActive = true
    · obtain ⟨thread, activation, member, -⟩ := System.exists_runner sound active
      exact runs thread (List.ne_nil_of_mem member)
    · exact System.canAdvance_of_waiting sound tame orderly bound
        (System.waiting_of_not_active tame bound active phase)

/-- A scope is not settled at any point of a run at which a panic has cut the submission of a logic short, or has
unwound the end of a logic: whoever joins the scope waits. -/
theorem never_settled {setting : Setting.State} {history : List Moment} {system : System} {scope : ScopeId}
    (reached : Reaches (.initial setting) history system)
    (lost : 0 < cutShort history scope ∨
      ∃ work, (system.work work).kind = .logic scope ∧ (system.work work).unwound = true) :
    (system.scope scope).isSettled = false := by
  have ledger : (system.scope scope).Balanced scope system.works (history.map Moment.event) :=
    reached.sound.ledger scope
  have fewer : (system.scope scope).completed < (system.scope scope).dispatched := by
    rcases lost with cut | ⟨work, kind, unwound⟩
    · have weaker : (system.works.countP fun work => work.isOf scope && work.isCounted) ≤
          system.works.countP (·.isOf scope) :=
        List.countP_mono_left fun work _ both => (Bool.and_eq_true_iff.mp both).1
      have counted := ledger.counted
      have completed := ledger.completed
      rw [List.countP_map] at counted
      have missing : 0 < history.countP (Event.cutsShort scope ∘ Moment.event) := cut
      omega
    · have uncounted : (system.work work).isCounted = false := by
        rw [Work.isCounted, unwound, Bool.not_true, Bool.and_false]
      exact ledger.completed_lt (system.works_getElem? (System.lt_of_kind kind)) kind uncounted
  simpa [Scope.isSettled] using fewer

/-- Three scopes, one in the other, over two slots: the logics of the outer two are run by helpers, the one of the
innermost has no slot left. Both the program and the first of the helpers join. -/
def nestedJoins : List Action :=
  [.makePool 2 {}, .makeRoot 0 2, .enterIn 0 0 (.owned "outer"), .submit 0 1, .beginExit 0 1, .enter 1 (.owned "inner"),
    .submit 1 2, .beginDrop 1 2, .enter 2 (.owned "innermost"), .submit 2 3]

/-- Neither join has come to its end, and the helpers of both slots are taken. -/
theorem no_deadlock_nestedJoins :
    let first := System.initial { hardware := 1 }
    let system := first.performAll nestedJoins
    (∀ moment ∈ first.moments [] nestedJoins, moment.action.isScoped = true) ∧ system.IsUnfinished ∧
      ¬ system.Enabled (.leave 0) ∧ ¬ system.Enabled (.leave 1) ∧
      ((system.activation 0).leaving.isSome && (system.activation 1).leaving.isSome) = true ∧
      ∃ thread, system.CanAdvance thread := by
  have reached := Reaches.start.performAll
    (show (System.initial { hardware := 1 }).allows nestedJoins = true by decide)
  have plain : ∀ moment ∈ (System.initial { hardware := 1 }).moments [] nestedJoins,
    moment.action.isScoped = true := by
    decide
  have unfinished : ((System.initial { hardware := 1 }).performAll nestedJoins).IsUnfinished := .inl ⟨0, by decide⟩
  exact ⟨plain, unfinished, by decide, by decide, by decide,
    no_deadlock reached plain (cutShort_eq_zero (by decide)) (reached.not_unwound (by decide)) unfinished⟩

/-- Nobody can go on after the submission that a panic has cut short: the program joins the scope for ever. -/
theorem deadlock_unnameable :
    let first := System.initial { hardware := 1 }
    let system := first.performAll unnameable
    Reaches first (first.moments [] unnameable) system ∧
      (∀ moment ∈ first.moments [] unnameable, moment.action.isScoped = true) ∧ system.IsUnfinished ∧
      system.IsStill ∧ ∀ thread, ¬ system.CanAdvance thread := by
  have reached := Reaches.start.performAll
    (show (System.initial { hardware := 1 }).allows unnameable = true by decide)
  have still : ((System.initial { hardware := 1 }).performAll unnameable).IsStill := ⟨by decide, by decide⟩
  exact ⟨reached, by decide, .inl ⟨0, by decide⟩, still, still.not_canAdvance reached.sound⟩

/-- Nor can anybody go on after the end that a panic has unwound, although every logic is over. -/
theorem deadlock_volatileSecond :
    let first := System.initial { hardware := 1 }
    let system := first.performAll volatileSecond
    Reaches first (first.moments [] volatileSecond) system ∧
      (∀ moment ∈ first.moments [] volatileSecond, moment.action.isScoped = true) ∧ system.IsUnfinished ∧
      system.IsStill ∧ ∀ thread, ¬ system.CanAdvance thread := by
  have reached := Reaches.start.performAll
    (show (System.initial { hardware := 1 }).allows volatileSecond = true by decide)
  have still : ((System.initial { hardware := 1 }).performAll volatileSecond).IsStill := ⟨by decide, by decide⟩
  exact ⟨reached, by decide, .inl ⟨0, by decide⟩, still, still.not_canAdvance reached.sound⟩

end ScopedWork
