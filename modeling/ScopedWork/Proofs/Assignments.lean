import ScopedWork.Proofs.Lifelines
import ScopedWork.Proofs.Scoped

/-! # Works and the slots they are sent through

What an action does to the works goes together with what it does to a pool. A work is added when it
is dispatched, and where it runs is what the pool answers; it is placed anew only when a helper takes
it from its channel; and it gives its lease back when the slot is freed.
-/

namespace ScopedWork

/-- Where a work is to run that has been handed to a pool. -/
def Handoff.placement : Handoff → Placement
  | .returned => .returned
  | .begun helper => .helper helper
  | .queued | .blocked => .queued

/-- A work that is still of the same kind, the same slot and the same submitter as another. -/
structure Work.Same (work later : Work) : Prop where
  kind : later.kind = work.kind
  station : later.station = work.station
  submitter : later.submitter = work.submitter

def Action.ender? : Action → Option ThreadId
  | .endLogic thread _ | .endJob thread => some thread
  | _ => none

/-- Whether an action ends a logic with a failure that panics when it is dropped. -/
def Action.isVolatile : Action → Bool
  | .endLogic _ (.error failure) => failure.isVolatile
  | _ => false

namespace System

variable {system : System} {events : List Event}

/-- How a work that there was ages. It keeps what it is to see while it waits, it begins only from there, its program
ends only on the thread that runs it, it stays over, and only a failure that panics when it is dropped unwinds its
end. -/
structure Ages (system : System) (action : Action) (id : WorkId) (later : Work) : Prop where
  waiting : later.phase = .waiting → (system.work id).phase = .waiting ∧ later.snapshot = (system.work id).snapshot
  running : later.phase = .running → (system.work id).phase = .running ∨ (system.work id).phase = .waiting
  active : later.phase.isActive = true → later.phase = .running ∨ (system.work id).phase.isActive = true
  finished : (system.work id).phase = .over → later.phase = .over
  ended : (system.work id).phase = .running → later.phase = .running ∨
    ∃ thread, action.ender? = some thread ∧ system.currentWork? thread = some id
  unwound : later.unwound = true → (system.work id).unwound = true ∨ action.isVolatile = true

/-- How a work comes: it is run at once by its submitter, or is sent through a lease. -/
inductive Arrives (system : System) (action : Action) (work : Work) : Prop
  | inline {thread : ThreadId} {scope : ScopeId} (submits : action = .submit thread scope)
    (kind : work.kind = .logic scope) (place : work.station = none)
    (placed : work.placement = .inline ∧ work.leased = false)
    (runs : work.phase = .running) (orderly : work.unwound = false)
  | sent {lease : Lease} {before : List (Pool.Deed WorkId)} (there : lease.pool < system.pools.length)
    (place : work.station = some lease) (leased : work.leased = true)
    (begun : work.placement ≠ .queued → work.phase.hasBegun = true)
    (dealt : system.deeds lease.pool action = before ++ [.dispatch lease.slot system.works.length])
    (placed : work.placement = ((before.foldl Pool.undergo (system.pool lease.pool)).dispatch lease.slot
      system.works.length).1.placement)
    (asked : ∀ scope, work.kind = .logic scope → ∃ thread, action = .submit thread scope ∧
      work.submitter = thread ∧
      lease.pool = (system.scope scope).pool ∧
      before = [.acquire (system.scope scope).concurrency system.threads.length])
    (fresh : work.phase = .running ∨ work.phase = .waiting ∧ ∀ scope, work.kind = .logic scope →
      ∃ thread, action = .submit thread scope ∧ work.snapshot = some (system.stack thread))
    (orderly : work.unwound = false)

/-- What an action does to the works, as far as slots go. -/
inductive Assigns (system : System) (action : Action) : List Work → Prop
  | rest : Assigns system action system.works
  /-- A work begins or ends, or is lost. -/
  | goOn {id : WorkId} {change : Work → Work} (same : ∀ work : Work, work.Same (change work))
    (still : ∀ work, (change work).placement = work.placement ∧ (change work).leased = work.leased)
    (ages : system.Ages action id (change (system.work id))) : Assigns system action (system.works.modify id change)
  /-- A work gives its lease back, if it has one. -/
  | giveBack {id : WorkId} {change : Work → Work} (same : ∀ work : Work, work.Same (change work))
    (still : ∀ work, (change work).placement = work.placement ∧ (change work).leased = false)
    (dealt : ∀ lease, (system.work id).held = some lease →
      system.deeds lease.pool action = [.release lease.slot] ∨
      system.deeds lease.pool action = [.die lease.slot, .release lease.slot])
    (ages : system.Ages action id (change (system.work id))) : Assigns system action (system.works.modify id change)
  /-- A helper takes a work from its channel. -/
  | take {station : Lease} {helper : ThreadId} {job next : WorkId} {change : Work → Work}
    (turns : action = .next station) (busy : (system.station station).helper = .busy helper job)
    (waiting : (system.station station).waiting = some next) (same : ∀ work : Work, work.Same (change work))
    (placed : ∀ work, (change work).placement = .helper helper ∧ (change work).leased = work.leased ∧
      (change work).phase.hasBegun = true)
    (ages : system.Ages action next (change (system.work next))) :
    Assigns system action (system.works.modify next change)
  | add {work : Work} (arrives : system.Arrives action work) : Assigns system action (system.works ++ [work])

/-! ## Works that are sent -/

/-- A work that is added and sent is placed as the pool answers. -/
theorem works_send (thread : ThreadId) (lease : Lease) (work : Work) (snapshot : Option Stack) :
    ∃ sent, ((system.addWork work).2.handOver thread lease system.works.length snapshot).2.works =
        system.works ++ [sent] ∧ work.Same sent ∧ sent.leased = work.leased ∧
      (sent.placement ≠ .queued → sent.phase.hasBegun = true) ∧
      sent.placement = ((system.pool lease.pool).dispatch lease.slot system.works.length).1.placement ∧
      (sent.phase = .running ∨ sent.phase = work.phase ∧ sent.snapshot = work.snapshot) ∧
      sent.unwound = work.unwound := by
  have dispatched : (system.addWork work).2.pool lease.pool = system.pool lease.pool := rfl
  rcases handed : (system.pool lease.pool).dispatch lease.slot system.works.length with ⟨handoff, pool⟩
  cases handoff with
  | returned | begun =>
    simp only [handOver, dispatched, handed, modifyWork, works_beginWork]
    refine ⟨_, (congrArg (List.modify · _ _) (modify_append_last _ _ _)).trans (modify_append_last _ _ _), ?_⟩
    exact ⟨⟨rfl, rfl, rfl⟩, rfl, fun _ => rfl, rfl, .inl rfl, rfl⟩
  | queued | blocked =>
    simp only [handOver, dispatched, handed]
    exact ⟨_, modify_append_last _ _ _, ⟨rfl, rfl, rfl⟩, rfl, fun placed => absurd rfl placed, rfl,
      .inr ⟨rfl, rfl⟩, rfl⟩

theorem assigns_dispatch (sound : system.picture.Sound events) {thread : ThreadId} {name : String}
    (enabled : system.Enabled (.dispatch thread name)) :
    system.Assigns (.dispatch thread name) (system.perform (.dispatch thread name)).works := by
  obtain ⟨activation, others, lease, top, -, found, held⟩ := lease_cases enabled.1 enabled.2
  obtain ⟨sent, works, same, leased, begun, placed, fresh, orderly⟩ :=
    @works_send (system.takeLease thread name) thread lease
    (pooledWork .job thread ((system.takeLease thread name).activation thread).within lease none) none
  have performed : (system.perform (.dispatch thread name)).works = system.works ++ [sent] := by
    simp only [perform, withLease, held, Option.elim_some]
    exact works
  rw [performed]
  have there := (hasSlot_of_leased (leased_of_crew sound top.mem (holds_of_lookup found))).1
  have no_logic {scope : ScopeId} (logic : sent.kind = .logic scope) : False :=
    WorkKind.noConfusion (logic.symm.trans same.kind)
  refine .add (@Arrives.sent _ _ sent lease [] there same.station leased begun ?_ placed
    (fun scope logic => (no_logic logic).elim)
    (fresh.imp id fun waits => ⟨waits.1, fun scope logic => (no_logic logic).elim⟩) orderly)
  rw [deeds, dealing, held]
  exact if_pos rfl

/-- A lease that is had for a logic is one that the pool was asked for. -/
theorem acquired_of_submit {thread : ThreadId} {scope : ScopeId} {lease : Lease} {granted : System}
    (had : (system.modifyScope scope Scope.countDispatched).acquire (system.scope scope).pool
      (system.scope scope).concurrency = (.ok (some lease), granted)) :
    let asked : Pool.Deed WorkId := .acquire (system.scope scope).concurrency system.threads.length
    lease.pool < system.pools.length ∧
    system.deeds lease.pool (.submit thread scope) = [asked, .dispatch lease.slot system.works.length] ∧
      granted.pool lease.pool = (system.pool lease.pool).undergo asked := by
  intro asked
  let counted := system.modifyScope scope Scope.countDispatched
  have told : (counted.acquire (system.scope scope).pool (system.scope scope).concurrency).1 =
      ((system.pool (system.scope scope).pool).tryAcquire (system.scope scope).concurrency
        system.threads.length).1.map _ := acquire_fst counted (system.scope scope).pool (system.scope scope).concurrency
  have deals := @deals_acquire counted (system.scope scope).pool (system.scope scope).concurrency
  rw [had] at told deals
  rcases result : ((system.pool (system.scope scope).pool).tryAcquire (system.scope scope).concurrency
      system.threads.length).1 with payload | _ | acquired
  · rw [result] at told
    cases told
  · rw [result] at told
    exact absurd (Except.ok.inj told) (Option.some_ne_none lease)
  · rw [result] at told
    obtain rfl := Option.some.inj (Except.ok.inj told)
    have bound : (system.scope scope).pool < system.pools.length := by
      by_contra beyond
      rw [pool_of_not_lt beyond] at result
      rcases (default : Pool WorkId).tryAcquire_shapes (system.scope scope).concurrency system.threads.length with
        ⟨-, missed⟩ | ⟨index, found, -⟩
      · exact missed acquired result
      · exact Nat.not_lt_zero _ ((default : Pool WorkId).leastFree?_eq_some found).1
    refine ⟨bound, ?_, ?_⟩
    · simp only [deeds, dealing, result, dealtTo, ↓reduceIte]
      rfl
    · rw [(deals.kept (system.scope scope).pool bound).2]
      simp only [dealtTo, ↓reduceIte]
      rfl

theorem assigns_submit (thread : ThreadId) (scope : ScopeId) :
    system.Assigns (.submit thread scope) (system.perform (.submit thread scope)).works := by
  rcases submit_cases system thread scope with ⟨payload, cut⟩ | inline
    | ⟨lease, granted, had, own, -, -, works, sent⟩
  · have performed : (system.perform (.submit thread scope)).works = system.works := by
      simp only [perform, cut]
      rfl
    rw [performed]
    exact .rest
  · have performed : (system.perform (.submit thread scope)).works = system.works ++ [{ inlineLogic scope thread
        (system.activation thread).within with phase := .running, runs := [thread] }] := by
      simp only [perform, inline, works_beginWork]
      exact modify_append_last system.works _ _
    rw [performed]
    exact .add (.inline rfl rfl rfl ⟨rfl, rfl⟩ rfl rfl)
  · obtain ⟨there, dealt, pool⟩ := @acquired_of_submit system thread scope lease granted had
    have same : granted.works = system.works := works
    obtain ⟨work, works, kept, leased, begun, placed, fresh, orderly⟩ := @works_send
      (granted.modifyScope scope Scope.countPooled) thread lease
      (pooledWork (.logic scope) thread (system.activation thread).within lease (some (system.stack thread)))
      (some (system.stack thread))
    change _ = ((granted.pool lease.pool).dispatch lease.slot granted.works.length).1.placement at placed
    have performed : (system.perform (.submit thread scope)).works = system.works ++ [work] := by
      simp only [perform, sent]
      exact works.trans (congrArg (· ++ [work]) same)
    rw [performed]
    refine .add (@Arrives.sent _ _ work lease [_] there kept.station leased begun dealt ?_ (fun other logic => ?_)
      (fresh.imp id fun waits => ⟨waits.1, fun other logic => ?_⟩) orderly)
    · rw [placed, pool, same]
      rfl
    · obtain rfl := WorkKind.logic.inj (kept.kind.symm.trans logic)
      exact ⟨thread, rfl, kept.submitter, own, rfl⟩
    · obtain rfl := WorkKind.logic.inj (kept.kind.symm.trans logic)
      exact ⟨thread, rfl, waits.2⟩

/-! ## Works that end -/

theorem works_endJob {thread : ThreadId} {work : WorkId} (current : system.currentWork? thread = some work) :
    (system.perform (.endJob thread)).works =
      system.works.modify work ({ · with leased := false, phase := .vacated }) := by
  simp only [perform, withCurrentWork, current, Option.elim_some, works_vacateAtEnd, works_endProgram]

theorem isVolatile_of_unwindsOn {thread : ThreadId} {work : WorkId} {outcome : Except Failure.TaskError Unit}
    (unwinds : system.unwindsOn work outcome = true) : (Action.endLogic thread outcome).isVolatile = true := by
  rw [unwindsOn] at unwinds
  split at unwinds
  · rcases outcome with failure | _
    · exact (Bool.and_eq_true_iff.mp unwinds).2
    · exact Bool.noConfusion unwinds
  · exact Bool.noConfusion unwinds

/-- A program ends on the thread that runs it. -/
private theorem Ages.of_ender {action : Action} {thread : ThreadId} {work : WorkId} {later : Work}
    (current : system.currentWork? thread = some work) (ender : action.ender? = some thread)
    (midst : (system.work work).phase = .running) (waits : later.phase ≠ .waiting) (runs : later.phase ≠ .running)
    (unwound : later.unwound = true → (system.work work).unwound = true ∨ action.isVolatile = true) :
    system.Ages action work later where
  waiting phase := (waits phase).elim
  running phase := (runs phase).elim
  active _ := .inr (by rw [midst]; rfl)
  finished phase := WorkPhase.noConfusion (midst.symm.trans phase)
  ended _ := .inr ⟨thread, ender, current⟩
  unwound := unwound

/-- A work that does not run does not begin. -/
private theorem Ages.of_past {action : Action} {work : WorkId} {later : Work}
    (past : (system.work work).phase ≠ .running) (waits : later.phase ≠ .waiting) (runs : later.phase ≠ .running)
    (active : later.phase.isActive = true → (system.work work).phase.isActive = true)
    (finished : (system.work work).phase = .over → later.phase = .over)
    (orderly : later.unwound = (system.work work).unwound) : system.Ages action work later where
  waiting phase := (waits phase).elim
  running phase := (runs phase).elim
  active still := .inr (active still)
  finished := finished
  ended phase := (past phase).elim
  unwound unwinds := .inl (orderly ▸ unwinds)

/-- What a thread runs gives its lease back, and may come to another phase. -/
private theorem assigns_vacates {action : Action} {thread : ThreadId} {work : WorkId} {change : Work → Work}
    (current : system.currentWork? thread = some work)
    (dealing : system.dealing action = ((system.currentWork? thread).bind fun work => (system.work work).held).map
      fun lease => (lease.pool, [.release lease.slot]))
    (kept : ∀ work : Work, work.Same (change work))
    (still : ∀ work, (change work).placement = work.placement ∧ (change work).leased = false)
    (ages : system.Ages action work (change (system.work work))) :
    system.Assigns action (system.works.modify work change) := by
  refine .giveBack kept still (fun lease held => .inl ?_) ages
  rw [deeds, dealing, current, Option.bind_some, held]
  exact if_pos rfl

/-! ## Helpers that go on, and helpers that die -/

theorem assigns_next (sound : system.picture.Sound events) {station : Lease}
    (enabled : system.Enabled (.next station)) :
    system.Assigns (.next station) (system.perform (.next station)).works := by
  rcases works_next sound enabled with still | ⟨helper, job, next, busy, waiting, waits, taken⟩
  · rw [still]
    exact .rest
  · rw [taken]
    exact .take rfl busy waiting (fun _ => ⟨rfl, rfl, rfl⟩) (fun _ => ⟨rfl, rfl, rfl⟩)
      ⟨fun phase => WorkPhase.noConfusion phase, fun _ => .inr waits, fun _ => .inl rfl,
        fun finished => WorkPhase.noConfusion (waits.symm.trans finished), fun _ => .inl rfl, .inl⟩

/-- The work that waits for a helper that dies is lost, and its slot is free again. -/
theorem assigns_die (sound : system.picture.Sound events) {station : Lease}
    (enabled : system.Enabled (.die station)) :
    system.Assigns (.die station) (system.perform (.die station)).works := by
  obtain ⟨helper, job, busy, -⟩ := hasEnded_cases enabled
  have performed : (system.perform (.die station)).picture.works =
      (system.helperDies helper station).2.picture.works := by
    simp only [perform, withHelper, busy]
  change system.Assigns _ (system.perform (.die station)).picture.works
  rw [performed]
  have waits (work : WorkId) (waiting : (system.station station).waiting = some work) :=
    sound.channels.waits station work waiting
  rcases picture_helperDies helper (by simp [busy]) fun work waiting =>
    ⟨(waits work waiting).leased, (waits work waiting).place⟩ with ⟨-, died⟩ | ⟨lost, waiting, died⟩
  · rw [died]
    exact .rest
  · rw [died]
    have phase : (system.work lost).phase = .waiting := (waits lost waiting).phase
    refine .giveBack (fun _ => ⟨rfl, rfl, rfl⟩) (fun _ => ⟨rfl, rfl⟩) (fun lease held => .inr ?_) ?_
    · obtain rfl := Option.some.inj ((waits lost waiting).place.symm.trans (Work.station_of_held held))
      simp only [deeds, dealing, waiting, dealtTo, ↓reduceIte]
    · exact .of_past (ne_of_eq_of_ne phase WorkPhase.noConfusion) WorkPhase.noConfusion WorkPhase.noConfusion
        Bool.noConfusion (fun finished => WorkPhase.noConfusion (phase.symm.trans finished)) rfl

/-! ## Every action -/

theorem assigns_perform (sound : system.picture.Sound events) {action : Action} (enabled : system.Enabled action) :
    system.Assigns action (system.perform action).works := by
  have same (works : (system.perform action).works = system.works) :
      system.Assigns action (system.perform action).works := by
    rw [works]
    exact .rest
  cases action with
  | enter thread tenure => exact same (quiet_enclosing thread).works
  | submit thread scope => exact assigns_submit thread scope
  | leave thread =>
    obtain ⟨-, -, scope, -, -, -, -, -, -, left⟩ := leave_cases sound enabled
    rw [left]
    exact .rest
  | detach thread =>
    apply same
    simp only [perform, detach]
    split <;> rfl
  | acquire thread pool limit name =>
    apply same
    have works := @works_acquire system pool limit
    simp only [perform, acquireFor]
    split <;> rename_i had <;> rw [had] at works <;> exact works
  | dropLease thread name =>
    obtain ⟨lease, held⟩ := Option.isSome_iff_exists.mp enabled.2
    apply same
    simp only [perform, withLease, held, Option.elim_some]
    rfl
  | passLease thread other name =>
    obtain ⟨lease, held⟩ := Option.isSome_iff_exists.mp enabled.2.2.2.1
    apply same
    simp only [perform, withLease, held, Option.elim_some]
    rfl
  | dispatch thread name => exact assigns_dispatch sound enabled
  | free thread =>
    obtain ⟨work, current⟩ := Option.isSome_iff_exists.mp enabled.2
    have works : (system.perform (.free thread)).works = system.works.modify work ({ · with leased := false }) := by
      simp only [perform, withCurrentWork, current, Option.elim_some]
      exact works_vacate work
    rw [works]
    exact assigns_vacates current rfl (fun _ => ⟨rfl, rfl, rfl⟩) (fun _ => ⟨rfl, rfl⟩)
      ⟨fun waits => ⟨waits, rfl⟩, .inl, .inr, fun finished => finished, .inl, .inl⟩
  | endLogic thread outcome =>
    obtain ⟨activation, others, work, top, running, role, current, -⟩ := canEnd_cases enabled
    rw [works_endLogic current]
    refine .goOn (fun _ => ⟨rfl, rfl, rfl⟩) (fun _ => ⟨rfl, rfl⟩)
      (.of_ender current rfl (running.running work role) WorkPhase.noConfusion WorkPhase.noConfusion fun unwinds => ?_)
    exact .inr (isVolatile_of_unwindsOn unwinds)
  | endJob thread =>
    obtain ⟨activation, others, work, top, running, role, current, -⟩ := canEnd_cases enabled
    rw [works_endJob current]
    exact assigns_vacates current rfl (fun _ => ⟨rfl, rfl, rfl⟩) (fun _ => ⟨rfl, rfl⟩)
      (.of_ender current rfl (running.running work role) WorkPhase.noConfusion WorkPhase.noConfusion .inl)
  | vacate thread =>
    obtain ⟨-, -, work, -, -, current, recorded⟩ := isEnding_cases enabled
    have works : (system.perform (.vacate thread)).works =
        system.works.modify work ({ · with leased := false, phase := .vacated }) := by
      simp only [perform, withCurrentWork, current, Option.elim_some, works_vacateAtEnd]
    rw [works]
    refine assigns_vacates current rfl (fun _ => ⟨rfl, rfl, rfl⟩) (fun _ => ⟨rfl, rfl⟩) ?_
    refine .of_past (ne_of_eq_of_ne recorded WorkPhase.noConfusion) WorkPhase.noConfusion WorkPhase.noConfusion
      (fun _ => ?_) (fun finished => WorkPhase.noConfusion (recorded.symm.trans finished)) rfl
    rw [recorded]
    rfl
  | complete thread =>
    obtain ⟨-, -, work, -, -, current, vacated⟩ := isEnding_cases enabled
    rw [works_complete current]
    refine .goOn (fun _ => ⟨rfl, rfl, rfl⟩) (fun _ => ⟨rfl, rfl⟩) ?_
    exact .of_past (ne_of_eq_of_ne vacated WorkPhase.noConfusion) WorkPhase.noConfusion WorkPhase.noConfusion
      Bool.noConfusion (fun _ => rfl) rfl
  | next station => exact assigns_next sound enabled
  | die station => exact assigns_die sound enabled
  | dropPool pool => exact same (congrArg Picture.works (picture_shutdown enabled.1))
  | enterIn | reduce | beginExit | beginDrop | attach | makePool | bar | makeRoot | makeFactory | reroute | register
  | configure | start | finish => exact same rfl

/-! ## One work -/

variable {after : System} {action : Action} {work : WorkId}

theorem work_of_modify {id : WorkId} {change : Work → Work} (works : after.works = system.works.modify id change)
    (work : WorkId) : after.work work =
      if work = id ∧ id < system.works.length then change (system.work work) else system.work work := by
  rw [System.work, works]
  exact read_modify system.works id work change

structure Keeps (system after : System) (action : Action) (work : WorkId) : Prop where
  same : (system.work work).Same (after.work work)
  leased : (after.work work).leased = true → (system.work work).leased = true
  placed : (after.work work).placement = (system.work work).placement ∨
    ∃ station helper job, action = .next station ∧ (system.station station).helper = .busy helper job ∧
      (system.station station).waiting = some work ∧ (after.work work).placement = .helper helper ∧
      (after.work work).phase.hasBegun = true

theorem Keeps.of_same (same : after.work work = system.work work) : system.Keeps after action work := by
  constructor
  case same =>
    rw [same]
    exact ⟨rfl, rfl, rfl⟩
  case leased =>
    rw [same]
    exact id
  case placed =>
    rw [same]
    exact .inl rfl

theorem Assigns.keeps (assigns : system.Assigns action after.works) (bound : work < system.works.length) :
    system.Keeps after action work := by
  have appended {new : Work} (works : after.works = system.works ++ [new]) : system.Keeps after action work :=
    .of_same (by rw [work_of_append works, if_neg (Nat.ne_of_lt bound)])
  generalize works : after.works = changed at assigns
  cases assigns with
  | rest => exact .of_same (by rw [System.work, works, System.work])
  | goOn same still =>
    have read := work_of_modify works work
    split_ifs at read
    · exact ⟨read ▸ same _, by rw [read, (still _).2]; exact id, .inl (by rw [read, (still _).1])⟩
    · exact .of_same read
  | giveBack same still =>
    have read := work_of_modify works work
    split_ifs at read
    · refine ⟨read ▸ same _, fun leased => ?_, .inl (by rw [read, (still _).1])⟩
      rw [read, (still _).2] at leased
      exact Bool.noConfusion leased
    · exact .of_same read
  | @take station helper job next change turns busy waiting same placed =>
    have read := work_of_modify works work
    split_ifs at read with here
    · obtain ⟨rfl, -⟩ := here
      obtain ⟨placement, leased, begun⟩ := placed (system.work work)
      rw [← read] at placement leased begun
      exact ⟨read ▸ same _, leased.symm.trans,
        .inr ⟨station, helper, job, turns, busy, waiting, placement, begun⟩⟩
    · exact .of_same read
  | add => exact appended works

theorem Ages.of_same (same : after.work work = system.work work) : system.Ages action work (after.work work) := by
  rw [same]
  exact ⟨fun waits => ⟨waits, rfl⟩, .inl, .inr, fun finished => finished, .inl, .inl⟩

theorem Assigns.ages (assigns : system.Assigns action after.works) (bound : work < system.works.length) :
    system.Ages action work (after.work work) := by
  generalize works : after.works = changed at assigns
  cases assigns with
  | rest => exact .of_same (by rw [System.work, works, System.work])
  | goOn _ _ ages | giveBack _ _ _ ages | take _ _ _ _ _ ages =>
    have read := work_of_modify works work
    split_ifs at read with here
    · obtain ⟨rfl, -⟩ := here
      exact read ▸ ages
    · exact .of_same read
  | add => exact .of_same (by rw [work_of_append works, if_neg (Nat.ne_of_lt bound)])

theorem Assigns.arrives (assigns : system.Assigns action after.works) (beyond : ¬ work < system.works.length)
    (bound : work < after.works.length) : work = system.works.length ∧ system.Arrives action (after.work work) := by
  have none_new (same : after.works.length = system.works.length) : False := beyond (same ▸ bound)
  have appended {new : Work} (works : after.works = system.works ++ [new]) :
      work = system.works.length ∧ after.work work = new := by
    rw [works, List.length_append, List.length_singleton] at bound
    have last : work = system.works.length := Nat.le_antisymm (Nat.le_of_lt_succ bound) (Nat.le_of_not_lt beyond)
    exact ⟨last, by rw [work_of_append works, if_pos last]⟩
  generalize works : after.works = changed at assigns
  cases assigns with
  | rest => exact (none_new (congrArg List.length works)).elim
  | goOn | giveBack | take => exact (none_new ((congrArg List.length works).trans (List.length_modify _ _ _))).elim
  | add arrives =>
    obtain ⟨last, read⟩ := appended works
    exact ⟨last, read ▸ arrives⟩

/-- Where every failure can be dropped, no end of a logic is unwound. -/
theorem Assigns.orderly (assigns : system.Assigns action after.works) (droppable : action.isVolatile = false)
    (before : ∀ work < system.works.length, (system.work work).unwound = false) :
    ∀ work < after.works.length, (after.work work).unwound = false := by
  intro work bound
  by_cases old : work < system.works.length
  · rw [Bool.eq_false_iff]
    intro unwound
    rcases (assigns.ages old).unwound unwound with already | unwinds
    · exact Bool.false_ne_true ((before work old).symm.trans already)
    · exact Bool.false_ne_true (droppable.symm.trans unwinds)
  · obtain ⟨-, arrives⟩ := assigns.arrives old bound
    cases arrives with
    | inline _ _ _ _ _ orderly => exact orderly
    | sent _ _ _ _ _ _ _ _ orderly => exact orderly

/-- A work gives its lease back as its slot is freed. -/
theorem Assigns.freed (assigns : system.Assigns action after.works) (held : (system.work work).leased = true)
    (free : (after.work work).leased = false) {lease : Lease} (place : (system.work work).station = some lease) :
    system.deeds lease.pool action = [.release lease.slot] ∨
      system.deeds lease.pool action = [.die lease.slot, .release lease.slot] := by
  have unchanged (same : (after.work work).leased = (system.work work).leased) : False := by
    rw [same, held] at free
    exact Bool.noConfusion free
  have bound : work < system.works.length := lt_of_work (p := fun work => work.leased = true) held Bool.false_ne_true
  generalize works : after.works = changed at assigns
  cases assigns with
  | rest => exact (unchanged (by rw [System.work, works, System.work])).elim
  | goOn same still =>
    have read := work_of_modify works work
    split_ifs at read
    · exact (unchanged (by rw [read, (still _).2])).elim
    · exact (unchanged (by rw [read])).elim
  | giveBack same still dealt =>
    have read := work_of_modify works work
    split_ifs at read with here
    · obtain ⟨rfl, -⟩ := here
      exact dealt lease (by rw [Work.held, held, place]; rfl)
    · exact (unchanged (by rw [read])).elim
  | take _ _ _ same placed =>
    have read := work_of_modify works work
    split_ifs at read
    · exact (unchanged (by rw [read, (placed _).2.1])).elim
    · exact (unchanged (by rw [read])).elim
  | add =>
    have read := work_of_append works work
    rw [if_neg (Nat.ne_of_lt bound)] at read
    exact (unchanged (by rw [read])).elim

end System

/-- Every logic that is over is counted as such in a run whose failures can all be dropped. -/
theorem Reaches.not_unwound {setting : Setting.State} {history : List Moment} {system : System}
    (reached : Reaches (.initial setting) history system)
    (droppable : ∀ moment ∈ history, moment.action.isVolatile = false) :
    ∀ work < system.works.length, (system.work work).unwound = false := by
  induction reached with
  | start => exact fun work bound => absurd bound (Nat.not_lt_zero work)
  | step reached enabled ih =>
    have assigns := System.assigns_perform reached.sound enabled
    refine assigns.orderly (droppable _ List.mem_cons_self) (ih fun moment member => ?_)
    exact droppable moment (List.mem_cons_of_mem _ member)

end ScopedWork
