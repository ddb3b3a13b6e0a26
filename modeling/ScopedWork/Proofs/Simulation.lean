import ScopedWork.Proofs.Ledger
import ScopedWork.Proofs.Stations

/-! # Every action is a step of the picture

Most actions look for something, make something that nothing refers to yet, or change a setting: they
are quiet. The others are taken apart here into what they do to the picture. Together with the rules
that the steps of a picture keep, this gives the rules for every run of a process.
-/

namespace ScopedWork

theorem Scope.Alike.refl (scope : Scope) : scope.Alike scope :=
  ⟨scope.pool, scope.concurrency, rfl⟩

theorem Scope.Alike.trans {first second third : Scope} (left : first.Alike second)
    (right : second.Alike third) : first.Alike third := by
  obtain ⟨_, _, rfl⟩ := left
  obtain ⟨pool, concurrency, rfl⟩ := right
  exact ⟨pool, concurrency, rfl⟩

theorem Slot.Alike.refl {Job : Type} (slot : Slot Job) : slot.Alike slot :=
  ⟨slot.barred, rfl⟩

theorem Slot.Alike.trans {Job : Type} {first second third : Slot Job} (left : first.Alike second)
    (right : second.Alike third) : first.Alike third := by
  obtain ⟨_, rfl⟩ := left
  obtain ⟨barred, rfl⟩ := right
  exact ⟨barred, rfl⟩

namespace System

variable {system after : System}

/-! ## Quiet actions -/

/-- A step that touches no context, no work, no lease and no thread. -/
structure Quiet (system after : System) : Prop where
  threads : after.threads = system.threads
  works : after.works = system.works
  scopes : ∀ scope, (system.scope scope).Alike (after.scope scope)
  slots : ∀ lease, (system.station lease).Alike (after.station lease)
  dropped : ∀ pool, (after.pool pool).dropped = (system.pool pool).dropped

namespace Quiet

/-- A step that keeps scopes, works, threads and pools is quiet. -/
theorem of_same (threads : after.threads = system.threads) (works : after.works = system.works)
    (scopes : after.scopes = system.scopes) (pools : after.pools = system.pools) : system.Quiet after where
  threads := threads
  works := works
  scopes scope := by rw [System.scope, System.scope, scopes]; exact .refl _
  slots lease := by rw [station, station, pool, pool, pools]; exact .refl _
  dropped id := by rw [pool, pool, pools]

theorem refl (system : System) : system.Quiet system :=
  of_same rfl rfl rfl rfl

theorem trans {middle : System} (left : system.Quiet middle) (right : middle.Quiet after) :
    system.Quiet after where
  threads := right.threads.trans left.threads
  works := right.works.trans left.works
  scopes scope := (left.scopes scope).trans (right.scopes scope)
  slots lease := (left.slots lease).trans (right.slots lease)
  dropped pool := (right.dropped pool).trans (left.dropped pool)

theorem picture (quiet : system.Quiet after) : system.picture.Quiet after.picture := by
  have same : after.picture = { system.picture with scope := after.scope, station := after.station } :=
    Picture.ext rfl quiet.works (crew_of_threads quiet.threads) rfl (funext quiet.dropped)
      (congrArg List.length quiet.threads)
  rw [same]
  exact .intro quiet.scopes quiet.slots

end Quiet

theorem quiet_reduceConcurrency (scope : ScopeId) (concurrency : Nat) :
    system.Quiet (system.reduceConcurrency scope concurrency) where
  threads := rfl
  works := rfl
  scopes other := by
    rw [reduceConcurrency, scope_modifyScope]
    split_ifs
    · exact ⟨_, _, rfl⟩
    · exact .refl _
  slots _ := .refl _
  dropped _ := rfl

/-- A new root takes a number at which a scope without contexts and works is read already. -/
theorem quiet_newRoot (pool : PoolId) (concurrency : Nat) :
    system.Quiet (system.newRoot pool concurrency).2 where
  threads := rfl
  works := rfl
  scopes other := by
    rw [newRoot, scope_addScope]
    split_ifs with last
    · rw [last, scope_of_not_lt system (Nat.lt_irrefl _)]
      exact ⟨_, _, rfl⟩
    · exact .refl _
  slots _ := .refl _
  dropped _ := rfl

/-- The slots of a new pool are free and bare, as what is no slot is read already. -/
theorem quiet_addPool (capacity : Nat) (config : Setting.Config) (stackBound : Option Nat) :
    system.Quiet (system.addPool (Pool.ofConfig capacity config stackBound)).2 where
  threads := rfl
  works := rfl
  scopes _ := .refl _
  slots lease := by
    rw [station, station, pool_addPool]
    split_ifs with last
    · have missing : (system.pool lease.pool).slot lease.slot = {} := by
        rw [last, pool_of_not_lt (Nat.lt_irrefl _)]
        rfl
      rw [missing, Pool.slot, Pool.ofConfig, List.getElem?_replicate]
      split_ifs <;> exact .refl _
    · exact .refl _
  dropped pool := by
    rw [pool_addPool]
    split_ifs with last
    · rw [last, pool_of_not_lt (Nat.lt_irrefl _)]
      rfl
    · rfl

theorem quiet_bar (lease : Lease) (barred : Bool) :
    system.Quiet (system.modifyPool lease.pool (·.modifySlot lease.slot ({ · with barred }))) where
  threads := rfl
  works := rfl
  scopes _ := .refl _
  slots other := by
    rw [station_modifyPool, Pool.slot_modifySlot]
    split_ifs
    · exact ⟨barred, rfl⟩
    · exact .refl _
    · exact .refl _
  dropped pool := by
    rw [pool_modifyPool]
    split_ifs <;> rfl

theorem quiet_getGlobalPool : system.Quiet system.getGlobalPool.2 := by
  rw [getGlobalPool]
  split
  · exact .refl system
  · have read : system.Quiet system.readSetting.2 := .of_same rfl rfl rfl rfl
    exact read.trans ((quiet_addPool _ _ _).trans (.of_same rfl rfl rfl rfl))

theorem quiet_getStandardRoot : system.Quiet system.getStandardRoot.2 := by
  rw [getStandardRoot]
  split
  · exact .refl system
  · let fixed : System := { system with setting := system.setting.concurrency.2 }
    have fix : system.Quiet fixed := .of_same rfl rfl rfl rfl
    exact fix.trans (quiet_getGlobalPool.trans ((quiet_newRoot fixed.getGlobalPool.1 _).trans
      (.of_same rfl rfl rfl rfl)))

theorem quiet_rootFrom (source : RootSource) : system.Quiet (system.rootFrom source).2 := by
  cases source with
  | scope root => exact .refl system
  | fresh pool concurrency => exact quiet_newRoot pool concurrency
  | standard => exact quiet_getStandardRoot

theorem quiet_supplyRoot : system.Quiet system.supplyRoot.2 := by
  rw [supplyRoot]
  split
  · rename_i id factory _
    have counted : system.Quiet (system.countLookup id) := .of_same rfl rfl rfl rfl
    exact counted.trans (quiet_rootFrom factory.source)
  · exact quiet_getStandardRoot

/-- To look for the scope that a new context would be nested in touches nothing in use. -/
theorem quiet_enclosing (thread : ThreadId) : system.Quiet (system.enclosing thread).2 := by
  rw [enclosing]
  split
  · exact .refl system
  · exact quiet_supplyRoot

/-! ## Contexts -/

variable {thread : ThreadId} {activation : Activation} {others : Multiset Activation}

theorem picture_enterIn (top : system.Innermost thread activation others) (parent : ScopeId)
    (tenure : Tenure) :
    (system.enterIn thread parent tenure).2.picture =
      (system.picture.modifyScope system.scopes.length
        fun _ => (system.scope parent).child parent activation.within).withCrew
          ({ activation with handles := { scope := system.scopes.length, tenure } :: activation.handles } ::ₘ
            others) := by
  let scope := (system.scope parent).child parent activation.within
  have added : (system.addScope scope).2.Innermost thread activation others := top.frame rfl
  have stacked := added.modifyThread thread
    (fun t => { t with stack := t.stack.push (.scope system.scopes.length) }) fun _ => rfl
  have shape : (system.enterIn thread parent tenure).2 =
      ((system.addScope scope).2.modifyThread thread fun t =>
        { t with stack := t.stack.push (.scope system.scopes.length) }).modifyActivation thread fun a =>
          { a with handles := { scope := system.scopes.length, tenure } :: a.handles } := by
    rw [enterIn, top.activation_eq]
    rfl
  rw [shape, stacked.picture_modify]
  refine Picture.ext ?_ rfl rfl rfl rfl (List.length_modify _ _ _)
  funext other
  change (system.addScope scope).2.scope other = Function.update system.scope system.scopes.length scope other
  rw [scope_addScope]
  by_cases last : other = system.scopes.length
  · rw [if_pos last, last, Function.update_self]
  · rw [if_neg last, Function.update_of_ne last]

/-- The last step of leaving a context: its scope is closed, and it is forgotten. -/
theorem picture_leave (top : system.Innermost thread activation others) {scope : ScopeId}
    (departure : Departure) (bound : scope < system.scopes.length)
    (entered : (system.scope scope).state ≠ .closed) :
    (system.leave thread scope departure).2.picture =
      (system.picture.modifyScope scope (·.close.2)).withCrew ({ activation with
        handles := activation.handles.filter (·.scope ≠ scope), leaving := none } ::ₘ others) := by
  have closed {stacked : System} (scopes : stacked.scopes = system.scopes)
      (picture : stacked.picture = system.picture) (top : stacked.Innermost thread activation others) :
      ((stacked.closeScope scope).2.forgetHandle thread scope).picture =
        (system.picture.modifyScope scope (·.close.2)).withCrew ({ activation with
          handles := activation.handles.filter (·.scope ≠ scope), leaving := none } ::ₘ others) := by
    have same : (stacked.closeScope scope).2.Innermost thread activation others := top.frame rfl
    have shut : (stacked.closeScope scope).2.picture = stacked.picture.modifyScope scope (·.close.2) :=
      picture_modifyScope _ (scopes ▸ bound)
    rw [forgetHandle, same.picture_modify, shut, picture]
  have unstacked : (system.unstack thread scope).Innermost thread activation others :=
    top.modifyThread thread _ fun _ => rfl
  have dropped : (system.dropScope thread scope) = ((system.unstack thread scope).closeScope scope).2 := by
    rw [dropScope, if_neg entered]
  rcases departure with refused | _
  · rcases refused with _ | error
    · cases popped : (system.stack thread).pop (.scope scope) with
      | error error =>
        simp only [leave, exitScope, popped, dropped]
        exact closed rfl (picture_unstack thread scope) unstacked
      | ok stack =>
        simp only [leave, exitScope, popped]
        exact closed rfl (picture_setStack thread stack) (top.modifyThread thread _ fun _ => rfl)
    · have result : (system.leave thread scope (.exit (some error))).2 =
          ((system.unstack thread scope).closeScope scope).2.forgetHandle thread scope := by
        simp only [leave, exitScope]
        split <;> rename_i taken <;> rw [taken]
      rw [result]
      exact closed rfl (picture_unstack thread scope) unstacked
  · simp only [leave, dropped]
    exact closed rfl (picture_unstack thread scope) unstacked

end System

/-! ## The rules together -/

namespace Picture

/-- All the rules of accounting. -/
structure Sound (picture : Picture) (events : List Event) : Prop where
  tenancy : picture.Tenancy
  running : picture.Running
  leasing : picture.Leasing none
  channels : picture.Channels
  ledger : picture.Ledger events

theorem Sound.step {picture after : Picture} {events : List Event} {event : Event}
    (sound : picture.Sound events) (step : picture.Step event after) : after.Sound (event :: events) := by
  have bare (activation : Activation) (member : activation ∈ picture.crew) (work : WorkId)
      (role : activation.role = .work work) (vacated : (picture.work work).phase = .vacated) :
      activation.IsBare := sound.running.bare member role (by rw [vacated]; simp)
  exact {
    tenancy := sound.tenancy.step step fun activation member work role vacated =>
      (bare activation member work role vacated).handles
    running := sound.running.step step
    leasing := sound.leasing.step step fun activation member work role vacated =>
      (bare activation member work role vacated).leases
    channels := sound.channels.step step
    ledger := sound.ledger.step sound.tenancy step }

/-- The holder of a lease finds room in its channel: a work that waited there would hold the lease too. -/
theorem Sound.room {picture : Picture} {lease : Lease} (channels : picture.Channels)
    (leasing : picture.Leasing (some lease)) : (picture.station lease).waiting = none := by
  by_contra full
  obtain ⟨work, waiting⟩ := Option.ne_none_iff_exists'.mp full
  have waits := channels.waits lease work waiting
  have held : (picture.work work).holds lease = true := by
    rw [Work.holds, waits.leased, waits.place]
    exact beq_self_eq_true _
  have counted : 0 < picture.works.countP (·.holds lease) :=
    List.countP_pos_iff.mpr ⟨_, List.mem_of_getElem? (works_getElem? waits.bound), held⟩
  have none_left := leasing.inHand.2
  rw [holders] at none_left
  omega

end Picture

namespace System

variable {system : System} {thread : ThreadId} {activation : Activation} {others : Multiset Activation}
  {events : List Event}

theorem mem_crew : activation ∈ system.crew ↔ ∃ thread ∈ system.threads, activation ∈ thread.activations := by
  simp [crew, List.mem_flatten]

theorem lt_of_isEntered {scope : ScopeId} (entered : (system.scope scope).isEntered = true) :
    scope < system.scopes.length := by
  by_contra beyond
  rw [scope_of_not_lt system beyond] at entered
  exact absurd entered (by decide)

/-- What enables the actions of a program in its midst. -/
theorem innermost_of_isRunning (running : system.isRunning thread = true) :
    ∃ activation others, system.Innermost thread activation others ∧ system.picture.IsRunning activation := by
  obtain ⟨activation, others, top, staying, busy⟩ := exists_innermost_of_isRunning running
  exact ⟨activation, others, top, staying, busy⟩

theorem Innermost.contexts_pos (top : system.Innermost thread activation others) {scope : ScopeId}
    (owns : system.owns thread scope = true) : 0 < activation.contexts scope := by
  rw [System.owns, top.activation_eq, List.any_eq_true] at owns
  obtain ⟨handle, has, same⟩ := owns
  exact Activation.contexts_pos.mpr ⟨handle, has, beq_iff_eq.mp same⟩

/-! ## Each action -/

private theorem step_enterIn {looked : System} (top : system.Innermost thread activation others)
    (running : system.picture.IsRunning activation) (quiet : system.Quiet looked) (parent : ScopeId)
    (tenure : Tenure) :
    system.picture.Step .other (looked.enterIn thread parent tenure).2.picture := by
  rw [picture_enterIn (top.frame quiet.threads)]
  exact .enter quiet.picture top.crew_eq running (scope_of_not_lt looked (Nat.lt_irrefl _))

private theorem step_beginLeave (tenancy : system.picture.Tenancy)
    (top : system.Innermost thread activation others) (running : system.picture.IsRunning activation)
    {scope : ScopeId} (owns : system.owns thread scope = true) (departure : Departure) :
    system.picture.Step .other (system.beginLeave thread scope departure).picture := by
  have owned := top.contexts_pos owns
  have bound := lt_of_isEntered (tenancy.alone top.crew_eq owned).1
  have drained : (system.modifyScope scope Scope.drain).Innermost thread activation others := top.frame rfl
  rw [beginLeave, drained.picture_modify, picture_modifyScope _ bound]
  exact .drain departure top.crew_eq running owned

/-- A thread that leaves a context waits for a scope that is open and settled by then. -/
theorem leaving_cases (tenancy : system.picture.Tenancy) (ready : (system.leave? thread).isSome = true) :
    ∃ activation others scope departure, system.Innermost thread activation others ∧
      activation.leaving = some (scope, departure) ∧ 0 < activation.contexts scope ∧
      (system.scope scope).isSettled = true ∧ (system.scope scope).isEntered = true ∧
      (system.scope scope).state ≠ .closed ∧ (system.activation thread).leaving = some (scope, departure) ∧
      system.leave? thread = some (system.leave thread scope departure) := by
  cases leaving : (system.activation thread).leaving with
  | none => simp [leave?, leaving] at ready
  | some target =>
    obtain ⟨scope, departure⟩ := target
    by_cases settled : (system.scope scope).isSettled = true
    · have busy : (system.thread thread).activations ≠ [] := by
        intro idle
        simp [System.activation, idle] at leaving
      obtain ⟨activation, others, top⟩ := exists_innermost busy
      have same := leaving
      rw [top.activation_eq] at same
      have owned := tenancy.leaving activation top.mem scope departure same
      have entered : (system.scope scope).isEntered = true := (tenancy.alone top.crew_eq owned).1
      have unclosed : (system.scope scope).state ≠ .closed := by
        simp only [Scope.isEntered, Bool.and_eq_true, bne_iff_ne, ne_eq] at entered
        exact entered.2
      refine ⟨activation, others, scope, departure, top, same, owned, settled, entered, unclosed, rfl, ?_⟩
      simp only [leave?, leaving, settled, ↓reduceIte]
    · simp [leave?, leaving, settled] at ready

private theorem step_leave (tenancy : system.picture.Tenancy) (ready : (system.leave? thread).isSome = true) :
    system.picture.Step (Moment.event ⟨system, .leave thread⟩)
      ((system.leave? thread).elim system (·.2)).picture := by
  obtain ⟨activation, others, scope, departure, top, leaving, -, settled, entered, unclosed, noted, left⟩ :=
    leaving_cases tenancy ready
  have event : Moment.event ⟨system, .leave thread⟩ = .left scope (system.scope scope).firstFailure.isSome := by
    simp only [Moment.event, noted]
  rw [left, event]
  change system.picture.Step _ (system.leave thread scope departure).2.picture
  rw [picture_leave top departure (lt_of_isEntered entered) unclosed]
  exact .leave top.crew_eq leaving settled

private theorem step_attach (top : system.Innermost thread activation others) (snapshot : Stack) :
    system.picture.Step .other (system.attach thread snapshot).picture := by
  rw [attach, picture_setStack, top.picture_modify]
  exact .shift top.crew_eq ⟨rfl, rfl, rfl, rfl, rfl⟩

private theorem step_detach (top : system.Innermost thread activation others) :
    system.picture.Step .other (system.detach thread).picture := by
  rw [detach]
  split
  · exact .quiet (Quiet.refl system).picture
  · rw [picture_setStack, top.picture_modify]
    exact .shift top.crew_eq ⟨rfl, rfl, rfl, rfl, rfl⟩

private theorem lease?_eq (top : system.Innermost thread activation others) (name : String) :
    system.lease? thread name = activation.leases.lookup name := by
  rw [lease?, top.activation_eq]

private theorem step_acquire (top : system.Innermost thread activation others)
    (running : system.picture.IsRunning activation) {pool : PoolId} {name : String}
    (usable : (system.pool pool).dropped = false) (new : system.lease? thread name = none) (limit : Nat) :
    system.picture.Step .other (system.acquireFor thread pool limit name).picture := by
  rcases acquire_cases system pool limit with ⟨result, had, missed⟩
    | ⟨lease, after, had, rfl, granted, _, _, threads⟩
  · have same : system.acquireFor thread pool limit name = system := by
      rw [acquireFor, had]
      rcases result with payload | _ | lease
      · rfl
      · rfl
      · exact (missed lease rfl).elim
    rw [same]
    exact .quiet (Quiet.refl system).picture
  · have there : after.Innermost thread activation others := {
      chain := by rw [threads thread top.bound]; exact top.chain
      crew_eq := granted.crew_eq.trans top.crew_eq }
    have same : system.acquireFor thread lease.pool limit name = after.keepLease thread name lease := by
      rw [acquireFor, had]
    rw [same, keepLease, there.picture_modify]
    exact .acquire top.crew_eq running usable ((lease?_eq top name).symm.trans new) granted

/-- A lease taken from a program is in hand. -/
private theorem take_lease (top : system.Innermost thread activation others) {name : String} {lease : Lease}
    (held : system.lease? thread name = some lease) :
    activation.leases.lookup name = some lease ∧
      (system.takeLease thread name).Innermost thread
        { activation with leases := activation.leases.filter (·.1 ≠ name) } others ∧
      (system.takeLease thread name).picture = system.picture.withCrew
        ({ activation with leases := activation.leases.filter (·.1 ≠ name) } ::ₘ others) :=
  ⟨(lease?_eq top name).symm.trans held, top.modify _, top.picture_modify _⟩

private theorem step_dropLease (top : system.Innermost thread activation others) {name : String} {lease : Lease}
    (held : system.lease? thread name = some lease) :
    system.picture.Step .other ((system.takeLease thread name).release lease).picture := by
  obtain ⟨found, -, taken⟩ := take_lease top held
  rw [picture_release, taken]
  exact .dropLease top.crew_eq found

private theorem step_dispatch (sound : system.picture.Sound events) (top : system.Innermost thread activation others)
    (running : system.picture.IsRunning activation) {name : String} {lease : Lease}
    (held : system.lease? thread name = some lease) :
    system.picture.Step .other ((system.takeLease thread name).dispatchJob thread lease).2.picture := by
  obtain ⟨found, there, taken⟩ := take_lease top held
  have leasing := sound.leasing.take top.crew_eq found
  have channels : (system.picture.withCrew ({ activation with
      leases := activation.leases.filter (·.1 ≠ name) } ::ₘ others)).Channels :=
    sound.channels.frame rfl rfl rfl (Nat.le_refl _)
  have room := Picture.Sound.room channels leasing
  have sent := picture_handOver (pooledWork .job thread activation.within lease none) none there.bound
    (fun helper rests => (List.length_modify _ _ _).symm ▸ sound.channels.idle lease helper rests) room
  have shape : ((system.takeLease thread name).dispatchJob thread lease).2 =
      (((system.takeLease thread name).addWork (pooledWork .job thread activation.within lease none)).2.handOver
        thread lease (system.takeLease thread name).works.length none).2 := by
    rw [dispatchJob, there.activation_eq]
    rfl
  rw [shape]
  rw [taken] at sent
  exact .dispatch top.crew_eq running found sent

private theorem step_passLease {other : ThreadId} {receiver : Activation} {more : Multiset Activation}
    (top : system.Innermost thread activation others) (receiving : system.Innermost other receiver more)
    (running : system.picture.IsRunning receiver) (ne : thread ≠ other) {name : String} {lease : Lease}
    (held : system.lease? thread name = some lease) (new : system.lease? other name = none) :
    system.picture.Step .other ((system.takeLease thread name).keepLease other name lease).picture := by
  obtain ⟨found, there, taken⟩ := take_lease top held
  obtain ⟨rest, rfl, -⟩ := top.apart receiving ne
  have waits : (system.takeLease thread name).Innermost other receiver
      ({ activation with leases := activation.leases.filter (·.1 ≠ name) } ::ₘ rest) := {
    chain := receiving.chain_of_ne ne.symm _
    crew_eq := by rw [there.crew_eq, Multiset.cons_swap] }
  rw [keepLease, waits.picture_modify, Multiset.cons_swap, taken]
  exact .passLease top.crew_eq found running ((lease?_eq receiving name).symm.trans new)

/-- What it is to submit a logic: it is counted, and either nothing comes of it, or it is begun at
once by its submitter, or it is sent through a lease that has been had. -/
theorem submit_cases (system : System) (thread : ThreadId) (scope : ScopeId) :
    let counted := system.modifyScope scope Scope.countDispatched
    let within := (system.activation thread).within
    (∃ payload, system.submit thread scope = (.error payload, counted)) ∨
    system.submit thread scope = (.ok (system.works.length, .inline),
      ((counted.modifyScope scope Scope.countInlined).addWork
        (inlineLogic scope thread within)).2.beginWork thread system.works.length none) ∨
    ∃ (lease : Lease) (granted : System),
      counted.acquire (system.scope scope).pool (system.scope scope).concurrency = (.ok (some lease), granted) ∧
      lease.pool = (system.scope scope).pool ∧ counted.picture.Granted lease granted.picture ∧
      granted.scopes = counted.scopes ∧ granted.works = counted.works ∧
      let sent := ((granted.modifyScope scope Scope.countPooled).addWork (pooledWork (.logic scope) thread within
        lease (some (system.stack thread)))).2.handOver thread lease granted.works.length (some (system.stack thread))
      system.submit thread scope = (.ok (system.works.length, sent.1), sent.2) := by
  intro counted within
  rcases acquire_cases counted (system.scope scope).pool (system.scope scope).concurrency with
    ⟨result, had, missed⟩ | ⟨lease, granted, had, pool, was, scopes, works, -⟩
  · rcases result with payload | _ | lease
    · exact .inl ⟨payload, by simp only [submit, had, counted]⟩
    · refine .inr (.inl ?_)
      simp only [submit, had, counted]
      rfl
    · exact (missed lease rfl).elim
  · refine .inr (.inr ⟨lease, granted, had, pool, was, scopes, works, ?_⟩)
    have same : granted.works.length = system.works.length := by rw [works]; rfl
    simp only [submit, had, counted]
    rw [← same]
    rfl

private theorem step_submit (sound : system.picture.Sound events) (top : system.Innermost thread activation others)
    (running : system.picture.IsRunning activation) {scope : ScopeId} (owns : system.owns thread scope = true)
    (usable : (system.pool (system.scope scope).pool).dropped = false) :
    system.picture.Step (Moment.event ⟨system, .submit thread scope⟩) (system.submit thread scope).2.picture := by
  have owned := top.contexts_pos owns
  have bound := lt_of_isEntered (sound.tenancy.alone top.crew_eq owned).1
  have count : (system.modifyScope scope Scope.countDispatched).picture =
      system.picture.modifyScope scope Scope.countDispatched := picture_modifyScope _ bound
  have bound' : scope < (system.modifyScope scope Scope.countDispatched).scopes.length := by
    rwa [System.modifyScope, List.length_modify]
  rcases submit_cases system thread scope with ⟨payload, cut⟩ | inline
    | ⟨lease, granted, -, pool, had, scopes, works, sent⟩
  · simp only [Moment.event, cut]
    rw [count]
    exact .submitCutShort top.crew_eq running owned
  · simp only [Moment.event, inline]
    rw [top.activation_eq]
    let inlined := (system.modifyScope scope Scope.countDispatched).modifyScope scope Scope.countInlined
    have twice : inlined.picture = system.picture.modifyScope scope (·.countDispatched.countInlined) := by
      rw [picture_modifyScope _ bound', count, Picture.modifyScope_modifyScope]
      rfl
    have begins : ((inlined.addWork (inlineLogic scope thread activation.within)).2.beginWork thread
        system.works.length none).picture = (((system.picture.modifyScope scope
          (·.countDispatched.countInlined)).addWork { inlineLogic scope thread activation.within with
            phase := .running, runs := [thread] }).withCrew (begun system.works.length [] ::ₘ system.crew)) := by
      have here : thread < (inlined.addWork (inlineLogic scope thread activation.within)).2.threads.length := top.bound
      have scopes := congrArg Picture.scope twice
      refine Picture.ext scopes (modify_append_last system.works _ _) ?_ rfl rfl
        (List.length_modify _ _ _)
      exact crew_push here (begun system.works.length [])
    rw [begins]
    exact .submitInline top.crew_eq running owned
  · simp only [Moment.event, sent]
    rw [top.activation_eq]
    let placed := granted.modifyScope scope Scope.countPooled
    have placing : placed.picture = granted.picture.modifyScope scope Scope.countPooled :=
      picture_modifyScope _ (scopes ▸ bound')
    have leased : (system.picture.modifyScope scope (·.countDispatched.countPooled)).Granted lease placed.picture := by
      rw [placing]
      rw [count] at had
      have both := had.modifyScope scope Scope.countPooled
      rwa [Picture.modifyScope_modifyScope] at both
    have leasing : placed.picture.Leasing (some lease) := (sound.leasing.modifyScope _ _).lend leased
    have counted : (system.picture.modifyScope scope (·.countDispatched.countPooled)).Channels :=
      sound.channels.frame rfl rfl rfl (Nat.le_refl _)
    have usable' : system.picture.dropped lease.pool = false := by rw [pool]; exact usable
    have channels : placed.picture.Channels := counted.granted usable' leased
    have here : thread < placed.threads.length := Nat.lt_of_lt_of_le top.bound leased.threads_le
    have handed : placed.picture.Sent thread lease
        (pooledWork (.logic scope) thread activation.within lease (some (system.stack thread))) _ :=
      picture_handOver _ (some (system.stack thread)) here (channels.idle lease) (Picture.Sound.room channels leasing)
    exact .submitPooled top.crew_eq running owned usable' leased handed

private theorem step_free (top : system.Innermost thread activation others)
    (running : system.picture.IsRunning activation) (works : (system.currentWork? thread).isSome = true) :
    system.picture.Step .other (system.withCurrentWork thread system.vacate).picture := by
  cases role : activation.role with
  | program => simp [currentWork?, top.activation_eq, role] at works
  | work work =>
    have current : system.currentWork? thread = some work := by simp [currentWork?, top.activation_eq, role]
    rw [withCurrentWork, current]
    exact .free top.crew_eq running role (picture_vacate work)

/-! ## The end of a work -/

/-- A program that can end is that of a work; it has nothing left, and nobody runs on its behalf. -/
theorem canEnd_cases {kind : WorkKind → Bool} (ends : system.canEnd thread kind = true) :
    ∃ activation others work, system.Innermost thread activation others ∧ system.picture.IsRunning activation ∧
      activation.role = .work work ∧ system.currentWork? thread = some work ∧
      kind (system.work work).kind = true ∧ (activation.handles = [] ∧ activation.leases = []) ∧
      ∀ other ∈ system.picture.crew, other.within = some work → other.role = .work work := by
  simp only [canEnd, Bool.and_eq_true] at ends
  obtain ⟨⟨running, bare⟩, ends⟩ := ends
  obtain ⟨activation, others, top, busy⟩ := innermost_of_isRunning running
  cases role : activation.role with
  | program => simp [currentWork?, top.activation_eq, role] at ends
  | work work =>
    have current : system.currentWork? thread = some work := by simp [currentWork?, top.activation_eq, role]
    simp only [current, Bool.and_eq_true] at ends
    obtain ⟨fits, joined⟩ := ends
    simp only [isBare, top.activation_eq, Bool.and_eq_true, List.isEmpty_iff] at bare
    refine ⟨activation, others, work, top, busy, role, current, fits, bare, fun other member inside => ?_⟩
    obtain ⟨id, present, runs⟩ := mem_crew.mp member
    have alone := List.all_eq_true.mp (List.all_eq_true.mp joined id present) other runs
    simpa [inside] using alone

theorem lt_of_parent {scope : ScopeId} (parent : (system.scope scope).parent ≠ none) :
    scope < system.scopes.length := by
  by_contra beyond
  rw [scope_of_not_lt system beyond] at parent
  exact parent rfl

/-- The end of a program shows in the stacks it had set aside. -/
private theorem picture_endProgram (top : system.Innermost thread activation others) :
    ∃ saved, (system.endProgram thread).picture = system.picture.withCrew ({ activation with saved } ::ₘ others) ∧
      (system.endProgram thread).works = system.works ∧ (system.endProgram thread).scopes = system.scopes := by
  rw [endProgram]
  split
  · refine ⟨[], ?_, rfl, rfl⟩
    rw [picture_setStack, top.picture_modify]
  · exact ⟨activation.saved, Picture.ext rfl rfl top.crew_eq rfl rfl rfl, rfl, rfl⟩

private theorem step_endLogic (ledger : system.picture.Ledger events)
    (ends : system.canEnd thread WorkKind.isLogic = true) (outcome : Except Failure.TaskError Unit) :
    system.picture.Step .other (system.perform (.endLogic thread outcome)).picture := by
  obtain ⟨activation, others, work, top, running, role, current, logic, bare, joined⟩ := canEnd_cases ends
  obtain ⟨saved, ended, works, scopes⟩ := picture_endProgram top
  cases kind : (system.work work).kind with
  | job => rw [kind] at logic; exact absurd logic Bool.false_ne_true
  | logic scope =>
    have present : system.works[work]? = some (system.work work) :=
      Picture.works_getElem? (Picture.lt_of_phase (by rw [running.running work role]; simp))
    have bound := lt_of_parent ((ledger scope).entered _ (List.mem_of_getElem? present) kind)
    have kind' : ((system.endProgram thread).work work).kind = .logic scope := by
      rw [System.work, works]
      exact kind
    have performed : (system.perform (.endLogic thread outcome)).picture =
        ((system.endProgram thread).modifyScope scope (·.record outcome)).picture.modifyWork work
          ({ · with
            phase := .recorded, failed := !outcome.isOk
            unwound := (system.picture.scope scope).unwindsOn outcome }) := by
      simp only [perform, withCurrentWork, current, Option.elim_some, recordOutcome, kind', system.unwindsOn_logic kind]
      cases outcome <;> rfl
    rw [performed, picture_modifyScope _ (scopes ▸ bound), ended]
    exact .endLogic outcome saved top.crew_eq running role kind bare joined

private theorem step_endJob (ends : system.canEnd thread (!·.isLogic) = true) :
    system.picture.Step .other (system.perform (.endJob thread)).picture := by
  obtain ⟨activation, others, work, top, running, role, current, job, bare, joined⟩ := canEnd_cases ends
  obtain ⟨saved, ended, -, -⟩ := picture_endProgram top
  have kind : (system.work work).kind = .job := by
    cases kind : (system.work work).kind with
    | logic scope => rw [kind] at job; exact absurd job Bool.false_ne_true
    | job => rfl
  have performed : system.perform (.endJob thread) = (system.endProgram thread).vacateAtEnd work := by
    simp only [perform, withCurrentWork, current, Option.elim_some]
  have vacated := @picture_vacate (system.endProgram thread) work
  rw [ended] at vacated
  rw [performed]
  exact .endJob saved top.crew_eq running role kind bare joined vacated

/-- A thread that has come to a phase of its work's end runs that work. -/
theorem isEnding_cases {phase : WorkPhase} (ends : system.isEnding thread phase = true) :
    ∃ activation others work, system.Innermost thread activation others ∧ activation.role = .work work ∧
      system.currentWork? thread = some work ∧ (system.work work).phase = phase := by
  cases current : system.currentWork? thread with
  | none => simp [isEnding, current] at ends
  | some work =>
    simp only [isEnding, current, beq_iff_eq] at ends
    have busy : (system.thread thread).activations ≠ [] := by
      intro idle
      simp [currentWork?, System.activation, idle] at current
    obtain ⟨activation, others, top⟩ := exists_innermost busy
    refine ⟨activation, others, work, top, ?_, rfl, ends⟩
    rw [currentWork?, top.activation_eq] at current
    cases role : activation.role with
    | program => simp [role] at current
    | work id => simp_all

private theorem step_vacate (ends : system.isEnding thread .recorded = true) :
    system.picture.Step .other (system.perform (.vacate thread)).picture := by
  obtain ⟨-, -, work, -, -, current, recorded⟩ := isEnding_cases ends
  have performed : system.perform (.vacate thread) = system.vacateAtEnd work := by
    simp only [perform, withCurrentWork, current, Option.elim_some]
  have ended : (system.picture.work work).phase = .recorded := recorded
  rw [performed]
  exact .vacate ended (picture_vacate work)

private theorem step_complete (ledger : system.picture.Ledger events) (ends : system.isEnding thread .vacated = true) :
    system.picture.Step .other (system.perform (.complete thread)).picture := by
  obtain ⟨activation, others, work, top, role, current, vacated⟩ := isEnding_cases ends
  have ended : (system.picture.work work).phase = .vacated := vacated
  have present : system.works[work]? = some (system.work work) :=
    Picture.works_getElem? (Picture.lt_of_phase (by rw [ended]; simp))
  have counted : (system.completeWork work).picture =
      (system.picture.count work).modifyWork work ({ · with phase := .over }) := by
    have same : (system.picture.work work).kind = (system.work work).kind := rfl
    cases kind : (system.work work).kind with
    | job => simp only [completeWork, Picture.count, same, kind]; rfl
    | logic scope =>
      have bound := lt_of_parent ((ledger scope).entered _ (List.mem_of_getElem? present) kind)
      simp only [completeWork, Picture.count, same, kind]
      rw [← picture_modifyScope _ bound]
      rfl
  have there : (system.completeWork work).Innermost thread activation others := by
    refine top.frame ?_
    rw [completeWork]
    split <;> rfl
  have performed : system.perform (.complete thread) = (system.completeWork work).popActivation thread := by
    simp only [perform, withCurrentWork, current, Option.elim_some]
  rw [performed, there.picture_pop, counted]
  exact .complete top.crew_eq role ended

/-! ## Helpers -/

theorem hasEnded_cases {station : Lease} {kind : WorkKind → Bool} (ended : system.hasEnded station kind = true) :
    ∃ helper job, (system.station station).helper = .busy helper job ∧ (system.work job).phase = .over ∧
      kind (system.work job).kind = true := by
  cases found : (system.station station).helper with
  | absent => simp [hasEnded, found] at ended
  | idle helper => simp [hasEnded, found] at ended
  | busy helper job =>
    simp only [hasEnded, found, Bool.and_eq_true, beq_iff_eq] at ended
    exact ⟨helper, job, rfl, ended.1, ended.2⟩

private theorem step_next (channels : system.picture.Channels) {station : Lease} {kind : WorkKind → Bool}
    (ended : system.hasEnded station kind = true) :
    system.picture.Step .other (system.perform (.next station)).picture := by
  obtain ⟨helper, job, busy, finished, -⟩ := hasEnded_cases ended
  have here := (channels.busy station helper job busy).1
  have performed : system.perform (.next station) = (system.helperNext helper station).2 := by
    simp only [perform, withHelper, busy]
  rw [performed]
  rcases picture_helperNext busy here with ⟨empty, same⟩ | ⟨next, saved, waiting, same⟩
  · rw [same]
    exact .rest busy finished empty
  · rw [same]
    exact .next saved busy finished (channels.waits station next waiting)

private theorem step_die (channels : system.picture.Channels) {station : Lease} {kind : WorkKind → Bool}
    (ended : system.hasEnded station kind = true) :
    system.picture.Step (Moment.event ⟨system, .die station⟩) (system.perform (.die station)).picture := by
  obtain ⟨helper, job, busy, finished, -⟩ := hasEnded_cases ended
  have performed : system.perform (.die station) = (system.helperDies helper station).2 := by
    simp only [perform, withHelper, busy]
  have event : Moment.event ⟨system, .die station⟩ = .died (system.station station).waiting := rfl
  rw [performed, event]
  rcases picture_helperDies helper (by rw [busy]; simp) fun work waiting =>
    ⟨(channels.waits station work waiting).leased, (channels.waits station work waiting).place⟩ with
    ⟨empty, same⟩ | ⟨lost, waiting, same⟩
  · rw [same, empty]
    exact .dieAlone busy finished empty
  · rw [same, waiting]
    exact .die busy finished (channels.waits station lost waiting)

/-! ## The outside -/

private theorem step_start (running : system.isRunning thread = true) (name : String) (joined : Bool) :
    system.picture.Step .other (system.startThread thread name joined).picture := by
  obtain ⟨activation, others, top, busy⟩ := innermost_of_isRunning running
  have inside : (if joined then activation.within else none) = none ∨
      (if joined then activation.within else none) = activation.within := by
    cases joined
    · exact .inl rfl
    · exact .inr rfl
  rw [startThread, picture_addThread, top.activation_eq]
  exact .start top.crew_eq busy inside

private theorem step_finish (running : system.isRunning thread = true) (bare : system.isBare thread = true)
    (own : system.currentWork? thread = none) (alone : (system.thread thread).activations.length = 1) :
    system.picture.Step .other (system.endThread thread).picture := by
  obtain ⟨activation, others, top, busy⟩ := innermost_of_isRunning running
  have ended : (system.endThread thread).picture = system.picture.withCrew others :=
    Picture.ext rfl rfl (crew_endThread top alone) rfl rfl (List.length_modify _ _ _)
  have role : activation.role = .program := by
    cases role : activation.role with
    | program => rfl
    | work work => simp [currentWork?, top.activation_eq, role] at own
  simp only [isBare, top.activation_eq, Bool.and_eq_true, List.isEmpty_iff] at bare
  rw [ended]
  exact .finish top.crew_eq busy bare role

/-! ## Every action -/

/-- What a process does when an action is taken is a step of its picture. -/
theorem step_perform (sound : system.picture.Sound events) {action : Action} (enabled : system.Enabled action) :
    system.picture.Step (Moment.event ⟨system, action⟩) (system.perform action).picture := by
  cases action with
  | enter thread tenure =>
    obtain ⟨running, -⟩ := enabled
    obtain ⟨activation, others, top, busy⟩ := innermost_of_isRunning running
    exact step_enterIn top busy (quiet_enclosing thread) _ tenure
  | enterIn thread parent tenure =>
    obtain ⟨running, -⟩ := enabled
    obtain ⟨activation, others, top, busy⟩ := innermost_of_isRunning running
    exact step_enterIn top busy (.refl system) parent tenure
  | reduce scope concurrency => exact .quiet (quiet_reduceConcurrency scope concurrency).picture
  | submit thread scope =>
    obtain ⟨running, owns, usable⟩ := enabled
    obtain ⟨activation, others, top, busy⟩ := innermost_of_isRunning running
    exact step_submit sound top busy owns (by simpa [isUsable] using usable)
  | beginExit thread scope =>
    obtain ⟨running, owns⟩ := enabled
    obtain ⟨activation, others, top, busy⟩ := innermost_of_isRunning running
    exact step_beginLeave sound.tenancy top busy owns _
  | beginDrop thread scope =>
    obtain ⟨running, owns⟩ := enabled
    obtain ⟨activation, others, top, busy⟩ := innermost_of_isRunning running
    exact step_beginLeave sound.tenancy top busy owns .drop
  | leave thread => exact step_leave sound.tenancy enabled
  | attach thread snapshot =>
    obtain ⟨activation, others, top, -⟩ := innermost_of_isRunning enabled
    exact step_attach top snapshot
  | detach thread =>
    obtain ⟨activation, others, top, -⟩ := innermost_of_isRunning enabled.1
    exact step_detach top
  | acquire thread pool limit name =>
    obtain ⟨running, -, usable, new⟩ := enabled
    obtain ⟨activation, others, top, busy⟩ := innermost_of_isRunning running
    exact step_acquire top busy usable new limit
  | dropLease thread name =>
    obtain ⟨running, held⟩ := enabled
    obtain ⟨activation, others, top, -⟩ := innermost_of_isRunning running
    obtain ⟨lease, held⟩ := Option.isSome_iff_exists.mp held
    simp only [perform, withLease, held, Option.elim_some]
    exact step_dropLease top held
  | passLease thread other name =>
    obtain ⟨running, receives, ne, held, new⟩ := enabled
    obtain ⟨activation, others, top, -⟩ := innermost_of_isRunning running
    obtain ⟨receiver, more, receiving, busy⟩ := innermost_of_isRunning receives
    obtain ⟨lease, held⟩ := Option.isSome_iff_exists.mp held
    simp only [perform, withLease, held, Option.elim_some]
    exact step_passLease top receiving busy ne held new
  | dispatch thread name =>
    obtain ⟨running, held⟩ := enabled
    obtain ⟨activation, others, top, busy⟩ := innermost_of_isRunning running
    obtain ⟨lease, held⟩ := Option.isSome_iff_exists.mp held
    simp only [perform, withLease, held, Option.elim_some]
    exact step_dispatch sound top busy held
  | free thread =>
    obtain ⟨running, works⟩ := enabled
    obtain ⟨activation, others, top, busy⟩ := innermost_of_isRunning running
    exact step_free top busy works
  | endLogic thread outcome => exact step_endLogic sound.ledger enabled outcome
  | endJob thread => exact step_endJob enabled
  | vacate thread => exact step_vacate enabled
  | complete thread => exact step_complete sound.ledger enabled
  | next station => exact step_next sound.channels enabled
  | die station => exact step_die sound.channels enabled
  | makePool capacity config => exact .quiet (quiet_addPool capacity config _).picture
  | dropPool pool =>
    rw [perform, picture_shutdown enabled.1]
    exact .dropPool pool
  | bar station barred => exact .quiet (quiet_bar station barred).picture
  | makeRoot pool concurrency => exact .quiet (quiet_newRoot pool concurrency).picture
  | makeFactory factory =>
    have quiet : system.Quiet (system.addFactory factory).2 := .of_same rfl rfl rfl rfl
    exact .quiet quiet.picture
  | reroute factory source =>
    have quiet : system.Quiet (system.reroute factory source) := .of_same rfl rfl rfl rfl
    exact .quiet quiet.picture
  | register factory =>
    have quiet : system.Quiet (system.register factory).2 := .of_same rfl rfl rfl rfl
    exact .quiet quiet.picture
  | configure setting =>
    have quiet : system.Quiet { system with setting } := .of_same rfl rfl rfl rfl
    exact .quiet quiet.picture
  | start thread name joined => exact step_start enabled name joined
  | finish thread =>
    obtain ⟨running, bare, own, alone⟩ := enabled
    exact step_finish running bare own alone

/-- A process that is about to begin has nothing to account for. -/
theorem initial_sound (setting : Setting.State) : (initial setting).picture.Sound [] := by
  have crew : (initial setting).picture.crew = {({} : Activation)} := rfl
  have station (lease : Lease) : (initial setting).picture.station lease = {} := rfl
  have alone {activation : Activation} (member : activation ∈ (initial setting).picture.crew) : activation = {} := by
    rwa [crew, Multiset.mem_singleton] at member
  constructor
  case tenancy =>
    constructor
    case held =>
      intro scope
      rfl
    case within =>
      intro activation member handle has
      rw [alone member] at has
      exact absurd has List.not_mem_nil
    case state =>
      intro activation member handle has
      rw [alone member] at has
      exact absurd has List.not_mem_nil
    case leaving =>
      intro activation member scope departure leaving
      rw [alone member] at leaving
      exact absurd leaving (by simp)
    case nested => exact fun _ _ => rfl
  case running =>
    constructor
    case single =>
      intro work
      rfl
    case own =>
      intro activation member work role
      rw [alone member] at role
      exact absurd role (by simp)
    case inside =>
      intro activation member work within
      rw [alone member] at within
      exact absurd within (by simp)
  case leasing =>
    constructor
    case single =>
      intro lease
      rfl
    case names =>
      intro activation member
      rw [alone member]
      exact List.nodup_nil
    case spent => exact fun _ _ => rfl
  case channels =>
    constructor
    case quiet => exact fun _ _ => rfl
    case idle => exact fun _ _ idle => absurd idle (by simp [station])
    case busy => exact fun _ _ _ busy => absurd busy (by simp [station])
    case waits => exact fun _ _ waiting => absurd waiting (by simp [station])
    case cut => exact fun _ _ _ => rfl
    case running => exact fun _ _ active => absurd active Bool.false_ne_true
    case queued => exact fun _ bound => absurd bound (Nat.not_lt_zero _)
    case begun => exact fun _ begun => absurd begun Bool.false_ne_true
    case fresh => exact fun _ _ => rfl
  case ledger =>
    intro scope
    constructor
    all_goals first
      | rfl
      | exact fun closed => absurd closed (by decide)
      | exact fun _ => rfl
      | exact Nat.zero_le _
      | exact fun _ member => absurd member List.not_mem_nil

end System

/-- The rules of accounting hold at every point of every run. -/
theorem Reaches.sound {setting : Setting.State} {history : List Moment} {system : System}
    (reached : Reaches (.initial setting) history system) : system.picture.Sound (history.map Moment.event) := by
  induction reached with
  | start => exact System.initial_sound setting
  | step reached enabled ih => exact ih.step (System.step_perform ih enabled)

end ScopedWork
