import ScopedWork.Proofs.Helpers
import ScopedWork.Proofs.Inheritance
import ScopedWork.Proofs.Threads
import ScopedWork.Proofs.Works

/-! # What an action does to each thread

A picture does not tell which thread runs what. Here is what one action can do to one thread, to its
stack and to the chain of what it runs. Most actions leave most threads alone; the others change the
innermost activation, put one on top or take one away. A thread that runs something is never that of a
helper at rest, so a helper only begins a work, or leaves, while it runs nothing.
-/

namespace ScopedWork

/-- Whether an action handles a lease that no scope has asked for. -/
def Action.isDirect : Action → Bool
  | .acquire .. | .dropLease .. | .passLease .. | .dispatch .. | .free _ => true
  | _ => false

/-- The thread that an action sends a work from. -/
def Action.sender? : Action → Option ThreadId
  | .submit thread _ | .dispatch thread _ => some thread
  | _ => none

/-- The contexts that a thread has open after a moment, latest first, if before it had those given. -/
def Moment.opened (moment : Moment) (thread : ThreadId) (opened : List ScopeId) : List ScopeId :=
  match moment.action with
  | .enter other tenure => if other = thread then (moment.before.enter thread tenure).1 :: opened else opened
  | .enterIn other parent tenure =>
    if other = thread then (moment.before.enterIn thread parent tenure).1 :: opened else opened
  | .leave other =>
    if other = thread then (moment.before.activation thread).leaving.elim opened fun target => opened.erase target.1
    else opened
  | _ => opened

namespace System

variable {system : System} {events : List Event} {action : Action} {thread id : ThreadId}
  {activation : Activation} {outer : List Activation} {lease : Lease}

/-- Which work an action can hand to a helper, and under which stack: one that is sent just now, a logic under the
stack of its submitter, or one that has waited in a channel. -/
inductive Hands (system : System) (action : Action) : WorkId → Option Stack → Prop
  | logic {thread : ThreadId} {scope : ScopeId} (submits : action = .submit thread scope) :
    Hands system action system.works.length (some (system.stack thread))
  | job {thread : ThreadId} {name : String} (dispatches : action = .dispatch thread name) :
    Hands system action system.works.length none
  | waiting {station : Lease} {work : WorkId} (turns : action = .next station)
    (waits : (system.station station).waiting = some work) : Hands system action work (system.work work).snapshot

/-- What an action can do to the stack of a thread and to the chain of what it runs. -/
inductive Turn (system : System) (action : Action) (id : ThreadId) : Stack → List Activation → Prop
  | rest (calm : ∀ opened, Moment.opened ⟨system, action⟩ id opened = opened) :
    Turn system action id (system.stack id) (system.thread id).activations
  /-- It gets a lease, or gives one away. -/
  | trade {activation : Activation} {outer : List Activation} {leases : List (String × Lease)}
    (chain : (system.thread id).activations = activation :: outer) (direct : action.isDirect = true)
    (calm : ∀ opened, Moment.opened ⟨system, action⟩ id opened = opened) (running : system.isRunning id = true) :
    Turn system action id (system.stack id) ({ activation with leases } :: outer)
  | enter {activation : Activation} {outer : List Activation} {scope : ScopeId} {tenure : Tenure}
    (chain : (system.thread id).activations = activation :: outer) (fresh : system.scopes.length ≤ scope)
    (opens : ∀ opened, Moment.opened ⟨system, action⟩ id opened = scope :: opened)
    (running : system.isRunning id = true) : Turn system action id ((system.stack id).push (.scope scope))
      ({ activation with handles := { scope, tenure } :: activation.handles } :: outer)
  /-- It begins to leave a context. -/
  | wait {activation : Activation} {outer : List Activation} {scope : ScopeId} {departure : Departure}
    (chain : (system.thread id).activations = activation :: outer)
    (calm : ∀ opened, Moment.opened ⟨system, action⟩ id opened = opened) (running : system.isRunning id = true)
    (noted : ∀ refused, departure = .exit refused → refused = (system.stack id).refusal scope) :
    Turn system action id (system.stack id) ({ activation with leaving := some (scope, departure) } :: outer)
  | leave {activation : Activation} {outer : List Activation} {scope : ScopeId} {departure : Departure}
    (chain : (system.thread id).activations = activation :: outer) (leaves : action = .leave id)
    (leaving : activation.leaving = some (scope, departure)) :
    Turn system action id ((system.stack id).remove (.scope scope)) ({ activation with
      handles := activation.handles.filter (·.scope ≠ scope), leaving := none } :: outer)
  | attach {activation : Activation} {outer : List Activation} {snapshot : Stack}
    (chain : (system.thread id).activations = activation :: outer) (attaches : action = .attach id snapshot) :
    Turn system action id snapshot ({ activation with saved := system.stack id :: activation.saved } :: outer)
  | detach {activation : Activation} {outer : List Activation} {stack : Stack} {older : List Stack}
    (chain : (system.thread id).activations = activation :: outer) (detaches : action = .detach id)
    (saved : activation.saved = stack :: older) :
    Turn system action id stack ({ activation with saved := older } :: outer)
  /-- It begins a work on top of what it runs, under the stack it has. -/
  | begin {activation : Activation} {outer : List Activation} {leases : List (String × Lease)} {work : WorkId}
    {saved : List Stack} (chain : (system.thread id).activations = activation :: outer)
    (same : saved = [] ∨ saved = [system.stack id])
    (owned : action.isDirect = true ∨ leases = activation.leases ∧ activation.handles ≠ [])
    (calm : ∀ opened, Moment.opened ⟨system, action⟩ id opened = opened) (running : system.isRunning id = true)
    (sends : action.sender? = some id) (new : work = system.works.length)
    (placed : ∀ helper, ((system.perform action).work work).placement ≠ .helper helper) :
    Turn system action id (system.stack id) (begun work saved :: { activation with leases } :: outer)
  /-- The program of the work it runs has ended. -/
  | close {activation : Activation} {outer : List Activation}
    (chain : (system.thread id).activations = activation :: outer)
    (ends : (∃ outcome, action = .endLogic id outcome) ∨ action = .endJob id) (bare : activation.handles = []) :
    Turn system action id (activation.saved.getLast?.getD (system.stack id)) ({ activation with saved := [] } :: outer)
  /-- It goes back to what it ran before. -/
  | pop {activation : Activation} {outer : List Activation}
    (chain : (system.thread id).activations = activation :: outer) (completes : action = .complete id)
    (bare : activation.handles = []) : Turn system action id (system.stack id) outer
  | finish {activation : Activation} (chain : (system.thread id).activations = [activation])
    (finishes : action = .finish id) : Turn system action id {} []
  /-- A helper that runs nothing may lose its stack. -/
  | fade {stack : Stack} (idle : (system.thread id).activations = []) : Turn system action id stack []
  /-- A helper that runs nothing begins a work that was sent to it. -/
  | take {work : WorkId} {snapshot : Option Stack} (idle : (system.thread id).activations = [])
    (placed : ((system.perform action).work work).placement = .helper id) (hands : system.Hands action work snapshot) :
    Turn system action id (snapshot.getD (system.stack id))
      [begun work (snapshot.elim [] fun _ => [system.stack id])]
  | start {parent : ThreadId} {name : String} {joined : Bool} {within : Option WorkId}
    (idle : (system.thread id).activations = []) (starts : action = .start parent name joined)
    (new : id = system.threads.length) (apart : joined = false → within = none) :
    Turn system action id {} [{ within }]

/-- The outermost activation of a thread runs the thread's own program, if it is no helper, and else a work
that was sent to it. -/
def Rooted (system : System) : Prop :=
  ∀ id role, ((system.thread id).activations.map Activation.role).getLast? = some role →
    role = .program ∧ (∀ station, (system.station station).helper.thread? ≠ some id) ∨
      ∃ work, role = .work work ∧ (system.work work).placement = .helper id

theorem mem_crew_of_mem (member : activation ∈ (system.thread id).activations) : activation ∈ system.crew := by
  have bound := lt_of_activations (List.ne_nil_of_mem member)
  refine mem_crew.mpr ⟨system.thread id, ?_, member⟩
  rw [System.thread, List.getElem?_eq_getElem bound, Option.getD_some]
  exact List.getElem_mem bound

theorem lt_of_hasBegun {work : WorkId} (begun : (system.work work).phase.hasBegun = true) :
    work < system.works.length :=
  lt_of_work (p := fun work => work.phase.hasBegun = true) begun Bool.false_ne_true

/-- A work that a thread runs, however deep, has begun and is not over. -/
theorem isActive_of_mem (sound : system.picture.Sound events) (member : activation ∈ (system.thread id).activations)
    {work : WorkId} (role : activation.role = .work work) : (system.work work).phase.isActive = true := by
  obtain ⟨others, top⟩ := Multiset.exists_cons_of_mem (mem_crew_of_mem member)
  exact (sound.running.alone top role).1

/-- A work that has begun and is not over is run by a thread. -/
theorem exists_runner (sound : system.picture.Sound events) {work : WorkId}
    (active : (system.work work).phase.isActive = true) :
    ∃ thread, ∃ activation ∈ (system.thread thread).activations, activation.role = .work work := by
  have single := sound.running.single work
  rw [show (system.picture.work work).phase.isActive = true from active, Bool.toNat_true] at single
  obtain ⟨activation, member, role⟩ := Multiset.countP_pos.mp (Nat.lt_of_lt_of_eq Nat.zero_lt_one single.symm)
  obtain ⟨thread, present, runs⟩ := mem_crew.mp member
  obtain ⟨id, found⟩ := List.mem_iff_getElem?.mp present
  refine ⟨id, activation, ?_, role⟩
  rwa [System.thread, found, Option.getD_some]

/-- A thread that has contexts of a scope finds the scope entered and not closed. -/
theorem isEntered_of_mem (sound : system.picture.Sound events)
    (member : activation ∈ (system.thread thread).activations) {handle : Handle}
    (has : handle ∈ activation.handles) : (system.scope handle.scope).isEntered = true := by
  obtain ⟨others, top⟩ := Multiset.exists_cons_of_mem (mem_crew_of_mem member)
  exact (sound.tenancy.alone top (Activation.contexts_pos.mpr ⟨handle, has, rfl⟩)).1

/-- The thread of a helper runs nothing but what the helper is busy with. -/
theorem Rooted.idle (rooted : system.Rooted) (sound : system.picture.Sound events) (apart : system.picture.Apart)
    {helper : ThreadId} (helps : (system.station lease).helper.thread? = some helper)
    (rests : ∀ job, (system.station lease).helper = .busy helper job → (system.work job).phase.isActive = false) :
    (system.thread helper).activations = [] := by
  by_contra busy
  have last : ((system.thread helper).activations.map Activation.role).getLast? =
      some ((system.thread helper).activations.getLast busy).role := by
    rw [List.getLast?_map, List.getLast?_eq_some_getLast busy, Option.map_some]
  rcases rooted helper _ last with ⟨-, alone⟩ | ⟨work, role, placement⟩
  · exact alone lease helps
  · have active := isActive_of_mem sound (List.getLast_mem busy) role
    obtain ⟨other, -, runs⟩ := sound.channels.running work helper active placement
    obtain rfl := apart lease other helper helps (by rw [runs]; rfl)
    rw [rests work runs] at active
    exact Bool.false_ne_true active

/-- A helper at rest runs nothing. -/
theorem Rooted.rested (rooted : system.Rooted) (sound : system.picture.Sound events) (apart : system.picture.Apart)
    {helper : ThreadId} (rests : (system.station lease).helper = .idle helper) :
    (system.thread helper).activations = [] :=
  rooted.idle sound apart (by rw [rests]; rfl) fun job busy => by
    rw [rests] at busy
    cases busy

/-- A helper that has come to the end of what it was busy with runs nothing. -/
theorem Rooted.ended (rooted : system.Rooted) (sound : system.picture.Sound events) (apart : system.picture.Apart)
    {helper : ThreadId} {job : WorkId} (busy : (system.station lease).helper = .busy helper job)
    (ended : (system.work job).phase = .over) : (system.thread helper).activations = [] :=
  rooted.idle sound apart (by rw [busy]; rfl) fun other same => by
    obtain ⟨-, rfl⟩ := Helper.busy.inj (busy.symm.trans same)
    rw [ended]
    rfl

/-! ## Each action -/

namespace Turn

/-- A thread that keeps its stack and what it runs. -/
theorem of_view (calm : ∀ opened, Moment.opened ⟨system, action⟩ id opened = opened)
    (stack : (system.perform action).stack id = system.stack id)
    (activations : ((system.perform action).thread id).activations = (system.thread id).activations) :
    system.Turn action id ((system.perform action).stack id) ((system.perform action).thread id).activations := by
  rw [stack, activations]
  exact .rest calm

theorem of_threads (calm : ∀ opened, Moment.opened ⟨system, action⟩ id opened = opened)
    (threads : (system.perform action).threads = system.threads) :
    system.Turn action id ((system.perform action).stack id) ((system.perform action).thread id).activations :=
  of_view calm (congrArg Thread.stack (thread_of_threads threads id))
    (congrArg Thread.activations (thread_of_threads threads id))

/-- An action that changes one thread is rest to the others. -/
theorem of_modify {change : Thread → Thread} (active : (system.thread thread).activations ≠ [])
    (threads : (system.perform action).threads = system.threads.modify thread change)
    (calm : ∀ id, thread ≠ id → ∀ opened, Moment.opened ⟨system, action⟩ id opened = opened)
    (own : system.Turn action thread (change (system.thread thread)).stack (change (system.thread thread)).activations)
    (id : ThreadId) :
    system.Turn action id ((system.perform action).stack id) ((system.perform action).thread id).activations := by
  rw [System.stack, thread_of_modify active threads]
  split_ifs with same
  · subst same
    exact own
  · exact .rest (calm id (Ne.symm same))

/-- An action that changes what runs innermost on one thread, and maybe its stack, is rest to the others. -/
theorem of_modifyHead {stack : Thread → Stack} {change : Activation → Activation}
    (chain : (system.thread thread).activations = activation :: outer)
    (threads : (system.perform action).threads = system.threads.modify thread fun t =>
      { t with stack := stack t, activations := t.activations.modifyHead change })
    (calm : ∀ id, thread ≠ id → ∀ opened, Moment.opened ⟨system, action⟩ id opened = opened)
    (own : system.Turn action thread (stack (system.thread thread)) (change activation :: outer)) (id : ThreadId) :
    system.Turn action id ((system.perform action).stack id) ((system.perform action).thread id).activations := by
  refine of_modify (active_of_chain chain) threads calm ?_ id
  dsimp only
  rwa [chain, List.modifyHead_cons]

/-- A work that is sent through a lease is begun by the one who sends it, by a helper with nothing to run, or
by nobody yet. -/
theorem of_handOver {middle : System} {leases : List (String × Lease)} {work : WorkId} {snapshot : Option Stack}
    (sent : system.perform action = (middle.handOver thread lease work snapshot).2)
    (chain : (system.thread thread).activations = activation :: outer) (running : system.isRunning thread = true)
    (own : (middle.thread thread).activations = { activation with leases } :: outer)
    (stack : ∀ id, middle.stack id = system.stack id)
    (others : ∀ id, id ≠ thread → (middle.thread id).activations = (system.thread id).activations)
    (same : snapshot = none ∨ snapshot = some (system.stack thread))
    (idle : ∀ helper, (middle.station lease).helper = .idle helper → (system.thread helper).activations = [])
    (bound : work < middle.works.length)
    (owned : action.isDirect = true ∨ leases = activation.leases ∧ activation.handles ≠ [])
    (calm : ∀ id opened, Moment.opened ⟨system, action⟩ id opened = opened) (sends : action.sender? = some thread)
    (new : work = system.works.length) (hands : system.Hands action work snapshot) (id : ThreadId) :
    system.Turn action id ((system.perform action).stack id) ((system.perform action).thread id).activations := by
  -- whoever begins nothing has at most given the lease away
  have still (view : (system.perform action).thread id = middle.thread id) :
      system.Turn action id ((system.perform action).stack id) ((system.perform action).thread id).activations := by
    have kept : (system.perform action).stack id = system.stack id := by rw [System.stack, view]; exact stack id
    rw [view, kept]
    by_cases here : id = thread
    · subst here
      rw [own]
      rcases owned with direct | ⟨rfl, -⟩
      · exact .trade chain direct (calm id) running
      · rw [show ({ activation with leases := activation.leases } :: outer) = _ from chain.symm]
        exact .rest (calm id)
    · rw [others id here]
      exact .rest (calm id)
  have begins (worker : ThreadId) (threads : (system.perform action).threads =
      (middle.beginWork worker work snapshot).threads) : (system.perform action).thread id =
        if id = worker ∧ worker < middle.threads.length then { middle.thread id with
          stack := snapshot.getD (middle.stack id)
          activations :=
            begun work (snapshot.elim [] fun _ => [middle.stack worker]) :: (middle.thread id).activations }
        else middle.thread id := by
    rw [thread_of_threads threads, beginWork_eq, thread_modifyThread]
    rfl
  rcases middle.handOver_cases thread lease work snapshot with
    threads | ⟨threads, placed⟩ | ⟨helper, rests, threads, placed⟩
  · exact still (thread_of_threads (sent ▸ threads) id)
  · rw [← sent] at threads placed
    have apart (helper : ThreadId) : ((system.perform action).work work).placement ≠ .helper helper := by
      rw [placed bound]
      exact Placement.noConfusion
    have view := begins thread threads
    split_ifs at view with here
    · obtain ⟨rfl, -⟩ := here
      rw [System.stack, view]
      dsimp only
      rw [own, stack]
      rcases same with rfl | rfl
      · exact .begin chain (.inl rfl) owned (calm id) running sends new apart
      · exact .begin chain (.inr rfl) owned (calm id) running sends new apart
    · exact still view
  · rw [← sent] at threads placed
    have view := begins helper threads
    split_ifs at view with here
    · obtain ⟨rfl, -⟩ := here
      have rested := idle id rests
      have ne : id ≠ thread := by
        rintro rfl
        rw [rested] at chain
        exact List.cons_ne_nil _ _ chain.symm
      rw [System.stack, view]
      dsimp only
      rw [others id ne, rested, stack]
      exact .take rested (placed bound) hands
    · exact still view

end Turn

private theorem turn_enterIn {looked : System} (running : system.isRunning thread = true)
    (threads : looked.threads = system.threads) (fresh : system.scopes.length ≤ looked.scopes.length)
    {parent : ScopeId} {tenure : Tenure} (performed : system.perform action = (looked.enterIn thread parent tenure).2)
    (calm : ∀ id, thread ≠ id → ∀ opened, Moment.opened ⟨system, action⟩ id opened = opened)
    (opens : ∀ opened, Moment.opened ⟨system, action⟩ thread opened = looked.scopes.length :: opened)
    (id : ThreadId) :
    system.Turn action id ((system.perform action).stack id) ((system.perform action).thread id).activations := by
  obtain ⟨activation, outer, chain⟩ := chain_of_isRunning running
  have changed := threads_enterIn looked thread parent tenure
  rw [← performed, threads] at changed
  exact Turn.of_modifyHead chain changed calm (.enter chain fresh opens running) id

private theorem turn_acquire (running : system.isRunning thread = true) (pool : PoolId) (limit : Nat) (name : String)
    (id : ThreadId) :
    let acquired := system.perform (.acquire thread pool limit name)
    system.Turn (.acquire thread pool limit name) id (acquired.stack id) (acquired.thread id).activations := by
  intro acquired
  obtain ⟨activation, outer, chain⟩ := chain_of_isRunning running
  rcases acquire_cases system pool limit with ⟨result, had, missed⟩ | ⟨lease, after, had, -⟩
  · have same : acquired = system := by
      change system.acquireFor thread pool limit name = system
      rw [acquireFor, had]
      rcases result with payload | _ | lease
      · rfl
      · rfl
      · exact (missed lease rfl).elim
    exact Turn.of_threads (fun _ => rfl) (congrArg System.threads same)
  · have same : acquired = after.keepLease thread name lease := by
      change system.acquireFor thread pool limit name = _
      rw [acquireFor, had]
    have view (other : ThreadId) := view_acquire system pool limit other
    simp only [had] at view
    obtain ⟨stack, activations⟩ := view id
    have kept : (after.keepLease thread name lease).stack id = system.stack id := by
      rw [← stack, keepLease, modifyActivation, System.stack, thread_modifyThread]
      split_ifs <;> rfl
    by_cases here : id = thread
    · subst here
      rw [chain] at activations
      rw [same, kept, keepLease, modifyActivation, thread_modifyThread_self (active_of_chain activations)]
      dsimp only
      rw [activations, List.modifyHead_cons]
      exact .trade chain rfl (fun _ => rfl) running
    · refine Turn.of_view (fun _ => rfl) ((congrArg (·.stack id) same).trans kept) ?_
      change (acquired.thread id).activations = _
      rw [same, keepLease, modifyActivation, thread_modifyThread_of_ne here]
      exact activations

private theorem turn_submit (sound : system.picture.Sound events) (apart : system.picture.Apart)
    (rooted : system.Rooted) (chain : (system.thread thread).activations = activation :: outer)
    (running : system.isRunning thread = true) (owned : activation.handles ≠ []) (scope : ScopeId) (id : ThreadId) :
    let submitted := system.perform (.submit thread scope)
    system.Turn (.submit thread scope) id (submitted.stack id) (submitted.thread id).activations := by
  intro submitted
  rcases submit_cases system thread scope with
    ⟨payload, cut⟩ | inline | ⟨lease, granted, had, -, grants, -, works, sent⟩
  · exact Turn.of_threads (fun _ => rfl) (congrArg (·.2.threads) cut)
  · have threads : submitted.threads = system.threads.modify thread fun t =>
        { t with activations := begun system.works.length [] :: t.activations } :=
      congrArg (·.2.threads) inline
    refine Turn.of_modify (active_of_chain chain) threads (fun _ _ _ => rfl) ?_ id
    dsimp only
    rw [chain]
    refine .begin chain (.inl rfl) (.inr ⟨rfl, owned⟩) (fun _ => rfl) running rfl rfl fun helper => ?_
    have performed : (system.perform (.submit thread scope)).works = system.works ++ [{ inlineLogic scope thread
        (system.activation thread).within with phase := .running, runs := [thread] }] := by
      simp only [perform, inline, works_beginWork]
      exact modify_append_last system.works _ _
    rw [work_of_append performed, if_pos rfl]
    exact Placement.noConfusion
  · have view (other : ThreadId) := view_acquire (system.modifyScope scope Scope.countDispatched)
      (system.scope scope).pool (system.scope scope).concurrency other
    simp only [had] at view
    let middle := ((granted.modifyScope scope Scope.countPooled).addWork (pooledWork (.logic scope) thread
      (system.activation thread).within lease (some (system.stack thread)))).2
    have handed : submitted = (middle.handOver thread lease granted.works.length (some (system.stack thread))).2 :=
      congrArg (·.2) sent
    have same : granted.works.length = system.works.length := congrArg List.length works
    refine Turn.of_handOver handed chain running ((view thread).2.trans chain) (fun other => (view other).1)
      (fun other _ => (view other).2) (.inr rfl) (fun helper rests => ?_) ?_ (.inr ⟨rfl, owned⟩)
        (fun _ _ => rfl) rfl
      same (same ▸ .logic rfl) id
    · rcases grants.idle rests with before | new
      · exact rooted.rested sound apart before
      · exact (view_of_not_lt (Nat.not_lt.mpr (Nat.le_of_eq new.symm))).2
    · change _ < (granted.works ++ [_]).length
      rw [List.length_append]
      exact Nat.lt_succ_self _

private theorem turn_dispatch (sound : system.picture.Sound events) (apart : system.picture.Apart)
    (rooted : system.Rooted) (running : system.isRunning thread = true) {name : String}
    (held : system.lease? thread name = some lease) (id : ThreadId) :
    let dispatched := system.perform (.dispatch thread name)
    system.Turn (.dispatch thread name) id (dispatched.stack id) (dispatched.thread id).activations := by
  intro dispatched
  obtain ⟨activation, outer, chain⟩ := chain_of_isRunning running
  have taken (other : ThreadId) :=
    @thread_of_modify system (system.takeLease thread name) thread _ (active_of_chain chain) rfl other
  let middle := ((system.takeLease thread name).addWork (pooledWork .job thread
    ((system.takeLease thread name).activation thread).within lease none)).2
  have sent : dispatched = (middle.handOver thread lease system.works.length none).2 := by
    simp only [dispatched, perform, withLease, held, Option.elim_some]
    rfl
  have own : (middle.thread thread).activations =
      { activation with leases := activation.leases.filter (·.1 ≠ name) } :: outer := by
    change ((system.takeLease thread name).thread thread).activations = _
    rw [taken thread, if_pos rfl, chain, List.modifyHead_cons]
  refine Turn.of_handOver sent chain running own (fun other => ?_) (fun other ne => ?_) (.inl rfl)
    (fun helper rests => rooted.rested sound apart rests) ?_ (.inl rfl) (fun _ _ => rfl) rfl rfl (.job rfl) id
  · change ((system.takeLease thread name).thread other).stack = _
    rw [taken other]
    split_ifs <;> rfl
  · change ((system.takeLease thread name).thread other).activations = _
    rw [taken other, if_neg ne]
  · change _ < (system.works ++ [_]).length
    rw [List.length_append]
    exact Nat.lt_succ_self _

/-- A lease passes from what one thread runs to what another does. -/
private theorem turn_passLease {other : ThreadId} {name : String}
    (enabled : system.Enabled (.passLease thread other name)) (id : ThreadId) :
    let passed := system.perform (.passLease thread other name)
    system.Turn (.passLease thread other name) id (passed.stack id) (passed.thread id).activations := by
  intro passed
  obtain ⟨running, receives, ne, held, -⟩ := enabled
  obtain ⟨giver, outer, chain⟩ := chain_of_isRunning running
  obtain ⟨receiver, below, chain'⟩ := chain_of_isRunning receives
  obtain ⟨lease, held⟩ := Option.isSome_iff_exists.mp held
  have performed : passed = (system.takeLease thread name).keepLease other name lease := by
    simp only [passed, perform, withLease, held, Option.elim_some]
  have taken (id : ThreadId) :=
    @thread_of_modify system (system.takeLease thread name) thread _ (active_of_chain chain) rfl id
  have waits : (system.takeLease thread name).thread other = system.thread other := by
    rw [taken, if_neg (Ne.symm ne)]
  have view := @thread_of_modify (system.takeLease thread name) passed other _
    (active_of_chain ((congrArg Thread.activations waits).trans chain')) (congrArg System.threads performed) id
  rw [System.stack, view]
  split_ifs with here
  · subst here
    rw [waits]
    dsimp only
    rw [chain', List.modifyHead_cons]
    exact .trade chain' rfl (fun _ => rfl) receives
  · rw [taken]
    split_ifs with there
    · subst there
      dsimp only
      rw [chain, List.modifyHead_cons]
      exact .trade chain rfl (fun _ => rfl) running
    · exact .rest fun _ => rfl

/-- The end of a program shows on its thread only. -/
private theorem turn_endProgram (chain : (system.thread thread).activations = activation :: outer)
    (threads : (system.perform action).threads = (system.endProgram thread).threads) (bare : activation.handles = [])
    (ends : (∃ outcome, action = .endLogic thread outcome) ∨ action = .endJob thread) (id : ThreadId) :
    system.Turn action id ((system.perform action).stack id) ((system.perform action).thread id).activations := by
  rw [System.stack, thread_of_threads threads, thread_endProgram chain]
  split_ifs with same
  · subst same
    exact .close chain ends bare
  · refine .rest fun _ => ?_
    rcases ends with ⟨outcome, rfl⟩ | rfl <;> rfl

private theorem turn_complete (sound : system.picture.Sound events) (ends : system.isEnding thread .vacated = true)
    (id : ThreadId) :
    let completed := system.perform (.complete thread)
    system.Turn (.complete thread) id (completed.stack id) (completed.thread id).activations := by
  obtain ⟨activation, others, work, top, role, current, vacated⟩ := isEnding_cases ends
  obtain ⟨outer, chain⟩ := top.chain
  have ended : (system.work work).phase ≠ .running := by
    rw [vacated]
    decide
  have bare := sound.running.bare top.mem role ended
  refine Turn.of_modify (active_of_chain chain) (?_ : _ = system.threads.modify thread fun t =>
    { t with activations := t.activations.tail }) (fun _ _ _ => rfl) ?_ id
  · simp only [perform, withCurrentWork, current, Option.elim_some, completeWork]
    split <;> rfl
  · dsimp only
    rw [chain, List.tail_cons]
    exact .pop chain rfl bare.handles

/-- A helper that is gone may leave a thread without a stack. -/
private theorem turn_retire {helper : ThreadId} (idle : (system.thread helper).activations = [])
    (threads : (system.perform action).threads = (system.retire helper).threads)
    (calm : ∀ opened, Moment.opened ⟨system, action⟩ id opened = opened) :
    system.Turn action id ((system.perform action).stack id) ((system.perform action).thread id).activations := by
  have view : (system.perform action).thread id = (system.retire helper).thread id := thread_of_threads threads id
  rw [retire, setStack, thread_modifyThread] at view
  split_ifs at view with here
  · obtain ⟨rfl, -⟩ := here
    rw [view]
    dsimp only
    rw [idle]
    exact .fade idle
  · exact Turn.of_view calm (congrArg Thread.stack view) (congrArg Thread.activations view)

private theorem turn_next (sound : system.picture.Sound events) (apart : system.picture.Apart) (rooted : system.Rooted)
    {station : Lease} (ended : system.hasEnded station (fun _ => true) = true) (id : ThreadId) :
    let turned := system.perform (.next station)
    system.Turn (.next station) id (turned.stack id) (turned.thread id).activations := by
  intro turned
  obtain ⟨helper, job, busy, gone, -⟩ := hasEnded_cases ended
  have idle := rooted.ended sound apart busy gone
  have performed : turned = (system.helperNext helper station).2 := by
    simp only [turned, perform, withHelper, busy]
  rcases helperNext_cases busy with threads | threads | ⟨work, waiting, threads, placed⟩
  · exact Turn.of_threads (fun _ => rfl) ((congrArg System.threads performed).trans threads)
  · exact turn_retire idle ((congrArg System.threads performed).trans threads) fun _ => rfl
  · have bound := (sound.channels.waits station work waiting).bound
    have view : turned.thread id = (system.beginWork helper work (system.work work).snapshot).thread id :=
      thread_of_threads ((congrArg System.threads performed).trans threads) id
    rw [beginWork_eq, thread_modifyThread] at view
    split_ifs at view with here
    · obtain ⟨rfl, -⟩ := here
      have rested : ((system.modifyWork work fun w => { w with
          phase := .running, snapshot := none, runs := id :: w.runs }).thread id).activations = [] := idle
      rw [System.stack, view]
      dsimp only
      rw [rested]
      refine .take idle ?_ (.waiting rfl waiting)
      change (turned.work work).placement = _
      rw [performed]
      exact placed bound
    · exact Turn.of_view (fun _ => rfl) (congrArg Thread.stack view) (congrArg Thread.activations view)

private theorem turn_die (sound : system.picture.Sound events) (apart : system.picture.Apart) (rooted : system.Rooted)
    {station : Lease} (ended : system.hasEnded station (!·.isLogic) = true) (id : ThreadId) :
    let dead := system.perform (.die station)
    system.Turn (.die station) id (dead.stack id) (dead.thread id).activations := by
  intro dead
  obtain ⟨helper, job, busy, gone, -⟩ := hasEnded_cases ended
  refine turn_retire (rooted.ended sound apart busy gone) ?_ fun _ => rfl
  simp only [perform, withHelper, busy, helperDies]
  split
  · rfl
  · rename_i lost _
    exact threads_vacate lost

private theorem turn_dropPool (sound : system.picture.Sound events) (apart : system.picture.Apart)
    (rooted : system.Rooted) {pool : PoolId} (bound : pool < system.pools.length) (id : ThreadId) :
    let dropped := system.perform (.dropPool pool)
    system.Turn (.dropPool pool) id (dropped.stack id) (dropped.thread id).activations := by
  intro dropped
  have dismisses : system.Dismisses dropped := dismisses_shutdown bound
  by_cases rests : ∃ lease, (system.station lease).helper = .idle id
  · obtain ⟨lease, rests⟩ := rests
    have idle := rooted.rested sound apart rests
    rw [dismisses.activations, idle]
    exact .fade idle
  · have same := dismisses.others id fun lease idle => rests ⟨lease, idle⟩
    exact Turn.of_view (fun _ => rfl) (congrArg Thread.stack same) (congrArg Thread.activations same)

/-! ## Every action -/

/-- Every action does one of these things to every thread. -/
theorem turn_perform (sound : system.picture.Sound events) (apart : system.picture.Apart) (rooted : system.Rooted)
    (enabled : system.Enabled action) (id : ThreadId) :
    system.Turn action id ((system.perform action).stack id) ((system.perform action).thread id).activations := by
  cases action with
  | enter thread tenure =>
    have calm (id : ThreadId) (ne : thread ≠ id) (opened : List ScopeId) :
        Moment.opened ⟨system, .enter thread tenure⟩ id opened = opened := if_neg ne
    exact turn_enterIn enabled.1 (quiet_enclosing thread).threads (moves_enclosing thread).length_le rfl calm
      (fun opened => if_pos rfl) id
  | enterIn thread parent tenure =>
    have calm (id : ThreadId) (ne : thread ≠ id) (opened : List ScopeId) :
        Moment.opened ⟨system, .enterIn thread parent tenure⟩ id opened = opened := if_neg ne
    exact turn_enterIn enabled.1 rfl (Nat.le_refl _) rfl calm (fun opened => if_pos rfl) id
  | submit thread scope =>
    obtain ⟨running, owns, -⟩ := enabled
    obtain ⟨activation, others, top, -⟩ := innermost_of_isRunning running
    obtain ⟨outer, chain⟩ := top.chain
    obtain ⟨handle, has, -⟩ := Activation.contexts_pos.mp (top.contexts_pos owns)
    exact turn_submit sound apart rooted chain running (List.ne_nil_of_mem has) scope id
  | beginExit thread scope =>
    obtain ⟨activation, outer, chain⟩ := chain_of_isRunning enabled.1
    have changed : (system.perform (.beginExit thread scope)).threads = system.threads.modify thread fun t => { t with
        activations := t.activations.modifyHead fun a =>
          { a with leaving := some (scope, .exit ((system.stack thread).refusal scope)) } } := by
      rw [perform, beginExit_eq]
      rfl
    refine Turn.of_modifyHead chain changed (fun _ _ _ => rfl) ?_ id
    exact .wait chain (fun _ => rfl) enabled.1 fun refused same => (Departure.exit.inj same).symm
  | beginDrop thread scope =>
    obtain ⟨activation, outer, chain⟩ := chain_of_isRunning enabled.1
    refine Turn.of_modifyHead chain rfl (fun _ _ _ => rfl) ?_ id
    exact .wait chain (fun _ => rfl) enabled.1 fun refused same => Departure.noConfusion same
  | leave thread =>
    obtain ⟨activation, others, scope, departure, top, leaving, -, -, -, performed⟩ := leave_cases sound enabled
    obtain ⟨outer, chain⟩ := top.chain
    have changed := threads_left system thread scope
    rw [← performed] at changed
    exact Turn.of_modifyHead chain changed (fun id ne _ => if_neg ne) (.leave chain rfl leaving) id
  | attach thread snapshot =>
    obtain ⟨activation, outer, chain⟩ := chain_of_isRunning enabled
    have changed : (system.perform (.attach thread snapshot)).threads = _ := threads_attach system thread snapshot
    exact Turn.of_modifyHead chain changed (fun _ _ _ => rfl) (.attach chain rfl) id
  | detach thread =>
    obtain ⟨activation, outer, chain⟩ := chain_of_isRunning enabled.1
    rw [← activation_of_chain chain] at chain
    cases saved : (system.activation thread).saved with
    | nil =>
      refine Turn.of_threads (fun _ => rfl) ?_
      change (system.detach thread).threads = _
      rw [detach, saved]
    | cons stack older =>
      have changed : (system.perform (.detach thread)).threads = _ := threads_detach saved
      exact Turn.of_modifyHead chain changed (fun _ _ _ => rfl) (.detach chain rfl saved) id
  | acquire thread pool limit name => exact turn_acquire enabled.1 pool limit name id
  | dropLease thread name =>
    obtain ⟨activation, outer, chain⟩ := chain_of_isRunning enabled.1
    obtain ⟨lease, held⟩ := Option.isSome_iff_exists.mp enabled.2
    have changed : (system.perform (.dropLease thread name)).threads = system.threads.modify thread fun t => { t with
        activations := t.activations.modifyHead fun a => { a with leases := a.leases.filter (·.1 ≠ name) } } := by
      simp only [perform, withLease, held, Option.elim_some]
      rfl
    exact Turn.of_modifyHead chain changed (fun _ _ _ => rfl) (.trade chain rfl (fun _ => rfl) enabled.1) id
  | passLease thread other name => exact turn_passLease enabled id
  | dispatch thread name =>
    obtain ⟨lease, held⟩ := Option.isSome_iff_exists.mp enabled.2
    exact turn_dispatch sound apart rooted enabled.1 held id
  | free thread =>
    refine Turn.of_threads (fun _ => rfl) ?_
    simp only [perform, withCurrentWork]
    cases system.currentWork? thread with
    | none => rfl
    | some work => exact threads_vacate work
  | endLogic thread outcome =>
    obtain ⟨activation, others, work, top, -, -, current, -, bare, -⟩ := canEnd_cases enabled
    obtain ⟨outer, chain⟩ := top.chain
    refine turn_endProgram chain ?_ bare.1 (.inl ⟨outcome, rfl⟩) id
    simp only [perform, withCurrentWork, current, Option.elim_some, recordOutcome]
    split <;> rfl
  | endJob thread =>
    obtain ⟨activation, others, work, top, -, -, current, -, bare, -⟩ := canEnd_cases enabled
    obtain ⟨outer, chain⟩ := top.chain
    refine turn_endProgram chain ?_ bare.1 (.inr rfl) id
    simp only [perform, withCurrentWork, current, Option.elim_some]
    exact threads_vacate work
  | vacate thread =>
    obtain ⟨-, -, work, -, -, current, -⟩ := isEnding_cases enabled
    refine Turn.of_threads (fun _ => rfl) ?_
    simp only [perform, withCurrentWork, current, Option.elim_some]
    exact threads_vacate work
  | complete thread => exact turn_complete sound enabled id
  | next station => exact turn_next sound apart rooted enabled id
  | die station => exact turn_die sound apart rooted enabled id
  | dropPool pool => exact turn_dropPool sound apart rooted enabled.1 id
  | start thread name joined =>
    have added := @thread_addThread system { name, activations := [{
      within := if joined then (system.activation thread).within else none }] } id
    have view : (system.perform (.start thread name joined)).thread id = _ := added
    by_cases new : id = system.threads.length
    · rw [System.stack, view, if_pos new]
      refine .start (view_of_not_lt (Nat.not_lt.mpr (Nat.le_of_eq new.symm))).2 rfl new fun apart => ?_
      rw [apart]
      rfl
    · rw [if_neg new] at view
      exact Turn.of_view (fun _ => rfl) (congrArg Thread.stack view) (congrArg Thread.activations view)
  | finish thread =>
    obtain ⟨running, -, -, alone⟩ := enabled
    obtain ⟨activation, outer, chain⟩ := chain_of_isRunning running
    have last : outer = [] := by simpa [chain] using alone
    refine Turn.of_modify (active_of_chain chain) rfl (fun _ _ _ => rfl) ?_ id
    exact .finish (last ▸ chain) rfl
  | reduce | makePool | bar | makeRoot | makeFactory | reroute | register
  | configure => exact Turn.of_threads (fun _ => rfl) rfl

/-- The roots stay what they are: a work that has begun stays where it is, and no thread that runs something
becomes a helper. -/
theorem Rooted.step (rooted : system.Rooted) (sound : system.picture.Sound events) (apart : system.picture.Apart)
    (enabled : system.Enabled action) : (system.perform action).Rooted := by
  intro id role root
  have turn := turn_perform sound apart rooted enabled id
  have step := step_perform sound enabled
  -- a root that was there before stays
  have kept (old : ((system.thread id).activations.map Activation.role).getLast? = some role) :
      role = .program ∧ (∀ station, ((system.perform action).station station).helper.thread? ≠ some id) ∨
        ∃ work, role = .work work ∧ ((system.perform action).work work).placement = .helper id := by
    have busy : (system.thread id).activations ≠ [] := by
      intro idle
      rw [idle] at old
      exact absurd old.symm (Option.some_ne_none role)
    rcases rooted id role old with ⟨program, alone⟩ | ⟨work, rfl, placement⟩
    · refine .inl ⟨program, fun station helps => ?_⟩
      obtain ⟨started, enlists⟩ := step.enlists
      rcases enlists station id helps with before | ⟨-, new⟩
      · exact alone station before
      · exact Nat.ne_of_lt (lt_of_activations busy) new
    · obtain ⟨activation, member, runs⟩ := List.mem_map.mp (List.mem_of_getLast? old)
      have begun := WorkPhase.hasBegun_of_isActive (isActive_of_mem sound member runs)
      exact .inr ⟨work, rfl, ((step.continues.kept work (lt_of_hasBegun begun)).begun begun).2.trans placement⟩
  generalize ((system.perform action).thread id).activations = later at turn root
  generalize (system.perform action).stack id = stack at turn
  cases turn with
  | rest => exact kept root
  | trade chain | enter chain | wait chain | leave chain | attach chain | detach chain | close chain =>
    exact kept (by rw [chain]; exact root)
  | begin chain =>
    rw [List.map_cons, List.map_cons, List.getLast?_cons_cons] at root
    exact kept (by rw [chain]; exact root)
  | pop chain => exact kept (by rw [chain, List.map_cons, List.getLast?_cons, root]; rfl)
  | finish | fade => exact absurd root.symm (Option.some_ne_none role)
  | take idle placed => exact .inr ⟨_, (Option.some.inj root).symm, placed⟩
  | start idle starts new =>
    refine .inl ⟨(Option.some.inj root).symm, fun station helps => ?_⟩
    subst starts
    exact absurd new (Nat.ne_of_lt (sound.channels.lt_of_thread? helps))

end System

theorem Reaches.rooted {setting : Setting.State} {history : List Moment} {system : System}
    (reached : Reaches (.initial setting) history system) : system.Rooted := by
  induction reached with
  | start =>
    intro id role root
    refine .inl ⟨?_, fun station helps => absurd helps.symm (Option.some_ne_none id)⟩
    cases id with
    | zero => exact (Option.some.inj root).symm
    | succ id => exact absurd root.symm (Option.some_ne_none role)
  | step reached enabled ih => exact ih.step reached.sound reached.apart enabled

/-- What an action does to a thread in the course of a run. -/
theorem Reaches.turn {setting : Setting.State} {history : List Moment} {system : System} {action : Action}
    (reached : Reaches (.initial setting) history system) (enabled : system.Enabled action) (id : ThreadId) :
    system.Turn action id ((system.perform action).stack id) ((system.perform action).thread id).activations :=
  System.turn_perform reached.sound reached.apart reached.rooted enabled id

end ScopedWork
