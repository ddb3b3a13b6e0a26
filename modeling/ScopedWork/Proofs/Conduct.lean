import ScopedWork.Proofs.Readiness
import ScopedWork.Proofs.Tidiness
import ScopedWork.Proofs.Yielding

/-! # Steps and the outlook of their program

From a session that is ready, a step on behalf of a thread goes through, minds the other threads, and
does to the outlook of the thread's program what the plain operation of the same kind does. So the
next step finds the session ready again, and a chain of steps does what the chain of operations does.
-/

namespace ScopedWork

namespace System

variable {system : System} {thread : ThreadId}

/-! ## Contexts -/

theorem minds_enterIn (ready : system.Ready thread) (parent : ScopeId) (tenure : Tenure) :
    system.Minds thread (system.enterIn thread parent tenure).2 := by
  let child := (system.scope parent).child parent (system.activation thread).within
  have added : system.Minds thread (system.addScope child).2 := minds_of_same ready rfl rfl rfl rfl rfl
  have pushed := added.trans (minds_modifyStack added.ready (·.push (.scope system.scopes.length)))
  exact pushed.trans (minds_modifyActivation pushed.ready fun _ => rfl)

theorem minds_enter (ready : system.Ready thread) (tenure : Tenure) :
    system.Minds thread (system.enter thread tenure).2 :=
  (minds_enclosing ready).trans (minds_enterIn (minds_enclosing ready).ready _ tenure)

/-- A context that is left is off the stack, its scope is closed, and it is no longer the program's. -/
def left (system : System) (thread : ThreadId) (scope : ScopeId) : System :=
  ((system.unstack thread scope).closeScope scope).2.forgetHandle thread scope

theorem minds_left (ready : system.Ready thread) (scope : ScopeId) :
    system.Minds thread (system.left thread scope) := by
  have unstacked : system.Minds thread (system.unstack thread scope) :=
    minds_modifyStack ready (·.remove (.scope scope))
  have closed := unstacked.trans (minds_modifyScope unstacked.ready scope fun record => record.close.2)
  exact closed.trans (minds_modifyActivation closed.ready fun _ => rfl)

theorem minds_beginLeave (ready : system.Ready thread) (scope : ScopeId) (departure : Departure) :
    system.Minds thread (system.beginLeave thread scope departure) := by
  have drained := minds_modifyScope ready scope Scope.drain
  exact drained.trans (minds_modifyActivation drained.ready fun _ => rfl)

theorem thread_beginLeave (active : (system.thread thread).activations ≠ []) (scope : ScopeId)
    (departure : Departure) :
    (system.beginLeave thread scope departure).thread thread = { system.thread thread with
      activations := (system.thread thread).activations.modifyHead ({ · with leaving := some (scope, departure) }) } :=
  @thread_modifyThread_self (system.modifyScope scope Scope.drain) thread active _

theorem scope_beginLeave {scope : ScopeId} (bound : scope < system.scopes.length)
    (accepting : (system.scope scope).state = .accepting) (departure : Departure) :
    (system.beginLeave thread scope departure).scope scope = { system.scope scope with state := .draining } := by
  change (system.modifyScope scope Scope.drain).scope scope = _
  rw [scope_modifyScope, if_pos ⟨rfl, bound⟩, Scope.drain, accepting]

/-- To pop a context is to take it off the stack. -/
theorem setStack_of_pop {stack : Stack} {scope : ScopeId}
    (popped : (system.stack thread).pop (.scope scope) = .ok stack) :
    system.setStack thread stack = system.unstack thread scope := by
  simp only [setStack, unstack, modifyThread]
  congr 1
  refine modify_congr fun here found => ?_
  have same : system.stack thread = here.stack := by rw [System.stack, System.thread, found, Option.getD_some]
  rw [← Stack.remove_of_pop popped, same]

/-- To exit a context leaves it, current or not. -/
theorem leave_exit {scope : ScopeId} {refused : Option Failure.StateError}
    (asked : refused = match (system.stack thread).ensureCurrent (.scope scope) with
      | .ok () => none
      | .error error => some error) :
    system.leave thread scope (.exit refused) =
      (match (system.stack thread).ensureCurrent (.scope scope), (system.scope scope).firstFailure with
        | .ok (), failure => failure.map .task
        | .error error, some failure => some (.abandoned error failure)
        | .error error, none => some (.state error), system.left thread scope) := by
  have closed : (system.unstack thread scope).closeScope scope =
      ((system.scope scope).firstFailure, ((system.unstack thread scope).closeScope scope).2) :=
    rfl
  cases current : (system.stack thread).ensureCurrent (.scope scope) with
  | ok =>
    obtain ⟨rest, popped⟩ := Stack.pop_of_ensureCurrent current
    simp only [asked, current, leave, exitScope, popped, setStack_of_pop popped]
    rfl
  | error error =>
    simp only [asked, current, leave, exitScope]
    rw [closed]
    cases (system.scope scope).firstFailure with
    | none => rfl
    | some failure => rfl

/-- To drop a context that is not closed leaves it. -/
theorem leave_drop {scope : ScopeId} (unclosed : (system.scope scope).state ≠ .closed) :
    system.leave thread scope .drop = (none, system.left thread scope) := by
  simp only [leave, dropScope, if_neg unclosed, left]

/-- In whatever way a context is left, the process is the same afterwards. -/
theorem leave_eq {scope : ScopeId} (unclosed : (system.scope scope).state ≠ .closed) (departure : Departure) :
    (system.leave thread scope departure).2 = system.left thread scope := by
  cases departure with
  | drop => rw [leave_drop unclosed]
  | exit refused =>
    cases refused with
    | some error =>
      simp only [leave, exitScope]
      split <;> rename_i taken <;> exact congrArg (fun closed => closed.2.forgetHandle thread scope) taken.symm
    | none =>
      cases popped : (system.stack thread).pop (.scope scope) with
      | error error => simp only [leave, exitScope, popped, dropScope, if_neg unclosed, left]
      | ok stack => simp only [leave, exitScope, popped, setStack_of_pop popped, left]

end System

namespace Program

variable {onward : Onward} {thread : ThreadId} {session after : Session} {α β : Type}

/-! ## Ready sessions -/

/-- A session in which a thread goes on, the helpers are at rest, and only jobs stand still. -/
structure Session.Ready (session : Session) (thread : ThreadId) : Prop where
  system : session.system.Ready thread
  jobs : ∀ work paused, (work, paused) ∈ session.paused →
    work < session.system.works.length ∧ (session.system.work work).kind = .job

/-- What leads from a ready session to another leaves no logic standing still. -/
theorem Session.Ready.after_minds (ready : session.Ready thread) (paused : after.paused = session.paused)
    (minds : session.system.Minds thread after.system) : after.Ready thread where
  system := minds.ready
  jobs work entry stands := by
    rw [paused] at stands
    obtain ⟨bound, job⟩ := ready.jobs work entry stands
    refine ⟨Nat.lt_of_lt_of_le bound minds.works, ?_⟩
    rw [minds.recorded work bound]
    exact job

/-- No logic of a ready session holds. -/
theorem Session.Ready.not_holding (ready : session.Ready thread) (scope : ScopeId) :
    session.earliestHolding? (isLogicOf scope session) = none := by
  rw [Session.earliestHolding?, List.find?_eq_none]
  intro work _ both
  rw [Bool.and_eq_true, Session.isHolding] at both
  obtain ⟨holds, logic⟩ := both
  cases found : session.paused.lookup work with
  | none => simp only [found, Bool.false_eq_true] at holds
  | some paused =>
    have stands : (work, paused) ∈ session.paused := by
      obtain ⟨before, after, split, -⟩ := List.lookup_eq_some_iff.mp found
      rw [split]
      exact List.mem_append_right _ List.mem_cons_self
    have job := (ready.jobs work paused stands).2
    simp only [isLogicOf, job, beq_iff_eq, reduceCtorEq] at logic

/-! ## Chains of steps -/

/-- A step goes through and leads a thread's program to an outlook, with a result of some kind. -/
def Run.Leads (run : Run α) (thread : ThreadId) (session : Session) (result : α → Prop)
    (outlook : Outlook) : Prop :=
  ∃ value after, run.Yields session value after ∧ result value ∧ after.outlook thread = outlook ∧
    after.paused = session.paused ∧ session.system.Minds thread after.system

namespace Run.Leads

variable {run : Run α} {next : α → Run β} {result : α → Prop} {result' : β → Prop}
    {outlook outlook' : Outlook}

theorem pure (ready : session.Ready thread) {value : α} (fits : result value) :
    (pure value : Run α).Leads thread session result (session.outlook thread) :=
  ⟨value, session, yields_pure value session, fits, rfl, rfl, .refl ready.system⟩

theorem bind (first : run.Leads thread session result outlook) (ready : session.Ready thread)
    (second : ∀ value after, result value → after.outlook thread = outlook → after.Ready thread →
      (next value).Leads thread after result' outlook') :
    (run >>= next).Leads thread session result' outlook' := by
  obtain ⟨value, middle, yielded, fits, seen, paused, minds⟩ := first
  obtain ⟨last, after, goesOn, fits', seen', paused', minds'⟩ :=
    second value middle fits seen (ready.after_minds paused minds)
  exact ⟨last, after, yielded.bind goesOn, fits', seen', paused'.trans paused, minds.trans minds'⟩

/-- What is told of a result can be told of it less precisely. -/
theorem imp {weaker : α → Prop} (leads : run.Leads thread session result outlook)
    (implies : ∀ value, result value → weaker value) :
    run.Leads thread session weaker outlook := by
  obtain ⟨value, after, yielded, fits, rest⟩ := leads
  exact ⟨value, after, yielded, implies value fits, rest⟩

/-- A step that looks at the process first. -/
theorem system {next : System → Run β} (goesOn : (next session.system).Leads thread session result' outlook') :
    (Run.system >>= next).Leads thread session result' outlook' := by
  obtain ⟨value, after, yielded, rest⟩ := goesOn
  exact ⟨value, after, (yields_system session).bind yielded, rest⟩

/-- A step that looks at the session first. -/
theorem get {next : Session → Run β} (goesOn : (next session).Leads thread session result' outlook') :
    ((MonadState.get : Run Session) >>= next).Leads thread session result' outlook' := by
  obtain ⟨value, after, yielded, rest⟩ := goesOn
  exact ⟨value, after, (yields_get session).bind yielded, rest⟩

/-- An attempt at a step that goes through. -/
theorem attempt (leads : run.Leads thread session result outlook) :
    (Run.attempt run).Leads thread session
      (fun outcome => ∃ value, outcome = .ok value ∧ result value) outlook := by
  obtain ⟨value, after, yielded, fits, rest⟩ := leads
  exact ⟨.ok value, after, yielded.attempt, ⟨value, rfl, fits⟩, rest⟩

end Run.Leads

/-! ## What the outlook is of -/

theorem scope_outlook (session : Session) (thread : ThreadId) (id : ScopeId) :
    (session.outlook thread).scope id = (session.system.scope id).outline := by
  rw [Outlook.scope, Session.outlook, List.getElem?_map, System.scope]
  cases session.system.scopes[id]? <;> rfl

@[simp] theorem length_outlook (session : Session) (thread : ThreadId) :
    (session.outlook thread).scopes.length = session.system.scopes.length :=
  List.length_map ..

theorem named?_outlook (session : Session) (thread : ThreadId) (name : String) :
    (session.outlook thread).named? name = Option.map Entry.outline ( session.system.entry? name) := by
  rw [Outlook.named?, Session.outlook, System.entry?]
  induction session.system.directory with
  | nil => rfl
  | cons shared rest ih =>
    obtain ⟨key, entry⟩ := shared
    rw [List.map_cons, List.lookup_cons, List.lookup_cons]
    cases name == key with
    | true => rfl
    | false => exact ih

theorem isTaken_outlook (session : Session) (thread : ThreadId) (name : String) :
    (session.outlook thread).isTaken name = session.system.isTaken thread name := by
  rw [Outlook.isTaken, System.isTaken, named?_outlook, Option.isSome_map]
  simp only [Session.outlook, List.any_map, Function.comp_def]

theorem context?_outlook (session : Session) (thread : ThreadId) (name : String) :
    (session.outlook thread).context? name = session.system.context? thread name :=
  rfl

theorem ownContext?_outlook (session : Session) (thread : ThreadId) (name : String) :
    (session.outlook thread).ownContext? name = session.system.ownContext? thread name :=
  rfl

theorem scope?_outlook (session : Session) (thread : ThreadId) (name : String) :
    (session.outlook thread).scope? name = session.system.scope? thread name := by
  rw [Outlook.scope?, System.scope?, context?_outlook, named?_outlook]
  cases session.system.context? thread name with
  | some scope => rfl
  | none =>
    cases session.system.entry? name with
    | none => rfl
    | some entry => cases entry <;> rfl

/-- A program tells no difference between processes that differ in pools, works and other threads only. -/
theorem outlook_congr {system : System}
    (scopes : system.scopes.map Scope.outline = session.system.scopes.map Scope.outline)
    (cells : system.cells = session.system.cells) (directory : system.directory = session.system.directory)
    (sources : system.factories.map (·.source.outline) = session.system.factories.map (·.source.outline))
    (registered : system.registered = session.system.registered)
    (standardRoot : system.standardRoot = session.system.standardRoot)
    (same : system.thread thread = session.system.thread thread) :
    (session.setSystem system).outlook thread = session.outlook thread := by
  simp only [Session.outlook, Session.setSystem, System.stack, System.activation, scopes, cells, directory, sources,
    registered, standardRoot, same]

/-! ## Parts of the outlook that change -/

theorem outlook_modifyScope (session : Session) (thread : ThreadId) (id : ScopeId) {change shown : Scope → Scope}
    (comm : ∀ scope, (change scope).outline = shown scope.outline) :
    (session.setSystem (session.system.modifyScope id change)).outlook thread =
      (session.outlook thread).modifyScope id shown := by
  have changed : (session.system.modifyScope id change).scopes.map Scope.outline =
      (session.system.scopes.map Scope.outline).modify id shown :=
    map_modify_of_comm comm session.system.scopes id
  simp only [Session.outlook, Session.setSystem, changed]
  rfl

theorem outlook_addScope (session : Session) (thread : ThreadId) (scope : Scope) :
    (session.setSystem (session.system.addScope scope).2).outlook thread =
      ((session.outlook thread).addScope scope.outline).2 := by
  have added : (session.system.addScope scope).2.scopes.map Scope.outline =
      session.system.scopes.map Scope.outline ++ [scope.outline] :=
    List.map_append
  simp only [Session.outlook, Session.setSystem, added]
  rfl

theorem outlook_modifyStack (active : (session.system.thread thread).activations ≠ []) (change : Stack → Stack) :
    (session.setSystem (session.system.modifyThread thread fun t => { t with stack := change t.stack })).outlook
        thread =
      { session.outlook thread with stack := change (session.outlook thread).stack } := by
  simp only [Session.outlook, Session.setSystem, System.stack, System.activation,
    System.thread_modifyThread_self active]
  rfl

theorem outlook_modifyActivation (active : (session.system.thread thread).activations ≠ [])
    (change : Activation → Activation) :
    (session.setSystem (session.system.modifyActivation thread change)).outlook thread =
      { session.outlook thread with
        handles := (change (session.system.activation thread)).handles
        leases := (change (session.system.activation thread)).leases.map (·.1)
        lastError := (change (session.system.activation thread)).lastError } := by
  obtain ⟨top, outer, chain⟩ := List.exists_cons_of_ne_nil active
  simp only [Session.outlook, Session.setSystem, System.stack, System.activation, System.modifyActivation,
    System.thread_modifyThread_self active, chain, List.modifyHead_cons, List.headD_cons]
  rfl

/-! ## Entering -/

theorem outlook_newRoot (session : Session) (thread : ThreadId) (pool : PoolId) (concurrency : Nat) :
    (session.system.newRoot pool concurrency).1 = ((session.outlook thread).addScope default).1 ∧
      (session.setSystem (session.system.newRoot pool concurrency).2).outlook thread =
        ((session.outlook thread).addScope default).2 :=
  ⟨(length_outlook session thread).symm, outlook_addScope session thread _⟩

/-- A program does not see the global pool being made. -/
private theorem outlook_getGlobalPool (session : Session) (thread : ThreadId) (setting : Setting.State) :
    (session.setSystem { session.system with setting }.getGlobalPool.2).outlook thread = session.outlook thread := by
  rw [System.getGlobalPool]
  split
  · rfl
  · rfl

theorem outlook_getStandardRoot (session : Session) (thread : ThreadId) :
    session.system.getStandardRoot.1 = (session.outlook thread).getStandardRoot.1 ∧
      (session.setSystem session.system.getStandardRoot.2).outlook thread =
        (session.outlook thread).getStandardRoot.2 := by
  have same : (session.outlook thread).standardRoot = session.system.standardRoot := rfl
  rw [System.getStandardRoot]
  split
  next root found =>
    have seen : (session.outlook thread).getStandardRoot = (root, session.outlook thread) := by
      rw [Outlook.getStandardRoot, same, found]
    rw [seen]
    exact ⟨rfl, rfl⟩
  next found =>
    have seen : (session.outlook thread).getStandardRoot =
        (((session.outlook thread).addScope default).1,
          { ((session.outlook thread).addScope default).2 with
            standardRoot := some ((session.outlook thread).addScope default).1 }) := by
      rw [Outlook.getStandardRoot, same, found]
    let pooled := { session.system with setting := session.system.setting.concurrency.2 }.getGlobalPool
    have unseen : (session.setSystem pooled.2).outlook thread = session.outlook thread :=
      outlook_getGlobalPool session thread _
    obtain ⟨number, rooted⟩ := outlook_newRoot (session.setSystem pooled.2) thread pooled.1
      session.system.setting.concurrency.1
    rw [unseen] at number rooted
    rw [seen, ← number, ← rooted]
    exact ⟨rfl, rfl⟩

theorem outlook_rootFrom (session : Session) (thread : ThreadId) (source : RootSource) :
    (session.system.rootFrom source).1 = ((session.outlook thread).rootFrom source.outline).1 ∧
      (session.setSystem (session.system.rootFrom source).2).outlook thread =
        ((session.outlook thread).rootFrom source.outline).2 := by
  cases source with
  | scope root => exact ⟨rfl, rfl⟩
  | fresh pool concurrency => exact outlook_newRoot session thread pool concurrency
  | standard => exact outlook_getStandardRoot session thread

/-- A program does not see how often a factory is asked. -/
private theorem outlook_countLookup (session : Session) (thread : ThreadId) (factory : FactoryId) :
    (session.setSystem (session.system.countLookup factory)).outlook thread = session.outlook thread := by
  have counted : (session.system.countLookup factory).factories.map (·.source.outline) =
      (session.system.factories.map (·.source.outline)).modify factory id := by
    change (session.system.factories.modify factory _).map _ = _
    apply map_modify_of_comm
    exact fun _ => rfl
  exact outlook_congr rfl rfl rfl (by rw [counted, List.modify_id]) rfl rfl rfl

theorem outlook_enclosing (session : Session) (thread : ThreadId) :
    (session.system.enclosing thread).1 = (session.outlook thread).enclosing.1 ∧
      (session.setSystem (session.system.enclosing thread).2).outlook thread =
        (session.outlook thread).enclosing.2 := by
  have stack : (session.outlook thread).stack = session.system.stack thread := rfl
  have registered : (session.outlook thread).registered = session.system.registered := rfl
  have sources (id : FactoryId) : (session.outlook thread).sources[id]? =
      session.system.factories[id]?.map (·.source.outline) :=
    List.getElem?_map ..
  rw [System.enclosing, Outlook.enclosing, stack]
  cases (session.system.stack thread).currentScope? with
  | some scope => exact ⟨rfl, rfl⟩
  | none =>
    simp only [System.supplyRoot, registered, sources]
    cases session.system.registered with
    | none => exact outlook_getStandardRoot session thread
    | some id =>
      simp only [Option.bind_some]
      cases session.system.factories[id]? with
      | none => exact outlook_getStandardRoot session thread
      | some factory =>
        have found := outlook_rootFrom (session.setSystem (session.system.countLookup id)) thread factory.source
        rw [outlook_countLookup] at found
        exact found

/-- A context is entered as the outlook has it. -/
theorem outlook_enterIn (active : (session.system.thread thread).activations ≠ []) (parent : ScopeId)
    (tenure : Tenure) :
    (session.system.enterIn thread parent tenure).1 = ((session.outlook thread).enterIn parent tenure).1 ∧
      (session.setSystem (session.system.enterIn thread parent tenure).2).outlook thread =
        ((session.outlook thread).enterIn parent tenure).2 := by
  refine ⟨(length_outlook session thread).symm, ?_⟩
  let child := (session.system.scope parent).child parent (session.system.activation thread).within
  let added := session.setSystem (session.system.addScope child).2
  let pushed := added.setSystem (added.system.modifyThread thread fun t =>
    { t with stack := t.stack.push (.scope session.system.scopes.length) })
  have first : added.outlook thread = ((session.outlook thread).addScope child.outline).2 :=
    outlook_addScope session thread child
  have read : pushed.system.thread thread =
      { session.system.thread thread with
        stack := (session.system.stack thread).push (.scope session.system.scopes.length) } :=
    @System.thread_modifyThread_self added.system thread active _
  have second : pushed.outlook thread = _ :=
    @outlook_modifyStack thread added active (·.push (.scope session.system.scopes.length))
  have third := @outlook_modifyActivation thread pushed (by rw [read]; exact active)
    fun a => { a with handles := { scope := session.system.scopes.length, tenure } :: a.handles }
  change (pushed.setSystem (pushed.system.modifyActivation thread _)).outlook thread = _
  rw [third, second, first]
  simp only [System.activation, read, Outlook.enterIn, Outlook.addScope, length_outlook]
  rfl

theorem minds_enterIn {system : System} (ready : system.Ready thread) (parent : ScopeId) (tenure : Tenure) :
    system.Minds thread (system.enterIn thread parent tenure).2 := by
  let child := (system.scope parent).child parent (system.activation thread).within
  have added : system.Minds thread (system.addScope child).2 := System.minds_of_same ready rfl rfl rfl rfl rfl
  have pushed := added.trans (System.minds_modifyStack added.ready (·.push (.scope system.scopes.length)))
  exact pushed.trans (System.minds_modifyActivation pushed.ready fun _ => rfl)

theorem outlook_enter (ready : session.system.Ready thread) (tenure : Tenure) :
    (session.system.enter thread tenure).1 = ((session.outlook thread).enter tenure).1 ∧
      (session.setSystem (session.system.enter thread tenure).2).outlook thread =
        ((session.outlook thread).enter tenure).2 := by
  obtain ⟨parent, enclosing⟩ := outlook_enclosing session thread
  have entered := @outlook_enterIn thread (session.setSystem (session.system.enclosing thread).2)
    (System.minds_enclosing ready).ready.active (session.system.enclosing thread).1 tenure
  rw [enclosing, parent] at entered
  rw [Outlook.enter, ← entered.1, ← entered.2, ← parent]
  exact ⟨rfl, rfl⟩

theorem minds_enter {system : System} (ready : system.Ready thread) (tenure : Tenure) :
    system.Minds thread (system.enter thread tenure).2 :=
  (System.minds_enclosing ready).trans (minds_enterIn (System.minds_enclosing ready).ready _ tenure)

/-- To enter a context leads to the outlook with the context. -/
theorem leads_enter (ready : session.Ready thread) (tenure : Tenure) :
    (Run.onSystem (·.enter thread tenure)).Leads thread session (· = ((session.outlook thread).enter tenure).1)
      ((session.outlook thread).enter tenure).2 := by
  obtain ⟨number, entered⟩ := outlook_enter ready.system tenure
  exact ⟨_, _, Run.yields_onSystem _ session, number, entered, rfl, minds_enter ready.system tenure⟩

/-! ## Leaving -/

/-- A context that has begun to be left, and is, is left as the outlook has it. -/
theorem outlook_left (ready : session.system.Ready thread) (scope : ScopeId) (departure : Departure) :
    (session.setSystem ((session.system.beginLeave thread scope departure).left thread scope)).outlook thread =
      (session.outlook thread).leave scope := by
  have drain (record : Scope) : record.drain.outline = record.outline.drain := by
    obtain ⟨_, _, _, _, state, _⟩ := record
    cases state <;> rfl
  have close_drain : (fun record : Scope => record.close.2) ∘ Scope.drain = fun record => record.close.2 := by
    funext record
    obtain ⟨_, _, _, _, state, _⟩ := record
    cases state <;> rfl
  let drained := session.setSystem (session.system.modifyScope scope Scope.drain)
  let leaving := session.setSystem (session.system.beginLeave thread scope departure)
  let unstacked := leaving.setSystem (leaving.system.unstack thread scope)
  let closed := unstacked.setSystem (unstacked.system.modifyScope scope fun record => record.close.2)
  have first : drained.outlook thread = (session.outlook thread).modifyScope scope Scope.drain :=
    outlook_modifyScope session thread scope drain
  have second : leaving.outlook thread = drained.outlook thread :=
    @outlook_modifyActivation thread drained ready.active _
  have begun := System.minds_beginLeave ready scope departure
  have third : unstacked.outlook thread = { leaving.outlook thread with
      stack := (leaving.outlook thread).stack.remove (.scope scope) } :=
    @outlook_modifyStack thread leaving begun.ready.active (·.remove (.scope scope))
  have fourth : closed.outlook thread = (unstacked.outlook thread).modifyScope scope fun record => record.close.2 :=
    outlook_modifyScope unstacked thread scope fun _ => rfl
  have off := System.minds_modifyStack begun.ready (·.remove (.scope scope))
  have shut := System.minds_modifyScope off.ready scope fun record => record.close.2
  have fifth :
      (session.setSystem ((session.system.beginLeave thread scope departure).left thread scope)).outlook thread =
      { closed.outlook thread with handles := (closed.outlook thread).handles.filter (·.scope ≠ scope) } :=
    @outlook_modifyActivation thread closed shut.ready.active _
  rw [fifth, fourth, third, second, first]
  simp only [Outlook.leave, Outlook.modifyScope, List.modify_modify_eq, close_drain]

/-- The scope of a context that a fit program begins to leave waits for its logics. -/
private theorem scope_beginLeave (fit : (session.outlook thread).Fit) {handle : Handle}
    (present : handle ∈ (session.outlook thread).handles) (departure : Departure) :
    (session.system.beginLeave thread handle.scope departure).scope handle.scope =
      { session.system.scope handle.scope with state := .draining } := by
  have bound := fit.bound handle present
  have accepting := fit.accepting handle present
  rw [length_outlook] at bound
  rw [scope_outlook] at accepting
  exact System.scope_beginLeave bound accepting departure

/-- A thread that has begun to leave a context of a fit program can go through with it, as nothing is
under way in the scope. -/
private theorem leave?_beginLeave (ready : session.system.Ready thread) (fit : (session.outlook thread).Fit)
    {handle : Handle} (present : handle ∈ (session.outlook thread).handles) (departure : Departure) :
    (session.system.beginLeave thread handle.scope departure).leave? thread =
      some ((session.system.beginLeave thread handle.scope departure).leave thread handle.scope departure) := by
  obtain ⟨top, outer, chain⟩ := List.exists_cons_of_ne_nil ready.active
  have leaving : ((session.system.beginLeave thread handle.scope departure).activation thread).leaving =
      some (handle.scope, departure) := by
    rw [System.activation, System.thread_beginLeave ready.active, chain]
    rfl
  have settled := fit.settled handle present
  rw [scope_outlook] at settled
  rw [System.leave?, leaving]
  refine if_pos ?_
  rw [scope_beginLeave fit present]
  exact settled

theorem yields_awaitLogics (ready : session.Ready thread) (fit : (session.outlook thread).Fit) {handle : Handle}
    (present : handle ∈ (session.outlook thread).handles) (departure : Departure) :
    (awaitLogics onward thread handle.scope).Yields
      (session.setSystem (session.system.beginLeave thread handle.scope departure))
      ((session.system.beginLeave thread handle.scope departure).leave thread handle.scope departure).1
      (session.setSystem
        ((session.system.beginLeave thread handle.scope departure).leave thread handle.scope departure).2) := by
  have still : (session.setSystem (session.system.beginLeave thread handle.scope departure)).Ready thread :=
    ready.after_minds rfl (System.minds_beginLeave ready.system handle.scope departure)
  have goes : (session.setSystem (session.system.beginLeave thread handle.scope departure)).system.leave? thread = _ :=
    leave?_beginLeave ready.system fit present departure
  refine (Run.yields_get _).bind ?_
  simp only [still.not_holding, Option.isSome_none, Bool.false_eq_true, ↓reduceIte]
  refine (Run.yields_system _).bind ?_
  rw [goes]
  exact (Run.yields_changeSystem _ _).bind (Run.yields_pure _ _)

/-- To exit a context leads to the outlook without it, and reports what the outlook says. -/
theorem leads_exitContext (ready : session.Ready thread) (fit : (session.outlook thread).Fit) {handle : Handle}
    (present : handle ∈ (session.outlook thread).handles) :
    (exitContext onward thread handle.scope).Leads thread session (· = (session.outlook thread).report handle.scope)
      ((session.outlook thread).leave handle.scope) := by
  let refused := match (session.system.stack thread).ensureCurrent (.scope handle.scope) with
    | .ok () => none
    | .error error => some error
  let begun := session.system.beginLeave thread handle.scope (.exit refused)
  have stack : begun.stack thread = session.system.stack thread := by
    rw [System.stack, System.thread_beginLeave ready.system.active, System.stack]
  have failure : (begun.scope handle.scope).firstFailure =
    ((session.outlook thread).scope handle.scope).firstFailure := by
    rw [scope_beginLeave fit present, scope_outlook]
    rfl
  have minds := System.minds_beginLeave ready.system handle.scope (.exit refused)
  have left := @System.leave_exit begun thread handle.scope refused (by rw [stack])
  rw [stack, failure] at left
  have yielded := @yields_awaitLogics onward thread session ready fit handle present (.exit refused)
  rw [left] at yielded
  refine ⟨_, _, (Run.yields_changeSystem _ _).bind yielded, rfl, ?_, rfl, ?_⟩
  · exact outlook_left ready.system handle.scope (.exit refused)
  · exact minds.trans (System.minds_left minds.ready handle.scope)

theorem leads_dropContext (ready : session.Ready thread) (fit : (session.outlook thread).Fit) {handle : Handle}
    (present : handle ∈ (session.outlook thread).handles) :
    (dropContext onward thread handle.scope).Leads thread session (fun _ => True)
      ((session.outlook thread).leave handle.scope) := by
  have unclosed : ((session.system.beginLeave thread handle.scope .drop).scope handle.scope).state ≠ .closed := by
    rw [scope_beginLeave fit present]
    exact ScopeState.noConfusion
  have minds := System.minds_beginLeave ready.system handle.scope .drop
  have yielded := @yields_awaitLogics onward thread session ready fit handle present .drop
  rw [System.leave_drop unclosed] at yielded
  refine ⟨_, _, (Run.yields_changeSystem _ _).bind (yielded.bind (Run.yields_pure _ _)), trivial, ?_, rfl, ?_⟩
  · exact outlook_left ready.system handle.scope .drop
  · exact minds.trans (System.minds_left minds.ready handle.scope)

end Program

end ScopedWork
