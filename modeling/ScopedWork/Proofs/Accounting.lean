import ScopedWork.Proofs.Naming
import ScopedWork.Proofs.Simulation

/-! # The accounts of a scope

At every point of a run the counters of a scope say what has happened to it, and every further action
keeps to the order of its life: submissions come while it accepts logics, then its context drains it,
then it is closed. What the logics of other scopes come to does not concern it.
-/

namespace ScopedWork

inductive ScopeState.Moves : ScopeState → ScopeState → Prop
  | stays (state : ScopeState) : Moves state state
  | drains : Moves accepting draining
  | closes : Moves draining closed

theorem ScopeState.Moves.of_eq {before after : ScopeState} (same : after = before) : before.Moves after := by
  rw [same]
  exact .stays before

namespace Picture

variable {picture after : Picture} {event : Event} {scope : ScopeId} {id : WorkId}

/-- A step that changes one scope moves the states of all of them as it moves that one's. -/
private theorem moves_update {next : Scope} (scopes : after.scope = Function.update picture.scope scope next)
    (moves : (picture.scope scope).state.Moves next.state) (other : ScopeId) :
    (picture.scope other).state.Moves (after.scope other).state := by
  rw [scopes]
  by_cases here : other = scope
  · subst here
    rwa [Function.update_self]
  · rw [Function.update_of_ne here]
    exact .stays _

theorem Step.moves (tenancy : picture.Tenancy) (step : picture.Step event after) (scope : ScopeId) :
    (picture.scope scope).state.Moves (after.scope scope).state := by
  have kept (same : after.scope = picture.scope) : (picture.scope scope).state.Moves (after.scope scope).state :=
    .of_eq (by rw [same])
  cases step with
  | quiet quiet => exact .of_eq (quiet.sameTenancy scope).2.2
  | @enter middle activation _ entered parent _ quiet _ _ fresh =>
    have same (other : ScopeId) : (middle.scope other).state = (picture.scope other).state :=
      (quiet.sameTenancy other).2.2
    rw [← same scope]
    exact moves_update rfl (.of_eq (by rw [fresh]; rfl)) scope
  | drain departure top running owned =>
    refine moves_update rfl ?_ scope
    rw [Scope.drain, (tenancy.accepting top running.staying owned).1]
    exact .drains
  | @leave activation _ target departure top leaving =>
    obtain ⟨handle, has, rfl⟩ := Activation.contexts_pos.mp
      (tenancy.leaving activation (top ▸ Multiset.mem_cons_self _ _) _ _ leaving)
    have draining := tenancy.state activation (top ▸ Multiset.mem_cons_self _ _) handle has
    rw [Activation.leaves, leaving, Option.any_some, beq_self_eq_true, if_pos rfl] at draining
    refine moves_update rfl ?_ scope
    rw [draining]
    exact .closes
  | shift => exact kept rfl
  | acquire _ _ _ _ granted => exact kept granted.scope_eq
  | dropLease => exact kept rfl
  | passLease => exact kept rfl
  | dispatch _ _ _ sent => exact kept (sent.added rfl).1
  | submitCutShort =>
    refine moves_update rfl ?_ scope
    exact .of_eq rfl
  | submitInline =>
    refine moves_update rfl ?_ scope
    exact .of_eq rfl
  | submitPooled _ _ _ _ granted sent =>
    refine moves_update ((sent.added rfl).1.trans granted.scope_eq) ?_ scope
    exact .of_eq rfl
  | free _ _ _ vacated => exact kept vacated.scope_eq
  | @endLogic _ _ _ target outcome =>
    refine moves_update rfl (.of_eq ?_) scope
    obtain ⟨_, _, same⟩ := (picture.scope target).record_rest outcome
    change ((picture.scope target).record outcome).state = _
    rw [same]
  | endJob saved _ _ _ _ _ _ vacated => exact kept vacated.scope_eq
  | vacate _ vacated => exact kept vacated.scope_eq
  | @complete _ _ work => exact .of_eq (count_sameTenancy picture work scope).2.2
  | rest => exact kept rfl
  | next => exact kept rfl
  | dieAlone => exact kept rfl
  | die => exact kept rfl
  | dropPool => exact kept rfl
  | start => exact kept rfl
  | finish => exact kept rfl

end Picture

def submissions (history : List Moment) (scope : ScopeId) : Nat :=
  history.countP (·.event.submits scope)

/-- How many of them were never placed, because a panic came first. -/
def cutShort (history : List Moment) (scope : ScopeId) : Nat :=
  history.countP (·.event.cutsShort scope)

/-- Whether the first failure of a scope has been handed out by the close of its context. -/
def handedOut (history : List Moment) (scope : ScopeId) : Bool :=
  history.any (·.event.handsOut scope)

namespace Work

/-- Whether a work is over, counted or not. -/
def isOver (work : Work) : Bool :=
  work.phase == .over

/-- Whether the outcome of a work has been recorded while the work is not over yet. -/
def isEnding (work : Work) : Bool :=
  work.phase == .recorded || work.phase == .vacated

end Work

/-- Only a submission submits a logic. -/
theorem Moment.submits_of_event {moment : Moment} {scope : ScopeId} {cutShort : Bool}
    (event : moment.event = .submitted scope cutShort) : ∃ thread, moment.action = .submit thread scope := by
  obtain ⟨before, action⟩ := moment
  cases action with
  | submit thread target =>
    obtain ⟨rfl, -⟩ := Event.submitted.inj event
    exact ⟨thread, rfl⟩
  | leave thread =>
    simp only [Moment.event] at event
    split at event <;> exact Event.noConfusion event
  | _ => exact Event.noConfusion event

/-- Where helpers can be given their names, every logic is placed. -/
theorem cutShort_eq_zero {history : List Moment}
    (named : ∀ moment ∈ history, ∀ pool ∈ moment.before.pools, Pool.isStem pool.nameStem = true)
    (scope : ScopeId) :
    cutShort history scope = 0 := by
  refine List.countP_eq_zero.mpr fun moment member cut => ?_
  cases event : moment.event with
  | submitted target panicked =>
    obtain ⟨thread, submits⟩ := Moment.submits_of_event event
    obtain ⟨placed, fine⟩ := moment.before.submit_isOk (named moment member) thread target
    simp only [Moment.event, submits, fine, Event.submitted.injEq, true_and] at event
    rw [Moment.event, submits] at cut
    simp [Event.cutsShort, fine] at cut
  | _ => simp [Event.cutsShort, event] at cut

namespace System

/-- What the counters of a scope say after a run. -/
structure Accounts (system : System) (history : List Moment) (scope : ScopeId) : Prop where
  dispatched : (system.scope scope).dispatched = submissions history scope
  placed : (system.scope scope).pooled + (system.scope scope).inlined + cutShort history scope =
    (system.scope scope).dispatched
  /-- Where helpers can be given their names, every logic is placed. -/
  allPlaced : (∀ moment ∈ history, ∀ pool ∈ moment.before.pools, Pool.isStem pool.nameStem = true) →
    (system.scope scope).pooled + (system.scope scope).inlined = (system.scope scope).dispatched
  logics : system.works.countP (·.isOf scope) + cutShort history scope = (system.scope scope).dispatched
  /-- A logic that is over has been counted, unless a panic has unwound its end. -/
  completed : (system.scope scope).completed +
      (system.works.countP fun work => work.isOf scope && work.isOver && work.unwound) =
    system.works.countP fun work => work.isOf scope && work.isOver
  completed_le : (system.scope scope).completed ≤ (system.scope scope).dispatched
  /-- A logic that is about to be counted as over has its failure recorded already. -/
  failures : (system.works.countP fun work => work.isOf scope && work.isOver && work.failed) +
      (system.works.countP fun work => work.isOf scope && work.isEnding && work.failed) =
    (system.scope scope).suppressed +
      if (system.scope scope).firstFailure.isSome || handedOut history scope then 1 else 0

/-- How an action treats a scope. -/
structure Respects (system : System) (action : Action) (scope : ScopeId) : Prop where
  state : (system.scope scope).state.Moves ((system.perform action).scope scope).state
  /-- A logic is submitted to a scope that accepts it. -/
  submit : ∀ thread, action = .submit thread scope → (system.scope scope).state = .accepting
  /-- The end of a logic is unwound if its failure is a later one, and panics when it is dropped. -/
  recorded : ∀ thread work outcome, action = .endLogic thread outcome → system.currentWork? thread = some work →
    (system.work work).kind = .logic scope →
      ((system.perform action).scope scope).completed = (system.scope scope).completed ∧
      ((system.perform action).work work).unwound = (system.scope scope).unwindsOn outcome
  /-- A logic is counted as over while it is missing from the count, unless its end was unwound. -/
  complete : ∀ thread work, action = .complete thread → system.currentWork? thread = some work →
    (system.work work).kind = .logic scope →
      ((system.perform action).scope scope).completed =
        (system.scope scope).completed + (!(system.work work).unwound).toNat ∧
      (system.scope scope).completed + 1 ≤ (system.scope scope).dispatched
  /-- What the logics of other scopes come to leaves the scope as it is. -/
  foreign : ∀ thread work outcome,
    action = .endLogic thread outcome ∨ action = .vacate thread ∨ action = .complete thread →
    system.currentWork? thread = some work → (system.work work).kind ≠ .logic scope →
      (system.perform action).scope scope = system.scope scope

variable {system : System} {events : List Event} {history : List Moment} {scope : ScopeId}

/-- The failures of a scope are those of its logics that are over, and of those about to be. -/
private theorem countP_hasFailed (works : List Work) (scope : ScopeId) :
    (works.countP fun work => work.isOf scope && work.hasFailed) =
      (works.countP fun work => work.isOf scope && work.isOver && work.failed) +
        works.countP fun work => work.isOf scope && work.isEnding && work.failed := by
  refine countP_split fun work _ => ?_
  simp only [Work.hasFailed, Work.isOver, Work.isEnding]
  cases work.isOf scope <;> cases work.failed <;> cases work.phase <;> rfl

/-- The logics of a scope that are over are those that it has counted, and those whose end was unwound. -/
private theorem countP_isOver (works : List Work) (scope : ScopeId) :
    (works.countP fun work => work.isOf scope && work.isOver) =
      (works.countP fun work => work.isOf scope && work.isCounted) +
        works.countP fun work => work.isOf scope && work.isOver && work.unwound := by
  refine countP_split fun work _ => ?_
  simp only [Work.isCounted, Work.isOver]
  cases work.isOf scope <;> cases work.phase == .over <;> cases work.unwound <;> rfl

theorem Accounts.of_sound (sound : system.picture.Sound (history.map Moment.event)) :
    system.Accounts history scope := by
  have ledger : (system.scope scope).Balanced scope system.works (history.map Moment.event) := sound.ledger scope
  have submitted := ledger.dispatched
  have counted := ledger.counted
  have failures := ledger.failures
  rw [List.countP_map] at submitted counted failures
  have placed : (system.scope scope).pooled + (system.scope scope).inlined + cutShort history scope =
      (system.scope scope).dispatched := by
    rw [ledger.placed]
    exact counted
  constructor
  case dispatched => exact submitted
  case placed => exact placed
  case allPlaced =>
    intro named
    rw [← placed, cutShort_eq_zero named, Nat.add_zero]
  case logics => exact counted
  case completed => rw [countP_isOver, ledger.completed]
  case completed_le => exact ledger.completed_le
  case failures =>
    rw [← countP_hasFailed, failures, Nat.add_assoc, Nat.add_left_cancel_iff]
    have once := ledger.once
    have out : handedOut history scope = decide (0 < history.countP (Event.handsOut scope ∘ Moment.event)) := by
      rw [Bool.eq_iff_iff, decide_eq_true_eq, List.countP_pos_iff, handedOut, List.any_eq_true]
      rfl
    rw [List.countP_map] at once
    cases stored : (system.scope scope).firstFailure with
    | none =>
      rw [out]
      by_cases some_out : 0 < history.countP (Event.handsOut scope ∘ Moment.event)
      · simp only [some_out, decide_true, Option.isSome_none, Bool.false_or, ↓reduceIte, Bool.toNat_false]
        omega
      · simp only [some_out, decide_false, Option.isSome_none, Bool.or_self, Bool.false_eq_true, ↓reduceIte,
          Bool.toNat_false]
        omega
    | some failure =>
      have open_yet : (system.scope scope).state ≠ .closed := fun closed => by
        rw [ledger.stored closed] at stored
        exact absurd stored (by simp)
      have none_out := ledger.handed open_yet
      rw [List.countP_map] at none_out
      rw [none_out]
      rfl

/-! ## What an action does to a scope -/

theorem scopes_endProgram (thread : ThreadId) : (system.endProgram thread).scopes = system.scopes := by
  rw [endProgram]
  split <;> rfl

theorem scope_endProgram (thread : ThreadId) (scope : ScopeId) :
    (system.endProgram thread).scope scope = system.scope scope := by
  rw [System.scope, scopes_endProgram]
  rfl

theorem works_endProgram (thread : ThreadId) : (system.endProgram thread).works = system.works := by
  rw [endProgram]
  split <;> rfl

theorem work_endProgram (thread : ThreadId) (work : WorkId) :
    (system.endProgram thread).work work = system.work work := by
  rw [System.work, works_endProgram]
  rfl

theorem works_endLogic {thread : ThreadId} {work : WorkId} (current : system.currentWork? thread = some work)
    (outcome : Except Failure.TaskError Unit) : (system.perform (.endLogic thread outcome)).works =
      system.works.modify work
        ({ · with phase := .recorded, failed := !outcome.isOk, unwound := system.unwindsOn work outcome }) := by
  simp only [perform, withCurrentWork, current, Option.elim_some, recordOutcome]
  split <;> (cases outcome <;> exact congrArg (List.modify · work _) (works_endProgram thread))

theorem scope_vacate (work : WorkId) (scope : ScopeId) : (system.vacate work).scope scope = system.scope scope := by
  simp only [vacate]
  split <;> rfl

theorem scope_modifyScope_of_ne {target : ScopeId} (ne : scope ≠ target) (change : Scope → Scope) :
    (system.modifyScope target change).scope scope = system.scope scope := by
  rw [scope_modifyScope, if_neg fun both => ne both.1]

/-- An outcome is recorded in the scope of its logic and in no other. -/
theorem scope_recordOutcome {work : WorkId} (foreign : (system.work work).kind ≠ .logic scope)
    (outcome : Except Failure.TaskError Unit) (unwound : Bool) :
    (system.recordOutcome work outcome unwound).scope scope = system.scope scope := by
  cases kind : (system.work work).kind with
  | job => simp only [recordOutcome, kind]; rfl
  | logic target =>
    have ne : scope ≠ target := fun same => foreign (by rw [kind, same])
    simp only [recordOutcome, kind]
    exact scope_modifyScope_of_ne ne _

/-- A logic is counted by its scope and by no other. -/
theorem scope_completeWork {work : WorkId} (foreign : (system.work work).kind ≠ .logic scope) :
    (system.completeWork work).scope scope = system.scope scope := by
  cases kind : (system.work work).kind with
  | job => simp only [completeWork, kind]; rfl
  | logic target =>
    have ne : scope ≠ target := fun same => foreign (by rw [kind, same])
    simp only [completeWork, kind]
    exact scope_modifyScope_of_ne ne _

theorem Respects.of_sound (sound : system.picture.Sound events) {action : Action} (enabled : system.Enabled action)
    (scope : ScopeId) : system.Respects action scope where
  state := (step_perform sound enabled).moves sound.tenancy scope
  submit := by
    rintro thread rfl
    obtain ⟨running, owns, -⟩ := enabled
    obtain ⟨activation, others, top, busy⟩ := innermost_of_isRunning running
    exact (sound.tenancy.accepting top.crew_eq busy.staying (top.contexts_pos owns)).1
  recorded := by
    rintro thread work outcome rfl current kind
    obtain ⟨activation, others, ended, -, running, role, same, -⟩ := canEnd_cases enabled
    obtain rfl := Option.some.inj (current.symm.trans same)
    have there : work < system.works.length := Picture.lt_of_phase (by rw [running.running work role]; simp)
    constructor
    · have bound : scope < (system.endProgram thread).scopes.length := by
        rw [scopes_endProgram]
        exact lt_of_parent ((sound.ledger scope).entered _ (List.mem_of_getElem? (system.works_getElem? there)) kind)
      have kind' : ((system.endProgram thread).work work).kind = .logic scope := by rw [work_endProgram, kind]
      have performed : (system.perform (.endLogic thread outcome)).scope scope =
          ((system.endProgram thread).modifyScope scope (·.record outcome)).scope scope := by
        simp only [perform, withCurrentWork, current, Option.elim_some, recordOutcome, kind']
        rfl
      obtain ⟨_, _, recorded⟩ := (system.scope scope).record_rest outcome
      rw [performed, scope_modifyScope, if_pos ⟨rfl, bound⟩, scope_endProgram, recorded]
    · rw [System.work, works_endLogic current, read_modify, if_pos ⟨rfl, there⟩]
      exact system.unwindsOn_logic kind outcome
  complete := by
    rintro thread work rfl current kind
    obtain ⟨-, -, ended, -, -, same, vacated⟩ := isEnding_cases enabled
    obtain rfl := Option.some.inj (current.symm.trans same)
    have present : system.works[work]? = some (system.work work) :=
      Picture.works_getElem? (Picture.lt_of_phase
        (by rw [show (system.picture.work work).phase = _ from vacated]; simp))
    have ledger := sound.ledger scope
    have bound := lt_of_parent (ledger.entered _ (List.mem_of_getElem? present) kind)
    have unfinished : (system.work work).isCounted = false := by rw [Work.isCounted, vacated]; rfl
    refine ⟨?_, ledger.completed_lt present kind unfinished⟩
    have performed : (system.perform (.complete thread)).scope scope =
        (system.modifyScope scope (·.countOver (system.work work).unwound)).scope scope := by
      simp only [perform, withCurrentWork, current, Option.elim_some, completeWork, kind]
      rfl
    rw [performed, scope_modifyScope, if_pos ⟨rfl, bound⟩, Scope.countOver_eq]
  foreign := by
    rintro thread work outcome ends current other
    rcases ends with rfl | rfl | rfl
    · simp only [perform, withCurrentWork, current, Option.elim_some]
      rw [scope_recordOutcome (by rwa [work_endProgram]), scope_endProgram]
    · simp only [perform, withCurrentWork, current, Option.elim_some]
      exact scope_vacate work scope
    · simp only [perform, withCurrentWork, current, Option.elim_some]
      exact scope_completeWork other

end System

/-- At every point of every run the counters of a scope balance, and every action that is then possible
keeps the order of the scope's life. -/
theorem scope_accounting {setting : Setting.State} {history : List Moment} {system : System}
    (reached : Reaches (.initial setting) history system) (scope : ScopeId) :
    system.Accounts history scope ∧ ∀ action, system.Enabled action → system.Respects action scope :=
  ⟨.of_sound reached.sound, fun _ enabled => .of_sound reached.sound enabled scope⟩

/-- Two logics of one scope fail, one on a helper and one inline; the second has entered a scope of its
own, whose only logic fails as well. -/
def nestedFailures : List Action :=
  let failed : Except Failure.TaskError Unit := .error (.failed (.text "out of luck"))
  [.makePool 1 {}, .makeRoot 0 1, .enterIn 0 0 (.owned "outer"), .submit 0 1, .submit 0 1,
    .enter 0 (.owned "inner"), .submit 0 2, .endLogic 0 failed, .vacate 0, .complete 0,
    .beginExit 0 2, .leave 0, .endLogic 0 failed, .vacate 0, .complete 0,
    .endLogic 1 failed, .vacate 1, .complete 1, .beginDrop 0 1, .leave 0]

theorem scope_accounting_nestedFailures :
    let first := System.initial { hardware := 1 }
    let system := first.performAll nestedFailures
    Reaches first (first.moments [] nestedFailures) system ∧
      system.Accounts (first.moments [] nestedFailures) 1 ∧
      (system.scope 1).dispatched = 2 ∧ (system.scope 1).completed = 2 ∧ (system.scope 1).suppressed = 1 := by
  have allowed : (System.initial { hardware := 1 }).allows nestedFailures = true := by decide
  have reached := Reaches.start.performAll allowed
  exact ⟨reached, (scope_accounting reached 1).1, by decide, by decide, by decide⟩

/-- The first helper of a pool cannot be given its name, which would have a zero byte. The logic for which it was to
be started is counted as submitted before that panics; the context is dropped then. -/
def unnameable : List Action :=
  [.makePool 1 { nameStem := "a\x00b" }, .makeRoot 0 1, .enterIn 0 0 (.owned "scope"), .submit 0 1, .beginDrop 0 1]

/-- The logic was submitted, and it ran neither on a helper nor inline. -/
theorem logic_unplaced_unnameable :
    let first := System.initial { hardware := 1 }
    let system := first.performAll unnameable
    Reaches first (first.moments [] unnameable) system ∧ (system.scope 1).dispatched = 1 ∧
      (system.scope 1).pooled + (system.scope 1).inlined = 0 := by
  have allowed : (System.initial { hardware := 1 }).allows unnameable = true := by decide
  exact ⟨Reaches.start.performAll allowed, by decide, by decide⟩

/-- Two logics of one scope fail on helpers. The scope keeps the first failure; the second one is a panic whose payload
panics when it is dropped. -/
def volatileSecond : List Action :=
  [.makePool 2 {}, .makeRoot 0 2, .enterIn 0 0 (.owned "scope"), .submit 0 1, .submit 0 1,
    .endLogic 1 (.error (.failed (.text "out of luck"))), .vacate 1, .complete 1, .next ⟨0, 0⟩,
    .endLogic 2 (.error (.panicked { message := "out of luck", cell := 0, volatile := true })), .vacate 2, .complete 2,
    .next ⟨0, 1⟩, .beginDrop 0 1]

/-- Both logics are over, the second failure has been counted as suppressed, and one logic counts as over. -/
theorem logic_uncounted_volatileSecond :
    let first := System.initial { hardware := 1 }
    let system := first.performAll volatileSecond
    Reaches first (first.moments [] volatileSecond) system ∧
      (∀ work ∈ system.works, work.isOf 1 = true ∧ work.isOver = true) ∧ (system.scope 1).dispatched = 2 ∧
      (system.scope 1).suppressed = 1 ∧ (system.scope 1).completed = 1 := by
  have allowed : (System.initial { hardware := 1 }).allows volatileSecond = true := by decide
  exact ⟨Reaches.start.performAll allowed, by decide, by decide, by decide, by decide⟩

end ScopedWork
