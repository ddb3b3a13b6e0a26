import ScopedWork.Proofs.Shelves
import ScopedWork.Proofs.Whereabouts

/-! # Stacks that are lent to helpers

A helper runs a logic under the stack that the submitter had when it submitted the logic, however long the logic has
waited and whatever the submitter has done to its stack since. Its own stack it sets aside. The submitter's stays as it
is, as does that of every thread that does not act itself.
-/

namespace ScopedWork

def Action.actor? : Action → Option ThreadId
  | .enter thread _ | .enterIn thread _ _ | .submit thread _ | .beginExit thread _ | .beginDrop thread _ | .leave thread
  | .attach thread _ | .detach thread | .acquire thread _ _ _ | .dropLease thread _ | .passLease thread _ _
  | .dispatch thread _ | .free thread | .endLogic thread _ | .endJob thread | .vacate thread | .complete thread
  | .start thread _ _ | .finish thread => some thread
  | .reduce .. | .next _ | .die _ | .makePool .. | .dropPool _ | .bar .. | .makeRoot .. | .makeFactory _
  | .reroute .. | .register _ | .configure _ => none

def Stride.actor? : Stride → Option ThreadId
  | .act action => action.actor?
  | .edit thread _ | .stack thread _ | .registry thread _ | .ask thread => some thread

/-- A logic of a scope is submitted, and gets this number. -/
structure Pace.Submits (pace : Pace) (work : WorkId) (scope : ScopeId) (submitter : ThreadId) : Prop where
  stride : pace.stride = .act (.submit submitter scope)
  new : work = pace.before.works.length

namespace System

variable {system : System} {events : List Event} {action : Action} {stride : Stride} {thread id helper : ThreadId}
  {work : WorkId} {scope : ScopeId} {setting : Setting.State} {history : List Pace}

/-! ## Other threads -/

theorem opened_of_ne (ne : action.actor? ≠ some id) (opened : List ScopeId) :
    Moment.opened ⟨system, action⟩ id opened = opened := by
  cases action with
  | enter other | enterIn other | leave other => exact if_neg fun same => ne (congrArg some same)
  | _ => rfl

theorem actor?_of_sender? (sends : action.sender? = some id) : action.actor? = some id := by
  cases action with
  | submit | dispatch => exact sends
  | _ => exact absurd sends.symm (Option.some_ne_none id)

/-- An action leaves the stacks of every other thread that runs something. -/
theorem apart_perform (regular : system.Regular) (enabled : system.Enabled action)
    (active : (system.thread id).activations ≠ []) (ne : action.actor? ≠ some id) :
    (system.perform action).stack id = system.stack id ∧ (system.perform action).shelf id = system.shelf id := by
  have turn := regular.turn enabled id
  rw [shelf, shelf]
  generalize ((system.perform action).thread id).activations = later at turn
  generalize (system.perform action).stack id = stack at turn
  cases turn with
  | rest => exact ⟨rfl, rfl⟩
  | trade chain | wait chain => exact ⟨rfl, by rw [chain]; rfl⟩
  | enter _ _ opens => exact absurd ((opened_of_ne ne []).symm.trans (opens [])).symm (List.cons_ne_nil _ _)
  | leave _ acts | attach _ acts | detach _ acts | pop _ acts | finish _ acts => exact absurd (acts ▸ rfl) ne
  | begin _ _ _ _ _ sends => exact absurd (actor?_of_sender? sends) ne
  | close _ ends => rcases ends with ⟨outcome, rfl⟩ | rfl <;> exact absurd rfl ne
  | fade idle | take idle | start idle => exact absurd idle active

theorem apart_follow (regular : system.Regular) (admitted : system.Admits stride)
    (active : (system.thread id).activations ≠ []) (ne : stride.actor? ≠ some id) :
    (system.follow stride).stack id = system.stack id ∧ (system.follow stride).shelf id = system.shelf id := by
  have unseen {after : System} (view : after.thread id = system.thread id) :
      after.stack id = system.stack id ∧ after.shelf id = system.shelf id :=
    ⟨congrArg Thread.stack view, congrArg (fun thread => thread.activations.flatMap Activation.saved) view⟩
  have edits {thread : ThreadId} (ne : some thread ≠ some id) (stack : Stack) :
      (system.setStack thread stack).thread id = system.thread id :=
    thread_modifyThread_of_ne (fun same => ne (congrArg some same.symm)) _
  cases stride with
  | act action => exact apart_perform regular admitted active ne
  | edit thread edit => exact unseen (edits ne _)
  | stack thread act =>
    have restacks := system.restacks thread act
    change (act.perform system thread).2.stack id = _ ∧ (act.perform system thread).2.shelf id = _
    generalize (act.perform system thread).2 = after at restacks
    cases restacks with
    | still | share | drop => exact ⟨rfl, rfl⟩
    | edit edit => exact unseen (edits ne _)
  | registry thread act => exact unseen (thread_of_threads (quiet_registry thread act).threads id)
  | ask thread => exact unseen (thread_of_threads (quiet_enclosing thread).threads id)

/-! ## What a logic that waits is to see -/

/-- A logic that waits is to run under the stack its submitter had as it submitted it, and is awaited there. -/
structure Remembers (system : System) (history : List Pace) (work : WorkId) (scope : ScopeId) : Prop where
  submitted : ∃ pace ∈ history, pace.Submits work scope (system.work work).submitter ∧
    (system.work work).snapshot = some (pace.before.stack (system.work work).submitter)
  awaited : HasContext (system.thread (system.work work).submitter).activations scope

theorem Remembers.perform (regular : system.Regular) (enabled : system.Enabled action)
    (before : ∀ {work scope}, (system.work work).kind = .logic scope → (system.work work).phase = .waiting →
      system.Remembers history work scope)
    (kind : ((system.perform action).work work).kind = .logic scope)
    (waits : ((system.perform action).work work).phase = .waiting) :
    (system.perform action).Remembers (⟨system, .act action⟩ :: history) work scope := by
  obtain ⟨events, sound⟩ := regular.sound
  have assigns := assigns_perform sound enabled
  by_cases old : work < system.works.length
  · have same := (assigns.keeps old).same
    obtain ⟨waited, snapshot⟩ := (assigns.ages old).waiting waits
    have kind := same.kind.symm.trans kind
    obtain ⟨⟨pace, member, submits, seen⟩, awaited⟩ := before kind waited
    refine ⟨?_, ?_⟩
    · rw [same.submitter, snapshot]
      exact ⟨pace, List.mem_cons_of_mem _ member, submits, seen⟩
    · rw [same.submitter]
      exact (regular.turn enabled _).hasContext sound enabled awaited fun _ =>
        unsettled_of_fresh sound kind (by rw [waited]; rfl)
  · obtain ⟨rfl, arrives⟩ := assigns.arrives old (lt_of_kind kind)
    cases arrives with
    | inline _ _ _ _ runs => exact WorkPhase.noConfusion (waits.symm.trans runs)
    | sent _ _ _ _ _ _ asked fresh =>
      obtain ⟨thread, rfl, submitter, -⟩ := asked scope kind
      rcases fresh with runs | ⟨-, saw⟩
      · exact WorkPhase.noConfusion (waits.symm.trans runs)
      · obtain ⟨other, same, seen⟩ := saw scope kind
        obtain ⟨rfl, -⟩ := Action.submit.inj same
        refine ⟨?_, ?_⟩
        · rw [submitter]
          exact ⟨_, List.mem_cons_self, ⟨rfl, rfl⟩, seen⟩
        · rw [submitter]
          exact (regular.turn enabled thread).hasContext sound enabled (hasContext_of_submit enabled) Action.noConfusion

theorem Remembers.mild {after : System} {pace : Pace} (mild : system.Mild after)
    (before : ∀ {work scope}, (system.work work).kind = .logic scope → (system.work work).phase = .waiting →
      system.Remembers history work scope)
    (kind : (after.work work).kind = .logic scope) (waits : (after.work work).phase = .waiting) :
    after.Remembers (pace :: history) work scope := by
  have same := mild.work work
  rw [same] at kind waits
  obtain ⟨⟨earlier, member, submits⟩, awaited⟩ := before kind waits
  refine ⟨?_, ?_⟩
  · rw [same]
    exact ⟨earlier, List.mem_cons_of_mem _ member, submits⟩
  · rw [same, mild.activations]
    exact awaited

theorem remembers (reached : Proceeds (.initial setting) history system)
    (kind : (system.work work).kind = .logic scope) (waits : (system.work work).phase = .waiting) :
    system.Remembers history work scope := by
  induction reached generalizing work scope with
  | start => exact absurd (lt_of_kind kind) (Nat.not_lt_zero work)
  | @step history system stride reached admitted ih =>
    cases stride with
    | act action => exact .perform (reached.regular (regular_initial setting)) admitted ih kind waits
    | edit | stack | registry | ask => exact .mild (mild_follow fun _ same => Stride.noConfusion same) ih kind waits

/-! ## A helper begins a logic -/

/-- A work whose program has ended does not begin again. -/
theorem stays_ended (sound : system.picture.Sound events) (enabled : system.Enabled action)
    (active : (system.work work).phase.isActive = true) (ended : (system.work work).phase ≠ .running) :
    ((system.perform action).work work).phase ≠ .running := by
  intro running
  have ages := (assigns_perform sound enabled).ages (lt_of_hasBegun (WorkPhase.hasBegun_of_isActive active))
  rcases ages.running running with runs | waits
  · exact ended runs
  · rw [waits] at active
    exact Bool.noConfusion active

/-- A work that a helper begins is begun by a helper with nothing to run. -/
theorem Turn.takes {shown : Stack} {later : List Activation} {activation : Activation}
    (turn : system.Turn action id shown later) (sound : system.picture.Sound events)
    (fresh : (system.work work).phase.isActive = false) (member : activation ∈ later)
    (role : activation.role = .work work) (placed : ((system.perform action).work work).placement = .helper helper) :
    id = helper ∧ (system.thread id).activations = [] ∧ ∃ snapshot, system.Hands action work snapshot ∧
      later = [begun work (snapshot.elim [] fun _ => [system.stack id])] ∧
        shown = snapshot.getD (system.stack id) := by
  have absent {one : Activation} (there : one ∈ (system.thread id).activations) : one.role ≠ .work work :=
    fun role => Bool.false_ne_true (fresh.symm.trans (isActive_of_mem sound there role))
  cases turn with
  | rest => exact absurd role (absent member)
  | trade chain | enter chain | wait chain | leave chain | attach chain | detach chain | close chain =>
    rcases List.mem_cons.mp member with rfl | below
    · have other := absent (chain ▸ List.mem_cons_self)
      exact absurd role other
    · exact absurd role (absent (chain ▸ List.mem_cons_of_mem _ below))
  | begin chain _ _ _ _ _ _ apart =>
    rcases List.mem_cons.mp member with rfl | below
    · obtain rfl := Role.work.inj role
      exact absurd placed (apart helper)
    · rcases List.mem_cons.mp below with rfl | deep
      · have other := absent (chain ▸ List.mem_cons_self)
        exact absurd role other
      · exact absurd role (absent (chain ▸ List.mem_cons_of_mem _ deep))
  | pop chain => exact absurd role (absent (chain ▸ List.mem_cons_of_mem _ member))
  | finish | fade => exact absurd member List.not_mem_nil
  | take idle there hands =>
    obtain rfl := List.mem_singleton.mp member
    obtain rfl := Role.work.inj role
    exact ⟨Placement.helper.inj (there.symm.trans placed), idle, _, hands, rfl, rfl⟩
  | start =>
    obtain rfl := List.mem_singleton.mp member
    exact Role.noConfusion role

/-- A logic that is handed to a helper has been submitted, just now or earlier, by a thread that runs something. -/
theorem Hands.submitted {snapshot : Option Stack} (hands : system.Hands action work snapshot)
    (reached : Proceeds (.initial setting) history system) (enabled : system.Enabled action)
    (kind : ((system.perform action).work work).kind = .logic scope) :
    ∃ pace ∈ ⟨system, .act action⟩ :: history, ∃ submitter, pace.Submits work scope submitter ∧
      (system.thread submitter).activations ≠ [] ∧ snapshot = some (pace.before.stack submitter) := by
  obtain ⟨events, sound⟩ := (reached.regular (regular_initial setting)).sound
  have assigns := assigns_perform sound enabled
  have arrived (new : work = system.works.length) :=
    (assigns.arrives (Nat.not_lt.mpr (Nat.le_of_eq new.symm)) (lt_of_kind kind)).2
  cases hands with
  | @logic thread other submits =>
    subst submits
    obtain rfl : other = scope := by
      cases arrived rfl with
      | inline submits own =>
        obtain ⟨-, rfl⟩ := Action.submit.inj submits
        exact WorkKind.logic.inj (own.symm.trans kind)
      | sent _ _ _ _ _ _ asked =>
        obtain ⟨_, submits, -⟩ := asked scope kind
        exact (Action.submit.inj submits).2
    obtain ⟨_, _, chain⟩ := chain_of_isRunning enabled.1
    exact ⟨_, List.mem_cons_self, thread, ⟨rfl, rfl⟩, active_of_chain chain, rfl⟩
  | job dispatches =>
    subst dispatches
    cases arrived rfl with
    | inline submits => exact Action.noConfusion submits
    | sent _ _ _ _ _ _ asked =>
      obtain ⟨_, submits, -⟩ := asked scope kind
      exact Action.noConfusion submits
  | waiting turns waiting =>
    have waits : (system.work work).phase = .waiting := (sound.channels.waits _ work waiting).phase
    have old : work < system.works.length := by
      refine lt_of_work (p := fun work => work.station ≠ none) ?_ fun missing => missing rfl
      rw [show (system.work work).station = _ from (sound.channels.waits _ work waiting).place]
      exact Option.some_ne_none _
    obtain ⟨⟨pace, member, submits, seen⟩, awaited⟩ :=
      remembers reached ((assigns.keeps old).same.kind.symm.trans kind) waits
    exact ⟨pace, List.mem_cons_of_mem _ member, _, submits, awaited.ne_nil, seen⟩

/-- With a stride, a helper begins a logic. -/
structure Begins (system : System) (stride : Stride) (helper : ThreadId) (work : WorkId) (scope : ScopeId) : Prop where
  admitted : system.Admits stride
  kind : ((system.follow stride).work work).kind = .logic scope
  fresh : (system.work work).phase ≠ .running
  runs : ((system.follow stride).work work).phase = .running
  placed : ((system.follow stride).work work).placement = .helper helper

/-- A helper that ran nothing runs a logic, with its own stack set aside, under the stack that another thread had as it
submitted the logic. -/
structure Lends (system : System) (history : List Pace) (after : System) (helper : ThreadId) (work : WorkId)
    (scope : ScopeId) : Prop where
  idle : (system.thread helper).activations = []
  aside : (after.thread helper).activations = [begun work [system.stack helper]]
  lent : ∃ pace ∈ history, ∃ submitter, pace.Submits work scope submitter ∧ submitter ≠ helper ∧
    after.stack helper = pace.before.stack submitter

theorem lends (reached : Proceeds (.initial setting) history system) (begins : system.Begins stride helper work scope) :
    system.Lends (⟨system, stride⟩ :: history) (system.follow stride) helper work scope := by
  obtain ⟨admitted, kind, fresh, runs, placed⟩ := begins
  have unseen (other : ∀ action, stride ≠ .act action) : (system.follow stride).work work = system.work work :=
    (mild_follow other).work work
  cases stride with
  | edit | stack | registry | ask =>
    exact absurd ((congrArg Work.phase (unseen fun _ => Stride.noConfusion)).symm.trans runs) fresh
  | act action =>
    have regular := reached.regular (regular_initial setting)
    obtain ⟨events, sound⟩ := regular.sound
    have idled : (system.work work).phase.isActive = false := by
      by_contra active
      rw [Bool.not_eq_false] at active
      exact stays_ended sound admitted active fresh runs
    have active : ((system.perform action).work work).phase.isActive = true := by
      rw [show ((system.perform action).work work).phase = .running from runs]
      rfl
    obtain ⟨id, activation, member, role⟩ := exists_runner (sound.step (step_perform sound admitted)) active
    obtain ⟨rfl, idle, snapshot, hands, chain, shown⟩ :=
      (regular.turn admitted id).takes sound idled member role placed
    obtain ⟨pace, paced, submitter, submits, busy, rfl⟩ := hands.submitted reached admitted kind
    refine ⟨idle, chain, pace, paced, submitter, submits, ?_, shown⟩
    rintro rfl
    exact busy idle

end System

end ScopedWork
