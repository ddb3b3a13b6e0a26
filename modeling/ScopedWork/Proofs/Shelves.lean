import ScopedWork.Proofs.Strides

/-! # Stacks that are set aside

A thread that attaches a snapshot sets its stack aside, and so does one that begins a logic under the stack of its
submitter. It has its stack back once it detaches the snapshot, or once the program ends during which it was set
aside, however that ends. Over all that a thread runs, the stacks that are set aside make a stack of their own.
-/

namespace ScopedWork

/-- What can become of a stack and of those that are set aside, latest first. -/
inductive Stack.Becomes (stack : Stack) (shelf : List Stack) : Stack → List Stack → Prop
  | still : Becomes stack shelf stack shelf
  | edited (edit : Stack.Edit) : Becomes stack shelf (stack.edit edit) shelf
  | setAside (later : Stack) : Becomes stack shelf later (stack :: shelf)
  /-- One of them comes back, and those that were set aside after it are no longer needed. -/
  | restored {newer older : List Stack} {back : Stack} (held : shelf = newer ++ back :: older) :
    Becomes stack shelf back older

namespace Stack.Becomes

variable {stack later back : Stack} {shelf rest bottom below : List Stack}

/-- What is at the bottom stays there until it comes back. -/
theorem keeps (becomes : stack.Becomes shelf later rest) (there : bottom <:+ shelf)
    (level : bottom.length ≤ rest.length) : bottom <:+ rest := by
  cases becomes with
  | still | edited => exact there
  | setAside => exact there.trans (List.suffix_cons _ _)
  | restored held =>
    have kept : rest <:+ shelf := ⟨_, by rw [held, List.append_cons]⟩
    exact List.suffix_of_suffix_length_le there kept level

/-- Whatever is dropped together with it, the stack comes back over which nothing is left to come back. -/
theorem returns (becomes : stack.Becomes shelf later rest) (there : back :: below <:+ shelf)
    (level : rest.length = below.length) : later = back ∧ rest = below := by
  have longer := there.length_le
  rw [List.length_cons] at longer
  cases becomes with
  | still | edited => exact absurd longer (by omega)
  | setAside =>
    rw [List.length_cons] at level
    exact absurd longer (by omega)
  | restored held =>
    have kept : later :: rest <:+ shelf := ⟨_, held.symm⟩
    have same : (later :: rest).length = (back :: below).length := congrArg Nat.succ level
    exact List.cons.inj ((List.suffix_of_suffix_length_le kept there (Nat.le_of_eq same)).eq_of_length same)

end Stack.Becomes

namespace System

variable {system : System} {events : List Event} {action : Action} {thread id : ThreadId}
  {activation top : Activation} {outer : List Activation} {work : WorkId}

/-- The stacks that a thread has set aside, latest first. -/
def shelf (system : System) (thread : ThreadId) : List Stack :=
  (system.thread thread).activations.flatMap Activation.saved

/-- No work whose program has ended has a stack set aside. -/
def Cleared (system : System) : Prop :=
  ∀ id, ∀ activation ∈ (system.thread id).activations, ∀ work, activation.role = .work work →
    (system.work work).phase ≠ .running → activation.saved = []

theorem shelf_of_chain (chain : (system.thread thread).activations = activation :: outer) :
    system.shelf thread = activation.saved ++ outer.flatMap Activation.saved := by
  rw [shelf, chain, List.flatMap_cons]

/-! ## Who runs a work -/

/-- What a thread runs innermost is run nowhere else. -/
theorem only_innermost (sound : system.picture.Sound events) (chain : (system.thread thread).activations = top :: outer)
    (role : top.role = .work work) (member : activation ∈ (system.thread id).activations)
    (same : activation.role = .work work) : id = thread ∧ activation ∉ outer := by
  obtain ⟨first, others, inner⟩ := exists_innermost (active_of_chain chain)
  obtain rfl := inner.eq_of_chain chain
  have elsewhere {other : ThreadId} (there : activation ∈ ((system.popActivation thread).thread other).activations) :
      False := (sound.running.alone inner.crew_eq role).2 activation (inner.pop ▸ mem_crew_of_mem there) same
  have popped (other : ThreadId) := @thread_of_modify system (system.popActivation thread) thread _
    (active_of_chain chain) rfl other
  constructor
  · by_contra ne
    refine @elsewhere id ?_
    rw [popped, if_neg ne]
    exact member
  · intro below
    refine @elsewhere thread ?_
    rw [popped, if_pos rfl, chain]
    exact below

/-- The end of a program leaves its stacks that are set aside behind. -/
theorem thread_of_ended (enabled : system.Enabled action) (ends : action.ender? = some thread) :
    ∃ activation outer work, (system.thread thread).activations = activation :: outer ∧
      activation.role = .work work ∧
      system.currentWork? thread = some work ∧ (system.perform action).stack thread =
        activation.saved.getLast?.getD (system.stack thread) ∧
      ((system.perform action).thread thread).activations = { activation with saved := [] } :: outer := by
  have view {work : WorkId} {activation : Activation} {outer : List Activation}
      (chain : (system.thread thread).activations = activation :: outer) (role : activation.role = .work work)
      (current : system.currentWork? thread = some work)
      (threads : (system.perform action).threads = (system.endProgram thread).threads) :
      ∃ activation outer work, (system.thread thread).activations = activation :: outer ∧
        activation.role = .work work ∧
        system.currentWork? thread = some work ∧ (system.perform action).stack thread =
          activation.saved.getLast?.getD (system.stack thread) ∧
        ((system.perform action).thread thread).activations = { activation with saved := [] } :: outer := by
    refine ⟨activation, outer, work, chain, role, current, ?_⟩
    rw [System.stack, thread_of_threads threads, thread_endProgram chain, if_pos rfl]
    exact ⟨rfl, rfl⟩
  cases action with
  | endLogic other outcome =>
    obtain rfl := Option.some.inj ends
    obtain ⟨activation, others, work, inner, -, role, current, -⟩ := canEnd_cases enabled
    obtain ⟨outer, chain⟩ := inner.chain
    refine view chain role current ?_
    simp only [perform, withCurrentWork, current, Option.elim_some, recordOutcome]
    split <;> rfl
  | endJob other =>
    obtain rfl := Option.some.inj ends
    obtain ⟨activation, others, work, inner, -, role, current, -⟩ := canEnd_cases enabled
    obtain ⟨outer, chain⟩ := inner.chain
    refine view chain role current ?_
    simp only [perform, withCurrentWork, current, Option.elim_some]
    exact threads_vacate work
  | _ => exact absurd ends.symm (Option.some_ne_none thread)

theorem phase_of_ended (enabled : system.Enabled action) (ends : action.ender? = some thread)
    (current : system.currentWork? thread = some work) : ((system.perform action).work work).phase ≠ .running := by
  have changed {change : Work → Work} (works : (system.perform action).works = system.works.modify work change)
      (ended : (change (system.work work)).phase ≠ .running) :
      ((system.perform action).work work).phase ≠ .running := by
    rw [work_of_modify works]
    split_ifs with here
    · exact ended
    · intro running
      exact here ⟨rfl, lt_of_hasBegun (by rw [running]; rfl)⟩
  cases action with
  | endLogic other outcome =>
    obtain rfl := Option.some.inj ends
    exact changed (works_endLogic current outcome) WorkPhase.noConfusion
  | endJob other =>
    obtain rfl := Option.some.inj ends
    exact changed (works_endJob current) WorkPhase.noConfusion
  | _ => exact absurd ends.symm (Option.some_ne_none thread)

/-- The program of a work ends on the thread that runs it innermost. -/
theorem ends_of_phase (sound : system.picture.Sound events) (enabled : system.Enabled action)
    (member : activation ∈ (system.thread id).activations) (role : activation.role = .work work)
    (running : (system.work work).phase = .running) (ended : ((system.perform action).work work).phase ≠ .running) :
    action.ender? = some id ∧ system.currentWork? id = some work := by
  have bound := lt_of_hasBegun (WorkPhase.hasBegun_of_isActive (isActive_of_mem sound member role))
  rcases ((assigns_perform sound enabled).ages bound).ended running with still | ⟨thread, ends, current⟩
  · exact (ended still).elim
  · obtain ⟨top, outer, other, chain, runs, same, -⟩ := thread_of_ended enabled ends
    obtain rfl := Option.some.inj (same.symm.trans current)
    obtain ⟨rfl, -⟩ := only_innermost sound chain runs member role
    exact ⟨ends, current⟩

/-- A work that has just been begun is in the midst of its program. -/
theorem running_of_begun (sound : system.picture.Sound events) (enabled : system.Enabled action)
    (fresh : (system.work work).phase.isActive = false)
    (active : ((system.perform action).work work).phase.isActive = true) :
    ((system.perform action).work work).phase = .running := by
  have assigns := assigns_perform sound enabled
  by_cases bound : work < system.works.length
  · rcases (assigns.ages bound).active active with runs | before
    · exact runs
    · exact absurd (before.symm.trans fresh) Bool.noConfusion
  · obtain ⟨-, arrives⟩ := assigns.arrives bound (lt_of_hasBegun (WorkPhase.hasBegun_of_isActive active))
    cases arrives with
    | inline _ _ _ _ runs => exact runs
    | sent _ _ _ _ _ _ _ fresh =>
      rcases fresh with runs | ⟨waits, -⟩
      · exact runs
      · rw [waits] at active
        exact Bool.noConfusion active

theorem not_active_of_new (new : work = system.works.length) : (system.work work).phase.isActive = false := by
  by_contra active
  rw [Bool.not_eq_false] at active
  exact Nat.lt_irrefl _ (new ▸ lt_of_hasBegun (WorkPhase.hasBegun_of_isActive active))

theorem Hands.not_active {snapshot : Option Stack} (hands : system.Hands action work snapshot)
    (sound : system.picture.Sound events) : (system.work work).phase.isActive = false := by
  cases hands with
  | logic | job => exact not_active_of_new rfl
  | waiting _ waits =>
    rw [show (system.work work).phase = .waiting from (sound.channels.waits _ work waits).phase]
    rfl

/-! ## Snapshots that are attached -/

/-- Whoever attaches a snapshot has its stack set aside before all else. -/
theorem shelf_attach {snapshot : Stack} (enabled : system.Enabled (.attach id snapshot)) :
    (system.perform (.attach id snapshot)).stack id = snapshot ∧
      (system.perform (.attach id snapshot)).shelf id = system.stack id :: system.shelf id := by
  obtain ⟨activation, outer, chain⟩ := chain_of_isRunning enabled
  have view : (system.perform (.attach id snapshot)).thread id = _ :=
    thread_of_modify (active_of_chain chain) (threads_attach system id snapshot) id
  rw [if_pos rfl, chain, List.modifyHead_cons] at view
  rw [System.stack, shelf, view, shelf_of_chain chain]
  exact ⟨rfl, rfl⟩

theorem attachments_le (chain : (system.thread id).activations = activation :: outer) :
    system.attachments id ≤ activation.saved.length := by
  simp only [attachments, activation_of_chain chain]
  split
  · exact Nat.le_refl _
  · split
    · exact Nat.sub_le _ _
    · exact Nat.le_refl _
    · exact Nat.le_refl _

/-- Whoever detaches a snapshot has back what it set aside last. -/
theorem shelf_detach (enabled : system.Enabled (.detach id)) : system.shelf id =
    (system.perform (.detach id)).stack id :: (system.perform (.detach id)).shelf id := by
  obtain ⟨activation, outer, chain⟩ := chain_of_isRunning enabled.1
  obtain ⟨stack, older, saved⟩ :=
    List.exists_cons_of_length_pos (Nat.lt_of_lt_of_le enabled.2 (attachments_le chain))
  have same : (system.activation id).saved = stack :: older := activation_of_chain chain ▸ saved
  have view : (system.perform (.detach id)).thread id = _ :=
    thread_of_modify (active_of_chain chain) (threads_detach same) id
  rw [if_pos rfl, chain, List.modifyHead_cons] at view
  rw [System.stack, shelf, shelf, view, chain, List.flatMap_cons, saved]
  rfl

/-- Whoever's program ends has back what the program set aside first. -/
theorem shelf_ended (enabled : system.Enabled action) (ends : action.ender? = some id) :
    ∃ unwound, system.shelf id = unwound ++ (system.perform action).shelf id ∧
      (system.perform action).stack id = unwound.getLast?.getD (system.stack id) := by
  obtain ⟨activation, outer, work, chain, -, -, stack, left⟩ := thread_of_ended enabled ends
  refine ⟨activation.saved, ?_, stack⟩
  rw [shelf_of_chain chain, shelf, left]
  rfl

/-! ## What has ended has nothing set aside -/

theorem not_isRunning_of_ended {last : Activation} {outer : List Activation}
    (chain : (system.thread id).activations = last :: outer) (role : last.role = .work work)
    (ended : (system.work work).phase ≠ .running) : system.isRunning id = false := by
  by_contra running
  rw [Bool.not_eq_false] at running
  obtain ⟨first, others, inner, -, runs⟩ := exists_innermost_of_isRunning running
  obtain rfl := inner.eq_of_chain chain
  exact ended (runs work role)

/-- What a thread runs of a work whose program has ended has nothing set aside. -/
theorem Turn.empties {shown : Stack} {later : List Activation} (turn : system.Turn action id shown later)
    (sound : system.picture.Sound events) (cleared : system.Cleared) (enabled : system.Enabled action)
    (active : (system.work work).phase.isActive = true)
    (past : ∀ one ∈ (system.thread id).activations, one.role = .work work → (system.work work).phase ≠ .running)
    (member : activation ∈ later) (role : activation.role = .work work) : activation.saved = [] := by
  have kept {one : Activation} (there : one ∈ (system.thread id).activations) (role : one.role = .work work) :
      one.saved = [] := cleared id one there work role (past one there role)
  have top {one : Activation} {outer : List Activation} (chain : (system.thread id).activations = one :: outer)
      (role : one.role = .work work) : one.saved = [] := kept (chain ▸ List.mem_cons_self) role
  have begun (fresh : (system.work work).phase.isActive = false) : activation.saved = [] :=
    absurd (fresh.symm.trans active) Bool.false_ne_true
  -- whoever attaches or detaches is in the midst of its program
  have busy {one : Activation} {outer : List Activation} (chain : (system.thread id).activations = one :: outer)
      (running : system.isRunning id = true) : one.role ≠ .work work := fun role =>
    have still := not_isRunning_of_ended chain role (past one (chain ▸ List.mem_cons_self) role)
    Bool.false_ne_true (still.symm.trans running)
  cases turn with
  | rest => exact kept member role
  | trade chain | enter chain | wait chain | leave chain =>
    rcases List.mem_cons.mp member with rfl | below
    · have empty := top chain role
      exact empty
    · exact kept (chain ▸ List.mem_cons_of_mem _ below) role
  | attach chain attaches =>
    subst attaches
    rcases List.mem_cons.mp member with rfl | below
    · have other := busy chain enabled
      exact absurd role other
    · exact kept (chain ▸ List.mem_cons_of_mem _ below) role
  | detach chain detaches =>
    subst detaches
    rcases List.mem_cons.mp member with rfl | below
    · have other := busy chain enabled.1
      exact absurd role other
    · exact kept (chain ▸ List.mem_cons_of_mem _ below) role
  | begin chain _ _ _ _ _ new =>
    rcases List.mem_cons.mp member with rfl | below
    · exact begun (not_active_of_new (Role.work.inj role ▸ new))
    · rcases List.mem_cons.mp below with rfl | below
      · have empty := top chain role
        exact empty
      · exact kept (chain ▸ List.mem_cons_of_mem _ below) role
  | close chain =>
    rcases List.mem_cons.mp member with rfl | below
    · rfl
    · exact kept (chain ▸ List.mem_cons_of_mem _ below) role
  | pop chain => exact kept (chain ▸ List.mem_cons_of_mem _ member) role
  | finish | fade => exact absurd member List.not_mem_nil
  | take _ _ hands =>
    obtain rfl := List.mem_singleton.mp member
    exact begun (Role.work.inj role ▸ hands.not_active sound)
  | start =>
    obtain rfl := List.mem_singleton.mp member
    exact Role.noConfusion role

theorem Cleared.perform (cleared : system.Cleared) (regular : system.Regular) (enabled : system.Enabled action) :
    (system.perform action).Cleared := by
  intro id activation member work role ended
  have turn := regular.turn enabled id
  obtain ⟨⟨events, sound⟩, -, -⟩ := regular
  by_cases ends : action.ender? = some id
  · obtain ⟨top, outer, other, chain, runs, current, -, left⟩ := thread_of_ended enabled ends
    rw [left] at member
    rcases List.mem_cons.mp member with rfl | below
    · rfl
    · have there : activation ∈ (system.thread id).activations := chain ▸ List.mem_cons_of_mem _ below
      refine cleared id activation there work role fun running => ?_
      obtain ⟨-, same⟩ := ends_of_phase sound enabled there role running ended
      obtain rfl := Option.some.inj (same.symm.trans current)
      exact (only_innermost sound chain runs there role).2 below
  · have active : (system.work work).phase.isActive = true := by
      by_contra fresh
      have later := isActive_of_mem (sound.step (step_perform sound enabled)) member role
      exact ended (running_of_begun sound enabled (Bool.eq_false_iff.mpr fresh) later)
    refine turn.empties sound cleared enabled active (fun one there role running => ?_) member role
    exact ends (ends_of_phase sound enabled there role running ended).1

theorem Cleared.mild {after : System} (cleared : system.Cleared) (mild : system.Mild after) : after.Cleared := by
  intro id activation member work role ended
  rw [mild.activations] at member
  rw [mild.work] at ended
  exact cleared id activation member work role ended

theorem Cleared.follow (cleared : system.Cleared) (regular : system.Regular) {stride : Stride}
    (admitted : system.Admits stride) : (system.follow stride).Cleared := by
  cases stride with
  | act action => exact cleared.perform regular admitted
  | edit | stack | registry | ask => exact cleared.mild (mild_follow fun _ same => Stride.noConfusion same)

/-! ## What becomes of a stack -/

variable {stride : Stride}

theorem becomes_perform (regular : system.Regular) (cleared : system.Cleared) (enabled : system.Enabled action)
    (active : (system.thread id).activations ≠ []) (lasts : action ≠ .finish id) :
    Stack.Becomes (system.stack id) (system.shelf id) ((system.perform action).stack id)
      ((system.perform action).shelf id) := by
  have turn := regular.turn enabled id
  rw [shelf, shelf]
  generalize ((system.perform action).thread id).activations = later at turn
  generalize (system.perform action).stack id = stack at turn
  cases turn with
  | rest => exact .still
  | trade chain | wait chain =>
    rw [chain]
    exact .still
  | enter chain =>
    rw [chain]
    exact .edited (.push _)
  | leave chain =>
    rw [chain]
    exact .edited (.remove _)
  | attach chain =>
    rw [chain]
    exact .setAside _
  | detach chain _ saved =>
    rw [chain, List.flatMap_cons, saved]
    exact @Stack.Becomes.restored _ _ [] _ _ rfl
  | begin chain same =>
    rw [chain]
    rcases same with rfl | rfl
    · exact .still
    · exact .setAside _
  | @close activation outer chain =>
    rw [chain, List.flatMap_cons, List.flatMap_cons, List.nil_append]
    rcases activation.saved.eq_nil_or_concat with none_saved | ⟨newer, back, saved⟩
    · rw [none_saved]
      exact .still
    · rw [saved, List.concat_eq_append, List.getLast?_concat, List.append_assoc]
      exact .restored rfl
  | pop chain completes =>
    subst completes
    obtain ⟨first, others, work, inner, role, -, vacated⟩ := isEnding_cases enabled
    obtain rfl := inner.eq_of_chain chain
    have past : (system.work work).phase ≠ .running := ne_of_eq_of_ne vacated WorkPhase.noConfusion
    rw [chain, List.flatMap_cons, cleared id _ (chain ▸ List.mem_cons_self) work role past]
    exact .still
  | finish _ finishes => exact (lasts finishes).elim
  | fade idle | take idle | start idle => exact (active idle).elim

/-- As long as a thread runs something, each stride leaves its stack, changes it, sets it aside, or has one come back
that was set aside. -/
theorem becomes_follow (regular : system.Regular) (cleared : system.Cleared) (admitted : system.Admits stride)
    (active : (system.thread id).activations ≠ []) (lasts : stride ≠ .act (.finish id)) :
    Stack.Becomes (system.stack id) (system.shelf id) ((system.follow stride).stack id)
      ((system.follow stride).shelf id) := by
  have unseen {after : System} (mild : system.Mild after) (same : after.stack id = system.stack id) :
      Stack.Becomes (system.stack id) (system.shelf id) (after.stack id) (after.shelf id) := by
    rw [shelf, shelf, mild.activations, same]
    exact .still
  have edits (thread : ThreadId) (edit : Stack.Edit) :
      let after := system.setStack thread ((system.stack thread).edit edit)
      Stack.Becomes (system.stack id) (system.shelf id) (after.stack id) (after.shelf id) := by
    intro after
    have view : after.thread id = _ := thread_modifyThread system thread id _
    have mild : system.Mild after := mild_setStack thread _
    split_ifs at view with here
    · obtain ⟨rfl, -⟩ := here
      have edited : after.stack id = (system.stack id).edit edit := congrArg Thread.stack view
      rw [shelf, shelf, mild.activations, edited]
      exact .edited edit
    · exact unseen mild (congrArg Thread.stack view)
  cases stride with
  | act action => exact becomes_perform regular cleared admitted active fun same => lasts (congrArg _ same)
  | edit thread edit => exact edits thread edit
  | stack thread act =>
    have restacks := system.restacks thread act
    change Stack.Becomes _ _ ((act.perform system thread).2.stack id) ((act.perform system thread).2.shelf id)
    generalize (act.perform system thread).2 = after at restacks
    cases restacks with
    | still | share | drop => exact .still
    | edit edit => exact edits thread edit
  | registry thread act =>
    have quiet := @quiet_registry system thread act
    exact unseen quiet.mild (congrArg Thread.stack (thread_of_threads quiet.threads id))
  | ask thread =>
    have quiet := @quiet_enclosing system thread
    exact unseen quiet.mild (congrArg Thread.stack (thread_of_threads quiet.threads id))

end System

namespace Proceeds

variable {setting : Setting.State} {first system : System} {past history : List Pace} {id : ThreadId} {stride : Stride}
  {below bottom : List Stack} {stack : Stack}

theorem cleared (proceeds : Proceeds (.initial setting) history system) : system.Cleared := by
  induction proceeds with
  | start =>
    intro id activation member work role
    cases id with
    | zero =>
      obtain rfl := List.mem_singleton.mp member
      exact Role.noConfusion role
    | succ id => exact absurd member List.not_mem_nil
  | step proceeds admitted ih => exact ih.follow (proceeds.regular (System.regular_initial setting)) admitted

/-- What becomes of the stack of a thread that runs something. -/
theorem becomes (reached : Proceeds (.initial setting) past system) (admitted : system.Admits stride)
    (active : (system.thread id).activations ≠ []) (lasts : stride ≠ .act (.finish id)) :
    Stack.Becomes (system.stack id) (system.shelf id) ((system.follow stride).stack id)
      ((system.follow stride).shelf id) :=
  System.becomes_follow (reached.regular (System.regular_initial setting)) reached.cleared admitted active lasts

/-- Whatever goes on meanwhile, what a thread has set aside at first stays below what it sets aside after. -/
theorem shelf_suffix (reached : Proceeds (.initial setting) past first) (continued : Proceeds first history system)
    (there : bottom <:+ first.shelf id) (some_there : bottom ≠ [])
    (above : ∀ pace ∈ history, bottom.length ≤ (pace.before.shelf id).length)
    (now : bottom.length ≤ (system.shelf id).length) : bottom <:+ system.shelf id := by
  induction continued with
  | start => exact there
  | @step history system stride continued admitted ih =>
    have before := ih (fun pace member => above pace (List.mem_cons_of_mem _ member)) (above _ List.mem_cons_self)
    have active : (system.thread id).activations ≠ [] := by
      intro idle
      rw [System.shelf, idle, List.flatMap_nil] at before
      exact some_there (List.suffix_nil.mp before)
    have lasts : stride ≠ .act (.finish id) := by
      rintro rfl
      have view := @System.thread_of_modify system (system.endThread id) id _ active rfl id
      have gone : (system.follow (.act (.finish id))).shelf id = [] := by
        change ((system.endThread id).thread id).activations.flatMap _ = []
        rw [view, if_pos rfl]
        rfl
      rw [gone] at now
      exact some_there (List.length_eq_zero_iff.mp (Nat.le_zero.mp now))
    exact ((reached.trans continued).becomes admitted active lasts).keeps before now

/-- A thread that has set its stack aside has it again once so many are set aside as before, whatever it has done with
the stack it had instead and whatever else it has set aside in between. -/
theorem stack_returns (reached : Proceeds (.initial setting) past first) (aside : first.shelf id = stack :: below)
    (continued : Proceeds first history system)
    (above : ∀ pace ∈ history, below.length < (pace.before.shelf id).length)
    (now : below.length < (system.shelf id).length) (admitted : system.Admits stride)
    (lasts : stride ≠ .act (.finish id)) (level : ((system.follow stride).shelf id).length = below.length) :
    (system.follow stride).stack id = stack ∧ (system.follow stride).shelf id = below := by
  have start : stack :: below <:+ first.shelf id := aside ▸ List.suffix_refl _
  have there := reached.shelf_suffix continued start (List.cons_ne_nil _ _) above now
  have active : (system.thread id).activations ≠ [] := by
    intro idle
    rw [System.shelf, idle] at now
    exact Nat.not_lt_zero _ now
  exact ((reached.trans continued).becomes admitted active lasts).returns there level

end Proceeds

end ScopedWork
