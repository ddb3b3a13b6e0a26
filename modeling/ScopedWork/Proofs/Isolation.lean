import ScopedWork.Proofs.Lending

/-! # Logics under the stacks of their submitters

A helper runs a logic under the stack that the submitter had when it submitted the logic. What the logic does to that
stack is seen by nobody else: not by the submitter, not on another thread, and not by whoever holds a snapshot. Once the
logic is over the helper has the stack that it had before. So has a thread that has attached a snapshot, once that is
detached or unwound.
-/

namespace ScopedWork

/-- Whether the outermost of what a thread runs is a work under which a stack is set aside before all others. -/
def IsLodged (chain : List Activation) (work : WorkId) (stack : Stack) : Prop :=
  ∃ last, chain.getLast? = some last ∧ last.role = .work work ∧ last.saved.getLast? = some stack

theorem isLodged_cons {activation : Activation} {outer : List Activation} {work : WorkId} {stack : Stack} :
    IsLodged (activation :: outer) work stack ↔
      outer = [] ∧ activation.role = .work work ∧ activation.saved.getLast? = some stack ∨
        IsLodged outer work stack := by
  cases outer with
  | nil => simp [IsLodged]
  | cons next rest => simp [IsLodged]

namespace System

variable {system : System} {events : List Event} {action : Action} {stride : Stride} {thread id helper : ThreadId}
  {stack : Stack} {work : WorkId} {scope : ScopeId} {setting : Setting.State} {history : List Pace}

/-! ## The helper's own stack -/

/-- Where the stack is that a helper had before it began a logic. -/
inductive Lodges (system : System) (helper : ThreadId) (stack : Stack) : Prop
  | aside {work : WorkId} {scope : ScopeId} (kind : (system.work work).kind = .logic scope)
    (placed : (system.work work).station ≠ none)
    (lodged : IsLodged (system.thread helper).activations work stack)
  /-- The logic's program has ended, and the helper has it back. -/
  | back {work : WorkId} {last : Activation} (chain : (system.thread helper).activations = [last])
    (role : last.role = .work work) (ended : (system.work work).phase ≠ .running) (own : system.stack helper = stack)

/-- What comes last of what a logic has set aside is not for it to detach. -/
theorem more_saved (enabled : system.Enabled (.detach helper)) {activation : Activation} {outer : List Activation}
    {older : List Stack} (chain : (system.thread helper).activations = activation :: outer)
    (role : activation.role = .work work) (kind : (system.work work).kind = .logic scope)
    (placed : (system.work work).station ≠ none) (saved : activation.saved = stack :: older) : older ≠ [] := by
  rintro rfl
  obtain ⟨station, sent⟩ := Option.ne_none_iff_exists'.mp placed
  have attached : 0 < system.attachments helper := enabled.2
  simp only [attachments, activation_of_chain chain, role, kind, sent, saved, List.length_singleton] at attached
  exact Nat.lt_irrefl 0 attached

theorem currentWork?_of_chain {activation : Activation} {outer : List Activation}
    (chain : (system.thread id).activations = activation :: outer) (role : activation.role = .work work) :
    system.currentWork? id = some work := by
  rw [currentWork?, activation_of_chain chain, role]

/-- While a logic runs its helper's stack stays set aside, and it comes back as the logic's program ends. -/
theorem Turn.lodged {shown : Stack} {later : List Activation} (turn : system.Turn action helper shown later)
    (cleared : system.Cleared) (enabled : system.Enabled action) (kind : (system.work work).kind = .logic scope)
    (placed : (system.work work).station ≠ none) (lodged : IsLodged (system.thread helper).activations work stack) :
    IsLodged later work stack ∨ ∃ last, later = [last] ∧ last.role = .work work ∧
      action.ender? = some helper ∧
      system.currentWork? helper = some work ∧ shown = stack := by
  have inside {activation : Activation} {outer : List Activation}
      (chain : (system.thread helper).activations = activation :: outer) := isLodged_cons.mp (chain ▸ lodged)
  have absent (idle : (system.thread helper).activations = []) : False := by
    obtain ⟨last, found, -⟩ := lodged
    rw [idle] at found
    exact Option.some_ne_none last found.symm
  cases turn with
  | rest => exact .inl lodged
  | trade chain | enter chain | wait chain | leave chain =>
    have below := inside chain
    exact .inl (isLodged_cons.mpr below)
  | attach chain =>
    refine .inl (isLodged_cons.mpr ((inside chain).imp_left fun ⟨bottom, role, saved⟩ => ⟨bottom, role, ?_⟩))
    rw [List.getLast?_cons, saved, Option.getD_some]
  | detach chain detaches saved =>
    subst detaches
    refine .inl (isLodged_cons.mpr ((inside chain).imp_left fun ⟨bottom, role, first⟩ => ⟨bottom, role, ?_⟩))
    have more := more_saved enabled chain role kind placed saved
    rwa [saved, List.getLast?_cons_of_ne_nil more] at first
  | begin chain =>
    have below := inside chain
    exact .inl (isLodged_cons.mpr (.inr (isLodged_cons.mpr below)))
  | close chain ends =>
    rcases inside chain with ⟨rfl, role, saved⟩ | below
    · have ender : action.ender? = some helper := by rcases ends with ⟨outcome, rfl⟩ | rfl <;> rfl
      exact .inr ⟨_, rfl, role, ender, currentWork?_of_chain chain role, by rw [saved, Option.getD_some]⟩
    · exact .inl (isLodged_cons.mpr (.inr below))
  | pop chain completes =>
    subst completes
    rcases inside chain with ⟨rfl, role, saved⟩ | below
    · obtain ⟨-, -, ended, -, -, current, vacated⟩ := isEnding_cases enabled
      obtain rfl := Option.some.inj (current.symm.trans (currentWork?_of_chain chain role))
      have past : (system.work ended).phase ≠ .running := ne_of_eq_of_ne vacated WorkPhase.noConfusion
      rw [cleared helper _ (chain ▸ List.mem_cons_self) ended role past] at saved
      exact absurd saved.symm (Option.some_ne_none stack)
    · exact .inl below
  | finish chain finishes =>
    subst finishes
    rcases inside chain with ⟨-, role, -⟩ | ⟨last, found, -⟩
    · exact absurd ((currentWork?_of_chain chain role).symm.trans enabled.2.2.1) (Option.some_ne_none work)
    · exact absurd found.symm (Option.some_ne_none last)
  | fade idle | take idle | start idle => exact (absent idle).elim

/-- A helper whose work's program has ended keeps its stack, until it runs nothing. -/
theorem Turn.backed {shown : Stack} {later : List Activation} {last : Activation}
    (turn : system.Turn action helper shown later) (sound : system.picture.Sound events)
    (enabled : system.Enabled action) (chain : (system.thread helper).activations = [last])
    (role : last.role = .work work) (ended : (system.work work).phase ≠ .running) :
    (later = [last] ∨ later = []) ∧ shown = system.stack helper := by
  have idles : system.isRunning helper = false := not_isRunning_of_ended chain role ended
  have still {p : Prop} (running : system.isRunning helper = true) : p :=
    absurd (idles.symm.trans running) Bool.false_ne_true
  cases turn with
  | rest => exact ⟨.inl chain, rfl⟩
  | trade _ _ _ running | enter _ _ _ running | wait _ _ running | begin _ _ _ _ running => exact still running
  | leave _ leaves =>
    subst leaves
    obtain ⟨first, others, _, _, inner, -, owned, -⟩ := leave_cases sound enabled
    obtain rfl := inner.eq_of_chain chain
    obtain ⟨handle, has, -⟩ := Activation.contexts_pos.mp owned
    rw [(sound.running.bare inner.mem role ended).handles] at has
    exact absurd has List.not_mem_nil
  | attach _ attaches =>
    subst attaches
    exact still enabled
  | detach _ detaches =>
    subst detaches
    exact still enabled.1
  | close _ ends =>
    rcases ends with ⟨outcome, rfl⟩ | rfl
    · exact still (Bool.and_eq_true_iff.mp (Bool.and_eq_true_iff.mp enabled).1).1
    · exact still (Bool.and_eq_true_iff.mp (Bool.and_eq_true_iff.mp enabled).1).1
  | pop before =>
    obtain ⟨-, rfl⟩ := List.cons.inj (before.symm.trans chain)
    exact ⟨.inr rfl, rfl⟩
  | finish _ finishes =>
    subst finishes
    exact still enabled.1
  | fade idle | take idle | start idle => exact absurd (chain.symm.trans idle) (List.cons_ne_nil _ _)

/-- As long as a helper runs a logic its stack is set aside, and it has it when it runs nothing any more. -/
theorem Lodges.perform (lodges : system.Lodges helper stack) (regular : system.Regular) (cleared : system.Cleared)
    (enabled : system.Enabled action) : (system.perform action).Lodges helper stack ∨
      ((system.perform action).thread helper).activations = [] ∧ (system.perform action).stack helper = stack := by
  have turn := regular.turn enabled helper
  obtain ⟨events, sound⟩ := regular.sound
  cases lodges with
  | aside kind placed lodged =>
    have same := ((assigns_perform sound enabled).keeps (lt_of_kind kind)).same
    rcases turn.lodged cleared enabled kind placed lodged with still | ⟨last, chain, role, ends, current, own⟩
    · exact .inl (.aside (same.kind.trans kind) (same.station ▸ placed) still)
    · exact .inl (.back chain role (phase_of_ended enabled ends current) own)
  | back chain role ended own =>
    obtain ⟨later, same⟩ := turn.backed sound enabled chain role ended
    refine later.imp (fun chain' => .back chain' role ?_ (same.trans own)) fun idle => ⟨idle, same.trans own⟩
    exact stays_ended sound enabled (isActive_of_mem sound (chain ▸ List.mem_cons_self) role) ended

theorem Lodges.active (lodges : system.Lodges helper stack) : (system.thread helper).activations ≠ [] := by
  intro idle
  cases lodges with
  | aside _ _ lodged =>
    obtain ⟨last, found, -⟩ := lodged
    rw [idle] at found
    exact Option.some_ne_none last found.symm
  | back chain => exact absurd (chain.symm.trans idle) (List.cons_ne_nil _ _)

theorem Lodges.follow (lodges : system.Lodges helper stack) (regular : system.Regular) (cleared : system.Cleared)
    (admitted : system.Admits stride) : (system.follow stride).Lodges helper stack ∨
      ((system.follow stride).thread helper).activations = [] ∧ (system.follow stride).stack helper = stack := by
  have unseen (other : ∀ action, stride ≠ .act action)
    (actor : stride.actor? = some helper → system.isRunning helper) :
      (system.follow stride).Lodges helper stack := by
    have mild : system.Mild (system.follow stride) := mild_follow other
    have works := mild.work
    have activations := mild.activations helper
    have active := lodges.active
    cases lodges with
    | aside kind placed lodged =>
      refine .aside ((congrArg Work.kind (works _)).trans kind) ?_ (activations ▸ lodged)
      rwa [works]
    | back chain role ended own =>
      have apart : stride.actor? ≠ some helper := fun acts =>
        absurd ((not_isRunning_of_ended chain role ended).symm.trans (actor acts)) Bool.false_ne_true
      refine .back (activations.trans chain) role ?_ ((apart_follow regular admitted active apart).1.trans own)
      rwa [works]
  cases stride with
  | act action => exact lodges.perform regular cleared admitted
  | edit | stack | registry | ask =>
    exact .inl (unseen (fun _ => Stride.noConfusion) fun same => Option.some.inj same ▸ admitted)

/-- A helper that begins a logic has its own stack set aside. -/
theorem lodges_of_begins (reached : Proceeds (.initial setting) history system)
    (begins : system.Begins stride helper work scope) :
    (system.follow stride).Lodges helper (system.stack helper) := by
  have lends := lends reached begins
  obtain ⟨events, sound⟩ := ((reached.regular (regular_initial setting)).follow begins.admitted).sound
  have active := isActive_of_mem sound (lends.aside ▸ List.mem_singleton_self _) rfl
  obtain ⟨station, sent, -⟩ := sound.channels.running work helper active begins.placed
  refine .aside begins.kind ?_ ⟨_, congrArg List.getLast? lends.aside, rfl, rfl⟩
  rw [show ((system.follow stride).work work).station = some station from sent]
  exact Option.some_ne_none station

/-! ## Shared names -/

theorem lookup_filter {entries : List (String × Entry)} {name other : String} (ne : name ≠ other) :
    (entries.filter (·.1 ≠ other)).lookup name = entries.lookup name := by
  induction entries with
  | nil => rfl
  | cons entry entries ih =>
    by_cases gone : entry.1 = other
    · rw [List.filter_cons_of_neg (by simp [gone]), ih, List.lookup_cons, beq_false_of_ne (gone ▸ ne)]
    · rw [List.filter_cons_of_pos (by simp [gone]), List.lookup_cons, List.lookup_cons, ih]

/-- What is shared under a name stays, whatever is done, until the sharing ends. -/
theorem entry?_follow (regular : system.Regular) (admitted : system.Admits stride) {name : String} {entry : Entry}
    (shared : system.entry? name = some entry) (kept : ∀ thread, stride ≠ .stack thread (.dropSnapshot name)) :
    System.entry? (system.follow stride) name = some entry := by
  have of_desk {after : System} (same : after.desk = system.desk) : after.entry? name = some entry := by
    rw [← shared, entry?, entry?]
    exact congrArg (fun desk => desk.2.lookup name) same
  have shares {after : System} {other : String} (new : Entry) (free : system.entry? other = none)
      (directory : after.directory = (other, new) :: system.directory) : after.entry? name = some entry := by
    have ne : name ≠ other := by
      rintro rfl
      exact Option.some_ne_none entry (shared.symm.trans free)
    rw [ entry?, directory, List.lookup_cons, beq_false_of_ne ne]
    exact shared
  cases stride with
  | act action =>
    by_cases registers : ∃ factory, action = .register factory
    · obtain ⟨factory, rfl⟩ := registers
      exact shared
    · obtain ⟨events, sound⟩ := regular.sound
      exact of_desk (desk_perform sound admitted fun factory same => registers ⟨factory, same⟩)
  | edit => exact shared
  | stack thread act =>
    have restacks := system.restacks thread act
    change System.entry? (act.perform system thread).2 name = _
    generalize (act.perform system thread).2 = after at restacks
    cases restacks with
    | still | edit => exact shared
    | share new free => exact shares new free rfl
    | @drop other drops =>
      subst drops
      have ne : name ≠ other := by
        rintro rfl
        exact kept thread rfl
      exact (lookup_filter ne).trans shared
  | registry thread act =>
    change System.entry? (act.perform system thread).2 name = _
    cases act with
    | factory other spec =>
      simp only [Program.RegistryAct.perform]
      split_ifs with taken
      · exact shared
      · split
        · exact shared
        · exact shares _ (entry?_of_free taken) rfl
    | register other =>
      simp only [Program.RegistryAct.perform]
      split <;> exact shared
    | unregister | isRegistered => exact shared
    | root => exact of_desk (desk_supplyRoot system)
    | lookups other =>
      simp only [Program.RegistryAct.perform]
      split <;> exact shared
  | ask thread => exact of_desk (desk_enclosing system thread)

/-- What waits is to see what it was to see before. -/
theorem snapshot_follow (regular : system.Regular) (admitted : system.Admits stride)
    (bound : work < system.works.length) (waits : ((system.follow stride).work work).phase = .waiting) :
    ((system.follow stride).work work).snapshot = (system.work work).snapshot := by
  have unseen (other : ∀ action, stride ≠ .act action) : (system.follow stride).work work = system.work work :=
    (mild_follow other).work work
  cases stride with
  | act action =>
    obtain ⟨events, sound⟩ := regular.sound
    exact (((assigns_perform sound admitted).ages bound).waiting waits).2
  | edit | stack | registry | ask => exact congrArg Work.snapshot (unseen fun _ => Stride.noConfusion)

end System

namespace Proceeds

variable {setting : Setting.State} {past history : List Pace} {first system : System} {stride : Stride}
  {helper : ThreadId} {stack : Stack}

/-- A helper has its own stack once it runs nothing, whatever the logic that it has run has done. -/
theorem restored (reached : Proceeds (.initial setting) past first) (lodges : first.Lodges helper stack)
    (continued : Proceeds first history system)
    (busy : ∀ pace ∈ history, (pace.before.thread helper).activations ≠ []) :
    system.Lodges helper stack ∨ (system.thread helper).activations = [] ∧ system.stack helper = stack := by
  induction continued with
  | start => exact .inl lodges
  | step continued admitted ih =>
    have reached := reached.trans continued
    rcases ih fun pace member => busy pace (List.mem_cons_of_mem _ member) with before | ⟨idle, -⟩
    · exact before.follow (reached.regular (System.regular_initial setting)) reached.cleared admitted
    · exact absurd idle (busy _ List.mem_cons_self)

end Proceeds

/-! ## Every run -/

namespace System

/-- Whatever goes on after it, a thread has a stack once no more is set aside than was below that stack. -/
def Restores (first : System) (id : ThreadId) (stack : Stack) (below : List Stack) : Prop :=
  ∀ {history : List Pace} {system : System} {stride : Stride}, Proceeds first history system →
    (∀ pace ∈ ⟨system, stride⟩ :: history, below.length < (pace.before.shelf id).length) →
      system.Admits stride →
      stride ≠ .act (.finish id) → ((system.follow stride).shelf id).length = below.length →
        (system.follow stride).stack id = stack ∧ (system.follow stride).shelf id = below

/-- Wherever the frames of a stack are in memory, they are there still for each stack and each snapshot that shares
them, and what has been done to the stack has been done to its own frames. -/
def ReFrames (stack later : Stack) : Prop :=
  ∀ shared : SharedStack, shared.stack = stack → ∃ after : SharedStack, after.stack = later ∧
    (after = shared ∨ ∃ edit, after = shared.edit edit) ∧
      ∀ top : Option FrameId, (∀ id ∈ top, id < shared.frames.length) →
        chain after.frames top = chain shared.frames top

/-- How the stacks of a process that has come to a system are apart from each other, whatever stride is taken. -/
structure Isolates (system : System) (history : List Pace) : Prop where
  /-- A helper begins a logic under the stack that its submitter had as it submitted the logic. -/
  lends {stride : Stride} {helper : ThreadId} {work : WorkId} {scope : ScopeId} :
    system.Begins stride helper work scope →
      system.Lends (⟨system, stride⟩ :: history) (system.follow stride) helper work scope
  /-- Its own stack is what it was once it runs nothing any more. -/
  restored {stride : Stride} {helper : ThreadId} {work : WorkId} {scope : ScopeId} {more : List Pace} {later : System} :
    system.Begins stride helper work scope → Proceeds (system.follow stride) more later →
      (∀ pace ∈ more, (pace.before.thread helper).activations ≠ []) → (later.thread helper).activations = [] →
        later.stack helper = system.stack helper
  /-- What a thread does changes no stack of another that runs something, nor what that has set aside. -/
  apart {stride : Stride} {id : ThreadId} : system.Admits stride → (system.thread id).activations ≠ [] →
    stride.actor? ≠ some id →
      (system.follow stride).stack id = system.stack id ∧ (system.follow stride).shelf id = system.shelf id
  /-- Nor does it change what a logic that waits is to see. -/
  waiting {stride : Stride} {work : WorkId} : system.Admits stride → work < system.works.length →
    ((system.follow stride).work work).phase = .waiting →
      ((system.follow stride).work work).snapshot = (system.work work).snapshot
  /-- Nor a snapshot that is shared. -/
  shared {stride : Stride} {name : String} {snapshot : Stack} : system.Admits stride →
    system.entry? name = some (.snapshot snapshot) → (∀ thread, stride ≠ .stack thread (.dropSnapshot name)) →
      System.entry? (system.follow stride) name = some (.snapshot snapshot)
  /-- Its own stack it changes or sets aside, or it has one back that was set aside. -/
  becomes {stride : Stride} {id : ThreadId} : system.Admits stride → (system.thread id).activations ≠ [] →
    stride ≠ .act (.finish id) → Stack.Becomes (system.stack id) (system.shelf id) ((system.follow stride).stack id)
      ((system.follow stride).shelf id)
  framed {stride : Stride} {id : ThreadId} : system.Admits stride → (system.thread id).activations ≠ [] →
    stride ≠ .act (.finish id) → (system.follow stride).shelf id = system.shelf id →
      ReFrames (system.stack id) ((system.follow stride).stack id)
  /-- Under a snapshot a thread has the snapshot for its stack, and afterwards its stack as it was. -/
  attached {id : ThreadId} {snapshot : Stack} : system.Admits (.act (.attach id snapshot)) →
    (system.follow (.act (.attach id snapshot))).stack id = snapshot ∧
      (system.follow (.act (.attach id snapshot))).shelf id = system.stack id :: system.shelf id ∧
        (system.follow (.act (.attach id snapshot))).Restores id (system.stack id) (system.shelf id)
  detached {id : ThreadId} : system.Admits (.act (.detach id)) → system.shelf id =
    (system.follow (.act (.detach id))).stack id :: (system.follow (.act (.detach id))).shelf id
  /-- A program that ends, in whatever way, unwinds all that it has attached. -/
  unwound {action : Action} {id : ThreadId} : system.Admits (.act action) → action.ender? = some id →
    ∃ unwound, system.shelf id = unwound ++ (system.follow (.act action)).shelf id ∧
      (system.follow (.act action)).stack id = unwound.getLast?.getD (system.stack id)

theorem reFrames_refl (stack : Stack) : ReFrames stack stack :=
  fun shared same => ⟨shared, same, .inl rfl, fun _ _ => rfl⟩

theorem reFrames_edit (stack : Stack) (edit : Stack.Edit) : ReFrames stack (stack.edit edit) := by
  rintro shared rfl
  have shown : (shared.edit edit).stack = shared.stack.edit edit := SharedStack.stack_edit edit
  exact ⟨shared.edit edit, shown, .inr ⟨edit, rfl⟩, fun _ held => SharedStack.chain_edit held edit⟩

theorem reFrames_of_becomes {stack later : Stack} {shelf : List Stack} (becomes : stack.Becomes shelf later shelf) :
    ReFrames stack later := by
  generalize same : shelf = rest at becomes
  cases becomes with
  | still => exact reFrames_refl stack
  | edited edit => exact reFrames_edit stack edit
  | restored held =>
    have longer := congrArg List.length held
    rw [← same, List.length_append, List.length_cons] at longer
    omega

end System

/-- In every run a logic on a helper begins under the stack that its submitter had at the submission, nothing that it
does to it is seen by others or in a snapshot, and the helper and whoever attaches a snapshot have their stacks back. -/
theorem stacks_isolated {setting : Setting.State} {history : List Pace} {system : System}
    (reached : Proceeds (.initial setting) history system) : system.Isolates history where
  lends := System.lends reached
  restored begins continued busy idle := by
    have lodges := System.lodges_of_begins reached begins
    rcases (reached.step begins.admitted).restored lodges continued busy with still | ⟨-, same⟩
    · exact absurd idle still.active
    · exact same
  apart := System.apart_follow (reached.regular (System.regular_initial setting))
  waiting := System.snapshot_follow (reached.regular (System.regular_initial setting))
  shared admitted := System.entry?_follow (reached.regular (System.regular_initial setting)) admitted
  becomes := reached.becomes
  framed admitted active lasts level := System.reFrames_of_becomes (level ▸ reached.becomes admitted active lasts)
  attached {id snapshot} admitted := by
    obtain ⟨stack, shelf⟩ := System.shelf_attach admitted
    refine ⟨stack, shelf, fun continued above admitted' lasts level => ?_⟩
    have earlier := fun pace member => above pace (List.mem_cons_of_mem _ member)
    have now := above _ List.mem_cons_self
    exact (reached.step admitted).stack_returns shelf continued earlier now admitted' lasts level
  detached := System.shelf_detach
  unwound := System.shelf_ended

/-- A logic waits for the helper of the only slot, which has not come back from the one before; meanwhile its submitter
removes from its stack what was there. -/
def lentLater : List Stride :=
  [.act (.makePool 1 {}), .act (.makeRoot 0 1), .act (.enterIn 0 0 (.owned "c")), .edit 0 (.push (.object .marker "m")),
    .act (.submit 0 1), .act (.endLogic 1 (.ok ())), .act (.vacate 1), .act (.submit 0 1),
    .edit 0 (.remove (.object .marker "m")), .act (.complete 1)]

theorem stacks_isolated_lentLater :
    let first := System.initial { hardware := 1 }
    let system := first.followAll lentLater
    let turned := system.follow (.act (.next { pool := 0, slot := 0 }))
    Proceeds first (first.paces [] lentLater) system ∧
      system.Begins (.act (.next { pool := 0, slot := 0 })) 1 1 1 ∧ system.stack 0 = { frames := [.scope 1] } ∧
      turned.stack 1 = { frames := [.object .marker "m", .scope 1] } ∧ turned.shelf 1 = [system.stack 1] ∧
      system.Isolates (first.paces [] lentLater) := by
  have admitted : (System.initial { hardware := 1 }).admits lentLater = true := by decide
  have reached := Proceeds.start.followAll admitted
  refine ⟨reached, ⟨by decide, by decide, by decide, by decide, by decide⟩, by decide, by decide, by decide, ?_⟩
  exact stacks_isolated reached

end ScopedWork
