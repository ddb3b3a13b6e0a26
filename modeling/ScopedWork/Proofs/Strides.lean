import ScopedWork.Program.Act.Registry
import ScopedWork.Program.Act.Stacks
import ScopedWork.Proofs.Assignments
import ScopedWork.Proofs.Fates
import ScopedWork.Proofs.Frames

/-! # Programs that handle their stacks

Besides entering and leaving contexts, programs push, pop and remove frames themselves, take snapshots, and register
factories. A process in which they do goes on in strides: its own actions, and what a program in its midst does to its
thread's stack or to the registry, or asks of them. None of that touches contexts, works, leases and helpers, so what
holds of the actions of a process holds on.
-/

namespace ScopedWork

/-- One step of a process whose programs handle their stacks and the registry. -/
inductive Stride where
  | act (action : Action)
  /-- A program changes its thread's stack, whichever context it does it with. -/
  | edit (thread : ThreadId) (edit : Stack.Edit)
  | stack (thread : ThreadId) (act : Program.StackAct)
  | registry (thread : ThreadId) (act : Program.RegistryAct)
  /-- A program asks for the concurrency that a new context would have. -/
  | ask (thread : ThreadId)

/-- A stride, and the process in which it is taken. -/
structure Pace where
  before : System
  stride : Stride

namespace System

def Admits (system : System) : Stride → Prop
  | .act action => system.Enabled action
  | .edit thread _ | .stack thread _ | .registry thread _ | .ask thread => system.isRunning thread

instance (system : System) (stride : Stride) : Decidable (system.Admits stride) :=
  match stride with
  | .act action => inferInstanceAs (Decidable (system.Enabled action))
  | .edit thread _ | .stack thread _ | .registry thread _ | .ask thread =>
    inferInstanceAs (Decidable (system.isRunning thread = true))

def follow (system : System) : Stride → System
  | .act action => system.perform action
  | .edit thread edit => system.setStack thread ((system.stack thread).edit edit)
  | .stack thread act => (act.perform system thread).2
  | .registry thread act => (act.perform system thread).2
  | .ask thread => (system.currentConcurrency thread).2

def admits (system : System) : List Stride → Bool
  | [] => true
  | stride :: rest => decide (system.Admits stride) && (system.follow stride).admits rest

def followAll (system : System) (strides : List Stride) : System :=
  strides.foldl follow system

def paces (system : System) (history : List Pace) : List Stride → List Pace
  | [] => history
  | stride :: rest => (system.follow stride).paces (⟨system, stride⟩ :: history) rest

end System

/-- What a process has come to in strides; its history lists the paces, latest first. -/
inductive Proceeds (first : System) : (history : List Pace) → System → Prop
  | start : Proceeds first [] first
  | step {history : List Pace} {system : System} {stride : Stride} :
    Proceeds first history system → system.Admits stride →
      Proceeds first (⟨system, stride⟩ :: history) (system.follow stride)

namespace Proceeds

variable {first system later : System} {history more : List Pace}

theorem trans (proceeds : Proceeds first history system) (continued : Proceeds system more later) :
    Proceeds first (more ++ history) later := by
  induction continued with
  | start => exact proceeds
  | step _ admitted ih => exact ih.step admitted

theorem followAll (proceeds : Proceeds first history system) {strides : List Stride}
    (admitted : system.admits strides = true) :
    Proceeds first (system.paces history strides) (system.followAll strides) := by
  induction strides generalizing system history with
  | nil => exact proceeds
  | cons stride rest ih =>
    simp only [System.admits, Bool.and_eq_true, decide_eq_true_eq] at admitted
    exact ih (proceeds.step admitted.1) admitted.2

end Proceeds

namespace System

variable {system after : System} {thread id : ThreadId} {events : List Event}

/-! ## What a program does to the shared names and to stacks -/

/-- What an act on the stack comes to: a change of the thread's own stack, or of the shared names. -/
inductive Restacks (system : System) (thread : ThreadId) (act : Program.StackAct) : System → Prop
  | still : Restacks system thread act system
  | edit (edit : Stack.Edit) :
    Restacks system thread act (system.setStack thread ((system.stack thread).edit edit))
  | share {name : String} (entry : Entry) (free : system.entry? name = none) :
    Restacks system thread act (system.share name entry)
  | drop {name : String} (drops : act = .dropSnapshot name) : Restacks system thread act (system.unshare name)

/-- A name that is not taken is not shared. -/
theorem entry?_of_free {name : String} (free : ¬ system.isTaken thread name = true) : system.entry? name = none := by
  simp only [isTaken, Bool.or_eq_true, not_or, Option.isSome_iff_ne_none, ne_eq, not_not] at free
  exact free.2

theorem restacks (system : System) (thread : ThreadId) (act : Program.StackAct) :
    system.Restacks thread act (act.perform system thread).2 := by
  cases act with
  | object name kind =>
    simp only [Program.StackAct.perform]
    split_ifs with taken
    · exact .still
    · cases kind with
      | none => exact .still
      | some kind => exact .share _ (entry?_of_free taken)
  | push name =>
    simp only [Program.StackAct.perform, Program.withObject]
    split
    · exact .still
    · rename_i context _
      exact .edit (.push context)
  | pop name =>
    simp only [Program.StackAct.perform, Program.withObject]
    split
    · exact .still
    · rename_i context _
      cases popped : (system.stack thread).pop context with
      | error => exact .still
      | ok later =>
        have edited := @Restacks.edit system thread (.pop name) (.pop context)
        rwa [Stack.edit, popped] at edited
  | remove name =>
    simp only [Program.StackAct.perform, Program.withObject]
    split
    · exact .still
    · rename_i context _
      cases removed : (system.stack thread).remove? context with
      | none => exact .still
      | some later =>
        have edited := @Restacks.edit system thread (.remove name) (.remove context)
        rwa [Stack.edit, Stack.remove, removed] at edited
  | ensure name =>
    simp only [Program.StackAct.perform, Program.withObject]
    split
    · exact .still
    · split <;> exact .still
  | isCurrent name =>
    simp only [Program.StackAct.perform, Program.withObject]
    split <;> exact .still
  | current kind => cases kind <;> exact .still
  | depth => exact .still
  | snapshot name empty =>
    simp only [Program.StackAct.perform]
    split_ifs with taken
    · exact .still
    · exact .share _ (entry?_of_free taken)
    · exact .share _ (entry?_of_free taken)
  | snapshotInfo name =>
    simp only [Program.StackAct.perform]
    split <;> exact .still
  | dropSnapshot name =>
    simp only [Program.StackAct.perform]
    split
    · exact .still
    · exact .drop rfl

/-- An act on the registry touches no context, no work, no lease and no thread. -/
theorem quiet_registry (thread : ThreadId) (act : Program.RegistryAct) :
    system.Quiet (act.perform system thread).2 := by
  cases act with
  | factory name spec =>
    simp only [Program.RegistryAct.perform]
    split_ifs
    · exact .refl system
    · split
      · exact .refl system
      · exact .of_same rfl rfl rfl rfl
  | register name =>
    simp only [Program.RegistryAct.perform]
    split
    · exact .refl system
    · exact .of_same rfl rfl rfl rfl
  | unregister => exact .of_same rfl rfl rfl rfl
  | isRegistered => exact .refl system
  | root => exact quiet_supplyRoot
  | lookups name =>
    simp only [Program.RegistryAct.perform]
    split <;> exact .refl system

/-! ## What holds on -/

/-- A step that is not seen but on stacks, shared names and what nothing refers to yet. -/
structure Mild (system after : System) : Prop where
  quiet : system.picture.Quiet after.picture
  activations : ∀ id, (after.thread id).activations = (system.thread id).activations

theorem Quiet.mild (quiet : system.Quiet after) : system.Mild after where
  quiet := quiet.picture
  activations id := congrArg Thread.activations (thread_of_threads quiet.threads id)

theorem Mild.of_picture (same : after.picture = system.picture)
    (activations : ∀ id, (after.thread id).activations = (system.thread id).activations) : system.Mild after where
  quiet := same ▸ .intro (fun _ => .refl _) fun _ => .refl _
  activations := activations

theorem mild_setStack (thread : ThreadId) (stack : Stack) : system.Mild (system.setStack thread stack) := by
  refine .of_picture (picture_setStack thread stack) fun id => ?_
  rw [setStack, thread_modifyThread]
  split_ifs <;> rfl

theorem Restacks.mild {act : Program.StackAct} (restacks : system.Restacks thread act after) : system.Mild after := by
  cases restacks with
  | edit => exact mild_setStack thread _
  | still | share | drop => exact .of_picture rfl fun _ => rfl

namespace Mild

variable (mild : system.Mild after)

include mild

theorem works : after.works = system.works :=
  mild.quiet.works_eq

theorem work (work : WorkId) : after.work work = system.work work := by
  rw [System.work, mild.works, System.work]

theorem stays_sound (sound : system.picture.Sound events) : ∃ more, after.picture.Sound more :=
  ⟨_, sound.step (.quiet mild.quiet)⟩

theorem stays_apart (apart : system.picture.Apart) (sound : system.picture.Sound events) : after.picture.Apart :=
  apart.enlists sound.channels (.quiet mild.quiet)

theorem stays_rooted (rooted : system.Rooted) : after.Rooted := by
  intro id role root
  rw [mild.activations] at root
  have busy : (system.thread id).activations ≠ [] := by
    intro idle
    rw [idle] at root
    exact absurd root.symm (Option.some_ne_none role)
  obtain ⟨started, enlists⟩ := Picture.Enlists.quiet mild.quiet
  rcases rooted id role root with ⟨program, alone⟩ | ⟨work, runs, placement⟩
  · refine .inl ⟨program, fun station helps => ?_⟩
    rcases enlists station id helps with before | ⟨-, new⟩
    · exact alone station before
    · exact Nat.ne_of_lt (lt_of_activations busy) new
  · refine .inr ⟨work, runs, ?_⟩
    rw [mild.work]
    exact placement

end Mild

theorem mild_follow {stride : Stride} (other : ∀ action, stride ≠ .act action) :
    system.Mild (system.follow stride) := by
  cases stride with
  | act action => exact (other action rfl).elim
  | edit thread edit => exact mild_setStack thread _
  | stack thread act => exact (system.restacks thread act).mild
  | registry thread act => exact (quiet_registry thread act).mild
  | ask thread => exact (quiet_enclosing thread).mild

/-- What holds whichever strides are taken: the rules of accounting, that no two slots have the same helper, and that
helpers run nothing but what was sent to them. -/
structure Regular (system : System) : Prop where
  sound : ∃ events, system.picture.Sound events
  apart : system.picture.Apart
  rooted : system.Rooted

theorem regular_initial (setting : Setting.State) : (initial setting).Regular :=
  ⟨⟨_, initial_sound setting⟩, Reaches.start.apart, Reaches.start.rooted⟩

theorem Regular.follow (regular : system.Regular) {stride : Stride} (admitted : system.Admits stride) :
    (system.follow stride).Regular := by
  obtain ⟨⟨events, sound⟩, apart, rooted⟩ := regular
  have kept (mild : system.Mild (system.follow stride)) : (system.follow stride).Regular :=
    ⟨mild.stays_sound sound, mild.stays_apart apart sound, mild.stays_rooted rooted⟩
  cases stride with
  | act action =>
    have step := step_perform sound admitted
    exact ⟨⟨_, sound.step step⟩, apart.enlists sound.channels step.enlists, rooted.step sound apart admitted⟩
  | edit | stack | registry | ask => exact kept (mild_follow fun _ same => Stride.noConfusion same)

/-- What an action does to a thread. -/
theorem Regular.turn (regular : system.Regular) {action : Action} (enabled : system.Enabled action) (id : ThreadId) :
    system.Turn action id ((system.perform action).stack id) ((system.perform action).thread id).activations :=
  let ⟨⟨_, sound⟩, apart, rooted⟩ := regular
  turn_perform sound apart rooted enabled id

/-! ## The registered factory and the shared names -/

/-- Which factory is registered, and what is shared under which name. -/
def desk (system : System) : Option FactoryId × List (String × Entry) :=
  (system.registered, system.directory)

theorem desk_of_backdrop (same : after.backdrop = system.backdrop) : after.desk = system.desk := by
  have desk (system : System) : system.backdrop.desk = system.desk := rfl
  rw [← desk, same, desk]

theorem desk_rootFrom (source : RootSource) : (system.rootFrom source).2.desk = system.desk := by
  have pooled (system : System) : system.getGlobalPool.2.desk = system.desk := by
    rw [getGlobalPool]
    split <;> rfl
  cases source with
  | scope | fresh => rfl
  | standard =>
    rw [rootFrom, getStandardRoot]
    split
    · rfl
    · exact pooled _

theorem desk_supplyRoot (system : System) : system.supplyRoot.2.desk = system.desk := by
  obtain ⟨factories, found⟩ := system.supplyRoot_eq
  rw [found]
  exact desk_rootFrom _

theorem desk_enclosing (system : System) (thread : ThreadId) : (system.enclosing thread).2.desk = system.desk := by
  rw [enclosing]
  split
  · rfl
  · exact desk_supplyRoot system

/-- Only a registration changes the registered factory, and no action the shared names. -/
theorem desk_perform (sound : system.picture.Sound events) {action : Action} (enabled : system.Enabled action)
    (other : ∀ factory, action ≠ .register factory) : (system.perform action).desk = system.desk := by
  cases action with
  | enter thread tenure => exact desk_enclosing system thread
  | submit thread target =>
    let counted := system.modifyScope target Scope.countDispatched
    have acquired : _ = counted.desk := desk_of_backdrop
      (@backdrop_acquire counted (system.scope target).pool (system.scope target).concurrency)
    simp only [perform, submit]
    split
    · exact acquired
    · exact (desk_of_backdrop (backdrop_handOver _ _ _ _)).trans acquired
    · exact (desk_of_backdrop (backdrop_beginWork _ _ _)).trans acquired
  | leave thread =>
    obtain ⟨-, -, target, -, -, -, -, -, -, left⟩ := leave_cases sound enabled
    rw [left]
    rfl
  | endLogic thread outcome =>
    simp only [perform, withCurrentWork]
    cases system.currentWork? thread with
    | none => rfl
    | some work =>
      have ended := desk_of_backdrop (@backdrop_endProgram system thread)
      simp only [Option.elim_some, recordOutcome]
      split <;> exact ended
  | complete thread =>
    simp only [perform, withCurrentWork]
    cases system.currentWork? thread with
    | none => rfl
    | some work =>
      simp only [Option.elim_some, completeWork]
      split <;> rfl
  | register factory => exact (other factory rfl).elim
  | enterIn | reduce | beginExit | beginDrop | makeRoot | makeFactory | reroute | configure => rfl
  | attach | detach | acquire | dropLease | passLease | dispatch | free | endJob | vacate | next | die | makePool
  | dropPool | bar | start | finish => exact desk_of_backdrop (backdrop_of_spares rfl rfl)

end System

theorem Proceeds.regular {first system : System} {history : List Pace} (proceeds : Proceeds first history system)
    (regular : first.Regular) : system.Regular := by
  induction proceeds with
  | start => exact regular
  | step _ admitted ih => exact ih.follow admitted

end ScopedWork
