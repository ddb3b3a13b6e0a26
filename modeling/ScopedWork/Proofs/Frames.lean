import ScopedWork.Stack
import Mathlib.Data.List.Infix

/-! # Stacks that share their frames

In memory a stack is a reference to its top frame, and each frame refers to the one below it. Stacks and snapshots
share the frames that they have in common, on whichever thread they are. Here the changes of a stack are made on
such frames: frames are added and none is ever changed, so a removal makes the frames anew that stood above the
removed one. What memory shows is then that a stack is a value, which no change of another can reach.
-/

namespace ScopedWork

open Failure (StateError)

/-- The number of a frame, counted from 0 in the order in which frames are made. -/
abbrev FrameId := Nat

/-- A context over the frame below it. -/
structure Frame where
  context : Context
  below : Option FrameId
  deriving DecidableEq, Repr

/-! ## Frames in memory, latest first -/

/-- Whether every frame stands over an earlier one. -/
def AreGrounded : List Frame → Prop
  | [] => True
  | frame :: older => (∀ id ∈ frame.below, id < older.length) ∧ AreGrounded older

def frame? : List Frame → FrameId → Option Frame
  | [], _ => none
  | frame :: older, id => if id = older.length then some frame else frame? older id

/-- The contexts of the chain that begins with a frame, top first. -/
def chain : List Frame → Option FrameId → List Context
  | [], _ | _ :: _, none => []
  | frame :: older, some id =>
    if id = older.length then frame.context :: chain older frame.below else chain older (some id)

/-- Walks down from a frame to a context. It comes back with the contexts above, nearest first, and with the frame
below; with nothing if the context is not there. -/
def walk (context : Context) : (above : List Context) → List Frame → Option FrameId →
    Option (List Context × Option FrameId)
  | _, [], _ | _, _ :: _, none => none
  | above, frame :: older, some id =>
    if id = older.length then
      if frame.context = context then some (above, frame.below)
      else walk context (frame.context :: above) older frame.below
    else walk context above older (some id)

section Reading

variable {frames later : List Frame} {frame : Frame} {id : FrameId} {top : Option FrameId} {context : Context}
  {above contexts : List Context}

@[simp] theorem chain_none (frames : List Frame) : chain frames none = [] := by
  cases frames <;> rfl

/-- A frame that is added stands in no chain that was there. -/
theorem chain_cons (frame : Frame) (held : ∀ id ∈ top, id < frames.length) :
    chain (frame :: frames) top = chain frames top := by
  cases top with
  | none => rw [chain_none, chain_none]
  | some id => exact if_neg (Nat.ne_of_lt (held id rfl))

/-- However many frames are added, a chain that was there stays as it was. -/
theorem chain_suffix (kept : frames <:+ later) (held : ∀ id ∈ top, id < frames.length) :
    chain later top = chain frames top := by
  obtain ⟨added, rfl⟩ := kept
  induction added with
  | nil => rfl
  | cons frame added ih =>
    have longer : frames.length ≤ (added ++ frames).length := by
      rw [List.length_append]
      exact Nat.le_add_left _ _
    exact (chain_cons frame fun id member => Nat.lt_of_lt_of_le (held id member) longer).trans ih

theorem below_lt (grounded : AreGrounded frames) (found : frame? frames id = some frame) :
    ∀ below ∈ frame.below, below < frames.length := by
  induction frames with
  | nil => exact absurd found.symm (Option.some_ne_none frame)
  | cons newest older ih =>
    intro below member
    rw [frame?] at found
    split_ifs at found
    · obtain rfl := Option.some.inj found
      exact Nat.lt_succ_of_lt (grounded.1 below member)
    · exact Nat.lt_succ_of_lt (ih grounded.2 found below member)

/-- The chain of a frame is its context over the chain below it. -/
theorem chain_of_frame (grounded : AreGrounded frames) (found : frame? frames id = some frame) :
    chain frames (some id) = frame.context :: chain frames frame.below := by
  induction frames with
  | nil => exact absurd found.symm (Option.some_ne_none frame)
  | cons newest older ih =>
    rw [frame?] at found
    split_ifs at found with last
    · obtain rfl := Option.some.inj found
      rw [chain, if_pos last, chain_cons newest grounded.1]
    · rw [chain, if_neg last, ih grounded.2 found, chain_cons newest (below_lt grounded.2 found)]

theorem frame?_of_lt (inside : id < frames.length) : ∃ frame, frame? frames id = some frame := by
  induction frames with
  | nil => exact absurd inside (Nat.not_lt_zero id)
  | cons newest older ih =>
    by_cases last : id = older.length
    · exact ⟨newest, if_pos last⟩
    · rw [frame?, if_neg last]
      exact ih (Nat.lt_of_le_of_ne (Nat.le_of_lt_succ inside) last)

/-- A walk comes back with a frame that there is, or with none. -/
theorem walk_held (grounded : AreGrounded frames) {found : List Context × Option FrameId}
    (walked : walk context above frames top = some found) : ∀ id ∈ found.2, id < frames.length := by
  induction frames generalizing above top with
  | nil => exact absurd walked.symm (Option.some_ne_none found)
  | cons newest older ih =>
    intro id member
    cases top with
    | none => exact absurd walked.symm (Option.some_ne_none found)
    | some top =>
      rw [walk] at walked
      split_ifs at walked
      · obtain rfl := Option.some.inj walked
        exact Nat.lt_succ_of_lt (grounded.1 id member)
      · exact Nat.lt_succ_of_lt (ih grounded.2 walked id member)
      · exact Nat.lt_succ_of_lt (ih grounded.2 walked id member)

/-- A walk along the frames finds what a walk along their contexts finds. -/
theorem removeBelow_chain (grounded : AreGrounded frames) (context : Context) (above : List Context)
    (top : Option FrameId) : Stack.removeBelow context above (chain frames top) =
      (walk context above frames top).map fun found => Stack.rebuild found.1 (chain frames found.2) := by
  induction frames generalizing above top with
  | nil => rfl
  | cons newest older ih =>
    -- what is found further down stands there without the newest frame
    have further (above : List Context) (top : Option FrameId) :
        Stack.removeBelow context above (chain older top) = (walk context above older top).map fun found =>
          Stack.rebuild found.1 (chain (newest :: older) found.2) := by
      rw [ih grounded.2]
      cases walked : walk context above older top with
      | none => rfl
      | some found => rw [Option.map_some, Option.map_some, chain_cons newest (walk_held grounded.2 walked)]
    cases top with
    | none => rfl
    | some id =>
      rw [chain, walk]
      split_ifs with last here
      · rw [Stack.removeBelow, if_pos here, Option.map_some, chain_cons newest grounded.1]
      · rw [Stack.removeBelow, if_neg here]
        exact further _ _
      · exact further _ _

end Reading

/-! ## A stack on frames -/

/-- A stack as memory has it: the frames that have been made, for whatever stacks, and the top one of this stack. -/
structure SharedStack where
  frames : List Frame
  top : Option FrameId
  grounded : AreGrounded frames
  held : ∀ id ∈ top, id < frames.length

namespace SharedStack

variable (shared : SharedStack)

/-- The stack that is meant. -/
def stack : Stack :=
  { frames := chain shared.frames shared.top }

def push (context : Context) : SharedStack where
  frames := { context, below := shared.top } :: shared.frames
  top := some shared.frames.length
  grounded := ⟨shared.held, shared.grounded⟩
  held id member := by
    rw [← Option.some.inj member]
    exact Nat.lt_succ_self _

/-- The frame below the top one becomes the top, if the context is the top one's. -/
def pop (context : Context) : Except StateError SharedStack :=
  match found : shared.top.bind (frame? shared.frames) with
  | none => .error (.empty context.capability.name)
  | some frame =>
    if frame.context = context then
      .ok { shared with
        top := frame.below
        held := by
          obtain ⟨id, -, found⟩ := Option.bind_eq_some_iff.mp found
          exact below_lt shared.grounded found }
    else .error (Stack.notCurrent context)

/-- New frames for contexts, nearest first. -/
def rebuild (shared : SharedStack) : List Context → SharedStack
  | [] => shared
  | kept :: above => (shared.push kept).rebuild above

/-- The frames above the topmost one of a context are made anew over the one below it. -/
def remove? (context : Context) : Option SharedStack :=
  match walked : walk context [] shared.frames shared.top with
  | none => none
  | some (above, below) =>
    some (rebuild { shared with top := below, held := walk_held shared.grounded walked } above)

variable {shared}

theorem stack_push (context : Context) : (shared.push context).stack = shared.stack.push context :=
  congrArg Stack.mk (if_pos rfl)

/-- A stack shows the context of its top frame over the chain below it. -/
theorem frames_of_top {frame : Frame} (found : shared.top.bind (frame? shared.frames) = some frame) :
    shared.stack.frames = frame.context :: chain shared.frames frame.below := by
  obtain ⟨id, top, found⟩ := Option.bind_eq_some_iff.mp found
  rw [stack, top]
  exact chain_of_frame shared.grounded found

theorem frames_of_empty (missing : shared.top.bind (frame? shared.frames) = none) : shared.stack.frames = [] := by
  cases top : shared.top with
  | none => rw [stack, top, chain_none]
  | some id =>
    obtain ⟨frame, found⟩ := frame?_of_lt (shared.held id top)
    rw [top, Option.bind_some, found] at missing
    exact absurd missing (Option.some_ne_none frame)

theorem stack_pop (context : Context) : (shared.pop context).map stack = shared.stack.pop context := by
  rw [pop, Stack.pop]
  split
  · rename_i missing
    rw [frames_of_empty missing]
    rfl
  · rename_i frame found
    rw [frames_of_top found]
    dsimp only
    split_ifs <;> rfl

theorem frames_rebuild (shared : SharedStack) (above : List Context) :
    (shared.rebuild above).stack.frames = Stack.rebuild above shared.stack.frames := by
  induction above generalizing shared with
  | nil => rfl
  | cons kept above ih =>
    rw [rebuild, ih, stack_push]
    rfl

theorem stack_remove? (context : Context) : (shared.remove? context).map stack = shared.stack.remove? context := by
  have same := removeBelow_chain shared.grounded context [] shared.top
  rw [remove?, Stack.remove?, stack]
  split
  · rename_i walked
    rw [same, walked]
    rfl
  · rename_i above below walked
    rw [walked] at same
    rw [same]
    exact congrArg some (congrArg Stack.mk (frames_rebuild _ above))

/-! ## Frames are only added -/

theorem suffix_rebuild (shared : SharedStack) (above : List Context) :
    shared.frames <:+ (shared.rebuild above).frames := by
  induction above generalizing shared with
  | nil => exact List.suffix_refl _
  | cons kept above ih => exact (List.suffix_cons _ _).trans (ih (shared.push kept))

theorem suffix_pop {later : SharedStack} {context : Context} (popped : shared.pop context = .ok later) :
    later.frames = shared.frames := by
  rw [pop] at popped
  split at popped
  · cases popped
  · split_ifs at popped
    rw [← Except.ok.inj popped]

theorem suffix_remove? {later : SharedStack} {context : Context} (removed : shared.remove? context = some later) :
    shared.frames <:+ later.frames := by
  rw [remove?] at removed
  split at removed
  · cases removed
  · rename_i above below walked
    rw [← Option.some.inj removed]
    exact suffix_rebuild { shared with top := below, held := walk_held shared.grounded walked } above

end SharedStack

/-! ## The changes of a stack -/

/-- What can be done to a stack. -/
inductive Stack.Edit where
  | push (context : Context)
  | pop (context : Context)
  | remove (context : Context)
  deriving DecidableEq, Repr

/-- The stack after a change, or as it was if the change is refused. -/
def Stack.edit (stack : Stack) : Stack.Edit → Stack
  | .push context => stack.push context
  | .pop context => (stack.pop context).toOption.getD stack
  | .remove context => stack.remove context

namespace SharedStack

variable {shared : SharedStack} {top : Option FrameId}

/-- A change of a stack, made on its frames. -/
def edit (shared : SharedStack) : Stack.Edit → SharedStack
  | .push context => shared.push context
  | .pop context => (shared.pop context).toOption.getD shared
  | .remove context => (shared.remove? context).getD shared

/-- Memory shows the stack that the change makes. -/
theorem stack_edit (edit : Stack.Edit) : (shared.edit edit).stack = shared.stack.edit edit := by
  cases edit with
  | push context => exact stack_push context
  | pop context =>
    rw [SharedStack.edit, Stack.edit, ← stack_pop]
    cases shared.pop context <;> rfl
  | remove context =>
    rw [SharedStack.edit, Stack.edit, Stack.remove, ← stack_remove?]
    cases shared.remove? context <;> rfl

theorem suffix_edit (edit : Stack.Edit) : shared.frames <:+ (shared.edit edit).frames := by
  cases edit with
  | push context => exact List.suffix_cons _ _
  | pop context =>
    rw [SharedStack.edit]
    cases popped : shared.pop context with
    | error => exact List.suffix_refl _
    | ok later => exact (suffix_pop popped).symm ▸ List.suffix_refl _
  | remove context =>
    rw [SharedStack.edit]
    cases removed : shared.remove? context with
    | none => exact List.suffix_refl _
    | some later => exact suffix_remove? removed

/-- A change of one stack reaches no other, nor a snapshot, however many frames they share with it. -/
theorem chain_edit (held : ∀ id ∈ top, id < shared.frames.length) (edit : Stack.Edit) :
    chain (shared.edit edit).frames top = chain shared.frames top :=
  chain_suffix (suffix_edit edit) held

end SharedStack

end ScopedWork
