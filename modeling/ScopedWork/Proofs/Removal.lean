import Mathlib.Data.List.Basic
import ScopedWork.Proofs.Frames

/-! # Contexts are taken out from wherever they are

A context that is taken off a stack need not be on top, and it may be there more than once. The walk down to it collects
the frames above, and these are put back in the opposite order, so that they stand as before over what was below. Of
a context that is there several times, one frame goes at a time, the topmost one.
-/

namespace ScopedWork

namespace Stack

variable {stack rest : Stack} {context other : Context} {capability : Capability} {above below : List Context}

theorem rebuild_eq (above rest : List Context) : rebuild above rest = above.reverse ++ rest := by
  induction above generalizing rest with
  | nil => rfl
  | cons kept above ih =>
    rw [rebuild, ih, List.reverse_cons, List.append_assoc, List.singleton_append]

private theorem removeBelow_eq (context : Context) (above frames : List Context) :
    removeBelow context above frames =
      if context ∈ frames then some (above.reverse ++ frames.erase context) else none := by
  induction frames generalizing above with
  | nil => rfl
  | cons frame rest ih =>
    rw [removeBelow]
    split_ifs with here present present
    · subst here
      rw [rebuild_eq, List.erase_cons_head]
    · exact absurd (List.mem_cons.mpr (.inl here.symm)) present
    · have below : context ∈ rest := (List.mem_cons.mp present).resolve_left (Ne.symm here)
      rw [ih, if_pos below, List.erase_cons_tail (by simpa using here), List.reverse_cons, List.append_assoc,
        List.singleton_append]
    · have missing : context ∉ rest := fun below => present (List.mem_cons_of_mem _ below)
      rw [ih, if_neg missing]

theorem remove?_eq (stack : Stack) (context : Context) : stack.remove? context =
    if context ∈ stack.frames then some { frames := stack.frames.erase context } else none := by
  rw [remove?, removeBelow_eq]
  split_ifs <;> rfl

theorem isSome_remove? (stack : Stack) (context : Context) :
    (stack.remove? context).isSome = true ↔ context ∈ stack.frames := by
  rw [remove?_eq]
  split_ifs with present
  · exact iff_of_true rfl present
  · exact iff_of_false Bool.false_ne_true present

/-- To remove a context is to erase its topmost occurrence. -/
theorem remove_frames (stack : Stack) (context : Context) :
    (stack.remove context).frames = stack.frames.erase context := by
  rw [remove, remove?_eq]
  split_ifs with present
  · rfl
  · exact (List.erase_of_not_mem present).symm

theorem remove_of_not_mem (missing : context ∉ stack.frames) : stack.remove context = stack := by
  rw [remove, remove?_eq, if_neg missing]
  rfl

/-- What is above the topmost frame of a context and what is below it are kept as they are. -/
theorem remove?_of_split (split : stack.frames = above ++ context :: below) (topmost : context ∉ above) :
    stack.remove? context = some { frames := above ++ below } := by
  have present : context ∈ stack.frames := split ▸ List.mem_append_right _ List.mem_cons_self
  rw [remove?_eq, if_pos present, split, List.erase_append_right _ topmost, List.erase_cons_head]

theorem remove?_push (stack : Stack) (context : Context) : (stack.push context).remove? context = some stack :=
  remove?_of_split (List.nil_append _).symm List.not_mem_nil

theorem split_of_remove? (removed : stack.remove? context = some rest) : ∃ above below,
    stack.frames = above ++ context :: below ∧ context ∉ above ∧ rest.frames = above ++ below := by
  have present : context ∈ stack.frames := (isSome_remove? stack context).mp (Option.isSome_of_eq_some removed)
  obtain ⟨above, below, topmost, split, -⟩ := List.exists_erase_eq present
  refine ⟨above, below, split, topmost, ?_⟩
  rw [remove?_of_split split topmost] at removed
  rw [← Option.some.inj removed]

theorem remove_comm (stack : Stack) (context other : Context) :
    (stack.remove context).remove other = (stack.remove other).remove context := by
  have frames : ((stack.remove context).remove other).frames = ((stack.remove other).remove context).frames := by
    simp only [remove_frames]
    exact List.erase_comm context other
  exact congrArg Stack.mk frames

/-- Whether a context is found does not depend on whether another has been taken out. -/
theorem isSome_remove?_remove (apart : context ≠ other) :
    ((stack.remove other).remove? context).isSome = (stack.remove? context).isSome := by
  rw [Bool.eq_iff_iff, isSome_remove?, isSome_remove?, remove_frames]
  exact List.mem_erase_of_ne apart

/-- The nearest context of another kind is the same as before. -/
theorem find?_remove (apart : context.capability ≠ capability) :
    (stack.remove context).find? capability = stack.find? capability := by
  cases removed : stack.remove? context with
  | none => rw [remove, removed, Option.getD_none]
  | some rest =>
    obtain ⟨above, below, split, -, kept⟩ := split_of_remove? removed
    rw [remove, removed, Option.getD_some, find?, find?, split, kept, List.find?_append, List.find?_append,
      List.find?_cons, decide_eq_false apart]

/-- The nearest scope is the scope of the nearest context of that kind. -/
theorem currentScope?_eq (stack : Stack) : stack.currentScope? = (stack.find? .scope).bind fun
    | .scope id => some id
    | .object _ _ => none := by
  obtain ⟨frames⟩ := stack
  induction frames with
  | nil => rfl
  | cons context rest ih =>
    cases context with
    | scope id => rfl
    | object kind name => exact ih

/-- What becomes of a stack when a context is taken out. -/
structure RemovesOne (stack : Stack) (context : Context) : Prop where
  /-- The walk finds the context if any frame holds it. -/
  found : (stack.remove? context).isSome = true ↔ context ∈ stack.frames
  /-- Only the topmost frame that holds it is gone then; the others are the same contexts in the same order. -/
  removed {rest : Stack} : stack.remove? context = some rest ↔ ∃ above below,
    stack.frames = above ++ context :: below ∧ context ∉ above ∧ rest.frames = above ++ below
  /-- If no frame holds it, the stack stays as it is. -/
  missing : context ∉ stack.frames → stack.remove context = stack
  /-- The same comes of the walk along the frames in memory, however many they share with other stacks. -/
  shared {shared : SharedStack} : shared.stack = stack →
    (shared.remove? context).map SharedStack.stack = stack.remove? context
  /-- A context that has just been pushed is taken off again. -/
  pushed : (stack.push context).remove? context = some stack
  /-- Two contexts can be taken out in either order. -/
  commutes (other : Context) : (stack.remove context).remove other = (stack.remove other).remove context
  /-- Whether one of them is found does not depend on the other. -/
  independent {other : Context} : context ≠ other →
    ((stack.remove other).remove? context).isSome = (stack.remove? context).isSome
  /-- Contexts of other kinds are looked up as before. -/
  current {capability : Capability} : context.capability ≠ capability →
    (stack.remove context).find? capability = stack.find? capability
  currentScope : context.capability ≠ .scope → (stack.remove context).currentScope? = stack.currentScope?

/-- From every stack, one frame of a context is taken out if there is one, and nothing else changes. -/
theorem removes_one (stack : Stack) (context : Context) : stack.RemovesOne context := by
  constructor
  case found => exact isSome_remove? stack context
  case removed =>
    intro rest
    constructor
    · exact split_of_remove?
    · rintro ⟨above, below, split, topmost, kept⟩
      rw [remove?_of_split split topmost, ← kept]
  case missing => exact remove_of_not_mem
  case shared =>
    rintro shared rfl
    exact SharedStack.stack_remove? context
  case pushed => exact remove?_push stack context
  case commutes => exact remove_comm stack context
  case independent => exact isSome_remove?_remove
  case current => exact find?_remove
  case currentScope =>
    intro apart
    rw [currentScope?_eq, currentScope?_eq, find?_remove apart]

end Stack

end ScopedWork
