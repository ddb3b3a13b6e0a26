import Mathlib.Data.List.Induction
import ScopedWork.Proofs.Removal

/-! # Contexts are popped in the opposite order

Whether a context is on top of a stack is asked in three ways, and the three agree: it is current, it is ensured to be
current, and it can be popped. What can be popped can as well be removed, with the same result. Contexts that have been
pushed are popped in the opposite order, down to the stack that they were pushed on; whoever tries another order is
refused at the first context that is not on top, and the stack stays as it is.
-/

namespace ScopedWork

open Failure (StateError)

namespace Stack

def pushAll (stack : Stack) (contexts : List Context) : Stack :=
  contexts.foldl push stack

/-- Takes contexts off the top, one after the other, until one is refused. -/
def popAll (stack : Stack) (contexts : List Context) : Except StateError Stack :=
  contexts.foldlM pop stack

variable {stack rest : Stack} {context : Context}

/-! ## One context -/

theorem isCurrent_iff (stack : Stack) (context : Context) :
    stack.isCurrent context = true ↔ ∃ below, stack.frames = context :: below := by
  obtain ⟨frames⟩ := stack
  cases frames with
  | nil => exact ⟨nofun, nofun⟩
  | cons top below =>
    rw [isCurrent, decide_eq_true_eq]
    exact ⟨fun here => ⟨below, by rw [here]⟩, fun ⟨_, same⟩ => (List.cons.inj same).1⟩

theorem pop_push (stack : Stack) (context : Context) : (stack.push context).pop context = .ok stack :=
  if_pos rfl

/-- What is not on top cannot be popped. -/
theorem pop_of_not_isCurrent (current : stack.isCurrent context = false) : stack.pop context =
    .error (if stack.isEmpty then .empty context.capability.name else .notCurrent context.capability.name) := by
  obtain ⟨frames⟩ := stack
  cases frames with
  | nil => rfl
  | cons top below => exact if_neg (decide_eq_false_iff_not.mp current)

/-- What can be popped off a stack is what it has been pushed on. -/
theorem pop_eq_ok_iff : stack.pop context = .ok rest ↔ stack = rest.push context := by
  constructor
  · intro popped
    cases current : stack.isCurrent context with
    | false =>
      rw [pop_of_not_isCurrent current] at popped
      cases popped
    | true =>
      obtain ⟨below, frames⟩ := (isCurrent_iff stack context).mp current
      obtain rfl : stack = push { frames := below } context := congrArg Stack.mk frames
      rw [pop_push] at popped
      rw [Except.ok.inj popped]
  · rintro rfl
    exact pop_push rest context

theorem isCurrent_push (stack : Stack) (context : Context) : (stack.push context).isCurrent context = true :=
  (isCurrent_iff _ context).mpr ⟨stack.frames, rfl⟩

/-- What is on top can be popped. -/
theorem pop_of_isCurrent (current : stack.isCurrent context = true) : ∃ rest, stack.pop context = .ok rest := by
  obtain ⟨below, frames⟩ := (isCurrent_iff stack context).mp current
  exact ⟨{ frames := below }, pop_eq_ok_iff.mpr (congrArg Stack.mk frames)⟩

theorem isCurrent_of_pop (popped : stack.pop context = .ok rest) : stack.isCurrent context = true := by
  rw [pop_eq_ok_iff.mp popped]
  exact isCurrent_push rest context

theorem remove?_of_pop (popped : stack.pop context = .ok rest) : stack.remove? context = some rest := by
  rw [pop_eq_ok_iff.mp popped]
  exact remove?_push rest context

theorem remove_of_pop (popped : stack.pop context = .ok rest) : stack.remove context = rest := by
  rw [remove, remove?_of_pop popped, Option.getD_some]

theorem ensureCurrent_eq_ok_iff : stack.ensureCurrent context = .ok () ↔ stack.isCurrent context = true := by
  rw [ensureCurrent]
  split_ifs with current
  · exact iff_of_true rfl current
  · exact iff_of_false nofun current

/-- A context that is current can be popped. -/
theorem pop_of_ensureCurrent (current : stack.ensureCurrent context = .ok ()) :
    ∃ rest, stack.pop context = .ok rest :=
  pop_of_isCurrent (ensureCurrent_eq_ok_iff.mp current)

theorem ensureCurrent_of_not_isCurrent (current : stack.isCurrent context = false) :
    stack.ensureCurrent context = .error (.notCurrent context.capability.name) := by
  rw [ensureCurrent, current]
  rfl

theorem edit_of_pop_error {error : StateError} (refused : stack.pop context = .error error) :
    stack.edit (.pop context) = stack := by
  rw [edit, refused]
  rfl

/-! ## Several contexts -/

theorem pushAll_append (stack : Stack) (early late : List Context) :
    stack.pushAll (early ++ late) = (stack.pushAll early).pushAll late :=
  List.foldl_append

theorem pushAll_concat (stack : Stack) (early : List Context) (context : Context) :
    stack.pushAll (early ++ [context]) = (stack.pushAll early).push context :=
  List.foldl_concat ..

theorem popAll_cons_of_ok (popped : stack.pop context = .ok rest) (contexts : List Context) :
    stack.popAll (context :: contexts) = rest.popAll contexts := by
  rw [popAll, List.foldlM_cons, popped]
  rfl

theorem popAll_cons_of_error {error : StateError} (refused : stack.pop context = .error error)
    (contexts : List Context) : stack.popAll (context :: contexts) = .error error := by
  rw [popAll, List.foldlM_cons, refused]
  rfl

/-- The contexts pushed last are popped first, down to those pushed before. -/
theorem popAll_reverse (stack : Stack) (late others : List Context) :
    (stack.pushAll late).popAll (late.reverse ++ others) = stack.popAll others := by
  induction late using List.reverseRecOn generalizing others with
  | nil => rfl
  | append_singleton late context ih =>
    rw [pushAll_concat, List.reverse_append, List.reverse_singleton, List.singleton_append, List.cons_append,
      popAll_cons_of_ok (pop_push _ context), ih]

theorem popAll_pushed (stack : Stack) (early late : List Context) :
    (stack.pushAll (early ++ late)).popAll late.reverse = .ok (stack.pushAll early) := by
  have popped := popAll_reverse (stack.pushAll early) late []
  rw [List.append_nil] at popped
  rw [pushAll_append, popped]
  rfl

/-- Two orders of as many contexts are the same up to a first difference. -/
theorem exists_difference {order expected : List Context} (length : order.length = expected.length)
    (apart : order ≠ expected) : ∃ agreed next later top rest,
      order = agreed ++ next :: later ∧ expected = agreed ++ top :: rest ∧ next ≠ top := by
  induction order generalizing expected with
  | nil => exact absurd (List.length_eq_zero_iff.mp length.symm).symm apart
  | cons next order ih =>
    cases expected with
    | nil => exact absurd length (Nat.succ_ne_zero _)
    | cons top expected =>
      by_cases same : next = top
      · subst same
        obtain ⟨agreed, other, later, top, rest, rfl, rfl, different⟩ :=
          ih (Nat.succ.inj length) fun same => apart (congrArg _ same)
        exact ⟨next :: agreed, other, later, top, rest, rfl, rfl, different⟩
      · exact ⟨[], next, order, top, expected, rfl, rfl, same⟩

/-! ## The checks of a stack -/

/-- The first context that is popped out of order, and what comes of it. The contexts `late` have been popped in order,
`top` has its turn, and `next` comes instead. -/
structure RefusesAt (stack : Stack) (contexts order early late later : List Context) (top next : Context) : Prop where
  pushed : contexts = early ++ top :: late
  popped : order = late.reverse ++ next :: later
  apart : next ≠ top
  inOrder : (stack.pushAll contexts).popAll late.reverse = .ok (stack.pushAll (early ++ [top]))
  refused : (stack.pushAll (early ++ [top])).pop next = .error (.notCurrent next.capability.name)
  untouched : (stack.pushAll (early ++ [top])).edit (.pop next) = stack.pushAll (early ++ [top])
  reported : (stack.pushAll contexts).popAll order = .error (.notCurrent next.capability.name)

/-- Whoever comes when another is on top is refused, with the contexts above it already popped. -/
theorem refusesAt {top next : Context} (apart : next ≠ top) (stack : Stack) (early late later : List Context) :
    stack.RefusesAt (early ++ top :: late) (late.reverse ++ next :: later) early late later top next := by
  have split : early ++ top :: late = (early ++ [top]) ++ late := by rw [List.append_assoc, List.singleton_append]
  have current : (stack.pushAll (early ++ [top])).isCurrent next = false := by
    rw [pushAll_concat, isCurrent]
    exact decide_eq_false apart.symm
  have refused : (stack.pushAll (early ++ [top])).pop next = .error (.notCurrent next.capability.name) := by
    rw [pop_of_not_isCurrent current, pushAll_concat]
    rfl
  constructor
  case pushed => rfl
  case popped => rfl
  case apart => exact apart
  case inOrder =>
    rw [split]
    exact popAll_pushed stack _ late
  case refused => exact refused
  case untouched => exact edit_of_pop_error refused
  case reported =>
    rw [split, pushAll_append, popAll_reverse]
    exact popAll_cons_of_error refused later

/-- In any order but the opposite one, somebody comes first who is refused. -/
theorem exists_refusesAt (stack : Stack) {contexts order : List Context} (permuted : order.Perm contexts)
    (apart : order ≠ contexts.reverse) :
    ∃ early late later top next, stack.RefusesAt contexts order early late later top next := by
  have length : order.length = contexts.reverse.length := permuted.length_eq.trans List.length_reverse.symm
  obtain ⟨agreed, next, later, top, rest, rfl, expected, different⟩ := exists_difference length apart
  obtain rfl : contexts = rest.reverse ++ top :: agreed.reverse := by
    rw [← List.reverse_reverse contexts, expected]
    simp only [List.reverse_append, List.reverse_cons, List.append_assoc, List.singleton_append]
  have refuses := refusesAt different stack rest.reverse agreed.reverse later
  rw [List.reverse_reverse] at refuses
  exact ⟨rest.reverse, agreed.reverse, later, top, next, refuses⟩

/-- How the checks of a stack and its changes fit together. -/
structure ChecksAgree (stack : Stack) : Prop where
  /-- A context is current if it is in the top frame. -/
  top (context : Context) : stack.isCurrent context = true ↔ ∃ below, stack.frames = context :: below
  ensured (context : Context) : stack.ensureCurrent context = .ok () ↔ stack.isCurrent context = true
  popped (context : Context) : (∃ rest, stack.pop context = .ok rest) ↔ stack.isCurrent context = true
  /-- The current context is popped and removed alike, which leaves the frames below it. -/
  alike {context : Context} {below : List Context} : stack.frames = context :: below →
    stack.pop context = .ok { frames := below } ∧ stack.remove? context = some { frames := below }
  /-- Any other is refused in the same way by the check and by the pop, which speak of its own kind. -/
  refused {context : Context} : stack.isCurrent context = false → stack.isEmpty = false →
    stack.pop context = .error (.notCurrent context.capability.name) ∧
      stack.ensureCurrent context = .error (.notCurrent context.capability.name)
  /-- Only the pop tells an empty stack from others. -/
  empty (context : Context) : stack.isEmpty = true →
    stack.pop context = .error (.empty context.capability.name) ∧
      stack.ensureCurrent context = .error (.notCurrent context.capability.name)
  untouched {context : Context} : stack.isCurrent context = false → stack.edit (.pop context) = stack
  /-- A stack in memory is popped alike. -/
  shared {shared : SharedStack} : shared.stack = stack →
    ∀ context, (shared.pop context).map SharedStack.stack = stack.pop context
  /-- Contexts pushed later are popped before those pushed earlier, in the opposite order. -/
  reversed (early late : List Context) : (stack.pushAll (early ++ late)).popAll late.reverse = .ok (stack.pushAll early)
  /-- In another order a pop fails, at the first context that is not on top. -/
  outOfOrder {contexts order : List Context} : order.Perm contexts → order ≠ contexts.reverse →
    ∃ early late later top next, stack.RefusesAt contexts order early late later top next

/-- On every stack the checks agree, and contexts are popped in the opposite order of the pushes or not at all. -/
theorem checks_agree (stack : Stack) : stack.ChecksAgree := by
  constructor
  case top => exact isCurrent_iff stack
  case ensured => exact fun context => ensureCurrent_eq_ok_iff
  case popped => exact fun context => ⟨fun ⟨_, popped⟩ => isCurrent_of_pop popped, pop_of_isCurrent⟩
  case alike =>
    intro context below frames
    have popped : stack.pop context = .ok { frames := below } := pop_eq_ok_iff.mpr (congrArg Stack.mk frames)
    exact ⟨popped, remove?_of_pop popped⟩
  case refused =>
    intro context current nonempty
    rw [pop_of_not_isCurrent current, nonempty]
    exact ⟨rfl, ensureCurrent_of_not_isCurrent current⟩
  case empty =>
    intro context empty
    have current : stack.isCurrent context = false := by
      rw [Bool.eq_false_iff, ne_eq, isCurrent_iff, List.isEmpty_iff.mp empty]
      exact nofun
    rw [pop_of_not_isCurrent current, empty]
    exact ⟨rfl, ensureCurrent_of_not_isCurrent current⟩
  case untouched => exact fun current => edit_of_pop_error (pop_of_not_isCurrent current)
  case shared =>
    rintro shared rfl context
    exact SharedStack.stack_pop context
  case reversed => exact popAll_pushed stack
  case outOfOrder => exact exists_refusesAt stack

end Stack

end ScopedWork
