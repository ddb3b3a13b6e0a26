import ScopedWork.Failure.Copies
import Mathlib.Data.List.Induction

/-! # Who gets the payload of a panic

All copies of a caught panic share the cell of its payload, and the first who asks for the payload empties it, be it to
have the payload or to go on panicking with it. Whoever asks later finds nothing, or goes on with the message as a text.
It does not matter which copies are asked, nor how many have been made or dropped: what a copy answers depends on
whether somebody has asked before, and on nothing else.
-/

namespace ScopedWork

open Failure (Cells Copies Handled Handling Panic Payload)

/-! ## Cells -/

/-- What a panic goes on with when it is resumed, given whether its payload has been taken. -/
def Failure.Payload.relayed (payload : Payload) (taken : Bool) : Payload :=
  if taken then .owned payload.message else payload

theorem message_relayed (payload : Payload) (taken : Bool) : (payload.relayed taken).message = payload.message := by
  cases taken <;> rfl

theorem relayed_relayed (payload : Payload) (taken again : Bool) :
    (payload.relayed taken).relayed again = payload.relayed (taken || again) := by
  cases taken <;> cases again <;> rfl

theorem peek_take (cells : Cells) (panic : Panic) (cell : Failure.CellId) :
    (cells.take panic).2.peek cell = if panic.cell = cell then none else cells.peek cell := by
  rw [Cells.take, Cells.peek, List.getElem?_set]
  split_ifs <;> rfl

theorem length_catchPanic (cells : Cells) (payload : Payload) :
    (cells.catchPanic payload).2.contents.length = cells.contents.length + 1 :=
  List.length_append

/-- A panic is caught into a cell of its own. -/
theorem peek_catchPanic (cells : Cells) (payload : Payload) :
    (cells.catchPanic payload).2.peek cells.contents.length = some payload := by
  rw [Cells.catchPanic, Cells.peek, List.getElem?_concat_length]
  rfl

theorem peek_catchPanic_of_lt {cells : Cells} {cell : Failure.CellId} (inside : cell < cells.contents.length)
    (payload : Payload) : (cells.catchPanic payload).2.peek cell = cells.peek cell := by
  rw [Cells.catchPanic, Cells.peek, List.getElem?_append_left inside]
  rfl

namespace Failure

/-! ## Copies -/

/-- Whether somebody was answered who had asked for the payload. -/
def Handled.isPayload : Handled → Bool
  | payload _ => true
  | copied _ | text _ | dropped | noSuchCopy | noSuchHandling => false

namespace Copies

/-- One copy of a panic that is caught where others have been caught before. -/
def ofCatch (cells : Cells) (payload : Payload) : Copies :=
  let (panic, cells) := cells.catchPanic payload
  { cells, copies := [some panic] }

def copy? (copies : Copies) (index : Nat) : Option Panic :=
  copies.copies[index]?.join

/-- All copies are of the panic, and its payload is in its cell unless somebody has asked for it. -/
structure Share (copies : Copies) (panic : Panic) (payload : Payload) (asked : Bool) : Prop where
  alike {index : Nat} {found : Panic} : copies.copy? index = some found → found = panic
  content : copies.cells.peek panic.cell = if asked then none else some payload

section Handling

variable {copies : Copies} {panic : Panic} {payload : Payload} {asked : Bool} {handling : Handling}
  {index other : Nat}

theorem handle_of_none (missing : copies.copy? index = none) (handling : Handling) :
    copies.handle handling index = (.noSuchCopy, copies) := by
  rw [copy?] at missing
  rw [handle, missing]

theorem share_ofCatch (cells : Cells) (payload : Payload) :
    (ofCatch cells payload).Share (cells.catchPanic payload).1 payload false := by
  refine ⟨fun {index found} here => ?_, peek_catchPanic cells payload⟩
  cases index with
  | zero => exact (Option.some.inj here).symm
  | succ index => exact absurd here.symm (Option.some_ne_none found)

/-- A new copy comes last, and a dropped one is there no more. Nothing else changes which copies there are. -/
theorem copy?_handle (copies : Copies) (handling : Handling) (index other : Nat) :
    (copies.handle handling index).2.copy? other =
      if handling = .drop ∧ other = index then none
      else if handling = .copy ∧ other = copies.copies.length then copies.copy? index
      else copies.copy? other := by
  cases here : copies.copy? index with
  | none =>
    rw [handle_of_none here]
    split_ifs with dropped copied
    · rw [dropped.2, here]
    · rw [copied.2, copy?, List.getElem?_eq_none (Nat.le_refl _), Option.join_none]
    · rfl
  | some panic =>
    rw [copy?] at here
    rw [handle, here]
    cases handling with
    | copy =>
      simp only [copy?, List.getElem?_append, reduceCtorEq, false_and, ↓reduceIte, true_and]
      split_ifs with before last last
      · exact absurd before (Nat.not_lt.mpr (Nat.le_of_eq last.symm))
      · rfl
      · rw [last, Nat.sub_self]
        rfl
      · rw [List.getElem?_eq_none (Nat.not_lt.mp before), List.getElem?_eq_none]
        exact Nat.sub_pos_of_lt (Nat.lt_of_le_of_ne (Nat.not_lt.mp before) (Ne.symm last))
    | drop =>
      simp only [copy?, List.getElem?_set, @eq_comm _ index other, true_and, reduceCtorEq, false_and, ↓reduceIte]
      split_ifs <;> rfl
    | message | display | form | take | resume | unknown =>
      simp only [copy?, reduceCtorEq, false_and, ↓reduceIte]

/-- What a copy answers. -/
theorem Share.handle_eq (share : copies.Share panic payload asked) (message : panic.message = payload.message)
    (handling : Handling) {found : Panic} (here : copies.copy? index = some found) :
    (copies.handle handling index).1 = match handling with
      | .copy => .copied copies.copies.length
      | .message | .display => .text payload.message
      | .form => .text (Text.variant "Panic" (Text.quoted payload.message))
      | .take => .payload (if asked then none else some payload)
      | .resume => .payload (some (payload.relayed asked))
      | .drop => .dropped
      | .unknown => .noSuchHandling := by
  obtain rfl := share.alike here
  have content := share.content
  rw [copy?] at here
  rw [handle, here]
  cases handling with
  | copy | drop | unknown => rfl
  | message | display => exact congrArg Handled.text message
  | form => exact congrArg (fun text => Handled.text (Text.variant "Panic" (Text.quoted text))) message
  | take => exact congrArg Handled.payload content
  | resume =>
    simp only [Cells.resume, Cells.take, content, message]
    cases asked <;> rfl

/-- To take the payload of a copy, or to resume it, is to ask for the payload. Nothing else is. -/
theorem isPayload_handle (copies : Copies) (handling : Handling) (index : Nat) :
    (copies.handle handling index).1.isPayload = true ↔
      (copies.copy? index).isSome = true ∧ (handling = .take ∨ handling = .resume) := by
  cases here : copies.copy? index with
  | none => simp only [handle_of_none here, Handled.isPayload, Option.isSome_none, Bool.false_eq_true, false_and]
  | some found =>
    rw [copy?] at here
    rw [handle, here]
    cases handling <;> simp only [Handled.isPayload, Option.isSome_some, Bool.false_eq_true, reduceCtorEq, or_self,
      and_false, true_or, or_true, and_self]

/-- Whoever asks empties the cell of the panic. Nothing else is done to the cells. -/
theorem cells_handle (handling : Handling) {found : Panic} (here : copies.copy? index = some found) :
    (copies.handle handling index).2.cells =
      if handling = .take ∨ handling = .resume then (copies.cells.take found).2 else copies.cells := by
  rw [copy?] at here
  rw [handle, here]
  cases handling <;> rfl

theorem share_handle (share : copies.Share panic payload asked) (handling : Handling) (index : Nat) :
    (copies.handle handling index).2.Share panic payload (asked || (copies.handle handling index).1.isPayload) := by
  constructor
  case alike =>
    intro other found here
    rw [copy?_handle] at here
    split_ifs at here
    · exact share.alike here
    · exact share.alike here
  case content =>
    cases here : copies.copy? index with
    | none =>
      rw [handle_of_none here, Handled.isPayload, Bool.or_false]
      exact share.content
    | some found =>
      obtain rfl := share.alike here
      rw [cells_handle handling here]
      by_cases asks : handling = .take ∨ handling = .resume
      · have given := (isPayload_handle copies handling index).mpr ⟨Option.isSome_of_eq_some here, asks⟩
        rw [if_pos asks, peek_take, if_pos rfl, given, Bool.or_true]
        rfl
      · have silent : (copies.handle handling index).1.isPayload = false :=
          Bool.eq_false_iff.mpr fun given => asks ((isPayload_handle copies handling index).mp given).2
        rw [if_neg asks, silent, Bool.or_false]
        exact share.content

end Handling

/-! ## Histories -/

section Histories

variable {copies alike : Copies} {panic : Panic} {payload : Payload} {asked : Bool} {handling : Handling}
  {index : Nat} {steps rest : List (Handling × Nat)}

theorem handleAll_cons (copies : Copies) (handling : Handling) (index : Nat) (steps : List (Handling × Nat)) :
    copies.handleAll ((handling, index) :: steps) =
      ((copies.handle handling index).1 :: ((copies.handle handling index).2.handleAll steps).1,
        ((copies.handle handling index).2.handleAll steps).2) :=
  rfl

theorem handleAll_append (copies : Copies) (steps later : List (Handling × Nat)) :
    copies.handleAll (steps ++ later) =
      ((copies.handleAll steps).1 ++ ((copies.handleAll steps).2.handleAll later).1,
        ((copies.handleAll steps).2.handleAll later).2) := by
  induction steps generalizing copies with
  | nil => rfl
  | cons step steps ih =>
    rw [List.cons_append, handleAll_cons, handleAll_cons, ih]
    rfl

/-- The payload is there until one of the answers is about it. -/
theorem share_handleAll (share : copies.Share panic payload asked) (steps : List (Handling × Nat)) :
    (copies.handleAll steps).2.Share panic payload (asked || (copies.handleAll steps).1.any Handled.isPayload) := by
  induction steps generalizing copies asked with
  | nil =>
    rw [handleAll, List.any_nil, Bool.or_false]
    exact share
  | cons step steps ih =>
    have further := ih (share_handle share step.1 step.2)
    rwa [Bool.or_assoc] at further

/-- The numbers of copies are not given out again. -/
theorem length_le_handle (copies : Copies) (handling : Handling) (index : Nat) :
    copies.copies.length ≤ (copies.handle handling index).2.copies.length := by
  cases here : copies.copy? index with
  | none => exact Nat.le_of_eq (congrArg (·.2.copies.length) (handle_of_none here handling)).symm
  | some found =>
    rw [copy?] at here
    rw [handle, here]
    cases handling with
    | copy => exact (List.sublist_append_left copies.copies [some found]).length_le
    | drop => exact Nat.le_of_eq List.length_set.symm
    | message | display | form | take | resume | unknown => exact Nat.le_refl _

/-- A copy that is not dropped stays what it is. -/
theorem copy?_handleAll (inside : index < copies.copies.length) (kept : (.drop, index) ∉ steps) :
    (copies.handleAll steps).2.copy? index = copies.copy? index := by
  induction steps generalizing copies with
  | nil => rfl
  | cons step steps ih =>
    obtain ⟨handling, other⟩ := step
    obtain ⟨notNow, notLater⟩ := not_or.mp (mt List.mem_cons.mpr kept)
    refine (ih (Nat.lt_of_lt_of_le inside (length_le_handle copies handling other)) notLater).trans ?_
    rw [copy?_handle, if_neg, if_neg]
    · exact fun copied => absurd inside (Nat.not_lt.mpr (Nat.le_of_eq copied.2.symm))
    · rintro ⟨rfl, rfl⟩
      exact notNow rfl

/-- But for the numbers of new copies, an answer depends on the copy and on the cells alone. -/
theorem handle_congr (cells : copies.cells = alike.cells) (same : copies.copy? index = alike.copy? index)
    (old : handling ≠ .copy) : (copies.handle handling index).1 = (alike.handle handling index).1 ∧
      (copies.handle handling index).2.cells = (alike.handle handling index).2.cells := by
  rw [copy?, copy?] at same
  rw [handle, handle, same]
  cases alike.copies[index]?.join with
  | none => exact ⟨rfl, cells⟩
  | some found =>
    cases handling with
    | copy => exact absurd rfl old
    | message | display | form | drop | unknown => exact ⟨rfl, cells⟩
    | take | resume => simp only [cells, and_self]

theorem handleAll_congr (cells : copies.cells = alike.cells)
    (same : ∀ step ∈ rest, step.1 ≠ .copy ∧ copies.copy? step.2 = alike.copy? step.2) :
    (copies.handleAll rest).1 = (alike.handleAll rest).1 := by
  induction rest generalizing copies alike with
  | nil => rfl
  | cons step rest ih =>
    obtain ⟨handling, index⟩ := step
    obtain ⟨old, here⟩ := same _ List.mem_cons_self
    obtain ⟨answer, cells'⟩ := handle_congr cells here old
    rw [handleAll_cons, handleAll_cons]
    refine List.cons_eq_cons.mpr ⟨answer, ih cells' fun step member => ?_⟩
    obtain ⟨old', here'⟩ := same step (List.mem_cons_of_mem _ member)
    refine ⟨old', ?_⟩
    rw [copy?_handle, copy?_handle, here']
    simp only [old, false_and, ↓reduceIte]

/-- Other cells than that of the panic are left alone. -/
theorem Share.peek_handleAll (share : copies.Share panic payload asked) {cell : CellId} (apart : cell ≠ panic.cell)
    (steps : List (Handling × Nat)) : (copies.handleAll steps).2.cells.peek cell = copies.cells.peek cell := by
  induction steps generalizing copies asked with
  | nil => rfl
  | cons step steps ih =>
    obtain ⟨handling, index⟩ := step
    rw [handleAll_cons]
    refine (ih (share_handle share handling index)).trans ?_
    cases here : copies.copy? index with
    | none => exact congrArg (·.2.cells.peek cell) (handle_of_none here handling)
    | some found =>
      obtain rfl := share.alike here
      rw [cells_handle handling here]
      split_ifs
      · rw [peek_take, if_neg (Ne.symm apart)]
      · rfl

/-- To copy and to drop leaves the cells alone. -/
theorem cells_handleAll (idle : ∀ step ∈ steps, step.1 = .copy ∨ step.1 = .drop) :
    (copies.handleAll steps).2.cells = copies.cells := by
  induction steps generalizing copies with
  | nil => rfl
  | cons step steps ih =>
    obtain ⟨handling, index⟩ := step
    have later : ∀ step ∈ steps, step.1 = .copy ∨ step.1 = .drop := fun step member => idle step (.tail _ member)
    have now : handling = .copy ∨ handling = .drop := idle _ List.mem_cons_self
    have unasked : ¬ (handling = .take ∨ handling = .resume) := by obtain rfl | rfl := now <;> decide
    rw [handleAll_cons]
    refine (ih later).trans ?_
    cases here : copies.copy? index with
    | none => exact congrArg (·.2.cells) (handle_of_none here handling)
    | some found => rw [cells_handle handling here, if_neg unasked]

end Histories

/-- How the copies of a panic go on after a history with these answers. -/
structure Deliver (payload : Payload) (answers : List Handled) (copies : Copies) : Prop where
  /-- The payload is for the first who asks for it. -/
  take {index : Nat} : (copies.copy? index).isSome = true → (copies.handle .take index).1 =
    .payload (if answers.any Handled.isPayload then none else some payload)
  /-- Whoever resumes the panic goes on with the payload if nobody has asked before, and else with the message. -/
  resume {index : Nat} : (copies.copy? index).isSome = true → (copies.handle .resume index).1 =
    .payload (some (if answers.any Handled.isPayload then .owned payload.message else payload))
  /-- All copies say the same at all times. -/
  message {index : Nat} : (copies.copy? index).isSome = true →
    (copies.handle .message index).1 = .text payload.message
  display {index : Nat} : (copies.copy? index).isSome = true →
    (copies.handle .display index).1 = .text payload.message
  form {index : Nat} : (copies.copy? index).isSome = true →
    (copies.handle .form index).1 = .text (Text.variant "Panic" (Text.quoted payload.message))
  /-- To take the payload of a copy, or to resume it, is to ask for the payload. Nothing else is. -/
  asks {handling : Handling} {index : Nat} : (copies.handle handling index).1.isPayload = true ↔
    (copies.copy? index).isSome = true ∧ (handling = .take ∨ handling = .resume)
  /-- A copy of any copy comes after all others. -/
  copied {index : Nat} : (copies.copy? index).isSome = true →
    (copies.handle .copy index).1 = .copied copies.copies.length
  /-- There are the old copies but for one that is dropped, and a new one if a copy is made. -/
  present {handling : Handling} {index other : Nat} :
    ((copies.handle handling index).2.copy? other).isSome = true ↔
      (copies.copy? other).isSome = true ∧ ¬ (handling = .drop ∧ other = index) ∨
        handling = .copy ∧ (copies.copy? index).isSome = true ∧ other = copies.copies.length
  /-- Copying and dropping changes no answer of a copy that was there before and is not dropped itself. -/
  idle {steps later : List (Handling × Nat)} : (∀ step ∈ steps, step.1 = .copy ∨ step.1 = .drop) →
    (∀ step ∈ later, step.1 ≠ .copy ∧ step.2 < copies.copies.length ∧ (.drop, step.2) ∉ steps) →
      ((copies.handleAll steps).2.handleAll later).1 = (copies.handleAll later).1

/-- The first who asks for a payload is given it, and all others get nothing or its message as a text. -/
def HandedOnce (payload : Payload) (answers : List Handled) : Prop :=
  answers.filter Handled.isPayload = [] ∨
    ∃ late, answers.filter Handled.isPayload = .payload (some payload) :: late ∧
    ∀ answer ∈ late, answer = .payload none ∨ answer = .payload (some (.owned payload.message))

section Histories

variable {copies : Copies} {panic : Panic} {payload : Payload} {asked : Bool} {answers : List Handled}

/-- Copies that share a panic answer as the panic's payload demands. -/
theorem Share.deliver (share : copies.Share panic payload (answers.any Handled.isPayload))
    (message : panic.message = payload.message) : copies.Deliver payload answers := by
  have answer {index : Nat} (there : (copies.copy? index).isSome = true) (handling : Handling) :=
    share.handle_eq message handling (Option.some_get there).symm
  constructor
  case take => exact fun there => answer there .take
  case resume => exact fun there => answer there .resume
  case message => exact fun there => answer there .message
  case display => exact fun there => answer there .display
  case form => exact fun there => answer there .form
  case copied => exact fun there => answer there .copy
  case asks => exact fun {handling index} => isPayload_handle copies handling index
  case present =>
    intro handling index other
    have unused : (copies.copy? copies.copies.length).isSome = false := by
      rw [copy?, List.getElem?_eq_none (Nat.le_refl _)]
      rfl
    rw [copy?_handle]
    split_ifs with dropped new
    · simp only [Option.isSome_none, Bool.false_eq_true, dropped, and_self, not_true_eq_false, and_false, reduceCtorEq,
        false_and, or_self]
    · simp only [new, unused, Bool.false_eq_true, false_and, true_and, and_true, false_or]
    · have old : ¬ (handling = .copy ∧ (copies.copy? index).isSome = true ∧ other = copies.copies.length) :=
        fun all => new ⟨all.1, all.2.2⟩
      simp only [dropped, old, not_false_eq_true, and_true, or_false]
  case idle =>
    intro steps later idle kept
    refine handleAll_congr (cells_handleAll idle) fun step member => ?_
    obtain ⟨old, inside, undropped⟩ := kept step member
    exact ⟨old, copy?_handleAll inside undropped⟩

/-- Only the first answer to those who ask for the payload is the payload. -/
theorem Deliver.handedOnce (deliver : copies.Deliver payload answers) (once : HandedOnce payload answers)
    (handling : Handling) (index : Nat) : HandedOnce payload (answers ++ [(copies.handle handling index).1]) := by
  rw [HandedOnce, List.filter_append]
  cases asked : (copies.handle handling index).1.isPayload with
  | false =>
    rw [List.filter_cons, if_neg (Bool.eq_false_iff.mp asked), List.filter_nil, List.append_nil]
    exact once
  | true =>
    obtain ⟨there, asks⟩ := deliver.asks.mp asked
    rw [List.filter_cons, if_pos asked, List.filter_nil]
    right
    obtain none | ⟨late, begun, all⟩ := once
    · have first : answers.any Handled.isPayload = false := List.any_eq_false.mpr (List.filter_eq_nil_iff.mp none)
      have given : (copies.handle handling index).1 = .payload (some payload) := by
        obtain rfl | rfl := asks
        · rw [deliver.take there, first]
          rfl
        · rw [deliver.resume there, first]
          rfl
      exact ⟨[], by rw [none, given, List.nil_append], nofun⟩
    · have again : answers.any Handled.isPayload = true := by
        have member : .payload (some payload) ∈ answers.filter Handled.isPayload := begun ▸ List.mem_cons_self
        exact List.any_eq_true.mpr ⟨_, (List.mem_filter.mp member).1, rfl⟩
      refine ⟨late ++ [(copies.handle handling index).1], by rw [begun, List.cons_append], fun answer member => ?_⟩
      obtain member | last := List.mem_append.mp member
      · exact all answer member
      · rw [List.mem_singleton.mp last]
        obtain rfl | rfl := asks
        · left
          rw [deliver.take there, again]
          rfl
        · right
          rw [deliver.resume there, again]
          rfl

theorem Share.handedOnce (share : copies.Share panic payload false) (message : panic.message = payload.message)
    (steps : List (Handling × Nat)) : HandedOnce payload (copies.handleAll steps).1 := by
  induction steps using List.reverseRecOn with
  | nil => exact .inl rfl
  | append_singleton steps step ih =>
    rw [handleAll_append]
    exact ((share_handleAll share steps).deliver message).handedOnce ih step.1 step.2

end Histories

/-- A panic is caught, maybe after others, and all kinds of things are done with its copies. -/
structure DeliversOnce (cells : Cells) (payload : Payload) (steps : List (Handling × Nat)) : Prop where
  once : HandedOnce payload ((ofCatch cells payload).handleAll steps).1
  deliver : ((ofCatch cells payload).handleAll steps).2.Deliver payload ((ofCatch cells payload).handleAll steps).1
  /-- What has been done goes on like that, whatever is done later. -/
  further (later : List (Handling × Nat)) : ((ofCatch cells payload).handleAll (steps ++ later)).1 =
    ((ofCatch cells payload).handleAll steps).1 ++ (((ofCatch cells payload).handleAll steps).2.handleAll later).1
  /-- The payloads of panics that were caught before stay where they are. -/
  others {cell : CellId} : cell < cells.contents.length →
    ((ofCatch cells payload).handleAll steps).2.cells.peek cell = cells.peek cell

/-- The payload of a panic is for the first who asks any of its copies, whatever else is done with them, and all copies
go on saying the same. -/
theorem payload_delivered (cells : Cells) (payload : Payload) (steps : List (Handling × Nat)) :
    DeliversOnce cells payload steps := by
  have share := share_ofCatch cells payload
  constructor
  case once => exact share.handedOnce rfl steps
  case deliver => exact (share_handleAll share steps).deliver rfl
  case further => exact fun later => congrArg Prod.fst (handleAll_append _ steps later)
  case others =>
    intro cell inside
    rw [← peek_catchPanic_of_lt inside payload]
    exact share.peek_handleAll (Nat.ne_of_lt inside) steps

example : ((ofPayload (.number 3)).handleAll [(.copy, 0), (.resume, 0), (.drop, 0), (.take, 1)]).1 =
    [.copied 1, .payload (some (.number 3)), .dropped, .payload none] := by decide

end Copies

end Failure

end ScopedWork
