import Mathlib.Data.List.Nodup
import ScopedWork.Proofs.Outlook
import ScopedWork.Proofs.Parts
import ScopedWork.Proofs.Popping

/-! # What a plain program leaves alone

A plain program uses the scopes of its own contexts and those that it makes, and no others. Its
contexts stand on top of the stack that it began with, in the order in which they were entered,
since a context that is left is taken out from wherever it is. So a program that has left all its
contexts has the stack it began with.
-/

namespace ScopedWork

namespace Program.Outlook

variable {outlook middle after : Outlook}

/-! ## Reading a changed outlook -/

theorem scope_modifyScope (outlook : Outlook) (id other : ScopeId) (change : Scope → Scope) :
    (outlook.modifyScope id change).scope other =
      if other = id ∧ id < outlook.scopes.length then change (outlook.scope other) else outlook.scope other :=
  read_modify outlook.scopes id other change

theorem scope_addScope (outlook : Outlook) (scope : Scope) (other : ScopeId) :
    (outlook.addScope scope).2.scope other =
      if other = outlook.scopes.length then scope else outlook.scope other :=
  read_append outlook.scopes scope other

@[simp] theorem length_modifyScope (outlook : Outlook) (id : ScopeId) (change : Scope → Scope) :
    (outlook.modifyScope id change).scopes.length = outlook.scopes.length :=
  List.length_modify ..

theorem scope_leave (outlook : Outlook) {scope other : ScopeId} (ne : other ≠ scope) :
    (outlook.leave scope).scope other = outlook.scope other := by
  refine (scope_modifyScope outlook scope other (·.close.2)).trans (if_neg ?_)
  exact fun both => ne both.1

theorem mem_leave {scope : ScopeId} {handle : Handle} :
    handle ∈ (outlook.leave scope).handles ↔ handle ∈ outlook.handles ∧ handle.scope ≠ scope := by
  simp only [leave, List.mem_filter, decide_eq_true_eq]

/-- A context that a program can use is one of its own. -/
theorem mem_of_context? {name : String} {scope : ScopeId} (found : outlook.context? name = some scope) :
    ∃ handle ∈ outlook.handles, handle.scope = scope := by
  obtain ⟨handle, present, here⟩ := List.exists_of_findSome?_eq_some found
  split_ifs at here
  exact ⟨handle, present, Option.some.inj here⟩

/-- A context that a program can leave is one that it has entered under a name. -/
theorem mem_of_ownContext? {name : String} {scope : ScopeId} (found : outlook.ownContext? name = some scope) :
    ∃ handle ∈ outlook.handles, handle.scope = scope ∧ handle.tenure = .owned name := by
  obtain ⟨handle, present, here⟩ := List.exists_of_findSome?_eq_some found
  split_ifs at here with owned
  exact ⟨handle, present, Option.some.inj here, eq_of_beq owned⟩

/-! ## Contexts in order -/

/-- The contexts of a program are apart, and nothing is under way in the scope of any. -/
structure Fit (outlook : Outlook) : Prop where
  nodup : (outlook.handles.map Handle.scope).Nodup
  bound : ∀ handle ∈ outlook.handles, handle.scope < outlook.scopes.length
  accepting : ∀ handle ∈ outlook.handles, (outlook.scope handle.scope).state = .accepting
  settled : ∀ handle ∈ outlook.handles, (outlook.scope handle.scope).isSettled = true

/-- A program without contexts is fit. -/
theorem fit_of_bare (bare : outlook.handles = []) : outlook.Fit := by
  constructor
  · rw [bare]
    exact List.nodup_nil
  all_goals
    intro handle present
    rw [bare] at present
    exact absurd present List.not_mem_nil

namespace Fit

/-- Two contexts of a program that have the same scope are the same. -/
theorem eq_of_scope (fit : outlook.Fit) {first second : Handle} (left : first ∈ outlook.handles)
    (right : second ∈ outlook.handles) (same : first.scope = second.scope) : first = second :=
  List.inj_on_of_nodup_map fit.nodup left right same

/-- What a program has left of its contexts is as it was. -/
theorem leave (fit : outlook.Fit) (scope : ScopeId) : (outlook.leave scope).Fit where
  nodup := fit.nodup.sublist (List.filter_sublist.map _)
  bound handle present := by
    have kept := fit.bound handle (mem_leave.mp present).1
    rwa [show (outlook.leave scope).scopes.length = _ from length_modifyScope ..]
  accepting handle present := by
    obtain ⟨present, ne⟩ := mem_leave.mp present
    rw [scope_leave outlook ne]
    exact fit.accepting handle present
  settled handle present := by
    obtain ⟨present, ne⟩ := mem_leave.mp present
    rw [scope_leave outlook ne]
    exact fit.settled handle present

end Fit

/-! ## What stays -/

/-- The scopes of a program's contexts as frames of a stack. -/
def frames (outlook : Outlook) : List Context :=
  outlook.handles.map fun handle => .scope handle.scope

/-- What a part of a plain program leaves as it was. -/
structure Keeps (outlook after : Outlook) : Prop where
  fit : after.Fit
  grown : outlook.scopes.length ≤ after.scopes.length
  /-- Scopes that are not those of its contexts. -/
  spared : ∀ id, id < outlook.scopes.length → (∀ handle ∈ outlook.handles, handle.scope ≠ id) →
    after.scope id = outlook.scope id
  /-- New contexts have new scopes. -/
  held : ∀ handle ∈ after.handles, handle ∈ outlook.handles ∨ outlook.scopes.length ≤ handle.scope
  /-- Contexts that are not the program's to leave. -/
  lent : ∀ handle ∈ outlook.handles, (∀ name, handle.tenure ≠ .owned name) → handle ∈ after.handles
  /-- The stack below the program's contexts. -/
  stacked : ∀ base, outlook.stack.frames = outlook.frames ++ base → after.stack.frames = after.frames ++ base
  leases : after.leases = outlook.leases

namespace Keeps

/-- Whatever changes neither scopes nor contexts nor the stack. -/
theorem of_same (fit : outlook.Fit) (scopes : after.scopes = outlook.scopes) (handles : after.handles = outlook.handles)
    (stack : after.stack = outlook.stack) (leases : after.leases = outlook.leases) : outlook.Keeps after := by
  have reads (id : ScopeId) : after.scope id = outlook.scope id := by rw [scope, scope, scopes]
  constructor
  case fit =>
    constructor
    case nodup =>
      rw [handles]
      exact fit.nodup
    case bound =>
      rw [handles, scopes]
      exact fit.bound
    case accepting =>
      simp only [handles, reads]
      exact fit.accepting
    case settled =>
      simp only [handles, reads]
      exact fit.settled
  case grown => exact Nat.le_of_eq (congrArg List.length scopes.symm)
  case spared => exact fun id _ _ => reads id
  case held => exact fun handle present => .inl (handles ▸ present)
  case lent => exact fun handle present _ => handles ▸ present
  case stacked =>
    intro base onTop
    rw [stack, onTop, frames, frames, handles]
  case leases => exact leases

theorem refl (fit : outlook.Fit) : outlook.Keeps outlook :=
  of_same fit rfl rfl rfl rfl

theorem trans (first : outlook.Keeps middle) (second : middle.Keeps after) : outlook.Keeps after where
  fit := second.fit
  grown := Nat.le_trans first.grown second.grown
  spared id bound apart := by
    rw [second.spared id (Nat.lt_of_lt_of_le bound first.grown), first.spared id bound apart]
    intro handle present
    rcases first.held handle present with old | new
    · exact apart handle old
    · exact Nat.ne_of_gt (Nat.lt_of_lt_of_le bound new)
  held handle present := by
    rcases second.held handle present with old | new
    · exact first.held handle old
    · exact .inr (Nat.le_trans first.grown new)
  lent handle present tenure := second.lent handle (first.lent handle present tenure) tenure
  stacked base onTop := second.stacked base (first.stacked base onTop)
  leases := second.leases.trans first.leases

end Keeps

/-! ## Entering -/

theorem keeps_say (fit : outlook.Fit) (voice : Voice) (event : Event) : outlook.Keeps (outlook.say voice event) := by
  rw [say]
  split_ifs
  · exact .refl fit
  · exact .of_same fit rfl rfl rfl rfl

theorem keeps_addScope (fit : outlook.Fit) (scope : Scope) : outlook.Keeps (outlook.addScope scope).2 := by
  have grown : (outlook.addScope scope).2.scopes.length = outlook.scopes.length + 1 := List.length_append
  have reads (id : ScopeId) (bound : id < outlook.scopes.length) :
      (outlook.addScope scope).2.scope id = outlook.scope id := by
    rw [scope_addScope, if_neg (Nat.ne_of_lt bound)]
  constructor
  case fit =>
    constructor
    case nodup => exact fit.nodup
    case bound => exact fun handle present => Nat.lt_of_lt_of_le (fit.bound handle present) (by omega)
    case accepting =>
      intro handle present
      rw [reads _ (fit.bound handle present)]
      exact fit.accepting handle present
    case settled =>
      intro handle present
      rw [reads _ (fit.bound handle present)]
      exact fit.settled handle present
  case grown => omega
  case spared => exact fun id bound _ => reads id bound
  case held => exact fun handle present => .inl present
  case lent => exact fun handle present _ => present
  case stacked => exact fun base onTop => onTop
  case leases => rfl

theorem keeps_getStandardRoot (fit : outlook.Fit) : outlook.Keeps outlook.getStandardRoot.2 := by
  rw [getStandardRoot]
  cases outlook.standardRoot with
  | some root => exact .refl fit
  | none =>
    have added := keeps_addScope fit default
    exact added.trans (.of_same added.fit rfl rfl rfl rfl)

/-- To find the scope that a context is nested in makes a root at most. -/
theorem keeps_enclosing (fit : outlook.Fit) : outlook.Keeps outlook.enclosing.2 := by
  rw [enclosing]
  cases outlook.stack.currentScope? with
  | some scope => exact .refl fit
  | none =>
    cases outlook.registered.bind fun id => outlook.sources[id]? with
    | none => exact keeps_getStandardRoot fit
    | some source =>
      cases source with
      | scope root => exact .refl fit
      | fresh pool concurrency => exact keeps_addScope fit default
      | standard => exact keeps_getStandardRoot fit

theorem keeps_enterIn (fit : outlook.Fit) (parent : ScopeId) (tenure : Tenure) :
    outlook.Keeps (outlook.enterIn parent tenure).2 := by
  have added := keeps_addScope fit { (default : Scope) with parent := some parent }
  have fresh : (outlook.enterIn parent tenure).2.scope outlook.scopes.length =
      { (default : Scope) with parent := some parent } :=
    (scope_addScope outlook _ _).trans (if_pos rfl)
  have reads (id : ScopeId) (bound : id < outlook.scopes.length) :
      (outlook.enterIn parent tenure).2.scope id = outlook.scope id :=
    (scope_addScope outlook _ _).trans (if_neg (Nat.ne_of_lt bound))
  constructor
  case fit =>
    constructor
    case nodup =>
      refine List.nodup_cons.mpr ⟨?_, fit.nodup⟩
      intro present
      obtain ⟨handle, present, same⟩ := List.mem_map.mp present
      exact absurd same (Nat.ne_of_lt (fit.bound handle present))
    case bound =>
      intro handle present
      rcases List.mem_cons.mp present with rfl | old
      · change outlook.scopes.length < (outlook.scopes ++ [_]).length
        rw [List.length_append]
        exact Nat.lt_succ_self _
      · exact added.fit.bound handle old
    case accepting =>
      intro handle present
      rcases List.mem_cons.mp present with rfl | old
      · rw [fresh]
        rfl
      · rw [reads _ (fit.bound handle old)]
        exact fit.accepting handle old
    case settled =>
      intro handle present
      rcases List.mem_cons.mp present with rfl | old
      · rw [fresh]
        rfl
      · rw [reads _ (fit.bound handle old)]
        exact fit.settled handle old
  case grown => exact added.grown
  case spared => exact fun id bound _ => reads id bound
  case held =>
    intro handle present
    rcases List.mem_cons.mp present with rfl | old
    · exact .inr (Nat.le_refl _)
    · exact .inl old
  case lent => exact fun handle present _ => List.mem_cons_of_mem _ present
  case stacked =>
    intro base onTop
    exact congrArg (.scope outlook.scopes.length :: ·) onTop
  case leases => rfl

theorem keeps_enter (fit : outlook.Fit) (tenure : Tenure) : outlook.Keeps (outlook.enter tenure).2 :=
  (keeps_enclosing fit).trans (keeps_enterIn (keeps_enclosing fit).fit _ tenure)

/-- A context just entered is the program's. -/
theorem mem_enter (outlook : Outlook) (tenure : Tenure) :
    { scope := (outlook.enter tenure).1, tenure } ∈ (outlook.enter tenure).2.handles :=
  List.mem_cons_self

/-- The scope of a context just entered is new. -/
theorem le_enter (fit : outlook.Fit) (tenure : Tenure) : outlook.scopes.length ≤ (outlook.enter tenure).1 :=
  (keeps_enclosing fit).grown

/-! ## Leaving -/

/-- A context of the program is taken out from among its frames. -/
theorem leave_stacked (fit : outlook.Fit) {handle : Handle} (present : handle ∈ outlook.handles) {base : List Context}
    (onTop : outlook.stack.frames = outlook.frames ++ base) :
    (outlook.leave handle.scope).stack.frames = (outlook.leave handle.scope).frames ++ base := by
  have inFrames : Context.scope handle.scope ∈ outlook.frames := List.mem_map_of_mem present
  have distinct : outlook.frames.Nodup := by
    have scopes := fit.nodup.map (f := Context.scope) fun _ _ same => Context.scope.inj same
    rwa [List.map_map] at scopes
  have removed : (outlook.leave handle.scope).stack.frames = outlook.stack.frames.erase (.scope handle.scope) :=
    Stack.remove_frames ..
  rw [removed, onTop, List.erase_append_left _ inFrames, distinct.erase_eq_filter]
  congr 1
  simp only [frames, leave, List.filter_map]
  congr 1
  apply List.filter_congr
  intro other _
  by_cases same : other.scope = handle.scope
  · simp only [Function.comp_apply, same, bne_self_eq_false, ne_eq, not_true_eq_false, decide_false]
  · have apart : Context.scope other.scope ≠ .scope handle.scope := fun both => same (Context.scope.inj both)
    simp only [Function.comp_apply, bne_iff_ne.mpr apart, ne_eq, same, not_false_eq_true, decide_true]

/-- A part of a program that ends by leaving a context that it entered. -/
theorem Keeps.leave_new (kept : outlook.Keeps middle) (fit : outlook.Fit) {handle : Handle}
    (present : handle ∈ middle.handles) (new : outlook.scopes.length ≤ handle.scope) :
    outlook.Keeps (middle.leave handle.scope) where
  fit := kept.fit.leave handle.scope
  grown := Nat.le_trans kept.grown (Nat.le_of_eq (length_modifyScope ..).symm)
  spared id bound apart := by
    rw [scope_leave middle (Nat.ne_of_lt (Nat.lt_of_lt_of_le bound new)), kept.spared id bound apart]
  held other left := kept.held other (mem_leave.mp left).1
  lent other old tenure :=
    mem_leave.mpr ⟨kept.lent other old tenure, Nat.ne_of_lt (Nat.lt_of_lt_of_le (fit.bound other old) new)⟩
  stacked base onTop := leave_stacked kept.fit present (kept.stacked base onTop)
  leases := kept.leases

/-- A program leaves a context of its own. -/
theorem keeps_leave (fit : outlook.Fit) {handle : Handle} {name : String} (present : handle ∈ outlook.handles)
    (owned : handle.tenure = .owned name) : outlook.Keeps (outlook.leave handle.scope) where
  fit := fit.leave handle.scope
  grown := Nat.le_of_eq (length_modifyScope ..).symm
  spared id _ apart := scope_leave outlook (apart handle present).symm
  held other left := .inl (mem_leave.mp left).1
  lent other old tenure := by
    refine mem_leave.mpr ⟨old, fun same => ?_⟩
    rw [fit.eq_of_scope old present same] at tenure
    exact tenure name owned
  stacked base onTop := leave_stacked fit present onTop
  leases := rfl

/-- To leave the latest context leaves the others. -/
theorem Fit.handles_leave (fit : outlook.Fit) {handle : Handle} {rest : List Handle}
    (all : outlook.handles = handle :: rest) : (outlook.leave handle.scope).handles = rest := by
  have apart := fit.nodup
  rw [all, List.map_cons, List.nodup_cons] at apart
  simp only [Outlook.leave, all, List.filter_cons, ne_eq, not_true_eq_false, decide_false,
    Bool.false_eq_true, ↓reduceIte]
  refine List.filter_eq_self.mpr fun other present => decide_eq_true fun same => apart.1 ?_
  exact same ▸ List.mem_map_of_mem present

/-- A program that began without contexts leaves all that it has, and nothing else. -/
theorem Keeps.cleanUp (kept : outlook.Keeps middle) (bare : outlook.handles = []) :
    outlook.Keeps middle.cleanUp ∧ middle.cleanUp.handles = [] := by
  rw [Outlook.cleanUp]
  generalize all : middle.handles = handles
  induction handles generalizing middle with
  | nil => exact ⟨kept, all⟩
  | cons handle rest ih =>
    have present : handle ∈ middle.handles := all ▸ List.mem_cons_self
    have new : outlook.scopes.length ≤ handle.scope := by
      rcases kept.held handle present with old | new
      · rw [bare] at old
        exact absurd old List.not_mem_nil
      · exact new
    exact ih (kept.leave_new (fit_of_bare bare) present new) (kept.fit.handles_leave all)

/-! ## Ending -/

theorem keeps_resumePanic (fit : outlook.Fit) (panic : Failure.Panic) : outlook.Keeps (outlook.resumePanic panic).2 :=
  .of_same fit rfl rfl rfl rfl

theorem keeps_decideOutcome (fit : outlook.Fit) (ending : Ending) : outlook.Keeps (outlook.decideOutcome ending).2 := by
  cases ending with
  | success | panic payload | fail failing | bomb => exact .refl fit
  | rethrow =>
    rw [decideOutcome]
    split
    · exact keeps_resumePanic fit _
    · exact .refl fit
    · exact .refl fit
  | repanic =>
    rw [decideOutcome]
    split
    · exact keeps_resumePanic fit _
    · exact .refl fit

theorem keeps_catchOutcome (fit : outlook.Fit) (outcome : Outcome) :
    outlook.Keeps (outlook.catchOutcome outcome).2 := by
  cases outcome with
  | success | failed cause => exact .refl fit
  | panicked payload | bombed => exact .of_same fit rfl rfl rfl rfl

theorem handles_catchOutcome (outlook : Outlook) (outcome : Outcome) :
    (outlook.catchOutcome outcome).2.handles = outlook.handles := by
  cases outcome with
  | success | failed cause | panicked payload | bombed => rfl

theorem Scope.isSettled_conclude {scope : Scope} (settled : scope.isSettled = true)
    (result : Except Failure.TaskError Unit) : (scope.countDispatched.record result).complete.isSettled = true := by
  have counts : (scope.countDispatched.record result).dispatched = scope.dispatched + 1 ∧
      (scope.countDispatched.record result).completed = scope.completed := by
    cases result with
    | ok => exact ⟨rfl, rfl⟩
    | error failure =>
      simp only [Scope.record, Scope.recordFailure]
      split
      · exact ⟨rfl, rfl⟩
      · exact ⟨rfl, rfl⟩
  simp only [Scope.isSettled, Scope.complete, counts, decide_eq_true_eq] at settled ⊢
  omega

theorem Scope.state_conclude (scope : Scope) (result : Except Failure.TaskError Unit) :
    (scope.countDispatched.record result).complete.state = scope.state := by
  cases result with
  | ok => rfl
  | error failure =>
    simp only [Scope.record, Scope.recordFailure]
    split
    · rfl
    · rfl

/-- A program that began without contexts ends without any. -/
theorem Keeps.finish (kept : outlook.Keeps middle) (bare : outlook.handles = []) (voice : Voice) (ending : Ending) :
    outlook.Keeps (middle.finish voice ending).2 ∧ (middle.finish voice ending).2.handles = [] := by
  have said := kept.trans (keeps_say kept.fit voice (.ended voice.label))
  have decided := said.trans (keeps_decideOutcome said.fit ending)
  obtain ⟨cleaned, empty⟩ := decided.cleanUp bare
  exact ⟨cleaned.trans (keeps_catchOutcome cleaned.fit _), (handles_catchOutcome _ _).trans empty⟩

/-- So it has the stack that it began with. -/
theorem Keeps.stack_finish (kept : outlook.Keeps middle) (bare : outlook.handles = []) (voice : Voice)
    (ending : Ending) :
    (middle.finish voice ending).2.stack = outlook.stack := by
  obtain ⟨finished, empty⟩ := kept.finish bare voice ending
  have frames := finished.stacked outlook.stack.frames (by rw [Outlook.frames, bare]; rfl)
  rw [Outlook.frames, empty] at frames
  exact congrArg Stack.mk frames

/-- The end of a logic's program changes the logic's scope and no other that was there before. -/
theorem conclude_spares (kept : outlook.Keeps middle) (bare : outlook.handles = []) {scope : ScopeId}
    (bound : scope < outlook.scopes.length) (voice : Voice) (ending : Ending) :
    outlook.scopes.length ≤ (middle.conclude scope voice ending).scopes.length ∧
      (∀ id, id < outlook.scopes.length → id ≠ scope →
        (middle.conclude scope voice ending).scope id = outlook.scope id) ∧
      ∃ result, (middle.conclude scope voice ending).scope scope =
        ((outlook.scope scope).record result).complete := by
  obtain ⟨caught, -⟩ := kept.finish bare voice ending
  have apart (id : ScopeId) : ∀ handle ∈ outlook.handles, handle.scope ≠ id := by
    rw [bare]
    exact fun handle present => absurd present List.not_mem_nil
  refine ⟨?_, fun id old ne => ?_, ?_⟩
  · simp only [conclude, length_modifyScope]
    exact caught.grown
  · simp only [conclude, scope_modifyScope, if_neg fun both : id = scope ∧ _ => ne both.1]
    exact caught.spared id old (apart id)
  · refine ⟨(middle.finish voice ending).1, ?_⟩
    simp only [conclude, scope_modifyScope, length_modifyScope, true_and,
      if_pos (Nat.lt_of_lt_of_le bound caught.grown)]
    rw [caught.spared scope bound (apart scope)]

/-! ## Programs -/

@[simp] theorem handles_begin (outlook : Outlook) (scope : ScopeId) (voice : Voice) :
    (outlook.begin scope voice).handles = [] := by
  rw [begin, say]
  split_ifs
  · rfl
  · rfl

theorem scopes_begin (outlook : Outlook) (scope : ScopeId) (voice : Voice) :
    (outlook.begin scope voice).scopes = (outlook.modifyScope scope Scope.countDispatched).scopes := by
  rw [begin, say]
  split_ifs
  · rfl
  · rfl

@[simp] theorem length_begin (outlook : Outlook) (scope : ScopeId) (voice : Voice) :
    (outlook.begin scope voice).scopes.length = outlook.scopes.length := by
  rw [scopes_begin, length_modifyScope]

theorem scope_begin (outlook : Outlook) (scope : ScopeId) (voice : Voice) (id : ScopeId) :
    (outlook.begin scope voice).scope id = (outlook.modifyScope scope Scope.countDispatched).scope id := by
  rw [Outlook.scope, scopes_begin, Outlook.scope]

/-- Around the program of a logic, all that changes of what was there before is the logic's scope. -/
theorem keeps_backTo (fit : outlook.Fit) {handle : Handle} (present : handle ∈ outlook.handles) {voice : Voice}
    (ending : Ending) (kept : (outlook.begin handle.scope voice).Keeps middle) :
    outlook.Keeps ((middle.conclude handle.scope voice ending).backTo outlook) := by
  have inUse := fit.bound handle present
  have concluded := conclude_spares kept (handles_begin ..) (by rwa [length_begin]) voice ending
  simp only [length_begin, scope_begin, scope_modifyScope, inUse, and_true, ↓reduceIte] at concluded
  obtain ⟨grown, others, result, told⟩ := concluded
  have spared (id : ScopeId) (bound : id < outlook.scopes.length) (ne : id ≠ handle.scope) :
      (middle.conclude handle.scope voice ending).scope id = outlook.scope id := by
    rw [others id bound ne, if_neg ne]
  constructor
  case fit =>
    constructor
    case nodup => exact fit.nodup
    case bound => exact fun other old => Nat.lt_of_lt_of_le (fit.bound other old) grown
    case accepting =>
      intro other old
      by_cases same : other.scope = handle.scope
      · exact same ▸ (congrArg Scope.state told).trans
          ((Scope.state_conclude ..).trans (fit.accepting handle present))
      · exact (congrArg Scope.state (spared _ (fit.bound other old) same)).trans (fit.accepting other old)
    case settled =>
      intro other old
      by_cases same : other.scope = handle.scope
      · exact same ▸ (congrArg Scope.isSettled told).trans
          (Scope.isSettled_conclude (fit.settled handle present) result)
      · exact (congrArg Scope.isSettled (spared _ (fit.bound other old) same)).trans (fit.settled other old)
  case grown => exact grown
  case spared => exact fun id bound apart => spared id bound (apart handle present).symm
  case held => exact fun other old => .inl old
  case lent => exact fun other old _ => old
  case stacked => exact fun base onTop => onTop
  case leases => rfl

theorem keeps_performAct (fit : outlook.Fit) (act : Act) : outlook.Keeps (outlook.performAct act).2 := by
  unfold performAct
  split
  · split_ifs
    · exact .refl fit
    · exact keeps_enter fit _
  · split_ifs
    · exact .refl fit
    · split
      · exact .refl fit
      · exact keeps_enterIn fit _ _
  · split
    · exact .refl fit
    · exact .refl fit
  · split
    · exact .refl fit
    · exact .refl fit
  all_goals exact .refl fit

/-- A context that is entered, used and left by one operation. -/
private theorem keeps_inside (fit : outlook.Fit) {tenure : Tenure} (lent : ∀ name, tenure ≠ .owned name)
    (kept : (outlook.enter tenure).2.Keeps middle) : outlook.Keeps (middle.leave (outlook.enter tenure).1) :=
  ((keeps_enter fit tenure).trans kept).leave_new fit (kept.lent _ (mem_enter outlook tenure) lent)
    (le_enter fit tenure)

theorem keeps_joined (fit : outlook.Fit) (error : Option Failure.ContextError) :
    outlook.Keeps (outlook.joined error).2 :=
  .of_same fit rfl rfl rfl rfl

mutual

/-- Plain operations leave alone what is not the program's. -/
theorem keeps_performAll (voice : Voice) (logged : Bool) : (ops : List Op) → {outlook : Outlook} →
    outlook.Fit → outlook.Keeps (performAll voice logged ops outlook).2
  | [], _, fit => .refl fit
  | op :: rest, outlook, fit => by
    have first := keeps_perform voice op fit
    rw [performAll]
    split_ifs
    · have said := first.trans (keeps_say first.fit voice (.replied voice.label op.title (perform voice op outlook).1))
      exact said.trans (keeps_performAll voice logged rest said.fit)
    · exact first.trans (keeps_performAll voice logged rest first.fit)

theorem keeps_perform (voice : Voice) : (op : Op) → {outlook : Outlook} →
    outlook.Fit → outlook.Keeps (perform voice op outlook).2
  | .act act, _, fit => keeps_performAct fit act
  | .exec context logic, outlook, fit => by
    rw [perform]
    split
    next => exact .refl fit
    next scope found =>
      obtain ⟨handle, present, rfl⟩ := mem_of_context? found
      exact keeps_performLogic logic true fit present
  | .executeAll logics, outlook, fit => by
    rw [perform]
    have kept := keeps_performLogics logics (keeps_enter fit .hidden).fit (mem_enter outlook .hidden)
    have left := keeps_inside fit (fun _ => Tenure.noConfusion) kept
    exact left.trans (keeps_joined left.fit _)
  | .exit context, outlook, fit => by
    rw [perform]
    split
    next => exact .refl fit
    next scope found =>
      obtain ⟨handle, present, rfl, owned⟩ := mem_of_ownContext? found
      have left := keeps_leave fit present owned
      exact left.trans (keeps_joined left.fit _)
  | .drop context, outlook, fit => by
    rw [perform]
    split
    next => exact .refl fit
    next scope found =>
      obtain ⟨handle, present, rfl, owned⟩ := mem_of_ownContext? found
      exact keeps_leave fit present owned
  | .withContext name body value panic, outlook, fit => by
    rw [perform]
    split_ifs
    · exact .refl fit
    · have kept := keeps_performAll voice true body (keeps_enter fit (.lent name)).fit
      have left := keeps_inside fit (fun _ => Tenure.noConfusion) kept
      dsimp only
      split
      · exact left
      · exact left
      · exact left.trans (keeps_joined left.fit _)
  | .acquire .., _, fit | .hold, _, fit | .release _, _, fit | .concurrent _, _, fit | .dispatch .., _, fit
  | .attach .., _, fit | .thread .., _, fit | .repeated .., _, fit | .burst .., _, fit | .sum .., _, fit
  | .dropPool .., _, fit => .refl fit

theorem keeps_performLogic : (logic : Logic Op) → (tried : Bool) → {outlook : Outlook} → outlook.Fit →
    {handle : Handle} → handle ∈ outlook.handles → outlook.Keeps (performLogic handle.scope tried logic outlook)
  | ⟨label, quiet, body, declared⟩, tried, outlook, fit, handle, present => by
    rw [performLogic]
    have begun : (outlook.begin handle.scope { label, quiet }).Fit := fit_of_bare (handles_begin ..)
    exact keeps_backTo fit present _ (keeps_performAll { label, quiet } true body begun)

theorem keeps_performLogics : (logics : List (Logic Op)) → {outlook : Outlook} → outlook.Fit →
    {handle : Handle} → handle ∈ outlook.handles → outlook.Keeps (performLogics handle.scope logics outlook)
  | [], _, fit, _, _ => .refl fit
  | logic :: rest, outlook, fit, handle, present => by
    have first := keeps_performLogic logic false fit present
    rw [performLogics]
    refine first.trans (keeps_performLogics rest first.fit ?_)
    cases logic
    rwa [performLogic]

end

end Program.Outlook

end ScopedWork
