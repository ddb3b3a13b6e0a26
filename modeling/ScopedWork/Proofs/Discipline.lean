import ScopedWork.Proofs.Turns

/-! # The order of a thread's contexts

Contexts may be left in any order, in the middle of others and by logics that run inline, and a thread's
stack always is what it was at first with the scopes of the contexts that are open on top, the latest entered
first. A snapshot that is attached in between begins such a stack anew; once it is detached, the former one
is back.
-/

namespace ScopedWork

/-- The contexts that a thread has entered in the course of a run and not left since, latest first. -/
def openContexts (history : List Moment) (thread : ThreadId) : List ScopeId :=
  history.foldr (fun moment opened => moment.opened thread opened) []

namespace Stack

variable {stack : Stack} {scopes : List ScopeId} {scope : ScopeId}

/-- A stack with scopes on top of it, given from the top down. -/
def raise (stack : Stack) (scopes : List ScopeId) : Stack :=
  { frames := scopes.map .scope ++ stack.frames }

@[simp] theorem raise_nil (stack : Stack) : stack.raise [] = stack :=
  rfl

theorem raise_raise (stack : Stack) (scopes more : List ScopeId) :
    (stack.raise scopes).raise more = stack.raise (more ++ scopes) := by
  simp only [raise, List.map_append, List.append_assoc]

/-- A scope that is entered goes on top. -/
theorem push_raise (stack : Stack) (scopes : List ScopeId) (scope : ScopeId) :
    (stack.raise scopes).push (.scope scope) = stack.raise (scope :: scopes) :=
  rfl

/-- A scope that is left goes from wherever it is, and the others keep their order. -/
theorem remove_raise (member : scope ∈ scopes) :
    (stack.raise scopes).remove (.scope scope) = stack.raise (scopes.erase scope) := by
  have inside : Context.scope scope ∈ scopes.map Context.scope := List.mem_map_of_mem member
  have apart : Function.Injective Context.scope := fun _ _ same => Context.scope.inj same
  have frames := remove_frames (stack.raise scopes) (.scope scope)
  rw [raise, List.erase_append_left _ inside, ← List.map_erase apart] at frames
  exact congrArg Stack.mk frames

theorem currentScope?_raise (stack : Stack) (scopes : List ScopeId) :
    (stack.raise scopes).currentScope? = scopes.head?.or stack.currentScope? := by
  cases scopes <;> rfl

theorem count_raise (missing : scope ∉ scopes) :
    (stack.raise scopes).frames.count (.scope scope) = stack.frames.count (.scope scope) := by
  have outside : Context.scope scope ∉ scopes.map Context.scope := fun present => by
    obtain ⟨other, member, same⟩ := List.mem_map.mp present
    exact missing (Context.scope.inj same ▸ member)
  rw [raise, List.count_append, List.count_eq_zero.mpr outside, Nat.zero_add]

end Stack

/-! ## What a thread has grown since -/

/-- A thread that ran `first` on top of `below`, with the stack `start`, has come to open contexts, a stack and
a chain of what it runs: the program of `first` has entered contexts on top of those it had, and logics run
inline on top of it, each under the stack on which it began. -/
inductive Grown (first : Activation) (below : List Activation) (start : Stack) :
    (opened : List ScopeId) → Stack → List Activation → Prop
  | own {activation : Activation} {handles : List Handle} (entered : activation.handles = handles ++ first.handles)
    (saved : activation.saved = first.saved) :
    Grown first below start (handles.map Handle.scope) (start.raise (handles.map Handle.scope)) (activation :: below)
  | inline {opened : List ScopeId} {stack : Stack} {chain : List Activation} {activation : Activation}
    (grown : Grown first below start opened stack chain)
    (saved : activation.saved = [] ∨ activation.saved = [stack]) :
    Grown first below start (activation.handles.map Handle.scope ++ opened)
      (stack.raise (activation.handles.map Handle.scope)) (activation :: chain)

namespace Grown

variable {first activation other : Activation} {below outer chain : List Activation} {start stack : Stack}
  {opened : List ScopeId} {scope : ScopeId}

theorem refl (first : Activation) (below : List Activation) (start : Stack) :
    Grown first below start [] start (first :: below) :=
  .own (List.nil_append _).symm rfl

theorem stack_eq (grown : Grown first below start opened stack chain) : stack = start.raise opened := by
  induction grown with
  | own => rfl
  | inline _ _ ih => rw [ih, Stack.raise_raise]

theorem length_lt (grown : Grown first below start opened stack chain) : below.length < chain.length := by
  induction grown with
  | own => exact Nat.lt_succ_self _
  | inline _ _ ih => exact Nat.lt_succ_of_lt ih

/-- The contexts that are open are in the hands of what the thread runs. -/
theorem mem_chain (grown : Grown first below start opened stack chain) (member : scope ∈ opened) :
    ∃ activation ∈ chain, ∃ handle ∈ activation.handles, handle.scope = scope := by
  induction grown with
  | @own activation handles entered =>
    obtain ⟨handle, has, same⟩ := List.mem_map.mp member
    exact ⟨activation, List.mem_cons_self, handle, entered ▸ List.mem_append_left _ has, same⟩
  | @inline _ _ _ activation _ _ ih =>
    rcases List.mem_append.mp member with inner | outer
    · obtain ⟨handle, has, same⟩ := List.mem_map.mp inner
      exact ⟨activation, List.mem_cons_self, handle, has, same⟩
    · obtain ⟨holder, inside, has⟩ := ih outer
      exact ⟨holder, List.mem_cons_of_mem _ inside, has⟩

/-- The contexts that the thread's programs have are open, but for those that they had at first. -/
theorem mem_opened (grown : Grown first below start opened stack chain)
    (new : ∀ activation ∈ first :: below, ∀ handle ∈ activation.handles, handle.scope ≠ scope)
    (member : activation ∈ chain) {handle : Handle} (has : handle ∈ activation.handles)
    (same : handle.scope = scope) :
    scope ∈ opened := by
  induction grown with
  | own entered =>
    rcases List.mem_cons.mp member with rfl | outside
    · rw [entered] at has
      rcases List.mem_append.mp has with since | before
      · exact List.mem_map.mpr ⟨handle, since, same⟩
      · exact absurd same (new first List.mem_cons_self handle before)
    · exact absurd same (new activation (List.mem_cons_of_mem _ outside) handle has)
  | inline _ _ ih =>
    rcases List.mem_cons.mp member with rfl | inside
    · exact List.mem_append_left _ (List.mem_map.mpr ⟨handle, has, same⟩)
    · exact List.mem_append_right _ (ih inside)

/-- A thread that runs nothing inline runs the program it ran at first. -/
theorem alone (grown : Grown first below start opened stack chain) (level : chain.length = below.length + 1) :
    ∃ activation handles, chain = activation :: below ∧ opened = handles.map Handle.scope ∧
      activation.handles = handles ++ first.handles ∧ activation.saved = first.saved := by
  cases grown with
  | @own activation handles entered saved => exact ⟨activation, handles, rfl, rfl, entered, saved⟩
  | inline grown =>
    have longer := grown.length_lt
    rw [List.length_cons] at level
    omega

/-- What a thread runs innermost may change in anything but its contexts and the stacks it has set aside. -/
theorem exchange (grown : Grown first below start opened stack (activation :: outer))
    (handles : other.handles = activation.handles) (saved : other.saved = activation.saved) :
    Grown first below start opened stack (other :: outer) := by
  cases grown with
  | own entered same => exact .own (handles.trans entered) (saved.trans same)
  | inline grown same =>
    rw [← handles]
    exact .inline grown (by rwa [saved])

theorem enter (grown : Grown first below start opened stack (activation :: outer)) (scope : ScopeId) (tenure : Tenure) :
    Grown first below start (scope :: opened) (stack.push (.scope scope))
      ({ activation with handles := { scope, tenure } :: activation.handles } :: outer) := by
  let entered : Activation := { activation with handles := { scope, tenure } :: activation.handles }
  cases grown with
  | @own _ handles same saved =>
    rw [Stack.push_raise]
    exact @Grown.own first below start entered ({ scope, tenure } :: handles) (congrArg _ same) saved
  | inline grown saved =>
    rw [Stack.push_raise]
    exact @Grown.inline first below start _ _ _ entered grown saved

/-- The scopes of contexts of which none is twice, without one of them. -/
private theorem map_filter {handles : List Handle} (nodup : (handles.map Handle.scope).Nodup) (scope : ScopeId) :
    (handles.filter (·.scope ≠ scope)).map Handle.scope = (handles.map Handle.scope).erase scope := by
  rw [nodup.erase_eq_filter, List.filter_map]
  congr 1
  exact List.filter_congr fun handle _ => decide_not

/-- Which context it leaves does not matter, as long as it is one that the thread has entered since. -/
theorem leave (grown : Grown first below start opened stack (activation :: outer)) (member : scope ∈ opened)
    (held : ∃ handle ∈ activation.handles, handle.scope = scope)
    (nodup : (activation.handles.map Handle.scope).Nodup) :
    Grown first below start (opened.erase scope) (stack.remove (.scope scope)) ({ activation with
      handles := activation.handles.filter (·.scope ≠ scope), leaving := none } :: outer) := by
  let left : Activation := { activation with
    handles := activation.handles.filter (·.scope ≠ scope), leaving := none }
  cases grown with
  | @own _ handles entered saved =>
    rw [entered, List.map_append, List.nodup_append] at nodup
    obtain ⟨nodup, -, disjoint⟩ := nodup
    -- the contexts that the program had at first are others
    have kept : first.handles.filter (·.scope ≠ scope) = first.handles :=
      List.filter_eq_self.mpr fun handle has => decide_eq_true fun same =>
        disjoint scope member scope (List.mem_map.mpr ⟨handle, has, same⟩) rfl
    have split : left.handles = handles.filter (·.scope ≠ scope) ++ first.handles := by
      change activation.handles.filter _ = _
      rw [entered, List.filter_append, kept]
    rw [Stack.remove_raise member, ← map_filter nodup]
    exact .own split saved
  | inline grown saved =>
    obtain ⟨handle, has, same⟩ := held
    have inside : scope ∈ activation.handles.map Handle.scope := List.mem_map.mpr ⟨handle, has, same⟩
    rw [Stack.remove_raise inside, List.erase_append_left _ inside, ← map_filter nodup]
    exact @Grown.inline first below start _ _ _ left grown saved

/-- A work that the thread begins on top of what it runs has no contexts yet. -/
theorem begin (grown : Grown first below start opened stack chain) {work : WorkId} {saved : List Stack}
    (same : saved = [] ∨ saved = [stack]) : Grown first below start opened stack (begun work saved :: chain) :=
  @Grown.inline first below start opened stack chain (begun work saved) grown same

/-- A work whose program has ended has no contexts left, and its stack is the one on which it began. -/
theorem close (grown : Grown first below start opened stack (activation :: outer)) (inner : below.length < outer.length)
    (bare : activation.handles = []) :
    Grown first below start opened (activation.saved.getLast?.getD stack)
      ({ activation with saved := [] } :: outer) := by
  cases grown with
  | own => exact absurd inner (Nat.lt_irrefl _)
  | @inline _ under _ _ grown saved =>
    have back : activation.saved.getLast?.getD (under.raise (activation.handles.map Handle.scope)) = under := by
      rcases saved with empty | one
      · rw [empty, bare]
        rfl
      · rw [one]
        rfl
    rw [back, bare]
    have closed := @Grown.inline first below start _ _ _ { activation with saved := [] } grown (.inl rfl)
    rwa [bare] at closed

theorem pop (grown : Grown first below start opened stack (activation :: outer)) (inner : below.length < outer.length)
    (bare : activation.handles = []) : Grown first below start opened stack outer := by
  cases grown with
  | own => exact absurd inner (Nat.lt_irrefl _)
  | inline grown =>
    rw [bare]
    exact grown

end Grown

/-! ## Keeping to the discipline -/

/-- Whether a thread that had so many activations at first, and has opened contexts since, may take an action:
it leaves none but those contexts, attaches no snapshot, and the program that ran at first does not end. -/
def System.isDisciplined (system : System) (thread : ThreadId) (depth : Nat) (opened : List ScopeId) : Action → Bool
  | .leave other => other != thread || (system.activation thread).leaving.any fun target => opened.contains target.1
  | .attach other _ | .detach other => other != thread
  | .endLogic other _ | .endJob other | .complete other | .finish other =>
    other != thread || depth < (system.thread thread).activations.length
  | _ => true

/-- A run in which a thread keeps to the discipline. It may attach a snapshot and detach it later, if it leaves
in between what it has entered in between. -/
inductive Within (thread : ThreadId) : (first : System) → (history : List Moment) → System → Prop
  | start (first : System) : Within thread first [] first
  | step {first system : System} {history : List Moment} {action : Action} (within : Within thread first history system)
    (enabled : system.Enabled action) (disciplined : system.isDisciplined thread
      (first.thread thread).activations.length (openContexts history thread) action = true) :
    Within thread first (⟨system, action⟩ :: history) (system.perform action)
  | attached {first system last : System} {history inside : List Moment} {snapshot : Stack}
    (within : Within thread first history system) (attaches : system.Enabled (.attach thread snapshot))
    (inner : Within thread (system.perform (.attach thread snapshot)) inside last)
    (level : (last.thread thread).activations.length = (system.thread thread).activations.length)
    (emptied : openContexts inside thread = []) (detaches : last.Enabled (.detach thread)) :
    Within thread first (⟨last, .detach thread⟩ :: (inside ++ ⟨system, .attach thread snapshot⟩ :: history))
      (last.perform (.detach thread))

def System.disciplines (system : System) (thread : ThreadId) (depth : Nat) (opened : List ScopeId) :
    List Action → Bool
  | [] => true
  | action :: rest => decide (system.Enabled action) && system.isDisciplined thread depth opened action &&
      (system.perform action).disciplines thread depth (Moment.opened ⟨system, action⟩ thread opened) rest

theorem Within.performAll {thread : ThreadId} {first system : System} {history : List Moment}
    (within : Within thread first history system) {actions : List Action}
    (allowed : system.disciplines thread (first.thread thread).activations.length (openContexts history thread)
      actions = true) :
    Within thread first (system.moments history actions) (system.performAll actions) := by
  induction actions generalizing system history with
  | nil => exact within
  | cons action rest ih =>
    simp only [System.disciplines, Bool.and_eq_true, decide_eq_true_eq] at allowed
    exact ih (within.step allowed.1.1 allowed.1.2) allowed.2

namespace Moment

variable {system : System} {thread : ThreadId} {action : Action} {opened : List ScopeId}

/-- A thread enters a context of a new scope, or leaves one, or does neither. -/
theorem opened_cases (moment : Moment) (thread : ThreadId) (opened : List ScopeId) :
    moment.opened thread opened = opened ∨
      (∃ scope, moment.before.scopes.length ≤ scope ∧ moment.opened thread opened = scope :: opened) ∨
      ∃ scope, moment.opened thread opened = opened.erase scope := by
  obtain ⟨system, action⟩ := moment
  cases action with
  | enter other tenure =>
    dsimp only [Moment.opened]
    split_ifs
    · exact .inr (.inl ⟨_, (System.moves_enclosing thread).length_le, rfl⟩)
    · exact .inl rfl
  | enterIn other parent tenure =>
    dsimp only [Moment.opened]
    split_ifs
    · exact .inr (.inl ⟨_, Nat.le_refl _, rfl⟩)
    · exact .inl rfl
  | leave other =>
    dsimp only [Moment.opened]
    split_ifs
    · cases (system.activation thread).leaving with
      | none => exact .inl rfl
      | some target => exact .inr (.inr ⟨target.1, rfl⟩)
    · exact .inl rfl
  | _ => exact .inl rfl

/-- What a disciplined thread has opened before does not matter to what it opens. -/
theorem opened_append {depth : Nat} (disciplined : system.isDisciplined thread depth opened action = true)
    (earlier : List ScopeId) : Moment.opened ⟨system, action⟩ thread (opened ++ earlier) =
      Moment.opened ⟨system, action⟩ thread opened ++ earlier := by
  cases action with
  | enter other | enterIn other =>
    dsimp only [Moment.opened]
    split_ifs <;> rfl
  | leave other =>
    dsimp only [Moment.opened]
    split_ifs with same
    · simp only [System.isDisciplined, same, bne_self_eq_false, Bool.false_or, Option.any_eq_true,
        List.contains_iff_mem]
        at disciplined
      obtain ⟨target, leaving, member⟩ := disciplined
      rw [leaving]
      exact List.erase_append_left _ member
    · rfl
  | _ => rfl

end Moment

namespace Within

variable {thread : ThreadId} {first system : System} {history : List Moment}

theorem reaches (within : Within thread first history system) : Reaches first history system := by
  induction within with
  | start => exact .start
  | step _ enabled _ ih => exact ih.step enabled
  | attached _ attaches _ _ _ detaches before inside =>
    exact Reaches.step ((before.step attaches).trans inside) detaches

/-- What is opened under a snapshot is left before the snapshot is detached. -/
private theorem openContexts_attached {last : System} {inside : List Moment} {snapshot : Stack}
    (append : ∀ earlier, openContexts (inside ++ earlier) thread =
      openContexts inside thread ++ openContexts earlier thread)
    (emptied : openContexts inside thread = []) (history : List Moment) :
    openContexts (⟨last, .detach thread⟩ :: (inside ++ ⟨system, .attach thread snapshot⟩ :: history)) thread =
      openContexts history thread := by
  have opened := append (⟨system, .attach thread snapshot⟩ :: history)
  rw [emptied] at opened
  exact opened

/-- What was open before is still open below what is opened. -/
theorem openContexts_append (within : Within thread first history system) (earlier : List Moment) :
    openContexts (history ++ earlier) thread = openContexts history thread ++ openContexts earlier thread := by
  induction within generalizing earlier with
  | start => rfl
  | step _ _ disciplined ih =>
    rw [List.cons_append, openContexts, List.foldr_cons, ← openContexts, ih]
    exact Moment.opened_append disciplined _
  | attached _ _ _ _ emptied _ before during =>
    rw [List.cons_append, List.append_assoc, List.cons_append, openContexts_attached during emptied,
      openContexts_attached during emptied, before]

end Within

/-! ## What every action keeps -/

namespace System

variable {system : System} {events : List Event} {thread : ThreadId} {action : Action} {activation first : Activation}
  {below chain : List Activation} {start stack : Stack} {opened : List ScopeId}

/-- No program has two contexts of one scope. -/
theorem nodup_handles (sound : system.picture.Sound events) (member : activation ∈ system.crew) :
    (activation.handles.map Handle.scope).Nodup := by
  rw [List.nodup_iff_count_le_one]
  intro scope
  have single : activation.contexts scope ≤ (system.crew.map (·.contexts scope)).sum :=
    Multiset.single_le_sum (fun _ _ => Nat.zero_le _) _ (Multiset.mem_map_of_mem _ member)
  rw [List.count, List.countP_map]
  exact Nat.le_trans single (Nat.le_trans (Nat.le_of_eq (sound.tenancy.held scope)) (Bool.toNat_le _))

theorem Turn.grown (turn : system.Turn action thread stack chain) (sound : system.picture.Sound events)
    (disciplined : system.isDisciplined thread (below.length + 1) opened action = true)
    (grown : Grown first below start opened (system.stack thread) (system.thread thread).activations) :
    Grown first below start (Moment.opened ⟨system, action⟩ thread opened) stack chain := by
  have busy (idle : (system.thread thread).activations = []) : False := by
    have length := grown.length_lt
    rw [idle] at length
    exact Nat.not_lt_zero _ length
  -- a program that ends is not the one that ran at first
  have inner {activation : Activation} {outer : List Activation}
      (here : (system.thread thread).activations = activation :: outer)
      (deeper : decide (below.length + 1 < (system.thread thread).activations.length) = true) :
      below.length < outer.length := by
    rw [here, List.length_cons] at deeper
    exact Nat.lt_of_succ_lt_succ (of_decide_eq_true deeper)
  cases turn with
  | rest calm =>
    rw [calm]
    exact grown
  | trade here _ calm | wait here calm =>
    rw [here] at grown
    rw [calm]
    exact grown.exchange rfl rfl
  | enter here _ opens =>
    rw [here] at grown
    rw [opens]
    exact grown.enter _ _
  | @leave activation outer scope departure here leaves leaving =>
    subst leaves
    have top : (system.activation thread).leaving = some (scope, departure) := by
      rw [activation_of_chain here, leaving]
    have opens : Moment.opened ⟨system, .leave thread⟩ thread opened = opened.erase scope := by
      simp only [Moment.opened, top, ↓reduceIte, Option.elim_some]
    have member : scope ∈ opened := by
      simpa [System.isDisciplined, top] using disciplined
    have inside : activation ∈ system.crew := mem_crew_of_mem (here ▸ List.mem_cons_self)
    have held := Activation.contexts_pos.mp (sound.tenancy.leaving activation inside scope departure leaving)
    rw [here] at grown
    rw [opens]
    exact grown.leave member held (nodup_handles sound inside)
  | attach _ attaches =>
    subst attaches
    simp [System.isDisciplined] at disciplined
  | detach _ detaches =>
    subst detaches
    simp [System.isDisciplined] at disciplined
  | begin here same _ calm =>
    rw [here] at grown
    rw [calm]
    refine Grown.begin ?_ same
    exact grown.exchange rfl rfl
  | close here ends bare =>
    rcases ends with ⟨outcome, rfl⟩ | rfl
    all_goals
      have deeper := inner here (by simpa [System.isDisciplined] using disciplined)
      rw [here] at grown
      exact grown.close deeper bare
  | pop here completes bare =>
    subst completes
    have deeper := inner here (by simpa [System.isDisciplined] using disciplined)
    rw [here] at grown
    exact grown.pop deeper bare
  | finish here finishes =>
    subst finishes
    exact absurd (inner here (by simpa [System.isDisciplined] using disciplined)) (Nat.not_lt_zero _)
  | fade idle | take idle | start idle => exact (busy idle).elim

end System

namespace Within

variable {setting : Setting.State} {past history : List Moment} {first system : System} {thread : ThreadId}

/-- A disciplined thread has grown from what it was at first by the contexts that it has opened. -/
theorem grown (within : Within thread first history system) (reached : Reaches (.initial setting) past first)
    {top : Activation} {below : List Activation} (chain : (first.thread thread).activations = top :: below) :
    Grown top below (first.stack thread) (openContexts history thread) (system.stack thread)
      (system.thread thread).activations := by
  induction within generalizing past top below with
  | start first =>
    rw [chain]
    exact .refl top below _
  | step within enabled disciplined ih =>
    have here := reached.trans within.reaches
    refine (here.turn enabled thread).grown here.sound ?_ (ih reached chain)
    rwa [chain, List.length_cons] at disciplined
  | @attached first system last history inside snapshot within attaches inner level emptied detaches before during =>
    have outer := before reached chain
    obtain ⟨program, rest, here⟩ := System.chain_of_isRunning attaches
    -- the snapshot is attached
    have attached := System.thread_of_modify (System.active_of_chain here)
      (System.threads_attach system thread snapshot)
      thread
    rw [if_pos rfl, here, List.modifyHead_cons] at attached
    have grown := during ((reached.trans within.reaches).step attaches) (congrArg Thread.activations attached)
    -- what runs now is the program that attached it, and has left what it has entered since
    rw [here, List.length_cons] at level
    obtain ⟨activation, handles, now, opened, held, saved⟩ := grown.alone level
    have none_left : handles = [] := List.map_eq_nil_iff.mp (opened.symm.trans emptied)
    rw [none_left, List.nil_append] at held
    -- the snapshot is detached
    have back : (last.activation thread).saved = system.stack thread :: program.saved := by
      rw [System.activation_of_chain now, saved]
    have detached := System.thread_of_modify (System.active_of_chain now) (System.threads_detach back) thread
    rw [if_pos rfl, now, List.modifyHead_cons] at detached
    rw [here] at outer
    rw [openContexts_attached inner.openContexts_append emptied]
    change Grown _ _ _ _ ((last.detach thread).thread thread).stack ((last.detach thread).thread thread).activations
    rw [detached]
    exact outer.exchange held rfl

end Within

/-! ## The stack of a disciplined thread -/

/-- A thread's stack is its first one with the contexts on top that it has open now, in the order in which they
were entered. -/
structure System.Layered (first system : System) (thread : ThreadId) (opened : List ScopeId) : Prop where
  frames : (system.stack thread).frames = opened.map .scope ++ (first.stack thread).frames
  /-- Scopes are numbered in the order in which they are entered, and the latest stands first. -/
  order : opened.Pairwise (· > ·)
  /-- What is open is what the thread's programs have entered since and not left. -/
  held : ∀ scope, scope ∈ opened ↔ first.scopes.length ≤ scope ∧
    ∃ activation ∈ (system.thread thread).activations, ∃ handle ∈ activation.handles, handle.scope = scope
  current : (system.stack thread).currentScope? = opened.head?.or (first.stack thread).currentScope?
  unclosed : ∀ scope ∈ opened, (system.scope scope).state ≠ .closed
  /-- A closed scope is on the stack only as often as it was at first. -/
  closed : ∀ scope, (system.scope scope).state = .closed →
    (system.stack thread).frames.count (.scope scope) = (first.stack thread).frames.count (.scope scope)
  restored : opened = [] → system.stack thread = first.stack thread

namespace Within

variable {setting : Setting.State} {past history : List Moment} {first system : System} {thread : ThreadId}

/-- The open contexts are numbered in the order in which they were entered, all of them since. -/
theorem openContexts_order (within : Within thread first history system)
    (reached : Reaches (.initial setting) past first)
    {top : Activation} {below : List Activation} (chain : (first.thread thread).activations = top :: below) :
    (openContexts history thread).Pairwise (· > ·) ∧
      ∀ scope ∈ openContexts history thread, first.scopes.length ≤ scope := by
  induction within generalizing past top below with
  | start => exact ⟨.nil, fun _ member => absurd member List.not_mem_nil⟩
  | @step first system history action within enabled disciplined ih =>
    have here := reached.trans within.reaches
    obtain ⟨order, since⟩ := ih reached chain
    rw [openContexts, List.foldr_cons, ← openContexts]
    rcases Moment.opened_cases ⟨system, action⟩ thread (openContexts history thread) with
      same | ⟨scope, fresh, entered⟩ | ⟨scope, left⟩
    · rw [same]
      exact ⟨order, since⟩
    · rw [entered]
      have fewer : first.scopes.length ≤ system.scopes.length := (reached.moves within.reaches).length_le
      refine ⟨List.pairwise_cons.mpr ⟨fun other member => ?_, order⟩, fun other member => ?_⟩
      · obtain ⟨activation, inside, handle, has, rfl⟩ := (within.grown reached chain).mem_chain member
        exact Nat.lt_of_lt_of_le (System.lt_of_isEntered (System.isEntered_of_mem here.sound inside has)) fresh
      · rcases List.mem_cons.mp member with rfl | member
        · exact Nat.le_trans fewer fresh
        · exact since other member
    · rw [left]
      exact ⟨order.sublist List.erase_sublist, fun other member => since other (List.mem_of_mem_erase member)⟩
  | attached within attaches inner level emptied detaches before =>
    rw [openContexts_attached inner.openContexts_append emptied]
    exact before reached chain

end Within

/-- Whatever a thread has been running and whatever stack it has had: as long as it leaves only contexts that it
has entered since, in whatever order, and has its logics do the same, its stack is the first one with the contexts on
top that are open. -/
theorem stack_discipline {setting : Setting.State} {past history : List Moment} {first system : System}
    {thread : ThreadId} (reached : Reaches (.initial setting) past first)
    (active : (first.thread thread).activations ≠ []) (within : Within thread first history system) :
    first.Layered system thread (openContexts history thread) := by
  obtain ⟨top, below, chain⟩ := List.exists_cons_of_ne_nil active
  have here := reached.trans within.reaches
  have grown := within.grown reached chain
  obtain ⟨order, since⟩ := within.openContexts_order reached chain
  have stack : system.stack thread = (first.stack thread).raise (openContexts history thread) := grown.stack_eq
  have unclosed {scope : ScopeId} (member : scope ∈ openContexts history thread) :
      (system.scope scope).state ≠ .closed := by
    obtain ⟨activation, inside, handle, has, rfl⟩ := grown.mem_chain member
    have entered := System.isEntered_of_mem here.sound inside has
    simp only [Scope.isEntered, Bool.and_eq_true, bne_iff_ne, ne_eq] at entered
    exact entered.2
  constructor
  case frames =>
    rw [stack]
    rfl
  case order => exact order
  case held =>
    intro scope
    refine ⟨fun member => ⟨since scope member, grown.mem_chain member⟩, ?_⟩
    rintro ⟨new, activation, inside, handle, has, same⟩
    refine grown.mem_opened ?_ inside has same
    rintro activation member handle has rfl
    rw [← chain] at member
    exact Nat.not_lt.mpr new (System.lt_of_isEntered (System.isEntered_of_mem reached.sound member has))
  case current => rw [stack, Stack.currentScope?_raise]
  case unclosed => exact fun scope member => unclosed member
  case closed =>
    intro scope closed
    rw [stack, Stack.count_raise fun member => unclosed member closed]
  case restored =>
    intro none_open
    rw [stack, none_open, Stack.raise_nil]

/-- A thread has a context, over a pool without slots. -/
def enteredOuter : List Action :=
  [.makePool 0 {}, .makeRoot 0 0, .enterIn 0 0 (.owned "outer")]

/-- It enters two more, and a logic of the first of them exits and drops contexts of its own in the order in which
it entered them, and fails. Then the first of the two is exited, below the second. -/
def leftOutOfOrder : List Action :=
  [.enter 0 (.owned "first"), .enter 0 (.owned "second"), .submit 0 2, .enter 0 (.owned "third"), .enter 0 .hidden,
    .beginExit 0 4, .leave 0, .beginDrop 0 5, .leave 0, .endLogic 0 (.error (.failed (.text "out of luck"))), .vacate 0,
    .complete 0, .beginExit 0 2, .leave 0]

/-- Under an empty stack a context is entered and dropped. -/
def underSnapshot : List Action :=
  [.enterIn 0 0 (.owned "apart"), .beginDrop 0 6, .leave 0]

theorem stack_discipline_leftOutOfOrder :
    let first := (System.initial { hardware := 1 }).performAll enteredOuter
    let system := first.performAll leftOutOfOrder
    let attached := system.perform (.attach 0 {})
    let last := (attached.performAll underSnapshot).perform (.detach 0)
    ∃ past history, Reaches (.initial { hardware := 1 }) past first ∧ (first.thread 0).activations ≠ [] ∧
      Within 0 first history last ∧ first.Layered last 0 (openContexts history 0) ∧ openContexts history 0 = [3] ∧
      last.stack 0 = { frames := [.scope 3, .scope 1] } ∧ first.stack 0 = { frames := [.scope 1] } := by
  have allowed : (System.initial { hardware := 1 }).allows enteredOuter = true := by decide
  have reached := Reaches.start.performAll allowed
  let first := (System.initial { hardware := 1 }).performAll enteredOuter
  have active : (first.thread 0).activations ≠ [] := by decide
  have start : Within 0 first [] first := .start first
  have within : Within 0 first (first.moments [] leftOutOfOrder) (first.performAll leftOutOfOrder) :=
    start.performAll (by decide)
  let attached := (first.performAll leftOutOfOrder).perform (.attach 0 {})
  have again : Within 0 attached [] attached := .start attached
  have inner : Within 0 attached (attached.moments [] underSnapshot) (attached.performAll underSnapshot) :=
    again.performAll (by decide)
  have whole := within.attached (by decide) inner (by decide) (by decide) (by decide)
  exact ⟨_, _, reached, active, whole, stack_discipline reached active whole, by decide, by decide, by decide⟩

end ScopedWork
