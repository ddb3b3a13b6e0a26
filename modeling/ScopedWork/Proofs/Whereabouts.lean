import ScopedWork.Proofs.Delivery
import ScopedWork.Proofs.Lowering
import ScopedWork.Proofs.Staffing
import ScopedWork.Proofs.Waiting

/-! # Where the counters of a scope say its logics ran

A scope counts a logic as pooled when it gets a slot for it, and as inline when it gets none. With the
slot the logic goes to the slot's helper; but if that has died without anybody's notice the logic comes
back, its submitter runs it, and it stays counted as pooled. So the counters tell where logics ran as
long as no helper of the pool dies, and are off by the logics that came back.
-/

namespace ScopedWork

namespace System

variable {system : System} {events : List Event} {action : Action} {thread id : ThreadId} {scope : ScopeId}
  {work : WorkId} {setting : Setting.State} {history : List Moment}

/-! ## Logics for which no slot was had -/

/-- Whether a work is a logic of a scope that has been given no slot. -/
def isUnplaced (scope : ScopeId) (work : Work) : Bool :=
  work.isOf scope && work.station.isNone

/-- Only a logic that is run at once adds to those that have no slot. -/
theorem countP_unplaced {after : List Work} (assigns : system.Assigns action after)
    (other : ∀ thread, action ≠ .submit thread scope) :
    after.countP (isUnplaced scope) = system.works.countP (isUnplaced scope) := by
  have modified {id : WorkId} {change : Work → Work} (same : ∀ work : Work, work.Same (change work)) :
      (system.works.modify id change).countP (isUnplaced scope) = system.works.countP (isUnplaced scope) :=
    countP_modify_same _ _ fun work _ => by
      rw [isUnplaced, isUnplaced, Work.isOf, Work.isOf, (same work).kind, (same work).station]
  have appended {work : Work} (seen : isUnplaced scope work = false) :
      (system.works ++ [work]).countP (isUnplaced scope) = system.works.countP (isUnplaced scope) := by
    rw [List.countP_append, List.countP_singleton, seen]
    rfl
  cases assigns with
  | rest => rfl
  | goOn same | giveBack same => exact modified same
  | take _ _ _ same => exact modified same
  | add arrives =>
    apply appended
    cases arrives with
    | @inline thread target submits kind =>
      have ne : scope ≠ target := by
        rintro rfl
        exact other thread submits
      rw [isUnplaced, Work.isOf_of_ne kind ne, Bool.false_and]
    | sent _ place => rw [isUnplaced, place, Option.isNone_some, Bool.and_false]

theorem inlined_modifyScope (target : ScopeId) {change : Scope → Scope}
    (same : ∀ record, (change record).inlined = record.inlined) :
    ((system.modifyScope target change).scope scope).inlined = (system.scope scope).inlined := by
  rw [scope_modifyScope]
  split_ifs
  · exact same _
  · rfl

/-- No other action counts a logic as run inline. -/
theorem inlined_perform (sound : system.picture.Sound events) (enabled : system.Enabled action)
    (other : ∀ thread, action ≠ .submit thread scope) :
    ((system.perform action).scope scope).inlined = (system.scope scope).inlined := by
  by_cases bound : scope < system.scopes.length
  · rw [scope_perform sound enabled bound]
    cases action with
    | submit thread target =>
      have ne : target ≠ scope := by
        rintro rfl
        exact other thread rfl
      rw [fate, if_neg ne]
    | beginExit | beginDrop =>
      simp only [fate, Scope.drain]
      split_ifs <;> first | rfl | (split <;> rfl)
    | endLogic thread outcome =>
      simp only [fate]
      split_ifs
      · obtain ⟨_, _, same⟩ := (system.scope scope).record_rest outcome
        rw [same]
      · rfl
    | reduce | leave | complete =>
      simp only [fate, Scope.countOver_eq]
      split_ifs <;> rfl
    | enter | enterIn | attach | detach | acquire | dropLease | passLease | dispatch | free | endJob | vacate | next
    | die
    | makePool | dropPool | bar | makeRoot | makeFactory | reroute | register | configure | start | finish => rfl
  · obtain ⟨_, _, _, _, fresh⟩ := scope_fresh sound enabled (Nat.le_of_not_lt bound)
    rw [fresh, scope_of_not_lt system bound]
    rfl

/-- A submission counts the logic as run inline if it gets no slot. -/
theorem inlined_submit (bound : scope < system.scopes.length) (thread : ThreadId) :
    ((system.perform (.submit thread scope)).scope scope).inlined + system.works.countP (isUnplaced scope) =
      (system.scope scope).inlined + (system.perform (.submit thread scope)).works.countP (isUnplaced scope) := by
  let counted := system.modifyScope scope Scope.countDispatched
  have same : (counted.scope scope).inlined = (system.scope scope).inlined := inlined_modifyScope scope fun _ => rfl
  rcases submit_cases system thread scope with ⟨payload, cut⟩ | inline
    | ⟨lease, granted, -, -, -, scopes, works, sent⟩
  · rw [show system.perform (.submit thread scope) = counted from congrArg Prod.snd cut, same]
    rfl
  · have scopes : (system.perform (.submit thread scope)).scopes =
      (counted.modifyScope scope Scope.countInlined).scopes := by
      simp only [perform, inline]
      exact scopes_of_backdrop (backdrop_beginWork _ _ _)
    have inside : scope < counted.scopes.length := by
      rwa [show counted.scopes.length = system.scopes.length from List.length_modify _ _ _]
    have more : ((system.perform (.submit thread scope)).scope scope).inlined = (system.scope scope).inlined + 1 := by
      rw [System.scope, scopes]
      change ((counted.modifyScope scope Scope.countInlined).scope scope).inlined = _
      rw [scope_modifyScope, if_pos ⟨rfl, inside⟩, ← same]
      rfl
    have works : (system.perform (.submit thread scope)).works = system.works ++ [{ inlineLogic scope thread
        (system.activation thread).within with phase := .running, runs := [thread] }] := by
      simp only [perform, inline, works_beginWork]
      exact modify_append_last system.works _ _
    have unplaced : isUnplaced scope { inlineLogic scope thread (system.activation thread).within with
        phase := .running, runs := [thread] } = true := by
      rw [isUnplaced, Work.isOf_iff.mpr rfl]
      rfl
    rw [more, works, List.countP_append, List.countP_singleton, if_pos unplaced]
    omega
  · have same' : ((system.perform (.submit thread scope)).scope scope).inlined = (system.scope scope).inlined := by
      have read : (system.perform (.submit thread scope)).scopes =
        (granted.modifyScope scope Scope.countPooled).scopes := by
        simp only [perform, sent]
        exact scopes_of_backdrop (backdrop_handOver _ _ _ _)
      rw [System.scope, read]
      change ((granted.modifyScope scope Scope.countPooled).scope scope).inlined = _
      rw [inlined_modifyScope scope (by exact fun _ => rfl), ← same, System.scope, scopes]
      rfl
    obtain ⟨work, added, kept, -⟩ := @works_send (granted.modifyScope scope Scope.countPooled) thread lease
      (pooledWork (.logic scope) thread (system.activation thread).within lease (some (system.stack thread)))
      (some (system.stack thread))
    have works : (system.perform (.submit thread scope)).works = system.works ++ [work] := by
      simp only [perform, sent]
      exact added.trans (congrArg (· ++ [work]) works)
    have placed : isUnplaced scope work = false := by
      rw [isUnplaced, kept.station]
      exact Bool.and_false _
    rw [same', works, List.countP_append, List.countP_singleton, placed]
    rfl

/-- The logics counted as run inline are those that have been given no slot. -/
theorem inlined_eq (reached : Reaches (.initial setting) history system) :
    (system.scope scope).inlined = system.works.countP (isUnplaced scope) := by
  induction reached with
  | start => rfl
  | @step history system action reached enabled ih =>
    by_cases submits : ∃ thread, action = .submit thread scope
    · obtain ⟨thread, rfl⟩ := submits
      have counted := inlined_submit (lt_of_submits reached.sound enabled) thread
      omega
    · have other (thread : ThreadId) : action ≠ .submit thread scope := fun same => submits ⟨thread, same⟩
      rw [inlined_perform reached.sound enabled other, ih]
      exact (countP_unplaced (assigns_perform reached.sound enabled) other).symm

/-! ## Who submits a logic waits for it -/

/-- Whether something that a thread runs has a context of a scope. -/
def HasContext (chain : List Activation) (scope : ScopeId) : Prop :=
  ∃ activation ∈ chain, ∃ handle ∈ activation.handles, handle.scope = scope

variable {stack : Stack} {activation : Activation} {outer later : List Activation}

theorem HasContext.of_head {changed : Activation} (has : HasContext (activation :: outer) scope)
    (kept : ∀ handle ∈ activation.handles, handle.scope = scope → handle ∈ changed.handles) :
    HasContext (changed :: outer) scope := by
  obtain ⟨owner, inside, handle, member, same⟩ := has
  rcases List.mem_cons.mp inside with rfl | below
  · exact ⟨changed, List.mem_cons_self, handle, kept handle member same, same⟩
  · exact ⟨owner, List.mem_cons_of_mem _ below, handle, member, same⟩

theorem HasContext.tail (has : HasContext (activation :: outer) scope) (bare : activation.handles = []) :
    HasContext outer scope := by
  obtain ⟨owner, inside, handle, member, same⟩ := has
  rcases List.mem_cons.mp inside with rfl | below
  · rw [bare] at member
    exact absurd member List.not_mem_nil
  · exact ⟨owner, below, handle, member, same⟩

theorem HasContext.ne_nil {chain : List Activation} (has : HasContext chain scope) : chain ≠ [] := by
  obtain ⟨owner, inside, -⟩ := has
  exact List.ne_nil_of_mem inside

/-- A thread keeps its contexts of a scope until the scope's logics are over. -/
theorem Turn.hasContext (sound : system.picture.Sound events) (enabled : system.Enabled action)
    (turn : system.Turn action id stack later) (has : HasContext (system.thread id).activations scope)
    (unsettled : action = .leave id → (system.scope scope).isSettled = false) : HasContext later scope := by
  cases turn with
  | rest => exact has
  | trade chain | wait chain | attach chain | detach chain | close chain =>
    rw [chain] at has
    exact has.of_head fun _ member _ => member
  | enter chain =>
    rw [chain] at has
    exact has.of_head fun _ member _ => List.mem_cons_of_mem _ member
  | @leave activation outer left departure chain leaves leaving =>
    rw [chain] at has
    refine has.of_head fun handle member same => List.mem_filter.mpr ⟨member, decide_eq_true fun gone => ?_⟩
    subst leaves
    obtain ⟨inner, others, target, departure, top, way, -, settled, -⟩ := leave_cases sound enabled
    rw [← top.activation_eq, activation_of_chain chain, leaving] at way
    obtain ⟨rfl, rfl⟩ := Prod.mk.inj (Option.some.inj way)
    rw [← gone, same, unsettled rfl] at settled
    exact Bool.false_ne_true settled
  | @begin activation outer leases _ _ chain =>
    rw [chain] at has
    obtain ⟨owner, inside, handle⟩ : HasContext ({ activation with leases } :: outer) scope :=
      has.of_head fun _ member _ => member
    exact ⟨owner, List.mem_cons_of_mem _ inside, handle⟩
  | pop chain _ bare =>
    rw [chain] at has
    exact has.tail bare
  | finish chain finishes =>
    subst finishes
    have bare : system.isBare id = true := enabled.2.1
    rw [isBare, activation_of_chain chain, Bool.and_eq_true, List.isEmpty_iff] at bare
    rw [chain] at has
    exact absurd rfl (has.tail bare.1).ne_nil
  | fade idle | take idle | start idle => exact absurd idle has.ne_nil

/-- A scope is unsettled as long as a logic of it has not been begun. -/
theorem unsettled_of_fresh (sound : system.picture.Sound events) (kind : (system.work work).kind = .logic scope)
    (fresh : (system.work work).phase.hasBegun = false) : (system.scope scope).isSettled = false := by
  have unfinished : (system.work work).isCounted = false := by
    refine Work.isCounted_eq_false fun finished => ?_
    rw [finished] at fresh
    exact Bool.noConfusion fresh
  have missing := (sound.ledger scope).completed_lt (Picture.works_getElem? (lt_of_kind kind)) kind unfinished
  change (system.scope scope).completed < (system.scope scope).dispatched at missing
  rw [Scope.isSettled, decide_eq_false_iff_not]
  omega

/-- Whoever submits a logic has a context of its scope. -/
theorem hasContext_of_submit {thread : ThreadId} (enabled : system.Enabled (.submit thread scope)) :
    HasContext (system.thread thread).activations scope := by
  obtain ⟨activation, others, top, -⟩ := innermost_of_isRunning enabled.1
  obtain ⟨outer, chain⟩ := top.chain
  obtain ⟨handle, member, same⟩ := Activation.contexts_pos.mp (top.contexts_pos enabled.2.1)
  rw [chain]
  exact ⟨activation, List.mem_cons_self, handle, member, same⟩

/-- A logic that has not been begun is awaited on the thread that has submitted it. -/
theorem hasContext_of_queued (reached : Reaches (.initial setting) history system) (bound : work < system.works.length)
    (kind : (system.work work).kind = .logic scope) (queued : (system.work work).placement = .queued) :
    HasContext (system.thread (system.work work).submitter).activations scope := by
  induction reached with
  | start => exact absurd bound (Nat.not_lt_zero work)
  | @step history system action reached enabled ih =>
    have sound := reached.sound
    have assigns := assigns_perform sound enabled
    by_cases old : work < system.works.length
    · have keeps := assigns.keeps old
      rcases keeps.placed with same | ⟨station, helper, job, -, -, -, placed, -⟩
      · have kind' := keeps.same.kind.symm.trans kind
        have queued' := same.symm.trans queued
        rw [keeps.same.submitter]
        exact (reached.turn enabled _).hasContext sound enabled (ih old kind' queued') fun _ =>
          unsettled_of_fresh sound kind' (not_begun_of_queued sound queued')
      · exact Placement.noConfusion (placed.symm.trans queued)
    · obtain ⟨rfl, arrives⟩ := assigns.arrives old bound
      cases arrives with
      | inline _ _ _ placed => exact Placement.noConfusion (placed.1.symm.trans queued)
      | sent _ _ _ _ _ _ asked =>
        obtain ⟨thread, rfl, submitter, -⟩ := asked scope kind
        rw [submitter]
        exact (reached.turn enabled thread).hasContext sound enabled (hasContext_of_submit enabled) Action.noConfusion

end System

namespace Pool

variable {Job : Type} {pool : Pool Job} {index : Nat} {helper : ThreadId}

/-- A helper that has nothing to run after an acquisition had nothing before, or has just been started. -/
theorem idle_of_acquire {limit : Nat} {thread : ThreadId}
    (idle : ((pool.undergo (.acquire limit thread)).slot index).helper = .idle helper) :
    (pool.slot index).helper = .idle helper ∨ helper = thread := by
  rcases pool.tryAcquire_shapes limit thread with ⟨same, -⟩ | ⟨place, -, ⟨-, had⟩ | ⟨-, -, had⟩⟩
  · rw [undergo, same] at idle
    exact .inl idle
  · rw [undergo, had, slot_lease] at idle
    split_ifs at idle
    · exact .inl idle
    · exact .inl idle
  · rw [undergo, had, slot_spawn_lease] at idle
    split_ifs at idle
    · exact .inr (Helper.idle.inj idle).symm
    · exact .inl idle

/-- A helper that begins a job at once had nothing to run. -/
theorem idle_of_begun {job : Job} (begun : (pool.dispatch index job).1.placement = .helper helper) :
    (pool.slot index).helper = .idle helper := by
  rw [dispatch] at begun
  split_ifs at begun
  · cases found : (pool.slot index).helper with
    | absent => simp [found, Handoff.placement] at begun
    | idle thread =>
      simp only [found, Handoff.placement, Placement.helper.injEq] at begun
      rw [begun]
    | busy thread other =>
      cases waiting : (pool.slot index).waiting <;> simp [found, waiting, Handoff.placement] at begun
  · exact Placement.noConfusion begun

end Pool

namespace System

variable {system : System} {scope : ScopeId} {work : WorkId} {setting : Setting.State} {history : List Moment}
  {helper : ThreadId}

/-- No logic is run by a helper on the thread that has submitted it: the thread waits for it, and a helper that
begins something waits for nothing. -/
theorem helper_ne_submitter (reached : Reaches (.initial setting) history system) (bound : work < system.works.length)
    (kind : (system.work work).kind = .logic scope) (placed : (system.work work).placement = .helper helper) :
    helper ≠ (system.work work).submitter := by
  induction reached with
  | start => exact absurd bound (Nat.not_lt_zero work)
  | @step history system action reached enabled ih =>
    have sound := reached.sound
    have assigns := assigns_perform sound enabled
    by_cases old : work < system.works.length
    · have keeps := assigns.keeps old
      have kind' := keeps.same.kind.symm.trans kind
      rw [keeps.same.submitter]
      rcases keeps.placed with same | ⟨station, taker, job, rfl, busy, waiting, taken, -⟩
      · exact ih old kind' (same.symm.trans placed)
      · obtain rfl := Placement.helper.inj (taken.symm.trans placed)
        obtain ⟨_, _, same, ended, -⟩ := hasEnded_cases enabled
        obtain ⟨rfl, rfl⟩ := Helper.busy.inj (busy.symm.trans same)
        have rests := reached.rooted.ended sound reached.apart busy ended
        have waits := sound.channels.waits station work waiting
        have queued : (system.work work).placement = .queued := by
          by_contra elsewhere
          have begun := (reached.traced waits.place).begun elsewhere
          rw [show (system.work work).phase = .waiting from waits.phase] at begun
          exact Bool.false_ne_true begun
        rintro rfl
        exact (hasContext_of_queued reached old kind' queued).ne_nil rests
    · obtain ⟨rfl, arrives⟩ := assigns.arrives old bound
      cases arrives with
      | inline _ _ _ stays => exact Placement.noConfusion (stays.1.symm.trans placed)
      | sent _ _ _ _ _ goes asked =>
        obtain ⟨thread, rfl, submitter, own, rfl⟩ := asked scope kind
        obtain ⟨activation, outer, chain⟩ := chain_of_isRunning enabled.1
        have active := active_of_chain chain
        rw [submitter]
        rintro rfl
        rcases Pool.idle_of_acquire (Pool.idle_of_begun (goes.symm.trans placed)) with idle | new
        · exact active (reached.rooted.rested sound reached.apart idle)
        · exact Nat.ne_of_lt (lt_of_activations active) new

end System

/-! ## Where a logic that is over has run -/

/-- Whether a work ran on a helper of a pool to which it was handed, one that was started for the work's slot. -/
def Work.ranOnHelperOf (history : List Moment) (pool : PoolId) (work : Work) : Bool :=
  match work.station, work.placement with
  | some station, .helper helper => station.pool == pool && work.runs == [helper] &&
      (Pool.lifeline (course pool history) station.slot).contains (.started helper)
  | none, _ | some _, .inline | some _, .returned | some _, .queued => false

def Work.ranOnSubmitter (work : Work) : Bool :=
  work.runs == [work.submitter]

/-- Whether a work was sent through a slot and came back. -/
def Work.cameBack (work : Work) : Bool :=
  work.placement == .returned

/-- Where a work can have run. -/
inductive Work.Ran (history : List Moment) (pool : PoolId) (work : Work) : Prop
  | inline (unplaced : work.station = none) (placed : work.placement = .inline) (runs : work.runs = [work.submitter])
  /-- It came back from a slot whose helper had died. -/
  | returned {station : Lease} (place : work.station = some station) (own : station.pool = pool)
    (placed : work.placement = .returned) (runs : work.runs = [work.submitter])
    (died : .died ∈ Pool.lifeline (course pool history) station.slot)
  | helped {station : Lease} {helper : ThreadId} (place : work.station = some station) (own : station.pool = pool)
    (placed : work.placement = .helper helper) (runs : work.runs = [helper])
    (started : .started helper ∈ Pool.lifeline (course pool history) station.slot) (apart : helper ≠ work.submitter)

namespace System

variable {system : System} {scope : ScopeId} {work : WorkId} {setting : Setting.State} {history : List Moment}

/-- What a lifeline told when a work was sent is part of it for good. -/
theorem mem_lifeline {later earlier : List (Pool.Occasion WorkId)} {occasion : Pool.Occasion WorkId} {index : Nat}
    {event : HelperEvent} (latest : (Pool.lifeline earlier index).head? = some event) :
    event ∈ Pool.lifeline (later ++ occasion :: earlier) index := by
  rw [Pool.lifeline_append, Pool.lifeline_cons]
  exact List.mem_append_right _ (List.mem_append_right _ (List.mem_of_head? latest))

/-- A logic that is over was run on the thread of its submitter or on a helper of its scope's pool. -/
theorem ran_of_over (reached : Reaches (.initial setting) history system)
    (kind : (system.work work).kind = .logic scope)
    (finished : (system.work work).phase = .over) : (system.work work).Ran history (system.scope scope).pool := by
  have sound := reached.sound
  have begun : (system.work work).phase.hasBegun = true := by
    rw [finished]
    rfl
  have once : (system.work work).BegunOnce := sound.channels.begun work begun
  cases place : (system.work work).station with
  | none =>
    obtain ⟨placed, -⟩ := inline_of_unplaced reached (lt_of_hasBegun begun) place
    rcases once with ⟨helper, sent, -⟩ | ⟨-, runs⟩
    · exact Placement.noConfusion (placed.symm.trans sent)
    · exact .inline place placed runs
  | some station =>
    have own := (submits_of_station reached kind place).1
    have traced := reached.traced place
    obtain ⟨later, before, earlier, split, goes⟩ := traced.sent
    have goes := traced.runs sound (goes (.inr (by rw [kind]; exact WorkKind.noConfusion)))
    rw [own] at split
    cases latest : (Pool.lifeline earlier station.slot).head? with
    | none =>
      rw [latest] at goes
      exact goes.elim
    | some event =>
      have member := @mem_lifeline later _ ⟨before, .dispatch station.slot work⟩ _ _ latest
      rw [← split] at member
      rw [latest] at goes
      cases event with
      | started helper =>
        rcases goes with ⟨placed, runs⟩ | ⟨-, unrun⟩
        · exact .helped place own placed runs member (helper_ne_submitter reached (lt_of_hasBegun begun) kind placed)
        · exact (once.runs_ne_nil unrun).elim
      | died => exact .returned place own goes.1 goes.2 member
      | foundDead => exact goes.elim

/-- The logics of a scope, in the order in which they were submitted. -/
def logicsOf (system : System) (scope : ScopeId) : List Work :=
  system.works.filter (·.isOf scope)

theorem inlined_eq_logicsOf (reached : Reaches (.initial setting) history system) :
    (system.scope scope).inlined = (system.logicsOf scope).countP (·.station.isNone) := by
  rw [inlined_eq reached, logicsOf, List.countP_filter]
  exact List.countP_congr fun work _ => by rw [isUnplaced, Bool.and_comm]

theorem ran_of_mem (reached : Reaches (.initial setting) history system)
    (finished : ∀ work, (system.work work).kind = .logic scope → (system.work work).phase = .over) {work : Work}
    (member : work ∈ system.logicsOf scope) : work.Ran history (system.scope scope).pool := by
  obtain ⟨present, own⟩ := List.mem_filter.mp member
  obtain ⟨place, found⟩ := List.mem_iff_getElem?.mp present
  have read : system.work place = work := by rw [System.work, found, Option.getD_some]
  rw [← read] at own ⊢
  have kind := Work.isOf_iff.mp own
  exact ran_of_over reached kind (finished place kind)

end System

theorem Work.Ran.counts {history : List Moment} {pool : PoolId} {work : Work} (ran : work.Ran history pool) :
    (!work.station.isNone).toNat = (work.ranOnHelperOf history pool).toNat + work.cameBack.toNat ∧
      work.ranOnSubmitter.toNat = work.station.isNone.toNat + work.cameBack.toNat := by
  have back : work.cameBack = decide (work.placement = .returned) := rfl
  cases ran with
  | inline unplaced placed runs => simp [ranOnHelperOf, ranOnSubmitter, back, unplaced, placed, runs]
  | returned place own placed runs => simp [ranOnHelperOf, ranOnSubmitter, back, place, placed, runs]
  | helped place own placed runs started apart =>
    simp [ranOnHelperOf, ranOnSubmitter, back, place, own, placed, runs, started, apart]

/-- A logic comes back only from a slot whose helper has died. -/
theorem Work.Ran.died_of_cameBack {history : List Moment} {pool : PoolId} {work : Work} (ran : work.Ran history pool)
    (back : work.cameBack = true) : ∃ slot, .died ∈ Pool.lifeline (course pool history) slot := by
  have back : work.placement = .returned := of_decide_eq_true back
  cases ran with
  | inline _ placed => exact Placement.noConfusion (back.symm.trans placed)
  | helped _ _ placed => exact Placement.noConfusion (back.symm.trans placed)
  | returned _ _ _ _ died => exact ⟨_, died⟩

/-! ## Every run -/

/-- What the counters of a scope whose logics are over tell of where they ran. -/
structure TellsWhere (history : List Moment) (system : System) (scope : ScopeId) : Prop where
  /-- Pooled are those that ran on a helper, and those that came back. -/
  pooled : (system.scope scope).pooled =
    (system.logicsOf scope).countP (·.ranOnHelperOf history (system.scope scope).pool) +
      (system.logicsOf scope).countP Work.cameBack
  /-- On the thread of their submitter ran those counted as inline, and those that came back. -/
  inlined : (system.scope scope).inlined + (system.logicsOf scope).countP Work.cameBack =
    (system.logicsOf scope).countP Work.ranOnSubmitter
  /-- As long as no helper of the pool dies, the counters tell where the logics ran. -/
  alive : (∀ moment ∈ history, ∀ slot, moment.action ≠ .die { pool := (system.scope scope).pool, slot }) →
    (system.scope scope).pooled =
        (system.logicsOf scope).countP (·.ranOnHelperOf history (system.scope scope).pool) ∧
      (system.scope scope).inlined = (system.logicsOf scope).countP Work.ranOnSubmitter

/-- In every run the counters of a scope whose logics are over tell where they ran, but for those that came back from a
slot whose helper had died: these are counted as pooled and ran on the thread of their submitter. -/
theorem counters_tellWhere {setting : Setting.State} {history : List Moment} {system : System}
    (reached : Reaches (.initial setting) history system) {scope : ScopeId}
    (finished : ∀ work, (system.work work).kind = .logic scope → (system.work work).phase = .over) :
    TellsWhere history system scope := by
  have ran (work : Work) (member : work ∈ system.logicsOf scope) := System.ran_of_mem reached finished member
  have placed : (system.scope scope).pooled + (system.scope scope).inlined = (system.logicsOf scope).length :=
    (reached.sound.ledger scope).placed.trans List.countP_eq_length_filter
  have inlined := @System.inlined_eq_logicsOf system scope setting history reached
  have whole : (system.logicsOf scope).length =
      (system.logicsOf scope).countP (·.station.isNone) + (system.logicsOf scope).countP (!·.station.isNone) := by
    rw [List.length_eq_countP_add_countP (·.station.isNone)]
    simp only [Bool.not_eq_true, Bool.decide_eq_false]
  have handed : (system.logicsOf scope).countP (!·.station.isNone) =
      (system.logicsOf scope).countP (·.ranOnHelperOf history (system.scope scope).pool) +
        (system.logicsOf scope).countP Work.cameBack :=
    countP_split fun work member => (ran work member).counts.1
  have own : (system.logicsOf scope).countP Work.ranOnSubmitter =
      (system.logicsOf scope).countP (·.station.isNone) + (system.logicsOf scope).countP Work.cameBack :=
    countP_split fun work member => (ran work member).counts.2
  refine ⟨by omega, by omega, fun alive => ?_⟩
  have none_back : (system.logicsOf scope).countP Work.cameBack = 0 := by
    rw [List.countP_eq_zero]
    intro work member back
    obtain ⟨slot, died⟩ := (ran work member).died_of_cameBack back
    obtain ⟨moment, during, dies⟩ := die_of_died died
    exact alive moment during slot dies
  omega

/-- A job kills the helper of a slot; then a scope over the pool submits a logic and gets the slot for it. -/
def pooledAfterDeath : List Action :=
  [.makePool 1 {}, .acquire 0 0 1 "x", .dispatch 0 "x", .endJob 1, .complete 1, .die { pool := 0, slot := 0 },
    .makeRoot 0 1, .enterIn 0 0 (.owned "c"), .submit 0 1, .endLogic 0 (.ok ()), .vacate 0, .complete 0]

theorem counters_tellWhere_pooledAfterDeath :
    let first := System.initial { hardware := 1 }
    let system := first.performAll pooledAfterDeath
    let history := first.moments [] pooledAfterDeath
    Reaches first history system ∧
      (∀ work, (system.work work).kind = .logic 1 → (system.work work).phase = .over) ∧
        TellsWhere history system 1 := by
  have allowed : (System.initial { hardware := 1 }).allows pooledAfterDeath = true := by decide
  have reached := Reaches.start.performAll allowed
  have finished (work : WorkId)
      (kind : (((System.initial { hardware := 1 }).performAll pooledAfterDeath).work work).kind = .logic 1) :
      (((System.initial { hardware := 1 }).performAll pooledAfterDeath).work work).phase = .over := by
    match work with
    | 0 | 1 => decide
    | work + 2 => exact WorkKind.noConfusion kind
  exact ⟨reached, finished, counters_tellWhere reached finished⟩

/-- The logic comes back and runs on the thread of its submitter, but is counted as pooled. -/
theorem counters_mislead_pooledAfterDeath :
    let first := System.initial { hardware := 1 }
    let system := first.performAll pooledAfterDeath
    let history := first.moments [] pooledAfterDeath
    Reaches first history system ∧ (∀ work ∈ system.logicsOf 1, work.phase = .over) ∧
      (system.scope 1).pooled = 1 ∧
      (system.logicsOf 1).countP (·.ranOnHelperOf history (system.scope 1).pool) = 0 ∧
      (system.scope 1).inlined = 0 ∧ (system.logicsOf 1).countP Work.ranOnSubmitter = 1 := by
  have allowed : (System.initial { hardware := 1 }).allows pooledAfterDeath = true := by decide
  exact ⟨Reaches.start.performAll allowed, by decide, by decide, by decide, by decide, by decide⟩

end ScopedWork
