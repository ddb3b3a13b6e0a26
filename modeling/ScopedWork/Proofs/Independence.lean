import ScopedWork.Script
import ScopedWork.Proofs.Placement

/-! # Runs that do not depend on the pools

Two processes may differ in their pools: in how many slots there are, which are leased, whose helpers
live, are dead or cannot be started, and in the concurrency that the roots have. A plain script tells
them apart by nothing. Each operation has the same answer in both, each logic says the same, the stack has
the same depth and the same innermost scope after each operation, and every scope comes to the same state,
counts and failure.
-/

namespace ScopedWork

namespace Script

open Program

/-- An entry without concurrencies, placements and the names of threads. -/
def Entry.outline (entry : Entry) : Entry :=
  { entry with reply := entry.reply.outline entry.op, log := entry.log.map Event.outline }

/-- Every operation of a script answers, and its contexts and leases are dropped in the end. -/
structure Completes (onward : Onward) (ops : List Op) (session : Session) (entries : List Entry) (left : Session) :
    Prop where
  answered : entries.length = ops.length
  ran : ∃ after, (cleanUp onward caller).Yields after () left ∧
    runAll onward ops session = (entries ++ [(entry (finish onward after) (.word "@end") .nothing).1],
      (entry (finish onward after) (.word "@end") .nothing).2)

/-- The outlines of the entries that operations are evaluated to, and the outlook after them. -/
def evaluate : List Op → Outlook → List Entry × Outlook
  | [], outlook => ([], outlook)
  | op :: rest, outlook =>
    let (reply, outlook) := outlook.perform voice op
    let (entries, last) := evaluate rest { outlook with log := [] }
    ({ op := op.title, reply, log := outlook.log.reverse
       depth := outlook.stack.depth, current := outlook.stack.currentScope? } :: entries, last)

variable {onward : Onward} {session : Session}

/-- An operation of a script answers, and what it logs and leaves is what it is evaluated to. -/
private theorem leads_step (ready : session.Ready caller) (fit : (session.outlook caller).Fit) {op : Op}
    (plain : op.isPlain = true) :
    (do
      let reply ← runOp onward caller voice (.after op.title false [] [] .thread) op
      afterOp voice false op.title reply
      return reply : Run Reply).Leads caller session
        (fun reply => reply.outline op.title = ((session.outlook caller).perform voice op).1)
        ((session.outlook caller).perform voice op).2 := by
  refine (leads_runOp voice _ op ready fit plain).bind ready fun reply after answer seen ready => ?_
  refine (leads_afterOp ready voice false op.title answer).bind ready fun _ last _ seen' ready => ?_
  simp only [Bool.false_eq_true, ↓reduceIte] at seen'
  rw [← seen, ← seen']
  exact .pure ready answer

/-- A plain script completes with the entries that it is evaluated to. -/
theorem completes {ops : List Op} (ready : session.Ready caller) (fit : (session.outlook caller).Fit)
    (plain : Op.arePlain ops = true) :
    ∃ entries left, Completes onward ops session entries left ∧
      entries.map Entry.outline = (evaluate ops (session.outlook caller)).1 ∧
      left.outlook caller = { (evaluate ops (session.outlook caller)).2.cleanUp with leases := [] } := by
  induction ops generalizing session with
  | nil =>
    obtain ⟨left, cleans, seen⟩ := @yields_cleanUp onward caller session ready fit
    exact ⟨[], left, ⟨rfl, session, cleans, rfl⟩, rfl, seen⟩
  | cons op rest ih =>
    rw [Op.arePlain, Bool.and_eq_true] at plain
    obtain ⟨reply, after, stepped, answer, seen, paused, minds⟩ := @leads_step onward session ready fit op plain.1
    let cleared : Session := { after with log := [] }
    have readyAfter : cleared.Ready caller := ready.after_minds paused minds
    have shown : cleared.outlook caller = { ((session.outlook caller).perform voice op).2 with log := [] } := by
      rw [← seen]
      rfl
    obtain ⟨nodup, bound, accepting, settled⟩ := (Outlook.keeps_perform voice op fit).fit
    have fitAfter : (cleared.outlook caller).Fit := by
      rw [shown]
      exact ⟨nodup, bound, accepting, settled⟩
    obtain ⟨entries, left, ⟨answered, last, cleans, ran⟩, outlines, ends⟩ := ih readyAfter fitAfter plain.2
    rw [shown] at outlines ends
    refine ⟨(entry after op.title reply).1 :: entries, left,
      ⟨congrArg (· + 1) answered, last, cleans, ?_⟩, ?_, ends⟩
    · have stepped : step onward op session = (.ok reply, after) := stepped
      have ran : runAll onward rest (entry after op.title reply).2 = _ := ran
      rw [runAll, stepped]
      dsimp only
      rw [ran]
      rfl
    · have log : after.log.map Event.outline = ((session.outlook caller).perform voice op).2.log :=
        congrArg Outlook.log seen
      have stack : after.system.stack caller = ((session.outlook caller).perform voice op).2.stack :=
        congrArg Outlook.stack seen
      rw [List.map_cons, outlines]
      simp only [entry, Entry.outline, List.map_reverse, answer, log, stack]
      rfl

/-! ## Situations -/

/-- The helper of a slot before a run. -/
inductive HelperState where
  | unstarted
  | idle
  | dead
  deriving DecidableEq, Repr

/-- A slot before a run: whether it is leased, what its helper is, and whether one cannot be started. -/
structure SlotState where
  leased : Bool := false
  helper : HelperState := .unstarted
  barred : Bool := false
  deriving DecidableEq, Repr

/-- The slot, if its helper is a thread of the given number. -/
def SlotState.slot (state : SlotState) (thread : ThreadId) : Slot WorkId :=
  { leased := state.leased
    sender := state.helper != .unstarted
    helper := if state.helper = .idle then .idle thread else .absent
    barred := state.barred }

/-- What a pool may be like before a run: its slots, the concurrency of a root over it, and what its
helpers are made from. -/
structure Situation where
  slots : List SlotState
  concurrency : Nat
  config : Setting.Config := {}
  setting : Setting.State
  named : Pool.isStem config.nameStem = true := by decide
  nameable : Pool.isStem setting.read.1.nameStem = true := by decide

namespace Situation

variable (situation : Situation)

/-- The pool; the helper of a slot is the thread after the caller's of the same number. -/
def pool : Pool WorkId :=
  { slots := situation.slots.mapIdx fun index state => state.slot (index + 1)
    busy := situation.slots.countP (·.leased)
    spawned := situation.slots.countP (·.helper != .unstarted)
    nameStem := situation.config.nameStem
    stackSize := situation.config.stackSize
    stackBound := situation.setting.stackBound }

/-- A process in the situation that is about to begin. It has a root over the pool, shared under a name
and supplied by the registry. -/
def start : Session :=
  { system :=
      { scopes := [Scope.root 0 situation.slots.length situation.concurrency]
        pools := [situation.pool]
        threads := { name := "caller", activations := [{}] } :: situation.slots.map fun _ => { name := "helper" }
        factories := [{ name := "factory", source := .scope 0 }]
        registered := some 0
        setting := situation.setting
        directory := [("root", .scope 0)] } }

private theorem station_cases (lease : Lease) : situation.start.system.station lease = {} ∨
    ∃ state : SlotState, lease.pool = 0 ∧ lease.slot < situation.slots.length ∧
      situation.start.system.station lease = state.slot (lease.slot + 1) := by
  obtain ⟨pool, index⟩ := lease
  cases pool with
  | zero =>
    have read : situation.start.system.station { pool := 0, slot := index } =
        (situation.slots[index]?.map fun state => state.slot (index + 1)).getD {} := by
      change (situation.slots.mapIdx fun index state => state.slot (index + 1))[index]?.getD {} = _
      rw [List.getElem?_mapIdx]
    cases found : situation.slots[index]? with
    | none => exact .inl (by rw [read, found]; rfl)
    | some state =>
      exact .inr ⟨state, rfl, (List.getElem?_eq_some_iff.mp found).1, by rw [read, found]; rfl⟩
  | succ pool => exact .inl rfl

/-- An idle helper is the thread of its slot. -/
private theorem idle_eq {lease : Lease} {helper : ThreadId}
    (idle : (situation.start.system.station lease).helper = .idle helper) :
    lease.pool = 0 ∧ lease.slot < situation.slots.length ∧ helper = lease.slot + 1 := by
  rcases situation.station_cases lease with bare | ⟨state, pool, bound, slot⟩
  · simp only [bare, reduceCtorEq] at idle
  · rw [slot, SlotState.slot] at idle
    dsimp only at idle
    split_ifs at idle
    exact ⟨pool, bound, (Helper.idle.inj idle).symm⟩

/-- A free slot has an idle helper of its own, or none, with a name that a thread can have. -/
private theorem staffed : situation.start.system.Staffed := by
  constructor
  case free =>
    intro lease _
    rcases situation.station_cases lease with bare | ⟨state, -, -, slot⟩
    · simp only [bare, ne_eq, reduceCtorEq, not_false_eq_true, implies_true, and_self]
    · rw [slot, SlotState.slot]
      dsimp only
      refine ⟨rfl, fun helper work => ?_⟩
      split_ifs
      · simp only [ne_eq, reduceCtorEq, not_false_eq_true]
      · simp only [ne_eq, reduceCtorEq, not_false_eq_true]
  case rested =>
    intro lease helper idle
    obtain ⟨-, bound, rfl⟩ := situation.idle_eq idle
    have present : situation.start.system.threads[lease.slot + 1]? = some { name := "helper" } := by
      change (situation.slots.map _)[lease.slot]? = _
      rw [List.getElem?_map, List.getElem?_eq_getElem bound]
      rfl
    refine ⟨(List.getElem?_eq_some_iff.mp present).1, ?_⟩
    rw [System.thread, present]
    rfl
  case apart =>
    intro first second helper left right
    obtain ⟨leftPool, -, leftIs⟩ := situation.idle_eq left
    obtain ⟨rightPool, -, rightIs⟩ := situation.idle_eq right
    obtain ⟨_, _⟩ := first
    obtain ⟨_, _⟩ := second
    dsimp only at leftPool rightPool leftIs rightIs
    rw [leftPool, rightPool, Nat.succ.inj (leftIs.symm.trans rightIs)]
  case named =>
    intro pool
    cases pool with
    | zero => exact situation.named
    | succ pool => rfl
  case nameable => exact fun _ => situation.nameable

/-- The helpers are at rest in every situation. -/
theorem ready : situation.start.Ready caller :=
  ⟨⟨situation.staffed, List.cons_ne_nil _ _⟩, fun _ _ stands => absurd stands List.not_mem_nil⟩

/-- A script cannot tell one situation from another. -/
theorem outlook_eq (other : Situation) : situation.start.outlook caller = other.start.outlook caller :=
  rfl

theorem fit : (situation.start.outlook caller).Fit :=
  Outlook.fit_of_bare rfl

end Situation

/-! ## Independence -/

/-- Two processes at rest that look the same to a plain script, whatever their pools are like, stay so:
every operation answers in both, the entries differ at most in placements, and so do the processes that
are left once the script's contexts have been dropped. -/
theorem placement_independence {ops : List Op} (plain : Op.arePlain ops = true) {onward onward' : Onward}
    {first second : Session} (ready : first.Ready caller) (ready' : second.Ready caller)
    (fit : (first.outlook caller).Fit) (same : first.outlook caller = second.outlook caller) :
    ∃ entries entries' left left', Completes onward ops first entries left ∧
      Completes onward' ops second entries' left' ∧
      entries.map Entry.outline = entries'.map Entry.outline ∧ left.outlook caller = left'.outlook caller := by
  obtain ⟨entries, left, completed, shown, ends⟩ := @completes onward first ops ready fit plain
  obtain ⟨entries', left', completed', shown', ends'⟩ := @completes onward' second ops ready' (same ▸ fit) plain
  exact ⟨entries, entries', left, left', completed, completed', by rw [shown, shown', same],
    by rw [ends, ends', same]⟩

/-- A pool without slots, so that every logic runs where it is submitted. -/
def noSlots : Situation := { slots := [], concurrency := 2, setting := { hardware := 1 } }

/-- A pool with a slot in each state: leased, its helper dead, barred, idle, or yet to be started. -/
def fiveSlots : Situation where
  slots := [{ leased := true, helper := .idle }, { helper := .dead }, { barred := true }, { helper := .idle }, {}]
  concurrency := 9
  setting := { hardware := 1 }

/-- A logic submits another, which panics, exits a context that is not current, and rethrows what that
reports; then come a batch, and a block in which a logic panics. -/
def outOfOrder : List Op :=
  [.act (.scopes (.enter "outer")),
   .exec "outer" ⟨"first", false,
    [.act (.stacks .depth), .act (.scopes (.enter "inner")),
     .exec "inner" ⟨"second", false, [.act (.stacks (.current (some .scope)))], .panic (.literal "boom")⟩,
     .act (.scopes (.enter "last")), .exit "inner"], .rethrow⟩,
   .executeAll [⟨"third", false, [], .success⟩, ⟨"fourth", false, [], .panic (.number 4)⟩],
   .withContext "lent" [.exec "lent" ⟨"fifth", true, [], .bomb⟩] "value" none,
   .act (.scopes (.stats "outer")), .exit "outer"]

theorem placement_independence_outOfOrder :
    Op.arePlain outOfOrder = true ∧ noSlots.start.Ready caller ∧ fiveSlots.start.Ready caller ∧
      (noSlots.start.outlook caller).Fit ∧ noSlots.start.outlook caller = fiveSlots.start.outlook caller ∧
      ∃ entries entries' left left', Completes (.ofFuel (fuel outOfOrder)) outOfOrder noSlots.start entries left ∧
        Completes (.ofFuel (fuel outOfOrder)) outOfOrder fiveSlots.start entries' left' ∧
        entries.map Entry.outline = entries'.map Entry.outline ∧ left.outlook caller = left'.outlook caller := by
  have plain : Op.arePlain outOfOrder = true := by decide
  have same := noSlots.outlook_eq fiveSlots
  exact ⟨plain, noSlots.ready, fiveSlots.ready, noSlots.fit, same,
    placement_independence plain noSlots.ready fiveSlots.ready noSlots.fit same⟩

/-- The two processes do place the logics differently. -/
example :
    let onHelper (situation : Situation) := (runAll (.ofFuel (fuel outOfOrder)) outOfOrder situation.start).1.any
      fun entry => entry.reply matches .placed true
    onHelper noSlots = false ∧ onHelper fiveSlots = true := by
  decide +kernel

end Script

end ScopedWork
