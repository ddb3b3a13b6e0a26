import ScopedWork.Proofs.Running

/-! # The counters of a scope

What a scope counts is what has happened to it: `dispatched` its submissions, `pooled` and `inlined`
its logics, `completed` those that are over, and its failures those that are stored, suppressed or
handed out. A logic counts as failed from the moment its outcome is recorded; it is counted as over
two steps later.
-/

namespace ScopedWork

/-- Whether the program of a work has ended, so that its outcome is known. -/
def WorkPhase.hasEnded : WorkPhase → Bool
  | recorded | vacated | .over => true
  | waiting | running | discarded => false

namespace Work

def isOf (work : Work) (scope : ScopeId) : Bool :=
  work.kind == .logic scope

/-- Whether a work has been counted as over. -/
def isCounted (work : Work) : Bool :=
  work.phase == .over && !work.unwound

def hasFailed (work : Work) : Bool :=
  work.phase.hasEnded && work.failed

/-- What the counters of a scope depend on. -/
def account (scope : ScopeId) (work : Work) : Bool × Bool × Bool :=
  (work.isOf scope, work.isOf scope && work.isCounted, work.isOf scope && work.hasFailed)

theorem isOf_iff {work : Work} {scope : ScopeId} : work.isOf scope = true ↔ work.kind = .logic scope :=
  beq_iff_eq

/-- A logic of one scope is no other's. -/
theorem isOf_of_ne {work : Work} {scope other : ScopeId} (kind : work.kind = .logic scope) (ne : other ≠ scope) :
    work.isOf other = false := by
  rw [Bool.eq_false_iff, ne_eq, isOf_iff, kind]
  exact fun same => ne (WorkKind.logic.inj same).symm

/-- A job is no scope's. -/
theorem isOf_of_job {work : Work} (kind : work.kind = .job) (scope : ScopeId) : work.isOf scope = false := by
  rw [Bool.eq_false_iff, ne_eq, isOf_iff, kind]
  exact WorkKind.noConfusion

/-- A scope does not see what becomes of another's work. -/
theorem account_of_foreign {work other : Work} {scope : ScopeId} (kind : other.kind = work.kind)
    (foreign : work.isOf scope = false) : other.account scope = work.account scope := by
  have same : other.isOf scope = work.isOf scope := by rw [isOf, isOf, kind]
  simp only [account, same, foreign, Bool.false_and]

theorem isCounted_eq_false {work : Work} (unfinished : work.phase ≠ .over) : work.isCounted = false := by
  rw [isCounted, beq_eq_false_iff_ne.mpr unfinished, Bool.false_and]

theorem ne_over {work : Work} (unended : work.phase.hasEnded = false) : work.phase ≠ .over := by
  intro finished
  rw [finished] at unended
  exact Bool.noConfusion unended

/-- A work whose program has not ended may change in any phase but its last ones. -/
theorem account_of_unended {work other : Work} (kind : other.kind = work.kind) (before : work.phase.hasEnded = false)
    (later : other.phase.hasEnded = false) (scope : ScopeId) : other.account scope = work.account scope := by
  simp only [account, isOf, hasFailed, kind, isCounted_eq_false (ne_over before), isCounted_eq_false (ne_over later),
    before, later, Bool.false_and]

end Work

namespace Event

def submits (scope : ScopeId) : Event → Bool
  | submitted target _ => target == scope
  | left _ _ | died _ | other => false

def cutsShort (scope : ScopeId) : Event → Bool
  | submitted target cutShort => target == scope && cutShort
  | left _ _ | died _ | other => false

def handsOut (scope : ScopeId) : Event → Bool
  | left target failed => target == scope && failed
  | submitted _ _ | died _ | other => false

/-- Whether an event shows in the counters of a scope. -/
def concerns (scope : ScopeId) (event : Event) : Bool :=
  event.submits scope || event.cutsShort scope || event.handsOut scope

theorem concerns_submitted {scope target : ScopeId} (ne : scope ≠ target) (cutShort : Bool) :
    (submitted target cutShort).concerns scope = false := by
  simp [concerns, submits, cutsShort, handsOut, ne.symm]

theorem concerns_left {scope target : ScopeId} (ne : scope ≠ target) (failed : Bool) :
    (left target failed).concerns scope = false := by
  simp [concerns, submits, cutsShort, handsOut, ne.symm]

end Event

/-- A scope with the same counters, whose context has not been left in between. -/
structure Scope.SameCounts (scope other : Scope) : Prop where
  dispatched : other.dispatched = scope.dispatched
  completed : other.completed = scope.completed
  placed : other.pooled + other.inlined = scope.pooled + scope.inlined
  suppressed : other.suppressed = scope.suppressed
  firstFailure : other.firstFailure = scope.firstFailure
  closed : other.state = .closed ↔ scope.state = .closed
  parent : scope.parent ≠ none → other.parent ≠ none

theorem Scope.SameCounts.trans {first second third : Scope} (left : first.SameCounts second)
    (right : second.SameCounts third) : first.SameCounts third where
  dispatched := right.dispatched.trans left.dispatched
  completed := right.completed.trans left.completed
  placed := right.placed.trans left.placed
  suppressed := right.suppressed.trans left.suppressed
  firstFailure := right.firstFailure.trans left.firstFailure
  closed := right.closed.trans left.closed
  parent known := right.parent (left.parent known)

theorem Scope.SameCounts.refl (scope : Scope) : scope.SameCounts scope :=
  ⟨rfl, rfl, rfl, rfl, rfl, Iff.rfl, id⟩

/-- A failure is the first one, or it is suppressed. -/
theorem Scope.record_failures (scope : Scope) (outcome : Except Failure.TaskError Unit) :
    (scope.record outcome).suppressed + (scope.record outcome).firstFailure.isSome.toNat =
      scope.suppressed + scope.firstFailure.isSome.toNat + (!outcome.isOk).toNat := by
  rcases outcome with error | _
  · rw [Scope.record, Scope.recordFailure]
    cases stored : scope.firstFailure with
    | none => rfl
    | some first =>
      simp only [Option.isSome_some, Bool.toNat_true, Except.isOk, Except.toBool, Bool.not_false]
  · rfl

/-- The counters of a scope balance with its works and with what has happened. -/
structure Scope.Balanced (entry : Scope) (scope : ScopeId) (works : List Work) (events : List Event) : Prop where
  dispatched : entry.dispatched = events.countP (Event.submits scope)
  placed : entry.pooled + entry.inlined = works.countP (·.isOf scope)
  counted : works.countP (·.isOf scope) + events.countP (Event.cutsShort scope) = entry.dispatched
  completed : entry.completed = works.countP fun work => work.isOf scope && work.isCounted
  failures : works.countP (fun work => work.isOf scope && work.hasFailed) =
    entry.suppressed + entry.firstFailure.isSome.toNat + events.countP (Event.handsOut scope)
  settled : entry.state = .closed → entry.isSettled = true
  stored : entry.state = .closed → entry.firstFailure = none
  handed : entry.state ≠ .closed → events.countP (Event.handsOut scope) = 0
  once : events.countP (Event.handsOut scope) ≤ 1
  entered : ∀ work ∈ works, work.kind = .logic scope → entry.parent ≠ none

namespace Scope.Balanced

variable {entry other : Scope} {scope : ScopeId} {works others : List Work} {events : List Event}
  {event : Event}

/-- No more logics are over than have been submitted. -/
theorem completed_le (balanced : entry.Balanced scope works events) : entry.completed ≤ entry.dispatched := by
  have weaker : (works.countP fun work => work.isOf scope && work.isCounted) ≤ works.countP (·.isOf scope) :=
    List.countP_mono_left fun work _ both => (Bool.and_eq_true_iff.mp both).1
  have counted := balanced.counted
  have completed := balanced.completed
  omega

/-- A logic that is not over is still missing from the count. -/
theorem completed_lt (balanced : entry.Balanced scope works events) {id : WorkId} {work : Work}
    (present : works[id]? = some work) (kind : work.kind = .logic scope) (unfinished : work.isCounted = false) :
    entry.completed < entry.dispatched := by
  have fewer : (works.countP fun work => work.isOf scope && work.isCounted) < works.countP (·.isOf scope) :=
    countP_lt_countP present (fun _ both => (Bool.and_eq_true_iff.mp both).1) (Work.isOf_iff.mpr kind)
      (by rw [unfinished, Bool.and_false])
  have counted := balanced.counted
  have completed := balanced.completed
  omega

/-- A scope of which a logic is not over has not been left. -/
theorem not_closed (balanced : entry.Balanced scope works events) {id : WorkId} {work : Work}
    (present : works[id]? = some work) (kind : work.kind = .logic scope) (unfinished : work.isCounted = false) :
    entry.state ≠ .closed := by
  intro closed
  have settled := balanced.settled closed
  have missing := balanced.completed_lt present kind unfinished
  rw [Scope.isSettled, decide_eq_true_eq] at settled
  omega

/-- Works with the same account count the same. -/
theorem countP_account (same : others.map (·.account scope) = works.map (·.account scope))
    (p : Bool × Bool × Bool → Bool) :
    others.countP (p ∘ Work.account scope) = works.countP (p ∘ Work.account scope) := by
  rw [← List.countP_map, ← List.countP_map]
  exact congrArg (List.countP p) same

/-- A step that does not show in the counters. -/
theorem of_same (balanced : entry.Balanced scope works events) (same : entry.SameCounts other)
    (accounts : others.map (·.account scope) = works.map (·.account scope))
    (silent : event.concerns scope = false) : other.Balanced scope others (event :: events) := by
  simp only [Event.concerns, Bool.or_eq_false_iff] at silent
  obtain ⟨⟨submits, cutsShort⟩, handsOut⟩ := silent
  have logics : others.countP (·.isOf scope) = works.countP (·.isOf scope) :=
    countP_account accounts fun account => account.1
  have finished : (others.countP fun work => work.isOf scope && work.isCounted) =
      works.countP fun work => work.isOf scope && work.isCounted :=
    countP_account accounts fun account => account.2.1
  have failed : (others.countP fun work => work.isOf scope && work.hasFailed) =
      works.countP fun work => work.isOf scope && work.hasFailed :=
    countP_account accounts fun account => account.2.2
  have unheard {p : Event → Bool} (ignored : p event = false) : (event :: events).countP p = events.countP p :=
    List.countP_cons_of_neg (by rw [ignored]; exact Bool.false_ne_true)
  constructor
  case dispatched => rw [same.dispatched, unheard submits, balanced.dispatched]
  case placed => rw [same.placed, logics, balanced.placed]
  case counted => rw [same.dispatched, logics, unheard cutsShort, balanced.counted]
  case completed => rw [same.completed, finished, balanced.completed]
  case failures => rw [same.suppressed, same.firstFailure, failed, unheard handsOut, balanced.failures]
  case settled =>
    intro closed
    rw [Scope.isSettled, same.dispatched, same.completed]
    exact balanced.settled (same.closed.mp closed)
  case stored =>
    intro closed
    rw [same.firstFailure]
    exact balanced.stored (same.closed.mp closed)
  case handed =>
    intro left
    rw [unheard handsOut]
    exact balanced.handed fun closed => left (same.closed.mpr closed)
  case once =>
    rw [unheard handsOut]
    exact balanced.once
  case entered =>
    intro work member kind
    have shown : work.account scope ∈ works.map (·.account scope) := accounts ▸ List.mem_map_of_mem member
    obtain ⟨before, present, account⟩ := List.mem_map.mp shown
    have own : before.isOf scope = true := (congrArg Prod.fst account).trans (Work.isOf_iff.mpr kind)
    exact same.parent (balanced.entered before present (Work.isOf_iff.mp own))

/-- A work that is added to another account. -/
theorem append (balanced : entry.Balanced scope works events) {work : Work} (foreign : work.isOf scope = false) :
    entry.Balanced scope (works ++ [work]) events := by
  have unseen {p : Work → Bool} (ignored : p work = false) : (works ++ [work]).countP p = works.countP p := by
    rw [List.countP_append, List.countP_singleton, ignored]
    rfl
  refine { balanced with placed := ?_, counted := ?_, completed := ?_, failures := ?_, entered := ?_ }
  · rw [unseen foreign, balanced.placed]
  · rw [unseen foreign, balanced.counted]
  · rw [unseen (by rw [foreign, Bool.false_and]), balanced.completed]
  · rw [unseen (by rw [foreign, Bool.false_and]), balanced.failures]
  · intro other member kind
    rw [List.mem_append, List.mem_singleton] at member
    rcases member with member | rfl
    · exact balanced.entered other member kind
    · exact absurd (Work.isOf_iff.mpr kind) (by rw [foreign]; exact Bool.false_ne_true)

/-! ## What shows in the counters -/

/-- A logic is counted as submitted, but never placed. -/
theorem cutShort (balanced : entry.Balanced scope works events) (accepting : entry.state = .accepting) :
    entry.countDispatched.Balanced scope works (.submitted scope true :: events) := by
  have here : (Event.submitted scope true).submits scope = true := beq_self_eq_true _
  have cut : (Event.submitted scope true).cutsShort scope = true := by simp [Event.cutsShort]
  have dispatched := balanced.dispatched
  have counted := balanced.counted
  refine { balanced with dispatched := ?_, counted := ?_, settled := fun closed => ?_ }
  · rw [List.countP_cons_of_pos here, ← dispatched]
    rfl
  · rw [List.countP_cons_of_pos cut]
    change _ = entry.dispatched + 1
    omega
  · exact absurd (accepting.symm.trans closed) (by decide)

/-- A logic is counted as submitted and placed. -/
theorem place (balanced : entry.Balanced scope works events) (accepting : entry.state = .accepting)
    (parent : entry.parent ≠ none) {work : Work} (kind : work.kind = .logic scope)
    (phase : work.phase.hasEnded = false)
    (dispatched : other.dispatched = entry.dispatched + 1)
    (placed : other.pooled + other.inlined = entry.pooled + entry.inlined + 1)
    (same : { other with dispatched := entry.dispatched, pooled := entry.pooled, inlined := entry.inlined } = entry) :
    other.Balanced scope (works ++ [work]) (.submitted scope false :: events) := by
  have here : (Event.submitted scope false).submits scope = true := beq_self_eq_true _
  have whole : ¬ (Event.submitted scope false).cutsShort scope = true := by simp [Event.cutsShort]
  have own : work.isOf scope = true := Work.isOf_iff.mpr kind
  have unfinished := Work.isCounted_eq_false (Work.ne_over phase)
  have unfailed : work.hasFailed = false := by rw [Work.hasFailed, phase, Bool.false_and]
  have completed := congrArg Scope.completed same
  have suppressed := congrArg Scope.suppressed same
  have failure := congrArg Scope.firstFailure same
  have state : other.state = .accepting := (congrArg Scope.state same).trans accepting
  have counted := balanced.counted
  dsimp only at completed suppressed failure
  constructor
  case dispatched => rw [List.countP_cons_of_pos here, dispatched, balanced.dispatched]
  case placed => rw [List.countP_append, List.countP_singleton, if_pos own, placed, balanced.placed]
  case counted =>
    rw [List.countP_append, List.countP_singleton, if_pos own, List.countP_cons_of_neg whole, dispatched]
    omega
  case completed =>
    rw [List.countP_append, List.countP_singleton, unfinished, Bool.and_false, completed, balanced.completed]
    rfl
  case failures =>
    rw [List.countP_append, List.countP_singleton, unfailed, Bool.and_false, suppressed, failure]
    exact balanced.failures
  case settled => exact fun closed => absurd (state.symm.trans closed) (by decide)
  case stored => exact fun closed => absurd (state.symm.trans closed) (by decide)
  case handed => exact fun _ => balanced.handed (by rw [accepting]; simp)
  case once => exact balanced.once
  case entered =>
    intro _ _ _
    exact fun none => parent ((congrArg Scope.parent same).symm.trans none)

/-- A work changes that is in the account of the scope, and remains there. -/
private theorem countP_isOf {works : List Work} {change : Work → Work} (id : WorkId)
    (kind : ∀ work, (change work).kind = work.kind) :
    (works.modify id change).countP (·.isOf scope) = works.countP (·.isOf scope) :=
  countP_modify_same works id fun work _ => by rw [Work.isOf, Work.isOf, kind]

private theorem entered_modify {works : List Work} {change : Work → Work} {id : WorkId}
    (entered : ∀ work ∈ works, work.kind = .logic scope → entry.parent ≠ none)
    (kind : ∀ work, (change work).kind = work.kind) :
    ∀ work ∈ works.modify id change, work.kind = .logic scope → entry.parent ≠ none := by
  intro work member own
  obtain ⟨place, found⟩ := List.mem_iff_getElem?.mp member
  rw [List.getElem?_modify] at found
  obtain ⟨before, present, rfl⟩ := Option.map_eq_some_iff.mp found
  refine entered before (List.mem_of_getElem? present) ?_
  by_cases here : id = place
  · rwa [if_pos here, kind] at own
  · rwa [if_neg here] at own

/-- The outcome of a logic is recorded. -/
theorem record (balanced : entry.Balanced scope works events) {id : WorkId} {work : Work}
    (present : works[id]? = some work) (kind : work.kind = .logic scope) (running : work.phase = .running)
    (outcome : Except Failure.TaskError Unit) (unwound : Bool) :
    (entry.record outcome).Balanced scope
      (works.modify id ({ · with phase := .recorded, failed := !outcome.isOk, unwound })) (.other :: events) := by
  have own : work.isOf scope = true := Work.isOf_iff.mpr kind
  have unfinished : work.isCounted = false := by rw [Work.isCounted, running]; rfl
  have open_yet := balanced.not_closed present kind unfinished
  have unfailed : work.hasFailed = false := by rw [Work.hasFailed, running]; rfl
  let change (work : Work) : Work := { work with phase := .recorded, failed := !outcome.isOk, unwound }
  have logics : (works.modify id change).countP (·.isOf scope) = works.countP (·.isOf scope) :=
    countP_isOf id fun _ => rfl
  have finished : ((works.modify id change).countP fun work => work.isOf scope && work.isCounted) =
      works.countP fun work => work.isOf scope && work.isCounted := by
    refine countP_modify_same works id fun item found => ?_
    obtain rfl := Option.some.inj (present.symm.trans found)
    rw [unfinished]
    rfl
  have failed := countP_modify (fun work => work.isOf scope && work.hasFailed) change present
  have changed : ((change work).isOf scope && (change work).hasFailed) = !outcome.isOk := by
    change (work.isOf scope && !outcome.isOk) = _
    rw [own, Bool.true_and]
  rw [unfailed, Bool.and_false, changed] at failed
  have failures := balanced.failures
  obtain ⟨_, _, same⟩ := entry.record_rest outcome
  have dispatched : (entry.record outcome).dispatched = entry.dispatched := by rw [same]
  have completed : (entry.record outcome).completed = entry.completed := by rw [same]
  have placed : (entry.record outcome).pooled + (entry.record outcome).inlined = entry.pooled + entry.inlined := by
    rw [same]
  have state : (entry.record outcome).state = entry.state := by rw [same]
  have parent : (entry.record outcome).parent = entry.parent := by rw [same]
  constructor
  case dispatched =>
    rw [dispatched]
    exact balanced.dispatched
  case placed => rw [placed, logics, balanced.placed]
  case counted =>
    rw [logics, dispatched]
    exact balanced.counted
  case completed => rw [completed, finished, balanced.completed]
  case failures =>
    change (works.modify id change).countP _ = _ + events.countP (Event.handsOut scope)
    rw [entry.record_failures outcome]
    cases result : outcome.isOk <;>
      simp only [result, Bool.not_true, Bool.not_false, Bool.toNat_true, Bool.toNat_false, Bool.false_eq_true,
        ↓reduceIte] at failed ⊢ <;> omega
  case settled => exact fun closed => (open_yet (state.symm.trans closed)).elim
  case stored => exact fun closed => (open_yet (state.symm.trans closed)).elim
  case handed => exact fun _ => balanced.handed open_yet
  case once => exact balanced.once
  case entered =>
    rw [parent]
    exact entered_modify balanced.entered fun _ => rfl

/-- A logic is counted as over, unless its end was unwound. -/
theorem complete (balanced : entry.Balanced scope works events) {id : WorkId} {work : Work}
    (present : works[id]? = some work) (kind : work.kind = .logic scope) (vacated : work.phase = .vacated) :
    (entry.countOver work.unwound).Balanced scope (works.modify id ({ · with phase := .over }))
    (.other :: events) := by
  have own : work.isOf scope = true := Work.isOf_iff.mpr kind
  have unfinished : work.isCounted = false := by rw [Work.isCounted, vacated]; rfl
  have open_yet := balanced.not_closed present kind unfinished
  let change (work : Work) : Work := { work with phase := .over }
  have logics : (works.modify id change).countP (·.isOf scope) = works.countP (·.isOf scope) :=
    countP_isOf id fun _ => rfl
  have finished := countP_modify (fun work => work.isOf scope && work.isCounted) change present
  have changed : ((change work).isOf scope && (change work).isCounted) = !work.unwound := by
    change (work.isOf scope && !work.unwound) = _
    rw [own, Bool.true_and]
  rw [unfinished, Bool.and_false, changed] at finished
  have failed : ((works.modify id change).countP fun work => work.isOf scope && work.hasFailed) =
      works.countP fun work => work.isOf scope && work.hasFailed := by
    refine countP_modify_same works id fun item found => ?_
    obtain rfl := Option.some.inj (present.symm.trans found)
    rw [Work.hasFailed, Work.hasFailed, vacated]
    rfl
  rw [entry.countOver_eq]
  constructor
  case dispatched => exact balanced.dispatched
  case placed => exact balanced.placed.trans logics.symm
  case counted =>
    rw [logics]
    exact balanced.counted
  case completed =>
    change entry.completed + _ = (works.modify id change).countP _
    rw [balanced.completed]
    cases unwound : work.unwound <;>
      simp only [unwound, Bool.not_true, Bool.not_false, Bool.toNat_true, Bool.toNat_false, Bool.false_eq_true,
        ↓reduceIte] at finished ⊢ <;> omega
  case failures =>
    rw [failed]
    exact balanced.failures
  case settled => exact fun closed => (open_yet closed).elim
  case stored => exact fun closed => (open_yet closed).elim
  case handed => exact balanced.handed
  case once => exact balanced.once
  case entered => exact entered_modify balanced.entered fun _ => rfl

/-- The context is left, and the first failure handed out. -/
theorem close (balanced : entry.Balanced scope works events) (entered : entry.state ≠ .closed)
    (settled : entry.isSettled = true) :
    entry.close.2.Balanced scope works (.left scope entry.firstFailure.isSome :: events) := by
  have handed := balanced.handed entered
  have count : (Event.left scope entry.firstFailure.isSome :: events).countP (Event.handsOut scope) =
      entry.firstFailure.isSome.toNat := by
    rw [List.countP_cons, handed]
    cases entry.firstFailure <;> simp [Event.handsOut]
  have failures := balanced.failures
  constructor
  case dispatched => exact balanced.dispatched
  case placed => exact balanced.placed
  case counted => exact balanced.counted
  case completed => exact balanced.completed
  case failures =>
    rw [count, failures, handed]
    rfl
  case settled => exact fun _ => settled
  case stored => exact fun _ => rfl
  case handed => exact fun open_yet => (open_yet rfl).elim
  case once =>
    rw [count]
    exact Bool.toNat_le _
  case entered => exact balanced.entered

end Scope.Balanced

/-! ## Every step -/

namespace Picture

variable {picture after : Picture} {events : List Event} {event : Event} {scope : ScopeId} {id : WorkId}
  {lease : Lease}

/-- The counters of every scope balance. -/
def Ledger (picture : Picture) (events : List Event) : Prop :=
  ∀ scope, (picture.scope scope).Balanced scope picture.works events

theorem Quiet.works_eq (quiet : picture.Quiet after) : after.works = picture.works := by
  cases quiet
  rfl

theorem Quiet.sameCounts (quiet : picture.Quiet after) (scope : ScopeId) :
    (picture.scope scope).SameCounts (after.scope scope) := by
  obtain ⟨scopes, -⟩ := quiet
  obtain ⟨pool, concurrency, same⟩ := scopes scope
  simp only [same]
  exact ⟨rfl, rfl, rfl, rfl, rfl, Iff.rfl, id⟩

/-- A change of a scope that keeps its counters. -/
theorem sameCounts_modifyScope {change : Scope → Scope}
    (same : (picture.scope scope).SameCounts (change (picture.scope scope))) (other : ScopeId) :
    (picture.scope other).SameCounts ((picture.modifyScope scope change).scope other) := by
  by_cases here : other = scope
  · subst here
    simpa only [modifyScope, Function.update_self] using same
  · simp only [modifyScope, Function.update_of_ne here]
    exact .refl _

theorem Granted.works_eq (granted : picture.Granted lease after) : after.works = picture.works := by
  cases granted <;> rfl

theorem Granted.scope_eq (granted : picture.Granted lease after) : after.scope = picture.scope := by
  cases granted <;> rfl

theorem Vacated.scope_eq (vacated : picture.Vacated id after) : after.scope = picture.scope := by
  cases vacated <;> rfl

/-- A work that is sent is added, whether it begins at once or waits. -/
theorem Sent.added {thread : ThreadId} {work : Work} (sent : picture.Sent thread lease work after)
    (waiting : work.phase = .waiting) :
    after.scope = picture.scope ∧ ∃ added, after.works = picture.works ++ [added] ∧
      added.kind = work.kind ∧ (added.phase = .running ∨ added.phase = .waiting) := by
  cases sent with
  | returned => exact ⟨rfl, _, rfl, rfl, .inl rfl⟩
  | begun => exact ⟨rfl, _, rfl, rfl, .inl rfl⟩
  | queued => exact ⟨rfl, _, rfl, rfl, .inr waiting⟩

/-- A change of a work that shows in no account. -/
theorem account_modify {change : Work → Work}
    (same : (change (picture.work id)).account scope = (picture.work id).account scope) :
    (picture.works.modify id change).map (·.account scope) = picture.works.map (·.account scope) := by
  apply List.ext_getElem?
  intro place
  rw [List.getElem?_map, List.getElem?_map, List.getElem?_modify]
  by_cases here : id = place
  · subst here
    cases found : picture.works[id]? with
    | none => rfl
    | some work =>
      rw [Picture.work, found, Option.getD_some] at same
      simp only [↓reduceIte, Option.map_eq_map, Option.map_some, same]
  · simp only [if_neg here, Option.map_eq_map, Option.map_id']

theorem Vacated.account_eq (vacated : picture.Vacated id after) (scope : ScopeId) :
    after.works.map (·.account scope) = picture.works.map (·.account scope) := by
  rw [vacated.works_eq]
  exact account_modify rfl

namespace Ledger

theorem of_same (ledger : picture.Ledger events)
    (accounts : ∀ scope, after.works.map (·.account scope) = picture.works.map (·.account scope))
    (same : ∀ scope, (picture.scope scope).SameCounts (after.scope scope))
    (silent : ∀ scope, event.concerns scope = false) : after.Ledger (event :: events) := fun scope =>
  (ledger scope).of_same (same scope) (accounts scope) (silent scope)

/-- A step that concerns neither scopes nor works. -/
theorem of_eq (ledger : picture.Ledger events) (works : after.works = picture.works)
    (scopes : after.scope = picture.scope) : after.Ledger (.other :: events) :=
  ledger.of_same (fun _ => by rw [works]) (fun scope => by rw [scopes]; exact .refl _) fun _ => rfl

/-- A step that concerns one scope. -/
theorem of_update {next : Scope}
    (scopes : after.scope = Function.update picture.scope scope next)
    (elsewhere : ∀ other, other ≠ scope →
      (picture.scope other).Balanced other after.works (event :: events))
    (balanced : next.Balanced scope after.works (event :: events)) : after.Ledger (event :: events) := by
  intro other
  rw [scopes]
  by_cases here : other = scope
  · subst here
    rw [Function.update_self]
    exact balanced
  · rw [Function.update_of_ne here]
    exact elsewhere other here

/-- A submission to one scope leaves the others as they are. -/
private theorem elsewhere (ledger : picture.Ledger events) {added : Work} {target other : ScopeId} {cutShort : Bool}
    (kind : added.kind = .logic target) (ne : other ≠ target) :
    (picture.scope other).Balanced other (picture.works ++ [added]) (.submitted target cutShort :: events) := by
  have foreign : added.isOf other = false := Work.isOf_of_ne kind ne
  exact ((ledger other).of_same (.refl _) rfl (Event.concerns_submitted ne cutShort)).append foreign

/-- A job is added, and no scope counts it. -/
private theorem addJob (ledger : picture.Ledger events) {thread : ThreadId} {work : Work}
    (sent : picture.Sent thread lease work after) (waiting : work.phase = .waiting) (kind : work.kind = .job) :
    after.Ledger (.other :: events) := by
  obtain ⟨scopes, added, works, same, -⟩ := sent.added waiting
  intro scope
  have foreign : added.isOf scope = false := Work.isOf_of_job (same.trans kind) scope
  rw [scopes, works]
  exact ((ledger scope).of_same (.refl _) rfl rfl).append foreign

/-- A work changes in a way that no account shows. -/
private theorem modifyWork (ledger : picture.Ledger events) {change : Work → Work}
    (works : after.works = picture.works.modify id change) (scopes : after.scope = picture.scope)
    (same : ∀ scope, (change (picture.work id)).account scope = (picture.work id).account scope)
    (silent : ∀ scope, event.concerns scope = false) : after.Ledger (event :: events) :=
  ledger.of_same (fun scope => by rw [works]; exact account_modify (same scope))
    (fun scope => by rw [scopes]; exact .refl _) silent

theorem step (ledger : picture.Ledger events) (tenancy : picture.Tenancy) (step : picture.Step event after) :
    after.Ledger (event :: events) := by
  have accepting {activation : Activation} {others : Multiset Activation} {scope : ScopeId}
      (top : picture.crew = activation ::ₘ others) (running : picture.IsRunning activation)
      (owned : 0 < activation.contexts scope) :
      (picture.scope scope).state = .accepting ∧ (picture.scope scope).parent ≠ none :=
    tenancy.accepting top running.staying owned
  cases step with
  | quiet quiet => exact ledger.of_same (fun scope => by rw [quiet.works_eq]) quiet.sameCounts fun _ => rfl
  | @enter middle activation others scope parent tenure quiet top running fresh =>
    have entered : (middle.scope scope).SameCounts ((middle.scope parent).child parent activation.within) := by
      rw [fresh]
      exact ⟨rfl, rfl, rfl, rfl, rfl, Iff.rfl, fun _ => Option.some_ne_none _⟩
    exact ledger.of_same (fun _ => congrArg _ quiet.works_eq)
      (fun other => (quiet.sameCounts other).trans
        (@sameCounts_modifyScope middle scope (fun _ => (middle.scope parent).child parent activation.within)
          entered other)) fun _ => rfl
  | @drain activation others scope departure top running owned =>
    have drained : (picture.scope scope).SameCounts (picture.scope scope).drain := by
      have state := (accepting top running owned).1
      rw [Scope.drain, state]
      exact ⟨rfl, rfl, rfl, rfl, rfl, by rw [state]; simp, id⟩
    exact ledger.of_same (fun _ => rfl) (sameCounts_modifyScope drained) fun _ => rfl
  | @leave activation others scope departure top leaving settled =>
    have entered := (tenancy.alone top (tenancy.leaving activation (top ▸ Multiset.mem_cons_self _ _) _ _ leaving)).1
    refine of_update rfl (fun other ne => ?_) ((ledger scope).close ?_ settled)
    · exact (ledger other).of_same (.refl _) rfl (Event.concerns_left ne _)
    · simpa [Scope.isEntered] using (Bool.and_eq_true_iff.mp entered).2
  | shift => exact ledger.of_eq rfl rfl
  | acquire _ _ _ _ granted => exact ledger.of_eq granted.works_eq granted.scope_eq
  | dropLease => exact ledger.of_eq rfl rfl
  | passLease => exact ledger.of_eq rfl rfl
  | @dispatch _ activation others _ name _ _ _ _ sent =>
    let taken := picture.withCrew ({ activation with leases := activation.leases.filter (·.1 ≠ name) } ::ₘ others)
    have took : taken.Ledger events := ledger
    exact took.addJob sent rfl rfl
  | @submitCutShort activation others scope top running owned =>
    refine of_update rfl (fun other ne => ?_) ((ledger scope).cutShort (accepting top running owned).1)
    exact (ledger other).of_same (.refl _) rfl (Event.concerns_submitted ne true)
  | @submitInline activation others scope thread top running owned =>
    obtain ⟨state, parent⟩ := accepting top running owned
    exact of_update rfl (fun other ne => ledger.elsewhere rfl ne)
      ((ledger scope).place state parent rfl rfl rfl rfl rfl)
  | @submitPooled leased _ activation others scope thread _ snapshot top running owned usable granted sent =>
    obtain ⟨state, parent⟩ := accepting top running owned
    obtain ⟨scopes, added, works, kind, early⟩ := sent.added rfl
    have unended : added.phase.hasEnded = false := by
      rcases early with phase | phase <;> rw [phase] <;> rfl
    rw [granted.works_eq] at works
    rw [granted.scope_eq] at scopes
    refine of_update scopes (fun other ne => ?_) ?_
    · rw [works]
      exact ledger.elsewhere kind ne
    · rw [works]
      exact (ledger scope).place state parent kind unended rfl (Nat.add_right_comm _ _ _) rfl
  | free _ _ _ vacated =>
    exact ledger.of_same vacated.account_eq (fun scope => by rw [vacated.scope_eq]; exact .refl _) fun _ => rfl
  | @endLogic activation others work scope outcome saved top running role kind bare joined =>
    have phase := running.running work role
    have present := works_getElem? (lt_of_phase (by rw [phase]; simp))
    refine of_update rfl (fun other ne => ?_) ((ledger scope).record present kind phase outcome _)
    refine (ledger other).of_same (.refl _) (account_modify ?_) rfl
    exact Work.account_of_foreign rfl (Work.isOf_of_ne kind ne)
  | @endJob middle activation others work saved top running role kind bare joined vacated =>
    let shifted := picture.withCrew ({ activation with saved } ::ₘ others)
    have shift : shifted.Ledger events := ledger
    have works : (middle.modifyWork work ({ · with phase := .vacated })).works =
        shifted.works.modify work ({ · with leased := false, phase := .vacated }) := by
      rw [Picture.modifyWork, vacated.works_eq]
      exact List.modify_modify_eq _ _ _ _
    refine shift.modifyWork works vacated.scope_eq (fun other => ?_) fun _ => rfl
    exact Work.account_of_foreign rfl (Work.isOf_of_job kind other)
  | @vacate middle work recorded vacated =>
    have works : (middle.modifyWork work ({ · with phase := .vacated })).works =
        picture.works.modify work ({ · with leased := false, phase := .vacated }) := by
      rw [Picture.modifyWork, vacated.works_eq]
      exact List.modify_modify_eq _ _ _ _
    refine ledger.modifyWork works vacated.scope_eq (fun other => ?_) fun _ => rfl
    rw [Work.account, Work.account, Work.isCounted, Work.isCounted, Work.hasFailed, Work.hasFailed, recorded]
    rfl
  | @complete activation others work top role vacated =>
    cases kind : (picture.work work).kind with
    | job =>
      have uncounted : picture.count work = picture := by rw [count, kind]
      rw [uncounted]
      exact ledger.modifyWork rfl rfl (fun other => Work.account_of_foreign rfl (Work.isOf_of_job kind other))
        fun _ => rfl
    | logic scope =>
      have present := works_getElem? (lt_of_phase (by rw [vacated]; simp))
      have counted : picture.count work = picture.modifyScope scope (·.countOver (picture.work work).unwound) := by
        rw [count, kind]
      rw [counted]
      refine of_update rfl (fun other ne => ?_) ((ledger scope).complete present kind vacated)
      refine (ledger other).of_same (.refl _) (account_modify ?_) rfl
      exact Work.account_of_foreign rfl (Work.isOf_of_ne kind ne)
  | rest => exact ledger.of_eq rfl rfl
  | next saved busy finished waiting =>
    have unended := congrArg WorkPhase.hasEnded waiting.phase
    exact ledger.modifyWork rfl rfl (Work.account_of_unended rfl unended rfl) fun _ => rfl
  | dieAlone => exact ledger.of_same (fun _ => rfl) (fun _ => .refl _) fun _ => rfl
  | die busy finished waiting =>
    have unended := congrArg WorkPhase.hasEnded waiting.phase
    exact ledger.modifyWork rfl rfl (Work.account_of_unended rfl unended rfl) fun _ => rfl
  | dropPool => exact ledger.of_eq rfl rfl
  | start => exact ledger.of_eq rfl rfl
  | finish => exact ledger.of_eq rfl rfl

end Ledger

end Picture

end ScopedWork
