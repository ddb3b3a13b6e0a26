import Mathlib.Algebra.Order.BigOperators.Group.Multiset
import Mathlib.Algebra.Order.Group.Nat
import ScopedWork.Proofs.Picture

/-! # Who has the contexts

An entered scope has exactly one context, in the hands of one activation, until it is closed. While
the context is being left the scope is draining, and before that it accepts logics. An activation
only has contexts that were entered during the work it runs on behalf of.
-/

namespace ScopedWork

def Scope.isEntered (scope : Scope) : Bool :=
  scope.parent.isSome && scope.state != .closed

def Activation.leaves (activation : Activation) (scope : ScopeId) : Bool :=
  activation.leaving.any (·.1 == scope)

theorem Activation.contexts_pos {activation : Activation} {scope : ScopeId} :
    0 < activation.contexts scope ↔ ∃ handle ∈ activation.handles, handle.scope = scope := by
  simp [contexts, List.countP_pos_iff]

theorem Activation.scope_ne_of_contexts {activation : Activation} {scope : ScopeId}
    (none : activation.contexts scope = 0) {handle : Handle} (has : handle ∈ activation.handles) :
    handle.scope ≠ scope := by
  intro same
  have some := Activation.contexts_pos.mpr ⟨handle, has, same⟩
  rw [none] at some
  exact absurd some (Nat.lt_irrefl 0)

namespace Picture

variable {picture after : Picture} {activation other : Activation} {others : Multiset Activation}

/-- Every context is in one place, and its scope is in the state that its holder has brought it to. -/
structure Tenancy (picture : Picture) : Prop where
  held : ∀ scope, (picture.crew.map (·.contexts scope)).sum = (picture.scope scope).isEntered.toNat
  within : ∀ activation ∈ picture.crew, ∀ handle ∈ activation.handles,
    (picture.scope handle.scope).within = activation.within
  state : ∀ activation ∈ picture.crew, ∀ handle ∈ activation.handles,
    (picture.scope handle.scope).state = if activation.leaves handle.scope then .draining else .accepting
  leaving : ∀ activation ∈ picture.crew, ∀ scope departure, activation.leaving = some (scope, departure) →
    0 < activation.contexts scope
  nested : ∀ scope, (picture.scope scope).parent = none → (picture.scope scope).within = none

/-- Scopes of which no context has been entered or left in between. -/
def SameTenancy (picture after : Picture) : Prop :=
  ∀ scope, (after.scope scope).parent = (picture.scope scope).parent ∧
    (after.scope scope).within = (picture.scope scope).within ∧
    (after.scope scope).state = (picture.scope scope).state

theorem SameTenancy.isEntered (same : picture.SameTenancy after) (scope : ScopeId) :
    (after.scope scope).isEntered = (picture.scope scope).isEntered := by
  obtain ⟨parent, -, state⟩ := same scope
  rw [Scope.isEntered, Scope.isEntered, parent, state]

theorem Quiet.sameTenancy (quiet : picture.Quiet after) : picture.SameTenancy after := by
  obtain ⟨scopes, -⟩ := quiet
  intro scope
  obtain ⟨pool, concurrency, same⟩ := scopes scope
  simp only [same, and_self]

/-- A change of counters is none of tenancy. -/
theorem SameTenancy.modifyScope (scope : ScopeId) (change : Scope → Scope)
    (shape : after.scope = (picture.modifyScope scope change).scope)
    (parent : (change (picture.scope scope)).parent = (picture.scope scope).parent)
    (within : (change (picture.scope scope)).within = (picture.scope scope).within)
    (state : (change (picture.scope scope)).state = (picture.scope scope).state) :
    picture.SameTenancy after := by
  intro other
  rw [shape]
  by_cases same : other = scope
  · subst same
    simp only [Picture.modifyScope, Function.update_self]
    exact ⟨parent, within, state⟩
  · simp only [Picture.modifyScope, Function.update_of_ne same, and_self]

namespace Tenancy

/-- The context of an entered scope is nowhere but with its holder. -/
theorem alone (tenancy : picture.Tenancy) (top : picture.crew = activation ::ₘ others) {scope : ScopeId}
    (owned : 0 < activation.contexts scope) :
    (picture.scope scope).isEntered = true ∧ activation.contexts scope = 1 ∧
      ∀ other ∈ others, other.contexts scope = 0 := by
  have held := tenancy.held scope
  rw [top, Multiset.map_cons, Multiset.sum_cons] at held
  have entered : (picture.scope scope).isEntered = true := by
    by_contra left
    rw [Bool.not_eq_true] at left
    rw [left, Bool.toNat_false] at held
    omega
  rw [entered, Bool.toNat_true] at held
  refine ⟨entered, by omega, fun other member => ?_⟩
  have below : other.contexts scope ≤ (others.map (·.contexts scope)).sum :=
    Multiset.le_sum_of_mem (Multiset.mem_map_of_mem (fun one : Activation => one.contexts scope) member)
  omega

/-- While it is not being left, an entered scope accepts logics. -/
theorem accepting (tenancy : picture.Tenancy) (top : picture.crew = activation ::ₘ others)
    (staying : activation.leaving = none) {scope : ScopeId} (owned : 0 < activation.contexts scope) :
    (picture.scope scope).state = .accepting ∧ (picture.scope scope).parent ≠ none := by
  obtain ⟨handle, has, rfl⟩ := Activation.contexts_pos.mp owned
  have entered := (tenancy.alone top owned).1
  have state := tenancy.state activation (top ▸ Multiset.mem_cons_self _ _) handle has
  rw [Activation.leaves, staying] at state
  rw [Scope.isEntered, Bool.and_eq_true, Option.isSome_iff_ne_none] at entered
  exact ⟨state, entered.1⟩

/-- What is not entered is in no hands. -/
theorem handle_ne (tenancy : picture.Tenancy) {scope : ScopeId}
    (missing : (picture.scope scope).isEntered = false) (member : activation ∈ picture.crew)
    {handle : Handle} (has : handle ∈ activation.handles) : handle.scope ≠ scope := by
  rintro rfl
  obtain ⟨others, top⟩ := Multiset.exists_cons_of_mem member
  have entered := (tenancy.alone top (Activation.contexts_pos.mpr ⟨handle, has, rfl⟩)).1
  exact absurd entered (by rw [missing]; decide)

/-- The innermost activation of a thread may be exchanged for one with the same contexts. -/
theorem replace (tenancy : picture.Tenancy) (same : picture.SameTenancy after)
    (before : picture.crew = activation ::ₘ others) (later : after.crew = other ::ₘ others)
    (within : other.within = activation.within) (handles : other.handles = activation.handles)
    (leaving : other.leaving = activation.leaving) : after.Tenancy := by
  have contexts (scope : ScopeId) : other.contexts scope = activation.contexts scope := by
    rw [Activation.contexts, Activation.contexts, handles]
  have inside : activation ∈ picture.crew := by rw [before]; exact Multiset.mem_cons_self _ _
  have outside {one : Activation} (member : one ∈ others) : one ∈ picture.crew := by
    rw [before]
    exact Multiset.mem_cons_of_mem member
  constructor
  case held =>
    intro scope
    rw [later, same.isEntered, ← tenancy.held, before, Multiset.map_cons, Multiset.map_cons, contexts]
  case within =>
    intro one member handle has
    rw [(same handle.scope).2.1]
    rw [later, Multiset.mem_cons] at member
    rcases member with rfl | member
    · rw [within]
      exact tenancy.within activation inside handle (handles ▸ has)
    · exact tenancy.within one (outside member) handle has
  case state =>
    intro one member handle has
    rw [(same handle.scope).2.2]
    rw [later, Multiset.mem_cons] at member
    rcases member with rfl | member
    · rw [Activation.leaves, leaving]
      exact tenancy.state activation inside handle (handles ▸ has)
    · exact tenancy.state one (outside member) handle has
  case leaving =>
    intro one member scope departure leaves
    rw [later, Multiset.mem_cons] at member
    rcases member with rfl | member
    · rw [contexts]
      exact tenancy.leaving activation inside scope departure (leaving ▸ leaves)
    · exact tenancy.leaving one (outside member) scope departure leaves
  case nested =>
    intro scope root
    obtain ⟨parent, within, -⟩ := same scope
    rw [within]
    exact tenancy.nested scope (parent ▸ root)

/-- An activation without contexts may come and go. -/
private theorem of_bare (tenancy : picture.Tenancy) (same : picture.SameTenancy after)
    (crew : after.crew = activation ::ₘ picture.crew ∧ activation.leaving = none ∨
      picture.crew = activation ::ₘ after.crew) (handles : activation.handles = []) : after.Tenancy := by
  have contexts (scope : ScopeId) : activation.contexts scope = 0 := by
    rw [Activation.contexts, handles, List.countP_nil]
  have known {one : Activation} (member : one ∈ after.crew) :
      one ∈ picture.crew ∨ one.handles = [] ∧ one.leaving = none := by
    rcases crew with ⟨more, leaving⟩ | less
    · rw [more, Multiset.mem_cons] at member
      rcases member with rfl | member
      · exact .inr ⟨handles, leaving⟩
      · exact .inl member
    · rw [less]
      exact .inl (Multiset.mem_cons_of_mem member)
  constructor
  case held =>
    intro scope
    rw [same.isEntered, ← tenancy.held]
    rcases crew with ⟨more, -⟩ | less
    · rw [more, Multiset.map_cons, Multiset.sum_cons, contexts, Nat.zero_add]
    · rw [less, Multiset.map_cons, Multiset.sum_cons, contexts, Nat.zero_add]
  case within =>
    intro one member handle has
    rcases known member with member | ⟨bare, -⟩
    · rw [(same handle.scope).2.1]
      exact tenancy.within one member handle has
    · simp [bare] at has
  case state =>
    intro one member handle has
    rcases known member with member | ⟨bare, -⟩
    · rw [(same handle.scope).2.2]
      exact tenancy.state one member handle has
    · simp [bare] at has
  case leaving =>
    intro one member scope departure leaves
    rcases known member with member | ⟨-, staying⟩
    · exact tenancy.leaving one member scope departure leaves
    · simp [staying] at leaves
  case nested =>
    intro scope root
    obtain ⟨parent, within, -⟩ := same scope
    rw [within]
    exact tenancy.nested scope (parent ▸ root)

theorem add (tenancy : picture.Tenancy) (same : picture.SameTenancy after)
    (crew : after.crew = activation ::ₘ picture.crew) (handles : activation.handles = [])
    (staying : activation.leaving = none) : after.Tenancy :=
  tenancy.of_bare same (.inl ⟨crew, staying⟩) handles

theorem remove (tenancy : picture.Tenancy) (same : picture.SameTenancy after)
    (crew : picture.crew = activation ::ₘ after.crew) (handles : activation.handles = []) : after.Tenancy :=
  tenancy.of_bare same (.inr crew) handles

theorem of_same (tenancy : picture.Tenancy) (same : picture.SameTenancy after)
    (crew : after.crew = picture.crew) : after.Tenancy := by
  let more : Picture := picture.withCrew ({} ::ₘ picture.crew)
  have added : more.Tenancy := tenancy.add (fun _ => ⟨rfl, rfl, rfl⟩) rfl rfl rfl
  exact added.remove same (by rw [crew]; rfl) rfl

/-! ## Contexts entered and left -/

/-- A new scope is in nobody's hands but those of the one who enters it. -/
theorem enter (tenancy : picture.Tenancy) (top : picture.crew = activation ::ₘ others)
    (staying : activation.leaving = none) {scope parent : ScopeId} {tenure : Tenure}
    (fresh : picture.scope scope = default) :
    ((picture.modifyScope scope fun _ => (picture.scope parent).child parent activation.within).withCrew
      ({ activation with handles := { scope, tenure } :: activation.handles } ::ₘ others)).Tenancy := by
  have missing : (picture.scope scope).isEntered = false := by rw [fresh]; rfl
  have elsewhere {one : Activation} (member : one ∈ picture.crew) {handle : Handle}
      (has : handle ∈ one.handles) : handle.scope ≠ scope := tenancy.handle_ne missing member has
  have inside : activation ∈ picture.crew := by rw [top]; exact Multiset.mem_cons_self _ _
  have outside {one : Activation} (member : one ∈ others) : one ∈ picture.crew := by
    rw [top]
    exact Multiset.mem_cons_of_mem member
  constructor
  case held =>
    intro id
    have held := tenancy.held id
    rw [top, Multiset.map_cons, Multiset.sum_cons] at held
    simp only [withCrew, modifyScope, Multiset.map_cons, Multiset.sum_cons, Activation.contexts,
      List.countP_cons] at held ⊢
    by_cases same : id = scope
    · subst same
      rw [missing, Bool.toNat_false, Nat.add_eq_zero_iff] at held
      have opened : ((picture.scope parent).child parent activation.within).isEntered = true := rfl
      rw [Function.update_self, opened, held.1, held.2]
      simp
    · rw [Function.update_of_ne same, ← held]
      simp [Ne.symm same]
  case within =>
    intro one member handle has
    simp only [withCrew, modifyScope, Multiset.mem_cons] at member ⊢
    rcases member with rfl | member
    · rcases List.mem_cons.mp has with rfl | has
      · rw [Function.update_self]
        rfl
      · rw [Function.update_of_ne (elsewhere inside has)]
        exact tenancy.within activation inside handle has
    · rw [Function.update_of_ne (elsewhere (outside member) has)]
      exact tenancy.within one (outside member) handle has
  case state =>
    intro one member handle has
    simp only [withCrew, modifyScope, Multiset.mem_cons] at member ⊢
    rcases member with rfl | member
    · rcases List.mem_cons.mp has with rfl | has
      · simp [Function.update_self, Activation.leaves, staying, Scope.child]
      · rw [Function.update_of_ne (elsewhere inside has)]
        exact tenancy.state activation inside handle has
    · rw [Function.update_of_ne (elsewhere (outside member) has)]
      exact tenancy.state one (outside member) handle has
  case leaving =>
    intro one member id departure leaves
    simp only [withCrew, Multiset.mem_cons] at member
    rcases member with rfl | member
    · simp [staying] at leaves
    · exact tenancy.leaving one (outside member) id departure leaves
  case nested =>
    intro id root
    simp only [withCrew, modifyScope] at root ⊢
    by_cases same : id = scope
    · subst same
      simp [Scope.child] at root
    · rw [Function.update_of_ne same] at root ⊢
      exact tenancy.nested id root

theorem drain (tenancy : picture.Tenancy) (top : picture.crew = activation ::ₘ others)
    (staying : activation.leaving = none) {scope : ScopeId} (departure : Departure)
    (owned : 0 < activation.contexts scope) :
    ((picture.modifyScope scope Scope.drain).withCrew
      ({ activation with leaving := some (scope, departure) } ::ₘ others)).Tenancy := by
  obtain ⟨entered, single, elsewhere⟩ := tenancy.alone top owned
  have inside : activation ∈ picture.crew := by rw [top]; exact Multiset.mem_cons_self _ _
  have outside {one : Activation} (member : one ∈ others) : one ∈ picture.crew := by
    rw [top]
    exact Multiset.mem_cons_of_mem member
  have accepting : (picture.scope scope).state = .accepting := by
    obtain ⟨handle, has, rfl⟩ := Activation.contexts_pos.mp owned
    simpa [Activation.leaves, staying] using tenancy.state activation inside handle has
  have drained : (picture.scope scope).drain = { picture.scope scope with state := .draining } := by
    simp only [Scope.drain, accepting]
  have ne_of_outside {one : Activation} (member : one ∈ others) {handle : Handle} (has : handle ∈ one.handles) :
      handle.scope ≠ scope := Activation.scope_ne_of_contexts (elsewhere one member) has
  constructor
  case held =>
    intro id
    have held := tenancy.held id
    rw [top] at held
    simp only [withCrew, modifyScope, drained, Multiset.map_cons, Multiset.sum_cons, Activation.contexts] at held ⊢
    rw [held]
    by_cases same : id = scope
    · subst same
      simp only [Scope.isEntered, accepting] at entered
      simp only [Function.update_self, Scope.isEntered, accepting]
      rfl
    · rw [Function.update_of_ne same]
  case within =>
    intro one member handle has
    simp only [withCrew, modifyScope, drained, Multiset.mem_cons] at member ⊢
    have unchanged : (Function.update picture.scope scope { picture.scope scope with state := .draining }
        handle.scope).within = (picture.scope handle.scope).within := by
      by_cases same : handle.scope = scope
      · rw [same, Function.update_self]
      · rw [Function.update_of_ne same]
    rw [unchanged]
    rcases member with rfl | member
    · exact tenancy.within activation inside handle has
    · exact tenancy.within one (outside member) handle has
  case state =>
    intro one member handle has
    simp only [withCrew, modifyScope, drained, Multiset.mem_cons] at member ⊢
    rcases member with rfl | member
    · by_cases same : handle.scope = scope
      · simp [same, Activation.leaves]
      · have before := tenancy.state activation inside handle has
        rw [Function.update_of_ne same, before]
        simp [Activation.leaves, staying, Ne.symm same]
    · rw [Function.update_of_ne (ne_of_outside member has)]
      exact tenancy.state one (outside member) handle has
  case leaving =>
    intro one member id how leaves
    simp only [withCrew, Multiset.mem_cons] at member
    rcases member with rfl | member
    · obtain ⟨rfl, -⟩ := Prod.mk.inj (Option.some.inj leaves)
      exact owned
    · exact tenancy.leaving one (outside member) id how leaves
  case nested =>
    intro id root
    simp only [withCrew, modifyScope, drained] at root ⊢
    by_cases same : id = scope
    · subst same
      rw [Function.update_self] at root ⊢
      exact tenancy.nested id root
    · rw [Function.update_of_ne same] at root ⊢
      exact tenancy.nested id root

theorem leave (tenancy : picture.Tenancy) (top : picture.crew = activation ::ₘ others) {scope : ScopeId}
    {departure : Departure} (leaving : activation.leaving = some (scope, departure)) :
    ((picture.modifyScope scope (·.close.2)).withCrew ({ activation with
      handles := activation.handles.filter (·.scope ≠ scope), leaving := none } ::ₘ others)).Tenancy := by
  have inside : activation ∈ picture.crew := by rw [top]; exact Multiset.mem_cons_self _ _
  have outside {one : Activation} (member : one ∈ others) : one ∈ picture.crew := by
    rw [top]
    exact Multiset.mem_cons_of_mem member
  obtain ⟨entered, single, elsewhere⟩ :=
    tenancy.alone top (tenancy.leaving activation inside scope departure leaving)
  have ne_of_outside {one : Activation} (member : one ∈ others) {handle : Handle} (has : handle ∈ one.handles) :
      handle.scope ≠ scope := Activation.scope_ne_of_contexts (elsewhere one member) has
  have kept {handle : Handle} (has : handle ∈ activation.handles.filter (·.scope ≠ scope)) :
      handle ∈ activation.handles ∧ handle.scope ≠ scope := by
    simpa only [List.mem_filter, decide_eq_true_eq] using has
  constructor
  case held =>
    intro id
    have held := tenancy.held id
    rw [top] at held
    simp only [withCrew, modifyScope, Multiset.map_cons, Multiset.sum_cons, Activation.contexts,
      List.countP_filter] at held ⊢
    by_cases same : id = scope
    · subst same
      have none_left : (others.map fun one => one.handles.countP (·.scope == id)).sum = 0 :=
        Multiset.sum_eq_zero_iff.mpr fun count member => by
          obtain ⟨one, inside, rfl⟩ := Multiset.mem_map.mp member
          exact elsewhere one inside
      have none_kept : (activation.handles.countP fun handle =>
          (handle.scope == id) && decide (handle.scope ≠ id)) = 0 := by simp
      have closed : (picture.scope id).close.2.isEntered = false := by simp [Scope.isEntered, Scope.close]
      rw [Function.update_self, closed, none_left, none_kept]
      rfl
    · rw [Function.update_of_ne same, ← held]
      congr 1
      refine List.countP_congr fun handle _ => ?_
      simp only [Bool.and_eq_true, beq_iff_eq, decide_eq_true_eq, and_iff_left_iff_imp]
      rintro rfl
      exact same
  case within =>
    intro one member handle has
    simp only [withCrew, modifyScope, Multiset.mem_cons] at member ⊢
    rcases member with rfl | member
    · obtain ⟨has, other⟩ := kept has
      rw [Function.update_of_ne other]
      exact tenancy.within activation inside handle has
    · rw [Function.update_of_ne (ne_of_outside member has)]
      exact tenancy.within one (outside member) handle has
  case state =>
    intro one member handle has
    simp only [withCrew, modifyScope, Multiset.mem_cons] at member ⊢
    rcases member with rfl | member
    · obtain ⟨has, other⟩ := kept has
      have before := tenancy.state activation inside handle has
      rw [Function.update_of_ne other, before]
      simp [Activation.leaves, leaving, Ne.symm other]
    · rw [Function.update_of_ne (ne_of_outside member has)]
      exact tenancy.state one (outside member) handle has
  case leaving =>
    intro one member id how leaves
    simp only [withCrew, Multiset.mem_cons] at member
    rcases member with rfl | member
    · simp at leaves
    · exact tenancy.leaving one (outside member) id how leaves
  case nested =>
    intro id root
    simp only [withCrew, modifyScope] at root ⊢
    by_cases same : id = scope
    · subst same
      rw [Function.update_self] at root ⊢
      exact tenancy.nested id root
    · rw [Function.update_of_ne same] at root ⊢
      exact tenancy.nested id root

/-! ## Every step -/

theorem granted (tenancy : picture.Tenancy) {lease : Lease} (granted : picture.Granted lease after) :
    after.Tenancy := by
  cases granted <;> exact tenancy.of_same (fun _ => ⟨rfl, rfl, rfl⟩) rfl

theorem sent (tenancy : picture.Tenancy) {thread : ThreadId} {lease : Lease} {work : Work}
    (sent : picture.Sent thread lease work after) : after.Tenancy := by
  cases sent with
  | returned saved => exact tenancy.add (fun _ => ⟨rfl, rfl, rfl⟩) rfl rfl rfl
  | begun helper saved => exact tenancy.add (fun _ => ⟨rfl, rfl, rfl⟩) rfl rfl rfl
  | queued => exact tenancy.of_same (fun _ => ⟨rfl, rfl, rfl⟩) rfl

theorem vacated (tenancy : picture.Tenancy) {work : WorkId} (vacated : picture.Vacated work after) :
    after.Tenancy := by
  cases vacated <;> exact tenancy.of_same (fun _ => ⟨rfl, rfl, rfl⟩) rfl

private theorem record_same (scope : Scope) (outcome : Except Failure.TaskError Unit) :
    (scope.record outcome).parent = scope.parent ∧ (scope.record outcome).within = scope.within ∧
      (scope.record outcome).state = scope.state := by
  obtain ⟨_, _, same⟩ := scope.record_rest outcome
  rw [same]
  exact ⟨rfl, rfl, rfl⟩

end Tenancy

theorem Granted.crew_eq {lease : Lease} (granted : picture.Granted lease after) :
    after.crew = picture.crew := by
  cases granted <;> rfl

theorem Quiet.crew_eq (quiet : picture.Quiet after) : after.crew = picture.crew := by
  cases quiet
  rfl

theorem count_sameTenancy (picture : Picture) (work : WorkId) : picture.SameTenancy (picture.count work) := by
  rw [count]
  split
  · have same (scope : Scope) := scope.countOver_eq (picture.work work).unwound
    exact .modifyScope _ (·.countOver (picture.work work).unwound) rfl (by rw [same]) (by rw [same]) (by rw [same])
  · exact fun _ => ⟨rfl, rfl, rfl⟩

theorem count_crew (picture : Picture) (work : WorkId) : (picture.count work).crew = picture.crew := by
  rw [count]
  split <;> rfl

/-- A step keeps every context in one place. An activation is taken away when its work is over only
after it has come to be without contexts, which the rules for running works see to. -/
theorem Tenancy.step (tenancy : picture.Tenancy) {event : Event} (step : picture.Step event after)
    (bare : ∀ activation ∈ picture.crew, ∀ work, activation.role = .work work →
      (picture.work work).phase = .vacated → activation.handles = []) : after.Tenancy := by
  cases step with
  | quiet quiet => exact tenancy.of_same quiet.sameTenancy quiet.crew_eq
  | enter quiet top running fresh =>
    have looked := tenancy.of_same quiet.sameTenancy quiet.crew_eq
    exact looked.enter (quiet.crew_eq.trans top) running.staying fresh
  | drain departure top running owned => exact tenancy.drain top running.staying departure owned
  | leave top leaving => exact tenancy.leave top leaving
  | shift top alike =>
    exact tenancy.replace (fun _ => ⟨rfl, rfl, rfl⟩) top rfl alike.within alike.handles alike.leaving
  | acquire top _ _ _ granted =>
    have leased := tenancy.granted granted
    exact leased.replace (fun _ => ⟨rfl, rfl, rfl⟩) (granted.crew_eq.trans top) rfl rfl rfl rfl
  | dropLease top => exact tenancy.replace (fun _ => ⟨rfl, rfl, rfl⟩) top rfl rfl rfl rfl
  | @passLease activation other others _ name top =>
    let taken := picture.withCrew
      ({ activation with leases := activation.leases.filter (·.1 ≠ name) } ::ₘ other ::ₘ others)
    have took : taken.Tenancy := tenancy.replace (fun _ => ⟨rfl, rfl, rfl⟩) top rfl rfl rfl rfl
    exact took.replace (fun _ => ⟨rfl, rfl, rfl⟩) (Multiset.cons_swap _ _ _) (Multiset.cons_swap _ _ _) rfl rfl rfl
  | @dispatch _ activation others _ name _ top _ _ sent =>
    let taken := picture.withCrew
      ({ activation with leases := activation.leases.filter (·.1 ≠ name) } ::ₘ others)
    have took : taken.Tenancy := tenancy.replace (fun _ => ⟨rfl, rfl, rfl⟩) top rfl rfl rfl rfl
    exact took.sent sent
  | submitCutShort => exact tenancy.of_same (.modifyScope _ Scope.countDispatched rfl rfl rfl rfl) rfl
  | submitInline top =>
    exact tenancy.add (.modifyScope _ (·.countDispatched.countInlined) rfl rfl rfl rfl) rfl rfl rfl
  | @submitPooled _ _ _ _ scope _ _ _ _ _ _ _ granted sent =>
    have counted : (picture.modifyScope scope (·.countDispatched.countPooled)).Tenancy :=
      tenancy.of_same (.modifyScope scope (·.countDispatched.countPooled) rfl rfl rfl rfl) rfl
    exact (counted.granted granted).sent sent
  | free top running role vacated => exact tenancy.vacated vacated
  | @endLogic _ _ _ scope outcome saved top =>
    obtain ⟨parent, within, state⟩ := Tenancy.record_same (picture.scope scope) outcome
    exact tenancy.replace (.modifyScope scope (·.record outcome) rfl parent within state) top rfl rfl rfl rfl
  | @endJob _ activation others _ saved top _ _ _ _ _ vacated =>
    have shifted : (picture.withCrew ({ activation with saved } ::ₘ others)).Tenancy :=
      tenancy.replace (fun _ => ⟨rfl, rfl, rfl⟩) top rfl rfl rfl rfl
    exact (shifted.vacated vacated).of_same (fun _ => ⟨rfl, rfl, rfl⟩) rfl
  | vacate _ vacated => exact (tenancy.vacated vacated).of_same (fun _ => ⟨rfl, rfl, rfl⟩) rfl
  | @complete activation others work top role vacated =>
    have inside : activation ∈ picture.crew := by rw [top]; exact Multiset.mem_cons_self _ _
    have counted := tenancy.of_same (picture.count_sameTenancy work) (picture.count_crew work)
    exact counted.remove (fun _ => ⟨rfl, rfl, rfl⟩) ((picture.count_crew work).trans top)
      (bare activation inside work role vacated)
  | rest => exact tenancy.of_same (fun _ => ⟨rfl, rfl, rfl⟩) rfl
  | next saved => exact tenancy.add (fun _ => ⟨rfl, rfl, rfl⟩) rfl rfl rfl
  | dieAlone => exact tenancy.of_same (fun _ => ⟨rfl, rfl, rfl⟩) rfl
  | die => exact tenancy.of_same (fun _ => ⟨rfl, rfl, rfl⟩) rfl
  | dropPool => exact tenancy.of_same (fun _ => ⟨rfl, rfl, rfl⟩) rfl
  | start => exact tenancy.add (fun _ => ⟨rfl, rfl, rfl⟩) rfl rfl rfl
  | finish top _ bare => exact tenancy.remove (fun _ => ⟨rfl, rfl, rfl⟩) top bare.1

end Picture

end ScopedWork
