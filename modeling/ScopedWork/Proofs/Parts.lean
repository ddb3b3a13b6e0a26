import Mathlib.Logic.Function.Basic
import Mathlib.Data.List.Count
import ScopedWork.System.Machine

/-! # Reading a changed process

Scopes, pools, works and threads are read by number from lists. Here is what is read after one of
them has been changed or added: a change is seen at its own number only, and nothing is seen at a
number that is not in use.
-/

namespace ScopedWork

section Lists

variable {α : Type}

/-- Two changes of an element that agree on it are the same change. -/
theorem modify_congr {change other : α → α} {items : List α} {index : Nat}
    (agree : ∀ item, items[index]? = some item → change item = other item) :
    items.modify index change = items.modify index other := by
  apply List.ext_getElem?
  intro place
  rw [List.getElem?_modify, List.getElem?_modify]
  by_cases same : index = place
  · subst same
    cases found : items[index]? with
    | none => rfl
    | some item => simp only [↓reduceIte, Option.map_eq_map, Option.map_some, agree item found]
  · simp only [if_neg same]

/-- A change of one item, seen through a view of all of them. -/
theorem map_modify_of_comm {β : Type} {view : α → β} {change : α → α} {shown : β → β}
    (comm : ∀ item, view (change item) = shown (view item)) (items : List α) (index : Nat) :
    (items.modify index change).map view = (items.map view).modify index shown := by
  apply List.ext_getElem?
  intro place
  rw [List.getElem?_map, List.getElem?_modify, List.getElem?_modify, List.getElem?_map]
  cases items[place]? with
  | none => rfl
  | some item =>
    split_ifs
    · exact congrArg some (comm item)
    · rfl

/-- A change of the element just added. -/
theorem modify_append_last (items : List α) (added : α) (change : α → α) :
    (items ++ [added]).modify items.length change = items ++ [change added] := by
  induction items with
  | nil => rfl
  | cons item rest ih =>
    simp only [List.cons_append, List.length_cons, List.modify_succ_cons, ih]

/-! ## Counting in a changed list -/

/-- A change of one element moves a count by what the element itself contributes. -/
theorem countP_modify (p : α → Bool) (change : α → α) {items : List α} {index : Nat}
    {item : α} (present : items[index]? = some item) :
    (items.modify index change).countP p + (if p item then 1 else 0) =
      items.countP p + (if p (change item) then 1 else 0) := by
  obtain ⟨bound, rfl⟩ := List.getElem?_eq_some_iff.mp present
  obtain ⟨before, middle, after, split, length, modified⟩ := List.exists_of_modify change bound
  have same : items[index] = middle := by
    simp only [split, List.getElem_append_right (Nat.le_of_eq length), length, Nat.sub_self, List.getElem_cons_zero]
  rw [modified, same, split, List.countP_append, List.countP_append, List.countP_cons, List.countP_cons]
  omega

/-- A change that no element shows leaves a count as it was. -/
theorem countP_modify_same {p : α → Bool} {change : α → α} (items : List α) (index : Nat)
    (same : ∀ item, items[index]? = some item → p (change item) = p item) :
    (items.modify index change).countP p = items.countP p := by
  by_cases bound : index < items.length
  · have moved := countP_modify p change (List.getElem?_eq_getElem bound)
    rw [same _ (List.getElem?_eq_getElem bound)] at moved
    omega
  · rw [List.modify_eq_self (Nat.le_of_not_lt bound)]

/-- An element that only the weaker of two conditions accepts sets their counts apart. -/
theorem countP_lt_countP {p q : α → Bool} {items : List α} {index : Nat} {item : α}
    (present : items[index]? = some item) (weaker : ∀ item, p item → q item) (accepted : q item)
    (refused : p item = false) : items.countP p < items.countP q := by
  obtain ⟨bound, rfl⟩ := List.getElem?_eq_some_iff.mp present
  obtain ⟨before, middle, after, split, length, -⟩ := List.exists_of_modify id bound
  have same : items[index] = middle := by
    simp only [split, List.getElem_append_right (Nat.le_of_eq length), length, Nat.sub_self, List.getElem_cons_zero]
  rw [same] at accepted refused
  have left : before.countP p ≤ before.countP q := List.countP_mono_left fun item _ => weaker item
  have right : after.countP p ≤ after.countP q := List.countP_mono_left fun item _ => weaker item
  rw [split, List.countP_append, List.countP_append, List.countP_cons, List.countP_cons]
  simp only [accepted, refused, ↓reduceIte, Bool.false_eq_true]
  omega

/-- Two elements at different places are counted twice. -/
theorem two_le_countP {p : α → Bool} {items : List α} {index other : Nat} {first second : α} (ne : index ≠ other)
    (here : items[index]? = some first) (there : items[other]? = some second) (left : p first) (right : p second) :
    2 ≤ items.countP p := by
  induction items generalizing index other with
  | nil => simp at here
  | cons item rest ih =>
    rw [List.countP_cons]
    have one {place : Nat} {found : α} (present : rest[place]? = some found) (accepted : p found) :
      1 ≤ rest.countP p :=
      List.countP_pos_iff.mpr ⟨found, List.mem_of_getElem? present, accepted⟩
    match index, other with
    | 0, 0 => exact absurd rfl ne
    | 0, other + 1 =>
      obtain rfl := Option.some.inj here
      rw [if_pos left]
      exact Nat.succ_le_succ (one there right)
    | index + 1, 0 =>
      obtain rfl := Option.some.inj there
      rw [if_pos right]
      exact Nat.succ_le_succ (one here left)
    | index + 1, other + 1 =>
      exact Nat.le_add_right_of_le (ih (fun same => ne (congrArg Nat.succ same)) here there)

/-- A condition that splits into two that exclude each other splits a count. -/
theorem countP_split {p q r : α → Bool} {items : List α}
    (split : ∀ item ∈ items, (p item).toNat = (q item).toNat + (r item).toNat) :
    items.countP p = items.countP q + items.countP r := by
  induction items with
  | nil => rfl
  | cons item rest ih =>
    have here := split item List.mem_cons_self
    have ih := ih fun other member => split other (List.mem_cons_of_mem _ member)
    have one (accepted : Bool) : (if accepted then 1 else 0) = accepted.toNat := by cases accepted <;> rfl
    rw [List.countP_cons, List.countP_cons, List.countP_cons, ih, one, one, one]
    omega

/-! ## Reading by number -/

variable [Inhabited α]

theorem read_modify (items : List α) (index other : Nat) (change : α → α) :
    (items.modify index change)[other]?.getD default =
      if other = index ∧ index < items.length then change (items[other]?.getD default)
      else items[other]?.getD default := by
  rw [List.getElem?_modify]
  by_cases same : index = other
  · subst same
    by_cases bound : index < items.length <;> simp [bound]
  · simp [same, Ne.symm same]

theorem read_append (items : List α) (added : α) (other : Nat) :
    (items ++ [added])[other]?.getD default =
      if other = items.length then added else items[other]?.getD default := by
  rw [List.getElem?_append]
  split_ifs with bound last last
  · omega
  · rfl
  · simp [last]
  · have beyond : items.length + 1 ≤ other := by omega
    rw [List.getElem?_eq_none (by simp only [List.length_singleton]; omega),
      List.getElem?_eq_none (by omega)]

end Lists

namespace System

variable (system : System)

theorem scope_of_not_lt {id : ScopeId} (beyond : ¬ id < system.scopes.length) :
    system.scope id = default := by
  rw [scope, List.getElem?_eq_none (Nat.le_of_not_lt beyond), Option.getD_none]

theorem scope_modifyScope (id other : ScopeId) (change : Scope → Scope) :
    (system.modifyScope id change).scope other =
      if other = id ∧ id < system.scopes.length then change (system.scope other)
      else system.scope other :=
  read_modify system.scopes id other change

theorem scope_addScope (scope : Scope) (other : ScopeId) :
    (system.addScope scope).2.scope other =
      if other = system.scopes.length then scope else system.scope other :=
  read_append system.scopes scope other

theorem works_getElem? {id : WorkId} (bound : id < system.works.length) :
    system.works[id]? = some (system.work id) := by
  rw [work, List.getElem?_eq_getElem bound, Option.getD_some]

theorem work_of_not_lt {id : WorkId} (beyond : ¬ id < system.works.length) :
    system.work id = default := by
  rw [work, List.getElem?_eq_none (Nat.le_of_not_lt beyond), Option.getD_none]

/-- What is not true of a work that is not there tells that a work is there. -/
theorem lt_of_work {system : System} {p : Work → Prop} {id : WorkId} (holds : p (system.work id))
    (bare : ¬ p default) :
    id < system.works.length := by
  by_contra beyond
  rw [work_of_not_lt system beyond] at holds
  exact bare holds

theorem lt_of_kind {system : System} {id : WorkId} {scope : ScopeId} (kind : (system.work id).kind = .logic scope) :
    id < system.works.length :=
  lt_of_work (p := fun work => work.kind = .logic scope) kind WorkKind.noConfusion

theorem work_modifyWork (id other : WorkId) (change : Work → Work) :
    (system.modifyWork id change).work other =
      if other = id ∧ id < system.works.length then change (system.work other)
      else system.work other :=
  read_modify system.works id other change

theorem work_of_append {system after : System} {work : Work}
    (added : after.works = system.works ++ [work]) (other : WorkId) :
    after.work other = if other = system.works.length then work else system.work other := by
  rw [System.work, added]
  exact read_append system.works work other

theorem pool_modifyPool (id other : PoolId) (change : Pool WorkId → Pool WorkId) :
    (system.modifyPool id change).pool other =
      if other = id ∧ id < system.pools.length then change (system.pool other)
      else system.pool other :=
  read_modify system.pools id other change

theorem pool_addPool (pool : Pool WorkId) (other : PoolId) :
    (system.addPool pool).2.pool other =
      if other = system.pools.length then pool else system.pool other :=
  read_append system.pools pool other

theorem thread_modifyThread (id other : ThreadId) (change : Thread → Thread) :
    (system.modifyThread id change).thread other =
      if other = id ∧ id < system.threads.length then change (system.thread other)
      else system.thread other :=
  read_modify system.threads id other change

end System

end ScopedWork
