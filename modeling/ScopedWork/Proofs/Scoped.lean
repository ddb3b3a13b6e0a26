import ScopedWork.Proofs.Turns

/-! # Runs whose jobs are logics

If no lease is acquired but for a logic, every work is a logic, and it holds its lease until its outcome is
recorded. The contexts of what a thread runs are nested then: to run a logic inline it must have a context, and all
that it enters on top of a logic is entered later than the logic's scope.
-/

namespace ScopedWork

/-- Whether an action handles no lease but a logic's, and starts no thread that a work waits for. -/
def Action.isScoped : Action → Bool
  | .start _ _ joined => !joined
  | action => !action.isDirect

/-- A logic that is not lost and that holds the lease it was sent through until it is about to be over. -/
structure Work.IsTame (work : Work) : Prop where
  logic : work.kind.isLogic = true
  kept : work.phase ≠ .discarded
  leased : work.station ≠ none → work.phase.isSpent = false → work.leased = true

/-! ## Works -/

/-- All of them are. -/
def AreTame (works : List Work) : Prop :=
  ∀ work ∈ works, work.IsTame

namespace AreTame

variable {works : List Work}

theorem modify (tame : AreTame works) {index : Nat} {change : Work → Work}
    (kept : ∀ work, works[index]? = some work → work.IsTame → (change work).IsTame) :
    AreTame (works.modify index change) := by
  intro record member
  obtain ⟨place, found⟩ := List.mem_iff_getElem?.mp member
  rw [List.getElem?_modify] at found
  cases there : works[place]? with
  | none => simp [there] at found
  | some old =>
    have before := tame old (List.mem_of_getElem? there)
    simp only [there, Option.map_eq_map, Option.map_some, Option.some.injEq] at found
    split_ifs at found with here
    · subst here
      exact found ▸ kept old there before
    · exact found ▸ before

/-- A work that begins or ends, and still holds its lease if it needs it. -/
theorem advance (tame : AreTame works) {index : Nat} {change : Work → Work}
    (still : ∀ work, (change work).kind = work.kind ∧ (change work).phase ≠ .discarded)
    (leased : ∀ work, works[index]? = some work → (change work).phase.isSpent = true ∨
      (change work).leased = work.leased ∧ (change work).station = work.station ∧ work.phase.isSpent = false) :
    AreTame (works.modify index change) := by
  refine tame.modify fun work present before => ?_
  refine ⟨by rw [(still work).1]; exact before.logic, (still work).2, fun placed needed => ?_⟩
  rcases leased work present with spent | ⟨same, station, unspent⟩
  · rw [spent] at needed
    exact Bool.noConfusion needed
  · rw [same]
    exact before.leased (station ▸ placed) unspent

theorem append (tame : AreTame works) {work : Work} (new : work.IsTame) : AreTame (works ++ [work]) := by
  intro record member
  rcases List.mem_append.mp member with old | last
  · exact tame record old
  · exact List.mem_singleton.mp last ▸ new

theorem work {system : System} (tame : AreTame system.works) {work : WorkId} (bound : work < system.works.length) :
    (system.work work).IsTame :=
  tame _ (List.mem_of_getElem? (system.works_getElem? bound))

/-- A logic that is submitted has the lease it is sent through, or needs none. -/
theorem submitted {picture after : Picture} {scope : ScopeId} {cut : Bool} (tame : AreTame picture.works)
    (step : picture.Step (.submitted scope cut) after) : AreTame after.works := by
  cases step with
  | submitCutShort => exact tame
  | submitInline => exact tame.append ⟨rfl, WorkPhase.noConfusion, fun placed => absurd rfl placed⟩
  | submitPooled _ _ _ _ granted sent =>
    have same := granted.works_eq
    cases sent with
    | returned | begun | queued =>
      dsimp only [Picture.withCrew, Picture.addWork, Picture.modifyStation]
      rw [same]
      exact tame.append ⟨rfl, WorkPhase.noConfusion, fun _ _ => rfl⟩

end AreTame

namespace System

variable {system after : System} {events : List Event} {action : Action} {thread : ThreadId}
  {activation other : Activation} {outer chain : List Activation}

theorem works_vacate (work : WorkId) :
    (system.vacate work).works = system.works.modify work ({ · with leased := false }) := by
  simp only [vacate]
  split <;> rfl

theorem works_vacateAtEnd (work : WorkId) : (system.vacateAtEnd work).works =
    system.works.modify work ({ · with leased := false, phase := .vacated }) := by
  rw [vacateAtEnd, modifyWork, works_vacate, List.modify_modify_eq]
  rfl

theorem works_complete {work : WorkId} (current : system.currentWork? thread = some work) :
    (system.perform (.complete thread)).works = system.works.modify work ({ · with phase := .over }) := by
  simp only [perform, withCurrentWork, current, Option.elim_some, completeWork]
  split <;> rfl

/-- A helper that turns to its channel changes nothing about the works, or takes the one that waits there. -/
theorem works_next (sound : system.picture.Sound events) {station : Lease}
    (enabled : system.Enabled (.next station)) :
    (system.perform (.next station)).works = system.works ∨
    ∃ helper job next, (system.station station).helper = .busy helper job ∧
      (system.station station).waiting = some next ∧ (system.work next).phase = .waiting ∧
      (system.perform (.next station)).works = system.works.modify next fun work => { work with
        phase := .running, snapshot := none, runs := helper :: work.runs, placement := .helper helper } := by
  obtain ⟨helper, job, busy, -⟩ := hasEnded_cases enabled
  have performed : (system.perform (.next station)).picture.works =
      (system.helperNext helper station).2.picture.works := by
    simp only [perform, withHelper, busy]
  have here := (sound.channels.busy station helper job busy).1
  rcases picture_helperNext busy here with ⟨-, turned⟩ | ⟨next, saved, waiting, turned⟩
  · rw [turned] at performed
    exact .inl performed
  · rw [turned] at performed
    exact .inr ⟨helper, job, next, busy, waiting, (sound.channels.waits station next waiting).phase, performed⟩

/-- Works stay tame as long as no lease is acquired but for a logic. -/
theorem tame_perform (sound : system.picture.Sound events) (enabled : system.Enabled action)
    (plain : action.isScoped = true) (tame : AreTame system.works) : AreTame (system.perform action).works := by
  have same (works : (system.perform action).works = system.works) : AreTame (system.perform action).works := by
    rw [works]
    exact tame
  -- no job has ever been dispatched
  have no_job {work : WorkId} (begun : (system.work work).phase.hasBegun = true)
      (job : (!(system.work work).kind.isLogic) = true) : False := by
    rw [(tame.work (lt_of_hasBegun begun)).logic] at job
    exact Bool.noConfusion job
  cases action with
  | enter thread tenure => exact same (quiet_enclosing thread).works
  | submit thread scope => exact AreTame.submitted tame (step_perform sound enabled)
  | leave thread =>
    obtain ⟨-, -, scope, -, -, -, -, -, -, left⟩ := leave_cases sound enabled
    rw [left]
    exact tame
  | detach thread =>
    refine same ?_
    simp only [perform, detach]
    split <;> rfl
  | endLogic thread outcome =>
    obtain ⟨activation, others, work, top, running, role, current, -⟩ := canEnd_cases enabled
    have phase : (system.work work).phase = .running := running.running work role
    rw [works_endLogic current]
    refine tame.advance (fun _ => ⟨rfl, WorkPhase.noConfusion⟩) fun record present => .inr ⟨rfl, rfl, ?_⟩
    have read : system.work work = record := by rw [System.work, present, Option.getD_some]
    rw [← read, phase]
    rfl
  | endJob thread =>
    obtain ⟨activation, others, work, top, running, role, -, job, -⟩ := canEnd_cases enabled
    refine (no_job ?_ job).elim
    rw [show (system.work work).phase = .running from running.running work role]
    rfl
  | vacate thread =>
    obtain ⟨-, -, work, -, -, current, -⟩ := isEnding_cases enabled
    simp only [perform, withCurrentWork, current, Option.elim_some, works_vacateAtEnd]
    exact tame.advance (fun _ => ⟨rfl, WorkPhase.noConfusion⟩) fun _ _ => .inl rfl
  | complete thread =>
    obtain ⟨-, -, work, -, -, current, -⟩ := isEnding_cases enabled
    rw [works_complete current]
    exact tame.advance (fun _ => ⟨rfl, WorkPhase.noConfusion⟩) fun _ _ => .inl rfl
  | next station =>
    rcases works_next sound enabled with still | ⟨helper, job, next, -, -, read, taken⟩
    · exact same still
    · rw [taken]
      refine tame.advance (fun _ => ⟨rfl, WorkPhase.noConfusion⟩) fun record present => .inr ⟨rfl, rfl, ?_⟩
      have found : system.work next = record := by
        rw [System.work, show system.works[next]? = some record from present, Option.getD_some]
      rw [← found, read]
      rfl
  | die station =>
    obtain ⟨helper, job, busy, ended, job'⟩ := hasEnded_cases enabled
    refine (no_job ?_ job').elim
    rw [ended]
    rfl
  | dropPool pool => exact same (congrArg Picture.works (picture_shutdown enabled.1))
  | acquire | dropLease | passLease | dispatch | free => exact Bool.noConfusion plain
  | enterIn | reduce | beginExit | beginDrop | attach | makePool | bar | makeRoot | makeFactory | reroute | register
  | configure | start | finish => exact same rfl

/-! ## What a thread runs -/

/-- Whether the contexts of what runs inside are of scopes later than that of the logic outside. -/
def Nests (system : System) (inner outer : Activation) : Prop :=
  ∀ work scope, outer.role = .work work → (system.work work).kind = .logic scope →
    ∀ handle ∈ inner.handles, scope < handle.scope

/-- What a thread runs, innermost first: nothing on top of a program without contexts, no program on top of
another, and whatever is entered on top of a logic is later than the scope of the logic. -/
structure Orderly (system : System) (chain : List Activation) : Prop where
  leases : ∀ activation ∈ chain, activation.leases = []
  apart : ∀ activation ∈ chain, activation.role = .program → activation.within = none
  own : ∀ activation ∈ chain, system.Nests activation activation
  stacked : chain.Pairwise fun inner outer => inner.role ≠ .program ∧ outer.handles ≠ [] ∧
    system.Nests inner outer

namespace Orderly

theorem nil (system : System) : system.Orderly [] where
  leases _ member := absurd member List.not_mem_nil
  apart _ member := absurd member List.not_mem_nil
  own _ member := absurd member List.not_mem_nil
  stacked := .nil

/-- A program that has just begun, on a thread that runs nothing else. -/
theorem single (handles : activation.handles = []) (leases : activation.leases = [])
    (apart : activation.role = .program → activation.within = none) : system.Orderly [activation] where
  leases one member := by rw [List.mem_singleton.mp member]; exact leases
  apart one member := by rw [List.mem_singleton.mp member]; exact apart
  own one member := by
    rw [List.mem_singleton.mp member]
    intro work scope role kind handle has
    rw [handles] at has
    exact absurd has List.not_mem_nil
  stacked := List.pairwise_singleton _ _

/-- The innermost activation may leave contexts, and enter those of scopes later than any that the thread runs a
logic of. -/
theorem exchange (orderly : system.Orderly (activation :: outer)) (role : other.role = activation.role)
    (within : other.within = activation.within) (leases : other.leases = activation.leases)
    (handles : ∀ handle ∈ other.handles, handle ∈ activation.handles ∨ ∀ one ∈ activation :: outer,
      ∀ work scope, one.role = .work work → (system.work work).kind = .logic scope → scope < handle.scope) :
    system.Orderly (other :: outer) := by
  have nests {one : Activation} (member : one ∈ activation :: outer) (before : system.Nests activation one) :
      system.Nests other one :=
    fun work scope runs kind handle has => (handles handle has).elim
      (before work scope runs kind handle) fun later => later one member work scope runs kind
  obtain ⟨stacked, rest⟩ := List.pairwise_cons.mp orderly.stacked
  constructor
  case leases =>
    intro one member
    rcases List.mem_cons.mp member with rfl | inside
    · rw [leases]
      exact orderly.leases activation List.mem_cons_self
    · exact orderly.leases one (List.mem_cons_of_mem _ inside)
  case apart =>
    intro one member
    rcases List.mem_cons.mp member with rfl | inside
    · rw [role, within]
      exact orderly.apart activation List.mem_cons_self
    · exact orderly.apart one (List.mem_cons_of_mem _ inside)
  case own =>
    intro one member
    rcases List.mem_cons.mp member with rfl | inside
    · intro work scope runs kind
      exact nests List.mem_cons_self (orderly.own activation List.mem_cons_self) work scope (role ▸ runs) kind
    · exact orderly.own one (List.mem_cons_of_mem _ inside)
  case stacked =>
    refine List.pairwise_cons.mpr ⟨fun one inside => ?_, rest⟩
    obtain ⟨busy, holds, before⟩ := stacked one inside
    exact ⟨role ▸ busy, holds, nests (List.mem_cons_of_mem _ inside) before⟩

/-- A work is begun by a program that has a context. -/
theorem begin (orderly : system.Orderly (activation :: outer)) (owned : activation.handles ≠ []) (work : WorkId)
    (saved : List Stack) : system.Orderly (begun work saved :: activation :: outer) := by
  obtain ⟨stacked, -⟩ := List.pairwise_cons.mp orderly.stacked
  have bare (one : Activation) : system.Nests (begun work saved) one :=
    fun _ _ _ _ handle has => absurd has List.not_mem_nil
  constructor
  case leases => exact List.forall_mem_cons.mpr ⟨rfl, orderly.leases⟩
  case apart => exact List.forall_mem_cons.mpr ⟨fun program => Role.noConfusion program, orderly.apart⟩
  case own => exact List.forall_mem_cons.mpr ⟨bare _, orderly.own⟩
  case stacked =>
    refine List.pairwise_cons.mpr ⟨fun one member => ⟨Role.noConfusion, ?_, bare one⟩, orderly.stacked⟩
    rcases List.mem_cons.mp member with rfl | inside
    · exact owned
    · exact (stacked one inside).2.1

theorem pop (orderly : system.Orderly (activation :: outer)) : system.Orderly outer where
  leases one member := orderly.leases one (List.mem_cons_of_mem _ member)
  apart one member := orderly.apart one (List.mem_cons_of_mem _ member)
  own one member := orderly.own one (List.mem_cons_of_mem _ member)
  stacked := (List.pairwise_cons.mp orderly.stacked).2

/-- Works stay what they were submitted as. -/
theorem of_kinds (orderly : system.Orderly chain) (kinds : ∀ activation ∈ chain, ∀ work,
    activation.role = .work work → (after.work work).kind = (system.work work).kind) : after.Orderly chain where
  leases := orderly.leases
  apart := orderly.apart
  own one member work scope runs kind := orderly.own one member work scope runs (kinds one member work runs ▸ kind)
  stacked := orderly.stacked.imp_of_mem fun {_ one} _ member related => ⟨related.1, related.2.1,
    fun work scope runs kind => related.2.2 work scope runs (kinds one member work runs ▸ kind)⟩

end Orderly

/-- Unless a lease is acquired but for a logic, what a thread runs stays in order. -/
theorem Orderly.perform (orderly : system.Orderly (system.thread thread).activations)
    (sound : system.picture.Sound events) (enabled : system.Enabled action) (plain : action.isScoped = true)
    {stack : Stack} (turn : system.Turn action thread stack chain) : (system.perform action).Orderly chain := by
  have indirect (direct : action.isDirect = true) : False := by
    cases action <;> first | exact Bool.noConfusion direct | exact Bool.noConfusion plain
  have kinds (one : Activation) (member : one ∈ (system.thread thread).activations) (work : WorkId)
      (runs : one.role = .work work) : ((system.perform action).work work).kind = (system.work work).kind := by
    have begun := WorkPhase.hasBegun_of_isActive (isActive_of_mem sound member runs)
    exact ((step_perform sound enabled).continues.kept work (lt_of_hasBegun begun)).kind
  have kept : (system.perform action).Orderly (system.thread thread).activations := orderly.of_kinds kinds
  cases turn with
  | rest => exact kept
  | trade _ direct => exact (indirect direct).elim
  | enter here fresh =>
    rw [here] at kept kinds
    refine kept.exchange rfl rfl rfl fun handle has => ?_
    rcases List.mem_cons.mp has with rfl | before
    · refine .inr fun one member work scope runs kind => Nat.lt_of_lt_of_le ?_ fresh
      exact lt_of_logic sound ((kinds one member work runs).symm.trans kind)
    · exact .inl before
  | wait here | attach here | detach here | close here =>
    rw [here] at kept
    exact kept.exchange rfl rfl rfl fun handle has => .inl has
  | leave here =>
    rw [here] at kept
    exact kept.exchange rfl rfl rfl fun handle has => .inl (List.mem_of_mem_filter has)
  | begin here _ owned =>
    rw [here] at kept
    rcases owned with direct | ⟨rfl, owned⟩
    · exact (indirect direct).elim
    · exact kept.begin owned _ _
  | pop here =>
    rw [here] at kept
    exact kept.pop
  | finish | fade => exact .nil _
  | take => exact .single rfl rfl fun program => Role.noConfusion program
  | start idle starts new apart =>
    subst starts
    exact .single rfl rfl fun _ => apart (by simpa [Action.isScoped] using plain)

end System

/-- A run in which no lease is acquired but for a logic keeps works tame and threads in order. -/
theorem Reaches.orderly {setting : Setting.State} {history : List Moment} {system : System}
    (reached : Reaches (.initial setting) history system)
    (plain : ∀ moment ∈ history, moment.action.isScoped = true) :
    AreTame system.works ∧ ∀ thread, system.Orderly (system.thread thread).activations := by
  induction reached with
  | start =>
    refine ⟨fun work member => absurd member List.not_mem_nil, fun thread => ?_⟩
    cases thread with
    | zero => exact .single rfl rfl fun _ => rfl
    | succ thread => exact .nil _
  | step reached enabled ih =>
    obtain ⟨tame, orderly⟩ := ih fun moment member => plain moment (List.mem_cons_of_mem _ member)
    have here := plain _ List.mem_cons_self
    exact ⟨System.tame_perform reached.sound enabled here tame, fun thread =>
      (orderly thread).perform reached.sound enabled here (reached.turn enabled thread)⟩

end ScopedWork
