import ScopedWork.Proofs.Tenancy

/-! # Works and those who run them

A work that has begun and is not over is run by exactly one activation. Whatever runs on behalf of a
work runs while its program does: when the program ends, the threads that were started for it are over
and its own activation has no context left. So nothing is left behind by a work that is over.
-/

namespace ScopedWork

/-- An activation that has neither contexts nor leases, and so leaves no context either. -/
structure Activation.IsBare (activation : Activation) : Prop where
  handles : activation.handles = []
  leases : activation.leases = []
  leaving : activation.leaving = none

theorem Activation.IsBare.take {activation : Activation} {name : String} (bare : activation.IsBare) :
    { activation with leases := activation.leases.filter (·.1 ≠ name) }.IsBare where
  handles := bare.handles
  leases := by rw [bare.leases]; rfl
  leaving := bare.leaving

namespace Picture

variable {picture after : Picture} {activation other : Activation} {others : Multiset Activation}
  {id : WorkId} {saved : List Stack}

/-- Every active work is run once, and what runs on its behalf is over when its program is. -/
structure Running (picture : Picture) : Prop where
  single : ∀ work, picture.crew.countP (·.role = .work work) = (picture.work work).phase.isActive.toNat
  own : ∀ activation ∈ picture.crew, ∀ work, activation.role = .work work → activation.within = some work
  inside : ∀ activation ∈ picture.crew, ∀ work, activation.within = some work →
    (picture.work work).phase = .running ∨
      activation.role = .work work ∧ activation.IsBare ∧ (picture.work work).phase.isActive = true

namespace Running

/-- An activation in the midst of its program runs on behalf of a work whose program has not ended. -/
theorem of_isRunning (running : picture.Running) (member : activation ∈ picture.crew)
    (busy : picture.IsRunning activation) {work : WorkId} (within : activation.within = some work) :
    (picture.work work).phase = .running := by
  rcases running.inside activation member work within with phase | ⟨role, -⟩
  · exact phase
  · exact busy.running work role

/-- An activation that leaves a context has not come to the end of its program. -/
theorem of_leaving (running : picture.Running) (member : activation ∈ picture.crew)
    (leaves : activation.leaving ≠ none) {work : WorkId} (within : activation.within = some work) :
    (picture.work work).phase = .running := by
  rcases running.inside activation member work within with phase | ⟨-, bare, -⟩
  · exact phase
  · exact (leaves bare.leaving).elim

/-- The activation of a work whose program has ended is bare. -/
theorem bare (running : picture.Running) (member : activation ∈ picture.crew) {work : WorkId}
    (role : activation.role = .work work) (ended : (picture.work work).phase ≠ .running) :
    activation.IsBare := by
  rcases running.inside activation member work (running.own activation member work role) with
    phase | ⟨-, bare, -⟩
  · exact (ended phase).elim
  · exact bare

/-- The activation of an active work is the only one. -/
theorem alone (running : picture.Running) (top : picture.crew = activation ::ₘ others) {work : WorkId}
    (role : activation.role = .work work) :
    (picture.work work).phase.isActive = true ∧ ∀ other ∈ others, other.role ≠ .work work := by
  have single := running.single work
  rw [top, Multiset.countP_cons, if_pos role] at single
  have active : (picture.work work).phase.isActive = true := by
    by_contra idle
    rw [Bool.not_eq_true] at idle
    rw [idle, Bool.toNat_false] at single
    omega
  rw [active, Bool.toNat_true] at single
  refine ⟨active, fun other member same => ?_⟩
  have some : 0 < others.countP (·.role = .work work) := Multiset.countP_pos.mpr ⟨other, member, same⟩
  omega

/-- The innermost activation may be exchanged for one that runs the same, if it also has the same
contexts and leases or is not near its end. -/
theorem replace (running : picture.Running)
    (same : ∀ work, (after.work work).phase = (picture.work work).phase)
    (before : picture.crew = activation ::ₘ others) (later : after.crew = other ::ₘ others)
    (role : other.role = activation.role) (within : other.within = activation.within)
    (contexts : (activation.IsBare → other.IsBare) ∨
      ∀ work, activation.within = some work → (picture.work work).phase = .running) : after.Running := by
  have here : activation ∈ picture.crew := by rw [before]; exact Multiset.mem_cons_self _ _
  have there {one : Activation} (member : one ∈ others) : one ∈ picture.crew := by
    rw [before]
    exact Multiset.mem_cons_of_mem member
  constructor
  case single =>
    intro work
    rw [same, ← running.single, before, later, Multiset.countP_cons, Multiset.countP_cons, role]
  case own =>
    intro one member work runs
    rw [later, Multiset.mem_cons] at member
    rcases member with rfl | member
    · rw [within]
      exact running.own activation here work (role ▸ runs)
    · exact running.own one (there member) work runs
  case inside =>
    intro one member work behalf
    rw [same]
    rw [later, Multiset.mem_cons] at member
    rcases member with rfl | member
    · rw [within] at behalf
      rcases contexts with bare | busy
      · rw [role]
        exact (running.inside activation here work behalf).imp_right fun ⟨runs, still, active⟩ =>
          ⟨runs, bare still, active⟩
      · exact .inl (busy work behalf)
    · exact running.inside one (there member) work behalf

/-- Works that stay active, or stay idle, may otherwise change. -/
theorem of_same (running : picture.Running) (crew : after.crew = picture.crew)
    (same : ∀ work, (after.work work).phase = (picture.work work).phase ∨
      (picture.work work).phase.isActive = false ∧ (after.work work).phase.isActive = false) :
    after.Running where
  single work := by
    rw [crew, running.single]
    rcases same work with phase | ⟨before, later⟩
    · rw [phase]
    · rw [before, later]
  own := by rw [crew]; exact running.own
  inside := by
    intro one member work behalf
    rw [crew] at member
    have known := running.inside one member work behalf
    rcases same work with phase | ⟨idle, -⟩
    · rw [phase]
      exact known
    · rcases known with phase | ⟨-, -, active⟩
      · rw [phase] at idle
        exact absurd idle (by decide)
      · rw [idle] at active
        exact absurd active (by decide)

/-- A work that was idle begins. -/
theorem begin (running : picture.Running) (crew : after.crew = begun id saved ::ₘ picture.crew)
    (idle : (picture.work id).phase.isActive = false) (begins : (after.work id).phase = .running)
    (same : ∀ work, work ≠ id → (after.work work).phase = (picture.work work).phase) : after.Running := by
  constructor
  case single =>
    intro work
    by_cases this : work = id
    · subst this
      have none_yet := running.single work
      rw [idle, Bool.toNat_false] at none_yet
      have runs : (begun work saved).role = .work work := rfl
      rw [crew, begins, Multiset.countP_cons, if_pos runs, none_yet]
      rfl
    · have other : (begun id saved).role ≠ .work work := fun same => this (Role.work.inj same).symm
      rw [crew, same work this, Multiset.countP_cons, if_neg other, running.single]
      rfl
  case own =>
    intro one member work runs
    rw [crew, Multiset.mem_cons] at member
    rcases member with rfl | member
    · rw [← Role.work.inj runs]
      rfl
    · exact running.own one member work runs
  case inside =>
    intro one member work behalf
    rw [crew, Multiset.mem_cons] at member
    rcases member with rfl | member
    · obtain rfl : id = work := Option.some.inj behalf
      exact .inl begins
    · have known := running.inside one member work behalf
      have ne : work ≠ id := by
        rintro rfl
        rcases known with phase | ⟨-, -, active⟩
        · rw [phase] at idle
          exact absurd idle (by decide)
        · rw [idle] at active
          exact absurd active (by decide)
      rw [same work ne]
      exact known

/-- A work comes nearer to its end; what runs on its behalf is its own activation, without contexts. -/
theorem advance (running : picture.Running) (crew : after.crew = picture.crew)
    (active : (picture.work id).phase.isActive = true) (still : (after.work id).phase.isActive = true)
    (same : ∀ work, work ≠ id → (after.work work).phase = (picture.work work).phase)
    (bare : ∀ one ∈ picture.crew, one.within = some id →
      one.role = .work id ∧ one.IsBare) : after.Running := by
  constructor
  case single =>
    intro work
    rw [crew, running.single]
    by_cases this : work = id
    · rw [this, active, still]
    · rw [same work this]
  case own =>
    rw [crew]
    exact running.own
  case inside =>
    intro one member work behalf
    rw [crew] at member
    by_cases this : work = id
    · subst this
      obtain ⟨role, bare⟩ := bare one member behalf
      exact .inr ⟨role, bare, still⟩
    · rw [same work this]
      exact running.inside one member work behalf

/-- A work is over, and its activation is taken away. -/
theorem finish (running : picture.Running) (before : picture.crew = activation ::ₘ after.crew)
    (role : activation.role = .work id) (ended : (picture.work id).phase ≠ .running)
    (finished : (after.work id).phase.isActive = false)
    (same : ∀ work, work ≠ id → (after.work work).phase = (picture.work work).phase) : after.Running := by
  obtain ⟨active, elsewhere⟩ := running.alone before role
  have there {one : Activation} (member : one ∈ after.crew) : one ∈ picture.crew := by
    rw [before]
    exact Multiset.mem_cons_of_mem member
  constructor
  case single =>
    intro work
    by_cases this : work = id
    · subst this
      rw [finished, Multiset.countP_eq_zero.mpr fun one member => elsewhere one member]
      rfl
    · have single := running.single work
      have other : activation.role ≠ .work work := by
        rw [role]
        exact fun same => this (Role.work.inj same).symm
      rw [before, Multiset.countP_cons, if_neg other] at single
      rw [same work this, ← single]
      rfl
  case own =>
    intro one member work runs
    exact running.own one (there member) work runs
  case inside =>
    intro one member work behalf
    have known := running.inside one (there member) work behalf
    have ne : work ≠ id := by
      rintro rfl
      rcases known with phase | ⟨runs, -⟩
      · exact ended phase
      · exact elsewhere one member runs
    rw [same work ne]
    exact known

/-- When a program can end, nothing but its own bare activation runs on behalf of its work. -/
theorem ending (running : picture.Running) (top : picture.crew = activation ::ₘ others)
    (busy : picture.IsRunning activation) (role : activation.role = .work id)
    (bare : activation.handles = [] ∧ activation.leases = [])
    (joined : ∀ one ∈ picture.crew, one.within = some id → one.role = .work id) :
    ∀ one ∈ { activation with saved } ::ₘ others, one.within = some id →
      one.role = .work id ∧ one.IsBare := by
  intro one member within
  rcases Multiset.mem_cons.mp member with rfl | member
  · exact ⟨role, bare.1, bare.2, busy.staying⟩
  · have inside : one ∈ picture.crew := by rw [top]; exact Multiset.mem_cons_of_mem member
    exact ((running.alone top role).2 one member (joined one inside within)).elim

/-- A program of its own may come and go; while it goes on, so does the work it runs on behalf of. -/
theorem program (running : picture.Running) (same : after.works = picture.works)
    (crew : after.crew = activation ::ₘ picture.crew ∧ (∀ work, activation.within = some work →
        (picture.work work).phase = .running) ∨
      picture.crew = activation ::ₘ after.crew) (role : activation.role = .program) : after.Running := by
  have phase (work : WorkId) : (after.work work).phase = (picture.work work).phase := by
    rw [Picture.work, Picture.work, same]
  have other (work : WorkId) : activation.role ≠ .work work := by rw [role]; exact Role.noConfusion
  rcases crew with ⟨more, busy⟩ | less
  · constructor
    case single =>
      intro work
      rw [more, phase, ← running.single, Multiset.countP_cons, if_neg (other work)]
      rfl
    case own =>
      intro one member work runs
      rw [more, Multiset.mem_cons] at member
      rcases member with rfl | member
      · exact (other work runs).elim
      · exact running.own one member work runs
    case inside =>
      intro one member work behalf
      rw [phase]
      rw [more, Multiset.mem_cons] at member
      rcases member with rfl | member
      · exact .inl (busy work behalf)
      · exact running.inside one member work behalf
  · have there {one : Activation} (member : one ∈ after.crew) : one ∈ picture.crew := by
      rw [less]
      exact Multiset.mem_cons_of_mem member
    constructor
    case single =>
      intro work
      rw [phase, ← running.single, less, Multiset.countP_cons, if_neg (other work)]
      rfl
    case own => exact fun one member => running.own one (there member)
    case inside =>
      intro one member work behalf
      rw [phase]
      exact running.inside one (there member) work behalf

/-! ## Every step -/

end Running

theorem Quiet.work_eq (quiet : picture.Quiet after) (work : WorkId) : after.work work = picture.work work := by
  cases quiet
  rfl

theorem Granted.work_eq {lease : Lease} (granted : picture.Granted lease after) (work : WorkId) :
    after.work work = picture.work work := by
  cases granted <;> rfl

theorem Vacated.crew_eq (vacated : picture.Vacated id after) : after.crew = picture.crew := by
  cases vacated <;> rfl

theorem Vacated.works_eq (vacated : picture.Vacated id after) :
    after.works = picture.works.modify id ({ · with leased := false }) := by
  cases vacated <;> rfl

theorem Vacated.phase (vacated : picture.Vacated id after) (work : WorkId) :
    (after.work work).phase = (picture.work work).phase := by
  have same : after.work work = (picture.modifyWork id ({ · with leased := false })).work work := by
    rw [Picture.work, Picture.work, vacated.works_eq]
    rfl
  rw [same, work_modifyWork]
  split <;> rfl

theorem count_work (picture : Picture) (id work : WorkId) : (picture.count id).work work = picture.work work := by
  rw [count]
  split <;> rfl

/-- A change of one work that gives it a phase. -/
private theorem phase_modifyWork (picture : Picture) (change : Work → Work) {phase : WorkPhase}
    (bound : id < picture.works.length) (changed : ∀ work, (change work).phase = phase) :
    ((picture.modifyWork id change).work id).phase = phase ∧
      ∀ work, work ≠ id → ((picture.modifyWork id change).work work).phase = (picture.work work).phase := by
  refine ⟨?_, fun work ne => ?_⟩
  · rw [work_modifyWork, if_pos ⟨rfl, bound⟩, changed]
  · rw [work_modifyWork, if_neg fun both => ne both.1]

/-- Only works in use have left the phase in which works begin. -/
theorem lt_of_phase (begun : (picture.work id).phase ≠ .waiting) : id < picture.works.length := by
  by_contra beyond
  rw [work_of_not_lt beyond] at begun
  exact begun rfl

theorem Running.sent (running : picture.Running) {thread : ThreadId} {lease : Lease} {work : Work}
    (waiting : work.phase = .waiting) (sent : picture.Sent thread lease work after) : after.Running := by
  have idle : (picture.work picture.works.length).phase = .waiting := by
    rw [work_of_not_lt (Nat.lt_irrefl _)]
    rfl
  have new (work : Work) : ((picture.addWork work).work picture.works.length).phase = work.phase := by
    rw [work_addWork, if_pos rfl]
  have old (work : Work) (other : WorkId) (ne : other ≠ picture.works.length) :
      ((picture.addWork work).work other).phase = (picture.work other).phase := by
    rw [work_addWork, if_neg ne]
  cases sent with
  | returned saved => exact running.begin rfl (by rw [idle]; rfl) (new _) (old _)
  | begun helper saved => exact running.begin rfl (by rw [idle]; rfl) (new _) (old _)
  | queued =>
    refine running.of_same rfl fun other => .inl ?_
    by_cases last : other = picture.works.length
    · subst last
      exact (new _).trans (waiting.trans idle.symm)
    · exact old _ other last

/-- A work that has ended its program and gives its lease up is still to be counted. -/
theorem Running.vacate (running : picture.Running) (active : (picture.work id).phase.isActive = true)
    (vacated : picture.Vacated id after)
    (bare : ∀ one ∈ picture.crew, one.within = some id →
      one.role = .work id ∧ one.IsBare) :
    (after.modifyWork id ({ · with phase := .vacated })).Running := by
  have middle : after.Running := running.of_same vacated.crew_eq fun work => .inl (vacated.phase work)
  have bound : id < after.works.length := by
    refine lt_of_phase fun waiting => ?_
    rw [← vacated.phase, waiting] at active
    exact absurd active (by decide)
  obtain ⟨this, rest⟩ := phase_modifyWork after (fun work => { work with phase := .vacated }) bound fun _ => rfl
  refine middle.advance rfl (by rw [vacated.phase]; exact active) (by rw [this]; rfl) rest ?_
  rw [vacated.crew_eq]
  exact bare

theorem Running.step (running : picture.Running) {event : Event} (step : picture.Step event after) :
    after.Running := by
  cases step with
  | quiet quiet => exact running.of_same quiet.crew_eq fun work => .inl (by rw [quiet.work_eq])
  | enter quiet top busy fresh =>
    refine running.replace (fun work => ?_) top rfl rfl rfl
      (.inr fun work => running.of_isRunning (by rw [top]; exact Multiset.mem_cons_self _ _) busy)
    exact congrArg Work.phase (quiet.work_eq work)
  | drain departure top busy owned =>
    exact running.replace (fun _ => rfl) top rfl rfl rfl
      (.inr fun work => running.of_isRunning (by rw [top]; exact Multiset.mem_cons_self _ _) busy)
  | leave top leaving =>
    exact running.replace (fun _ => rfl) top rfl rfl rfl
      (.inr fun work => running.of_leaving (by rw [top]; exact Multiset.mem_cons_self _ _) (by simp [leaving]))
  | shift top alike =>
    exact running.replace (fun _ => rfl) top rfl alike.role alike.within (.inl fun bare =>
      ⟨alike.handles.trans bare.handles, alike.leases.trans bare.leases, alike.leaving.trans bare.leaving⟩)
  | acquire top busy _ _ granted =>
    refine running.replace (fun work => ?_) top rfl rfl rfl
      (.inr fun work => running.of_isRunning (by rw [top]; exact Multiset.mem_cons_self _ _) busy)
    exact congrArg Work.phase (granted.work_eq work)
  | dropLease top => exact running.replace (fun _ => rfl) top rfl rfl rfl (.inl Activation.IsBare.take)
  | @passLease activation other others _ name top _ busy =>
    let taken := picture.withCrew
      ({ activation with leases := activation.leases.filter (·.1 ≠ name) } ::ₘ other ::ₘ others)
    have took : taken.Running := running.replace (fun _ => rfl) top rfl rfl rfl (.inl Activation.IsBare.take)
    have swapped : taken.crew = other ::ₘ _ := Multiset.cons_swap _ _ _
    exact took.replace (fun _ => rfl) swapped (Multiset.cons_swap _ _ _) rfl rfl
      (.inr fun work => took.of_isRunning (by rw [swapped]; exact Multiset.mem_cons_self _ _)
        ⟨busy.staying, busy.running⟩)
  | @dispatch _ activation others _ name _ top _ _ sent =>
    let taken := picture.withCrew
      ({ activation with leases := activation.leases.filter (·.1 ≠ name) } ::ₘ others)
    have took : taken.Running := running.replace (fun _ => rfl) top rfl rfl rfl (.inl Activation.IsBare.take)
    exact took.sent rfl sent
  | submitCutShort => exact running.of_same rfl fun _ => .inl rfl
  | submitInline top =>
    refine running.begin rfl ?_ ?_ fun work ne => ?_
    · rw [work_of_not_lt (Nat.lt_irrefl _)]
      rfl
    · exact congrArg Work.phase ((work_addWork picture _ _).trans (if_pos rfl))
    · exact congrArg Work.phase ((work_addWork picture _ _).trans (if_neg ne))
  | @submitPooled _ _ _ _ scope _ _ _ _ _ _ _ granted sent =>
    have counted : (picture.modifyScope scope (·.countDispatched.countPooled)).Running :=
      running.of_same rfl fun _ => .inl rfl
    have leased := counted.of_same granted.crew_eq fun work => .inl (by rw [granted.work_eq])
    exact leased.sent rfl sent
  | free top busy role vacated =>
    exact running.of_same vacated.crew_eq fun work => .inl (vacated.phase work)
  | @endLogic activation others work scope outcome saved top busy role kind bare joined =>
    let shifted := picture.withCrew ({ activation with saved } ::ₘ others)
    have shift : shifted.Running := running.replace (fun _ => rfl) top rfl rfl rfl
      (.inl fun bare => ⟨bare.handles, bare.leases, bare.leaving⟩)
    have phase := busy.running work role
    obtain ⟨this, rest⟩ := phase_modifyWork picture
      (fun work => { work with
        phase := .recorded, failed := !outcome.isOk, unwound := (picture.scope scope).unwindsOn outcome })
      (lt_of_phase (by rw [phase]; simp)) fun _ => rfl
    exact shift.advance rfl (congrArg WorkPhase.isActive phase) (congrArg WorkPhase.isActive this) rest
      (running.ending top busy role bare joined)
  | @endJob _ activation others work saved top busy role kind bare joined vacated =>
    let shifted := picture.withCrew ({ activation with saved } ::ₘ others)
    have shift : shifted.Running := running.replace (fun _ => rfl) top rfl rfl rfl
      (.inl fun bare => ⟨bare.handles, bare.leases, bare.leaving⟩)
    exact shift.vacate (congrArg WorkPhase.isActive (busy.running work role)) vacated
      (running.ending top busy role bare joined)
  | vacate recorded vacated =>
    refine running.vacate (by rw [recorded]; rfl) vacated fun one member within => ?_
    rcases running.inside one member _ within with phase | ⟨role, bare, -⟩
    · rw [recorded] at phase
      exact absurd phase (by decide)
    · exact ⟨role, bare⟩
  | @complete activation others work top role vacated =>
    let counted := picture.count work
    have count : counted.Running := running.of_same (picture.count_crew work) fun id =>
      .inl (congrArg Work.phase (picture.count_work work id))
    have phase : (counted.work work).phase = .vacated := by rw [picture.count_work, vacated]
    obtain ⟨this, rest⟩ := phase_modifyWork counted (fun work => { work with phase := .over })
      (lt_of_phase (by rw [phase]; simp)) fun _ => rfl
    exact count.finish ((picture.count_crew work).trans top) role (by rw [phase]; simp)
      (congrArg WorkPhase.isActive this) rest
  | rest => exact running.of_same rfl fun _ => .inl rfl
  | @next _ helper _ next saved busy finished waiting =>
    obtain ⟨this, others⟩ := phase_modifyWork picture (fun work => { work with
      phase := .running, snapshot := none, runs := helper :: work.runs, placement := .helper helper })
      waiting.bound fun _ => rfl
    exact running.begin rfl (by rw [waiting.phase]; rfl) this others
  | dieAlone => exact running.of_same rfl fun _ => .inl rfl
  | @die _ _ _ lost busy finished waiting =>
    obtain ⟨this, others⟩ := phase_modifyWork picture (fun work => { work with
      leased := false, phase := .discarded, snapshot := none }) waiting.bound fun _ => rfl
    refine running.of_same rfl fun work => ?_
    by_cases same : work = lost
    · subst same
      exact .inr ⟨by rw [waiting.phase]; rfl, congrArg WorkPhase.isActive this⟩
    · exact .inl (others work same)
  | dropPool => exact running.of_same rfl fun _ => .inl rfl
  | @start activation others within top busy inside =>
    refine running.program rfl (.inl ⟨rfl, fun work behalf => ?_⟩) rfl
    rcases inside with rfl | rfl
    · exact absurd behalf (by simp)
    · exact running.of_isRunning (by rw [top]; exact Multiset.mem_cons_self _ _) busy behalf
  | finish top busy bare role => exact running.program rfl (.inr top) role

end Picture

end ScopedWork
