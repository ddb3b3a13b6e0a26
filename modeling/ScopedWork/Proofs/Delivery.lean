import ScopedWork.Proofs.Simulation

/-! # What becomes of a work that is sent through a lease

The helper of the slot begins it, or else the thread that sent it, and nobody begins it again. A slot
whose lease was given up early is leased anew while its helper is still at work, so that the next job
waits in the channel. There it is lost if the helper dies, and only there.
-/

namespace ScopedWork

/-- Whether a work was lost in the course of a run: the helper in whose channel it waited died. -/
def HasBeenLost (history : List Moment) (work : WorkId) : Prop :=
  ∃ moment ∈ history, ∃ station, moment.action = .die station ∧
    (moment.before.station station).waiting = some work

theorem HasBeenLost.iff_event {history : List Moment} {work : WorkId} :
    HasBeenLost history work ↔ .died (some work) ∈ history.map Moment.event := by
  rw [List.mem_map]
  constructor
  · rintro ⟨⟨before, action⟩, member, station, rfl, waiting⟩
    exact ⟨_, member, by simp only [Moment.event, waiting]⟩
  · rintro ⟨⟨before, action⟩, member, event⟩
    cases action with
    | die station => exact ⟨_, member, station, rfl, Event.died.inj event⟩
    | leave thread =>
      simp only [Moment.event] at event
      split at event <;> exact Event.noConfusion event
    | _ => exact Event.noConfusion event

namespace Picture

variable {picture after : Picture} {event : Event} {id : WorkId}

/-- A work is discarded by a step if it was before, or if a helper dies with it. -/
private theorem discarded_of_same (silent : ∀ lost, event ≠ .died (some lost))
    (same : (after.work id).phase = .discarded ↔ (picture.work id).phase = .discarded) :
    (after.work id).phase = .discarded ↔ (picture.work id).phase = .discarded ∨ event = .died (some id) := by
  rw [same, or_iff_left (silent id)]

/-- A change of a work that neither was discarded nor is. -/
private theorem discarded_modify {change : Work → Work} {target : WorkId}
    (works : after.works = picture.works.modify target change) (before : (picture.work target).phase ≠ .discarded)
    (later : (change (picture.work target)).phase ≠ .discarded) :
    (after.work id).phase = .discarded ↔ (picture.work id).phase = .discarded := by
  have read : after.work id = (picture.modifyWork target change).work id := by
    rw [Picture.work, works]
    rfl
  rw [read, work_modifyWork]
  split_ifs with here
  · obtain ⟨rfl, -⟩ := here
    exact iff_of_false later before
  · rfl

private theorem discarded_added {added : Work} (works : after.works = picture.works ++ [added])
    (fresh : added.phase ≠ .discarded) :
    (after.work id).phase = .discarded ↔ (picture.work id).phase = .discarded := by
  have read : after.work id = (picture.addWork added).work id := by
    rw [Picture.work, works]
    rfl
  rw [read, work_addWork]
  split_ifs with last
  · rw [last, work_of_not_lt (Nat.lt_irrefl _)]
    exact iff_of_false fresh (by decide)
  · rfl

/-- A work that is sent is not lost on the way. -/
private theorem discarded_sent {thread : ThreadId} {lease : Lease} {work : Work}
    (sent : picture.Sent thread lease work after) (waiting : work.phase = .waiting) :
    (after.work id).phase = .discarded ↔ (picture.work id).phase = .discarded := by
  obtain ⟨-, added, works, -, early⟩ := sent.added waiting
  exact discarded_added works (by rcases early with phase | phase <;> rw [phase] <;> exact WorkPhase.noConfusion)

theorem Step.discarded (step : picture.Step event after) (id : WorkId) :
    (after.work id).phase = .discarded ↔ (picture.work id).phase = .discarded ∨ event = .died (some id) := by
  have kept (works : after.works = picture.works) (silent : ∀ lost, event ≠ .died (some lost)) :
      (after.work id).phase = .discarded ↔ (picture.work id).phase = .discarded ∨ event = .died (some id) :=
    discarded_of_same silent (by rw [Picture.work, works]; rfl)
  cases step with
  | quiet quiet => exact kept quiet.works_eq fun _ => Event.noConfusion
  | enter quiet => exact kept quiet.works_eq fun _ => Event.noConfusion
  | drain => exact kept rfl fun _ => Event.noConfusion
  | leave => exact kept rfl fun _ => Event.noConfusion
  | shift => exact kept rfl fun _ => Event.noConfusion
  | acquire _ _ _ _ granted => exact kept granted.works_eq fun _ => Event.noConfusion
  | dropLease => exact kept rfl fun _ => Event.noConfusion
  | passLease => exact kept rfl fun _ => Event.noConfusion
  | dispatch _ _ _ sent =>
    exact discarded_of_same (fun _ => Event.noConfusion) ((discarded_sent sent rfl).trans Iff.rfl)
  | submitCutShort => exact kept rfl fun _ => Event.noConfusion
  | submitInline => exact discarded_of_same (fun _ => Event.noConfusion) (discarded_added rfl WorkPhase.noConfusion)
  | submitPooled _ _ _ _ granted sent =>
    refine discarded_of_same (fun _ => Event.noConfusion) ((discarded_sent sent rfl).trans ?_)
    rw [granted.work_eq]
    rfl
  | free _ _ _ vacated => exact discarded_of_same (fun _ => Event.noConfusion) (by rw [vacated.phase])
  | endLogic _ _ _ running role =>
    refine discarded_of_same (fun _ => Event.noConfusion) (discarded_modify rfl ?_ WorkPhase.noConfusion)
    rw [running.running _ role]
    exact WorkPhase.noConfusion
  | endJob _ _ running role _ _ _ vacated =>
    refine discarded_of_same (fun _ => Event.noConfusion) ((discarded_modify rfl ?_ WorkPhase.noConfusion).trans ?_)
    · rw [vacated.phase]
      exact fun lost => WorkPhase.noConfusion ((running.running _ role).symm.trans lost)
    · rw [vacated.phase]
      rfl
  | vacate recorded vacated =>
    refine discarded_of_same (fun _ => Event.noConfusion) ((discarded_modify rfl ?_ WorkPhase.noConfusion).trans ?_)
    · rw [vacated.phase, recorded]
      exact WorkPhase.noConfusion
    · rw [vacated.phase]
  | complete _ _ vacated =>
    refine discarded_of_same (fun _ => Event.noConfusion) ((discarded_modify rfl ?_ WorkPhase.noConfusion).trans ?_)
    · rw [count_work, vacated]
      exact WorkPhase.noConfusion
    · rw [count_work]
  | rest => exact kept rfl fun _ => Event.noConfusion
  | next _ _ _ waiting =>
    refine discarded_of_same (fun _ => Event.noConfusion) (discarded_modify rfl ?_ WorkPhase.noConfusion)
    rw [waiting.phase]
    exact WorkPhase.noConfusion
  | dieAlone => exact kept rfl fun _ => by simp
  | @die station _ _ lost _ _ waiting =>
    have read := work_modifyWork (picture.modifyStation station ({ · with
      leased := false, helper := .absent, waiting := none })) lost id
        ({ · with leased := false, phase := .discarded, snapshot := none })
    rw [read]
    split_ifs with here
    · obtain ⟨rfl, -⟩ := here
      exact iff_of_true rfl (.inr rfl)
    · have other : Event.died (some lost) ≠ .died (some id) := by
        rintro same
        obtain rfl := Option.some.inj (Event.died.inj same)
        exact here ⟨rfl, waiting.bound⟩
      exact (or_iff_left other).symm
  | dropPool => exact kept rfl fun _ => Event.noConfusion
  | start => exact kept rfl fun _ => Event.noConfusion
  | finish => exact kept rfl fun _ => Event.noConfusion

end Picture

/-- A work is discarded when the helper in whose channel it waits dies, and at no other time. -/
theorem Reaches.discarded_iff {setting : Setting.State} {history : List Moment} {system : System}
    (reached : Reaches (.initial setting) history system) (work : WorkId) :
    (system.work work).phase = .discarded ↔ HasBeenLost history work := by
  rw [HasBeenLost.iff_event]
  induction reached with
  | start => exact iff_of_false WorkPhase.noConfusion List.not_mem_nil
  | @step history system action reached enabled ih =>
    have discarded := (System.step_perform reached.sound enabled).discarded work
    rw [List.map_cons, List.mem_cons, ← ih]
    exact discarded.trans (or_comm.trans (or_congr eq_comm Iff.rfl))

/-- What has become of a work. -/
structure System.Delivery (system : System) (history : List Moment) (work : WorkId) : Prop where
  /-- It has not begun, or it has begun once, on a helper or on the thread that sent it. -/
  once : (system.work work).runs = [] ∨ (system.work work).BegunOnce
  /-- The helper that runs it is that of the slot it was sent to. -/
  place : ∀ helper, (system.work work).phase.isActive = true → (system.work work).placement = .helper helper →
    ∃ lease, (system.work work).station = some lease ∧ (system.station lease).helper = .busy helper work
  lost : HasBeenLost history work → (system.work work).runs = []
  /-- It waits only behind a work that has not ended. -/
  waits : (system.work work).runs = [] → ¬ HasBeenLost history work →
    ∃ lease helper job, (system.work work).station = some lease ∧
      (system.station lease).helper = .busy helper job ∧ (system.station lease).waiting = some work

theorem Work.BegunOnce.runs_ne_nil {work : Work} (once : work.BegunOnce) : work.runs ≠ [] := by
  rcases once with ⟨helper, -, runs⟩ | ⟨-, runs⟩ <;> rw [runs] <;> exact List.cons_ne_nil _ _

theorem System.Delivery.of_sound {system : System} {events : List Event} {history : List Moment} {work : WorkId}
    (sound : system.picture.Sound events) (sent : work < system.works.length)
    (discarded : (system.work work).phase = .discarded ↔ HasBeenLost history work) :
    system.Delivery history work := by
  have fresh : (system.work work).phase.hasBegun = false → (system.work work).runs = [] := sound.channels.fresh work
  have begun : (system.work work).phase.hasBegun = true → (system.work work).BegunOnce := sound.channels.begun work
  constructor
  case once =>
    cases began : (system.work work).phase.hasBegun with
    | false => exact .inl (fresh began)
    | true => exact .inr (begun began)
  case place => exact fun helper => sound.channels.running work helper
  case lost =>
    intro lost
    exact fresh (by rw [discarded.mpr lost]; rfl)
  case waits =>
    intro unrun found
    have waiting : (system.work work).phase = .waiting := by
      cases phase : (system.work work).phase with
      | waiting => rfl
      | discarded => exact (found (discarded.mp phase)).elim
      | _ => exact ((begun (by rw [phase]; rfl)).runs_ne_nil unrun).elim
    obtain ⟨lease, queued⟩ := sound.channels.queued work sent waiting
    have waits := sound.channels.waits lease work queued
    by_contra rests
    have empty := sound.channels.quiet lease fun helper job busy =>
      rests ⟨lease, helper, job, waits.place, busy, queued⟩
    rw [queued] at empty
    exact absurd empty (by simp)

/-- A work that is sent is begun at most once. When no helper is busy any more, it has been begun unless
it was lost with the helper in whose channel it waited. -/
theorem work_delivery {setting : Setting.State} {history : List Moment} {system : System}
    (reached : Reaches (.initial setting) history system) {work : WorkId} (sent : work < system.works.length) :
    system.Delivery history work ∧
      ((∀ lease helper job, (system.station lease).helper ≠ .busy helper job) →
        ((system.work work).BegunOnce ↔ ¬ HasBeenLost history work)) := by
  have delivery := System.Delivery.of_sound reached.sound sent (reached.discarded_iff work)
  refine ⟨delivery, fun rests => ⟨fun once lost => once.runs_ne_nil (delivery.lost lost), fun found => ?_⟩⟩
  refine delivery.once.resolve_left fun unrun => ?_
  obtain ⟨lease, helper, job, -, busy, -⟩ := delivery.waits unrun found
  exact rests lease helper job busy

/-- A job gives up its lease and goes on, so that the next job for its slot has to wait; then it ends
with a panic of which the helper dies. -/
def waitingBehindFatal : List Action :=
  [.makePool 1 {}, .acquire 0 0 1 "first", .dispatch 0 "first", .free 1, .acquire 0 0 1 "second",
    .dispatch 0 "second", .endJob 1, .complete 1, .die { pool := 0, slot := 0 }]

theorem work_delivery_waitingBehindFatal :
    let first := System.initial { hardware := 1 }
    let system := first.performAll waitingBehindFatal
    Reaches first (first.moments [] waitingBehindFatal) system ∧ 0 < system.works.length ∧
      system.Delivery (first.moments [] waitingBehindFatal) 0 := by
  have allowed : (System.initial { hardware := 1 }).allows waitingBehindFatal = true := by decide
  have reached := Reaches.start.performAll allowed
  have sent : 0 < ((System.initial { hardware := 1 }).performAll waitingBehindFatal).works.length := by decide
  exact ⟨reached, sent, (work_delivery reached sent).1⟩

/-- The job that waited is gone with its helper: no helper is left, and nobody has begun the job. -/
theorem job_lost_waitingBehindFatal :
    let first := System.initial { hardware := 1 }
    let system := first.performAll waitingBehindFatal
    Reaches first (first.moments [] waitingBehindFatal) system ∧ (system.work 1).kind = .job ∧
      (∀ pool ∈ system.pools, ∀ slot ∈ pool.slots, slot.helper = .absent) ∧
      (system.work 1).phase = .discarded ∧ (system.work 1).runs = [] := by
  have allowed : (System.initial { hardware := 1 }).allows waitingBehindFatal = true := by decide
  exact ⟨Reaches.start.performAll allowed, by decide, by decide, by decide, by decide⟩

end ScopedWork
