import ScopedWork.Proofs.Assignments

/-! # Recovery from the death of a helper

A helper that dies leaves its slot as it was, and nobody knows. The next work that is sent through the
slot comes back and is run by its sender, who gives the lease back like everybody else. From then on
the slot is known to have no helper, and whoever gets it next gets a new helper with it, or nothing.
-/

namespace ScopedWork

/-! ## Where works have gone -/

/-- Whether a work is where it goes if this is the latest that has befallen the helpers of its slot. -/
def Work.GoesBy (work : Work) : Option HelperEvent → Prop
  | some (.started helper) => work.placement = .helper helper ∨ work.placement = .queued
  | some .died => work.placement = .returned
  | some .foundDead | none => False

/-- A work that was sent through a slot has gone where the slot's lifeline told then; a logic is sent only
through pools that are in use. -/
structure Traced (history : List Moment) (system : System) (work : WorkId) (station : Lease) : Prop where
  there : station.pool < system.pools.length
  sent : ∃ later before earlier,
    course station.pool history = later ++ ⟨before, .dispatch station.slot work⟩ :: earlier ∧
      (before.dropped = false ∨ (system.work work).kind ≠ .job →
        (system.work work).GoesBy (Pool.lifeline earlier station.slot).head?)
  begun : (system.work work).placement ≠ .queued → (system.work work).phase.hasBegun = true

theorem WorkKind.exists_scope {kind : WorkKind} (logic : kind ≠ .job) : ∃ scope, kind = .logic scope := by
  cases kind with
  | job => exact absurd rfl logic
  | logic scope => exact ⟨scope, rfl⟩

section Tracing

variable {setting : Setting.State} {history : List Moment} {system : System} {action : Action} {work : WorkId}
  {station : Lease}

/-- A work that arrives goes where its slot's lifeline tells. -/
theorem traced_of_arrives (reached : Reaches (.initial setting) history system) (enabled : system.Enabled action)
    (arrives : system.Arrives action ((system.perform action).work system.works.length))
    (place : ((system.perform action).work system.works.length).station = some station) :
    Traced (⟨system, action⟩ :: history) (system.perform action) system.works.length station := by
  cases arrives with
  | inline _ _ unplaced =>
    rw [unplaced] at place
    exact absurd place.symm (Option.some_ne_none station)
  | @sent lease first there place' leased begun dealt placed asked =>
    obtain rfl := Option.some.inj (place'.symm.trans place)
    have there' := ((System.deals_perform reached.sound enabled).kept lease.pool there).1
    have lives := (reached.step enabled).lives there'
    have split : course lease.pool (⟨system, action⟩ :: history) =
        ⟨first.foldl Pool.undergo (system.pool lease.pool), .dispatch lease.slot system.works.length⟩ ::
          ((system.pool lease.pool).occasions [] first ++ course lease.pool history) := by
      rw [course_cons there, dealt, Pool.occasions_append]
      rfl
    refine ⟨there', ⟨[], _, _, split, fun used => ?_⟩, begun⟩
    have live : (first.foldl Pool.undergo (system.pool lease.pool)).dropped = false := by
      rcases used with live | logic
      · exact live
      · -- who submits a logic has just leased a slot of the pool
        obtain ⟨scope, kind⟩ := WorkKind.exists_scope logic
        obtain ⟨thread, rfl, -, own, rfl⟩ := asked scope kind
        have usable : (system.pool (system.scope scope).pool).dropped = false := by
          simpa [System.isUsable] using enabled.2.2
        rw [own]
        exact (@Pool.dropped_undergo _ _ (.acquire _ _) (by simp)).trans usable
    rw [split] at lives
    obtain ⟨earlier, -, empty, warm⟩ := @Pool.Lives.before _ _ [] _ _ _ lives
    have handed := (earlier.fits lease.slot).1.dispatch live empty (warm live) system.works.length
    split at handed <;> rename_i head <;> rw [head]
    · rw [Work.GoesBy, placed]
      rcases handed with handed | handed <;> rw [handed]
      · exact .inl rfl
      · exact .inr rfl
    · rw [Work.GoesBy, placed, handed]
      rfl
    · exact handed
    · exact handed

/-- A helper that takes a work from its channel is the one to whom the work was sent. -/
theorem traced_of_taken (reached : Reaches (.initial setting) history system)
    (there : station.pool < system.pools.length)
    {helper : ThreadId} {job : WorkId} (busy : (system.station station).helper = .busy helper job)
    (waiting : (system.station station).waiting = some work) :
    ∃ later before earlier,
      course station.pool history = later ++ ⟨before, .dispatch station.slot work⟩ :: earlier ∧
      (Pool.lifeline earlier station.slot).head? = some (.started helper) := by
  have lives := reached.lives there
  obtain ⟨-, -, later, before, earlier, split, handed, none_since⟩ := lives.queues waiting
  refine ⟨later, before, earlier, split, ?_⟩
  have latest := (lives.fits station.slot).1.helps helper (by
    change (system.station station).helper.thread? = _
    rw [busy]
    rfl)
  have quiet : Pool.Occasion.event? ⟨before, .dispatch station.slot work⟩ station.slot = none := by
    simp only [Pool.Occasion.event?, handed, reduceCtorEq, and_false, ↓reduceIte]
  rwa [split, Pool.lifeline_append, none_since, List.nil_append, Pool.lifeline_cons, quiet] at latest

theorem Reaches.traced (reached : Reaches (.initial setting) history system)
    (place : (system.work work).station = some station) : Traced history system work station := by
  induction reached with
  | start => exact absurd (System.lt_of_station place) (Nat.not_lt_zero work)
  | @step history system action reached enabled ih =>
    have sound := reached.sound
    have assigns := System.assigns_perform sound enabled
    by_cases bound : work < system.works.length
    · have keeps := assigns.keeps bound
      obtain ⟨there, ⟨later, before, earlier, split, goes⟩, begun⟩ := ih (keeps.same.station.symm.trans place)
      have there' := ((System.deals_perform sound enabled).kept station.pool there).1
      rcases keeps.placed with same | ⟨origin, helper, job, -, busy, waiting, placed, started⟩
      · refine ⟨there',
          ⟨(system.pool station.pool).occasions [] (system.deeds station.pool action) ++ later, before, earlier, ?_,
            fun used => ?_⟩, fun placed => ?_⟩
        · rw [course_cons there, split, List.append_assoc]
        · rw [keeps.same.kind] at used
          have goes := goes used
          rw [Work.GoesBy.eq_def] at goes ⊢
          rwa [same]
        · have onward : (system.work work).Onward ((system.perform action).work work) :=
            (System.step_perform sound enabled).continues.kept work bound
          rw [same] at placed
          exact (onward.begun (begun placed)).1
      · have waits := sound.channels.waits origin work waiting
        obtain rfl : origin = station :=
          Option.some.inj (waits.place.symm.trans (keeps.same.station.symm.trans place))
        obtain ⟨later, before, earlier, split, latest⟩ := traced_of_taken reached there busy waiting
        refine ⟨there', ⟨(system.pool origin.pool).occasions [] (system.deeds origin.pool action) ++ later,
          before, earlier,
          ?_, fun _ => ?_⟩, fun _ => started⟩
        · rw [course_cons there, split, List.append_assoc]
        · rw [latest]
          exact .inl placed
    · obtain ⟨rfl, arrives⟩ := assigns.arrives bound (System.lt_of_station place)
      exact traced_of_arrives reached enabled arrives place

end Tracing

/-! ## Leases that are given back -/

def Moment.after (moment : Moment) : System :=
  moment.before.perform moment.action

def Moment.givesBack (moment : Moment) (work : WorkId) : Bool :=
  (moment.before.work work).leased && !(moment.after.work work).leased

/-- A moment at which a leased slot is freed, and counted as such. -/
structure Moment.Frees (moment : Moment) (station : Lease) : Prop where
  leased : (moment.before.station station).leased = true
  free : (moment.after.station station).leased = false
  counted : (moment.after.pool station.pool).busy + 1 = (moment.before.pool station.pool).busy

section Leases

variable {setting : Setting.State} {history : List Moment} {system : System} {action : Action} {work : WorkId}
  {station : Lease}

/-- A work that gives its lease back frees the slot. -/
theorem frees_of_givesBack (reached : Reaches (.initial setting) history system) (enabled : system.Enabled action)
    (gives : Moment.givesBack ⟨system, action⟩ work = true) (place : (system.work work).station = some station) :
    Moment.Frees ⟨system, action⟩ station := by
  have sound := reached.sound
  simp only [Moment.givesBack, Bool.and_eq_true, Bool.not_eq_true'] at gives
  obtain ⟨held, given⟩ := gives
  have leased : (system.station station).leased = true :=
    System.leased_of_work sound work station (System.holds_eq_true.mpr ⟨held, place⟩)
  have there := System.hasSlot_of_leased leased
  have busy : 0 < (system.pool station.pool).busy := by
    rw [reached.counted station.pool]
    exact List.countP_pos_iff.mpr ⟨_, List.mem_of_getElem? (Pool.slots_getElem? there.2), leased⟩
  have kept : (system.perform action).pool station.pool =
      (system.deeds station.pool action).foldl Pool.undergo (system.pool station.pool) :=
    ((System.deals_perform sound enabled).kept station.pool there.1).2
  -- the helper of the slot may have died just before
  obtain ⟨stage, released, still, inside⟩ : ∃ stage : Pool WorkId,
      (system.perform action).pool station.pool = stage.release station.slot ∧
      stage.busy = (system.pool station.pool).busy ∧ station.slot < stage.slots.length := by
    rcases (System.assigns_perform sound enabled).freed held given place with dealt | dealt
    · exact ⟨system.pool station.pool, by rw [kept, dealt]; rfl, rfl, there.2⟩
    · refine ⟨(system.pool station.pool).undergo (.die station.slot), by rw [kept, dealt]; rfl, rfl, ?_⟩
      change _ < ((system.pool station.pool).slots.modify _ _).length
      rw [List.length_modify]
      exact there.2
  refine ⟨leased, ?_, ?_⟩
  · change (((system.perform action).pool station.pool).slot station.slot).leased = false
    rw [released, Pool.slot_release, if_pos ⟨rfl, inside⟩]
  · change ((system.perform action).pool station.pool).busy + 1 = (system.pool station.pool).busy
    rw [released, ← still]
    change stage.busy - 1 + 1 = stage.busy
    omega

/-- Nobody gives back the lease of a work that is still to come. -/
theorem Reaches.countP_givesBack_of_not_lt (reached : Reaches (.initial setting) history system)
    (beyond : ¬ work < system.works.length) : history.countP (·.givesBack work) = 0 := by
  induction reached with
  | start => rfl
  | @step history system action reached enabled ih =>
    have longer : system.works.length ≤ (system.perform action).works.length :=
      (System.step_perform reached.sound enabled).continues.length_le
    have missing : ¬ work < system.works.length := fun bound => beyond (Nat.lt_of_lt_of_le bound longer)
    have idle : Moment.givesBack ⟨system, action⟩ work = false := by
      simp only [Moment.givesBack, system.work_of_not_lt missing]
      rfl
    rw [List.countP_cons, ih missing, idle]
    rfl

/-- Whenever a work has given its lease back, its slot has been freed. -/
theorem Reaches.frees (reached : Reaches (.initial setting) history system)
    (place : (system.work work).station = some station) {moment : Moment} (member : moment ∈ history)
    (gives : moment.givesBack work = true) : moment.Frees station := by
  induction reached with
  | start => exact absurd member List.not_mem_nil
  | @step history system action reached enabled ih =>
    have bound : work < system.works.length := by
      by_contra beyond
      rcases List.mem_cons.mp member with rfl | member
      · simp only [Moment.givesBack, system.work_of_not_lt beyond] at gives
        exact Bool.noConfusion gives
      · exact List.countP_eq_zero.mp (reached.countP_givesBack_of_not_lt beyond) moment member gives
    have keeps := (System.assigns_perform reached.sound enabled).keeps bound
    have before := keeps.same.station.symm.trans place
    rcases List.mem_cons.mp member with rfl | member
    · exact frees_of_givesBack reached enabled gives before
    · exact ih before member

/-- A work that is sent through a lease gives the lease back once, if it no longer has it. -/
theorem Reaches.countP_givesBack (reached : Reaches (.initial setting) history system)
    (place : (system.work work).station = some station) :
    history.countP (·.givesBack work) + (system.work work).leased.toNat = 1 := by
  induction reached with
  | start => exact absurd (System.lt_of_station place) (Nat.not_lt_zero work)
  | @step history system action reached enabled ih =>
    have assigns := System.assigns_perform reached.sound enabled
    rw [List.countP_cons, Moment.givesBack, Moment.after]
    by_cases bound : work < system.works.length
    · have keeps := assigns.keeps bound
      have before := ih (keeps.same.station.symm.trans place)
      have fewer := keeps.leased
      cases held : (system.work work).leased <;> cases later : ((system.perform action).work work).leased <;>
        simp_all
    · obtain ⟨rfl, arrives⟩ := assigns.arrives bound (System.lt_of_station place)
      have none_yet := reached.countP_givesBack_of_not_lt bound
      cases arrives with
      | inline _ _ unplaced =>
        rw [unplaced] at place
        exact absurd place.symm (Option.some_ne_none station)
      | sent _ _ leased =>
        rw [none_yet, leased, Bool.not_true, Bool.and_false]
        rfl

end Leases

/-! ## Deaths that are answered -/

/-- No more deaths are discovered than helpers have died. -/
theorem count_foundDead_le {events : List HelperEvent} (turns : takeTurns events = true) :
    events.count .foundDead ≤ events.count .died := by
  -- one death at most has not been discovered yet, and it is the latest event
  suffices strong : events.count .foundDead + (if events.head? = some .died then 1 else 0) ≤
    events.count .died by omega
  induction events with
  | nil => rfl
  | cons event earlier ih =>
    simp only [takeTurns, Bool.and_eq_true] at turns
    obtain ⟨follows, turns⟩ := turns
    have before := ih turns
    cases event with
    | started thread =>
      rw [List.count_cons_of_ne (by simp), List.count_cons_of_ne (by simp), List.head?_cons, if_neg (by simp)]
      omega
    | died =>
      rw [List.count_cons_of_ne (by simp), List.count_cons_self, List.head?_cons, if_pos rfl]
      omega
    | foundDead =>
      have dead : earlier.head? = some .died := by
        cases latest : earlier.head? with
        | none => simp [HelperEvent.follows, latest] at follows
        | some event => cases event <;> simp [HelperEvent.follows, latest] at follows ⊢
      rw [if_pos dead] at before
      rw [List.count_cons_self, List.count_cons_of_ne (by simp), List.head?_cons, if_neg (by simp)]
      omega

namespace Pool

variable {Job : Type} {pool : Pool Job} {course : List (Occasion Job)}

/-- The job that came back from a slot at an occasion, because the slot's helper had died. -/
def Occasion.cameBack? (occasion : Occasion Job) (index : Nat) : Option Job :=
  match occasion.deed with
  | .dispatch _ job => if occasion.event? index = some .foundDead then some job else none
  | .acquire _ _ | .release _ | .next _ | .die _ | .bar _ _ | .shutdown => none

/-- One job comes back for each death that is discovered. -/
theorem length_cameBack (course : List (Occasion Job)) (index : Nat) :
    (course.filterMap (·.cameBack? index)).length = (lifeline course index).count .foundDead := by
  induction course with
  | nil => rfl
  | cons occasion earlier ih =>
    have here : (occasion.cameBack? index).toList.length = (occasion.event? index).toList.count .foundDead := by
      obtain ⟨before, deed⟩ := occasion
      cases event : Occasion.event? ⟨before, deed⟩ index with
      | none => cases deed <;> simp [Occasion.cameBack?, event]
      | some happened =>
        rcases event?_cases event with ⟨_, _, rfl, rfl, -⟩ | ⟨rfl, rfl⟩ | ⟨_, rfl, rfl, -⟩ <;>
          simp [Occasion.cameBack?, event]
    have cons : (occasion :: earlier).filterMap (·.cameBack? index) =
        (occasion.cameBack? index).toList ++ earlier.filterMap (·.cameBack? index) := by
      rw [List.filterMap_cons]
      cases occasion.cameBack? index <;> rfl
    rw [cons, lifeline_cons, List.length_append, List.count_append, here, ih]

end Pool

section Answers

variable {setting : Setting.State} {history : List Moment} {system : System} {work : WorkId} {station : Lease}

/-- A work that was returned is one that came back. -/
theorem Traced.cameBack (reached : Reaches (.initial setting) history system)
    (traced : Traced history system work station)
    (live : (system.pool station.pool).dropped = false) (returned : (system.work work).placement = .returned) :
    work ∈ (course station.pool history).filterMap (·.cameBack? station.slot) := by
  obtain ⟨later, before, earlier, split, goes⟩ := traced.sent
  have lives := reached.lives traced.there
  rw [split] at lives
  have live_then := lives.live_before live
  obtain ⟨past, leased, empty, warm⟩ := lives.before
  have goes := goes (.inl live_then)
  have handed := (past.fits station.slot).1.dispatch live_then empty (warm live_then) work
  refine List.mem_filterMap.mpr ⟨_, split ▸ List.mem_append_right later List.mem_cons_self, ?_⟩
  split at handed <;> rename_i latest <;> rw [latest, Work.GoesBy] at goes
  · rw [returned] at goes
    rcases goes with goes | goes <;> exact Placement.noConfusion goes
  · simp only [Pool.Occasion.cameBack?, Pool.Occasion.event?, handed, warm live_then, and_self, ↓reduceIte]
  · exact goes.elim
  · exact goes.elim

theorem Reaches.answered (reached : Reaches (.initial setting) history system)
    (there : station.pool < system.pools.length) (live : (system.pool station.pool).dropped = false) :
    (List.range system.works.length).countP (fun work =>
        (system.work work).station = some station ∧ (system.work work).placement = .returned) ≤
      (Pool.lifeline (course station.pool history) station.slot).count .died := by
  apply Nat.le_trans _ (count_foundDead_le ((reached.lives there).fits station.slot).2)
  rw [← Pool.length_cameBack, List.countP_eq_length_filter]
  refine (List.subperm_of_subset (List.nodup_range.filter _) fun work member => ?_).length_le
  obtain ⟨place, returned⟩ := of_decide_eq_true (List.mem_filter.mp member).2
  exact (reached.traced place).cameBack reached live returned

end Answers

/-! ## Every run -/

/-- A helper that dies changes no slot but its own. -/
theorem station_die {system : System} {events : List Event} (sound : system.picture.Sound events)
    {station other : Lease}
    (enabled : system.Enabled (.die station)) (ne : other ≠ station) :
    (system.perform (.die station)).station other = system.station other := by
  obtain ⟨helper, job, busy, -⟩ := System.hasEnded_cases enabled
  have performed : (system.perform (.die station)).picture.station other =
      (system.helperDies helper station).2.picture.station other := by
    simp only [System.perform, System.withHelper, busy]
  have waits (work : WorkId) (waiting : (system.station station).waiting = some work) :=
    sound.channels.waits station work waiting
  rcases System.picture_helperDies helper (by simp [busy]) fun work waiting =>
    ⟨(waits work waiting).leased, (waits work waiting).place⟩ with ⟨-, died⟩ | ⟨lost, -, died⟩
  all_goals
    rw [died] at performed
    exact performed.trans (Function.update_of_ne ne _ _)

/-- Who has run a work if this was the latest that had befallen the helpers of its slot when it was sent: the helper
that had been started, if it has not died before, or else the submitter. -/
def Work.RunsBy (work : Work) : Option HelperEvent → Prop
  | some (.started helper) =>
    work.placement = .helper helper ∧ work.runs = [helper] ∨ work.placement = .queued ∧ work.runs = []
  | some .died => work.placement = .returned ∧ work.runs = [work.submitter]
  | some .foundDead | none => False

/-- A work that waits in a channel has not been begun. -/
theorem not_begun_of_queued {system : System} {events : List Event} (sound : system.picture.Sound events)
    {work : WorkId}
    (queued : (system.work work).placement = .queued) : (system.work work).phase.hasBegun = false := by
  rw [← Bool.not_eq_true]
  intro begun
  rcases sound.channels.begun work begun with ⟨helper, sent, -⟩ | ⟨here | here, -⟩
  · exact Placement.noConfusion (queued.symm.trans sent)
  · exact Placement.noConfusion (queued.symm.trans here)
  · exact Placement.noConfusion (queued.symm.trans here)

/-- A work has been run where it went. -/
theorem Traced.runs {history : List Moment} {system : System} {events : List Event} {work : WorkId} {station : Lease}
    (traced : Traced history system work station) (sound : system.picture.Sound events) {latest : Option HelperEvent}
    (goes : (system.work work).GoesBy latest) : (system.work work).RunsBy latest := by
  have once (elsewhere : (system.work work).placement ≠ .queued) : (system.work work).BegunOnce :=
    sound.channels.begun work (traced.begun elsewhere)
  rcases latest with _ | (_ | _ | _)
  · exact goes
  · rcases goes with placed | placed
    · refine .inl ⟨placed, ?_⟩
      rcases once (by rw [placed]; exact Placement.noConfusion) with ⟨helper, sent, runs⟩ | ⟨here, -⟩
      · rw [placed] at sent
        rw [Placement.helper.inj sent, runs]
      · rw [placed] at here
        rcases here with here | here <;> exact Placement.noConfusion here
    · exact .inr ⟨placed, sound.channels.fresh work (not_begun_of_queued sound placed)⟩
  · change (system.work work).placement = .returned at goes
    refine ⟨goes, ?_⟩
    rcases once (by rw [goes]; exact Placement.noConfusion) with ⟨helper, sent, -⟩ | ⟨-, runs⟩
    · exact Placement.noConfusion (goes.symm.trans sent)
    · exact runs
  · exact goes

/-- How a run copes with the deaths of a slot's helpers. -/
structure Copes (history : List Moment) (system : System) (station : Lease) : Prop where
  /-- A helper is started, dies, and is found dead by a work that comes back, before another is started. -/
  turns : takeTurns (Pool.lifeline (course station.pool history) station.slot) = true
  /-- A work that is sent through the slot comes back to its submitter if the helper has died since it was started;
  otherwise it is that helper's. -/
  sent : ∀ work, (system.work work).station = some station → ∃ later before earlier,
    course station.pool history = later ++ ⟨before, .dispatch station.slot work⟩ :: earlier ∧
      (system.work work).RunsBy (Pool.lifeline earlier station.slot).head?
  /-- No death makes more than one work come back. -/
  answered : (List.range system.works.length).countP (fun work =>
      (system.work work).station = some station ∧ (system.work work).placement = .returned) ≤
    (Pool.lifeline (course station.pool history) station.slot).count .died
  /-- Every work gives its lease back once, wherever it runs, and the slot is freed by it. -/
  once : ∀ work, (system.work work).station = some station →
    history.countP (·.givesBack work) + (system.work work).leased.toNat = 1 ∧
      ((system.work work).phase = .over → (system.work work).leased = false) ∧
      ∀ moment ∈ history, moment.givesBack work = true → moment.Frees station
  /-- Once the death is discovered, whoever picks the slot gets it with one new helper, or gets nothing and leaves
  the pool as it is for the next who does. -/
  replaced : (Pool.lifeline (course station.pool history) station.slot).head? = some .foundDead →
    ∀ limit thread, (system.pool station.pool).leastFree? limit = some station.slot →
      if (system.pool station.pool).canSpawn station.slot then
        ∃ after, (system.pool station.pool).tryAcquire limit thread =
            (.ok (some { slot := station.slot, started := true }), after) ∧
          after.spawned = (system.pool station.pool).spawned + 1 ∧
          (after.slot station.slot).helper = .idle thread ∧ (after.slot station.slot).sender = true
      else (system.pool station.pool).tryAcquire limit thread = (.ok none, system.pool station.pool)
  alone : system.Enabled (.die station) →
    ∀ other ≠ station, (system.perform (.die station)).station other = system.station other

/-- Whatever happens to the helpers of a slot, a pool in use lets none of the works sent through it go astray: each
death is met by one of them at most, which its submitter runs, and the next lease comes with a new helper. -/
theorem deaths_recovered {setting : Setting.State} {history : List Moment} {system : System}
    (reached : Reaches (.initial setting) history system) {station : Lease} (there : station.pool < system.pools.length)
    (live : (system.pool station.pool).dropped = false) : Copes history system station where
  turns := ((reached.lives there).fits station.slot).2
  sent work place := by
    have traced := reached.traced place
    obtain ⟨later, before, earlier, split, goes⟩ := traced.sent
    have lives := reached.lives there
    rw [split] at lives
    exact ⟨later, before, earlier, split, traced.runs reached.sound (goes (.inl (lives.live_before live)))⟩
  answered := reached.answered there live
  once _ place := ⟨reached.countP_givesBack place,
    fun finished => reached.sound.leasing.spent _ (congrArg WorkPhase.isSpent finished),
    fun _ member gives => reached.frees place member gives⟩
  replaced dead limit thread picks := by
    have lives := reached.lives there
    have inside := ((system.pool station.pool).leastFree?_eq_some picks).1
    rw [lives.tryAcquire live dead picks thread]
    split
    · refine ⟨_, rfl, rfl, ?_, ?_⟩ <;> rw [Pool.slot_spawn_lease, if_pos ⟨rfl, inside⟩]
    · rfl
  alone enabled other ne := station_die reached.sound enabled ne

/-- A helper dies of a job; the next job comes back and its lease is given back; then the system refuses a thread,
and later gives one, to whom the third job goes. -/
def diesAndIsReplaced : List Action :=
  [.makePool 1 {}, .acquire 0 0 1 "first", .dispatch 0 "first", .endJob 1, .complete 1, .die { pool := 0, slot := 0 },
    .acquire 0 0 1 "second", .dispatch 0 "second", .endJob 0, .complete 0, .bar { pool := 0, slot := 0 } true,
    .acquire 0 0 1 "third", .bar { pool := 0, slot := 0 } false, .acquire 0 0 1 "third", .dispatch 0 "third"]

theorem deaths_recovered_diesAndIsReplaced :
    let first := System.initial { hardware := 1 }
    let system := first.performAll diesAndIsReplaced
    let history := first.moments [] diesAndIsReplaced
    Reaches first history system ∧ 0 < system.pools.length ∧ (system.pool 0).dropped = false ∧
      Copes history system { pool := 0, slot := 0 } ∧
      Pool.lifeline (course 0 history) 0 = [.started 2, .foundDead, .died, .started 1] ∧
      (system.work 1).placement = .returned ∧ (system.work 1).runs = [0] ∧ (system.work 2).runs = [2] ∧
      (system.pool 0).spawned = 2 := by
  have allowed : (System.initial { hardware := 1 }).allows diesAndIsReplaced = true := by decide
  have reached := Reaches.start.performAll allowed
  exact ⟨reached, by decide, by decide, deaths_recovered reached (by decide) (by decide), by decide, by decide,
    by decide, by decide, by decide⟩

end ScopedWork
