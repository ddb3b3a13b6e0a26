import ScopedWork.Proofs.Courses
import ScopedWork.Proofs.Limits

/-! # The helpers of a slot, one after the other

The death of a helper is not noticed when it happens: the pool keeps its end of the channel, through
releases and new leases of the slot, until a job is sent and comes back. Only then may the slot get
another helper, when it is next leased. So starts, deaths and discoveries take turns, whatever is done
to the pool in between, and the latest of them tells what the slot is like.
-/

namespace ScopedWork

/-- What befalls the helpers of a slot. -/
inductive HelperEvent where
  /-- A helper is started as a thread. -/
  | started (thread : ThreadId)
  | died
  /-- A job is sent to the helper and comes back. -/
  | foundDead
  deriving DecidableEq, Repr

/-- Whether an event can come next, given the latest one before it. -/
def HelperEvent.follows : HelperEvent → Option HelperEvent → Bool
  | .started _, none | .started _, some .foundDead | .died, some (.started _) | .foundDead, some .died => true
  | .started _, some (.started _) | .started _, some .died | .died, none | .died, some .died
  | .died, some .foundDead | .foundDead, none | .foundDead, some (.started _) | .foundDead, some .foundDead => false

/-- Whether events, latest first, take turns: a helper is started, dies, and is found dead before
another is started. -/
def takeTurns : List HelperEvent → Bool
  | [] => true
  | event :: earlier => event.follows earlier.head? && takeTurns earlier

namespace Pool

variable {Job : Type} {pool : Pool Job} {course : List (Occasion Job)}

/-- What an occasion is to the helpers of a slot. -/
def Occasion.event? (occasion : Occasion Job) (index : Nat) : Option HelperEvent :=
  match occasion.deed with
  | .acquire limit thread =>
    match (occasion.before.tryAcquire limit thread).1 with
    | .ok (some acquired) => if acquired.started ∧ acquired.slot = index then some (.started thread) else none
    | .ok none | .error _ => none
  | .die place => if place = index then some .died else none
  | .dispatch place job =>
    if place = index ∧ (occasion.before.slot place).sender ∧ (occasion.before.dispatch place job).1 = .returned then
      some .foundDead
    else none
  | .release _ | .next _ | .bar _ _ | .shutdown => none

/-- What has befallen the helpers of a slot, latest first. -/
def lifeline (course : List (Occasion Job)) (index : Nat) : List HelperEvent :=
  course.filterMap (·.event? index)

theorem lifeline_cons (occasion : Occasion Job) (course : List (Occasion Job)) (index : Nat) :
    lifeline (occasion :: course) index = (occasion.event? index).toList ++ lifeline course index := by
  rw [lifeline, List.filterMap_cons]
  cases occasion.event? index <;> rfl

theorem lifeline_append (later course : List (Occasion Job)) (index : Nat) :
    lifeline (later ++ course) index = lifeline later index ++ lifeline course index :=
  List.filterMap_append

/-- What has happened at an occasion at which something has befallen a helper of a slot. -/
theorem event?_cases {deed : Deed Job} {index : Nat} {event : HelperEvent}
    (happened : Occasion.event? ⟨pool, deed⟩ index = some event) :
    (∃ limit thread, event = .started thread ∧ deed = .acquire limit thread ∧
      pool.leastFree? limit = some index ∧
      namePanic? (pool.helperName index) = none ∧ pool.tryAcquire limit thread =
        (.ok (some { slot := index, started := true }), (pool.lease index).spawn index thread)) ∨
    (event = .died ∧ deed = .die index) ∨
    ∃ job, event = .foundDead ∧ deed = .dispatch index job ∧ (pool.slot index).sender = true ∧
      (pool.dispatch index job).1 = .returned := by
  cases deed with
  | acquire limit thread =>
    simp only [Occasion.event?] at happened
    rcases pool.tryAcquire_shapes limit thread with ⟨-, missed⟩
      | ⟨place, found, ⟨-, had⟩ | ⟨-, name, had⟩⟩
    · split at happened
      · rename_i acquired had
        exact absurd had (missed acquired)
      · cases happened
      · cases happened
    · simp [had] at happened
    · simp only [had, true_and] at happened
      split_ifs at happened with here
      subst here
      exact .inl ⟨limit, thread, (Option.some.inj happened).symm, rfl, found, name, had⟩
  | die place =>
    simp only [Occasion.event?] at happened
    split_ifs at happened with here
    exact .inr (.inl ⟨(Option.some.inj happened).symm, by rw [here]⟩)
  | dispatch place job =>
    simp only [Occasion.event?] at happened
    split_ifs at happened with back
    obtain ⟨rfl, warm, returned⟩ := back
    exact .inr (.inr ⟨job, (Option.some.inj happened).symm, rfl, warm, returned⟩)
  | release | next | bar | shutdown => exact absurd happened.symm (Option.some_ne_none event)

/-- Only a deed to a slot befalls its helpers. -/
theorem event?_of_ne {deed : Deed Job} {index : Nat} (elsewhere : pool.place? deed ≠ some index) :
    Occasion.event? ⟨pool, deed⟩ index = none := by
  by_contra some_event
  obtain ⟨event, happened⟩ := Option.ne_none_iff_exists'.mp some_event
  rcases event?_cases happened with ⟨_, _, -, rfl, found, -⟩ | ⟨-, rfl⟩ | ⟨_, -, rfl, -⟩
  · exact elsewhere found
  · exact elsewhere rfl
  · exact elsewhere rfl

/-! ## What a deed does to a helper -/

/-- How the helper of a slot fares, with the event that it is. -/
inductive Fares (dropped : Bool) (slot later : Slot Job) : Option HelperEvent → Prop
  | rest (sender : later.sender = slot.sender) (helper : later.helper.thread? = slot.helper.thread?) :
    Fares dropped slot later none
  /-- A helper whose channel has been cut leaves. -/
  | leave {thread : ThreadId} (cut : slot.sender = false) (present : slot.helper.thread? = some thread)
    (sender : later.sender = false) (gone : later.helper.thread? = none) : Fares dropped slot later none
  | start {thread : ThreadId} (live : dropped = false) (cold : slot.sender = false) (sender : later.sender = true)
    (helper : later.helper.thread? = some thread) : Fares dropped slot later (some (.started thread))
  | die {thread : ThreadId} (present : slot.helper.thread? = some thread) (sender : later.sender = slot.sender)
    (gone : later.helper.thread? = none) : Fares dropped slot later (some .died)
  | find (warm : slot.sender = true) (gone : slot.helper.thread? = none) (sender : later.sender = false)
    (still : later.helper.thread? = none) : Fares dropped slot later (some .foundDead)

theorem Fares.refl (dropped : Bool) (slot : Slot Job) : Fares dropped slot slot none :=
  .rest rfl rfl

theorem lt_of_busy {index : Nat} {thread : ThreadId} {job : Job} (busy : (pool.slot index).helper = .busy thread job) :
    index < pool.slots.length := by
  by_contra beyond
  rw [slot_of_not_lt pool beyond] at busy
  cases busy

theorem slot_modifySlot_self {index : Nat} (inside : index < pool.slots.length) (change : Slot Job → Slot Job) :
    (pool.modifySlot index change).slot index = change (pool.slot index) := by
  rw [slot_modifySlot, if_pos ⟨rfl, inside⟩]

theorem fares_acquire {limit : Nat} {thread : ThreadId} {index : Nat} (live : pool.dropped = false)
    (found : pool.leastFree? limit = some index) :
    Fares pool.dropped (pool.slot index) ((pool.undergo (.acquire limit thread)).slot index)
      (Occasion.event? ⟨pool, .acquire limit thread⟩ index) := by
  have inside := (pool.leastFree?_eq_some found).1
  rcases pool.tryAcquire_shapes limit thread with ⟨same, missed⟩ | ⟨place, picked, granted⟩
  · have quiet : Occasion.event? ⟨pool, .acquire limit thread⟩ index = none := by
      by_contra some_event
      obtain ⟨event, happened⟩ := Option.ne_none_iff_exists'.mp some_event
      rcases event?_cases happened with ⟨_, _, -, asked, -, -, had⟩ | ⟨-, other⟩ | ⟨_, -, other, -⟩
      · obtain ⟨rfl, rfl⟩ := Deed.acquire.inj asked
        exact missed _ (congrArg Prod.fst had)
      · cases other
      · cases other
    rw [quiet, undergo, same]
    exact .refl _ _
  · obtain rfl := Option.some.inj (picked.symm.trans found)
    rcases granted with ⟨-, had⟩ | ⟨cold, -, had⟩
    · simp only [Occasion.event?, undergo, had, Bool.false_eq_true, false_and, ↓reduceIte, slot_lease,
        inside, and_self]
      exact .rest rfl rfl
    · simp only [Occasion.event?, undergo, had, and_self, ↓reduceIte, slot_spawn_lease, inside]
      exact .start live cold rfl rfl

theorem fares_dispatch {index : Nat} (inside : index < pool.slots.length) (job : Job) :
    Fares pool.dropped (pool.slot index) ((pool.undergo (.dispatch index job)).slot index)
      (Occasion.event? ⟨pool, .dispatch index job⟩ index) := by
  simp only [Occasion.event?, undergo, dispatch]
  cases warm : (pool.slot index).sender with
  | false =>
    simp only [Bool.false_eq_true, ↓reduceIte, false_and, and_false]
    exact .refl _ _
  | true =>
    simp only [↓reduceIte, true_and]
    cases found : (pool.slot index).helper with
    | absent =>
      simp only [↓reduceIte, slot_modifySlot_self inside]
      exact .find warm (by rw [found]; rfl) rfl (by rw [found]; rfl)
    | idle thread =>
      simp only [reduceCtorEq, ↓reduceIte, slot_modifySlot_self inside]
      exact .rest rfl (by rw [found]; rfl)
    | busy thread other =>
      cases (pool.slot index).waiting with
      | none =>
        simp only [reduceCtorEq, ↓reduceIte, slot_modifySlot_self inside]
        exact .rest rfl rfl
      | some waiting =>
        simp only [reduceCtorEq, ↓reduceIte]
        exact .refl _ _

theorem fares_next {index : Nat} {thread : ThreadId} {job : Job} (busy : (pool.slot index).helper = .busy thread job) :
    Fares pool.dropped (pool.slot index) ((pool.undergo (.next index)).slot index) none := by
  simp only [undergo, nextJob, busy]
  cases (pool.slot index).waiting with
  | some next =>
    rw [slot_modifySlot_self (lt_of_busy busy)]
    exact .rest rfl (by rw [busy]; rfl)
  | none =>
    rw [slot_modifySlot_self (lt_of_busy busy)]
    cases warm : (pool.slot index).sender with
    | true => exact .rest warm.symm (by rw [busy]; rfl)
    | false => exact .leave warm (by rw [busy]; rfl) rfl rfl

/-- What a deed other than the end of the pool does to the helper of each slot. -/
theorem fares_undergo {deed : Deed Job} (apt : pool.Apt deed) (goesOn : deed ≠ .shutdown) (index : Nat) :
    Fares pool.dropped (pool.slot index) ((pool.undergo deed).slot index) (Occasion.event? ⟨pool, deed⟩ index) := by
  by_cases here : pool.place? deed = some index
  · cases deed with
    | acquire limit thread => exact fares_acquire apt here
    | release =>
      obtain rfl := Option.some.inj here
      rw [undergo, slot_release, if_pos ⟨rfl, lt_of_leased apt.1⟩]
      exact .rest rfl rfl
    | dispatch place job =>
      obtain rfl := Option.some.inj here
      exact fares_dispatch (lt_of_leased apt.1) job
    | next =>
      obtain rfl := Option.some.inj here
      obtain ⟨thread, job, busy⟩ := apt
      exact fares_next busy
    | die =>
      obtain rfl := Option.some.inj here
      obtain ⟨thread, job, busy⟩ := apt
      simp only [Occasion.event?, undergo, helperDies, ↓reduceIte, slot_modifySlot_self (lt_of_busy busy)]
      exact .die (by rw [busy]; rfl) rfl rfl
    | bar place barred =>
      obtain rfl := Option.some.inj here
      rw [undergo, slot_modifySlot]
      split_ifs
      · exact .rest rfl rfl
      · exact .refl _ _
    | shutdown => exact absurd rfl goesOn
  · rw [slot_undergo_of_ne goesOn here, event?_of_ne here]
    exact .refl _ _

/-! ## What the lifeline of a slot tells -/

/-- What a slot is like when this has befallen its helpers. -/
structure Fits (dropped : Bool) (slot : Slot Job) (events : List HelperEvent) : Prop where
  /-- Whoever helps now was the latest to be started. -/
  helps : ∀ thread, slot.helper.thread? = some thread → events.head? = some (.started thread)
  cut : dropped = true → slot.sender = false
  live : dropped = false → match events.head? with
    | some (.started thread) => slot.sender = true ∧ slot.helper.thread? = some thread
    | some .died => slot.sender = true ∧ slot.helper.thread? = none
    | some .foundDead | none => slot.sender = false ∧ slot.helper.thread? = none

theorem Fares.fits {dropped : Bool} {slot later : Slot Job} {event : Option HelperEvent} {events : List HelperEvent}
    (fares : Fares dropped slot later event) (fits : Fits dropped slot events) :
    Fits dropped later (event.toList ++ events) := by
  cases fares with
  | rest sender helper =>
    constructor
    case helps =>
      rw [helper]
      exact fits.helps
    case cut =>
      rw [sender]
      exact fits.cut
    case live =>
      rw [sender, helper]
      exact fits.live
  | @leave thread cut present sender gone =>
    refine ⟨fun other helps => ?_, fun _ => sender, fun live => ?_⟩
    · rw [gone] at helps
      exact absurd helps.symm (Option.some_ne_none other)
    · have told := fits.live live
      rw [fits.helps thread present, cut] at told
      exact absurd told.1 Bool.false_ne_true
  | start live cold sender helper =>
    refine ⟨fun other helps => ?_, fun gone => ?_, fun _ => ⟨sender, helper⟩⟩
    · rw [helper] at helps
      rw [Option.some.inj helps]
      rfl
    · rw [live] at gone
      exact absurd gone Bool.false_ne_true
  | @die thread present sender gone =>
    refine ⟨fun other helps => ?_, fun cut => ?_, fun live => ?_⟩
    · rw [gone] at helps
      exact absurd helps.symm (Option.some_ne_none other)
    · rw [sender]
      exact fits.cut cut
    · have told := fits.live live
      rw [fits.helps thread present] at told
      exact ⟨sender.trans told.1, gone⟩
  | find warm gone sender still =>
    refine ⟨fun other helps => ?_, fun _ => sender, fun _ => ⟨sender, still⟩⟩
    rw [still] at helps
    exact absurd helps.symm (Option.some_ne_none other)

theorem Fares.follows {dropped : Bool} {slot later : Slot Job} {event : HelperEvent} {events : List HelperEvent}
    (fares : Fares dropped slot later (some event)) (fits : Fits dropped slot events) :
    event.follows events.head? = true := by
  cases fares with
  | start live cold =>
    have told := fits.live live
    rw [cold] at told
    split at told
    · exact absurd told.1 Bool.false_ne_true
    · exact absurd told.1 Bool.false_ne_true
    · rename_i head
      rw [head]
      rfl
    · rename_i head
      rw [head]
      rfl
  | die present =>
    rw [fits.helps _ present]
    rfl
  | find warm gone =>
    have live : dropped = false := by
      rw [← Bool.not_eq_true]
      intro cut
      rw [fits.cut cut] at warm
      exact Bool.false_ne_true warm
    have told := fits.live live
    rw [warm, gone] at told
    split at told
    · exact absurd told.2.symm (Option.some_ne_none _)
    · rename_i head
      rw [head]
      rfl
    · exact absurd told.1.symm Bool.false_ne_true
    · exact absurd told.1.symm Bool.false_ne_true

/-- A pool that is dropped dismisses the helpers that wait. -/
theorem Fits.shutdown {slot : Slot Job} {dropped : Bool} {events : List HelperEvent} (fits : Fits dropped slot events) :
    Fits true slot.cut events :=
  ⟨fun thread helps => fits.helps thread (slot.thread?_cut helps), fun _ => rfl, fun live => Bool.noConfusion live⟩

theorem slot_ofConfig (capacity : Nat) (config : Setting.Config) (stackBound : Option Nat) (index : Nat) :
    (ofConfig capacity config stackBound : Pool Job).slot index = {} := by
  rw [slot, ofConfig, List.getElem?_replicate]
  split_ifs <;> rfl

/-- In the course of every pool the lifeline of a slot tells what the slot is like, and starts, deaths and
discoveries take turns. -/
theorem Lives.fits (lives : Lives course pool) (index : Nat) :
    Fits pool.dropped (pool.slot index) (lifeline course index) ∧ takeTurns (lifeline course index) = true := by
  induction lives with
  | make capacity config stackBound =>
    rw [slot_ofConfig]
    exact ⟨⟨fun thread helps => absurd helps.symm (Option.some_ne_none thread), fun _ => rfl,
      fun _ => ⟨rfl, rfl⟩⟩, rfl⟩
  | @undergo course pool deed lives apt ih =>
    obtain ⟨fits, turns⟩ := ih
    rw [lifeline_cons]
    by_cases goesOn : deed = .shutdown
    · subst goesOn
      rw [slot_shutdown]
      exact ⟨fits.shutdown, turns⟩
    · have fares := fares_undergo apt goesOn index
      rw [dropped_undergo goesOn]
      refine ⟨fares.fits fits, ?_⟩
      cases event : Occasion.event? ⟨pool, deed⟩ index with
      | none => exact turns
      | some happened =>
        rw [event] at fares
        change (happened.follows (lifeline course index).head? && takeTurns (lifeline course index)) = true
        rw [fares.follows fits, turns]
        rfl

/-! ## Jobs on the way to a helper -/

/-- A job in the channel of a slot was sent there through the slot's lease, which is live still; the helper
has been busy since, and nothing has befallen it. -/
structure Queues (course : List (Occasion Job)) (slot : Slot Job) (index : Nat) (job : Job) : Prop where
  leased : slot.leased = true
  busy : ∃ thread other, slot.helper = .busy thread other
  sent : ∃ later before earlier, course = later ++ ⟨before, .dispatch index job⟩ :: earlier ∧
    (before.dispatch index job).1 = .queued ∧ lifeline later index = []

/-- A deed that leaves the channel of a slot as it is, and the slot leased and its helper busy if they were. -/
theorem Queues.later {slot later : Slot Job} {index : Nat} {job : Job} {occasion : Occasion Job}
    (queues : Queues course slot index job) (leased : slot.leased = true → later.leased = true)
    (busy : ∀ thread other, slot.helper = .busy thread other → later.helper = .busy thread other)
    (quiet : occasion.event? index = none) : Queues (occasion :: course) later index job := by
  obtain ⟨thread, other, helper⟩ := queues.busy
  obtain ⟨between, before, earlier, rfl, handed, none_since⟩ := queues.sent
  refine ⟨leased queues.leased, ⟨thread, other, busy thread other helper⟩, occasion :: between,
    before, earlier, rfl,
    handed, ?_⟩
  rw [lifeline_cons, quiet, none_since]
  rfl

theorem waiting_acquire (limit : Nat) (thread : ThreadId) (index : Nat) :
    ((pool.undergo (.acquire limit thread)).slot index).waiting = (pool.slot index).waiting := by
  rcases pool.tryAcquire_shapes limit thread with ⟨same, -⟩ | ⟨place, -, ⟨-, had⟩ | ⟨-, -, had⟩⟩
  · rw [undergo, same]
  · rw [undergo, had, slot_lease]
    split_ifs <;> rfl
  · rw [undergo, had, slot_spawn_lease]
    split_ifs <;> rfl

/-- A job that is sent to a slot waits there if the helper is busy. -/
theorem queues_dispatch {index : Nat} {sent job : Job} (apt : pool.Apt (.dispatch index sent))
    (waiting : ((pool.undergo (.dispatch index sent)).slot index).waiting = some job) :
    Queues (⟨pool, .dispatch index sent⟩ :: course)
      ((pool.undergo (.dispatch index sent)).slot index) index job := by
  obtain ⟨leased, empty, -⟩ := apt
  have inside := lt_of_leased leased
  have handed : sent = job ∧ (pool.dispatch index sent).1 = .queued ∧ (∃ thread other,
      (pool.slot index).helper = .busy thread other) ∧
      (pool.undergo (.dispatch index sent)).slot index = { pool.slot index with waiting := some sent } := by
    simp only [undergo, dispatch] at waiting ⊢
    cases warm : (pool.slot index).sender with
    | false =>
      simp only [warm, Bool.false_eq_true, ↓reduceIte, empty] at waiting
      exact absurd waiting.symm (Option.some_ne_none job)
    | true =>
      simp only [warm, ↓reduceIte] at waiting ⊢
      cases found : (pool.slot index).helper with
      | absent =>
        simp only [found, slot_modifySlot, inside, and_self, ↓reduceIte, empty] at waiting
        exact absurd waiting.symm (Option.some_ne_none job)
      | idle thread =>
        simp only [found, slot_modifySlot, inside, and_self, ↓reduceIte, empty] at waiting
        exact absurd waiting.symm (Option.some_ne_none job)
      | busy thread other =>
        simp only [found, empty, slot_modifySlot, inside, and_self, ↓reduceIte, Option.some.injEq] at waiting ⊢
        exact ⟨waiting, trivial, ⟨thread, other, rfl⟩, by rw [warm]⟩
  obtain ⟨rfl, handed, busy, slot⟩ := handed
  rw [slot]
  exact ⟨leased, busy, [], pool, course, rfl, handed, rfl⟩

/-- A helper that turns to its channel leaves it empty. -/
theorem waiting_next {index : Nat} {thread : ThreadId} {done : Job}
    (busy : (pool.slot index).helper = .busy thread done) :
    ((pool.undergo (.next index)).slot index).waiting = none := by
  simp only [undergo, nextJob, busy]
  cases waiting : (pool.slot index).waiting <;> simp only [slot_modifySlot_self (lt_of_busy busy), waiting]

theorem Lives.queues (lives : Lives course pool) {index : Nat} {job : Job}
    (waiting : (pool.slot index).waiting = some job) : Queues course (pool.slot index) index job := by
  induction lives with
  | make capacity config stackBound =>
    rw [slot_ofConfig] at waiting
    exact absurd waiting.symm (Option.some_ne_none job)
  | @undergo course pool deed lives apt ih =>
    have emptied (empty : ((pool.undergo deed).slot index).waiting = none) :
        Queues (⟨pool, deed⟩ :: course) ((pool.undergo deed).slot index) index job :=
      absurd (empty.symm.trans waiting).symm (Option.some_ne_none job)
    by_cases here : pool.place? deed = some index
    · cases deed with
      | acquire limit thread =>
        -- the slot that is leased now was free, and one in whose channel a job waits is not
        have queues := ih ((waiting_acquire limit thread index).symm.trans waiting)
        have free := (pool.leastFree?_eq_some here).2
        rw [queues.leased] at free
        exact Bool.noConfusion free
      | release =>
        obtain rfl := Option.some.inj here
        apply emptied
        rw [Pool.undergo, slot_release, if_pos ⟨rfl, lt_of_leased apt.1⟩]
        exact apt.2
      | dispatch place sent =>
        obtain rfl := Option.some.inj here
        exact queues_dispatch apt waiting
      | next =>
        obtain rfl := Option.some.inj here
        obtain ⟨thread, done, busy⟩ := apt
        exact emptied (waiting_next busy)
      | die =>
        obtain rfl := Option.some.inj here
        obtain ⟨thread, done, busy⟩ := apt
        apply emptied
        rw [Pool.undergo, helperDies, slot_modifySlot_self (lt_of_busy busy)]
      | bar place barred =>
        rw [Pool.undergo, slot_modifySlot] at waiting ⊢
        split_ifs at waiting ⊢
        · exact (ih waiting).later id (fun _ _ => id) rfl
        · exact (ih waiting).later id (fun _ _ => id) rfl
      | shutdown => exact absurd here.symm (Option.some_ne_none index)
    · by_cases goesOn : deed = .shutdown
      · subst goesOn
        rw [slot_shutdown] at waiting ⊢
        exact (ih waiting).later id (fun thread other busy => by rw [Slot.cut, busy]) rfl
      · rw [slot_undergo_of_ne goesOn here] at waiting ⊢
        exact (ih waiting).later id (fun _ _ => id) (event?_of_ne here)

/-- Where a job goes is told by what has befallen the helpers of the slot: to the helper that was started
last, or back if that has died since. -/
theorem Fits.dispatch {dropped : Bool} {index : Nat} {events : List HelperEvent}
    (fits : Fits dropped (pool.slot index) events)
    (live : dropped = false) (empty : (pool.slot index).waiting = none)
    (warm : (pool.slot index).sender = true) (job : Job) :
    match events.head? with
    | some (.started thread) => (pool.dispatch index job).1 = .begun thread ∨ (pool.dispatch index job).1 = .queued
    | some .died => (pool.dispatch index job).1 = .returned
    | some .foundDead | none => False := by
  have told := fits.live live
  split at told
  · rename_i thread _
    cases found : (pool.slot index).helper with
    | absent =>
      rw [found] at told
      exact absurd told.2.symm (Option.some_ne_none thread)
    | idle helper =>
      rw [found] at told
      obtain rfl := Option.some.inj told.2
      exact .inl (by simp only [Pool.dispatch, warm, found, ↓reduceIte])
    | busy helper other => exact .inr (by simp only [Pool.dispatch, warm, found, empty, ↓reduceIte])
  · cases found : (pool.slot index).helper with
    | absent => simp only [Pool.dispatch, warm, found, ↓reduceIte]
    | idle helper =>
      rw [found] at told
      exact absurd told.2 (Option.some_ne_none helper)
    | busy helper other =>
      rw [found] at told
      exact absurd told.2 (Option.some_ne_none helper)
  · rw [warm] at told
    exact Bool.false_ne_true told.1.symm
  · rw [warm] at told
    exact Bool.false_ne_true told.1.symm

/-! ## A new helper for the slot -/

/-- The first that befalls the helpers of a slot is that one is started. -/
theorem Lives.started_of_first (lives : Lives course pool) {deed : Deed Job} (apt : pool.Apt deed) {index : Nat}
    (none_before : lifeline course index = []) (some_after : lifeline (⟨pool, deed⟩ :: course) index ≠ []) :
    ∃ limit thread, deed = .acquire limit thread ∧ pool.leastFree? limit = some index ∧
      namePanic? (pool.helperName index) = none ∧ pool.tryAcquire limit thread =
        (.ok (some { slot := index, started := true }), (pool.lease index).spawn index thread) := by
  have turns := ((lives.undergo apt).fits index).2
  rw [lifeline_cons, none_before, List.append_nil] at some_after turns
  cases event : Occasion.event? ⟨pool, deed⟩ index with
  | none =>
    rw [event] at some_after
    exact absurd rfl some_after
  | some happened =>
    rw [event] at turns
    rcases event?_cases event with ⟨limit, thread, -, asked⟩ | ⟨rfl, -⟩ | ⟨_, rfl, -⟩
    · exact ⟨limit, thread, asked⟩
    · exact absurd turns Bool.false_ne_true
    · exact absurd turns Bool.false_ne_true

/-- A slot that has had a helper has a name that a helper can have. -/
theorem Lives.named (lives : Lives course pool) {index : Nat} (had : lifeline course index ≠ []) :
    namePanic? (pool.helperName index) = none := by
  induction lives with
  | make => exact absurd rfl had
  | @undergo course pool deed lives apt ih =>
    rw [helperName_undergo]
    by_cases earlier : lifeline course index = []
    · obtain ⟨_, _, -, -, name, -⟩ := lives.started_of_first apt earlier had
      exact name
    · exact ih earlier

/-- Once the death of a helper has been discovered, whoever picks the slot gets it with a new helper, or
gets nothing and leaves everything as it is if none can be started. -/
theorem Lives.tryAcquire (lives : Lives course pool) {index limit : Nat} (live : pool.dropped = false)
    (dead : (lifeline course index).head? = some .foundDead) (picks : pool.leastFree? limit = some index)
    (thread : ThreadId) :
    pool.tryAcquire limit thread =
      if pool.canSpawn index then
        (.ok (some { slot := index, started := true }), (pool.lease index).spawn index thread)
      else (.ok none, pool) := by
  have told := (lives.fits index).1.live live
  rw [dead] at told
  have name : namePanic? (pool.helperName index) = none := lives.named fun none_yet => by
    rw [none_yet] at dead
    exact absurd dead.symm (Option.some_ne_none _)
  have free := (pool.leastFree?_eq_some picks).2
  simp only [Pool.tryAcquire, picks, told.1, Bool.false_eq_true, ↓reduceIte, name, pool.release_lease free]

end Pool

end ScopedWork
