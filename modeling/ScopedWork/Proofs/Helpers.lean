import ScopedWork.Proofs.Actions

/-! # Whose helper a thread is

A thread is started as the helper of one slot and is never the helper of another. While a pool is in
use, whoever has a lease of it that has not been used yet finds the slot connected: only a job that is
sent through the lease can discover that the helper is gone.
-/

namespace ScopedWork

def Helper.thread? {Job : Type} : Helper Job → Option ThreadId
  | absent => none
  | idle thread | busy thread _ => some thread

theorem Slot.thread?_cut {Job : Type} (slot : Slot Job) {thread : ThreadId}
    (helps : slot.cut.helper.thread? = some thread) : slot.helper.thread? = some thread := by
  cases found : slot.helper with
  | absent => simp [Slot.cut, found, Helper.thread?] at helps
  | idle helper => simp [Slot.cut, found, Helper.thread?] at helps
  | busy helper job => simpa [Slot.cut, found, Helper.thread?] using helps

namespace Picture

variable {picture after : Picture} {events : List Event} {event : Event} {lease : Lease}

/-- The helper of a slot is the helper of no other. -/
def Apart (picture : Picture) : Prop :=
  ∀ station other helper, (picture.station station).helper.thread? = some helper →
    (picture.station other).helper.thread? = some helper → station = other

/-- Whoever has a lease of a pool in use could send a job through it. -/
def Connected (picture : Picture) : Prop :=
  ∀ activation ∈ picture.crew, ∀ lease, 0 < activation.holds lease → picture.dropped lease.pool = false →
    (picture.station lease).sender = true

/-- The slot of a new lease was free and is connected, and its channel is as it was. -/
theorem Granted.slot (granted : picture.Granted lease after) :
    (after.station lease).sender = true ∧ (after.station lease).waiting = (picture.station lease).waiting ∧
      (picture.station lease).leased = false := by
  cases granted with
  | connected free warm =>
    simp only [modifyStation, Function.update_self]
    exact ⟨warm, trivial, free⟩
  | started free =>
    simp only [modifyStation, Function.update_self]
    exact ⟨trivial, trivial, free⟩

/-- The helper of a new lease has rested before, or was just started. -/
theorem Granted.idle (granted : picture.Granted lease after) {helper : ThreadId}
    (rests : (after.station lease).helper = .idle helper) :
    (picture.station lease).helper = .idle helper ∨ helper = picture.threads := by
  cases granted with
  | connected =>
    simp only [modifyStation, Function.update_self] at rests
    exact .inl rests
  | started =>
    simp only [modifyStation, Function.update_self, Helper.idle.injEq] at rests
    exact .inr rests.symm

/-! ## Helpers -/

theorem Channels.lt_of_thread? (channels : picture.Channels) {helper : ThreadId}
    (helps : (picture.station lease).helper.thread? = some helper) : helper < picture.threads := by
  cases found : (picture.station lease).helper with
  | absent => simp [found, Helper.thread?] at helps
  | idle thread =>
    rw [found, Helper.thread?] at helps
    exact Option.some.inj helps ▸ channels.idle lease thread found
  | busy thread job =>
    rw [found, Helper.thread?] at helps
    exact Option.some.inj helps ▸ (channels.busy lease thread job found).1

/-- The slots keep their helpers or lose them, and at most one gets a thread that is just started. -/
def Enlists (picture after : Picture) : Prop :=
  ∃ started, ∀ station helper, (after.station station).helper.thread? = some helper →
    (picture.station station).helper.thread? = some helper ∨ station = started ∧ helper = picture.threads

namespace Enlists

/-- Helpers may leave, rest and take jobs. -/
theorem of_helpers (helpers : ∀ station helper, (after.station station).helper.thread? = some helper →
    (picture.station station).helper.thread? = some helper) : picture.Enlists after :=
  ⟨{ pool := 0, slot := 0 }, fun station helper helps => .inl (helpers station helper helps)⟩

theorem frame {middle : Picture} (enlists : picture.Enlists middle) (same : after.station = middle.station) :
    picture.Enlists after := by
  obtain ⟨started, enlists⟩ := enlists
  exact ⟨started, fun station helper helps => enlists station helper (by rwa [← same])⟩

theorem of_same (same : after.station = picture.station) : picture.Enlists after :=
  of_helpers fun station helper helps => by rwa [← same]

/-- A slot may keep its helper, or lose it. -/
theorem update {slot : Slot WorkId} (station : after.station = Function.update picture.station lease slot)
    (helps : ∀ helper, slot.helper.thread? = some helper →
      (picture.station lease).helper.thread? = some helper) : picture.Enlists after := by
  refine of_helpers fun other helper there => ?_
  rw [station] at there
  by_cases here : other = lease
  · subst here
    rw [Function.update_self] at there
    exact helps helper there
  · rwa [Function.update_of_ne here] at there

/-- A helper is started as a thread that there has not been. -/
theorem granted (granted : picture.Granted lease after) : picture.Enlists after := by
  cases granted with
  | connected => exact update rfl fun _ helps => helps
  | started =>
    refine ⟨lease, fun other helper there => ?_⟩
    by_cases here : other = lease
    · subst here
      simp only [modifyStation, Function.update_self] at there
      exact .inr ⟨rfl, (Option.some.inj there).symm⟩
    · exact .inl (by simpa only [modifyStation, Function.update_of_ne here] using there)

theorem sent {thread : ThreadId} {work : Work} (sent : picture.Sent thread lease work after) {station : Lease}
    {helper : ThreadId} (helps : (after.station station).helper.thread? = some helper) :
    (picture.station station).helper.thread? = some helper := by
  by_cases here : station = lease
  · subst here
    cases sent with
    | begun worker saved idle =>
      simp only [withCrew, addWork, modifyStation, Function.update_self] at helps
      rw [idle]
      exact helps
    | returned | queued => simpa only [withCrew, addWork, modifyStation, Function.update_self] using helps
  · cases sent <;> simpa only [withCrew, addWork, modifyStation, Function.update_of_ne here] using helps

theorem quiet (quiet : picture.Quiet after) : picture.Enlists after := by
  obtain ⟨scopes, slots⟩ := quiet
  refine of_helpers fun station helper helps => ?_
  obtain ⟨barred, same⟩ := slots station
  simpa only [same] using helps

theorem vacated {work : WorkId} (vacated : picture.Vacated work after) : picture.Enlists after := by
  cases vacated with
  | held => exact update rfl fun _ helps => helps
  | bare => exact of_same rfl

end Enlists

theorem Step.enlists (step : picture.Step event after) : picture.Enlists after := by
  cases step with
  | quiet quiet => exact .quiet quiet
  | enter quiet => exact (Enlists.quiet quiet).frame rfl
  | acquire _ _ _ _ granted => exact (Enlists.granted granted).frame rfl
  | dropLease => exact .update rfl fun _ helps => helps
  | dispatch _ _ _ sent => exact .of_helpers fun _ _ => Enlists.sent sent
  | submitPooled _ _ _ _ granted sent =>
    obtain ⟨started, enlists⟩ := Enlists.granted granted
    exact ⟨started, fun station helper helps => enlists station helper (Enlists.sent sent helps)⟩
  | free _ _ _ vacated => exact .vacated vacated
  | endJob _ _ _ _ _ _ _ vacated => exact (Enlists.vacated vacated).frame rfl
  | vacate _ vacated => exact (Enlists.vacated vacated).frame rfl
  | @complete _ _ work =>
    have stations : (picture.count work).station = picture.station := by
      rw [count]
      split <;> rfl
    exact .of_same stations
  | @rest station helper job busy =>
    refine .update rfl fun other helps => ?_
    rw [busy]
    dsimp only at helps
    split at helps
    · exact helps
    · exact absurd helps.symm (Option.some_ne_none other)
  | next _ busy =>
    refine .update rfl fun other helps => ?_
    rw [busy]
    exact helps
  | dieAlone => exact .update rfl fun other helps => absurd helps.symm (Option.some_ne_none other)
  | die => exact .update rfl fun other helps => absurd helps.symm (Option.some_ne_none other)
  | dropPool pool =>
    refine .of_helpers fun station helper helps => ?_
    dsimp only at helps
    split at helps
    · exact Slot.thread?_cut _ helps
    · exact helps
  | drain | leave | shift | passLease | submitCutShort | submitInline | endLogic | start | finish => exact .of_same rfl

/-- A thread that is just started is not the helper of another slot. -/
theorem Apart.enlists (apart : picture.Apart) (channels : picture.Channels) (enlists : picture.Enlists after) :
    after.Apart := by
  obtain ⟨started, enlists⟩ := enlists
  intro station other helper here there
  rcases enlists station helper here with old | ⟨rfl, new⟩ <;>
    rcases enlists other helper there with old' | ⟨rfl, new'⟩
  · exact apart station other helper old old'
  · exact absurd new' (Nat.ne_of_lt (channels.lt_of_thread? old))
  · exact absurd new (Nat.ne_of_lt (channels.lt_of_thread? old'))
  · rfl

/-! ## Senders -/

namespace Connected

/-- Leases may pass from one program to another, as long as no slot is disconnected. -/
theorem of_same (connected : picture.Connected)
    (holders : ∀ activation ∈ after.crew, ∀ lease, 0 < activation.holds lease →
      ∃ other ∈ picture.crew, 0 < other.holds lease)
    (usable : ∀ lease : Lease, after.dropped lease.pool = false → picture.dropped lease.pool = false)
    (senders : ∀ lease : Lease, after.dropped lease.pool = false → (picture.station lease).sender = true →
      (after.station lease).sender = true) : after.Connected := by
  intro activation member lease holds live
  obtain ⟨other, inside, holds⟩ := holders activation member lease holds
  exact senders lease live (connected other inside lease holds (usable lease live))

/-- A lease that nobody has may be of a slot that is disconnected. -/
theorem spare (connected : picture.Connected) (leasing : picture.Leasing (some lease)) {slot : Slot WorkId}
    (crew : ∀ activation ∈ after.crew, ∀ other, 0 < activation.holds other →
      ∃ holder ∈ picture.crew, 0 < holder.holds other)
    (station : after.station = Function.update picture.station lease slot)
    (dropped : after.dropped = picture.dropped) : after.Connected := by
  intro activation member other holds live
  obtain ⟨holder, inside, holds⟩ := crew activation member other holds
  have ne : other ≠ lease := by
    rintro rfl
    have nobody := leasing.inHand.2
    have counted : holder.holds other ≤ (picture.crew.map (·.holds other)).sum :=
      Multiset.single_le_sum (fun _ _ => Nat.zero_le _) _ (Multiset.mem_map_of_mem _ inside)
    rw [Picture.holders] at nobody
    omega
  rw [station, Function.update_of_ne ne]
  exact connected holder inside other holds (dropped ▸ live)

/-- Nobody has anything new. -/
theorem exchange (connected : picture.Connected) {activation other : Activation} {others : Multiset Activation}
    (top : picture.crew = activation ::ₘ others) (crew : after.crew = other ::ₘ others)
    (fewer : ∀ lease, 0 < other.holds lease → 0 < activation.holds lease)
    (station : after.station = picture.station) (dropped : after.dropped = picture.dropped) : after.Connected := by
  refine connected.of_same (fun one member lease holds => ?_) (fun lease live => dropped ▸ live) fun lease _ => ?_
  · rw [top]
    rw [crew, Multiset.mem_cons] at member
    rcases member with rfl | member
    · exact ⟨activation, Multiset.mem_cons_self _ _, fewer lease holds⟩
    · exact ⟨one, Multiset.mem_cons_of_mem member, holds⟩
  · rw [station]
    exact id

theorem frame (connected : picture.Connected) (crew : after.crew = picture.crew)
    (station : ∀ lease, (after.station lease).sender = (picture.station lease).sender)
    (dropped : after.dropped = picture.dropped) : after.Connected := by
  refine connected.of_same (fun one member lease holds => ?_) (fun lease live => dropped ▸ live) fun lease _ => ?_
  · exact ⟨one, crew ▸ member, holds⟩
  · rw [station]
    exact id

/-- A slot may change in anything but its end of the channel. -/
theorem update (connected : picture.Connected) {slot : Slot WorkId} (crew : after.crew = picture.crew)
    (station : after.station = Function.update picture.station lease slot)
    (same : slot.sender = (picture.station lease).sender) (dropped : after.dropped = picture.dropped) :
    after.Connected := by
  refine connected.frame crew (fun other => ?_) dropped
  rw [station]
  by_cases here : other = lease
  · rw [here, Function.update_self, same]
  · rw [Function.update_of_ne here]

theorem quiet (quiet : picture.Quiet after) (connected : picture.Connected) : after.Connected := by
  obtain ⟨scopes, slots⟩ := quiet
  refine connected.frame rfl (fun lease => ?_) rfl
  obtain ⟨barred, same⟩ := slots lease
  have kept := congrArg Slot.sender same
  exact kept

theorem vacated {work : WorkId} (vacated : picture.Vacated work after) (connected : picture.Connected) :
    after.Connected := by
  cases vacated with
  | held => exact connected.update rfl rfl rfl rfl
  | bare => exact connected.frame rfl (fun _ => rfl) rfl

/-- A work is begun by someone who has no lease yet. -/
theorem begin (connected : picture.Connected) {work : WorkId} {saved : List Stack}
    (crew : after.crew = begun work saved ::ₘ picture.crew) (station : after.station = picture.station)
    (dropped : after.dropped = picture.dropped) : after.Connected := by
  refine connected.of_same (fun one member lease holds => ?_) (fun lease live => dropped ▸ live) fun lease _ => ?_
  · rw [crew, Multiset.mem_cons] at member
    rcases member with rfl | member
    · exact absurd holds (Nat.lt_irrefl 0)
    · exact ⟨one, member, holds⟩
  · rw [station]
    exact id

/-- A work that is sent uses up the lease that was in hand. -/
theorem sent {thread : ThreadId} {work : Work} (sent : picture.Sent thread lease work after)
    (leasing : picture.Leasing (some lease)) (connected : picture.Connected) : after.Connected := by
  have members {new : WorkId} {saved : List Stack} (activation : Activation)
      (member : activation ∈ ScopedWork.begun new saved ::ₘ picture.crew) (other : Lease)
      (holds : 0 < activation.holds other) : ∃ holder ∈ picture.crew, 0 < holder.holds other := by
    rcases Multiset.mem_cons.mp member with rfl | member
    · exact absurd holds (Nat.lt_irrefl 0)
    · exact ⟨activation, member, holds⟩
  cases sent with
  | returned => exact connected.spare leasing members rfl rfl
  | begun => exact connected.spare leasing members rfl rfl
  | queued =>
    exact connected.spare leasing (fun activation member other holds => ⟨activation, member, holds⟩) rfl rfl

theorem granted (granted : picture.Granted lease after) (connected : picture.Connected) : after.Connected := by
  cases granted with
  | connected => exact connected.update rfl rfl rfl rfl
  | started =>
    refine connected.of_same (fun one member other holds => ⟨one, member, holds⟩) (fun _ live => live)
      fun other _ warm => ?_
    by_cases here : other = lease
    · subst here
      simp only [modifyStation, Function.update_self]
    · simpa only [modifyStation, Function.update_of_ne here] using warm

/-- A program keeps a lease of a slot that is connected. -/
theorem keep (connected : picture.Connected) {activation : Activation} {others : Multiset Activation} {name : String}
    (top : picture.crew = activation ::ₘ others)
    (warm : picture.dropped lease.pool = false → (picture.station lease).sender = true) :
    (picture.withCrew ({ activation with leases := (name, lease) :: activation.leases } ::ₘ others)).Connected := by
  intro one member other holds live
  rcases Multiset.mem_cons.mp member with rfl | member
  · by_cases same : other = lease
    · exact same ▸ warm (same ▸ live)
    · have before : 0 < activation.holds other := by
        rw [Activation.holds, List.countP_cons_of_neg (by simpa using Ne.symm same)] at holds
        exact holds
      exact connected activation (top ▸ Multiset.mem_cons_self _ _) other before live
  · exact connected one (top ▸ Multiset.mem_cons_of_mem member) other holds live

theorem take (connected : picture.Connected) {activation : Activation} {others : Multiset Activation} (name : String)
    (top : picture.crew = activation ::ₘ others) :
    (picture.withCrew ({ activation with
      leases := activation.leases.filter (·.1 ≠ name) } ::ₘ others)).Connected :=
  connected.exchange top rfl
    (fun _ holds => Nat.lt_of_lt_of_le holds (List.filter_sublist.countP_le)) rfl rfl

theorem step (connected : picture.Connected) (leasing : picture.Leasing none) (step : picture.Step event after) :
    after.Connected := by
  have same {activation other : Activation} (leases : other.leases = activation.leases) (lease : Lease)
      (holds : 0 < other.holds lease) : 0 < activation.holds lease := by
    rwa [Activation.holds, leases] at holds
  cases step with
  | quiet quiet => exact Connected.quiet quiet connected
  | enter quiet top =>
    exact (Connected.quiet quiet connected).exchange (quiet.crew_eq.trans top) rfl (fun _ holds => holds) rfl rfl
  | drain departure top => exact connected.exchange top rfl (fun _ holds => holds) rfl rfl
  | leave top => exact connected.exchange top rfl (fun _ holds => holds) rfl rfl
  | shift top alike => exact connected.exchange top rfl (same alike.leases) rfl rfl
  | acquire top _ _ _ granted =>
    exact (Connected.granted granted connected).keep (granted.crew_eq.trans top) fun _ => granted.slot.1
  | @dropLease _ _ _ name top => exact (connected.take name top).update rfl rfl rfl rfl
  | @passLease activation other others lease name top held =>
    have warm := connected activation (top ▸ Multiset.mem_cons_self _ _) lease (System.holds_of_lookup held)
    rw [Multiset.cons_swap]
    exact (connected.take name top).keep (Multiset.cons_swap _ _ _) warm
  | @dispatch _ _ _ _ name _ top _ held sent =>
    exact Connected.sent sent (leasing.take top held) (connected.take name top)
  | submitCutShort => exact connected
  | submitInline => exact connected.begin rfl rfl rfl
  | @submitPooled _ _ _ _ scope _ _ _ _ _ _ _ granted sent =>
    have counted : (picture.modifyScope scope (·.countDispatched.countPooled)).Leasing none := leasing.modifyScope _ _
    have before : (picture.modifyScope scope (·.countDispatched.countPooled)).Connected := connected
    exact Connected.sent sent (counted.lend granted) (Connected.granted granted before)
  | free _ _ _ vacated => exact Connected.vacated vacated connected
  | endLogic _ _ top => exact connected.exchange top rfl (fun _ holds => holds) rfl rfl
  | @endJob _ activation others _ saved top _ _ _ _ _ vacated =>
    have shifted : (picture.withCrew ({ activation with saved } ::ₘ others)).Connected :=
      connected.exchange top rfl (fun _ holds => holds) rfl rfl
    exact (Connected.vacated vacated shifted).frame rfl (fun _ => rfl) rfl
  | vacate _ vacated => exact (Connected.vacated vacated connected).frame rfl (fun _ => rfl) rfl
  | @complete activation others work top =>
    have counted : (picture.count work).station = picture.station ∧
      (picture.count work).dropped = picture.dropped := by
      rw [count]
      split <;> exact ⟨rfl, rfl⟩
    refine connected.of_same (fun one member lease holds => ⟨one, ?_, holds⟩) (fun _ live => ?_) fun lease _ => ?_
    · rw [top]
      exact Multiset.mem_cons_of_mem member
    · exact counted.2 ▸ live
    · change _ → ((picture.count work).station lease).sender = true
      rw [counted.1]
      exact id
  | rest => exact connected.update rfl rfl rfl rfl
  | @next station helper _ next =>
    have turned : (picture.modifyStation station
      ({ · with helper := .busy helper next, waiting := none })).Connected :=
      connected.update rfl rfl rfl rfl
    exact turned.begin rfl rfl rfl
  | dieAlone => exact connected.update rfl rfl rfl rfl
  | die => exact connected.update rfl rfl rfl rfl
  | dropPool pool =>
    refine connected.of_same (fun one member lease holds => ⟨one, member, holds⟩) (fun lease live => ?_)
      fun lease live warm => ?_
    all_goals
      by_cases here : lease.pool = pool
      · rw [here] at live
        exact absurd (live.symm.trans (Function.update_self _ _ _)) Bool.false_ne_true
    · rwa [← Function.update_of_ne here true picture.dropped]
    · dsimp only
      rwa [if_neg here]
  | start =>
    refine connected.of_same (fun one member lease holds => ?_) (fun _ live => live) fun _ _ => id
    rcases Multiset.mem_cons.mp member with rfl | member
    · exact absurd holds (Nat.lt_irrefl 0)
    · exact ⟨one, member, holds⟩
  | finish top =>
    refine connected.of_same (fun one member lease holds => ⟨one, ?_, holds⟩) (fun _ live => live) fun _ _ => id
    rw [top]
    exact Multiset.mem_cons_of_mem member

end Connected

end Picture

theorem Reaches.apart {setting : Setting.State} {history : List Moment} {system : System}
    (reached : Reaches (.initial setting) history system) : system.picture.Apart := by
  induction reached with
  | start => exact fun _ _ helper helps => absurd helps.symm (Option.some_ne_none helper)
  | step reached enabled ih =>
    exact ih.enlists reached.sound.channels (System.step_perform reached.sound enabled).enlists

theorem Reaches.connected {setting : Setting.State} {history : List Moment} {system : System}
    (reached : Reaches (.initial setting) history system) : system.picture.Connected := by
  induction reached with
  | start =>
    intro activation member lease holds
    have crew : (System.initial setting).picture.crew = {({} : Activation)} := rfl
    rw [crew, Multiset.mem_singleton] at member
    rw [member] at holds
    exact absurd holds (Nat.lt_irrefl 0)
  | step reached enabled ih => exact ih.step reached.sound.leasing (System.step_perform reached.sound enabled)

end ScopedWork
