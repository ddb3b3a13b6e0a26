import ScopedWork.Proofs.Running

/-! # Who holds the leases

A leased slot has exactly one holder: a program that keeps the lease under a name, or the work that
has been sent through it. While a lease is on its way from one holder to the next it is *in hand*.
A work gives its lease up before it is over, also if it is lost, so no slot stays leased to a work
that is over.
-/

namespace ScopedWork

/-- To take a lease that is found under a name is to lose that lease and no other. -/
private theorem countP_take {leases : List (String × Lease)} {name : String} {lease : Lease}
    (names : (leases.map Prod.fst).Nodup) (found : leases.lookup name = some lease) (other : Lease) :
    leases.countP (·.2 == other) =
      (leases.filter (·.1 ≠ name)).countP (·.2 == other) + (if lease = other then 1 else 0) := by
  induction leases with
  | nil => simp at found
  | cons entry rest ih =>
    obtain ⟨key, held⟩ := entry
    simp only [List.map_cons, List.nodup_cons] at names
    by_cases same : name = key
    · subst same
      simp only [List.lookup_cons, beq_self_eq_true, Option.some.injEq] at found
      subst found
      have kept : rest.filter (·.1 ≠ name) = rest := by
        refine List.filter_eq_self.mpr fun entry member => ?_
        simp only [ne_eq, decide_not, Bool.not_eq_eq_eq_not, Bool.not_true, decide_eq_false_iff_not]
        rintro rfl
        exact names.1 (List.mem_map_of_mem member)
      rw [List.filter_cons_of_neg (by simp), kept, List.countP_cons]
      simp only [beq_iff_eq]
    · have elsewhere : rest.lookup name = some lease := by
        rw [List.lookup_cons] at found
        simpa [beq_eq_false_iff_ne.mpr same] using found
      rw [List.filter_cons_of_pos (by simpa using Ne.symm same), List.countP_cons, List.countP_cons,
        ih names.2 elsewhere]
      omega

private theorem notMem_of_lookup {leases : List (String × Lease)} {name : String}
    (missing : leases.lookup name = none) : name ∉ leases.map Prod.fst := by
  rintro member
  obtain ⟨entry, inside, rfl⟩ := List.mem_map.mp member
  rw [List.lookup_eq_none_iff] at missing
  simpa using missing entry inside

namespace Picture

variable {picture after : Picture} {activation other : Activation} {others : Multiset Activation}
  {lease : Lease} {hand : Option Lease}

def holders (picture : Picture) (lease : Lease) : Nat :=
  (picture.crew.map (·.holds lease)).sum + picture.works.countP (·.holds lease)

/-- Every leased slot has one holder, or its lease is in hand. -/
structure Leasing (picture : Picture) (hand : Option Lease) : Prop where
  single : ∀ lease, picture.holders lease + (if hand = some lease then 1 else 0) =
    (picture.station lease).leased.toNat
  names : ∀ activation ∈ picture.crew, (activation.leases.map Prod.fst).Nodup
  spent : ∀ work, (picture.work work).phase.isSpent = true → (picture.work work).leased = false

namespace Leasing

/-! ## Changes that move no lease -/

theorem exchange (leasing : picture.Leasing hand) (top : picture.crew = activation ::ₘ others)
    (leases : other.leases = activation.leases) : (picture.withCrew (other ::ₘ others)).Leasing hand where
  single lease := by
    have same : other.holds lease = activation.holds lease := by
      rw [Activation.holds, Activation.holds, leases]
    have single := leasing.single lease
    rw [holders, top, Multiset.map_cons, Multiset.sum_cons, ← same] at single
    rw [holders, withCrew, Multiset.map_cons, Multiset.sum_cons]
    exact single
  names := by
    intro one member
    have names := leasing.names
    rw [top] at names
    rcases Multiset.mem_cons.mp member with rfl | member
    · rw [leases]
      exact names activation (Multiset.mem_cons_self _ _)
    · exact names one (Multiset.mem_cons_of_mem member)
  spent := leasing.spent

theorem add (leasing : picture.Leasing hand) (activation : Activation) (bare : activation.leases = []) :
    (picture.withCrew (activation ::ₘ picture.crew)).Leasing hand where
  single lease := by
    have none_held : activation.holds lease = 0 := by rw [Activation.holds, bare, List.countP_nil]
    have single := leasing.single lease
    rw [holders] at single
    rw [holders, withCrew, Multiset.map_cons, Multiset.sum_cons, none_held, Nat.zero_add]
    exact single
  names := by
    intro one member
    rcases Multiset.mem_cons.mp member with rfl | member
    · rw [bare]
      exact List.nodup_nil
    · exact leasing.names one member
  spent := leasing.spent

theorem remove (leasing : picture.Leasing hand) (top : picture.crew = activation ::ₘ others)
    (bare : activation.leases = []) : (picture.withCrew others).Leasing hand where
  single lease := by
    have none_held : activation.holds lease = 0 := by rw [Activation.holds, bare, List.countP_nil]
    have single := leasing.single lease
    rw [holders, top, Multiset.map_cons, Multiset.sum_cons, none_held, Nat.zero_add] at single
    exact single
  names := by
    intro one member
    exact leasing.names one (by rw [top]; exact Multiset.mem_cons_of_mem member)
  spent := leasing.spent

theorem modifyScope (leasing : picture.Leasing hand) (scope : ScopeId) (change : Scope → Scope) :
    (picture.modifyScope scope change).Leasing hand :=
  ⟨leasing.single, leasing.names, leasing.spent⟩

theorem modifyStation (leasing : picture.Leasing hand) (station : Lease)
    (change : Slot WorkId → Slot WorkId)
    (same : (change (picture.station station)).leased = (picture.station station).leased) :
    (picture.modifyStation station change).Leasing hand where
  single lease := by
    have leased : ((picture.modifyStation station change).station lease).leased =
        (picture.station lease).leased := by
      by_cases here : lease = station
      · subst here
        simp only [Picture.modifyStation, Function.update_self, same]
      · simp only [Picture.modifyStation, Function.update_of_ne here]
    rw [leased]
    exact leasing.single lease
  names := leasing.names
  spent := leasing.spent

theorem modifyWork (leasing : picture.Leasing hand) (id : WorkId) (change : Work → Work)
    (leased : ∀ work, (change work).leased = work.leased)
    (station : ∀ work, (change work).station = work.station)
    (spent : (change (picture.work id)).phase.isSpent = true → (picture.work id).leased = false) :
    (picture.modifyWork id change).Leasing hand where
  single lease := by
    have same : (picture.works.modify id change).countP (·.holds lease) =
        picture.works.countP (·.holds lease) := by
      refine countP_modify_same _ _ fun work _ => ?_
      rw [Work.holds, Work.holds, leased, station]
    have single := leasing.single lease
    rw [holders] at single
    rw [holders, Picture.modifyWork, same]
    exact single
  names := leasing.names
  spent work := by
    rw [work_modifyWork]
    split_ifs with here
    · obtain ⟨rfl, -⟩ := here
      rw [leased]
      exact spent
    · exact leasing.spent work

theorem quiet (leasing : picture.Leasing hand) (quiet : picture.Quiet after) : after.Leasing hand := by
  obtain ⟨scopes, slots⟩ := quiet
  refine ⟨fun lease => ?_, leasing.names, leasing.spent⟩
  obtain ⟨barred, same⟩ := slots lease
  have single := leasing.single lease
  simp only [same]
  exact single

/-! ## Leases that change hands -/

theorem lend (leasing : picture.Leasing none) (granted : picture.Granted lease after) :
    after.Leasing (some lease) := by
  have given {slot : Slot WorkId} (leased : slot.leased = true) (free : (picture.station lease).leased = false)
      (other : Lease) : picture.holders other + (if some lease = some other then 1 else 0) =
        (Function.update picture.station lease slot other).leased.toNat := by
    have single := leasing.single other
    rw [if_neg (Option.some_ne_none other).symm, Nat.add_zero] at single
    by_cases here : other = lease
    · subst here
      rw [single, free, Function.update_self, leased, if_pos rfl]
      rfl
    · rw [single, Function.update_of_ne here, if_neg fun same => here (Option.some.inj same).symm]
      rfl
  cases granted with
  | connected free => exact ⟨given rfl free, leasing.names, leasing.spent⟩
  | started free => exact ⟨given rfl free, leasing.names, leasing.spent⟩

theorem keep (leasing : picture.Leasing (some lease)) (top : picture.crew = activation ::ₘ others)
    {name : String} (new : activation.leases.lookup name = none) :
    (picture.withCrew
      ({ activation with leases := (name, lease) :: activation.leases } ::ₘ others)).Leasing none where
  single other := by
    have single := leasing.single other
    rw [holders, top, Multiset.map_cons, Multiset.sum_cons] at single
    rw [holders, withCrew, Multiset.map_cons, Multiset.sum_cons, ← single, Activation.holds, Activation.holds,
      List.countP_cons]
    by_cases here : lease = other
    · subst here
      simp only [beq_self_eq_true, ↓reduceIte, reduceCtorEq]
      omega
    · have ne : some lease ≠ some other := fun same => here (Option.some.inj same)
      simp only [beq_eq_false_iff_ne.mpr here, Bool.false_eq_true, ↓reduceIte, reduceCtorEq, ne]
      omega
  names := by
    intro one member
    have names := leasing.names
    rw [top] at names
    rcases Multiset.mem_cons.mp member with rfl | member
    · exact List.nodup_cons.mpr ⟨notMem_of_lookup new, names activation (Multiset.mem_cons_self _ _)⟩
    · exact names one (Multiset.mem_cons_of_mem member)
  spent := leasing.spent

theorem take (leasing : picture.Leasing none) (top : picture.crew = activation ::ₘ others)
    {name : String} (held : activation.leases.lookup name = some lease) :
    (picture.withCrew ({ activation with
      leases := activation.leases.filter (·.1 ≠ name) } ::ₘ others)).Leasing (some lease) where
  single other := by
    have names := leasing.names activation (by rw [top]; exact Multiset.mem_cons_self _ _)
    have single := leasing.single other
    have taken := countP_take names held other
    rw [holders, top, Multiset.map_cons, Multiset.sum_cons, Activation.holds, taken] at single
    rw [holders, withCrew, Multiset.map_cons, Multiset.sum_cons, Activation.holds, ← single]
    simp only [Option.some.injEq, reduceCtorEq, ↓reduceIte]
    omega
  names := by
    intro one member
    have names := leasing.names
    rw [top] at names
    rcases Multiset.mem_cons.mp member with rfl | member
    · exact (names activation (Multiset.mem_cons_self _ _)).sublist (List.filter_sublist.map _)
    · exact names one (Multiset.mem_cons_of_mem member)
  spent := leasing.spent

/-- A lease in hand is nowhere else. -/
theorem inHand (leasing : picture.Leasing (some lease)) :
    (picture.station lease).leased = true ∧ picture.holders lease = 0 := by
  have single := leasing.single lease
  rw [if_pos rfl] at single
  cases leased : (picture.station lease).leased with
  | true =>
    rw [leased, Bool.toNat_true] at single
    exact ⟨rfl, by omega⟩
  | false =>
    rw [leased, Bool.toNat_false] at single
    omega

theorem release (leasing : picture.Leasing (some lease)) :
    (picture.modifyStation lease ({ · with leased := false })).Leasing none where
  single other := by
    by_cases here : other = lease
    · subst here
      have none_left : (picture.modifyStation other ({ · with leased := false })).holders other = 0 :=
        leasing.inHand.2
      rw [none_left]
      simp only [Picture.modifyStation, Function.update_self, reduceCtorEq, ↓reduceIte,
        Bool.toNat_false, Nat.add_zero]
    · have single := leasing.single other
      rw [if_neg fun same => here (Option.some.inj same).symm] at single
      simp only [Picture.modifyStation, Function.update_of_ne here, reduceCtorEq, ↓reduceIte]
      exact single
  names := leasing.names
  spent := leasing.spent

/-- A work that is sent through a lease takes the lease over. -/
theorem addWork (leasing : picture.Leasing (some lease)) (work : Work) (leased : work.leased = true)
    (station : work.station = some lease) (useful : work.phase.isSpent = false) :
    (picture.addWork work).Leasing none where
  single other := by
    have single := leasing.single other
    rw [holders] at single
    rw [holders, Picture.addWork, List.countP_append, List.countP_singleton, ← single, Work.holds, leased, station]
    by_cases here : lease = other
    · subst here
      simp only [beq_self_eq_true, Bool.and_self, ↓reduceIte, reduceCtorEq]
      omega
    · have ne : some lease ≠ some other := fun same => here (Option.some.inj same)
      simp only [beq_eq_false_iff_ne.mpr ne, Bool.and_false, Bool.false_eq_true, ↓reduceIte, reduceCtorEq, ne]
      omega
  names := leasing.names
  spent other := by
    rw [work_addWork]
    split_ifs with last
    · rw [useful]
      exact fun spent => Bool.noConfusion spent
    · exact leasing.spent other

/-- A work without a lease may be added. -/
theorem addFree (leasing : picture.Leasing hand) {work : Work} (free : work.leased = false) :
    (picture.addWork work).Leasing hand where
  single other := by
    have single := leasing.single other
    rw [holders] at single
    rw [holders, Picture.addWork, List.countP_append, List.countP_singleton, Work.holds, free]
    exact single
  names := leasing.names
  spent other := by
    rw [work_addWork]
    split_ifs with last
    · exact fun _ => free
    · exact leasing.spent other

/-- A work gives its lease back, and the slot is free; both may change otherwise too. -/
theorem giveBack (leasing : picture.Leasing none) {id : WorkId} (held : (picture.work id).holds lease = true)
    {slotChange : Slot WorkId → Slot WorkId} (free : ∀ slot, (slotChange slot).leased = false)
    {change : Work → Work} (unleased : ∀ work, (change work).leased = false) :
    ((picture.modifyStation lease slotChange).modifyWork id change).Leasing none where
  single other := by
    have bound : id < picture.works.length := by
      by_contra beyond
      rw [work_of_not_lt beyond] at held
      exact Bool.noConfusion held
    have moved := countP_modify (·.holds other) change (works_getElem? bound)
    have gone : (change (picture.work id)).holds other = false := by rw [Work.holds, unleased, Bool.false_and]
    have single := leasing.single other
    rw [gone] at moved
    simp only [holders, reduceCtorEq, ↓reduceIte, Nat.add_zero, Bool.false_eq_true] at single moved
    simp only [holders, Picture.modifyWork, Picture.modifyStation, reduceCtorEq, ↓reduceIte, Nat.add_zero]
    by_cases here : other = lease
    · subst here
      have below := Bool.toNat_le (picture.station other).leased
      rw [held, if_pos rfl] at moved
      rw [Function.update_self, free, Bool.toNat_false]
      omega
    · have elsewhere : (picture.work id).holds other = false := by
        simp only [Work.holds, Bool.and_eq_true, beq_iff_eq] at held ⊢
        rw [held.2, Bool.and_eq_false_imp]
        exact fun _ => beq_eq_false_iff_ne.mpr fun same => here (Option.some.inj same).symm
      rw [elsewhere] at moved
      rw [Function.update_of_ne here, ← single]
      simpa using moved
  names := leasing.names
  spent other := by
    change ((picture.modifyWork id change).work other).phase.isSpent = true →
      ((picture.modifyWork id change).work other).leased = false
    rw [work_modifyWork]
    split_ifs
    · exact fun _ => unleased _
    · exact leasing.spent other

theorem vacated (leasing : picture.Leasing none) {id : WorkId} (vacated : picture.Vacated id after) :
    after.Leasing none ∧ (after.work id).leased = false := by
  have unleased : ((picture.modifyWork id ({ · with leased := false })).work id).leased = false := by
    rw [work_modifyWork]
    split_ifs with bound
    · rfl
    · rw [work_of_not_lt fun inside => bound ⟨rfl, inside⟩]
      rfl
  cases vacated with
  | held lease held => exact ⟨leasing.giveBack held (fun _ => rfl) fun _ => rfl, unleased⟩
  | bare bare =>
    refine ⟨⟨fun other => ?_, leasing.names, fun other => ?_⟩, unleased⟩
    · have same : (picture.works.modify id ({ · with leased := false })).countP (·.holds other) =
          picture.works.countP (·.holds other) := by
        refine countP_modify_same _ _ fun work found => ?_
        have this : picture.work id = work := by rw [Picture.work, found, Option.getD_some]
        rw [← this, bare, Work.holds, Bool.false_and]
      have single := leasing.single other
      rw [holders] at single
      rw [holders, Picture.modifyWork, same]
      exact single
    · rw [work_modifyWork]
      split_ifs
      · exact fun _ => rfl
      · exact leasing.spent other

theorem vacate (leasing : picture.Leasing none) {id : WorkId} (vacated : picture.Vacated id after) :
    (after.modifyWork id ({ · with phase := .vacated })).Leasing none := by
  obtain ⟨leasing, unleased⟩ := leasing.vacated vacated
  exact leasing.modifyWork id _ (fun _ => rfl) (fun _ => rfl) fun _ => unleased

theorem sent (leasing : picture.Leasing (some lease)) {thread : ThreadId} {work : Work}
    (sent : picture.Sent thread lease work after) (leased : work.leased = true)
    (station : work.station = some lease) (waiting : work.phase = .waiting) : after.Leasing none := by
  cases sent with
  | returned saved =>
    have slot := leasing.modifyStation lease ({ · with sender := false }) rfl
    exact (slot.addWork { work with
      phase := .running, snapshot := none, runs := thread :: work.runs, placement := .returned }
      leased station rfl).add (begun _ saved) rfl
  | begun helper saved =>
    have slot := leasing.modifyStation lease ({ · with helper := .busy helper picture.works.length }) rfl
    exact (slot.addWork { work with
      phase := .running, snapshot := none, runs := helper :: work.runs, placement := .helper helper }
      leased station rfl).add (ScopedWork.begun _ saved) rfl
  | queued =>
    have slot := leasing.modifyStation lease ({ · with waiting := some picture.works.length }) rfl
    exact slot.addWork { work with placement := .queued } leased station (by rw [waiting]; rfl)

theorem count (leasing : picture.Leasing hand) (work : WorkId) : (picture.count work).Leasing hand := by
  rw [Picture.count]
  split
  · exact leasing.modifyScope _ _
  · exact leasing

/-- A step leaves every slot with one holder. An activation is taken away when its work is over only
after it has come to be without leases, which the rules for running works see to. -/
theorem step (leasing : picture.Leasing none) {event : Event} (step : picture.Step event after)
    (bare : ∀ activation ∈ picture.crew, ∀ work, activation.role = .work work →
      (picture.work work).phase = .vacated → activation.leases = []) : after.Leasing none := by
  cases step with
  | quiet quiet => exact leasing.quiet quiet
  | enter quiet top =>
    exact ((leasing.quiet quiet).modifyScope _ _).exchange (quiet.crew_eq.trans top) rfl
  | drain departure top => exact (leasing.modifyScope _ _).exchange top rfl
  | leave top => exact (leasing.modifyScope _ _).exchange top rfl
  | shift top alike => exact leasing.exchange top alike.leases
  | acquire top _ _ new granted => exact (leasing.lend granted).keep (granted.crew_eq.trans top) new
  | dropLease top held => exact (leasing.take top held).release
  | passLease top held _ new =>
    rw [Multiset.cons_swap]
    exact (leasing.take top held).keep (Multiset.cons_swap _ _ _) new
  | dispatch top _ held sent => exact (leasing.take top held).sent sent rfl rfl rfl
  | submitCutShort => exact leasing.modifyScope _ _
  | submitInline top => exact ((leasing.modifyScope _ _).addFree rfl).add (begun _ []) rfl
  | submitPooled _ _ _ _ granted sent =>
    exact ((leasing.modifyScope _ _).lend granted).sent sent rfl rfl rfl
  | free top busy role vacated => exact (leasing.vacated vacated).1
  | @endLogic _ _ _ scope outcome saved top =>
    exact ((leasing.modifyScope _ _).modifyWork _
      (fun work => { work with
        phase := .recorded, failed := !outcome.isOk, unwound := (picture.scope scope).unwindsOn outcome })
      (fun _ => rfl) (fun _ => rfl) (absurd · Bool.false_ne_true)).exchange top rfl
  | @endJob _ activation others _ saved top _ _ _ _ _ vacated =>
    have shifted : (picture.withCrew ({ activation with saved } ::ₘ others)).Leasing none :=
      leasing.exchange top rfl
    exact shifted.vacate vacated
  | vacate _ vacated => exact leasing.vacate vacated
  | @complete activation others work top role vacated =>
    have inside : activation ∈ picture.crew := by rw [top]; exact Multiset.mem_cons_self _ _
    refine ((leasing.count work).modifyWork work (fun work => { work with phase := .over }) (fun _ => rfl)
      (fun _ => rfl) fun _ => ?_).remove
      ((picture.count_crew work).trans top) (bare activation inside work role vacated)
    rw [count_work]
    exact leasing.spent work (by rw [vacated]; rfl)
  | rest => exact leasing.modifyStation _ _ rfl
  | @next station helper _ next saved busy finished waiting =>
    exact ((leasing.modifyStation station ({ · with helper := .busy helper next, waiting := none })
      rfl).modifyWork next (fun work => { work with
        phase := .running, snapshot := none, runs := helper :: work.runs, placement := .helper helper })
        (fun _ => rfl) (fun _ => rfl) (absurd · Bool.false_ne_true)).add (begun next saved) rfl
  | dieAlone => exact leasing.modifyStation _ _ rfl
  | @die station _ _ lost busy finished waiting =>
    have held : (picture.work lost).holds station = true := by
      rw [Work.holds, waiting.leased, waiting.place]
      exact beq_self_eq_true _
    exact leasing.giveBack held (fun _ => rfl) fun _ => rfl
  | dropPool pool =>
    refine ⟨fun lease => (leasing.single lease).trans (congrArg Bool.toNat ?_), leasing.names, leasing.spent⟩
    simp only
    split <;> rfl
  | start => exact let added := leasing.add { within := _ } rfl; ⟨added.single, added.names, added.spent⟩
  | finish top _ bare => exact leasing.remove top bare.2

end Leasing

end Picture

end ScopedWork
