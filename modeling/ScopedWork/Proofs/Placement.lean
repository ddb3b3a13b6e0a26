import ScopedWork.Proofs.Acting
import ScopedWork.Proofs.Placing

/-! # Placement makes no difference

A plain program runs to its end from any session at rest, with the answers and the outlook that the plain
evaluation gives. That knows nothing of pools, so how many slots there are, which of them are leased,
which helpers live or can be started, and what concurrency the roots have cannot be told from what the
program sees.
-/

namespace ScopedWork

/-- The channel of an occupied slot may be cut; who runs on its helper goes on. -/
theorem Slot.Occupied.of_same_or_cut {slot later : Slot WorkId} {helper : Helper WorkId}
    (occupied : slot.Occupied helper)
    (awake : ∀ thread, helper ≠ .idle thread) (still : later = slot ∨ later = slot.cut) :
    later.Occupied helper := by
  rcases still with rfl | rfl
  · exact occupied
  · refine ⟨occupied.leased, occupied.empty, ?_⟩
    rw [Slot.cut, occupied.helper]
    cases helper with
    | absent | busy other work => rfl
    | idle thread => exact absurd rfl (awake thread)

namespace Program

open Failure (Payload TaskError)

variable {onward : Onward} {thread worker : ThreadId} {session : Session} {scope : ScopeId}

/-! ## The end of a logic -/

/-- What is left to do for a logic once it has cleaned up: its thread ends it, and a helper turns to its
channel. -/
def closeLogic (onward : Onward) (worker : ThreadId) (number : WorkId) (record : Work)
    (outcome : Except TaskError Unit) : Run (Option Payload) := do
  Run.changeSystem (·.finishLogic worker number outcome)
  Run.changeSystem (·.dismiss)
  match record.placement, record.station with
  | .helper helper, some station =>
    afterWork onward helper station false
    return none
  | _, _ => return none

theorem yields_closeLogic {system after : System} {work : Work} {last : Session}
    (begun : system.Begun thread scope worker work after) (inner : after.Minds worker last.system)
    (outcome : Except TaskError Unit) :
    ∃ finished final,
      (closeLogic onward worker system.works.length work outcome).Yields last none (last.setSystem final) ∧
        last.system.Finishes worker system.works.length scope outcome finished ∧
          finished.Rests worker work.held final := by
  have recorded := begun.work_eq inner
  have kind : (last.system.work system.works.length).kind = .logic scope := by rw [recorded, begun.kind]
  have finishes := System.finishes inner.ready.active kind outcome
  let finished := last.system.finishLogic worker system.works.length outcome
  have calm := finishes.calm inner.ready
  have slot {lease : Lease} {helper : Helper WorkId} (holds : work.held = some lease)
    (awake : ∀ thread, helper ≠ .idle thread)
      (occupied : (after.station lease).Occupied helper) :
      (finished.station lease).waiting = none ∧ (finished.station lease).helper = helper := by
    have still := occupied.of_same_or_cut awake (inner.slots lease occupied.leased)
    rw [finishes.released lease (recorded ▸ holds)]
    exact ⟨still.empty, still.helper⟩
  have closing {final : System} {run : Run (Option Payload)}
      (rest : run.Yields ((last.setSystem finished).setSystem finished.dismiss) none (last.setSystem final)) :
      (Run.changeSystem (·.finishLogic worker system.works.length outcome) >>= fun _ =>
        Run.changeSystem (·.dismiss) >>= fun _ => run).Yields last none (last.setSystem final) :=
    (Run.yields_changeSystem _ last).bind ((Run.yields_changeSystem _ _).bind rest)
  cases begun.site with
  | inline placed bare =>
    refine ⟨finished, finished.dismiss, closing ?_, finishes, System.dismiss_rests calm _ fun lease holds => ?_⟩
    · rw [placed]
      exact Run.yields_pure _ _
    · exact absurd (bare.symm.trans holds).symm (Option.some_ne_none lease)
  | @returned _ lease placed holds occupied =>
    refine ⟨finished, finished.dismiss, closing ?_, finishes, System.dismiss_rests calm _ fun other held => ?_⟩
    · rw [placed]
      exact Run.yields_pure _ _
    · obtain rfl : lease = other := Option.some.inj (holds.symm.trans held)
      exact slot holds (fun _ => by simp only [ne_eq, reduceCtorEq, not_false_eq_true]) occupied
  | @helper _ lease _ away placed holds occupied =>
    obtain ⟨empty, busy⟩ := slot holds (fun _ => by simp only [ne_eq, reduceCtorEq, not_false_eq_true]) occupied
    have asleep : (finished.thread worker).activations = [] := by
      obtain ⟨saved, chain, -⟩ := begun.chain
      rw [finishes.here]
      dsimp only
      rw [inner.chain, chain, List.tail_cons, begun.asleep away]
    obtain ⟨final, turned, rests⟩ := System.helperNext_rests calm asleep empty busy
    refine ⟨finished, final, closing ?_, finishes, holds ▸ rests⟩
    rw [placed, Work.station_of_held holds]
    have asked := Run.yields_onSystem (·.helperNext worker lease)
      ((last.setSystem finished).setSystem finished.dismiss)
    change (Run.onSystem _).Yields _ (finished.dismiss.helperNext worker lease).1
      (Session.setSystem _ (finished.dismiss.helperNext worker lease).2) at asked
    rw [turned] at asked
    have goesOn : (afterWork onward worker lease false).Yields ((last.setSystem finished).setSystem finished.dismiss) ()
        (last.setSystem final) := by
      simp only [afterWork, Bool.false_eq_true, ↓reduceIte]
      refine asked.bind ?_
      exact Run.yields_pure () _
    exact goesOn.bind (Run.yields_pure _ _)

/-- The program of a logic is over: it says so, decides how it ends, cleans up, and its outcome is caught.
Then there is the logic to be closed. -/
theorem yields_concludeWork (ready : session.Ready worker) (fit : (session.outlook worker).Fit)
    (bare : (session.outlook worker).leases = []) {number : WorkId} (inUse : number < session.system.works.length)
    (kind : (session.system.work number).kind = .logic scope) (voice : Voice) (ending : Ending) :
    ∃ outcome last, session.system.Minds worker last.system ∧ last.paused = session.paused ∧
      (outcome, last.outlook worker) = (session.outlook worker).finish voice ending ∧
      ∀ final, (closeLogic onward worker number (session.system.work number) outcome).Yields last none final →
        (concludeWork onward worker number voice ending none).Yields session none final := by
  obtain ⟨⟨⟩, said, speaks, -, seenSaid, pausedSaid, mindsSaid⟩ :=
    leads_say ready voice (rfl : (Event.ended voice.label).outline = (Event.ended voice.label).outline)
  have readySaid := ready.after_minds pausedSaid mindsSaid
  obtain ⟨outcome, decided, decides, chosen, seenDecided, pausedDecided, mindsDecided⟩ :=
    leads_decideOutcome readySaid ending
  have readyDecided := readySaid.after_minds pausedDecided mindsDecided
  have kept := Outlook.keeps_say fit voice (.ended voice.label)
  rw [← seenSaid] at kept
  have keptDecided := Outlook.keeps_decideOutcome kept.fit ending
  rw [← seenDecided] at keptDecided
  obtain ⟨⟨⟩, cleaned, cleans, -, seenCleaned, pausedCleaned, mindsCleaned⟩ :=
    @leads_cleanUp onward worker decided readyDecided keptDecided.fit
      (keptDecided.leases.trans (kept.leases.trans bare))
  have readyCleaned := readyDecided.after_minds pausedCleaned mindsCleaned
  obtain ⟨result, last, catches, told, seenLast, pausedLast, mindsLast⟩ := leads_caught readyCleaned outcome
  have through := (mindsSaid.trans mindsDecided).trans mindsCleaned
  refine ⟨result, last, through.trans mindsLast, ?_, ?_, fun final closed => ?_⟩
  · rw [pausedLast, pausedCleaned, pausedDecided, pausedSaid]
  · rw [told, seenLast, seenCleaned, seenDecided, chosen, seenSaid]
    rfl
  · have recorded := through.recorded number inUse
    have spoken : (lastOutcome worker voice ending none).Yields session outcome decided := speaks.bind decides
    refine spoken.bind (cleans.bind ((Run.yields_system cleaned).bind ?_))
    rw [recorded]
    simp only [kind]
    refine catches.bind ?_
    rw [closeLogic] at closed
    generalize (session.system.work number).placement = placement, (session.system.work number).station = station
      at closed ⊢
    cases placement with
    | helper helper => cases station <;> exact closed
    | inline | queued | returned => exact closed

/-! ## A logic from beginning to end -/

/-- The program of a logic begins bare, in its submitter's stack, wherever it runs. -/
theorem outlook_begun {after : System} {work : Work} (begun : session.system.Begun thread scope worker work after) :
    (session.setSystem after).outlook worker =
      ((session.outlook thread).modifyScope scope Scope.countDispatched).bare := by
  obtain ⟨saved, chain, -⟩ := begun.chain
  have kept := begun.kept
  have fresh : after.activation worker = ScopedWork.begun session.system.works.length saved := by
    rw [System.activation, chain]
    rfl
  have counts (record : Scope) : record.countDispatched.outline = record.outline.countDispatched := rfl
  have scopes : after.scopes.map Scope.outline =
    (session.system.scopes.map Scope.outline).modify scope Scope.countDispatched :=
    begun.outlines.trans (map_modify_of_comm counts session.system.scopes scope)
  simp only [Session.outlook, Session.setSystem, fresh, scopes, begun.stack]
  rw [kept]
  rfl

private theorem outline_record (outcome : Except TaskError Unit) (record : Scope) :
    (record.record outcome).outline = record.outline.record outcome := by
  obtain ⟨_, _, _, _, _, _, _, _, _, _, failure⟩ := record
  cases outcome with
  | ok => rfl
  | error cause => cases failure <;> rfl

/-- Once a logic is closed, its submitter sees what the logic has left, and has what it had. -/
theorem outlook_closed {finished final : System} {last : Session} {number : WorkId} {spot : Option Lease}
    {outcome : Except TaskError Unit} (finishes : last.system.Finishes worker number scope outcome finished)
    (rests : finished.Rests worker spot final) (stack : final.stack thread = session.system.stack thread)
    (activations : (final.thread thread).activations = (session.system.thread thread).activations) :
    (last.setSystem final).outlook thread =
      (((last.outlook worker).modifyScope scope (·.record outcome)).modifyScope scope Scope.complete).backTo
        (session.outlook thread) := by
  have same : final.activation thread = session.system.activation thread := by
    rw [System.activation, activations, System.activation]
  have kept := rests.kept
  rw [finishes.kept] at kept
  have scopes : final.scopes.map Scope.outline =
      ((last.system.scopes.map Scope.outline).modify scope (·.record outcome)).modify scope Scope.complete := by
    have completes (record : Scope) : record.complete.outline = record.outline.complete := rfl
    rw [kept]
    dsimp only
    rw [map_modify_of_comm completes,
      @map_modify_of_comm _ _ Scope.outline _ (·.record outcome) (outline_record outcome)]
  simp only [Session.outlook, Session.setSystem, same, stack, scopes]
  rw [kept]
  rfl

/-- A session in which a logic has begun is ready for the thread that has begun it. -/
theorem Session.Ready.after_begun {after : System} {work : Work} (ready : session.Ready thread)
    (begun : session.system.Begun thread scope worker work after) : (session.setSystem after).Ready worker where
  system := begun.ready
  jobs number entry stands := by
    obtain ⟨bound, job⟩ := ready.jobs number entry stands
    have count : after.works.length = session.system.works.length + 1 := by
      rw [begun.works]
      exact List.length_append
    refine ⟨count ▸ Nat.lt_succ_of_lt bound, ?_⟩
    rw [Session.setSystem, System.work_of_append begun.works, if_neg (Nat.ne_of_lt bound), job]

/-- Whoever runs a logic that was placed where it has begun: its submitter goes on once it is over. -/
private theorem yields_runPlaced {after : System} {work : Work} {number : WorkId} {first last : Session}
    (site : after.Site thread number worker work) {waiting : Option (Logic Op)}
    {run : ThreadId → Run (Option Payload)}
    (ran : (run worker).Yields first none last) :
    (runPlaced thread number work.placement waiting run).Yields first none last := by
  cases site with
  | inline placed => rw [placed]; exact ran
  | returned placed => rw [placed]; exact ran
  | helper _ placed =>
    rw [placed]
    exact ran.settled.bind (Run.yields_pure none last)

/-- A logic whose operations go through leads its submitter to what the logic leaves, wherever it runs. -/
theorem leads_logic (ready : session.Ready thread) (scope : ScopeId) (voice : Voice) (ending : Ending)
    {ops : ThreadId → Run (List Reply)} {inner : Outlook}
    (kept : ((session.outlook thread).begin scope voice).Keeps inner)
    (body : ∀ worker begun, begun.Ready worker →
      begun.outlook worker = (session.outlook thread).begin scope voice →
      (ops worker).Leads worker begun (fun _ => True) inner) :
    (do
      let (work, placement) ← Run.tryOnSystem (·.submit thread scope)
      let _ ← runPlaced thread work placement none fun thread =>
        asProgram onward thread work voice ending (ops thread)
      return placement != .inline : Run Bool).Leads thread session (fun _ => True)
        ((inner.conclude scope voice ending).backTo (session.outlook thread)) := by
  obtain ⟨worker, work, after, submitted, begun⟩ := System.submit_begun ready.system scope
  let first := session.setSystem after
  have readyFirst : first.Ready worker := ready.after_begun begun
  have bare : first.outlook worker = _ := outlook_begun begun
  -- its first word
  obtain ⟨⟨⟩, said, speaks, -, seen, paused, minds⟩ := leads_say readyFirst voice
    (rfl : (Event.started voice.label (first.system.thread worker).name).outline =
      (Event.started voice.label "").outline)
  rw [bare] at seen
  have readySaid := readyFirst.after_minds paused minds
  -- its operations
  obtain ⟨_, ran, runs, ⟨replies, rfl, -⟩, seenRan, pausedRan, mindsRan⟩ :=
    (body worker said readySaid seen).attempt
  have readyRan := readySaid.after_minds pausedRan mindsRan
  -- its end
  have during := minds.trans mindsRan
  have inUse : session.system.works.length < first.system.works.length := by
    change _ < after.works.length
    rw [begun.works, List.length_append]
    exact Nat.lt_succ_self _
  have recorded : ran.system.work session.system.works.length = work := begun.work_eq during
  have leases : (ran.outlook worker).leases = [] := by
    rw [seenRan, kept.leases, Outlook.begin, Outlook.say]
    split_ifs
    · rfl
    · rfl
  obtain ⟨outcome, last, mindsLast, pausedLast, told, ends⟩ := @yields_concludeWork onward worker ran scope readyRan
    (seenRan ▸ kept.fit) leases _ (Nat.lt_of_lt_of_le inUse during.works) (by rw [recorded, begun.kind]) voice ending
  have whole := during.trans mindsLast
  obtain ⟨finished, final, closes, finishes, rests⟩ :=
    @yields_closeLogic onward thread worker scope _ _ _ last begun whole outcome
  rw [recorded] at ends
  -- what it leaves
  rw [seenRan] at told
  have back : last.system.stack worker = session.system.stack thread := by
    have saw : last.outlook worker = (inner.finish voice ending).2 := congrArg Prod.snd told
    have stack : (last.outlook worker).stack = ((session.outlook thread).begin scope voice).stack := by
      rw [saw]
      exact kept.stack_finish (Outlook.handles_begin ..) voice ending
    refine stack.trans ?_
    rw [Outlook.begin, Outlook.say]
    split_ifs
    · rfl
    · rfl
  obtain ⟨stack, activations⟩ := begun.thread_eq ready.system whole back finishes rests
  refine ⟨work.placement != .inline, last.setSystem final, (Run.yields_tryOnSystem submitted).bind ?_,
    trivial, ?_, ?_,
    begun.minds ready.system whole back finishes rests⟩
  · have program : (asProgram onward worker session.system.works.length voice ending (ops worker)).Yields first none
        (last.setSystem final) :=
      (Run.yields_system first).bind (speaks.bind (runs.bind (ends _ closes)))
    exact (@yields_runPlaced _ _ _ _ _ _ _ begun.site none
      (fun thread => asProgram onward thread _ voice ending (ops thread))
      program).bind (Run.yields_pure _ _)
  · rw [outlook_closed finishes rests stack activations, Outlook.conclude, ← told]
  · exact pausedLast.trans (pausedRan.trans paused)

/-! ## Programs -/

/-- The answers of a block are as the outlook has them, in order. -/
def Answered (ops : List Op) (done shown replies : List Reply) : Prop :=
  ∃ new, replies = done ++ new ∧ new.length = ops.length ∧ outlines ops new = shown

/-- What is done inside a context without a name leads to the outlook in which the context is left. -/
private theorem leads_insideHidden (ready : session.Ready thread) {run : ScopeId → Run Unit} {inner : Outlook}
    (kept : ((session.outlook thread).enter .hidden).2.Keeps inner)
    (goesOn : ∀ after : Session, after.outlook thread = ((session.outlook thread).enter .hidden).2 →
      after.Ready thread →
      (run ((session.outlook thread).enter .hidden).1).Leads thread after (fun _ => True) inner) :
    (insideHidden onward thread run).Leads thread session (· = inner.report ((session.outlook thread).enter .hidden).1)
      (inner.leave ((session.outlook thread).enter .hidden).1) := by
  have enters := leads_enter ready .hidden
  have hidden := Outlook.mem_enter (session.outlook thread) .hidden
  generalize (session.outlook thread).enter .hidden = entered at enters kept goesOn hidden ⊢
  refine enters.bind ready fun scope after number seen ready => ?_
  subst number
  refine (goesOn after seen ready).attempt.bind ready ?_
  rintro _ last ⟨⟨⟩, rfl, -⟩ seen' ready
  have present := kept.lent _ hidden fun _ => Tenure.noConfusion
  have fit := kept.fit
  rw [← seen'] at fit present ⊢
  exact @leads_exitContext onward thread last ready fit { scope := entered.1, tenure := .hidden } present

/-- The end of a block to which a context was lent leaves the context, and answers from what was reported. -/
private theorem leads_endWithContext (ready : session.Ready thread) (fit : (session.outlook thread).Fit)
    {handle : Handle}
    (present : handle ∈ (session.outlook thread).handles) (value : String) (panic : Option Payload) :
    let ended := match panic, (session.outlook thread).report handle.scope with
      | some payload, _ => (Reply.panicked payload, (session.outlook thread).leave handle.scope)
      | none, none => (.returned value, (session.outlook thread).leave handle.scope)
      | none, some error => ((session.outlook thread).leave handle.scope).joined (some error)
    (endWithContext onward thread handle.scope value panic).Leads thread session
      (fun reply => reply.outline (.word "with_context") = ended.1) ended.2 := by
  cases panic with
  | some payload =>
    refine (leads_dropContext ready fit present).bind ready fun _ after _ seen ready => ?_
    rw [← seen]
    exact .pure ready rfl
  | none =>
    refine (leads_exitContext ready fit present).bind ready fun error after reported seen ready => ?_
    rw [← seen, ← reported]
    cases error with
    | none => exact .pure ready rfl
    | some error => exact (leads_joinReply ready (some error)).imp fun reply answer => by rw [answer]; rfl

mutual

/-- A block of plain operations does to the outlook what it is evaluated to. -/
theorem leads_runOps (voice : Voice) (logged : Bool) (block : BlockCont) : (ops : List Op) → (done : List Reply) →
    {thread : ThreadId} → {session : Session} → session.Ready thread → (session.outlook thread).Fit →
    Op.arePlain ops = true →
    (runOps onward thread voice logged block done ops).Leads thread session
      (Answered ops done ((session.outlook thread).performAll voice logged ops).1)
      ((session.outlook thread).performAll voice logged ops).2
  | [], done, thread, session, ready, _, _ => by
    rw [runOps, Outlook.performAll]
    exact .pure ready ⟨[], (List.append_nil done).symm, rfl, rfl⟩
  | op :: rest, done, thread, session, ready, fit, plain => by
    rw [Op.arePlain, Bool.and_eq_true] at plain
    have kept := Outlook.keeps_perform voice op fit
    rw [runOps, Outlook.performAll]
    refine (leads_runOp voice _ op ready fit plain.1).bind ready fun reply after answer seen ready => ?_
    refine (leads_afterOp ready voice logged op.title answer).bind ready fun _ after' _ seen' ready => ?_
    have fit : (after'.outlook thread).Fit := by
      rw [seen', seen]
      split_ifs
      · exact (Outlook.keeps_say kept.fit voice _).fit
      · exact kept.fit
    have goesOn := leads_runOps voice logged block rest (done ++ [reply]) ready fit plain.2
    rw [seen', seen] at goesOn
    refine goesOn.imp ?_
    rintro replies ⟨new, rfl, length, shown⟩
    refine ⟨reply :: new, ?_, congrArg (· + 1) length, ?_⟩
    · rw [List.append_assoc, List.singleton_append]
    · rw [outlines, List.zipWith_cons_cons, answer]
      exact congrArg (_ :: ·) shown

/-- A plain operation answers from the outlook, and does to it what it is evaluated to. -/
theorem leads_runOp (voice : Voice) (rest : OpCont) : (op : Op) → {thread : ThreadId} → {session : Session} →
    session.Ready thread → (session.outlook thread).Fit → op.isPlain = true →
    (runOp onward thread voice rest op).Leads thread session
      (fun reply => reply.outline op.title = ((session.outlook thread).perform voice op).1)
      ((session.outlook thread).perform voice op).2
  | .act act, thread, session, ready, _, plain => by
    rw [Outlook.perform]
    exact leads_act ready plain
  | .exec context logic, thread, session, ready, fit, plain => by
    rw [Op.isPlain] at plain
    rw [runOp, Outlook.perform, context?_outlook]
    refine .system ?_
    cases found : session.system.context? thread context with
    | none => exact .pure ready rfl
    | some scope =>
      obtain ⟨handle, present, rfl⟩ := @Outlook.mem_of_context? (session.outlook thread) context scope found
      dsimp only
      refine (leads_runLogic logic true ready fit present plain).bind ready fun _ after _ seen ready => ?_
      rw [← seen]
      exact .pure ready rfl
  | .executeAll logics, thread, session, ready, fit, plain => by
    rw [Op.isPlain] at plain
    rw [runOp, Outlook.perform]
    have entered := (Outlook.keeps_enter fit .hidden).fit
    have present := Outlook.mem_enter (session.outlook thread) .hidden
    have kept := Outlook.keeps_performLogics logics entered present
    refine (leads_insideHidden ready kept fun after seen ready => ?_).bind ready
      fun error after reported seen ready => ?_
    · rw [← seen] at entered present ⊢
      exact leads_runLogics logics ready entered present plain
    · dsimp only
      rw [← seen, ← reported]
      exact (leads_joinReply ready error).imp fun reply answer => by rw [answer]; rfl
  | .exit context, thread, session, ready, fit, _ => by
    rw [runOp, Outlook.perform, ownContext?_outlook]
    refine .system ?_
    cases found : session.system.ownContext? thread context with
    | none => exact .pure ready rfl
    | some scope =>
      obtain ⟨handle, present, rfl, -⟩ := @Outlook.mem_of_ownContext? (session.outlook thread) context scope found
      dsimp only
      refine (leads_exitContext ready fit present).bind ready fun error after reported seen ready => ?_
      rw [← seen, ← reported]
      exact (leads_joinReply ready error).imp fun reply answer => by rw [answer]; rfl
  | .drop context, thread, session, ready, fit, _ => by
    rw [runOp, Outlook.perform, ownContext?_outlook]
    refine .system ?_
    cases found : session.system.ownContext? thread context with
    | none => exact .pure ready rfl
    | some scope =>
      obtain ⟨handle, present, rfl, -⟩ := @Outlook.mem_of_ownContext? (session.outlook thread) context scope found
      dsimp only
      refine (leads_dropContext ready fit present).bind ready fun _ after _ seen ready => ?_
      rw [← seen]
      exact .pure ready rfl
  | .withContext name body value panic, thread, session, ready, fit, plain => by
    rw [Op.isPlain] at plain
    rw [runOp, Outlook.perform, isTaken_outlook]
    refine .system ?_
    cases session.system.isTaken thread name with
    | true => exact .pure ready rfl
    | false =>
      dsimp only
      refine (leads_enter ready (.lent name)).bind ready fun scope after number seen ready => ?_
      subst number
      have entered := Outlook.keeps_enter fit (.lent name)
      have present := Outlook.mem_enter (session.outlook thread) (.lent name)
      rw [← seen] at entered present ⊢
      have kept := Outlook.keeps_performAll voice true body entered.fit
      refine (leads_runOps voice true _ body [] ready entered.fit plain).attempt.bind ready ?_
      rintro _ after' ⟨replies, rfl, -⟩ seen' ready
      have still := kept.lent _ present fun _ => Tenure.noConfusion
      rw [← seen'] at kept still ⊢
      exact leads_endWithContext ready kept.fit still value panic
  | .acquire .., _, _, _, _, plain | .hold, _, _, _, _, plain | .release _, _, _, _, _, plain
  | .concurrent _, _, _, _, _, plain | .dispatch .., _, _, _, _, plain | .attach .., _, _, _, _, plain
  | .thread .., _, _, _, _, plain | .repeated .., _, _, _, _, plain | .burst .., _, _, _, _, plain
  | .sum .., _, _, _, _, plain | .dropPool .., _, _, _, _, plain => absurd plain Bool.false_ne_true

/-- A plain logic does to its submitter's outlook what it is evaluated to. -/
theorem leads_runLogic : (logic : Logic Op) → (tried : Bool) → {thread : ThreadId} → {session : Session} →
    session.Ready thread → (session.outlook thread).Fit → {handle : Handle} →
    handle ∈ (session.outlook thread).handles → Op.isPlainLogic logic = true →
    (runLogic onward thread handle.scope tried logic).Leads thread session (fun _ => True)
      ((session.outlook thread).performLogic handle.scope tried logic)
  | ⟨label, quiet, body, declared⟩, tried, thread, session, ready, fit, handle, present, plain => by
    rw [Op.isPlainLogic] at plain
    have bare : ((session.outlook thread).begin handle.scope { label, quiet }).Fit :=
      Outlook.fit_of_bare (Outlook.handles_begin ..)
    rw [runLogic, Outlook.performLogic]
    refine leads_logic ready handle.scope { label, quiet } _
      (Outlook.keeps_performAll { label, quiet } true body bare) ?_
    intro worker begun ready seen
    have goesOn := @leads_runOps { label, quiet } true
      (.program (if tried then declared else declared.withoutError)) body [] worker begun ready (seen ▸ bare) plain
    rw [seen] at goesOn
    exact goesOn.imp fun _ _ => trivial

theorem leads_runLogics : (logics : List (Logic Op)) → {thread : ThreadId} → {session : Session} →
    session.Ready thread → (session.outlook thread).Fit → {handle : Handle} →
    handle ∈ (session.outlook thread).handles → Op.arePlainLogics logics = true →
    (runLogics onward thread handle.scope logics).Leads thread session (fun _ => True)
      ((session.outlook thread).performLogics handle.scope logics)
  | [], thread, session, ready, _, _, _, _ => by
    rw [runLogics, Outlook.performLogics]
    exact .pure ready trivial
  | logic :: rest, thread, session, ready, fit, handle, present, plain => by
    rw [Op.arePlainLogics, Bool.and_eq_true] at plain
    have kept := Outlook.keeps_performLogic logic false fit present
    rw [runLogics, Outlook.performLogics]
    refine (leads_runLogic logic false ready fit present plain.1).bind ready fun _ after _ seen ready => ?_
    rw [← seen] at kept ⊢
    refine leads_runLogics rest ready kept.fit ?_ plain.2
    rw [seen]
    cases logic
    rwa [Outlook.performLogic]

end

end Program

end ScopedWork
