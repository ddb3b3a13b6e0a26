import ScopedWork.Proofs.Conduct

/-! # Acts, words and endings

What a program does besides entering and leaving contexts and submitting logics: it performs acts,
writes to the log, keeps what its joins report, decides how it ends, and cleans up. After an operation
pools that nothing refers to lose their helpers, which no program sees.
-/

namespace ScopedWork.Program

variable {onward : Onward} {thread : ThreadId} {session : Session}

/-! ## Answers without placements -/

theorem Reply.outline_outline (operation : Title) (reply : Reply) :
    (reply.outline operation).outline operation = reply.outline operation := by
  cases reply with
  | number n =>
    rw [outline]
    split_ifs with set
    · rw [outline, if_pos set]
    · rw [outline, if_neg set]
  | _ => rfl

/-! ## Words -/

theorem outlook_say (session : Session) (thread : ThreadId) (voice : Voice) (event : Event) :
    (session.say voice event).outlook thread = (session.outlook thread).say voice event := by
  rw [Session.say, Outlook.say]
  split_ifs
  · rfl
  · rfl

/-- A word in the log, as far as a program can tell. -/
theorem leads_say (ready : session.Ready thread) (voice : Voice) {event shown : Event}
    (same : event.outline = shown.outline) :
    (Run.change (·.say voice event)).Leads thread session (fun _ => True)
    ((session.outlook thread).say voice shown) := by
  refine ⟨(), session.say voice event, Run.yields_change _ session, trivial, ?_, ?_, ?_⟩
  · rw [outlook_say, Outlook.say, Outlook.say, same]
  · rw [Session.say]
    split_ifs
    · rfl
    · rfl
  · rw [Session.say]
    split_ifs
    · exact .refl ready.system
    · exact .refl ready.system

/-- A program does not see helpers being dismissed. -/
theorem outlook_dismisses {system : System} (dismisses : session.system.Dismisses system)
    (awake : ∀ lease, (session.system.station lease).helper ≠ .idle thread) :
    (session.setSystem system).outlook thread = session.outlook thread := by
  have kept := dismisses.kept
  refine outlook_congr ?_ ?_ ?_ ?_ ?_ ?_ (dismisses.others thread awake)
  all_goals rw [kept]

theorem leads_dismiss (ready : session.Ready thread) :
    (Run.changeSystem (·.dismiss)).Leads thread session (fun _ => True) (session.outlook thread) := by
  have dismisses := System.dismisses_dismiss session.system
  refine ⟨(), _, Run.yields_changeSystem _ session, trivial, ?_, rfl, dismisses.minds ready.system⟩
  refine outlook_dismisses dismisses fun lease idle => ready.system.active ?_
  exact (ready.system.staffed.rested lease thread idle).2

/-- After an operation, its answer may be logged. -/
theorem leads_afterOp (ready : session.Ready thread) (voice : Voice) (logged : Bool) (op : Title) {reply shown : Reply}
    (same : reply.outline op = shown) :
    (afterOp voice logged op reply).Leads thread session (fun _ => True)
      (if logged then (session.outlook thread).say voice (.replied voice.label op shown)
      else session.outlook thread) := by
  cases logged with
  | false =>
    simp only [afterOp, Bool.false_eq_true, ↓reduceIte]
    exact leads_dismiss ready
  | true =>
    have word : (Event.replied voice.label op reply).outline = (Event.replied voice.label op shown).outline := by
      rw [Event.outline, Event.outline, ← same, Reply.outline_outline]
    simp only [afterOp, ↓reduceIte]
    refine (leads_say ready voice word).bind ready fun _ after _ seen ready => ?_
    rw [← seen]
    exact leads_dismiss ready

/-- What a join reports is answered and kept. -/
theorem leads_joinReply (ready : session.Ready thread) (error : Option Failure.ContextError) :
    (joinReply thread error).Leads thread session (· = ((session.outlook thread).joined error).1)
      ((session.outlook thread).joined error).2 := by
  have minds : session.system.Minds thread (session.system.noteError thread error) :=
    System.minds_modifyActivation ready.system fun _ => rfl
  exact ⟨.joined error, _, (Run.yields_changeSystem _ session).bind (Run.yields_pure _ _), rfl,
    outlook_modifyActivation ready.system.active _, rfl, minds⟩

/-! ## Endings -/

theorem leads_resumePanic (ready : session.Ready thread) (panic : Failure.Panic) :
    (resumePanic panic).Leads thread session (· = ((session.outlook thread).resumePanic panic).1)
      ((session.outlook thread).resumePanic panic).2 :=
  ⟨_, _, (Run.yields_onSystem _ session).bind (Run.yields_pure _ _), rfl, rfl, rfl,
    System.minds_of_same ready.system rfl rfl rfl rfl rfl⟩

theorem leads_decideOutcome (ready : session.Ready thread) (ending : Ending) :
    (decideOutcome thread ending).Leads thread session (· = ((session.outlook thread).decideOutcome ending).1)
      ((session.outlook thread).decideOutcome ending).2 := by
  cases ending with
  | success | panic payload | fail failing | bomb => exact .pure ready rfl
  | rethrow =>
    have panic : (session.outlook thread).lastPanic? = lastPanic? session.system thread := rfl
    have error : (session.outlook thread).lastError = (session.system.activation thread).lastError := rfl
    refine .system ?_
    rw [Outlook.decideOutcome, panic, error]
    cases lastPanic? session.system thread with
    | some panic => exact leads_resumePanic ready panic
    | none =>
      cases (session.system.activation thread).lastError with
      | some error => exact .pure ready rfl
      | none => exact .pure ready rfl
  | repanic =>
    have panic : (session.outlook thread).lastPanic? = lastPanic? session.system thread := rfl
    refine .system ?_
    rw [Outlook.decideOutcome, panic]
    cases lastPanic? session.system thread with
    | some panic => exact leads_resumePanic ready panic
    | none => exact .pure ready rfl

theorem leads_caught (ready : session.Ready thread) (outcome : Outcome) :
    outcome.caught.Leads thread session (· = ((session.outlook thread).catchOutcome outcome).1)
      ((session.outlook thread).catchOutcome outcome).2 := by
  cases outcome with
  | success | failed cause => exact .pure ready rfl
  | panicked payload | bombed =>
    exact ⟨_, _, (Run.yields_onSystem _ session).bind (Run.yields_pure _ _), rfl, rfl, rfl,
      System.minds_of_same ready.system rfl rfl rfl rfl rfl⟩

/-! ## Cleaning up -/

theorem leads_dropContexts {handles : List Handle} {session : Session} (ready : session.Ready thread)
    (fit : (session.outlook thread).Fit) (all : (session.outlook thread).handles = handles) :
    (dropContexts onward thread handles).Leads thread session (fun _ => True)
      ((session.outlook thread).leaveAll handles) := by
  induction handles generalizing session with
  | nil => exact .pure ready trivial
  | cons handle rest ih =>
    have present : handle ∈ (session.outlook thread).handles := all ▸ List.mem_cons_self
    refine (leads_dropContext ready fit present).bind ready fun _ after _ seen ready => ?_
    have fewer : (after.outlook thread).handles = rest := by
      rw [seen]
      exact fit.handles_leave all
    rw [Outlook.leaveAll, ← seen]
    exact ih ready (seen ▸ fit.leave handle.scope) fewer

/-- To give leases back changes pools only. -/
private theorem foldl_release (leases : List (String × Lease)) (system : System) :
    leases.foldl (fun system lease => system.release lease.2) system =
      { system with pools := (leases.foldl (fun system lease => system.release lease.2) system).pools } := by
  induction leases generalizing system with
  | nil => rfl
  | cons lease rest ih => exact ih (system.release lease.2)

theorem outlook_dropLeases (active : (session.system.thread thread).activations ≠ []) :
    (session.setSystem (session.system.dropLeases thread)).outlook thread =
      { session.outlook thread with leases := [] } := by
  let released := (session.system.activation thread).leases.foldl (fun system lease => system.release lease.2)
    session.system
  have kept : released = { session.system with pools := released.pools } := foldl_release _ _
  have same : (session.setSystem released).outlook thread = session.outlook thread := by
    rw [kept]
    rfl
  have awake : (released.thread thread).activations ≠ [] := by
    rw [kept]
    exact active
  have dropped : (session.setSystem (session.system.dropLeases thread)).outlook thread =
      { (session.setSystem released).outlook thread with leases := [] } :=
    @outlook_modifyActivation thread (session.setSystem released) awake _
  rw [dropped, same]

theorem minds_dropLeases {system : System} (ready : system.Ready thread)
    (bare : (system.activation thread).leases = []) : system.Minds thread (system.dropLeases thread) := by
  rw [System.dropLeases, bare]
  exact System.minds_modifyActivation ready fun _ => rfl

private theorem leases_leaveAll (outlook : Outlook) (handles : List Handle) :
    (outlook.leaveAll handles).leases = outlook.leases := by
  induction handles generalizing outlook with
  | nil => rfl
  | cons handle rest ih => exact ih (outlook.leave handle.scope)

/-- A program without leases leaves its contexts when it cleans up. -/
theorem leads_cleanUp (ready : session.Ready thread) (fit : (session.outlook thread).Fit)
    (bare : (session.outlook thread).leases = []) :
    (cleanUp onward thread).Leads thread session (fun _ => True) (session.outlook thread).cleanUp := by
  refine .system ?_
  refine (leads_dropContexts ready fit rfl).bind ready fun _ after _ seen ready => ?_
  have none : (after.outlook thread).leases = [] := by
    rw [seen, leases_leaveAll, bare]
  have shown := outlook_dropLeases ready.system.active
  rw [← none, seen] at shown
  exact ⟨(), _, Run.yields_changeSystem _ after, trivial, shown, rfl,
    minds_dropLeases ready.system (List.map_eq_nil_iff.mp none)⟩

/-- A program that has leases gives them back besides. -/
theorem yields_cleanUp (ready : session.Ready thread) (fit : (session.outlook thread).Fit) :
    ∃ after, (cleanUp onward thread).Yields session () after ∧
      after.outlook thread = { (session.outlook thread).cleanUp with leases := [] } := by
  obtain ⟨⟨⟩, left, yielded, -, seen, paused, minds⟩ := leads_dropContexts ready fit rfl
  have ready := ready.after_minds paused minds
  refine ⟨_, (Run.yields_system session).bind (yielded.bind (Run.yields_changeSystem _ left)), ?_⟩
  rw [outlook_dropLeases ready.system.active, seen]
  rfl

/-! ## Acts -/

section Acts

variable {rest : OpCont} {voice : Voice}

/-- An act that answers as the outlook has it, and changes what the outlook has it change. -/
private theorem leads_perform {act : Act} {reply : Reply} {system : System}
    (performed : act.perform thread session = (reply, session.setSystem system))
    (answer : reply.outline act.title = ((session.outlook thread).performAct act).1)
    (shown : (session.setSystem system).outlook thread = ((session.outlook thread).performAct act).2)
    (minds : session.system.Minds thread system) :
    (runOp onward thread voice rest (.act act)).Leads thread session
      (fun reply => reply.outline act.title = ((session.outlook thread).performAct act).1)
      ((session.outlook thread).performAct act).2 := by
  rw [runOp]
  refine .get ?_
  rw [performed]
  exact ⟨reply, _, (Run.yields_set session _).bind (Run.yields_pure _ _), answer, shown, rfl, minds⟩

/-- An act that changes nothing. -/
private theorem leads_unchanged (ready : session.Ready thread) {act : Act} {reply : Reply}
    (performed : act.perform thread session = (reply, session))
    (same : (session.outlook thread).performAct act = (reply.outline act.title, session.outlook thread)) :
    (runOp onward thread voice rest (.act act)).Leads thread session
      (fun reply => reply.outline act.title = ((session.outlook thread).performAct act).1)
      ((session.outlook thread).performAct act).2 :=
  @leads_perform _ _ _ _ _ _ _ session.system performed (by rw [same]) (by rw [same]; rfl) (.refl ready.system)

private theorem leads_scopeAct (ready : session.Ready thread) {act : ScopeAct}
    (plain : (Act.scopes act).isPlain = true) :
    (runOp onward thread voice rest (.act (.scopes act))).Leads thread session
      (fun reply => reply.outline (Act.scopes act).title = ((session.outlook thread).performAct (.scopes act)).1)
      ((session.outlook thread).performAct (.scopes act)).2 := by
  cases act with
  | enter name =>
    by_cases taken : session.system.isTaken thread name = true
    · refine @leads_unchanged _ _ _ _ _ ready _ (.fault .nameInUse) ?_ ?_
      · simp only [Act.perform, Session.within, ScopeAct.perform, taken, ↓reduceIte]
        rfl
      · simp only [Outlook.performAct, isTaken_outlook, taken, ↓reduceIte, Reply.outline]
    · obtain ⟨number, entered⟩ := outlook_enter ready.system (.owned name)
      rw [Bool.not_eq_true] at taken
      have performed : Act.perform thread session (.scopes (.enter name)) =
          (enteredReply (session.system.enter thread (.owned name)).2 (session.system.enter thread (.owned name)).1,
            session.setSystem (session.system.enter thread (.owned name)).2) := by
        simp only [Act.perform, Session.within, ScopeAct.perform, taken, Bool.false_eq_true, ↓reduceIte]
      have same : (session.outlook thread).performAct (.scopes (.enter name)) =
          (.entered ((session.outlook thread).enter (.owned name)).1 0,
            ((session.outlook thread).enter (.owned name)).2) := by
        simp only [Outlook.performAct, isTaken_outlook, taken, Bool.false_eq_true, ↓reduceIte]
      refine leads_perform performed ?_ ?_ (System.minds_enter ready.system _)
      · rw [same, enteredReply, Reply.outline, number]
      · rw [same, entered]
  | enterIn outer name =>
    by_cases taken : session.system.isTaken thread name = true
    · refine @leads_unchanged _ _ _ _ _ ready _ (.fault .nameInUse) ?_ ?_
      · simp only [Act.perform, Session.within, ScopeAct.perform, taken, ↓reduceIte]
        rfl
      · simp only [Outlook.performAct, isTaken_outlook, taken, ↓reduceIte, Reply.outline]
    · rw [Bool.not_eq_true] at taken
      cases found : session.system.scope? thread outer with
      | none =>
        refine @leads_unchanged _ _ _ _ _ ready _ (.fault (.noSuch .scope)) ?_ ?_
        · simp only [Act.perform, Session.within, ScopeAct.perform, withScope, taken, found, Bool.false_eq_true,
            ↓reduceIte]
          rfl
        · simp only [Outlook.performAct, isTaken_outlook, scope?_outlook, taken, found,
            Bool.false_eq_true, ↓reduceIte,
            Reply.outline]
      | some parent =>
        obtain ⟨number, entered⟩ := outlook_enterIn ready.system.active parent (.owned name)
        have performed : Act.perform thread session (.scopes (.enterIn outer name)) =
            (enteredReply (session.system.enterIn thread parent (.owned name)).2
                (session.system.enterIn thread parent (.owned name)).1,
              session.setSystem (session.system.enterIn thread parent (.owned name)).2) := by
          simp only [Act.perform, Session.within, ScopeAct.perform, withScope, taken, found, Bool.false_eq_true,
            ↓reduceIte]
        have same : (session.outlook thread).performAct (.scopes (.enterIn outer name)) =
            (.entered ((session.outlook thread).enterIn parent (.owned name)).1 0,
              ((session.outlook thread).enterIn parent (.owned name)).2) := by
          simp only [Outlook.performAct, isTaken_outlook, scope?_outlook, taken, found,
            Bool.false_eq_true, ↓reduceIte]
        refine leads_perform performed ?_ ?_ (System.minds_enterIn ready.system _ _)
        · rw [same, enteredReply, Reply.outline, number]
        · rw [same, entered]
  | set context bound =>
    cases found : session.system.context? thread context with
    | none =>
      refine @leads_unchanged _ _ _ _ _ ready _ (.fault (.noSuch .context)) ?_ ?_
      · simp only [Act.perform, Session.within, ScopeAct.perform, withContext, found]
        rfl
      · simp only [Outlook.performAct, context?_outlook, found, Reply.outline]
    | some scope =>
      have performed : Act.perform thread session (.scopes (.set context bound)) =
          (.number ((session.system.reduceConcurrency scope bound).scope scope).concurrency,
            session.setSystem (session.system.reduceConcurrency scope bound)) := by
        simp only [Act.perform, Session.within, ScopeAct.perform, withContext, found]
      have same : (session.outlook thread).performAct (.scopes (.set context bound)) =
          (.number 0, session.outlook thread) := by
        simp only [Outlook.performAct, context?_outlook, found]
      refine leads_perform performed ?_ ?_ (System.minds_modifyScope ready.system scope _)
      · rw [same]
        rfl
      · rw [same]
        have lowered (record : Scope) : (record.reduce bound).outline = id record.outline := rfl
        refine (outlook_modifyScope session thread scope lowered).trans ?_
        rw [Outlook.modifyScope, List.modify_id]
  | stats name =>
    cases found : session.system.scope? thread name with
    | none =>
      refine @leads_unchanged _ _ _ _ _ ready _ (.fault (.noSuch .scope)) ?_ ?_
      · simp only [Act.perform, Session.within, ScopeAct.perform, withScope, found]
        rfl
      · simp only [Outlook.performAct, scope?_outlook, found, Reply.outline]
    | some scope =>
      refine @leads_unchanged _ _ _ _ _ ready _ (.stats scope (session.system.scope scope)) ?_ ?_
      · simp only [Act.perform, Session.within, ScopeAct.perform, withScope, found]
        rfl
      · simp only [Outlook.performAct, scope?_outlook, found, Reply.outline, scope_outlook]
  | lastError => exact leads_unchanged ready rfl rfl
  | _ => exact absurd plain Bool.false_ne_true

private theorem leads_stackAct (ready : session.Ready thread) {act : StackAct}
    (plain : (Act.stacks act).isPlain = true) :
    (runOp onward thread voice rest (.act (.stacks act))).Leads thread session
      (fun reply => reply.outline (Act.stacks act).title = ((session.outlook thread).performAct (.stacks act)).1)
      ((session.outlook thread).performAct (.stacks act)).2 := by
  cases act with
  | depth => exact leads_unchanged ready rfl rfl
  | current kind =>
    cases kind with
    | none => exact leads_unchanged ready rfl rfl
    | some kind => exact leads_unchanged ready rfl rfl
  | _ => exact absurd plain Bool.false_ne_true

/-- A plain act answers from the outlook. -/
theorem leads_act (ready : session.Ready thread) : {act : Act} → act.isPlain = true →
    (runOp onward thread voice rest (.act act)).Leads thread session
      (fun reply => reply.outline act.title = ((session.outlook thread).performAct act).1)
      ((session.outlook thread).performAct act).2
  | .scopes _, plain => leads_scopeAct ready plain
  | .stacks _, plain => leads_stackAct ready plain
  | .note _, _ => leads_unchanged ready rfl rfl
  | .pools _, plain | .registry _, plain | .setting _, plain | .threadName, plain | .add _ _, plain
  | .unknown _, plain => absurd plain Bool.false_ne_true

end Acts

end ScopedWork.Program
