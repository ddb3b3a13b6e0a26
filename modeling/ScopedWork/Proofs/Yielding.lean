import ScopedWork.Program.Wait

/-! # Steps that go through

A step of a run that neither stops nor panics yields a result and the session it leads to. One law
for each way in which steps are put together is all that the proofs about runs need.
-/

namespace ScopedWork.Program.Run

open Failure (Payload)

variable {α β : Type} {session middle after : Session}

/-- A step goes through, with a result. -/
def Yields (run : Run α) (session : Session) (result : α) (after : Session) : Prop :=
  run.run session = (.ok result, after)

private theorem bind_apply (first : StateM Session α) (next : α → StateM Session β) (session : Session) :
    (first >>= next) session = next (first session).1 (first session).2 :=
  rfl

theorem yields_pure (result : α) (session : Session) : (pure result : Run α).Yields session result session :=
  rfl

theorem Yields.bind {run : Run α} {next : α → Run β} {first : α} {second : β}
    (yielded : run.Yields session first middle) (goesOn : (next first).Yields middle second after) :
    (run >>= next).Yields session second after := by
  refine (bind_apply run.run (ExceptT.bindCont next) session).trans ?_
  rw [show run.run session = _ from yielded]
  exact goesOn

theorem yields_get (session : Session) : (get : Run Session).Yields session session session :=
  rfl

theorem yields_set (session other : Session) : (set other : Run PUnit).Yields session ⟨⟩ other :=
  rfl

theorem yields_system (session : Session) : Run.system.Yields session session.system session :=
  rfl

theorem yields_change (f : Session → Session) (session : Session) :
    (Run.change f).Yields session () (f session) :=
  rfl

theorem yields_changeSystem (f : System → System) (session : Session) :
    (Run.changeSystem f).Yields session () (session.setSystem (f session.system)) :=
  rfl

theorem yields_onSystem (f : System → α × System) (session : Session) :
    (Run.onSystem f).Yields session (f session.system).1 (session.setSystem (f session.system).2) :=
  rfl

theorem yields_tryOnSystem {f : System → Except Payload α × System} {result : α} {system : System}
    (works : f session.system = (.ok result, system)) :
    (Run.tryOnSystem f).Yields session result (session.setSystem system) := by
  have asked := yields_onSystem f session
  rw [works] at asked
  exact asked.bind rfl

/-- Where nothing panics, nothing is caught. -/
theorem Yields.uncaught {run : Run α} {result : α} (yielded : run.Yields session result after)
    (handler : Interruption → Run α) : (tryCatch run handler : Run α).Yields session result after := by
  rw [Yields] at yielded ⊢
  simp only [tryCatch, tryCatchThe, MonadExceptOf.tryCatch, ExceptT.tryCatch, ExceptT.run_mk]
  refine (bind_apply _ _ session).trans ?_
  rw [show run session = _ from yielded]
  rfl

/-- An attempt yields what the step yields. -/
theorem Yields.attempt {run : Run α} {result : α} (yielded : run.Yields session result after) :
    (Run.attempt run).Yields session (.ok result) after := by
  have mapped : (Except.ok <$> run : Run (Except Payload α)).Yields session (.ok result) after :=
    yielded.bind (yields_pure (Except.ok result) after)
  exact mapped.uncaught _

/-- Whoever waits for a step that goes through goes on after it. -/
theorem Yields.settled {run : Run α} {result : α} (yielded : run.Yields session result after) :
    (Run.settled run).Yields session () after := by
  have unfolded : (Run.settled run).run session = (Except.ok (), (run.run session).2) :=
    rfl
  rw [Yields, unfolded, show run.run session = _ from yielded]

end ScopedWork.Program.Run
