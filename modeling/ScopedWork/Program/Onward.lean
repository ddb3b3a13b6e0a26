import ScopedWork.Program.Run

/-! # How stopped works go on

A work that holds goes on with the continuation it left behind, from the inside out, and so does a
panic that meets nothing to catch it; a work that waited for its helper begins its program. Either
may release further works, so the ways of going on are defined together, one level of fuel at a
time: each work that goes on takes one level, and a work goes on once for each of its pauses.
-/

namespace ScopedWork.Program

open Failure (Payload)

section Resuming

variable (onward : Onward) (work : WorkId) (thread : ThreadId) (voice : Voice)

mutual

/-- Goes on with the rest of a block, now that its operation has answered or panicked. -/
def OpCont.resume (answer : Except Payload Reply) : OpCont → Run Unit
  | .after op logged done rest block => do
    let replies ← match answer with
      | .error payload => pure (.error payload)
      | .ok reply => Run.attempt do
        afterOp voice logged op reply
        runOps onward thread voice logged block (done ++ [reply]) rest
    BlockCont.resume replies block

/-- Goes on with what the end of a block completes, given the block's answers or its panic. -/
def BlockCont.resume (replies : Except Payload (List Reply)) : BlockCont → Run Unit
  | .thread => return
  | .program ending => do
    let _ ← concludeWork onward thread work voice ending (panicOf replies)
  | .withContext scope value panic outer => do
    let reply ← endWithContext onward thread scope value ((panicOf replies).or panic)
    OpCont.resume (.ok reply) outer
  | .attach panic outer => do
    let reply ← endAttach thread ((panicOf replies).or panic)
    OpCont.resume (.ok reply) outer
  | .repeated left body done outer => do
    let all ← match replies with
      | .error payload => pure (.error payload)
      | .ok replies => Run.attempt (repeatBlock
        (fun left done =>
          runOps onward thread voice false (.repeated left body done outer) [] body)
        left (done ++ replies))
    OpCont.resume (all.map .replies) outer

end

/-- Goes on with a stopped work on its thread. -/
def Paused.resume : Paused → Run Unit
  | .holding voice rest => OpCont.resume onward work thread voice (.ok .released) rest
  | .fresh ⟨label, quiet, body, ending⟩ => do
    let voice : Voice := { label, quiet }
    let _ ← asProgram onward thread work voice ending
      (runOps onward thread voice true (.program ending) [] body)

def proceedWith (session : Session) : Session :=
  match session.paused.lookup work, (session.system.work work).runs with
  | some paused, thread :: _ =>
    ((paused.resume onward work thread).run (session.unpause work)).2
  | _, _ => session

end Resuming

mutual

/-- Lets a stopped work go on, with fuel for the works that do so in turn. -/
def proceed : (fuel : Nat) → WorkId → Session → Session
  | 0, _, session => session
  | fuel + 1, work, session =>
    proceedWith { proceed := proceed fuel, releaseAll := releaseAll fuel } work session

/-- Releases the works that hold and satisfy a condition until there are none, with fuel for the
works that go on. -/
def releaseAll : (fuel : Nat) → (Session → WorkId → Bool) → Session → Session
  | 0, _, session => session
  | fuel + 1, wanted, session =>
    match session.earliestHolding? (wanted session) with
    | none => session
    | some work => releaseAll fuel wanted (proceed fuel work session)

end

def Onward.ofFuel (fuel : Nat) : Onward :=
  { proceed := Program.proceed fuel, releaseAll := Program.releaseAll fuel }

end ScopedWork.Program
