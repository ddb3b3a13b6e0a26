import ScopedWork.Program.Onward

/-! # Scripts

A script is the program of the first thread of a process. Every operation leaves an entry: its
answer, what was logged since the previous entry, and what the thread's stack looks like after it.
A last entry shows the clean-up: the script's open contexts and leases are dropped, and everything
that still holds is released. A script in which somebody waits for what will never be has no
answer at all.
-/

namespace ScopedWork.Script

open Program

/-- What one operation of a script leaves behind. -/
structure Entry where
  op : Title
  reply : Reply
  log : List Event
  depth : Nat
  current : Option ScopeId

def caller : ThreadId := 0

/-- A run that is about to begin, in a process with the given setting. -/
def start (setting : Setting.State) : Session :=
  { system := { setting, threads := [{ name := "caller", activations := [{}] }] } }

/-- The script speaks to the log under this label. -/
def voice : Voice := { label := "main" }

/-- The entry of an operation that has just answered, and the run with an empty log. -/
def entry (session : Session) (op : Title) (reply : Reply) : Entry × Session :=
  let stack := session.system.stack caller
  ({ op, reply, log := session.log.reverse, depth := stack.depth, current := stack.currentScope? },
    { session with log := [] })

/-- Runs one operation of the script. An operation that never returns has no answer, nor has one
that panics: there is nobody to catch it. -/
def step (onward : Onward) (op : Op) (session : Session) : Except Interruption Reply × Session :=
  (do
    let reply ← runOp onward caller voice (.after op.title false [] [] .thread) op
    afterOp voice false op.title reply
    return reply : Run Reply).run session

/-- The clean-up at the end of a script. -/
def finish (onward : Onward) (session : Session) : Session :=
  let (_, session) := (cleanUp onward caller).run session
  onward.releaseAll (fun _ _ => true) session

/-- Runs the operations of a script, and cleans up after the last. Nothing follows an operation
without an answer. -/
def runAll (onward : Onward) : List Op → Session → List Entry × Session
  | [], session =>
    let (entry, session) := entry (finish onward session) (.word "@end") .nothing
    ([entry], session)
  | op :: rest, session =>
    match step onward op session with
    | (.error _, session) => ([], session)
    | (.ok reply, session) =>
      let (entry, session) := entry session op.title reply
      let (entries, session) := runAll onward rest session
      (entry :: entries, session)

/-- Enough fuel for everything that can go on in a script: each pause lets one work go on, and a
work that is released is looked for once more. -/
def fuel (ops : List Op) : Nat :=
  2 * Op.pausesOfBody ops + 2

/-- The entries of a script that is run from the start of a process. -/
def run (setting : Setting.State) (ops : List Op) : List Entry :=
  (runAll (.ofFuel (fuel ops)) ops (start setting)).1

/-- Whether somebody waits for what will never be when the script is run; its entries never come then. -/
def hangs (setting : Setting.State) (ops : List Op) : Bool :=
  (runAll (.ofFuel (fuel ops)) ops (start setting)).2.hangs

end ScopedWork.Script
