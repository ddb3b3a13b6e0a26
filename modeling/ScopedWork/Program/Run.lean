import ScopedWork.Program.Tally

/-! # Running programs

The operations of a program in order, each with its answer. A logic runs where it was placed: on a
helper, in which case its submitter goes on once it is over or holds, or on the submitter's own
thread.

An operation that may stop is given the continuation of its answer, and a block the continuation
of its end, so that a hold can keep what is left to do. A block is attempted where a panic in it
has something to undo.
-/

namespace ScopedWork.Program

open Failure (ContextError Payload)

variable (onward : Onward)

/-! ## Operations that run no program -/

def acquire (thread : ThreadId) (pool name : String) (limit : Nat) : Run Reply := do
  let system ← Run.system
  if system.isTaken thread name then return .fault .nameInUse
  else
    match system.pool? pool with
    | none => return .fault (.noSuch .pool)
    | some id =>
      match ← Run.tryOnSystem (·.acquire id limit) with
      | none => return .acquired none
      | some lease =>
        Run.changeSystem (·.keepLease thread name lease)
        return .acquired (some lease.slot)

/-- Waits to be released, unless the program runs on its submitter's thread. -/
def hold (thread : ThreadId) (voice : Voice) (rest : OpCont) : Run Reply := do
  let system ← Run.system
  match (system.activation thread).role with
  | .program => return .passed
  | .work work =>
    if (system.work work).submitter = thread then return .passed
    else
      Run.change fun session =>
        (session.note (.holding voice.label)).pause work (.holding voice rest)
      Run.stop

def release (label : String) : Run Reply := do
  let session ← get
  match session.earliestHolding? fun work => session.heldLabel? work == some label with
  | none => return .notHolding
  | some work =>
    if session.awaitsDescendant work then return .fault .wouldBlock
    else
      Run.change (onward.proceed work)
      return .standing ((← get).standing work)

/-- What an exit answers; the program keeps the error. -/
def joinReply (thread : ThreadId) (error : Option ContextError) : Run Reply := do
  Run.changeSystem (·.noteError thread error)
  return .joined error

def areJobsOver (pool : PoolId) (session : Session) : Bool :=
  (List.range session.system.works.length).all fun work =>
    !isJobOf pool session work || session.standing work == .done

/-- Drops the run's reference to a pool and releases the jobs of the pool that hold. If it was the
last reference, the thread waits for the pool's helpers. The answer tells whether nothing refers to
the pool in the end, and whether the jobs were over when the wait, if any, was. -/
def dropPoolReleasing (thread : ThreadId) (name : String) (pool : PoolId) : Run Reply := do
  Run.change (·.note .poolDropping)
  let unnamed := (← Run.system).unshare name
  if unnamed.isOwned pool then
    Run.changeSystem fun _ => unnamed
    let joined := areJobsOver pool (← get)
    Run.change (onward.releaseAll (isJobOf pool))
    return .dropped (!(← Run.system).isOwned pool) (some joined)
  else
    Run.changeSystem fun _ => unnamed.shutdown pool
    Run.change (onward.releaseAll (isJobOf pool))
    let session ← get
    if (session.system.pool pool).isDrained thread then
      return .dropped true (some (areJobsOver pool session))
    else Run.hang

/-- Drops the run's reference to a pool. If it was the last one, the thread waits for the pool's
helpers, which must not hold. -/
def dropPool (thread : ThreadId) (name : String) (pool : PoolId) : Run Reply := do
  let session ← get
  let unnamed := session.system.unshare name
  if unnamed.isOwned pool then
    Run.changeSystem fun _ => unnamed
    return .dropped false none
  else if (session.earliestHolding? (isJobOf pool session)).isSome then
    return .fault .wouldBlock
  else
    Run.changeSystem fun _ => unnamed.shutdown pool
    if ((← Run.system).pool pool).isDrained thread then return .dropped true none
    else Run.hang

/-! ## Blocks -/

/-- The end of a block to which a context was lent: the block has panicked, and the context is
dropped, or the context is exited and the block's value returned. -/
def endWithContext (thread : ThreadId) (scope : ScopeId) (value : String) :
    Option Payload → Run Reply
  | some payload => do
    dropContext onward thread scope
    return .panicked payload
  | none => do
    match ← exitContext onward thread scope with
    | none => return .returned value
    | some error =>
      Run.changeSystem (·.noteError thread (some error))
      return .joined (some error)

def endAttach (thread : ThreadId) (panic : Option Payload) : Run Reply := do
  let depth := ((← Run.system).stack thread).depth
  Run.changeSystem (·.detach thread)
  match panic with
  | some payload => return .panicked payload
  | none => return .insideDepth depth

/-- Repeats a block; each repetition is told how many come after it and what came before. -/
def repeatBlock (run : Nat → List Reply → Run (List Reply)) : Nat → List Reply → Run (List Reply)
  | 0, done => return done
  | left + 1, done => do
    let replies ← run left done
    repeatBlock run left (done ++ replies)

/-! ## Programs -/

/-- After an operation, its answer is logged if the block logs, and pools that nobody refers to
any more lose their helpers. -/
def afterOp (voice : Voice) (logged : Bool) (op : Title) (reply : Reply) : Run Unit := do
  if logged then Run.change (·.say voice (.replied voice.label op reply))
  Run.changeSystem (·.dismiss)

mutual

/-- Runs the operations of a block and lists the answers, after those of `done`. -/
def runOps (thread : ThreadId) (voice : Voice) (logged : Bool) (block : BlockCont) :
    (done : List Reply) → List Op → Run (List Reply)
  | done, [] => return done
  | done, op :: rest => do
    let reply ← runOp thread voice (.after op.title logged done rest block) op
    afterOp voice logged op.title reply
    runOps thread voice logged block (done ++ [reply]) rest

/-- Runs one operation; `rest` is what its answer leads on to. -/
def runOp (thread : ThreadId) (voice : Voice) (rest : OpCont) : Op → Run Reply
  | .act act => do
    let session ← get
    let (reply, session) := act.perform thread session
    set session
    return reply
  | .acquire pool name limit => acquire thread pool name limit
  | .hold => hold thread voice rest
  | .release label => release onward label
  | .exec context logic => do
    match (← Run.system).context? thread context with
    | none => return .fault (.noSuch .context)
    | some scope => return .placed (← runLogic thread scope true logic)
  | .executeAll logics => do
    joinReply thread (← insideHidden onward thread fun scope => runLogics thread scope logics)
  | .concurrent [] => return .fault .noLogics
  | .concurrent (logic :: logics) => do
    joinReply thread (← insideHidden onward thread fun scope => do
      let _ ← runLogic thread scope false logic
      runLogics thread scope logics)
  | .dispatch lease job => do
    match (← Run.system).lease? thread lease with
    | none => return .fault (.noSuch .lease)
    | some owned =>
      Run.changeSystem (·.takeLease thread lease)
      runJob thread owned job
  | .exit context => do
    match (← Run.system).ownContext? thread context with
    | none => return .fault (.noSuch .context)
    | some scope => joinReply thread (← exitContext onward thread scope)
  | .drop context => do
    match (← Run.system).ownContext? thread context with
    | none => return .fault (.noSuch .context)
    | some scope =>
      dropContext onward thread scope
      return .ok
  | .withContext name body value panic => do
    if (← Run.system).isTaken thread name then return .fault .nameInUse
    else
      let scope ← Run.onSystem (·.enter thread (.lent name))
      let replies ← Run.attempt
        (runOps thread voice true (.withContext scope value panic rest) [] body)
      endWithContext onward thread scope value ((panicOf replies).or panic)
  | .attach snapshot body panic => do
    match (← Run.system).snapshot? snapshot with
    | none => return .fault (.noSuch .snapshot)
    | some stack =>
      Run.changeSystem (·.attach thread stack)
      let replies ← Run.attempt (runOps thread voice true (.attach panic rest) [] body)
      endAttach thread ((panicOf replies).or panic)
  | .thread snapshot body => do
    let system ← Run.system
    let within := (system.activation thread).within
    let side ← Run.onSystem (·.addThread { name := "side", activations := [{ within }] })
    let before := ((← Run.system).stack side).depth
    let attached := snapshot.bind system.snapshot?
    Run.changeSystem (·.attachIfAny side attached)
    let replies ← Run.attempt
      (runOps side { label := voice.label } true .thread [] body)
    Run.changeSystem (·.detach side)
    cleanUp onward side
    let after := ((← Run.system).stack side).depth
    Run.changeSystem (·.endThread side)
    match replies with
    | .ok _ => return .depths before after
    | .error payload => Run.panic payload
  | .repeated count body => do
    let replies ← repeatBlock
      (fun left done => runOps thread voice false (.repeated left body done rest) [] body) count []
    return .replies replies
  | .burst context count failEvery => do
    match (← Run.system).context? thread context with
    | none => return .fault (.noSuch .context)
    | some scope =>
      Run.change ({ · with tally := 0 })
      burstLogics onward thread scope failEvery count 0
      let session ← get
      return burstReply session.tally (session.system.scope scope)
  | .sum low high leaf => do
    Run.change ({ · with tally := 0 })
    let error ← sumRange onward leaf (high - low) thread low high
    return .summed (← get).tally error
  | .dropPool name releasing => do
    match (← Run.system).pool? name with
    | none => return .fault (.noSuch .pool)
    | some pool =>
      if releasing then dropPoolReleasing onward thread name pool
      else dropPool thread name pool

/-- Submits a logic to a scope and runs it; the answer tells whether a slot was had for it. The
error that the logic returns counts only if the logic is `tried`. -/
def runLogic (thread : ThreadId) (scope : ScopeId) (tried : Bool) : Logic Op → Run Bool
  | ⟨label, quiet, body, declared⟩ => do
    let ending := if tried then declared else declared.withoutError
    let (work, placement) ← Run.tryOnSystem (·.submit thread scope)
    let voice : Voice := { label, quiet }
    let _ ← runPlaced thread work placement none fun thread =>
      asProgram onward thread work voice ending
        (runOps thread voice true (.program ending) [] body)
    return placement != .inline

/-- Submits the logics of a list to a scope, each once the one before has settled; the errors that
they return do not count. -/
def runLogics (thread : ThreadId) (scope : ScopeId) : List (Logic Op) → Run Unit
  | [] => return
  | logic :: rest => do
    let _ ← runLogic thread scope false logic
    runLogics thread scope rest

def runJob (thread : ThreadId) (lease : Lease) : Logic Op → Run Reply
  | ⟨label, quiet, body, ending⟩ => do
    let (work, placement) ← Run.onSystem (·.dispatchJob thread lease)
    let voice : Voice := { label, quiet }
    let escaped ← runPlaced thread work placement (some ⟨label, quiet, body, ending⟩) fun thread =>
      asProgram onward thread work voice ending
        (runOps thread voice true (.program ending) [] body)
    match escaped with
    | some payload => return .panicked payload
    | none => return .standing ((← get).standing work)

end

end ScopedWork.Program
