import ScopedWork.Program.Session
import ScopedWork.Program.Act.Pools
import ScopedWork.Program.Act.Registry
import ScopedWork.Program.Act.Settings
import ScopedWork.Program.Act.Stacks

/-! # Performing acts

An act answers at once. It changes the process, or a counter of the run, and an act that makes no
sense changes nothing.
-/

namespace ScopedWork.Program

/-- Performs an act that only concerns the process. -/
def Session.within (session : Session) (act : System → Reply × System) : Reply × Session :=
  let (reply, system) := act session.system
  (reply, session.setSystem system)

def Act.perform (thread : ThreadId) (session : Session) : Act → Reply × Session
  | .pools act => session.within fun system => act.perform system thread
  | .scopes act => session.within fun system => act.perform system thread
  | .stacks act => session.within fun system => act.perform system thread
  | .registry act => session.within fun system => act.perform system thread
  | .setting act => session.within fun system => act.perform system thread
  | .note value => (.value value, session)
  | .threadName => (.text (session.system.thread thread).name, session)
  | .add counter amount =>
    let session := session.addTo counter amount
    (.number (session.counter counter), session)
  | .unknown _ => (.fault .unknownOperation, session)

end ScopedWork.Program
