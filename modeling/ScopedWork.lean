import ScopedWork.Script
import ScopedWork.System.Machine
import ScopedWork.Proofs.Crew
import ScopedWork.Proofs.Picture
import ScopedWork.Proofs.Tenancy
import ScopedWork.Proofs.Running
import ScopedWork.Proofs.Leasing
import ScopedWork.Proofs.Channels
import ScopedWork.Proofs.Stations
import ScopedWork.Proofs.Naming
import ScopedWork.Proofs.Simulation
import ScopedWork.Proofs.Ledger
import ScopedWork.Proofs.Accounting
import ScopedWork.Proofs.Completion
import ScopedWork.Proofs.Delivery
import ScopedWork.Proofs.Outlook
import ScopedWork.Proofs.Removal
import ScopedWork.Proofs.Popping
import ScopedWork.Proofs.Tidiness
import ScopedWork.Proofs.Yielding
import ScopedWork.Proofs.Readiness
import ScopedWork.Proofs.Conduct
import ScopedWork.Proofs.Acting
import ScopedWork.Proofs.Placing
import ScopedWork.Proofs.Placement
import ScopedWork.Proofs.Independence
import ScopedWork.Proofs.Actions
import ScopedWork.Proofs.Deeds
import ScopedWork.Proofs.Occupancy
import ScopedWork.Proofs.Helpers
import ScopedWork.Proofs.Exclusivity
import ScopedWork.Proofs.Works
import ScopedWork.Proofs.Inheritance
import ScopedWork.Proofs.Limits
import ScopedWork.Proofs.Threads
import ScopedWork.Proofs.Turns
import ScopedWork.Proofs.Discipline
import ScopedWork.Proofs.Fates
import ScopedWork.Proofs.Waiting
import ScopedWork.Proofs.Renoting
import ScopedWork.Proofs.Departure
import ScopedWork.Proofs.Payloads
import ScopedWork.Proofs.Propagation
import ScopedWork.Proofs.Reductions
import ScopedWork.Proofs.Settling
import ScopedWork.Proofs.Scoped
import ScopedWork.Proofs.Progress
import ScopedWork.Proofs.Courses
import ScopedWork.Proofs.Lifelines
import ScopedWork.Proofs.Assignments
import ScopedWork.Proofs.Recovery
import ScopedWork.Proofs.Staffing
import ScopedWork.Proofs.Lowering
import ScopedWork.Proofs.Whereabouts
import ScopedWork.Proofs.Acquisition
import ScopedWork.Proofs.Severance
import ScopedWork.Proofs.Shutdown
import ScopedWork.Proofs.Frames
import ScopedWork.Proofs.Strides
import ScopedWork.Proofs.Shelves
import ScopedWork.Proofs.Lending
import ScopedWork.Proofs.Isolation
import ScopedWork.Proofs.Parents
import ScopedWork.Proofs.Numerals
