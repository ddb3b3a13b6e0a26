import ScopedWork.Program.Op

/-! # Acts on pools and leases

A pool is shared under a name; a lease belongs to the program that acquired it. A job may give its
own lease up before it ends.
-/

namespace ScopedWork.Program

variable (system : System) (thread : ThreadId)

def sharePool (name : String) (pool : PoolId) : Reply × System :=
  (.poolMade (system.pool pool).capacity (system.pool pool).form, system.share name (.pool pool))

def freeOwnLease : Reply × System :=
  match (system.activation thread).role with
  | .program => (.fault .noLease, system)
  | .work id =>
    let work := system.work id
    match work.kind, work.leased, work.station with
    | .job, true, some lease => (.freed lease.slot, system.vacate id)
    | _, _, _ => (.fault .noLease, system)

def PoolAct.perform : PoolAct → Reply × System
  | .make name capacity choices =>
    if system.isTaken thread name then (.fault .nameInUse, system)
    else
      let (pool, system) := system.addPool
        (Pool.ofConfig capacity (.ofChoices choices) system.setting.stackBound)
      sharePool system name pool
  | .makeStandard name =>
    if system.isTaken thread name then (.fault .nameInUse, system)
    else
      let (pool, system) := system.newPool
      sharePool system name pool
  | .info name =>
    match system.pool? name with
    | none => (.fault (.noSuch .pool), system)
    | some id =>
      let pool := system.pool id
      (.poolInfo pool.capacity pool.busy pool.spawned pool.form, system)
  | .leaseInfo name =>
    match system.lease? thread name with
    | none => (.fault (.noSuch .lease), system)
    | some lease => (.lease lease.slot lease.form, system)
  | .dropLease name =>
    match system.lease? thread name with
    | none => (.fault (.noSuch .lease), system)
    | some lease => (.ok, (system.takeLease thread name).release lease)
  | .free => freeOwnLease system thread

end ScopedWork.Program
