import AsyncFiles.Service.Opening

/-!
Making, moving and ending implementations, and the end of a service. A move leaves the source with a
fresh state and gives its old one to the target, in the registry as well as in the implementation.
-/
namespace AsyncFiles.System

open Access Error Host

variable {Handler : Type}

def construct (system : System Handler) (service : ServiceId) :
    Implementation × System Handler :=
  let (state, system) := system.addState
  let (key, system) := system.register service state
  ({ key, owner := service, state }, system)

/-- Gives an implementation a fresh state, also in the registry of `service` if that owns it, and
yields the state it had. -/
def detach (system : System Handler) (service : ServiceId) (imp : Implementation) :
    StateId × Implementation × System Handler :=
  let (fresh, system) := system.addState
  let system :=
    if imp.owner = service then
      system.updateRegistry service fun registry => registry.replace imp.key fresh
    else system
  (imp.state, { imp with state := fresh }, system)

/-- A new implementation in `service` that takes over what `other` holds; then `other` after it. -/
def moveConstruct (system : System Handler) (service otherService : ServiceId)
    (other : Implementation) : Implementation × Implementation × System Handler :=
  let (moved, other, system) := system.detach otherService other
  let (key, system) := system.register service moved
  ({ key, owner := service, state := moved }, other, system)

/-- Closes `imp` and gives it what `other` holds. Across services it moves to the other's registry.
Yields both implementations afterwards. -/
def moveAssign (system : System Handler) (service : ServiceId) (imp : Implementation)
    (otherService : ServiceId) (other : Implementation) :
    Implementation × Implementation × System Handler :=
  let (_, system) := system.closeState imp.state
  let (moved, other, system) := system.detach otherService other
  if service = otherService then
    let system := system.updateRegistry service fun registry => registry.replace imp.key moved
    ({ imp with state := moved }, other, system)
  else
    let system :=
      if imp.owner = service then
        system.updateRegistry service fun registry => registry.remove imp.key
      else system
    let (key, system) := system.register otherService moved
    ({ key, owner := otherService, state := moved }, other, system)

/-- Closes an implementation and takes it out of the registry of `service` if that owns it. -/
def destroy (system : System Handler) (service : ServiceId) (imp : Implementation) :
    System Handler :=
  let (_, system) := system.closeState imp.state
  if imp.owner = service then
    system.updateRegistry service fun registry => registry.remove imp.key
  else system

def registered (system : System Handler) (service : ServiceId) : List StateId :=
  ((system.service? service).map fun found => found.registry.values).getD []

def closeStates (system : System Handler) (states : List StateId) : System Handler :=
  states.foldl (fun system state => (system.closeState state).2) system

def closeAll (system : System Handler) (service : ServiceId) : System Handler :=
  system.closeStates (system.registered service)

/-- First step of a shutdown; further shutdowns find it done. -/
def markShutDown (system : System Handler) (service : ServiceId) : System Handler :=
  system.updateService service fun found => { found with shutDown := true }

/-- Closes every registered file and the pool. Only the first shutdown does anything. The workers
are still to finish what is queued. -/
def shutdown (system : System Handler) (service : ServiceId) : System Handler :=
  if system.isShutDown service then system
  else ((system.markShutDown service).closeAll service).updatePool service Pool.close

def retain (system : System Handler) (service : ServiceId) : System Handler :=
  system.updateService service fun found => { found with references := found.references + 1 }

/-- Drops one reference. With the last one the service is shut down; if it already was, files
opened since are closed. -/
def dropReference (system : System Handler) (service : ServiceId) : System Handler :=
  let system :=
    system.updateService service fun found => { found with references := found.references - 1 }
  match system.service? service with
  | none => system
  | some found =>
    if found.references ≠ 0 then system
    else if found.shutDown then system.closeAll service
    else system.shutdown service

end AsyncFiles.System
