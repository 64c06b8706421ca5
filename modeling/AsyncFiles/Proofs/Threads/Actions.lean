import AsyncFiles.Proofs.Threads.Queues

namespace AsyncFiles.Script

open Access Error Host

namespace Session

def Keeps (session later : Session) : Prop := session.system.SameQueues later.system

theorem Keeps.refl (session : Session) : session.Keeps session := System.SameQueues.refl _

theorem Keeps.trans {session middle later : Session} (first : session.Keeps middle)
    (second : middle.Keeps later) : session.Keeps later :=
  System.SameQueues.trans first second

theorem keeps_onHost {α : Type} (session : Session) (call : Host → α × Host) :
    session.Keeps (session.onHost call).2 :=
  (session.system.calm_host _).sameQueues

theorem keeps_workStarted (session : Session) (context : ContextId) :
    session.Keeps (session.changeSystem fun system => system.workStarted context) :=
  (session.system.quiet_workStarted context).sameQueues

theorem keeps_workFinished (session : Session) (context : ContextId) :
    session.Keeps (session.changeSystem fun system => system.workFinished context) :=
  (session.system.quiet_workFinished context).sameQueues

theorem keeps_bindOwner (session : Session) (name : Name) (owner : Owner) :
    session.Keeps (session.bindOwner name owner) := by
  rw [bindOwner]
  cases session.owners.get? name <;> exact .refl session

theorem keeps_bindFile (session : Session) (name : Name) (file : File) :
    session.Keeps (session.bindFile name file) := by
  rw [bindFile]
  cases session.files.get? name with
  | none => exact .refl session
  | some earlier => exact (earlier.calm_drop session.system).sameQueues

theorem keeps_bindService (session : Session) (name : Name) (service : ServiceId) :
    session.Keeps (session.bindService name service) := by
  rw [bindService]
  cases session.services.get? name with
  | none => exact .refl session
  | some earlier => exact (System.calm_dropReference session.system earlier).sameQueues

theorem keeps_endGuard (session : Session) (guarded : Option (Option ContextId)) :
    session.Keeps (session.endGuard guarded) := by
  rw [endGuard]
  cases guarded.join with
  | none => exact .refl session
  | some context => exact session.keeps_workFinished context

theorem keeps_bindGuard (session : Session) (name : Name) (guarded : Option ContextId) :
    session.Keeps (session.bindGuard name guarded) :=
  keeps_endGuard { session with guards := session.guards.put name guarded } _

theorem keeps_actOnContext (session : Session) (running : List ContextId) (name : Name)
    (action : ContextAction) : session.Keeps (session.actOnContext running name action).2 := by
  cases action with
  | new => exact System.sameQueues_newContext session.system
  | stop | restart =>
    have same (flag : Bool) (found : Context (Invocation Handler)) :
        { found with stopped := flag }.queue = found.queue := rfl
    simp only [actOnContext]
    cases session.contexts.get? name with
    | none => exact .refl session
    | some context => exact (session.system.quiet_updateContext context (same _)).sameQueues
  | clone | workStarted | workFinished | inside | state | guard =>
    simp only [actOnContext]
    cases session.contexts.get? name with
    | none => exact .refl session
    | some context =>
      first
        | exact .refl session
        | exact session.keeps_workFinished context
        | exact session.keeps_workStarted context
        | exact (session.keeps_workStarted context).trans (keeps_bindGuard _ _ _)

theorem keeps_resetGuard (session : Session) (guard : Name) :
    session.Keeps (session.resetGuard guard).2 := by
  rw [resetGuard]
  cases session.guards.get? guard with
  | none => exact .refl session
  | some guarded => exact session.keeps_bindGuard guard none

theorem keeps_dropGuard (session : Session) (guard : Name) :
    session.Keeps (session.dropGuard guard) :=
  keeps_endGuard { session with guards := session.guards.erase guard } _

theorem keeps_actOnService (session : Session) (name : Name) (action : ServiceAction) :
    session.Keeps (session.actOnService name action).2 := by
  cases action with
  | new context config =>
    simp only [actOnService]
    cases session.contexts.get? context with
    | none => exact .refl session
    | some context =>
      dsimp only
      split
      next => exact .refl session
      next => exact .refl session
      next service system started =>
        exact Keeps.trans (System.sameQueues_startService started)
          (keeps_bindService { session with system } name service)
  | clone copy =>
    simp only [actOnService]
    cases session.services.get? name with
    | none => exact .refl session
    | some service =>
      exact Keeps.trans (System.calm_retain session.system service).sameQueues
        (keeps_bindService _ copy service)
  | drop | shutdown | shutdownReleasing =>
    simp only [actOnService]
    cases session.services.get? name with
    | none => exact .refl session
    | some service =>
      first
        | exact (System.calm_dropReference session.system service).sameQueues
        | exact (System.calm_shutdown session.system service).sameQueues
  | same | sameContext | isShutDown | live | settle | describe | registry =>
    simp only [actOnService]
    cases session.services.get? name <;> exact .refl session

theorem keeps_assignFrom (session : Session) (imp : Implementation) (owner : Name)
    (held : Owner) :
    session.Keeps (match session.onSystem fun system => system.assign imp held.handle with
      | (.error error, session) => (Reply.result (.error error), session)
      | (.ok (), session) =>
        (.result (.ok .nothing),
          { session with owners := session.owners.put owner held.release.2 })).2 := by
  have assigned : session.Keeps
      (session.onSystem fun system => system.assign imp held.handle).2 :=
    (System.calm_assign session.system imp held.handle).sameQueues
  split
  next same =>
    rw [same] at assigned
    exact assigned
  next same =>
    rw [same] at assigned
    exact assigned

theorem keeps_actOnFile (session : Session) (name : Name) (action : FileAction) :
    session.Keeps (session.actOnFile name action).2 := by
  cases action with
  | new service =>
    simp only [actOnFile]
    cases session.services.get? service with
    | none => exact .refl session
    | some service =>
      have made : session.Keeps (session.onSystem (File.new service)).2 :=
        (File.calm_new service session.system).sameQueues
      exact made.trans (keeps_bindFile _ name _)
  | openNew service path args =>
    simp only [actOnFile]
    cases session.services.get? service with
    | none => exact .refl session
    | some service =>
      have opened : session.Keeps (session.onSystem (File.openNew service path args)).2 :=
        (File.calm_openNew service path args session.system).sameQueues
      dsimp only
      split
      next same =>
        rw [same] at opened
        exact opened
      next same =>
        rw [same] at opened
        exact opened.trans (keeps_bindFile _ name _)
  | assign owner =>
    simp only [actOnFile]
    cases session.files.get? name with
    | none => exact .refl session
    | some file =>
      cases session.owners.get? owner with
      | none => exact .refl session
      | some held =>
        exact session.keeps_assignFrom file.implementation owner held
  | moveFrom source =>
    simp only [actOnFile]
    cases session.files.get? name with
    | none => exact .refl session
    | some file =>
      cases session.files.get? source with
      | none => exact .refl session
      | some other =>
        dsimp only
        split
        next => exact .refl session
        next => exact (File.calm_moveFrom file other session.system).sameQueues
  | release owner =>
    simp only [actOnFile]
    cases session.files.get? name with
    | none => exact .refl session
    | some file =>
      have released : session.Keeps
          (session.onSystem fun system => system.release file.implementation).2 :=
        (System.calm_updateState session.system _ _).sameQueues
      exact released.trans (keeps_bindOwner _ owner _)
  | take target =>
    simp only [actOnFile]
    cases session.files.get? name with
    | none => exact .refl session
    | some file =>
      have taken : session.Keeps { session with
          system := (file.take session.system).2.2
          files := session.files.put name (file.take session.system).2.1 } :=
        (file.calm_take session.system).sameQueues
      exact taken.trans (keeps_bindFile _ target _)
  | inquire inquiry =>
    simp only [actOnFile]
    cases session.files.get? name with
    | none => exact .refl session
    | some file => exact session.keeps_onHost _
  | openFile | openRaced | close | cancel | assignRaw | drop | rawIsSet | serviceIs | describe =>
    simp only [actOnFile]
    cases session.files.get? name with
    | none => exact .refl session
    | some file =>
      dsimp only
      first
        | exact .refl session
        | exact (System.calm_openFile session.system file.implementation _ _).sameQueues
        | exact (System.calm_openDuring session.system
            (fun given => given.calm_assign file.implementation _) file.implementation
            _ _).sameQueues
        | exact (System.calm_closeState session.system file.implementation.state).sameQueues
        | exact (System.calm_cancel session.system file.implementation).sameQueues
        | exact (System.calm_assign session.system file.implementation _).sameQueues
        | exact (file.calm_drop session.system).sameQueues

theorem keeps_actOnImplementation (session : Session) (name : Name) (service : ServiceId)
    (action : ImplementationAction) :
    session.Keeps (session.actOnImplementation name service action).2 := by
  cases action with
  | construct => exact (System.calm_construct session.system service).sameQueues
  | moveConstruct source otherService =>
    simp only [actOnImplementation]
    split
    next other otherService _ _ =>
      exact (System.calm_moveConstruct session.system service otherService other).sameQueues
    next => exact .refl session
  | assign owner =>
    simp only [actOnImplementation]
    cases session.implementations.get? name with
    | none => exact .refl session
    | some imp =>
      cases session.owners.get? owner with
      | none => exact .refl session
      | some held => exact session.keeps_assignFrom imp owner held
  | moveAssign source otherService =>
    simp only [actOnImplementation]
    cases session.implementations.get? name with
    | none => exact .refl session
    | some imp =>
      dsimp only
      split
      next other otherService _ _ =>
        split
        next => exact .refl session
        next =>
          exact (System.calm_moveAssign session.system service imp otherService other).sameQueues
      next => exact .refl session
  | size =>
    simp only [actOnImplementation]
    cases session.implementations.get? name with
    | none => exact .refl session
    | some imp => exact session.keeps_onHost _
  | openFile | assignRaw | close | cancel | isOpen | describe | destroy | forget =>
    simp only [actOnImplementation]
    cases session.implementations.get? name with
    | none => exact .refl session
    | some imp =>
      dsimp only
      first
        | exact .refl session
        | exact (System.calm_openFile session.system imp _ _).sameQueues
        | exact (System.calm_closeState session.system imp.state).sameQueues
        | exact (System.calm_cancel session.system imp).sameQueues
        | exact (System.calm_assign session.system imp _).sameQueues
        | exact (System.calm_destroy session.system service imp).sameQueues

theorem keeps_bindResult (session : Session) (name : Name)
    (call : Host → Except FileError Owner × Host) :
    session.Keeps (session.bindResult name call).2 := by
  have called := session.keeps_onHost call
  rw [bindResult]
  split
  next same =>
    rw [same] at called
    exact called
  next same =>
    rw [same] at called
    exact called.trans (keeps_bindOwner _ name _)

theorem keeps_actOnOwner (session : Session) (name : Name) (action : OwnerAction) :
    session.Keeps (session.actOnOwner name action).2 := by
  cases action with
  | new => exact session.keeps_bindOwner name {}
  | openPath path args => exact session.keeps_bindResult name _
  | fromRaw raw => exact session.keeps_bindOwner name _
  | duplicate source =>
    simp only [actOnOwner]
    cases session.owners.get? source with
    | none => exact .refl session
    | some held => exact session.keeps_bindResult name _
  | pipe writer =>
    exact ((session.keeps_onHost Host.pipe).trans (keeps_bindOwner _ name _)).trans
      (keeps_bindOwner _ writer _)
  | release target =>
    simp only [actOnOwner]
    cases session.owners.get? name with
    | none => exact .refl session
    | some owner => exact keeps_bindOwner (session.setOwner name owner.release.2) target _
  | reset source =>
    simp only [actOnOwner]
    cases session.owners.get? name with
    | none => exact .refl session
    | some owner =>
      dsimp only
      cases session.owners.get? source with
      | none => exact .refl session
      | some held =>
        dsimp only
        split <;> exact .refl session
  | drop | close | same | closeCopy | readExact | writeAll | describe | inquire =>
    simp only [actOnOwner]
    cases session.owners.get? name with
    | none => exact .refl session
    | some owner =>
      exact .refl session

theorem keeps_actOnStorage (session : Session) (path : Path) (action : StorageAction) :
    session.Keeps (session.actOnStorage path action).2 := by
  cases action with
  | writeWhole | readWhole | readText | makeDirectory | remove | pathExists =>
    exact .refl session

theorem keeps_act (session : Session) (running : List ContextId) (action : Action) :
    session.Keeps (session.act running action).2 := by
  cases action with
  | context name action => exact session.keeps_actOnContext running name action
  | resetGuard guard => exact session.keeps_resetGuard guard
  | dropGuard guard => exact session.keeps_dropGuard guard
  | service name action => exact session.keeps_actOnService name action
  | file name action => exact session.keeps_actOnFile name action
  | implementation name service action =>
    rw [act]
    cases session.services.get? service with
    | none => exact .refl session
    | some service => exact session.keeps_actOnImplementation name service action
  | owner name action => exact session.keeps_actOnOwner name action
  | storage path action => exact session.keeps_actOnStorage path action
  | releaseGate gate => exact .refl session

end Session

end AsyncFiles.Script
