import AsyncFiles.File
import AsyncFiles.Script.Reply

/-!
The state of a script: the services and the host, and what the names stand for. Giving a name to a
new object ends the object that had it, after the new one exists. A command on an unknown name does
nothing.
-/
namespace AsyncFiles.Script

open Access Error Host Time

structure Session where
  system : System Handler
  contexts : Names ContextId := {}
  services : Names ServiceId := {}
  files : Names File := {}
  implementations : Names Implementation := {}
  owners : Names Owner := {}
  guards : Names (Option ContextId) := {}
  gates : List Name := []
  log : List Entry := []

namespace Session

def fresh (host : Host) : Session := { system := { host } }

def note (session : Session) (entry : Entry) : Session :=
  { session with log := session.log ++ [entry] }

def filler : UInt8 := 0xee

def fillers (count : Nat) : Bytes := List.replicate count filler

def onHost {α : Type} (session : Session) (call : Host → α × Host) : α × Session :=
  let (result, system) := session.system.onHost call
  (result, { session with system })

def onSystem {α : Type} (session : Session) (call : System Handler → α × System Handler) :
    α × Session :=
  let (result, system) := call session.system
  (result, { session with system })

def changeSystem (session : Session) (change : System Handler → System Handler) : Session :=
  { session with system := change session.system }

def bindOwner (session : Session) (name : Name) (owner : Owner) : Session :=
  let earlier := session.owners.get? name
  let session := { session with owners := session.owners.put name owner }
  match earlier with
  | none => session
  | some earlier => (session.onHost fun host => ((), earlier.drop host)).2

def bindFile (session : Session) (name : Name) (file : File) : Session :=
  let earlier := session.files.get? name
  let session := { session with files := session.files.put name file }
  match earlier with
  | none => session
  | some earlier => session.changeSystem earlier.drop

def bindService (session : Session) (name : Name) (service : ServiceId) : Session :=
  let earlier := session.services.get? name
  let session := { session with services := session.services.put name service }
  match earlier with
  | none => session
  | some earlier => session.changeSystem fun system => system.dropReference earlier

/-- Ends the guard that had the name; only one that still has its context finishes work. -/
def endGuard (session : Session) (guarded : Option (Option ContextId)) : Session :=
  match guarded.join with
  | none => session
  | some context => session.changeSystem fun system => system.workFinished context

def bindGuard (session : Session) (name : Name) (guarded : Option ContextId) : Session :=
  let earlier := session.guards.get? name
  { session with guards := session.guards.put name guarded }.endGuard earlier

def inquire (handle : FileHandle) (inquiry : Inquiry) (host : Host) : Reply × Host :=
  match inquiry with
  | .isOpen => (.flag handle.isOpen, host)
  | .size =>
    let (result, host) := handle.size host
    (.ofNumber result, host)
  | .position =>
    let (result, host) := handle.position host
    (.ofNumber result, host)
  | .setSize size =>
    let (result, host) := handle.setSize size host
    (.ofUnit result, host)
  | .seek origin offset =>
    let (result, host) := handle.seek origin offset host
    (.ofNumber result, host)
  | .permissions =>
    let (result, host) := handle.permissions host
    (.ofNumber (result.map fun perms => perms.word.toNat), host)
  | .setPermissions perms change =>
    let (result, host) := handle.setPermissions perms change host
    (.ofUnit result, host)
  | .attributes =>
    let (result, host) := handle.attributes host
    (.ofNumber (result.map fun attrs => attrs.word.toNat), host)
  | .setAttributes attrs change =>
    let (result, host) := handle.setAttributes attrs change host
    (.ofUnit result, host)
  | .times =>
    let (result, host) := handle.times host
    (.result (result.map .times), host)
  | .setTimes times =>
    let (result, host) := handle.setTimes times host
    (.ofUnit result, host)
  | .read sizes offset =>
    let (result, buffers, host) := handle.readSome (sizes.map fillers) offset host
    (.transferred result buffers, host)
  | .write buffers offset =>
    let (result, host) := handle.writeSome buffers offset host
    (.ofNumber result, host)
  | .readAll =>
    let (result, host) := handle.readAll host
    (.result (result.map .bytes), host)

def actOnContext (session : Session) (running : List ContextId) (name : Name) :
    ContextAction → Reply × Session
  | .new =>
    let (context, session) := session.onSystem fun system => system.newContext
    (.nothing, { session with contexts := session.contexts.put name context })
  | action =>
    match session.contexts.get? name with
    | none => (.nothing, session)
    | some context =>
      match action with
      | .new => (.nothing, session)
      | .clone copy => (.nothing, { session with contexts := session.contexts.put copy context })
      | .workStarted => (.nothing, session.changeSystem fun system => system.workStarted context)
      | .workFinished => (.nothing, session.changeSystem fun system => system.workFinished context)
      | .stop =>
        (.nothing, session.changeSystem fun system => system.updateContext context Context.stop)
      | .restart =>
        (.nothing, session.changeSystem fun system => system.updateContext context Context.restart)
      | .inside => (.flag (running.contains context), session)
      | .state =>
        let found := (session.system.context? context).getD {}
        (.contextState found.outstanding found.stopped (running.contains context)
          (found.describe context .hidden), session)
      | .guard guard =>
        let session := session.changeSystem fun system => system.workStarted context
        (.text (Context.describeGuard (some context) .hidden),
          session.bindGuard guard (some context))

def resetGuard (session : Session) (guard : Name) : Reply × Session :=
  match session.guards.get? guard with
  | none => (.nothing, session)
  | some guarded =>
    (.guardReset guarded.isSome false (Context.describeGuard none .hidden),
      session.bindGuard guard none)

def dropGuard (session : Session) (guard : Name) : Session :=
  { session with guards := session.guards.erase guard }.endGuard (session.guards.get? guard)

def summary (report : RegistryReport) : RegistrySummary where
  size := report.size
  isEmpty := report.entries.isEmpty
  openCount := report.openCount
  table := report.render default .hidden
  tableAgain := report.render .table .hidden
  compact := report.render .compact .hidden

def actOnService (session : Session) (name : Name) : ServiceAction → Reply × Session
  | .new context config =>
    match session.contexts.get? context with
    | none => (.nothing, session)
    | some context =>
      match session.system.startService context config with
      | .error (.misused misuse) => (.panicked misuse.message, session)
      | .error (.refused error) => (.result (.error (.ofPool error)), session)
      | .ok (service, system) =>
        (.result (.ok (.config config)), { session with system }.bindService name service)
  | action =>
    match session.services.get? name with
    | none => (.nothing, session)
    | some service =>
      match action with
      | .new _ _ => (.nothing, session)
      | .clone copy =>
        let session := session.changeSystem fun system => system.retain service
        (.nothing, session.bindService copy service)
      | .drop =>
        let session := { session with services := session.services.erase name }
        (.nothing, session.changeSystem fun system => system.dropReference service)
      | .shutdown => (.nothing, session.changeSystem fun system => system.shutdown service)
      | .shutdownReleasing =>
        let session := session.changeSystem fun system => system.shutdown service
        (.closing (session.system.isShutDown service) (session.system.report service).openCount,
          { session with gates := [] })
      | .same other => (.flag (session.services.get? other = some service), session)
      | .sameContext context =>
        let bound := (session.system.service? service).map Service.context
        (.flag (bound.isSome && session.contexts.get? context = bound), session)
      | .isShutDown => (.flag (session.system.isShutDown service), session)
      | .live => (.number (session.system.live service), session)
      | .settle => (.nothing, session)
      | .describe => (.text (session.system.describeService service .hidden), session)
      | .registry => (.registry (summary (session.system.report service)), session)

def actOnFile (session : Session) (name : Name) : FileAction → Reply × Session
  | .new service =>
    match session.services.get? service with
    | none => (.nothing, session)
    | some service =>
      let (file, session) := session.onSystem (File.new service)
      (.nothing, session.bindFile name file)
  | .openNew service path args =>
    match session.services.get? service with
    | none => (.nothing, session)
    | some service =>
      match session.onSystem (File.openNew service path args) with
      | (.error error, session) => (.result (.error error), session)
      | (.ok file, session) => (.result (.ok .nothing), session.bindFile name file)
  | action =>
    match session.files.get? name with
    | none => (.nothing, session)
    | some file =>
      let imp := file.implementation
      match action with
      | .new _ | .openNew _ _ _ => (.nothing, session)
      | .openFile path args =>
        let (result, session) := session.onSystem fun system => system.openFile imp path args
        (.ofUnit result, session)
      | .openRaced path args rival =>
        let (result, session) := session.onSystem fun system =>
          system.openDuring (fun system => (system.assign imp ⟨rival⟩).2) imp path args
        (.ofUnit result, session)
      | .close =>
        let (result, session) := session.onSystem fun system => system.close imp
        (.ofUnit result, session)
      | .cancel =>
        let (result, session) := session.onSystem fun system => system.cancel imp
        (.ofUnit result, session)
      | .assign owner =>
        match session.owners.get? owner with
        | none => (.nothing, session)
        | some held =>
          match session.onSystem fun system => system.assign imp held.handle with
          | (.error error, session) => (.result (.error error), session)
          | (.ok (), session) =>
            (.result (.ok .nothing),
              { session with owners := session.owners.put owner held.release.2 })
      | .assignRaw raw =>
        let (result, session) := session.onSystem fun system => system.assign imp ⟨raw⟩
        (.ofUnit result, session)
      | .release owner =>
        let (handle, session) := session.onSystem fun system => system.release imp
        (.flag handle.isOpen, session.bindOwner owner ⟨handle⟩)
      | .take target =>
        let ((taken, rest), session) := session.onSystem fun system =>
          let (taken, rest, system) := file.take system
          ((taken, rest), system)
        let session := { session with files := session.files.put name rest }
        (.nothing, session.bindFile target taken)
      | .moveFrom source =>
        match session.files.get? source with
        | none => (.nothing, session)
        | some other =>
          if source = name then (.nothing, session)
          else
            let ((target, rest), session) := session.onSystem fun system =>
              let (target, rest, system) := file.moveFrom other system
              ((target, rest), system)
            (.nothing, { session with files := (session.files.put name target).put source rest })
      | .drop =>
        let session := { session with files := session.files.erase name }
        (.nothing, session.changeSystem file.drop)
      | .rawIsSet =>
        let handle := file.handle session.system
        (.flags (handle.raw ≠ -1) handle.isOpen, session)
      | .serviceIs service => (.flag (session.services.get? service = some file.service), session)
      | .describe => (.text (file.describe session.system .hidden), session)
      | .inquire inquiry => session.onHost (inquire (file.handle session.system) inquiry)

def actOnImplementation (session : Session) (name : Name) (service : ServiceId) :
    ImplementationAction → Reply × Session
  | .construct =>
    let (imp, session) := session.onSystem fun system => system.construct service
    (.text (imp.describe (session.system.handleOf imp) .hidden),
      { session with implementations := session.implementations.put name imp })
  | .moveConstruct source otherService =>
    match session.implementations.get? source, session.services.get? otherService with
    | some other, some otherService =>
      let ((made, rest), session) := session.onSystem fun system =>
        let (made, rest, system) := system.moveConstruct service otherService other
        ((made, rest), system)
      (.nothing, { session with
        implementations := (session.implementations.put source rest).put name made })
    | _, _ => (.nothing, session)
  | action =>
    match session.implementations.get? name with
    | none => (.nothing, session)
    | some imp =>
      match action with
      | .construct | .moveConstruct _ _ => (.nothing, session)
      | .openFile path args =>
        let (result, session) := session.onSystem fun system => system.openFile imp path args
        (.ofUnit result, session)
      | .assign owner =>
        match session.owners.get? owner with
        | none => (.nothing, session)
        | some held =>
          match session.onSystem fun system => system.assign imp held.handle with
          | (.error error, session) => (.result (.error error), session)
          | (.ok (), session) =>
            (.result (.ok .nothing),
              { session with owners := session.owners.put owner held.release.2 })
      | .assignRaw raw =>
        let (result, session) := session.onSystem fun system => system.assign imp ⟨raw⟩
        (.ofUnit result, session)
      | .close =>
        let (result, session) := session.onSystem fun system => system.close imp
        (.ofUnit result, session)
      | .cancel =>
        let (result, session) := session.onSystem fun system => system.cancel imp
        (.ofUnit result, session)
      | .size => session.onHost (inquire (session.system.handleOf imp) .size)
      | .isOpen =>
        let isOpen := (session.system.handleOf imp).isOpen
        (.flags isOpen isOpen, session)
      | .describe =>
        (.texts imp.key.describe (imp.describe (session.system.handleOf imp) .hidden), session)
      | .moveAssign source otherService =>
        match session.implementations.get? source, session.services.get? otherService with
        | some other, some otherService =>
          if source = name then (.nothing, session)
          else
            let ((target, rest), session) := session.onSystem fun system =>
              let (target, rest, system) := system.moveAssign service imp otherService other
              ((target, rest), system)
            (.nothing, { session with
              implementations := (session.implementations.put source rest).put name target })
        | _, _ => (.nothing, session)
      | .destroy =>
        let session := { session with implementations := session.implementations.erase name }
        (.nothing, session.changeSystem fun system => system.destroy service imp)
      | .forget =>
        (.nothing, { session with implementations := session.implementations.erase name })

def bindResult (session : Session) (name : Name)
    (call : Host → Except FileError Owner × Host) : Reply × Session :=
  match session.onHost call with
  | (.error error, session) => (.result (.error error), session)
  | (.ok owner, session) => (.result (.ok .nothing), session.bindOwner name owner)

def setOwner (session : Session) (name : Name) (owner : Owner) : Session :=
  { session with owners := session.owners.put name owner }

def actOnOwner (session : Session) (name : Name) : OwnerAction → Reply × Session
  | .new => (.result (.ok .nothing), session.bindOwner name {})
  | .openPath path args => session.bindResult name (Owner.openPath path args)
  | .fromRaw raw => (.result (.ok .nothing), session.bindOwner name ⟨⟨raw⟩⟩)
  | .duplicate source =>
    match session.owners.get? source with
    | none => (.nothing, session)
    | some held => session.bindResult name (Owner.duplicate held.handle)
  | .pipe writer =>
    let ((reading, writing), session) := session.onHost Host.pipe
    (.nothing, (session.bindOwner name ⟨⟨reading⟩⟩).bindOwner writer ⟨⟨writing⟩⟩)
  | action =>
    match session.owners.get? name with
    | none => (.nothing, session)
    | some owner =>
      match action with
      | .new | .openPath _ _ | .fromRaw _ | .duplicate _ | .pipe _ => (.nothing, session)
      | .drop =>
        let session := { session with owners := session.owners.erase name }
        (.nothing, (session.onHost fun host => ((), owner.drop host)).2)
      | .reset source =>
        match session.owners.get? source with
        | none => (.nothing, session)
        | some held =>
          let (handle, emptied) := held.release
          let target := if source = name then emptied else owner
          let ((result, target), session) := session.onHost fun host =>
            let (result, target, host) := target.reset handle host
            ((result, target), host)
          match result with
          | .ok () =>
            (.ofUnit result, (session.setOwner source emptied).setOwner name target)
          | .error _ => (.ofUnit result, (session.setOwner name target).setOwner source held)
      | .close =>
        let ((result, owner), session) := session.onHost fun host =>
          let (result, owner, host) := owner.close host
          ((result, owner), host)
        (.ofUnit result, session.setOwner name owner)
      | .release target =>
        let (handle, emptied) := owner.release
        (.flag handle.isOpen, (session.setOwner name emptied).bindOwner target ⟨handle⟩)
      | .same other =>
        (.flag ((session.owners.get? other).map Owner.handle = some owner.handle), session)
      | .closeCopy =>
        let (result, session) := session.onHost owner.handle.close
        (.copyClosed result FileHandle.closed.isOpen owner.handle.isOpen, session)
      | .readExact count =>
        let ((result, buffer), session) := session.onHost fun host =>
          let (result, buffer, host) := owner.handle.readExact (fillers count) host
          ((result, buffer), host)
        (.filled result buffer, session)
      | .writeAll data =>
        let (result, session) := session.onHost (owner.handle.writeAll data)
        (.ofUnit result, session)
      | .describe => (.text (owner.describe .hidden), session)
      | .inquire inquiry => session.onHost (inquire owner.handle inquiry)

def actOnStorage (session : Session) (path : Path) : StorageAction → Reply × Session
  | .writeWhole data =>
    let (result, session) := session.onHost (WholeFile.writeFile path data)
    (.ofUnit result, session)
  | .readWhole =>
    let (result, session) := session.onHost (WholeFile.readFile path)
    (.result (result.map .bytes), session)
  | .readText =>
    let (result, session) := session.onHost (WholeFile.readText path)
    (.result (result.map .text), session)
  | .pathExists => (.flag (session.system.host.pathExists path), session)
  | .makeDirectory =>
    let (made, session) := session.onHost fun host => host.makeDirectory path
    (.flag made, session)
  | .remove =>
    let (removed, session) := session.onHost fun host => host.remove path
    (.flag removed, session)

def act (session : Session) (running : List ContextId) : Action → Reply × Session
  | .context name action => session.actOnContext running name action
  | .resetGuard guard => session.resetGuard guard
  | .dropGuard guard => (.nothing, session.dropGuard guard)
  | .service name action => session.actOnService name action
  | .file name action => session.actOnFile name action
  | .implementation name service action =>
    match session.services.get? service with
    | none => (.nothing, session)
    | some service => session.actOnImplementation name service action
  | .owner name action => session.actOnOwner name action
  | .storage path action => session.actOnStorage path action
  | .releaseGate gate =>
    (.nothing, { session with gates := session.gates.filter fun closed => closed ≠ gate })

end Session

end AsyncFiles.Script
