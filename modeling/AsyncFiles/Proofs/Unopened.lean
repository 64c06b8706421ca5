import AsyncFiles.Script.Session

namespace AsyncFiles

open Access Error Host Time

namespace FileHandle

def refused {α : Type} (host : Host) : Except FileError α × Host := (.error .badDescriptor, host)

/-- Every call but closing is refused, except for loops that have nothing to move. -/
structure Refuses (handle : FileHandle) (host : Host) : Prop where
  size : handle.size host = refused host
  setSize (size : Nat) : handle.setSize size host = refused host
  position : handle.position host = refused host
  seek (origin : Origin) (offset : Int) : handle.seek origin offset host = refused host
  permissions : handle.permissions host = refused host
  setPermissions (perms : FilePerms) (change : Change) :
    handle.setPermissions perms change host = refused host
  attributes : handle.attributes host = refused host
  setAttributes (attrs : FileAttrs) (change : Change) :
    handle.setAttributes attrs change host = refused host
  times : handle.times host = refused host
  setTimes (times : FileTimes) : handle.setTimes times host = refused host
  readSome (buffers : List Bytes) (offset : Option Nat) :
    handle.readSome buffers offset host = (.error .badDescriptor, buffers, host)
  writeSome (buffers : List Bytes) (offset : Option Nat) :
    handle.writeSome buffers offset host = refused host
  readExact (buffer : Bytes) : handle.readExact buffer host =
    (if buffer = [] then .ok () else .error .badDescriptor, buffer, host)
  writeAll (data : Bytes) : handle.writeAll data host =
    (if data = [] then .ok () else .error .badDescriptor, host)
  readAll : handle.readAll host = refused host
  duplicate : handle.duplicate host = refused host

section

variable {handle : FileHandle} (shut : handle.isOpen = false) (host : Host)

include shut

theorem stat_unopened : handle.stat host = refused host := by
  simp [stat, shut, refused]

theorem statWith_unopened {α : Type} (view : Inode → α) :
    handle.statWith view host = refused host := by
  rw [statWith, stat_unopened shut host]
  rfl

theorem readSome_unopened (buffers : List Bytes) (offset : Option Nat) :
    handle.readSome buffers offset host = (.error .badDescriptor, buffers, host) := by
  simp [readSome, shut]

theorem writeSome_unopened (buffers : List Bytes) (offset : Option Nat) :
    handle.writeSome buffers offset host = refused host := by
  simp [writeSome, shut, refused]

theorem readExact_unopened (buffer : Bytes) : handle.readExact buffer host =
    (if buffer = [] then .ok () else .error .badDescriptor, buffer, host) := by
  cases buffer with
  | nil => rfl
  | cons first rest => simp [readExact, fill, readSome_unopened shut host]

theorem writeAll_unopened (data : Bytes) : handle.writeAll data host =
    (if data = [] then .ok () else .error .badDescriptor, host) := by
  cases data with
  | nil => rfl
  | cons first rest => simp [writeAll, drain, writeSome_unopened shut host, refused]

theorem refuses_unopened : handle.Refuses host where
  size := statWith_unopened shut host _
  setSize size := by simp [setSize, shut, refused]
  position := by simp [position, seek, shut, refused]
  seek origin offset := by simp [seek, shut, refused]
  permissions := statWith_unopened shut host _
  setPermissions perms change := by simp [setPermissions, shut, refused]
  attributes := statWith_unopened shut host _
  setAttributes attrs change := by simp [setAttributes, shut, refused]
  times := statWith_unopened shut host _
  setTimes times := by simp [setTimes, shut, refused]
  readSome := readSome_unopened shut host
  writeSome := writeSome_unopened shut host
  readExact := readExact_unopened shut host
  writeAll := writeAll_unopened shut host
  readAll := by
    rw [readAll, size, statWith_unopened shut host]
    rfl
  duplicate := by simp [duplicate, shut, refused]

end

end FileHandle

theorem System.cancel_unopened {Handler : Type} {system : System Handler} {imp : Implementation}
    (shut : (system.handleOf imp).isOpen = false) :
    system.cancel imp = (.error .badDescriptor, system) := by
  simp [System.cancel, shut]

namespace Script

def Reply.error? : Reply → Option FileError
  | .result (.error error) | .transferred (.error error) _ | .filled (.error error) _ => some error
  | _ => none

namespace Session

def RefusedBy (session : Session) (outcome : Reply × Session) : Prop :=
  outcome.1.error? = some .badDescriptor ∧ outcome.2 = session

theorem inquire_unopened {handle : FileHandle} (shut : handle.isOpen = false) {inquiry : Inquiry}
    (asks : inquiry ≠ .isOpen) (host : Host) :
    (inquire handle inquiry host).1.error? = some .badDescriptor ∧
      (inquire handle inquiry host).2 = host := by
  have refuses := FileHandle.refuses_unopened shut host
  cases inquiry
  case isOpen => exact absurd rfl asks
  all_goals
    simp [inquire, refuses.size, refuses.position, refuses.setSize, refuses.seek,
      refuses.permissions, refuses.setPermissions, refuses.attributes, refuses.setAttributes,
      refuses.times, refuses.setTimes, refuses.readSome, refuses.writeSome, refuses.readAll,
      FileHandle.refused, Reply.error?, Reply.ofNumber, Reply.ofUnit, Except.map]

variable {session : Session}

theorem onHost_same {α : Type} {call : Host → α × Host}
    (same : (call session.system.host).2 = session.system.host) :
    session.onHost call = ((call session.system.host).1, session) := by
  simp only [onHost, System.onHost, same]

theorem refusedBy_inquire {handle : FileHandle} (shut : handle.isOpen = false) {inquiry : Inquiry}
    (asks : inquiry ≠ .isOpen) : session.RefusedBy (session.onHost (inquire handle inquiry)) := by
  obtain ⟨reports, same⟩ := inquire_unopened shut asks session.system.host
  rw [onHost_same same]
  exact ⟨reports, rfl⟩

end Session

/-- What is asked of a handle that is not open is refused and nothing happens, through the handle,
through an implementation of a service and through a file object. Only the loops end well where they
have no bytes to move. -/
theorem unopened_refused (handle : FileHandle) (host : Host) (session : Session) :
    (handle.isOpen = false → handle.Refuses host) ∧
    (∀ imp : Implementation, (session.system.handleOf imp).isOpen = false →
      session.system.cancel imp = (.error .badDescriptor, session.system) ∧
      ∀ inquiry, inquiry ≠ .isOpen → session.RefusedBy
        (session.onHost (Session.inquire (session.system.handleOf imp) inquiry))) ∧
    (∀ (running : List ContextId) (name : Name) (file : File),
      session.files.get? name = some file → (file.handle session.system).isOpen = false →
      session.RefusedBy (session.act running (.file name .cancel)) ∧
      ∀ inquiry, inquiry ≠ .isOpen →
        session.RefusedBy (session.act running (.file name (.inquire inquiry)))) := by
  refine ⟨fun shut => FileHandle.refuses_unopened shut host, ?_, ?_⟩
  · intro imp shut
    exact ⟨System.cancel_unopened shut, fun inquiry asks => Session.refusedBy_inquire shut asks⟩
  · intro running name file found shut
    constructor
    · have cancelled : session.system.cancel file.implementation =
          (.error .badDescriptor, session.system) := System.cancel_unopened shut
      simp only [Session.act, Session.actOnFile, found, Session.onSystem, cancelled]
      exact ⟨rfl, rfl⟩
    · intro inquiry asks
      simp only [Session.act, Session.actOnFile, found]
      exact Session.refusedBy_inquire shut asks

def shutFile : Session where
  system := { host := .fresh default, states := [{}] }
  files := ⟨[("f", { service := 0, implementation := ⟨⟨1, 1⟩, 0, 0⟩ })]⟩

/-- Writing no buffers to it at the largest offset of all is refused. -/
theorem refused_shutFile :
    FileHandle.closed.duplicate (.fresh default) = FileHandle.refused (.fresh default) ∧
    shutFile.system.cancel ⟨⟨1, 1⟩, 0, 0⟩ = (.error .badDescriptor, shutFile.system) ∧
    shutFile.RefusedBy
      (shutFile.act [] (.file "f" (.inquire (.write [] (some 0xffffffffffffffff))))) := by
  obtain ⟨handles, implementations, files⟩ :=
    unopened_refused FileHandle.closed (.fresh default) shutFile
  have shut : (shutFile.system.handleOf ⟨⟨1, 1⟩, 0, 0⟩).isOpen = false := by decide
  refine ⟨(handles rfl).duplicate, (implementations _ shut).1, ?_⟩
  refine (files [] "f" ⟨0, ⟨⟨1, 1⟩, 0, 0⟩⟩ rfl shut).2 _ ?_
  intro same
  cases same

/-- With no bytes to move the loops do not notice that nothing is open. -/
theorem moves_nothing_unopened :
    FileHandle.closed.isOpen = false ∧
    (FileHandle.closed.readExact [] (.fresh default)).1 = .ok () ∧
    (FileHandle.closed.writeAll [] (.fresh default)).1 = .ok () :=
  ⟨rfl, rfl, rfl⟩

end Script

end AsyncFiles
