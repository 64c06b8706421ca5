import AsyncFiles.Proofs.InOrder.Alike

namespace AsyncFiles

open Access Error Host

namespace Request

variable {host other : Host} {request : Request} {handle : FileHandle} {buffers : List Bytes}

def reaches (request : Request) (handle : FileHandle) : Bool :=
  handle.isOpen && (FileHandle.checkOffset request.offset).toBool

theorem perform_refused (refused : request.reaches handle = false) (buffers : List Bytes) :
    ∃ error, error ≠ FileError.aborted ∧
      ∀ host, request.perform handle buffers host = (.error error, buffers, host) := by
  by_cases isOpen : handle.isOpen = true
  · cases checked : FileHandle.checkOffset request.offset with
    | ok => simp [reaches, isOpen, checked, Except.toBool] at refused
    | error error =>
      refine ⟨error, checkOffset_error checked ▸ tooFar_ne_aborted, fun host => ?_⟩
      cases direction : request.direction with
      | read => simp [perform, direction, FileHandle.readSome, isOpen, checked]
      | write => simp [perform, direction, FileHandle.writeSome, isOpen, checked]
  · refine ⟨.badDescriptor, by decide, fun host => ?_⟩
    cases direction : request.direction with
    | read => simp [perform, direction, FileHandle.readSome, isOpen]
    | write => simp [perform, direction, FileHandle.writeSome, isOpen]

/-- What a read comes to, from what the host gave. -/
def taken (buffers : List Bytes) : Except Errno Bytes → Except FileError Nat × List Bytes
  | .error errno => (.error (.ofErrno errno), buffers)
  | .ok data => FileHandle.received buffers data

theorem perform_read (reaches : request.reaches handle = true) (reads : request.direction = .read)
    (buffers : List Bytes) (host : Host) :
    let outcome := host.read handle.raw (Buffers.capacity buffers) request.offset
    request.perform handle buffers host =
      ((taken buffers outcome.1).1, (taken buffers outcome.1).2, outcome.2) := by
  simp only [Request.reaches, Bool.and_eq_true] at reaches
  cases checked : FileHandle.checkOffset request.offset with
  | error error => simp [checked, Except.toBool] at reaches
  | ok =>
    simp only [perform, reads, FileHandle.readSome, reaches.1, checked, Bool.not_true,
      Bool.false_eq_true, if_false]
    split
    next read => rw [read]; rfl
    next read => rw [read]; rfl

theorem perform_write (reaches : request.reaches handle = true)
    (writes : request.direction = .write) (buffers : List Bytes) (host : Host) :
    let outcome := host.write handle.raw (Buffers.gather buffers) request.offset
    request.perform handle buffers host = (FileHandle.lift outcome.1, buffers, outcome.2) := by
  simp only [Request.reaches, Bool.and_eq_true] at reaches
  cases checked : FileHandle.checkOffset request.offset with
  | error error => simp [checked, Except.toBool] at reaches
  | ok => simp [perform, writes, FileHandle.writeSome, FileHandle.lifted, reaches.1, checked]

theorem perform_shut (reaches : request.reaches handle = true)
    (shut : host.descriptor? handle.raw = none) (buffers : List Bytes) :
    (request.perform handle buffers host).1 = .error (.ofErrno .badDescriptor) ∧
      (request.perform handle buffers host).2.1 = buffers ∧
        host.Alike (request.perform handle buffers host).2.2 := by
  have missing (call : Host.Call) :
      (host.note call).resolve handle.raw = .error .badDescriptor := by
    simp only [resolve, show (host.note call).descriptor? handle.raw = none from shut]
  cases direction : request.direction with
  | read =>
    rw [perform_read reaches direction, Host.read, missing]
    exact ⟨rfl, rfl, rfl, rfl, rfl, rfl⟩
  | write =>
    rw [perform_write reaches direction, Host.write, missing]
    exact ⟨rfl, rfl, rfl, rfl, rfl, rfl⟩

theorem perform_alike (alike : host.Alike other)
    (descriptor : other.descriptor? handle.raw = host.descriptor? handle.raw)
    (ends : host.SameEnds other) (request : Request) (buffers : List Bytes) :
    (request.perform handle buffers other).1 = (request.perform handle buffers host).1 ∧
      (request.perform handle buffers other).2.1 = (request.perform handle buffers host).2.1 ∧
        (request.perform handle buffers host).2.2.Alike
          (request.perform handle buffers other).2.2 := by
  cases reaches : request.reaches handle with
  | false =>
    obtain ⟨error, _, refused⟩ := perform_refused reaches buffers
    rw [refused, refused]
    exact ⟨rfl, rfl, alike⟩
  | true =>
    cases direction : request.direction with
    | read =>
      obtain ⟨same, later⟩ :=
        alike.read descriptor ends (Buffers.capacity buffers) request.offset
      rw [perform_read reaches direction, perform_read reaches direction, same]
      exact ⟨rfl, rfl, later⟩
    | write =>
      obtain ⟨same, later⟩ :=
        alike.write descriptor ends (Buffers.gather buffers) request.offset
      rw [perform_write reaches direction, perform_write reaches direction, same]
      exact ⟨rfl, rfl, later⟩

theorem sameKinds_perform (request : Request) (handle : FileHandle) (buffers : List Bytes)
    (host : Host) : host.SameKinds (request.perform handle buffers host).2.2 := by
  cases reaches : request.reaches handle with
  | false =>
    obtain ⟨error, _, refused⟩ := perform_refused reaches buffers
    rw [refused]
    exact .refl host
  | true =>
    cases direction : request.direction with
    | read =>
      rw [perform_read reaches direction]
      exact host.sameKinds_read ..
    | write =>
      rw [perform_write reaches direction]
      exact host.sameKinds_write ..

theorem ofErrno_ne_aborted (errno : Errno) : FileError.ofErrno errno ≠ .aborted := by
  intro same
  cases congrArg FileError.fault same

/-- No transfer reports what is reported of an operation that never started. -/
theorem perform_ne_aborted (request : Request) (handle : FileHandle) (buffers : List Bytes)
    (host : Host) : (request.perform handle buffers host).1 ≠ .error .aborted := by
  cases reaches : request.reaches handle with
  | false =>
    obtain ⟨error, other, refused⟩ := perform_refused reaches buffers
    rw [refused]
    exact fun same => other (Except.error.inj same)
  | true =>
    cases direction : request.direction with
    | read =>
      rw [perform_read reaches direction]
      cases (host.read handle.raw (Buffers.capacity buffers) request.offset).1 with
      | error errno => exact fun same => ofErrno_ne_aborted errno (Except.error.inj same)
      | ok data =>
        simp only [taken, FileHandle.received]
        split
        · exact fun same => absurd (Except.error.inj same) (by decide)
        · simp
    | write =>
      rw [perform_write reaches direction]
      cases (host.write handle.raw (Buffers.gather buffers) request.offset).1 with
      | error errno => exact fun same => ofErrno_ne_aborted errno (Except.error.inj same)
      | ok count => simp [FileHandle.lift, Except.mapError]

end Request

end AsyncFiles
