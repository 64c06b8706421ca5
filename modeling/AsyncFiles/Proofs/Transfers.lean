import AsyncFiles.Service.Submission

namespace AsyncFiles

open Access Error Host

namespace Host

structure Kept (host later : Host) : Prop where
  descriptors : later.descriptors = host.descriptors
  calls : later.calls = host.calls

theorem Kept.refl (host : Host) : host.Kept host := ⟨rfl, rfl⟩

theorem Kept.trans {host middle later : Host} (first : host.Kept middle)
    (second : middle.Kept later) : host.Kept later :=
  ⟨second.descriptors.trans first.descriptors, second.calls.trans first.calls⟩

theorem kept_takeGrant (host : Host) : host.Kept host.takeGrant.2 := by
  simp only [takeGrant]
  split
  next => exact .refl host
  next => exact ⟨rfl, rfl⟩

theorem kept_resizedBy (host : Host) (grant : Grant) (inode : Nat) :
    host.Kept (host.resizedBy grant inode) := by
  simp only [resizedBy]
  split
  next =>
    split
    next => exact ⟨rfl, rfl⟩
    next => exact .refl host
  next => exact .refl host

theorem kept_granted (host : Host) (inode : Nat) :
    host.Kept (host.takeGrant.2.resizedBy host.takeGrant.1 inode) :=
  host.kept_takeGrant.trans (kept_resizedBy _ _ inode)

theorem kept_read (host : Host) (raw : Int) (count : Nat) (offset : Option Nat) :
    (host.note (.read raw count offset)).Kept (host.read raw count offset).2 := by
  simp only [read]
  split
  next => exact .refl _
  next index file inode _ =>
    split
    next => exact .refl _
    next =>
      split
      next => exact .refl _
      next =>
        split
        next => exact .refl _
        next =>
          split
          next => exact .refl _
          next =>
            have granted := (host.note (.read raw count offset)).kept_granted file.inode
            split
            next => exact granted
            next => exact granted
            next =>
              split
              next => exact granted
              next =>
                apply granted.trans
                dsimp only
                split
                all_goals exact ⟨rfl, rfl⟩

theorem kept_write (host : Host) (raw : Int) (data : Bytes) (offset : Option Nat) :
    (host.note (.write raw data offset)).Kept (host.write raw data offset).2 := by
  simp only [write]
  split
  next => exact .refl _
  next index file inode _ =>
    split
    next => exact .refl _
    next =>
      split
      next => exact .refl _
      next =>
        split
        next => exact .refl _
        next =>
          split
          next => exact .refl _
          next =>
            have granted := (host.note (.write raw data offset)).kept_granted file.inode
            split
            next => exact granted
            next => exact granted
            next =>
              split
              next => exact granted
              next =>
                apply granted.trans
                dsimp only
                split
                all_goals exact ⟨rfl, rfl⟩

theorem kept_stallReading {host later : Host} {raw : Int} {count : Nat} {call : Stalled}
    (stalled : host.stallReading? raw count = some (call, later)) :
    (host.note (.read raw count none)).Kept later := by
  simp only [stallReading?] at stalled
  split at stalled <;> try contradiction
  split at stalled <;> try contradiction
  split at stalled <;> try contradiction
  simp only [Option.some.injEq, Prod.mk.injEq] at stalled
  rw [← stalled.2]
  exact ⟨rfl, rfl⟩

theorem kept_stallWriting {host later : Host} {raw : Int} {data : Bytes} {call : Stalled}
    (stalled : host.stallWriting? raw data = some (call, later)) :
    (host.note (.write raw data none)).Kept later := by
  unfold stallWriting? at stalled
  split at stalled <;> try contradiction
  split at stalled <;> try contradiction
  split at stalled <;> try contradiction
  simp only at stalled
  split at stalled <;> try contradiction
  simp only [Option.some.injEq, Prod.mk.injEq] at stalled
  rw [← stalled.2]
  exact ⟨rfl, rfl⟩

theorem kept_resume {host later : Host} {call : Stalled} {progress : Progress}
    (resumed : host.resume? call = some (progress, later)) : host.Kept later := by
  simp only [resume?] at resumed
  split at resumed
  next => cases resumed
  next inode pipe _ =>
    cases call with
    | reading file count =>
      simp only at resumed
      split at resumed
      next => cases resumed
      next =>
        cases resumed
        exact ⟨rfl, rfl⟩
    | writing file rest sent =>
      simp only at resumed
      split at resumed
      next =>
        cases resumed
        exact ⟨rfl, rfl⟩
      next =>
        split at resumed
        next => cases resumed
        next =>
          split at resumed
          next =>
            cases resumed
            exact ⟨rfl, rfl⟩
          next =>
            cases resumed
            exact ⟨rfl, rfl⟩

end Host

namespace Request

/-- What a transfer does to the host: it is one call, or it never reaches the host and fails with an
error of its own. -/
inductive Reaches (host : Host) (attempt : Attempt) (later : Host) : Prop
  | called (call : Call) (transfers : ∀ raw, call ≠ .close raw) (kept : (host.note call).Kept later)
  | refused (error : FileError) (buffers : List Bytes)
    (result : attempt = .finished (.error error) buffers) (other : error ≠ .aborted)
    (same : later = host)

theorem checkOffset_error {offset : Option Nat} {error : FileError}
    (beyond : FileHandle.checkOffset offset = .error error) : error = FileHandle.tooFar := by
  simp only [FileHandle.checkOffset] at beyond
  split at beyond
  next =>
    cases beyond
    rfl
  next => cases beyond

theorem tooFar_ne_aborted : FileHandle.tooFar ≠ FileError.aborted := by
  intro same
  have kinds := congrArg FileError.kind same
  cases kinds

theorem reaches_read (handle : FileHandle) (buffers : List Bytes) (offset : Option Nat)
    (host : Host) :
    Reaches host (.finished (handle.readSome buffers offset host).1
      (handle.readSome buffers offset host).2.1) (handle.readSome buffers offset host).2.2 := by
  simp only [FileHandle.readSome]
  split
  next => exact .refused .badDescriptor buffers rfl (by decide) rfl
  next =>
    split
    next error beyond =>
      exact .refused error buffers rfl (checkOffset_error beyond ▸ tooFar_ne_aborted) rfl
    next =>
      have kept := host.kept_read handle.raw (Buffers.capacity buffers) offset
      split
      all_goals
        next same =>
          rw [same] at kept
          exact .called _ (fun raw same => by cases same) kept

theorem reaches_write (handle : FileHandle) (buffers : List Bytes) (offset : Option Nat)
    (host : Host) :
    Reaches host (.finished (handle.writeSome buffers offset host).1 buffers)
      (handle.writeSome buffers offset host).2 := by
  simp only [FileHandle.writeSome]
  split
  next => exact .refused .badDescriptor buffers rfl (by decide) rfl
  next =>
    split
    next error beyond =>
      exact .refused error buffers rfl (checkOffset_error beyond ▸ tooFar_ne_aborted) rfl
    next =>
      exact .called _ (fun raw same => by cases same)
        (host.kept_write handle.raw (Buffers.gather buffers) offset)

theorem reaches_perform (request : Request) (handle : FileHandle) (buffers : List Bytes)
    (host : Host) :
    Reaches host (.finished (request.perform handle buffers host).1
      (request.perform handle buffers host).2.1) (request.perform handle buffers host).2.2 := by
  simp only [perform]
  split
  next => exact reaches_read handle buffers request.offset host
  next => exact reaches_write handle buffers request.offset host

theorem reaches_attempt (request : Request) (handle : FileHandle) (buffers : List Bytes)
    (host : Host) :
    Reaches host (request.attempt handle buffers host).1
      (request.attempt handle buffers host).2 := by
  simp only [attempt]
  split
  next call later stalled =>
    simp only [stall?] at stalled
    split at stalled
    next => exact .called _ (fun raw same => by cases same) (kept_stallReading stalled)
    next => exact .called _ (fun raw same => by cases same) (kept_stallWriting stalled)
    next => cases stalled
  next => exact request.reaches_perform handle buffers host

end Request

end AsyncFiles
