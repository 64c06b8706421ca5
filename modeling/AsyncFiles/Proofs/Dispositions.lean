import AsyncFiles.Proofs.Descriptors.Opening
import AsyncFiles.Proofs.Passing.Positional
import AsyncFiles.Proofs.WholeFiles.RoundTrip

namespace AsyncFiles

open Access Error Host

namespace Access.OpenFlags

def Conflicting (flags : OpenFlags) : Prop :=
  ∃ first ∈ dispositions, ∃ second ∈ dispositions,
    first ≠ second ∧ flags.contains first = true ∧ flags.contains second = true

instance (flags : OpenFlags) : Decidable flags.Conflicting :=
  inferInstanceAs (Decidable (∃ first ∈ dispositions, ∃ second ∈ dispositions,
    first ≠ second ∧ flags.contains first = true ∧ flags.contains second = true))

def reads (flags : OpenFlags) : Bool :=
  flags.contains accessRead || !flags.contains accessWrite

def writes (flags : OpenFlags) : Bool := flags.contains accessWrite

theorem exists_fin (flags : OpenFlags) : ∃ word : Fin 128, flags = .ofWord (.ofNat word) := by
  have small : flags.word.toNat < 128 := by
    rw [← flags.within, UInt32.toNat_and]
    exact Nat.lt_of_le_of_lt Nat.and_le_right (by decide)
  refine ⟨⟨flags.word.toNat, small⟩, ?_⟩
  simp only [UInt32.ofNat_toNat, Bits.ofWord_word]

theorem isValid_iff (flags : OpenFlags) : flags.isValid = true ↔ ¬flags.Conflicting := by
  obtain ⟨word, rfl⟩ := flags.exists_fin
  revert word
  decide +kernel

end Access.OpenFlags

structure Opening where
  path : Path
  flags : OpenFlags
  perms : FilePerms
  attrs : FileAttrs

namespace Host

/-- A further descriptor stands for a further open file, and the others stand as they did. -/
structure Adds (host later : Host) (raw : Int) (file : OpenFile) : Prop where
  opens : host.Opens later raw
  stands : ∀ other index, host.descriptor? other = some index →
    later.descriptor? other = some index
  openFiles : later.openFiles = host.openFiles ++ [file]

structure Untouched (host later : Host) : Prop where
  unmoved : host.Unmoved later
  descriptors : later.descriptors = host.descriptors
  openFiles : later.openFiles = host.openFiles

variable {host base later : Host} {raw : Int} {number index : Nat} {file : OpenFile}
  {content : Content}

theorem Untouched.trans (first : host.Untouched base) (second : base.Untouched later) :
    host.Untouched later where
  unmoved := first.unmoved.trans second.unmoved
  descriptors := second.descriptors.trans first.descriptors
  openFiles := second.openFiles.trans first.openFiles

end Host

/-- What can be done through a handle that stands at the beginning of a file. Where the host refuses
nothing, transfers fail exactly for want of access; reading also ends with the file. -/
structure FileHandle.Permits (handle : FileHandle) (host : Host) (reads writes : Bool) : Prop where
  reading : reads = true → host.Obliging → ∀ buffers, Buffers.capacity buffers ≤ maxOffset →
    (∃ count, (handle.readSome buffers none host).1 = .ok count) ∨
      (handle.readSome buffers none host).1 = .error .endOfFile
  unreadable : reads = false → ∀ buffers,
    (handle.readSome buffers none host).1 = .error (.ofErrno .badDescriptor)
  writing : writes = true → host.Obliging → ∀ buffers, Buffers.capacity buffers ≤ maxOffset →
    ∃ count, (handle.writeSome buffers none host).1 = .ok count
  unwritable : writes = false → ∀ buffers,
    (handle.writeSome buffers none host).1 = .error (.ofErrno .badDescriptor)

namespace Opening

def args (opening : Opening) : OpenArgs := .new opening.flags opening.perms opening.attrs

def run (opening : Opening) (host : Host) : Except FileError Owner × Host :=
  Owner.openPath opening.path opening.args host

def Rejected (opening : Opening) (host : Host) : Prop :=
  ∃ error, opening.run host = (.error error, host) ∧
    error.kind = .invalidArgument ∧ error.path = some opening.path

def file (opening : Opening) (number : Nat) : OpenFile :=
  { inode := number, readable := opening.flags.reads, writable := opening.flags.writes }

/-- An owner was given that stands at the beginning of the regular file that the path names now. -/
structure Gives (opening : Opening) (host later : Host) (owner : Owner) (number : Nat)
    (content : Content) : Prop where
  onFile : later.OnFile owner.handle.raw (opening.file number) content
  permits : owner.handle.Permits later opening.flags.reads opening.flags.writes
  named : later.lookup opening.path = .ok number
  adds : host.Adds later owner.handle.raw (opening.file number)

def Keeps (opening : Opening) (host : Host) (number : Nat) (content : Content) : Prop :=
  ∃ owner later, opening.run host = (.ok owner, later) ∧
    opening.Gives host later owner number content ∧ later.inodes = host.inodes

/-- A file was emptied and opened; no other file was touched. -/
def Empties (opening : Opening) (host : Host) (number : Nat) : Prop :=
  ∃ owner later, opening.run host = (.ok owner, later) ∧
    opening.Gives host later owner number .empty ∧
    ∀ other, other ≠ number → later.inodes[other]? = host.inodes[other]?

variable {opening : Opening} {host base : Host} {number : Nat} {content : Content}

def request (opening : Opening) : OpenRequest :=
  .ofFlags opening.flags opening.perms opening.attrs

theorem args_eq (opening : Opening) :
    opening.args =
      if opening.flags.Conflicting ∨ opening.attrs.intersects FileAttrs.hostRejected = true then
        .invalid
      else .valid opening.request := by
  have valid := opening.flags.isValid_iff
  by_cases conflicting : opening.flags.Conflicting <;>
    cases rejected : opening.attrs.intersects FileAttrs.hostRejected <;>
      simp_all [args, OpenArgs.new, request]

section

variable {choice : OpenFlags} (chosen : opening.flags.disposition = choice)

include chosen

end

section

variable (single : ¬opening.flags.Conflicting)
  (supported : opening.attrs.intersects FileAttrs.hostRejected = false)
  (plain : opening.path.hasNul = false)

include single supported plain

theorem run_eq (host : Host) :
    opening.run host =
      match host.openPath opening.path opening.request with
      | (.ok raw, later) => (.ok ⟨⟨raw⟩⟩, later)
      | (.error errno, later) =>
        (.error ((FileError.ofErrno errno).withPath opening.path), later) := by
  have valid : opening.args = .valid opening.request := by
    simp [args_eq, single, supported]
  simp only [run, valid, Owner.openPath, FileHandle.openPath, plain]
  cases host.openPath opening.path opening.request with
  | mk result later => cases result <;> rfl

section

variable (named : host.lookup opening.path = .ok number)
  (regular : host.node? number = some (.regular content))

include named regular

end

section

variable {directory parent : Nat} {entries : List (FileName × Nat)} {name : FileName}
  (placed : host.place opening.path = .ok (.named directory entries parent name))

include placed

section

variable (absent : findEntry entries name = .ok none)

include absent

end

end

end

end Opening

end AsyncFiles
