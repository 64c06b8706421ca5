import AsyncFiles.Access.Attrs
import AsyncFiles.Access.OpenFlags
import AsyncFiles.Access.Perms

/-!
What the host is asked for when a file is opened. Flags that name several dispositions and refused
attributes give no request; the check comes before the host is called.
-/
namespace AsyncFiles.Access

inductive AccessMode
  | readOnly
  | writeOnly
  | readWrite
  deriving DecidableEq

namespace AccessMode

/-- The mode that flags ask for; flags without access read. -/
def ofFlags (flags : OpenFlags) : AccessMode :=
  if flags.contains OpenFlags.accessReadWrite then .readWrite
  else if flags.contains OpenFlags.accessWrite then .writeOnly
  else .readOnly

def canRead : AccessMode → Bool
  | .writeOnly => false
  | _ => true

def canWrite : AccessMode → Bool
  | .readOnly => false
  | _ => true

def native : AccessMode → Nat
  | .readOnly => 0
  | .writeOnly => 1
  | .readWrite => 2

end AccessMode

structure OpenRequest where
  access : AccessMode
  create : Bool := false
  exclusive : Bool := false
  truncate : Bool := false
  mode : FilePerms
  attrs : FileAttrs
  deriving DecidableEq

namespace OpenRequest

/-- The request that flags with at most one disposition stand for. Attributes that the host does
not store are dropped. -/
def ofFlags (flags : OpenFlags) (perms : FilePerms) (attrs : FileAttrs) : OpenRequest :=
  let choice := flags.disposition
  { access := .ofFlags flags
    create := choice = OpenFlags.createNew || choice = OpenFlags.createAlways ||
      choice = OpenFlags.openAlways
    exclusive := choice = OpenFlags.createNew
    truncate := choice = OpenFlags.createAlways || choice = OpenFlags.truncateExisting
    mode := perms.inter FilePerms.mask
    attrs := attrs.inter FileAttrs.hostSupported }

/-- The host's flag word: 64 creates, 128 refuses an existing file, 512 truncates. -/
def nativeFlags (request : OpenRequest) : Nat :=
  request.access.native + (if request.create then 64 else 0) +
    (if request.exclusive then 128 else 0) + (if request.truncate then 512 else 0)

end OpenRequest

inductive OpenArgs
  | invalid
  | valid (request : OpenRequest)
  deriving DecidableEq

namespace OpenArgs

instance : Inhabited OpenArgs := ⟨.invalid⟩

def new (flags : OpenFlags) (perms : FilePerms) (attrs : FileAttrs) : OpenArgs :=
  if flags.isValid && !attrs.intersects FileAttrs.hostRejected then
    .valid (OpenRequest.ofFlags flags perms attrs)
  else
    .invalid

def isValid : OpenArgs → Bool
  | .invalid => false
  | .valid _ => true

def nativeFlags : OpenArgs → Int
  | .invalid => -1
  | .valid request => request.nativeFlags

def mode : OpenArgs → FilePerms
  | .invalid => FilePerms.none
  | .valid request => request.mode

def attrs : OpenArgs → FileAttrs
  | .invalid => FileAttrs.none
  | .valid request => request.attrs

def describe (args : OpenArgs) : String :=
  "OpenArgs \x7b native_flags: " ++ toString args.nativeFlags ++ ", mode: " ++
    toString args.mode.word.toNat ++ ", attrs: " ++ args.attrs.describe ++ " \x7d"

end OpenArgs

end AsyncFiles.Access
