import AsyncFiles.Service.Lifetime
import AsyncFiles.Service.Report
import AsyncFiles.Service.Submission

namespace AsyncFiles

open Access Error Host

structure File where
  service : ServiceId
  implementation : Implementation
  deriving DecidableEq

namespace File

variable {Handler : Type}

def new (service : ServiceId) (system : System Handler) : File × System Handler :=
  let (implementation, system) := system.construct service
  ({ service, implementation }, system.retain service)

/-- The end of a file object: it is destroyed first, then its reference is given back. -/
def drop (file : File) (system : System Handler) : System Handler :=
  (system.destroy file.service file.implementation).dropReference file.service

def openNew (service : ServiceId) (path : Path) (args : OpenArgs) (system : System Handler) :
    Except FileError File × System Handler :=
  let (file, system) := new service system
  match system.openFile file.implementation path args with
  | (.ok (), system) => (.ok file, system)
  | (.error error, system) => (.error error, file.drop system)

/-- A new object that takes over the file and its pending operations; then this one after it. -/
def take (file : File) (system : System Handler) : File × File × System Handler :=
  let (moved, rest, system) :=
    system.moveConstruct file.service file.service file.implementation
  ({ service := file.service, implementation := moved }, { file with implementation := rest },
    system.retain file.service)

/-- Closes this file and takes over the other's, with the other's service. Yields both. -/
def moveFrom (file other : File) (system : System Handler) : File × File × System Handler :=
  let (target, source, system) :=
    system.moveAssign file.service file.implementation other.service other.implementation
  let system :=
    if file.service = other.service then system
    else (system.retain other.service).dropReference file.service
  ({ service := other.service, implementation := target },
    { other with implementation := source }, system)

def handle (file : File) (system : System Handler) : FileHandle :=
  system.handleOf file.implementation

def describe (file : File) (system : System Handler) (numbering : Numbering) : String :=
  "BasicFile \x7b id: " ++ file.implementation.key.describe ++ ", handle: " ++
    (file.handle system).describe numbering ++ " \x7d"

end File

end AsyncFiles
