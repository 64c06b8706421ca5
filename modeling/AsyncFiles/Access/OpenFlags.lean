import AsyncFiles.Access.Bits

namespace AsyncFiles.Access

abbrev OpenFlags := Bits 0x7f

namespace OpenFlags

def none : OpenFlags := .empty
def accessRead : OpenFlags := .ofWord 1
def accessWrite : OpenFlags := .ofWord 2
def accessReadWrite : OpenFlags := .ofWord 3
def createNew : OpenFlags := .ofWord 4
def createAlways : OpenFlags := .ofWord 8
def openExisting : OpenFlags := .ofWord 16
def openAlways : OpenFlags := .ofWord 32
def truncateExisting : OpenFlags := .ofWord 64
def accessMask : OpenFlags := .ofWord 3
def dispositionMask : OpenFlags := .ofWord 0x7c

def flagNames : List (String × OpenFlags) :=
  [("ACCESS_READ", accessRead), ("ACCESS_WRITE", accessWrite), ("CREATE_NEW", createNew),
    ("CREATE_ALWAYS", createAlways), ("OPEN_EXISTING", openExisting),
    ("OPEN_ALWAYS", openAlways), ("TRUNCATE_EXISTING", truncateExisting)]

def constants : List (String × OpenFlags) :=
  flagNames ++ [("NONE", none), ("ACCESS_READ_WRITE", accessReadWrite),
    ("ACCESS_MASK", accessMask), ("DISPOSITION_MASK", dispositionMask)]

def dispositions : List OpenFlags :=
  [createNew, createAlways, openExisting, openAlways, truncateExisting]

def disposition (flags : OpenFlags) : OpenFlags := flags.inter dispositionMask

def isValid (flags : OpenFlags) : Bool :=
  (dispositions.filter fun choice => flags.contains choice).length ≤ 1

def describe (flags : OpenFlags) : String := Bits.describe "OpenFlags" flagNames flags

end OpenFlags

end AsyncFiles.Access
